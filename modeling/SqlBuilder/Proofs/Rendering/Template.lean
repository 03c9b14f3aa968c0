import Mathlib.Data.List.Basic
import SqlBuilder.Term.Write

namespace SqlBuilder.Template

def marksBefore (text : List Char) (position : Nat) : Nat := (text.take position).count '?'

/-- The first `bound` question marks become placeholders, numbered from `next` on. Every other
character stays. -/
def written (bound next : Nat) (text : List Char) (position : Nat) (c : Char) : String :=
  if c = '?' ∧ marksBefore text position < bound then
    placeholder (next + marksBefore text position)
  else c.toString

def substituted (bound next : Nat) (text : List Char) : String :=
  String.join (text.mapIdx (written bound next text))

section Characters

variable (bound next : Nat) (text : List Char)

theorem marksBefore_mark (position : Nat) :
    marksBefore ('?' :: text) (position + 1) = marksBefore text position + 1 := by
  simp [marksBefore]

theorem marksBefore_other {c : Char} (other : c ≠ '?') (position : Nat) :
    marksBefore (c :: text) (position + 1) = marksBefore text position := by
  simp [marksBefore, other]

theorem substituted_copied : substituted 0 next text = String.ofList text := by
  have copied : written 0 next text = fun _ c => c.toString := by
    funext position c
    simp [written]
  rw [substituted, copied]
  clear copied
  induction text with
  | nil => rfl
  | cons c text ih =>
      rw [List.mapIdx_cons, String.join_cons, ih]
      simp

theorem substituted_mark : substituted (bound + 1) next ('?' :: text) =
    placeholder next ++ substituted bound (next + 1) text := by
  have first : written (bound + 1) next ('?' :: text) 0 '?' = placeholder next := by
    simp [written, marksBefore]
  have rest : (fun position => written (bound + 1) next ('?' :: text) (position + 1)) =
      written bound (next + 1) text := by
    funext position c
    simp [written, marksBefore_mark, Nat.add_assoc, Nat.add_comm 1]
  rw [substituted, List.mapIdx_cons, first, rest, String.join_cons, ← substituted]

theorem substituted_other {c : Char} (other : c ≠ '?') :
    substituted bound next (c :: text) = c.toString ++ substituted bound next text := by
  have first : written bound next (c :: text) 0 c = c.toString := by
    simp [written, other]
  have rest : (fun position => written bound next (c :: text) (position + 1)) =
      written bound next text := by
    funext position d
    simp [written, marksBefore_other text other]
  rw [substituted, List.mapIdx_cons, first, rest, String.join_cons, ← substituted]

end Characters

theorem placeholder_unmarked (n : Nat) : '?' ∉ (placeholder n).toList := by
  rw [placeholder, String.toList_append]
  intro member
  rcases List.mem_append.mp member with sign | digit
  · exact absurd sign (by decide)
  · exact absurd (isDigit_of_mem_repr digit) (by decide)

theorem count_substituted (bound next : Nat) (text : List Char) :
    (substituted bound next text).toList.count '?' = text.count '?' - bound := by
  induction text generalizing bound next with
  | nil => simp [substituted]
  | cons c text ih =>
      by_cases mark : c = '?'
      · subst mark
        cases bound with
        | zero => rw [substituted_copied, String.toList_ofList, Nat.sub_zero]
        | succ bound =>
            rw [substituted_mark, String.toList_append, List.count_append, ih,
              List.count_eq_zero_of_not_mem (placeholder_unmarked next), List.count_cons_self]
            omega
      · rw [substituted_other bound next text mark, String.toList_append, List.count_append, ih,
          List.count_cons_of_ne mark]
        simp [mark]

theorem textFrom_fragment (next : Nat) (text : List Char) (values : List Value) :
    (templateFragment text values).textFrom next =
      substituted (min (text.count '?') values.length) next text := by
  induction text generalizing next values with
  | nil => rfl
  | cons c text ih =>
      cases values with
      | nil =>
          rw [List.length_nil, Nat.min_zero, substituted_copied]
          simp [templateFragment, Fragment.textFrom, Fragment.textsFrom]
      | cons v values =>
          by_cases mark : c = '?'
          · subst mark
            rw [List.count_cons_self, List.length_cons, Nat.add_min_add_right, substituted_mark,
              ← ih]
            simp [templateFragment, Fragment.textFrom, Fragment.textsFrom]
          · rw [List.count_cons_of_ne mark, substituted_other _ _ _ mark, ← ih]
            simp [templateFragment, mark, Fragment.textFrom, Fragment.textsFrom]

theorem values_fragment (text : List Char) (values : List Value) :
    (templateFragment text values).values = values.take (min (text.count '?') values.length) := by
  rw [← List.take_eq_take_min]
  induction text generalizing values with
  | nil => simp [templateFragment]
  | cons c text ih =>
      cases values with
      | nil => simp [templateFragment]
      | cons v values =>
          by_cases mark : c = '?'
          · simp [templateFragment, mark, ih]
          · simp [templateFragment, mark, ih]

theorem marks_numbered (sql : String) (values : List Value) (ps : Params) :
    (Condition.template sql values).write ps =
      (substituted (min (sql.toList.count '?') values.length) (ps.size + 1) sql.toList,
        ps.append (values.take (min (sql.toList.count '?') values.length))) ∧
    ((Condition.template sql values).write ps).1.toList.count '?' =
      sql.toList.count '?' - values.length ∧
    (sql.toList.count '?' = values.length →
      ((Condition.template sql values).write ps).2 = ps.append values ∧
      '?' ∉ ((Condition.template sql values).write ps).1.toList) := by
  have result : (Condition.template sql values).write ps =
      (substituted (min (sql.toList.count '?') values.length) (ps.size + 1) sql.toList,
        ps.append (values.take (min (sql.toList.count '?') values.length))) := by
    rw [Condition.write_eq, Condition.fragment, Fragment.render, textFrom_fragment,
      values_fragment]
  have left : ((Condition.template sql values).write ps).1.toList.count '?' =
      sql.toList.count '?' - values.length := by
    rw [result, count_substituted]
    omega
  refine ⟨result, left, ?_⟩
  intro matching
  constructor
  · rw [result, matching, Nat.min_self, List.take_length]
  · rw [← List.count_eq_zero, left, matching, Nat.sub_self]

theorem marks_numbered_afterOne :
    (Condition.template "a = ? OR b ? c" [.int4 7]).write ⟨[.int4 1]⟩ =
      ("a = $2 OR b ? c", ⟨[.int4 1, .int4 7]⟩) ∧
    (Condition.template "b = ? OR c = ?" [.int4 2, .int4 3]).write ⟨[.int4 1]⟩ =
      ("b = $2 OR c = $3", ⟨[.int4 1, .int4 2, .int4 3]⟩) ∧
    '?' ∉ ((Condition.template "b = ? OR c = ?" [.int4 2, .int4 3]).write
      ⟨[.int4 1]⟩).1.toList := by
  obtain ⟨spare, -, -⟩ := marks_numbered "a = ? OR b ? c" [.int4 7] ⟨[.int4 1]⟩
  obtain ⟨even, -, all⟩ := marks_numbered "b = ? OR c = ?" [.int4 2, .int4 3] ⟨[.int4 1]⟩
  exact ⟨spare.trans (Prod.ext (by decide +kernel) rfl),
    even.trans (Prod.ext (by decide +kernel) rfl), (all (by decide +kernel)).2⟩

end SqlBuilder.Template
