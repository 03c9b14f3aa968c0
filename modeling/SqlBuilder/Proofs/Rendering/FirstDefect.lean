import SqlBuilder.Proofs.Rendering.Defects
import SqlBuilder.Query

namespace SqlBuilder

open Fragment

theorem Fragment.split_at_first_defect {f : Fragment} {d : Defect} {rest : List Defect}
    (marks : f.defects = d :: rest) :
    ∃ before after : Fragment, f = before ++ .defect d :: after ∧ before.defects = [] := by
  induction f with
  | nil => simp at marks
  | cons piece f ih =>
      cases piece with
      | defect e =>
          rw [defects_cons_defect] at marks
          obtain ⟨rfl, -⟩ := List.cons.inj marks
          exact ⟨[], f, rfl, rfl⟩
      | text s =>
          obtain ⟨before, after, rfl, unmarked⟩ := ih marks
          exact ⟨.text s :: before, after, rfl, unmarked⟩
      | slot v =>
          obtain ⟨before, after, rfl, unmarked⟩ := ih marks
          exact ⟨.slot v :: before, after, rfl, unmarked⟩

theorem Fragment.textFrom_around_defect (next : Nat) (before after : Fragment) (d : Defect) :
    textFrom next (before ++ .defect d :: after) =
      before.textFrom next ++ d.sql ++ after.textFrom (next + before.values.length) := by
  rw [textFrom_append, String.append_assoc]
  simp [textFrom, textsFrom]

/-- How validation and rendering of a query answer for the defects inside the term `t`. -/
structure ReportsFirst {α : Type} [Query α] (q : α) (t : Term) : Prop where
  rendered : ∀ ps, Query.render q ps = (Query.fragment q).render ps
  marked : (Query.fragment q).defects = t.visited
  accepted : Query.validate q = .ok () ↔ t.visited = []
  reported : ∀ d rest, t.visited = d :: rest → Query.validate q = .error (.validation d.message)
  uncommented : Query.validate q = .ok () →
    ∀ piece ∈ Query.fragment q, (∃ s, piece = .text s) ∨ ∃ v, piece = .slot v
  /-- The comment is that of the first rejected reference that is written. -/
  leftmost : (∀ s : Select, (Term.select s).Within t → s.columns ≠ []) →
    ∀ d rest, t.visited = d :: rest → ∃ before after : Fragment,
      Query.fragment q = before ++ .defect d :: after ∧ before.defects = [] ∧
      ∀ ps, (Query.render q ps).1 =
        before.textFrom (ps.size + 1) ++ ("/* invalid: " ++ d.message ++ " */") ++
          after.textFrom (ps.size + 1 + before.values.length)

theorem Term.sql_of_mem_visited {t : Term}
    (columns : ∀ s : Select, (Term.select s).Within t → s.columns ≠ []) {d : Defect}
    (member : d ∈ t.visited) : d.sql = "/* invalid: " ++ d.message ++ " */" := by
  obtain ⟨u, inside, own⟩ := Term.mem_visited_iff.mp member
  rcases Term.eq_of_mem_ownDefects own with ⟨cause, rfl⟩ | ⟨s, rfl, empty⟩
  · rfl
  · exact absurd empty (columns s inside)

theorem reportsFirst {α : Type} [Query α] {q : α} {t : Term}
    (marked : (Query.fragment q).defects = t.visited) (first : Query.defect? q = t.defect?) :
    ReportsFirst q t where
  rendered := Query.render_eq q
  marked := marked
  accepted := by
    rw [Query.validate, Defect.check_eq_ok_iff, first, ← t.head?_visited, List.head?_eq_none_iff]
  reported := by
    intro d rest visits
    have found : Query.defect? q = some d := by
      rw [first, ← t.head?_visited, visits, List.head?_cons]
    rw [Query.validate, found]
    rfl
  uncommented := by
    intro valid piece member
    cases piece with
    | text s => exact .inl ⟨s, rfl⟩
    | slot v => exact .inr ⟨v, rfl⟩
    | defect d =>
        rw [Query.validate, Defect.check_eq_ok_iff, first, ← t.head?_visited,
          List.head?_eq_none_iff, ← marked] at valid
        have mark : d ∈ (Query.fragment q).defects :=
          List.mem_filterMap.mpr ⟨.defect d, member, rfl⟩
        rw [valid] at mark
        simp at mark
  leftmost := by
    intro columns d rest visits
    obtain ⟨before, after, written, unmarked⟩ := split_at_first_defect (marked.trans visits)
    refine ⟨before, after, written, unmarked, fun ps => ?_⟩
    have comment := Term.sql_of_mem_visited columns (visits ▸ List.mem_cons_self)
    rw [Query.render_eq, written, textFrom_around_defect, comment]

def misspelled : Rejection := .identifier ⟨.trailingDot, "b."⟩

def misnamed : Condition :=
  .inSelect (.column ⟨[], .quoted "a"⟩) false
    ⟨[.rejected misspelled], none, .nullCheck (.rejected .excludedNeedsColumn) false, [], none⟩

end SqlBuilder
