import SqlBuilder.Proofs.Rendering.Faults
import SqlBuilder.Statement.Step

namespace SqlBuilder

open Fragment

theorem Fragment.defects_listClause (keyword : String) (items : List Fragment) :
    (listClause keyword items).defects = items.flatMap defects := by
  cases items <;> simp [listClause]

theorem Fragment.defects_clause (keyword : String) (f : Fragment)
    (unmarked : f.isBlank = true → f.defects = []) : (clause keyword f).defects = f.defects := by
  unfold clause
  split
  · rename_i blank
    rw [unmarked blank, defects_nil]
  · rw [defects_cons_text]

theorem Fragment.isBlank_of_isBlank_join {separator : String} {fragments : List Fragment}
    (blank : (join separator fragments).isBlank = true) : ∀ f ∈ fragments, f.isBlank = true := by
  unfold join at blank
  induction fragments with
  | nil => simp
  | cons f fragments ih =>
      cases fragments with
      | nil => simpa using blank
      | cons g fragments =>
          simp only [List.intercalate_cons_cons, isBlank_append, Bool.and_eq_true] at blank
          intro h member
          rcases List.mem_cons.mp member with rfl | member
          · exact blank.1.1
          · exact ih blank.2 h member

theorem defects_templateFragment (cs : List Char) (vs : List Value) :
    (templateFragment cs vs).defects = [] := by
  induction cs generalizing vs with
  | nil => rfl
  | cons c cs ih =>
      cases vs with
      | nil => rfl
      | cons v vs =>
          unfold templateFragment
          split <;> simp [ih]

theorem Expr.defects_of_isBlank (e : Expr) (blank : e.fragment.isBlank = true) :
    e.fragment.defects = [] := by
  cases e <;> simp_all [Expr.fragment, Defect.sql]

mutual

theorem Condition.defects_of_isBlank : (c : Condition) → c.fragment.isBlank = true →
    c.fragment.defects = []
  | .conjunction members, blank => by
      rw [Condition.fragment] at blank ⊢
      rw [defects_join]
      exact Condition.memberDefects_of_isBlank members (isBlank_of_isBlank_join blank)
  | .disjunction members, blank => by
      rw [Condition.fragment] at blank ⊢
      rw [defects_join]
      exact Condition.memberDefects_of_isBlank members (isBlank_of_isBlank_join blank)
  | .negation operand, blank => by
      by_cases inner : operand.fragment.isBlank = true
      · simpa [Condition.fragment, inner] using Condition.defects_of_isBlank operand inner
      · simp [Condition.fragment, inner] at blank
  | .truth operand, blank => operand.defects_of_isBlank blank
  | .template sql values, _ => defects_templateFragment sql.toList values
  | .neutral, _ => rfl
  | .constant _, _ => rfl
  | .comparison left operator right, blank => by simp [Condition.fragment] at blank
  | .pattern subject ignoreCase negated sought, blank => by simp [Condition.fragment] at blank
  | .nullCheck operand negated, blank => by cases negated <;> simp [Condition.fragment] at blank
  | .inList operand negated values, blank => by simp [Condition.fragment] at blank
  | .inSelect operand negated select, blank => by simp [Condition.fragment] at blank
  | .range operand kind low high, blank => by simp [Condition.fragment] at blank
  | .existence negated select, blank => by simp [Condition.fragment] at blank

theorem Condition.memberDefects_of_isBlank : (cs : List Condition) →
    (∀ f ∈ Condition.memberFragments cs, f.isBlank = true) →
    (Condition.memberFragments cs).flatMap defects = []
  | [], _ => rfl
  | c :: cs, blank => by
      rw [Condition.memberFragments] at blank ⊢
      split at blank
      · simp_all [Condition.memberDefects_of_isBlank cs]
      · have first := blank _ List.mem_cons_self
        have rest := Condition.memberDefects_of_isBlank cs
          fun f member => blank f (List.mem_cons_of_mem _ member)
        split at first
        · simp at first
        · simp_all [Condition.defects_of_isBlank c first]

end

theorem Condition.memberFragments_of_allNeutral {cs : List Condition}
    (absent : Condition.allNeutral cs = true) : Condition.memberFragments cs = [] := by
  rw [Condition.allNeutral_eq_all, List.all_eq_true] at absent
  rw [Condition.memberFragments_eq_map, List.map_eq_nil_iff, List.filter_eq_nil_iff]
  simpa using absent

theorem Condition.defects_of_isNeutral : (c : Condition) → c.isNeutral = true →
    c.fragment.defects = []
  | .neutral, _ => rfl
  | .conjunction members, absent => by
      rw [Condition.fragment, Condition.memberFragments_of_allNeutral absent]
      rfl
  | .disjunction members, absent => by
      rw [Condition.fragment, Condition.memberFragments_of_allNeutral absent]
      rfl
  | .negation operand, absent => by
      have inner := Condition.defects_of_isNeutral operand absent
      rw [Condition.fragment]
      split <;> simp [inner]

theorem Expr.defects_armFragment (arms : List (Expr × Value)) :
    (Expr.armFragment arms).defects = arms.flatMap fun arm => arm.1.fragment.defects := by
  induction arms with
  | nil => rfl
  | cons arm arms ih =>
      obtain ⟨key, value⟩ := arm
      simp [Expr.armFragment, ih]

theorem Select.defects_orderFragments (items : List (Expr × SortOrder)) :
    (Select.orderFragments items).flatMap defects =
      items.flatMap fun item => item.1.fragment.defects := by
  induction items with
  | nil => rfl
  | cons item items ih =>
      obtain ⟨key, order⟩ := item
      simp [Select.orderFragments, ih]

theorem Condition.defects_memberFragments (cs : List Condition) :
    (Condition.memberFragments cs).flatMap defects = cs.flatMap fun c => c.fragment.defects := by
  induction cs with
  | nil => rfl
  | cons c cs ih =>
      rw [Condition.memberFragments, List.flatMap_cons, ← ih]
      split
      · rename_i absent
        rw [Condition.defects_of_isNeutral _ absent, List.nil_append]
      · rw [List.flatMap_cons]
        split <;> simp

theorem Condition.defects_standalone (c : Condition) :
    c.standalone.defects = c.fragment.defects := by
  unfold Condition.standalone
  split
  · rename_i absent
    rw [Condition.defects_of_isNeutral _ absent]
    rfl
  · rfl

namespace Term

def fragment : Term → Fragment
  | .expr e => e.fragment
  | .condition c => c.fragment
  | .select s => s.fragment

theorem defects_fragment_parts (t : Term) :
    t.fragment.defects = t.ownDefects ++ t.parts.flatMap fun part => part.fragment.defects := by
  cases t with
  | expr e =>
      cases e <;>
        simp [fragment, Expr.fragment, ownDefects, parts, Expr.defects_armFragment,
          List.flatMap_map]
  | condition c =>
      cases c with
      | conjunction members =>
          rw [fragment, Condition.fragment, defects_join, Condition.defects_memberFragments]
          simp [ownDefects, parts, List.flatMap_map, fragment]
      | disjunction members =>
          rw [fragment, Condition.fragment, defects_join, Condition.defects_memberFragments]
          simp [ownDefects, parts, List.flatMap_map, fragment]
      | negation operand =>
          rw [fragment, Condition.fragment]
          split <;> simp [ownDefects, parts, fragment]
      | template sql values =>
          rw [fragment, Condition.fragment, defects_templateFragment]
          rfl
      | _ => simp [fragment, Condition.fragment, ownDefects, parts, List.flatMap_map]
  | select s =>
      obtain ⟨columns, table, c, orderBy, limit⟩ := s
      -- A WHERE clause may be left out, but then nothing in it is marked.
      have filter := defects_clause " WHERE " c.fragment c.defects_of_isBlank
      cases columns <;> cases table <;> cases limit <;>
        simp [fragment, Select.fragment, ownDefects, parts, filter, defects_listClause,
          Select.defects_orderFragments, List.flatMap_map]

theorem defects_fragment (t : Term) : t.fragment.defects = t.visited := by
  have parts : t.parts.flatMap (fun part => part.fragment.defects) = t.parts.flatMap visited :=
    List.flatMap_congr fun part member => defects_fragment part
  rw [defects_fragment_parts, parts, ← visited_eq]
termination_by sizeOf t
decreasing_by exact sizeOf_lt_of_mem_parts member

theorem head?_defects (t : Term) : t.fragment.defects.head? = t.defect? := by
  rw [defects_fragment, head?_visited]

end Term

theorem Expr.head?_defects (e : Expr) : e.fragment.defects.head? = e.defect? :=
  (Term.expr e).head?_defects

theorem Condition.head?_defects (c : Condition) : c.fragment.defects.head? = c.defect? :=
  (Term.condition c).head?_defects

theorem Select.head?_defects (s : Select) : s.fragment.defects.head? = s.defect? :=
  (Term.select s).head?_defects

theorem Condition.defect?_of_isNeutral {c : Condition} (absent : c.isNeutral = true) :
    c.defect? = none := by
  rw [← c.head?_defects, c.defects_of_isNeutral absent, List.head?_nil]

theorem Expr.defects_eq_nil {e : Expr} (sound : e.defect? = none) : e.fragment.defects = [] := by
  rwa [← List.head?_eq_none_iff, e.head?_defects]

theorem Condition.defects_eq_nil {c : Condition} (sound : c.defect? = none) :
    c.fragment.defects = [] := by
  rwa [← List.head?_eq_none_iff, c.head?_defects]

theorem Expr.defect?_of_columnName? {e : Expr} {name : Segment}
    (column : e.columnName? = some name) :
    e.defect? = none := by
  cases e with
  | column path => rfl
  | _ => simp [Expr.columnName?] at column

theorem Assignment.defect?_eq_none_iff (a : Assignment) :
    a.defect? = none ↔ (∃ name, a.target.columnName? = some name) ∧ a.value.defect? = none := by
  unfold Assignment.defect?
  rw [Option.orElse_eq_none, Option.orElse_eq_none]
  cases column : a.target.columnName? with
  | none => simp
  | some name => simp [Expr.defect?_of_columnName? column]

theorem Assignments.defect?_eq_none_iff (as : Assignments) :
    as.defect? = none ↔ ∀ a ∈ as.toList, a.defect? = none := by
  rw [Assignments.defect?, SetList.defect?, List.findSome?_eq_none_iff]

theorem Expr.conflictDefect?_eq_none_iff (e : Expr) :
    e.conflictDefect? = none ↔ ∃ name, e.columnName? = some name := by
  unfold Expr.conflictDefect?
  rw [Option.orElse_eq_none]
  cases column : e.columnName? with
  | none => simp
  | some name => simp [Expr.defect?_of_columnName? column]

theorem Conflict.defect?_eq_none_iff (c : Conflict) :
    c.defect? = none ↔ (∀ e ∈ c.target, e.conflictDefect? = none) ∧ c.actionDefect? = none := by
  rw [Conflict.defect?, Option.orElse_eq_none, List.findSome?_eq_none_iff]

theorem Insert.defect?_eq_none_iff (i : Insert) :
    i.defect? = none ↔ (∀ row ∈ i.rows, row.defect? = none) ∧ Insert.shapeDefect? i.rows = none ∧
      (∀ conflict, i.conflict = some conflict → conflict.defect? = none) ∧
      ∀ e ∈ i.returning, e.defect? = none := by
  rw [Insert.defect?, Option.orElse_eq_none, Option.orElse_eq_none, Option.orElse_eq_none,
    List.findSome?_eq_none_iff, List.findSome?_eq_none_iff, Option.bind_eq_none_iff]

theorem Update.defect?_eq_none_iff (u : Update) :
    u.defect? = none ↔ u.set.defect? = none ∧ u.condition.defect? = none ∧
      ∀ e ∈ u.returning, e.defect? = none := by
  rw [Update.defect?, Option.orElse_eq_none, Option.orElse_eq_none, List.findSome?_eq_none_iff]

end SqlBuilder
