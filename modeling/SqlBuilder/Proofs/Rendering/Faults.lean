import Mathlib.Data.List.Basic
import Mathlib.Data.Option.Basic
import Mathlib.Logic.Relation
import SqlBuilder.Term.Defect

namespace SqlBuilder

inductive Term
  | expr (e : Expr)
  | condition (c : Condition)
  | select (s : Select)

namespace Term

def parts : Term → List Term
  | .expr (.call _ arguments) => arguments.map expr
  | .expr (.binary left _ right) => [.expr left, .expr right]
  | .expr (.complement operand) => [.expr operand]
  | .expr (.caseOf subject arms) => .expr subject :: arms.map fun arm => .expr arm.1
  | .expr (.subquery s) => [.select s]
  | .expr (.quantified _ s) => [.select s]
  | .condition (.conjunction members) => members.map condition
  | .condition (.disjunction members) => members.map condition
  | .condition (.negation operand) => [.condition operand]
  | .condition (.comparison left _ right) => [.expr left, .expr right]
  | .condition (.pattern subject _ _ sought) => [.expr subject, .expr sought]
  | .condition (.nullCheck operand _) => [.expr operand]
  | .condition (.inList operand _ values) => .expr operand :: values.map expr
  | .condition (.inSelect operand _ s) => [.expr operand, .select s]
  | .condition (.range operand _ low high) => [.expr operand, .expr low, .expr high]
  | .condition (.existence _ s) => [.select s]
  | .condition (.truth operand) => [.expr operand]
  | .select ⟨columns, _, c, orderBy, _⟩ =>
      columns.map expr ++ .condition c :: orderBy.map fun item => .expr item.1
  | _ => []

def Within : Term → Term → Prop := Relation.ReflTransGen fun part whole => part ∈ whole.parts

def AtFault : Term → Prop
  | .expr (.rejected _) => True
  | .select s => s.columns = []
  | _ => False

def Faultless (t : Term) : Prop := ∀ u : Term, u.Within t → ¬ u.AtFault

def defect? : Term → Option Defect
  | .expr e => e.defect?
  | .condition c => c.defect?
  | .select s => s.defect?

@[simp] theorem defect?_expr (e : Expr) : (expr e).defect? = e.defect? := rfl

@[simp] theorem defect?_condition (c : Condition) : (condition c).defect? = c.defect? := rfl

@[simp] theorem defect?_select (s : Select) : (select s).defect? = s.defect? := rfl

def ownDefects : Term → List Defect
  | .expr (.rejected cause) => [.rejected cause]
  | .select s => if s.columns.isEmpty then [.selectWithoutColumns] else []
  | _ => []

theorem ownDefects_eq_nil_iff (t : Term) : t.ownDefects = [] ↔ ¬ t.AtFault := by
  unfold ownDefects AtFault
  split <;> simp

theorem eq_of_mem_ownDefects {t : Term} {d : Defect} (member : d ∈ t.ownDefects) :
    (∃ cause, d = .rejected cause) ∨ ∃ s, t = .select s ∧ s.columns = [] := by
  unfold ownDefects at member
  split at member
  · rename_i cause
    exact .inl ⟨cause, List.mem_singleton.mp member⟩
  · rename_i s
    right
    refine ⟨s, rfl, ?_⟩
    by_contra filled
    simp [filled] at member
  · simp at member

theorem findSome?_cons (t : Term) (ts : List Term) :
    (t :: ts).findSome? defect? = (t.defect? <|> ts.findSome? defect?) := by
  cases first : t.defect? <;> simp [first]

theorem defect?_eq_parts (t : Term) :
    t.defect? = (t.ownDefects.head? <|> t.parts.findSome? defect?) := by
  cases t with
  | expr e =>
      cases e <;> simp [ownDefects, parts, Expr.defect?, Expr.firstDefect_eq_findSome?,
        Expr.armDefect_eq_findSome?, findSome?_cons, List.findSome?_map, Function.comp_def]
  | condition c =>
      cases c <;> simp [ownDefects, parts, Condition.defect?, Expr.firstDefect_eq_findSome?,
        Condition.firstDefect_eq_findSome?, findSome?_cons, List.findSome?_map,
        Function.comp_def]
  | select s =>
      obtain ⟨columns, table, c, orderBy, limit⟩ := s
      cases filled : columns.isEmpty with
      | true => simp [ownDefects, Select.defect?, filled]
      | false =>
          simp [ownDefects, parts, Select.defect?, filled, Expr.firstDefect_eq_findSome?,
            Select.orderDefect_eq_findSome?, findSome?_cons, List.findSome?_append,
            List.findSome?_map, Function.comp_def]

theorem sizeOf_lt_of_mem_map {α : Type} [SizeOf α] {f : α → Term} {xs : List α}
    (bound : ∀ x, sizeOf (f x) ≤ 1 + sizeOf x) {part : Term} (member : part ∈ xs.map f) :
    sizeOf part < 1 + sizeOf xs := by
  obtain ⟨x, among, rfl⟩ := List.mem_map.mp member
  have smaller := List.sizeOf_lt_of_mem among
  have size := bound x
  omega

theorem sizeOf_lt_of_mem_parts {part whole : Term} (member : part ∈ whole.parts) :
    sizeOf part < sizeOf whole := by
  have exprs (es : List Expr) : ∀ p ∈ es.map expr, sizeOf p < 1 + sizeOf es :=
    fun p => sizeOf_lt_of_mem_map fun e => by simp
  have conditions (cs : List Condition) : ∀ p ∈ cs.map condition, sizeOf p < 1 + sizeOf cs :=
    fun p => sizeOf_lt_of_mem_map fun c => by simp
  have keys {β : Type} [SizeOf β] (pairs : List (Expr × β)) :
      ∀ p ∈ pairs.map (fun pair => expr pair.1), sizeOf p < 1 + sizeOf pairs :=
    fun p => sizeOf_lt_of_mem_map fun (key, other) => by
      simp only [expr.sizeOf_spec, Prod.mk.sizeOf_spec]
      omega
  cases whole with
  | expr e =>
      cases e <;> grind [parts]
  | condition c =>
      cases c <;> grind [parts]
  | select s =>
      cases s with
      | mk columns table c orderBy limit => grind [parts]

def visited (t : Term) : List Defect :=
  t.ownDefects ++ t.parts.attach.flatMap fun part => visited part.1
termination_by sizeOf t
decreasing_by exact sizeOf_lt_of_mem_parts part.2

theorem visited_eq (t : Term) : t.visited = t.ownDefects ++ t.parts.flatMap visited := by
  rw [visited, List.flatMap_subtype fun part _ => rfl, List.unattach_attach]

theorem head?_visited (t : Term) : t.visited.head? = t.defect? := by
  have parts : (t.parts.flatMap visited).head? = t.parts.findSome? defect? := by
    rw [List.head?_flatMap, ← List.head?_filterMap, ← List.head?_filterMap]
    exact congrArg List.head? (List.filterMap_congr fun part member => head?_visited part)
  rw [visited_eq, List.head?_append, parts, defect?_eq_parts, Option.orElse_eq_orElse,
    Option.orElse_eq_or]
termination_by sizeOf t
decreasing_by exact sizeOf_lt_of_mem_parts member

theorem visited_subset_of_mem_parts {part whole : Term} (member : part ∈ whole.parts) :
    part.visited ⊆ whole.visited := by
  intro d found
  rw [whole.visited_eq]
  exact List.mem_append_right _ (List.mem_flatMap.mpr ⟨part, member, found⟩)

theorem exists_within_of_mem_visited (t : Term) {d : Defect} (member : d ∈ t.visited) :
    ∃ u : Term, u.Within t ∧ d ∈ u.ownDefects := by
  rw [visited_eq] at member
  rcases List.mem_append.mp member with own | inPart
  · exact ⟨t, .refl, own⟩
  · obtain ⟨part, among, found⟩ := List.mem_flatMap.mp inPart
    obtain ⟨u, inside, own⟩ := exists_within_of_mem_visited part found
    exact ⟨u, inside.tail among, own⟩
termination_by sizeOf t
decreasing_by exact sizeOf_lt_of_mem_parts among

theorem mem_visited_iff {t : Term} {d : Defect} :
    d ∈ t.visited ↔ ∃ u : Term, u.Within t ∧ d ∈ u.ownDefects := by
  constructor
  · exact t.exists_within_of_mem_visited
  · rintro ⟨u, inside, own⟩
    induction inside with
    | refl =>
        rw [visited_eq]
        exact List.mem_append_left _ own
    | tail inside member ih => exact visited_subset_of_mem_parts member ih

theorem selectWithoutColumns_mem_visited_iff {t : Term} :
    .selectWithoutColumns ∈ t.visited ↔
      ∃ s : Select, (Term.select s).Within t ∧ s.columns = [] := by
  rw [mem_visited_iff]
  constructor
  · rintro ⟨u, inside, own⟩
    rcases eq_of_mem_ownDefects own with ⟨cause, rejected⟩ | ⟨s, rfl, empty⟩
    · cases rejected
    · exact ⟨s, inside, empty⟩
  · rintro ⟨s, inside, empty⟩
    exact ⟨.select s, inside, by simp [ownDefects, empty]⟩

theorem defect?_eq_none_iff (t : Term) : t.defect? = none ↔ t.Faultless := by
  rw [← head?_visited, List.head?_eq_none_iff, List.eq_nil_iff_forall_not_mem]
  constructor
  · intro unvisited u inside
    rw [← ownDefects_eq_nil_iff, List.eq_nil_iff_forall_not_mem]
    exact fun d own => unvisited d (mem_visited_iff.mpr ⟨u, inside, own⟩)
  · intro faultless d member
    obtain ⟨u, inside, own⟩ := mem_visited_iff.mp member
    rw [u.ownDefects_eq_nil_iff.mpr (faultless u inside)] at own
    exact List.not_mem_nil own

end Term

theorem Expr.defect?_eq_none_iff (e : Expr) : e.defect? = none ↔ (Term.expr e).Faultless :=
  (Term.expr e).defect?_eq_none_iff

theorem Condition.defect?_eq_none_iff (c : Condition) :
    c.defect? = none ↔ (Term.condition c).Faultless :=
  (Term.condition c).defect?_eq_none_iff

theorem Select.defect?_eq_none_iff (s : Select) : s.defect? = none ↔ (Term.select s).Faultless :=
  (Term.select s).defect?_eq_none_iff

end SqlBuilder
