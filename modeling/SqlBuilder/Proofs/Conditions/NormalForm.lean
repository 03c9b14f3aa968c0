import SqlBuilder.Proofs.Conditions.Arguments
import SqlBuilder.Proofs.Conditions.Guards
import SqlBuilder.Proofs.Statements.Clauses
import SqlBuilder.Proofs.Statements.Rows

namespace SqlBuilder

def Term.isSelect : Term → Bool
  | .select _ => true
  | _ => false

namespace Condition

/-- A path from part to whole that leads out of no subquery. -/
def Inside (d c : Condition) : Prop :=
  Relation.ReflTransGen (fun part whole : Term => part ∈ whole.parts ∧ whole.isSelect = false)
    (.condition d) (.condition c)

structure NormalForm (c : Condition) : Prop where
  neutral_alone : c = .neutral ∨ ¬ Condition.neutral.Inside c
  conjunction (members : List Condition) (inside : (Condition.conjunction members).Inside c) :
    2 ≤ members.length ∧ ∀ inner, .conjunction inner ∉ members
  disjunction (members : List Condition) (inside : (Condition.disjunction members).Inside c) :
    2 ≤ members.length ∧ ∀ inner, .disjunction inner ∉ members
  negation (operand : Condition) (inside : (Condition.negation operand).Inside c) :
    ∀ inner, operand ≠ .negation inner
  isNeutral_iff : c.isNeutral = true ↔ c = .neutral

inductive FromCalls : Condition → Prop
  | predicate (p : Predicate) : FromCalls p.build
  | neutral : FromCalls .neutral
  | all {cs : List Condition} (made : ∀ c ∈ cs, FromCalls c) : FromCalls (.all cs)
  | any {cs : List Condition} (made : ∀ c ∈ cs, FromCalls c) : FromCalls (.any cs)
  | negate {c : Condition} (made : FromCalls c) : FromCalls c.negate
  | and {a b : Condition} (left : FromCalls a) (right : FromCalls b) : FromCalls (a.and b)
  | andNot {a b : Condition} (left : FromCalls a) (right : FromCalls b) : FromCalls (a.andNot b)
  | andExists {a : Condition} (left : FromCalls a) (s : Select) : FromCalls (a.andExists s)
  | andNotExists {a : Condition} (left : FromCalls a) (s : Select) : FromCalls (a.andNotExists s)
  | or {a b : Condition} (left : FromCalls a) (right : FromCalls b) : FromCalls (a.or b)
  | orNot {a b : Condition} (left : FromCalls a) (right : FromCalls b) : FromCalls (a.orNot b)
  | orExists {a : Condition} (left : FromCalls a) (s : Select) : FromCalls (a.orExists s)
  | orNotExists {a : Condition} (left : FromCalls a) (s : Select) : FromCalls (a.orNotExists s)
  | onlyIf {c : Condition} (made : FromCalls c) (flag : Bool) : FromCalls (.onlyIf flag c)
  | guarded {σ : Type} (g : Guard σ) (s : σ)
      (made : ∀ c t, g.Ends s (some c) t → FromCalls c) : FromCalls ((g.check 0).run (s, [])).1

theorem fromRecipe_existence (negated : Bool) (s : Select) :
    (Condition.existence negated s).FromRecipe :=
  ⟨.leaf _ rfl, rfl⟩

theorem FromRecipe.join {a b : Condition} (k : Connective) (left : a.FromRecipe)
    (right : b.FromRecipe) :
    (k.join [a, b]).FromRecipe := by
  have both : ∀ c ∈ [a, b], c.FromRecipe := by simp [left, right]
  cases k with
  | and => exact fromRecipe_all both
  | or => exact fromRecipe_any both

theorem FromCalls.fromRecipe {c : Condition} (made : c.FromCalls) : c.FromRecipe := by
  induction made with
  | predicate p => exact ⟨.leaf p.build p.isLeaf_build, rfl⟩
  | neutral => exact fromRecipe_neutral
  | all _ ih => exact fromRecipe_all ih
  | any _ ih => exact fromRecipe_any ih
  | negate _ ih => exact ih.negate
  | and _ _ left right => exact left.join .and right
  | andNot _ _ left right => exact left.join .and right.negate
  | andExists _ s left => exact left.join .and (fromRecipe_existence false s)
  | andNotExists _ s left => exact left.join .and (fromRecipe_existence true s)
  | or _ _ left right => exact left.join .or right
  | orNot _ _ left right => exact left.join .or right.negate
  | orExists _ s left => exact left.join .or (fromRecipe_existence false s)
  | orNotExists _ s left => exact left.join .or (fromRecipe_existence true s)
  | onlyIf _ flag ih =>
      cases flag with
      | false => exact fromRecipe_neutral
      | true => exact ih
  | guarded g s _ ih =>
      obtain ⟨outcome, t, ends, ran⟩ := g.check_run 0 s []
      rw [ran]
      cases outcome with
      | none => exact fromRecipe_neutral
      | some c => exact ih c t ends

variable {P : Condition → Prop} {c d : Condition}

theorem parts_of_isLeaf (isLeaf : c.isLeaf = true) : .condition d ∉ (Term.condition c).parts := by
  cases c <;> simp [Term.parts] <;> simp [Condition.isLeaf] at isLeaf

theorem Reduced.of_mem_parts (reduced : c.Reduced P)
    (member : .condition d ∈ (Term.condition c).parts) : d.Reduced P := by
  cases reduced with
  | leaf isLeaf => exact absurd member (parts_of_isLeaf isLeaf)
  | conjunction _ reduced _ => exact reduced d (by simpa [Term.parts] using member)
  | disjunction _ reduced _ => exact reduced d (by simpa [Term.parts] using member)
  | negation reduced _ =>
      obtain rfl : d = _ := by simpa [Term.parts] using member
      exact reduced

theorem exists_of_mem_parts {whole : Term} (member : .condition d ∈ whole.parts)
    (outside : whole.isSelect = false) : ∃ c, whole = .condition c := by
  cases whole with
  | expr e => cases e <;> simp [Term.parts] at member
  | condition c => exact ⟨c, rfl⟩
  | select s => exact absurd outside Bool.noConfusion

theorem Inside.descend {holds : Condition → Prop}
    (handed : ∀ c d, .condition d ∈ (Term.condition c).parts → holds c → holds d)
    (inside : d.Inside c) (start : holds c) : holds d := by
  -- The induction goes outwards: from an expression on, only expressions and selects follow.
  suffices ∀ t : Term, Relation.ReflTransGen
      (fun part whole : Term => part ∈ whole.parts ∧ whole.isSelect = false) (.condition d) t →
      ∃ e, t = .condition e ∧ (holds e → holds d) by
    obtain ⟨e, same, carried⟩ := this (.condition c) inside
    obtain rfl := Term.condition.inj same
    exact carried start
  intro t path
  induction path with
  | refl => exact ⟨d, rfl, id⟩
  | tail _ step ih =>
      obtain ⟨e, rfl, carried⟩ := ih
      obtain ⟨member, outside⟩ := step
      obtain ⟨whole, rfl⟩ := exists_of_mem_parts member outside
      exact ⟨whole, rfl, fun outer => carried (handed whole e member outer)⟩

theorem Reduced.of_inside (reduced : c.Reduced P) (inside : d.Inside c) : d.Reduced P :=
  inside.descend (fun _ _ member outer => outer.of_mem_parts member) reduced

theorem not_reduced_neutral : ¬ Condition.neutral.Reduced P := by
  intro reduced
  exact absurd reduced.isNeutral Bool.noConfusion

theorem Reduced.normalForm (reduced : c.Reduced P) : c.NormalForm := by
  have written : c ≠ .neutral := by
    rintro rfl
    exact not_reduced_neutral reduced
  constructor
  · exact .inr fun inside => not_reduced_neutral (reduced.of_inside inside)
  · intro members inside
    obtain ⟨two, -, flat⟩ := (reduced.of_inside inside).of_group (k := .and)
    exact ⟨two, fun inner member => absurd (flat _ member) Bool.noConfusion⟩
  · intro members inside
    obtain ⟨two, -, flat⟩ := (reduced.of_inside inside).of_group (k := .or)
    exact ⟨two, fun inner member => absurd (flat _ member) Bool.noConfusion⟩
  · rintro operand inside inner rfl
    exact absurd (reduced.of_inside inside).isNegation_operand Bool.noConfusion
  · simp [reduced.isNeutral, written]

theorem eq_of_inside_neutral (inside : d.Inside .neutral) : d = .neutral := by
  rcases Relation.ReflTransGen.cases_tail inside with same | ⟨_, _, member, _⟩
  · exact (Term.condition.inj same).symm
  · exact absurd member List.not_mem_nil

theorem normalForm_neutral : Condition.neutral.NormalForm := by
  constructor
  · exact .inl rfl
  · exact fun _ inside => absurd (eq_of_inside_neutral inside) Condition.noConfusion
  · exact fun _ inside => absurd (eq_of_inside_neutral inside) Condition.noConfusion
  · exact fun _ inside => absurd (eq_of_inside_neutral inside) Condition.noConfusion
  · exact iff_of_true rfl rfl

theorem NeutralOrReduced.normalForm (normal : c.NeutralOrReduced P) : c.NormalForm := by
  rcases normal with rfl | reduced
  · exact normalForm_neutral
  · exact reduced.normalForm

theorem FromCalls.normalForm (made : c.FromCalls) :
    c.NormalForm := made.fromRecipe.neutralOrReduced.normalForm

end Condition

open Condition (FromCalls)

theorem Select.fromCalls_of_next (s : Select) (call : SelectCall) (held : s.condition.FromCalls)
    (given : ∀ c ∈ call.condition?, c.FromCalls) : (s.next call).condition.FromCalls := by
  cases call with
  | filter c => exact given c rfl
  | andFilter c => exact held.and (given c rfl)
  | _ => exact held

theorem Select.fromCalls_of_run {s : Select} {calls : List SelectCall}
    (held : s.condition.FromCalls)
    (given : ∀ call ∈ calls, ∀ c ∈ call.condition?, c.FromCalls) :
    (s.run calls).condition.FromCalls := by
  induction calls generalizing s with
  | nil => exact held
  | cons call calls ih =>
      obtain ⟨here, later⟩ := List.forall_mem_cons.mp given
      exact ih (s.fromCalls_of_next call held here) later

def Insert.condition? (i : Insert) : Option Condition :=
  match i.conflict with
  | some ⟨_, .doUpdate _ c⟩ => some c
  | _ => none

def Statement.condition? : Statement → Option Condition
  | .insert i => i.condition?
  | .update u => some u.condition

def Step.condition? (s : Step) : Option Condition := s.statement?.bind Statement.condition?

def Call.condition? : Call → Option Condition
  | .filter c => some c
  | .andFilter c => some c
  | _ => none

namespace Step

theorem condition?_of_next? {s t : Step} {call : Call} (next : s.next? call = some t) :
    t.condition? = none ∨ t.condition? = some .neutral ∨ t.condition? = s.condition? ∨
      t.condition? = call.condition? ∨
      ∃ before added, s.condition? = some before ∧ call.condition? = some added ∧
        t.condition? = some (before.and added) := by
  unfold next? at next
  split at next <;> cases next <;> first
    | exact .inl rfl
    | exact .inr (.inl rfl)
    | exact .inr (.inr (.inl rfl))
    | exact .inr (.inr (.inr (.inl rfl)))
    | exact .inr (.inr (.inr (.inr ⟨_, _, rfl, rfl, rfl⟩)))

theorem fromCalls_of_next? {s t : Step} {call : Call} (next : s.next? call = some t)
    (held : ∀ c ∈ s.condition?, c.FromCalls) (given : ∀ c ∈ call.condition?, c.FromCalls) :
    ∀ c ∈ t.condition?, c.FromCalls := by
  rcases condition?_of_next? next with
    none | fresh | same | replaced | ⟨before, added, first, second, joined⟩
  · simp [none]
  · simpa [fresh] using FromCalls.neutral
  · rwa [same]
  · rwa [replaced]
  · simpa [joined] using (held before first).and (given added second)

theorem fromCalls_of_run {s t : Step} {calls : List Call} (reached : s.run? calls = some t)
    (held : ∀ c ∈ s.condition?, c.FromCalls)
    (given : ∀ call ∈ calls, ∀ c ∈ call.condition?, c.FromCalls) :
    ∀ c ∈ t.condition?, c.FromCalls := by
  apply run_invariant_of_mem ?_ reached held
  intro call member u v next before
  exact fromCalls_of_next? next before (given call member)

end Step

theorem Condition.fromCalls_normalForm :
    (∀ c : Condition, c.FromCalls → c.NormalForm) ∧
    (∀ (columns : List Expr) (calls : List SelectCall),
      (∀ call ∈ calls, ∀ c ∈ call.condition?, c.FromCalls) →
      ((Select.ofColumns columns).run calls).condition.NormalForm) ∧
    ∀ (t : Table) (calls : List Call) (s : Step),
      (Step.insertStart (insertInto t)).run? calls = some s ∨
        (Step.updateStart (update t)).run? calls = some s →
      (∀ call ∈ calls, ∀ c ∈ call.condition?, c.FromCalls) → ∀ c ∈ s.condition?, c.NormalForm := by
  refine ⟨fun c made => made.normalForm, ?_, ?_⟩
  · intro columns calls given
    exact (Select.fromCalls_of_run FromCalls.neutral given).normalForm
  · intro t calls s reached given c kept
    have fresh (start : Step) (empty : start.condition? = none) :
        ∀ d ∈ start.condition?, d.FromCalls := by simp [empty]
    rcases reached with inserting | updating
    · exact (Step.fromCalls_of_run inserting (fresh _ rfl) given c kept).normalForm
    · exact (Step.fromCalls_of_run updating (fresh _ rfl) given c kept).normalForm

def Condition.regrouped : Condition :=
  .all [.plain "a", (all [.plain "b", .plain "c"]).negate.negate, .any [.neutral, .plain "d"]]

theorem Condition.fromCalls_normalForm_regrouped :
    regrouped = .conjunction [.plain "a", .plain "b", .plain "c", .plain "d"] ∧
    regrouped.NormalForm ∧
    ((Select.ofColumns [.verbatim "x"]).run SelectCall.replacing).condition.NormalForm ∧
    ((Condition.neutral.and (.plain "a")).and regrouped).NormalForm := by
  have leaf (sql : String) : (plain sql).FromCalls := .predicate (.template sql [])
  have group (a b : String) : (all [.plain a, .plain b]).FromCalls := (leaf a).and (leaf b)
  have made : regrouped.FromCalls := by
    refine .all ?_
    simp only [List.forall_mem_cons, List.not_mem_nil, false_implies, implies_true, and_true]
    exact ⟨leaf "a", (group "b" "c").negate.negate, FromCalls.neutral.or (leaf "d")⟩
  obtain ⟨alone, selected, stepped⟩ := fromCalls_normalForm
  refine ⟨rfl, alone regrouped made, selected _ _ ?_, ?_⟩
  · simp [SelectCall.replacing, SelectCall.condition?, SelectCall.replaced?, SelectCall.added?,
      leaf, group, FromCalls.neutral]
  · apply stepped ⟨⟨[], .quoted "t"⟩⟩
      [.assign ⟨.verbatim "x", .verbatim "y"⟩, .filter .neutral, .andFilter (.plain "a"),
        .andFilter regrouped] _ (.inr rfl)
    · simp [Call.condition?, leaf, made, FromCalls.neutral]
    · rfl

end SqlBuilder
