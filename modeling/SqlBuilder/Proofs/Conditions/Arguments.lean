import SqlBuilder.Expr.Column
import SqlBuilder.Progression.Membership
import SqlBuilder.Proofs.Conditions.Recipe
import SqlBuilder.Proofs.Rendering.Defects
import SqlBuilder.Proofs.Rendering.Faults
import SqlBuilder.Query

namespace SqlBuilder

theorem findSome?_flatMap {α β γ : Type} (f : β → Option γ) (g : α → List β) (xs : List α) :
    (xs.flatMap g).findSome? f = xs.findSome? fun x => (g x).findSome? f := by
  rw [← List.head?_filterMap, List.filterMap_flatMap, List.head?_flatMap]
  simp only [List.head?_filterMap]

namespace Condition

theorem findSome?_written (cs : List Condition) :
    (cs.filter (!·.isNeutral)).findSome? defect? = cs.findSome? defect? := by
  induction cs with
  | nil => rfl
  | cons c cs ih =>
      by_cases absent : c.isNeutral = true
      · rw [List.filter_cons_of_neg (by simp [absent]), ih, List.findSome?_cons,
          defect?_of_isNeutral absent]
      · rw [List.filter_cons_of_pos (by simp [absent]), List.findSome?_cons, List.findSome?_cons,
          ih]

theorem defect?_group (k : Connective) (cs : List Condition) :
    (group k.group cs).defect? = cs.findSome? defect? := by
  rcases cs with _ | ⟨c, _ | ⟨d, cs⟩⟩
  · rfl
  · exact List.findSome?_singleton.symm
  · cases k with
    | and => exact firstDefect_eq_findSome? _
    | or => exact firstDefect_eq_findSome? _

theorem defect?_negate (c : Condition) : c.negate.defect? = c.defect? := by
  unfold negate
  split
  · rename_i absent
    exact (defect?_of_isNeutral absent).symm
  · cases c <;> rfl

end Condition

namespace Connective

theorem findSome?_parts (k : Connective) (c : Condition) :
    (k.parts c).findSome? Condition.defect? = c.defect? := by
  by_cases grouped : k.isGroup c = true
  · obtain ⟨members, rfl⟩ := k.exists_group grouped
    rw [parts_group, Condition.findSome?_written, ← Condition.firstDefect_eq_findSome?]
    cases k <;> rfl
  · by_cases absent : c.isNeutral = true
    · rw [Condition.defect?_of_isNeutral absent, k.parts_of_isNeutral absent, List.findSome?_nil]
    · rw [parts_of_single (Bool.eq_false_iff.mpr absent) (Bool.eq_false_iff.mpr grouped),
        List.findSome?_singleton]

theorem defect?_join (k : Connective) (cs : List Condition) :
    (k.join cs).defect? = cs.findSome? Condition.defect? := by
  rw [join_eq, Condition.defect?_group, findSome?_flatMap]
  simp only [findSome?_parts]

end Connective

namespace Recipe

mutual

theorem defect?_build : (r : Recipe) → r.build.defect? = r.leaves.findSome? Condition.defect?
  | .leaf c _ => by rw [build, leaves, List.findSome?_singleton]
  | .neutral => rfl
  | .all parts => (Connective.and.defect?_join _).trans (findSome?_buildAll parts)
  | .any parts => (Connective.or.defect?_join _).trans (findSome?_buildAll parts)
  | .negate operand => operand.build.defect?_negate.trans (defect?_build operand)

theorem findSome?_buildAll : (rs : List Recipe) →
    (buildAll rs).findSome? Condition.defect? = (allLeaves rs).findSome? Condition.defect?
  | [] => rfl
  | r :: rs => by
      rw [buildAll, allLeaves, List.findSome?_cons, List.findSome?_append, defect?_build r,
        findSome?_buildAll rs]
      cases r.leaves.findSome? Condition.defect? <;> rfl

end

end Recipe

inductive Predicate
  | constant (value : Bool)
  | template (sql : String) (values : List Value)
  | comparison (subject : Expr) (operator : Comparison) (operand : Expr)
  | matchesText (subject : Expr) (place : TextMatch) (text : Expr) (ignoreCase negated : Bool)
  | equalIgnoringCase (subject operand : Expr) (negated : Bool)
  | nullCheck (subject : Expr) (negated : Bool)
  | memberOf (subject : Expr) (negated : Bool) (values : List Expr)
  | inProgression (subject : Expr) (negated : Bool) (progression : Progression)
  | inSelect (subject : Expr) (negated : Bool) (select : Select)
  | range (subject : Expr) (kind : BetweenKind) (low high : Expr)
  | existence (negated : Bool) (select : Select)
  | truth (subject : Expr)

namespace Predicate

def build : Predicate → Condition
  | .constant value => .constant value
  | .template sql values => .template sql values
  | .comparison subject operator operand => .comparison subject operator operand
  | .matchesText subject place text ignoreCase negated =>
      subject.matchesText place text ignoreCase negated
  | .equalIgnoringCase subject operand negated => subject.equalIgnoringCase operand negated
  | .nullCheck subject negated => .nullCheck subject negated
  | .memberOf subject negated values => subject.memberOf negated values
  | .inProgression subject negated progression => subject.inProgression negated progression
  | .inSelect subject negated select => .inSelect subject negated select
  | .range subject kind low high => .range subject kind low high
  | .existence negated select => .existence negated select
  | .truth subject => .truth subject

def arguments : Predicate → List Term
  | .constant _ => []
  | .template _ _ => []
  | .comparison subject _ operand => [.expr subject, .expr operand]
  | .matchesText subject _ text _ _ => [.expr subject, .expr text]
  | .equalIgnoringCase subject operand _ => [.expr subject, .expr operand]
  | .nullCheck subject _ => [.expr subject]
  | .memberOf subject _ values => .expr subject :: values.map .expr
  | .inProgression subject _ _ => [.expr subject]
  | .inSelect subject _ select => [.expr subject, .select select]
  | .range subject _ low high => [.expr subject, .expr low, .expr high]
  | .existence _ select => [.select select]
  | .truth subject => [.expr subject]

def isEmptyMembership : Predicate → Bool
  | .memberOf _ _ values => values.isEmpty
  | .inProgression _ _ progression => progression.rangeEnds?.isNone && progression.values.isEmpty
  | _ => false

def kept (p : Predicate) : List Term := if p.isEmptyMembership then [] else p.arguments

theorem isLeaf_memberOf (subject : Expr) (negated : Bool) (values : List Expr) :
    (subject.memberOf negated values).isLeaf = true := by
  unfold Expr.memberOf
  split <;> rfl

theorem isLeaf_build (p : Predicate) : p.build.isLeaf = true := by
  cases p with
  | memberOf subject negated values => exact isLeaf_memberOf subject negated values
  | inProgression subject negated progression =>
      rw [build, Expr.inProgression]
      split
      · rfl
      · exact isLeaf_memberOf subject negated _
  | _ => rfl

end Predicate

theorem Term.findSome?_map_expr (es : List Expr) :
    (es.map expr).findSome? defect? = Expr.firstDefect es := by
  rw [Expr.firstDefect_eq_findSome?, List.findSome?_map]
  rfl

namespace Expr

theorem firstDefect_map_bind (vs : List Value) : firstDefect (vs.map .bind) = none := by
  rw [firstDefect_eq_findSome?, List.findSome?_eq_none_iff]
  simp [defect?]

theorem defect?_likeEscaped (e : Expr) : e.likeEscaped.defect? = e.defect? := by
  simp [likeEscaped, likeMarks, defect?, firstDefect]

theorem defect?_pattern (place : TextMatch) (e : Expr) : (place.pattern e).defect? = e.defect? := by
  cases place <;> simp [TextMatch.pattern, wildcard, defect?, defect?_likeEscaped]

theorem defect?_memberOf (subject : Expr) (negated : Bool) (values : List Expr) :
    (subject.memberOf negated values).defect? =
      if values.isEmpty then none else subject.defect? <|> firstDefect values := by
  unfold memberOf
  split <;> rfl

end Expr

namespace Predicate

theorem defect?_build (p : Predicate) : p.build.defect? = p.kept.findSome? Term.defect? := by
  cases p with
  | memberOf subject negated values =>
      rw [build, Expr.defect?_memberOf, kept, isEmptyMembership]
      split
      · rfl
      · rw [arguments, Term.findSome?_cons, Term.findSome?_map_expr, Term.defect?_expr]
  | inProgression subject negated progression =>
      rw [build, Expr.inProgression, kept, isEmptyMembership]
      cases progression.rangeEnds? with
      | some ends => simp [Condition.defect?, Expr.defect?, arguments]
      | none =>
          simp only [Expr.defect?_memberOf, Expr.firstDefect_map_bind]
          cases values : progression.values <;> simp [arguments]
  | matchesText subject place text ignoreCase negated =>
      rw [build, Expr.matchesText, Condition.defect?, Expr.defect?_pattern]
      simp [kept, isEmptyMembership, arguments, Term.findSome?_cons]
  | _ => simp [build, kept, isEmptyMembership, arguments, Term.findSome?_cons, Condition.defect?,
      Expr.equalIgnoringCase, Expr.defect?, Expr.firstDefect]

end Predicate

/-- A condition as it is asked for. -/
inductive Filter
  | predicate (p : Predicate)
  | neutral
  | all (parts : List Filter)
  | any (parts : List Filter)
  | negate (operand : Filter)

namespace Filter

mutual

def recipe : Filter → Recipe
  | .predicate p => .leaf p.build p.isLeaf_build
  | .neutral => .neutral
  | .all parts => .all (recipes parts)
  | .any parts => .any (recipes parts)
  | .negate operand => .negate operand.recipe

def recipes : List Filter → List Recipe
  | [] => []
  | f :: fs => f.recipe :: recipes fs

end

mutual

def predicates : Filter → List Predicate
  | .predicate p => [p]
  | .neutral => []
  | .all parts => allPredicates parts
  | .any parts => allPredicates parts
  | .negate operand => operand.predicates

def allPredicates : List Filter → List Predicate
  | [] => []
  | f :: fs => f.predicates ++ allPredicates fs

end

def build (f : Filter) : Condition := f.recipe.build

def kept (f : Filter) : List Term := f.predicates.flatMap Predicate.kept

mutual

theorem leaves_recipe : (f : Filter) → f.recipe.leaves = f.predicates.map Predicate.build
  | .predicate _ => rfl
  | .neutral => rfl
  | .all parts => allLeaves_recipes parts
  | .any parts => allLeaves_recipes parts
  | .negate operand => leaves_recipe operand

theorem allLeaves_recipes : (fs : List Filter) →
    Recipe.allLeaves (recipes fs) = (allPredicates fs).map Predicate.build
  | [] => rfl
  | f :: fs => by
      rw [recipes, Recipe.allLeaves, allPredicates, List.map_append, leaves_recipe f,
        allLeaves_recipes fs]

end

theorem defect?_build (f : Filter) : f.build.defect? = f.kept.findSome? Term.defect? := by
  rw [build, Recipe.defect?_build, leaves_recipe, List.findSome?_map, kept, findSome?_flatMap]
  apply congrArg (f.predicates.findSome? ·)
  funext p
  exact p.defect?_build

theorem mem_kept_iff (f : Filter) (t : Term) :
    t ∈ f.kept ↔ ∃ p ∈ f.predicates, p.isEmptyMembership = false ∧ t ∈ p.arguments := by
  unfold kept Predicate.kept
  rw [List.mem_flatMap]
  refine exists_congr fun p => and_congr_right fun _ => ?_
  cases p.isEmptyMembership <;> simp

/-- Validation reports the first defect among the arguments of all predicates but the memberships
in an empty list. -/
theorem validate_build (f : Filter) :
    Query.validate f.build = Defect.check (f.kept.findSome? Term.defect?) ∧
    (Query.validate f.build = .ok () ↔
      ∀ p ∈ f.predicates, p.isEmptyMembership = false → ∀ t ∈ p.arguments, t.Faultless) := by
  have first : Query.validate f.build = Defect.check (f.kept.findSome? Term.defect?) := by
    show Defect.check f.build.defect? = _
    rw [f.defect?_build]
  refine ⟨first, ?_⟩
  rw [first, Defect.check_eq_ok_iff, List.findSome?_eq_none_iff]
  constructor
  · intro sound p asked written t given
    exact t.defect?_eq_none_iff.mp (sound t ((f.mem_kept_iff t).mpr ⟨p, asked, written, given⟩))
  · intro faultless t member
    obtain ⟨p, asked, written, given⟩ := (f.mem_kept_iff t).mp member
    exact t.defect?_eq_none_iff.mpr (faultless p asked written t given)

theorem validate_build_rejectedSubject :
    ¬ ∀ (f : Filter) (p : Predicate) (name : String), p ∈ f.predicates →
      .expr (.field name) ∈ p.arguments → (Ident.parse name).toOption = none →
        ∃ e, Query.validate f.build = .error e := by
  intro reported
  obtain ⟨e, refused⟩ := reported (.predicate (.memberOf (.field "1a") false []))
    (.memberOf (.field "1a") false []) "1a" List.mem_cons_self List.mem_cons_self
    (by decide +kernel)
  cases refused

end Filter
end SqlBuilder
