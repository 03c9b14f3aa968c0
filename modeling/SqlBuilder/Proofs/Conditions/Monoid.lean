import SqlBuilder.Condition.Predicate
import SqlBuilder.Proofs.Conditions.Recipe

namespace SqlBuilder

def Condition.FromRecipe (c : Condition) : Prop := ∃ r : Recipe, r.build = c

theorem Condition.FromRecipe.neutralOrReduced {c : Condition} (built : c.FromRecipe) :
    c.NeutralOrReduced fun _ => True := by
  obtain ⟨r, rfl⟩ := built
  exact r.build_neutralOrReduced.mono fun _ _ => trivial

theorem Condition.fromRecipe_neutral : Condition.neutral.FromRecipe := ⟨.neutral, rfl⟩

theorem Condition.fromRecipe_plain (sql : String) :
    (plain sql).FromRecipe := ⟨.leaf (plain sql) rfl, rfl⟩

theorem Recipe.exists_buildAll {cs : List Condition} (built : ∀ c ∈ cs, c.FromRecipe) :
    ∃ parts, buildAll parts = cs := by
  induction cs with
  | nil => exact ⟨[], rfl⟩
  | cons c cs ih =>
      obtain ⟨⟨first, rfl⟩, others⟩ := List.forall_mem_cons.mp built
      obtain ⟨rest, rfl⟩ := ih others
      exact ⟨first :: rest, rfl⟩

theorem Condition.fromRecipe_all {cs : List Condition} (built : ∀ c ∈ cs, c.FromRecipe) :
    (all cs).FromRecipe := by
  obtain ⟨parts, rfl⟩ := Recipe.exists_buildAll built
  exact ⟨.all parts, rfl⟩

theorem Condition.fromRecipe_any {cs : List Condition} (built : ∀ c ∈ cs, c.FromRecipe) :
    (any cs).FromRecipe := by
  obtain ⟨parts, rfl⟩ := Recipe.exists_buildAll built
  exact ⟨.any parts, rfl⟩

theorem Condition.FromRecipe.negate {c : Condition} (built : c.FromRecipe) :
    c.negate.FromRecipe := by
  obtain ⟨operand, rfl⟩ := built
  exact ⟨.negate operand, rfl⟩

theorem Condition.group_of_two {kind : List Condition → Condition} {cs : List Condition}
    (two : 2 ≤ cs.length) : Condition.group kind cs = kind cs := by
  rcases cs with _ | ⟨c, _ | ⟨d, cs⟩⟩
  · simp at two
  · simp at two
  · rfl

variable {P : Condition → Prop}

namespace Connective

variable (k : Connective)

theorem join_congr {xs ys : List Condition} (same : xs.flatMap k.parts = ys.flatMap k.parts) :
    k.join xs = k.join ys := by
  rw [k.join_eq xs, same, ← k.join_eq ys]

theorem parts_join {cs : List Condition} (normal : ∀ c ∈ cs, c.NeutralOrReduced P) :
    k.parts (k.join cs) = cs.flatMap k.parts := by
  rw [join_eq]
  have inside := Condition.reduced_of_mem_flatMap_parts normal k
  cases parts : cs.flatMap k.parts with
  | nil => exact k.parts_neutral
  | cons c rest =>
      rw [parts] at inside
      cases rest with
      | nil =>
          obtain ⟨reduced, single⟩ := inside c List.mem_cons_self
          exact parts_of_single reduced.isNeutral single
      | cons d rest =>
          have reduced : ∀ m ∈ c :: d :: rest, m.Reduced P := fun m member => (inside m member).1
          exact (k.parts_group _).trans (Condition.filter_of_reduced reduced)

theorem join_splice (before after : List Condition) {cs : List Condition}
    (normal : ∀ c ∈ cs, c.NeutralOrReduced P) :
    k.join (before ++ k.join cs :: after) = k.join (before ++ cs ++ after) := by
  apply k.join_congr
  simp only [List.flatMap_append, List.flatMap_cons, k.parts_join normal, List.append_assoc]

theorem join_join {xs ys : List Condition} (first : ∀ c ∈ xs, c.NeutralOrReduced P)
    (second : ∀ c ∈ ys, c.NeutralOrReduced P) :
    k.join [k.join xs, k.join ys] = k.join (xs ++ ys) := by
  have outer := k.join_splice [] [k.join ys] first
  have inner := k.join_splice xs [] second
  rw [List.append_nil] at inner
  exact outer.trans inner

theorem join_written (cs : List Condition) : k.join (cs.filter (!·.isNeutral)) = k.join cs := by
  apply k.join_congr
  induction cs with
  | nil => rfl
  | cons c cs ih =>
      by_cases absent : c.isNeutral = true
      · rw [List.filter_cons_of_neg (by simp [absent]), ih, List.flatMap_cons,
          k.parts_of_isNeutral absent, List.nil_append]
      · rw [List.filter_cons_of_pos (by simp [absent]), List.flatMap_cons, ih, List.flatMap_cons]

theorem join_congr_written {xs ys : List Condition}
    (same : xs.filter (!·.isNeutral) = ys.filter (!·.isNeutral)) : k.join xs = k.join ys := by
  rw [← k.join_written xs, same, k.join_written ys]

theorem join_neutral_cons (cs : List Condition) : k.join (.neutral :: cs) = k.join cs :=
  k.join_congr_written rfl

theorem join_append_neutral (cs : List Condition) : k.join (cs ++ [.neutral]) = k.join cs := by
  apply k.join_congr_written
  rw [List.filter_append]
  exact List.append_nil _

theorem join_singleton {c : Condition} (normal : c.NeutralOrReduced P) : k.join [c] = c := by
  rw [join_eq, List.flatMap_singleton]
  rcases normal with rfl | reduced
  · rw [k.parts_neutral]
    rfl
  · rcases reduced.parts_eq k with ⟨single, -⟩ | ⟨grouped, two, -⟩
    · rw [single]
      rfl
    · rw [Condition.group_of_two two]
      exact grouped.symm

section Folding

variable {c : Condition} {cs : List Condition} (first : c.NeutralOrReduced P)
  (rest : ∀ d ∈ cs, d.NeutralOrReduced P)
include first rest

theorem foldl_join : cs.foldl (fun a b => k.join [a, b]) c = k.join (c :: cs) := by
  induction cs generalizing c with
  | nil => exact (k.join_singleton first).symm
  | cons d cs ih =>
      obtain ⟨next, others⟩ := List.forall_mem_cons.mp rest
      have pair : ∀ e ∈ [c, d], e.NeutralOrReduced P := by simp [first, next]
      rw [List.foldl_cons, ih (Condition.neutralOrReduced_join pair) others]
      exact k.join_splice [] cs pair

theorem foldr_join : cs.foldr (fun a b => k.join [a, b]) c = k.join (cs ++ [c]) := by
  induction cs with
  | nil => exact (k.join_singleton first).symm
  | cons d cs ih =>
      obtain ⟨-, others⟩ := List.forall_mem_cons.mp rest
      have normal : ∀ e ∈ cs ++ [c], e.NeutralOrReduced P := by
        simpa [or_imp, forall_and] using ⟨others, first⟩
      have spliced := k.join_splice [d] [] normal
      rw [List.append_nil] at spliced
      rw [List.foldr_cons, ih others]
      exact spliced

end Folding

end Connective

namespace Condition

theorem Reduced.isNegation_operand {operand : Condition}
    (reduced : (Condition.negation operand).Reduced P) : operand.isNegation = false := by
  cases reduced with
  | leaf isLeaf => simp [Condition.isLeaf] at isLeaf
  | negation _ single => exact single

theorem NeutralOrReduced.negate_negate {c : Condition} (normal : c.NeutralOrReduced P) :
    c.negate.negate = c := by
  rcases normal with rfl | reduced
  · rfl
  · rcases reduced.negate_eq with ⟨-, negated⟩ | ⟨operand, rfl, inner, negated⟩
    · have written : (Condition.negation c).isNeutral = false := reduced.isNeutral
      rw [negated, negate, written]
      rfl
    · rw [negated]
      rcases inner.negate_eq with ⟨-, again⟩ | ⟨innermost, rfl, -⟩
      · exact again
      · exact absurd reduced.isNegation_operand Bool.noConfusion

/-- The conditions joined are built ones, except where only neutral ones come or go. -/
theorem joining_laws :
    (∀ xs ys : List Condition, (∀ c ∈ xs, c.FromRecipe) → (∀ c ∈ ys, c.FromRecipe) →
      all [all xs, all ys] = all (xs ++ ys) ∧ any [any xs, any ys] = any (xs ++ ys)) ∧
    (∀ xs ys : List Condition, xs.filter (!·.isNeutral) = ys.filter (!·.isNeutral) →
      all xs = all ys ∧ any xs = any ys) ∧
    (∀ c : Condition, c.FromRecipe → all [c] = c ∧ any [c] = c ∧ c.negate.negate = c) ∧
    (∀ xs : List Condition, (∀ c ∈ xs, c.FromRecipe) →
      xs.foldl and .neutral = all xs ∧ xs.foldr and .neutral = all xs ∧
      xs.foldl or .neutral = any xs ∧ xs.foldr or .neutral = any xs) ∧
    (∀ (c : Condition) (xs : List Condition), c.FromRecipe → (∀ d ∈ xs, d.FromRecipe) →
      xs.foldl and c = all (c :: xs) ∧ xs.foldr and c = all (xs ++ [c]) ∧
      xs.foldl or c = any (c :: xs) ∧ xs.foldr or c = any (xs ++ [c])) := by
  have normals : ∀ {cs : List Condition}, (∀ c ∈ cs, c.FromRecipe) →
      ∀ c ∈ cs, c.NeutralOrReduced fun _ => True :=
    fun built c member => (built c member).neutralOrReduced
  refine ⟨?_, ?_, ?_, ?_, ?_⟩
  · intro xs ys first second
    exact ⟨Connective.and.join_join (normals first) (normals second),
      Connective.or.join_join (normals first) (normals second)⟩
  · intro xs ys same
    exact ⟨Connective.and.join_congr_written same, Connective.or.join_congr_written same⟩
  · intro c built
    exact ⟨Connective.and.join_singleton built.neutralOrReduced,
      Connective.or.join_singleton built.neutralOrReduced,
      built.neutralOrReduced.negate_negate⟩
  · intro xs built
    have neutral := fromRecipe_neutral.neutralOrReduced
    have left (k : Connective) : xs.foldl (fun a b => k.join [a, b]) .neutral = k.join xs :=
      (k.foldl_join neutral (normals built)).trans (k.join_neutral_cons xs)
    have right (k : Connective) : xs.foldr (fun a b => k.join [a, b]) .neutral = k.join xs :=
      (k.foldr_join neutral (normals built)).trans (k.join_append_neutral xs)
    exact ⟨left .and, right .and, left .or, right .or⟩
  · intro c xs first rest
    exact ⟨Connective.and.foldl_join first.neutralOrReduced (normals rest),
      Connective.and.foldr_join first.neutralOrReduced (normals rest),
      Connective.or.foldl_join first.neutralOrReduced (normals rest),
      Connective.or.foldr_join first.neutralOrReduced (normals rest)⟩

theorem joining_laws_nested :
    all [all [plain "a", all [plain "b", plain "c"]],
        all [.neutral, (any [plain "d", plain "e"]).negate]] =
      all [plain "a", all [plain "b", plain "c"], .neutral, (any [plain "d", plain "e"]).negate] ∧
    any [plain "a", .neutral, plain "b"] = any [plain "a", plain "b"] ∧
    (any [plain "d", plain "e"]).negate.negate = any [plain "d", plain "e"] ∧
    [plain "a", .neutral, plain "b"].foldr or .neutral = any [plain "a", .neutral, plain "b"] ∧
    [plain "b", plain "c"].foldl and (plain "a") = all [plain "a", plain "b", plain "c"] := by
  have leaf (sql : String) : (plain sql).FromRecipe := ⟨.leaf (plain sql) rfl, rfl⟩
  have group : (all [plain "b", plain "c"]).FromRecipe :=
    ⟨.all [.leaf (plain "b") rfl, .leaf (plain "c") rfl], rfl⟩
  have choice : (any [plain "d", plain "e"]).FromRecipe :=
    ⟨.any [.leaf (plain "d") rfl, .leaf (plain "e") rfl], rfl⟩
  have excluded : (any [plain "d", plain "e"]).negate.FromRecipe :=
    ⟨.negate (.any [.leaf (plain "d") rfl, .leaf (plain "e") rfl]), rfl⟩
  obtain ⟨associative, units, single, folds, seeded⟩ := joining_laws
  refine ⟨?_, ?_, ?_, ?_, ?_⟩
  · exact (associative _ _ (by simp [leaf, group]) (by simp [fromRecipe_neutral, excluded])).1
  · exact (units _ _ rfl).2
  · exact (single _ choice).2.2
  · exact (folds _ (by simp [leaf, fromRecipe_neutral])).2.2.2
  · exact (seeded _ _ (leaf "a") (by simp [leaf])).1

end Condition
end SqlBuilder
