import SqlBuilder.Proofs.Conditions.Recipe

namespace SqlBuilder

namespace Recipe

variable (leaf : Condition → Truth)

mutual

def value? : Recipe → Option Truth
  | .leaf c _ => some (leaf c)
  | .neutral => none
  | .all parts => Connective.and.ofPresent (values? parts)
  | .any parts => Connective.or.ofPresent (values? parts)
  | .negate operand => operand.value?.map Truth.not

def values? : List Recipe → List (Option Truth)
  | [] => []
  | r :: rs => r.value? :: values? rs

end

end Recipe

namespace Condition

variable (leaf : Condition → Truth)

mutual

/-- A neutral condition inside a group does not matter: nothing that can be built has one. -/
def value : Condition → Truth
  | .neutral => .yes
  | .conjunction members => Connective.and.ofList (memberValues members)
  | .disjunction members => Connective.or.ofList (memberValues members)
  | .negation operand => operand.value.not
  | c => leaf c

def memberValues : List Condition → List Truth
  | [] => []
  | c :: cs => c.value :: memberValues cs

end

theorem memberValues_eq_map (cs : List Condition) : memberValues leaf cs = cs.map (value leaf) := by
  induction cs with
  | nil => rfl
  | cons c cs ih => rw [memberValues, ih, List.map_cons]

theorem value_of_isLeaf {c : Condition} (isLeaf : c.isLeaf = true) : c.value leaf = leaf c := by
  cases c with
  | neutral => simp [Condition.isLeaf] at isLeaf
  | conjunction members => simp [Condition.isLeaf] at isLeaf
  | disjunction members => simp [Condition.isLeaf] at isLeaf
  | negation operand => simp [Condition.isLeaf] at isLeaf
  | _ => rfl

theorem value_group (k : Connective) (members : List Condition) :
    (k.group members).value leaf = k.ofList (members.map (value leaf)) := by
  cases k <;> rw [← memberValues_eq_map] <;> rfl

def value? (c : Condition) : Option Truth := if c.isNeutral then none else some (c.value leaf)

variable {leaf} {P : Condition → Prop}

theorem Reduced.value?_eq {c : Condition} (reduced : c.Reduced P) :
    c.value? leaf = some (c.value leaf) := by
  rw [value?, reduced.isNeutral]
  rfl

theorem Reduced.parts_ne_nil {c : Condition} (reduced : c.Reduced P) (k : Connective) :
    k.parts c ≠ [] := by
  intro empty
  rcases reduced.parts_eq k with ⟨single, -⟩ | ⟨-, two, -⟩
  · rw [empty] at single
    exact absurd single (by simp)
  · rw [empty] at two
    exact absurd two (by decide)

theorem Reduced.ofList_parts {c : Condition} (reduced : c.Reduced P) (k : Connective) :
    k.ofList ((k.parts c).map (value leaf)) = c.value leaf := by
  rcases reduced.parts_eq k with ⟨single, -⟩ | ⟨group, -, -⟩
  · rw [single, List.map_singleton, Connective.ofList_cons, Connective.ofList_nil,
      Connective.apply_unit]
  · rw [← value_group, ← group]

theorem value?_group {k : Connective} {parts : List Condition} (reduced : ∀ m ∈ parts, m.Reduced P)
    (nonempty : parts ≠ []) :
    (Condition.group k.group parts).value? leaf = some (k.ofList (parts.map (value leaf))) := by
  cases parts with
  | nil => exact absurd rfl nonempty
  | cons c rest =>
      have first := reduced c List.mem_cons_self
      cases rest with
      | nil =>
          rw [List.map_singleton, Connective.ofList_cons, Connective.ofList_nil,
            Connective.apply_unit]
          exact first.value?_eq
      | cons d rest =>
          have written : (k.group (c :: d :: rest)).isNeutral = false := by
            cases k <;> simp [Connective.group, isNeutral, allNeutral, first.isNeutral]
          rw [Condition.group, value?, written, value_group]
          · rfl
          all_goals simp

variable (leaf) in
theorem ofList_flatMap_parts {k : Connective} {cs : List Condition}
    (normal : ∀ c ∈ cs, c.NeutralOrReduced P) :
    k.ofList ((cs.flatMap k.parts).map (value leaf)) = k.ofList (cs.filterMap (value? leaf)) ∧
      (cs.flatMap k.parts = [] ↔ cs.filterMap (value? leaf) = []) := by
  -- The values alone do not tell a group of none from one whose value is the unit.
  induction cs with
  | nil => simp
  | cons c cs ih =>
      obtain ⟨first, rest⟩ := List.forall_mem_cons.mp normal
      obtain ⟨values, none⟩ := ih rest
      rcases first with rfl | reduced
      · rw [List.flatMap_cons, Connective.parts_neutral, List.nil_append]
        exact ⟨values, none⟩
      · rw [List.flatMap_cons, List.map_append, Connective.ofList_append, reduced.ofList_parts,
          values, List.filterMap_cons_some reduced.value?_eq]
        refine ⟨rfl, ?_⟩
        simp [reduced.parts_ne_nil k]

theorem value?_join {k : Connective} {cs : List Condition}
    (normal : ∀ c ∈ cs, c.NeutralOrReduced P) :
    (k.join cs).value? leaf = k.ofPresent (cs.map (value? leaf)) := by
  obtain ⟨values, none⟩ := ofList_flatMap_parts leaf (k := k) normal
  rw [Connective.join_eq, Connective.ofPresent, List.filterMap_map, Function.id_comp]
  by_cases empty : cs.flatMap k.parts = []
  · rw [empty, none.mp empty]
    rfl
  · have reduced : ∀ m ∈ cs.flatMap k.parts, m.Reduced P := by
      intro m member
      obtain ⟨c, among, inside⟩ := List.mem_flatMap.mp member
      exact ((normal c among).reduced_of_mem_parts k m inside).1
    rw [value?_group reduced empty, values]
    cases present : cs.filterMap (value? leaf) with
    | nil => exact absurd (none.mpr present) empty
    | cons a rest => rfl

theorem value?_negate {c : Condition} (normal : c.NeutralOrReduced P) :
    c.negate.value? leaf = (c.value? leaf).map Truth.not := by
  rcases normal with rfl | reduced
  · rfl
  · rw [reduced.value?_eq]
    rcases reduced.negate_eq with ⟨single, negated⟩ | ⟨operand, rfl, inner, negated⟩
    · have outer : (Condition.negation c).Reduced P := .negation reduced single
      rw [negated, outer.value?_eq]
      rfl
    · rw [negated, inner.value?_eq]
      exact congrArg some (Truth.not_not _).symm

end Condition

namespace Recipe

variable {leaf : Condition → Truth}

mutual

theorem value?_build : (r : Recipe) → r.build.value? leaf = r.value? leaf
  | .leaf c isLeaf => by
      rw [build, value?, Condition.value?, Condition.isNeutral_of_isLeaf isLeaf,
        Condition.value_of_isLeaf leaf isLeaf]
      rfl
  | .neutral => rfl
  | .all parts => by
      have joined : (Connective.and.join (buildAll parts)).value? leaf = _ :=
        Condition.value?_join (buildAll_neutralOrReduced parts)
      rw [values?_build parts] at joined
      exact joined
  | .any parts => by
      have joined : (Connective.or.join (buildAll parts)).value? leaf = _ :=
        Condition.value?_join (buildAll_neutralOrReduced parts)
      rw [values?_build parts] at joined
      exact joined
  | .negate operand => by
      rw [build, value?, ← value?_build operand]
      exact Condition.value?_negate operand.build_neutralOrReduced

theorem values?_build : (rs : List Recipe) →
    (buildAll rs).map (Condition.value? leaf) = values? leaf rs
  | [] => rfl
  | r :: rs => by rw [buildAll, List.map_cons, values?, value?_build r, values?_build rs]

end

end Recipe
end SqlBuilder
