import SqlBuilder.Condition.Combine
import SqlBuilder.Proofs.Conditions.Truth

namespace SqlBuilder

def Condition.isLeaf : Condition → Bool
  | .neutral => false
  | .conjunction _ => false
  | .disjunction _ => false
  | .negation _ => false
  | _ => true

inductive Recipe
  | leaf (c : Condition) (isLeaf : c.isLeaf = true)
  | neutral
  | all (parts : List Recipe)
  | any (parts : List Recipe)
  | negate (operand : Recipe)

namespace Recipe

mutual

def build : Recipe → Condition
  | .leaf c _ => c
  | .neutral => .neutral
  | .all parts => .all (buildAll parts)
  | .any parts => .any (buildAll parts)
  | .negate operand => operand.build.negate

def buildAll : List Recipe → List Condition
  | [] => []
  | r :: rs => r.build :: buildAll rs

end

mutual

def leaves : Recipe → List Condition
  | .leaf c _ => [c]
  | .neutral => []
  | .all parts => allLeaves parts
  | .any parts => allLeaves parts
  | .negate operand => operand.leaves

def allLeaves : List Recipe → List Condition
  | [] => []
  | r :: rs => r.leaves ++ allLeaves rs

end

end Recipe

namespace Condition

def isConjunction : Condition → Bool
  | .conjunction _ => true
  | _ => false

def isDisjunction : Condition → Bool
  | .disjunction _ => true
  | _ => false

def isNegation : Condition → Bool
  | .negation _ => true
  | _ => false

end Condition

namespace Connective

def group : Connective → List Condition → Condition
  | .and => .conjunction
  | .or => .disjunction

def isGroup : Connective → Condition → Bool
  | .and => Condition.isConjunction
  | .or => Condition.isDisjunction

def parts : Connective → Condition → List Condition
  | .and => Condition.conjuncts
  | .or => Condition.disjuncts

def join : Connective → List Condition → Condition
  | .and => Condition.all
  | .or => Condition.any

theorem join_eq (k : Connective) (cs : List Condition) :
    k.join cs = Condition.group k.group (cs.flatMap k.parts) := by
  cases k <;> rfl

theorem exists_group (k : Connective) {c : Condition} (grouped : k.isGroup c = true) :
    ∃ members, c = k.group members := by
  cases k <;> cases c <;> first | exact ⟨_, rfl⟩ | exact absurd grouped Bool.false_ne_true

theorem parts_neutral (k : Connective) : k.parts .neutral = [] := by
  cases k <;> rfl

theorem parts_group (k : Connective) (members : List Condition) :
    k.parts (k.group members) = members.filter (!·.isNeutral) := by
  cases k <;> rfl

theorem parts_of_isNeutral (k : Connective) {c : Condition} (absent : c.isNeutral = true) :
    k.parts c = [] := by
  cases k with
  | and => exact Condition.conjuncts_of_isNeutral absent
  | or => exact Condition.disjuncts_of_isNeutral absent

theorem parts_of_single {k : Connective} {c : Condition} (written : c.isNeutral = false)
    (single : k.isGroup c = false) : k.parts c = [c] := by
  cases k <;> cases c <;>
    simp_all [parts, isGroup, Condition.conjuncts, Condition.disjuncts, Condition.isConjunction,
      Condition.isDisjunction]

end Connective

namespace Condition

/-- Nothing in it is neutral, no group is inside a group of its own kind or has fewer than two
members, no negation is negated, and every leaf is one of `P`. -/
inductive Reduced (P : Condition → Prop) : Condition → Prop
  | leaf {c : Condition} (isLeaf : c.isLeaf = true) (holds : P c) : Reduced P c
  | conjunction {members : List Condition} (two : 2 ≤ members.length)
      (reduced : ∀ m ∈ members, Reduced P m) (flat : ∀ m ∈ members, m.isConjunction = false) :
      Reduced P (.conjunction members)
  | disjunction {members : List Condition} (two : 2 ≤ members.length)
      (reduced : ∀ m ∈ members, Reduced P m) (flat : ∀ m ∈ members, m.isDisjunction = false) :
      Reduced P (.disjunction members)
  | negation {operand : Condition} (reduced : Reduced P operand)
      (single : operand.isNegation = false) : Reduced P (.negation operand)

def NeutralOrReduced (P : Condition → Prop) (c : Condition) : Prop := c = .neutral ∨ c.Reduced P

variable {P Q : Condition → Prop}

theorem isNeutral_of_isLeaf {c : Condition} (isLeaf : c.isLeaf = true) : c.isNeutral = false := by
  cases c <;> first | rfl | simp [Condition.isLeaf] at isLeaf

theorem Reduced.mono {c : Condition} (reduced : c.Reduced P) (weaker : ∀ a, P a → Q a) :
    c.Reduced Q := by
  induction reduced with
  | leaf isLeaf holds => exact .leaf isLeaf (weaker _ holds)
  | conjunction two _ flat ih => exact .conjunction two ih flat
  | disjunction two _ flat ih => exact .disjunction two ih flat
  | negation _ single ih => exact .negation ih single

theorem NeutralOrReduced.mono {c : Condition} (normal : c.NeutralOrReduced P)
    (weaker : ∀ a, P a → Q a) :
    c.NeutralOrReduced Q := by
  rcases normal with rfl | reduced
  · exact .inl rfl
  · exact .inr (reduced.mono weaker)

theorem Reduced.isNeutral {c : Condition} (reduced : c.Reduced P) : c.isNeutral = false := by
  have group : ∀ members : List Condition, 2 ≤ members.length →
      (∀ m ∈ members, m.isNeutral = false) → allNeutral members = false := by
    intro members two written
    cases members with
    | nil => simp at two
    | cons m members => rw [allNeutral, written m List.mem_cons_self, Bool.false_and]
  induction reduced with
  | leaf isLeaf => exact isNeutral_of_isLeaf isLeaf
  | conjunction two _ _ ih => exact group _ two ih
  | disjunction two _ _ ih => exact group _ two ih
  | negation _ _ ih => exact ih

theorem filter_of_reduced {members : List Condition} (reduced : ∀ m ∈ members, m.Reduced P) :
    members.filter (!·.isNeutral) = members := by
  rw [List.filter_eq_self]
  intro m member
  rw [(reduced m member).isNeutral]
  rfl

theorem Reduced.group {k : Connective} {members : List Condition} (two : 2 ≤ members.length)
    (reduced : ∀ m ∈ members, m.Reduced P) (flat : ∀ m ∈ members, k.isGroup m = false) :
    (k.group members).Reduced P := by
  cases k with
  | and => exact .conjunction two reduced flat
  | or => exact .disjunction two reduced flat

theorem Reduced.of_group {k : Connective} {members : List Condition}
    (reduced : (k.group members).Reduced P) :
    2 ≤ members.length ∧ (∀ m ∈ members, m.Reduced P) ∧ ∀ m ∈ members, k.isGroup m = false := by
  cases k with
  | and =>
      cases reduced with
      | leaf isLeaf => simp [Connective.group, Condition.isLeaf] at isLeaf
      | conjunction two reduced flat => exact ⟨two, reduced, flat⟩
  | or =>
      cases reduced with
      | leaf isLeaf => simp [Connective.group, Condition.isLeaf] at isLeaf
      | disjunction two reduced flat => exact ⟨two, reduced, flat⟩

theorem Reduced.parts_eq {c : Condition} (reduced : c.Reduced P) (k : Connective) :
    k.parts c = [c] ∧ k.isGroup c = false ∨
      c = k.group (k.parts c) ∧ 2 ≤ (k.parts c).length ∧
        ∀ m ∈ k.parts c, m.Reduced P ∧ k.isGroup m = false := by
  by_cases grouped : k.isGroup c = true
  · obtain ⟨members, rfl⟩ := k.exists_group grouped
    obtain ⟨two, inside, flat⟩ := reduced.of_group
    rw [Connective.parts_group, filter_of_reduced inside]
    exact .inr ⟨rfl, two, fun m member => ⟨inside m member, flat m member⟩⟩
  · have apart := Bool.eq_false_iff.mpr grouped
    exact .inl ⟨Connective.parts_of_single reduced.isNeutral apart, apart⟩

theorem NeutralOrReduced.reduced_of_mem_parts {c : Condition} (normal : c.NeutralOrReduced P)
    (k : Connective) :
    ∀ m ∈ k.parts c, m.Reduced P ∧ k.isGroup m = false := by
  intro m member
  rcases normal with rfl | reduced
  · rw [Connective.parts_neutral] at member
    exact absurd member List.not_mem_nil
  · rcases reduced.parts_eq k with ⟨single, apart⟩ | ⟨-, -, inside⟩
    · rw [single] at member
      obtain rfl := List.mem_singleton.mp member
      exact ⟨reduced, apart⟩
    · exact inside m member

theorem reduced_of_mem_flatMap_parts {cs : List Condition} (normal : ∀ c ∈ cs, c.NeutralOrReduced P)
    (k : Connective) : ∀ m ∈ cs.flatMap k.parts, m.Reduced P ∧ k.isGroup m = false := by
  intro m member
  obtain ⟨c, among, part⟩ := List.mem_flatMap.mp member
  exact (normal c among).reduced_of_mem_parts k m part

theorem neutralOrReduced_join {k : Connective} {cs : List Condition}
    (normal : ∀ c ∈ cs, c.NeutralOrReduced P) :
    (k.join cs).NeutralOrReduced P := by
  rw [Connective.join_eq]
  have inside := reduced_of_mem_flatMap_parts normal k
  cases parts : cs.flatMap k.parts with
  | nil => exact .inl rfl
  | cons c rest =>
      rw [parts] at inside
      cases rest with
      | nil => exact .inr (inside c List.mem_cons_self).1
      | cons d rest =>
          have two : 2 ≤ (c :: d :: rest).length := by simp
          exact .inr (.group two (fun m member => (inside m member).1)
            fun m member => (inside m member).2)

theorem Reduced.negate_eq {c : Condition} (reduced : c.Reduced P) :
    c.isNegation = false ∧ c.negate = .negation c ∨
      ∃ operand, c = .negation operand ∧ operand.Reduced P ∧ c.negate = operand := by
  have written := reduced.isNeutral
  by_cases negated : c.isNegation = true
  · cases reduced with
    | leaf isLeaf => cases c <;> simp_all [Condition.isLeaf, isNegation]
    | conjunction => exact absurd negated Bool.false_ne_true
    | disjunction => exact absurd negated Bool.false_ne_true
    | @negation operand inner single =>
        refine .inr ⟨operand, rfl, inner, ?_⟩
        rw [negate, written]
        rfl
  · refine .inl ⟨Bool.eq_false_iff.mpr negated, ?_⟩
    unfold negate
    rw [written]
    cases c with
    | negation operand => exact absurd rfl negated
    | _ => rfl

theorem neutralOrReduced_negate {c : Condition} (normal : c.NeutralOrReduced P) :
    c.negate.NeutralOrReduced P := by
  rcases normal with rfl | reduced
  · exact .inl rfl
  · rcases reduced.negate_eq with ⟨single, negated⟩ | ⟨operand, -, inner, negated⟩
    · rw [negated]
      exact .inr (.negation reduced single)
    · rw [negated]
      exact .inr inner

end Condition

namespace Recipe

mutual

theorem build_neutralOrReduced : (r : Recipe) → r.build.NeutralOrReduced (· ∈ r.leaves)
  | .leaf _ isLeaf => .inr (.leaf isLeaf List.mem_cons_self)
  | .neutral => .inl rfl
  | .all parts => Condition.neutralOrReduced_join (k := .and) (buildAll_neutralOrReduced parts)
  | .any parts => Condition.neutralOrReduced_join (k := .or) (buildAll_neutralOrReduced parts)
  | .negate operand => Condition.neutralOrReduced_negate (build_neutralOrReduced operand)

theorem buildAll_neutralOrReduced :
    (rs : List Recipe) → ∀ c ∈ buildAll rs, c.NeutralOrReduced (· ∈ allLeaves rs)
  | [] => by simp [buildAll]
  | r :: rs => by
      intro c member
      rcases List.mem_cons.mp member with rfl | member
      · exact (build_neutralOrReduced r).mono fun a among => List.mem_append_left _ among
      · exact (buildAll_neutralOrReduced rs c member).mono
          fun a among => List.mem_append_right _ among

end

end Recipe
end SqlBuilder
