import SqlBuilder.Proofs.Progressions.Membership

namespace SqlBuilder.Progression

def IsRange (p : Progression) : Prop :=
  p.type.contains p.last = true ∧ (p.step = 1 ∨ p.step = -1)

theorem rangeEnds?_of_not_isRange {p : Progression} (listed : ¬ p.IsRange) :
    p.rangeEnds? = none := by
  cases ends : p.rangeEnds? with
  | none => rfl
  | some pair =>
      obtain ⟨a, b, -, -, low, high, way⟩ := rangeEnds?_cases ends
      exfalso
      apply listed
      rcases way with ⟨ascending, rfl, rfl⟩ | ⟨descending, rfl, rfl⟩
      · exact ⟨high, .inl ascending⟩
      · exact ⟨low, .inr descending⟩

namespace Settled

variable {p : Progression} (settled : p.Settled)
include settled

theorem exists_rangeEnds? (isRange : p.IsRange) : ∃ low high, p.rangeEnds? = some (low, high) := by
  obtain ⟨last, unit⟩ := isRange
  unfold rangeEnds?
  rw [settled.first, last, Bool.and_self, if_pos rfl]
  rcases unit with ascending | descending
  · rw [if_pos ascending]
    exact ⟨_, _, rfl⟩
  · rw [descending, if_neg (by decide), if_pos rfl]
    exact ⟨_, _, rfl⟩

theorem reversed_ends (emptiness : p.isEmpty = true) {low high : Value}
    (ends : p.rangeEnds? = some (low, high)) :
    ∃ a b, low = p.type.value a ∧ high = p.type.value b ∧ p.type.contains a = true ∧
      p.type.contains b = true ∧ b < a := by
  obtain ⟨a, b, lower, upper, insideLow, insideHigh, way⟩ := rangeEnds?_cases ends
  refine ⟨a, b, lower, upper, insideLow, insideHigh, ?_⟩
  have missed : ¬ NotPast p.last p.step p.first := by
    rw [← reaches_eq_true_iff settled.moving]
    simpa [isEmpty] using emptiness
  unfold NotPast at missed
  rcases way with ⟨ascending, rfl, rfl⟩ | ⟨descending, rfl, rfl⟩ <;> omega

end Settled

variable {p : Progression} (settled : p.Settled) (emptiness : p.isEmpty = true) (row : Row)
  (field : Expr) (negated : Bool)

theorem holds_memberOf_nil : (field.memberOf negated []).holds row = .ofBool negated := rfl

include settled emptiness

theorem holds_of_not_isRange (listed : ¬ p.IsRange) :
    (field.inProgression negated p).holds row = .ofBool negated := by
  have values : p.values = [] := by
    rw [Progression.values, settled.isEmpty_iff.mp emptiness, List.map_nil]
  rw [Expr.inProgression, rangeEnds?_of_not_isRange listed, values]
  exact holds_memberOf_nil row field negated

theorem holds_of_element {n : Int} (element : p.type.contains n = true)
    (value : field.datum row = some (p.type.value n)) :
    (field.inProgression negated p).holds row = .ofBool negated := by
  by_cases isRange : p.IsRange
  · obtain ⟨low, high, ends⟩ := settled.exists_rangeEnds? isRange
    obtain ⟨a, b, rfl, rfl, first, last, reversed⟩ := settled.reversed_ends emptiness ends
    have outside : ¬ (a ≤ n ∧ n ≤ b) := by omega
    rw [Expr.inProgression, ends]
    simp only [holds_range]
    rw [value, Server.isBetween_value _ element first last, Truth.notIf_ofBool,
      decide_eq_false outside, Bool.false_bne]
  · exact holds_of_not_isRange settled emptiness row field negated isRange

omit emptiness in
theorem holds_of_null (isRange : p.IsRange) (null : field.datum row = none) :
    (field.inProgression negated p).holds row = .unknown := by
  obtain ⟨low, high, ends⟩ := settled.exists_rangeEnds? isRange
  obtain ⟨a, b, rfl, rfl, -⟩ := rangeEnds?_cases ends
  rw [Expr.inProgression, ends]
  simp only [holds_range]
  rw [null, Server.isBetween_null]
  cases negated <;> rfl

omit settled emptiness

/-- Nothing is in an empty progression, as nothing is in an empty list. The one exception is NULL
asked of a range, for which both answers are unknown. -/
theorem membership_of_empty {p : Progression} (reachable : p.Reachable)
    (emptiness : p.isEmpty = true)
    (row : Row) (field : Expr)
    (stored : field.datum row = none ∨
      ∃ n, p.type.contains n = true ∧ field.datum row = some (p.type.value n)) :
    (¬ (p.IsRange ∧ field.datum row = none) →
      (field.inProgression false p).holds row = .no ∧
      (field.inProgression true p).holds row = .yes ∧
      ∀ negated, (field.inProgression negated p).holds row =
        (field.memberOf negated []).holds row) ∧
    (p.IsRange ∧ field.datum row = none →
      ∀ negated, (field.inProgression negated p).holds row = .unknown) := by
  have settled := reachable.settled
  constructor
  · intro decided
    have answer : ∀ negated, (field.inProgression negated p).holds row = .ofBool negated := by
      intro negated
      rcases stored with null | ⟨n, element, value⟩
      · have listed : ¬ p.IsRange := fun isRange => decided ⟨isRange, null⟩
        exact holds_of_not_isRange settled emptiness row field negated listed
      · exact holds_of_element settled emptiness row field negated element value
    exact ⟨answer false, answer true,
      fun negated => (answer negated).trans (holds_memberOf_nil row field negated).symm⟩
  · rintro ⟨isRange, null⟩ negated
    exact holds_of_null settled row field negated isRange null

def allNull : Row := ⟨.ascii, fun _ => none, fun _ => .unknown⟩

theorem membership_of_empty_afterGap :
    (grade.inProgression false (below .char 0xe000 0xe000)).holds allNull = .no ∧
    (grade.inProgression true (upTo .char 0xe000 0xd7ff)).holds beforeGap = .yes ∧
    (grade.inProgression true (upTo .char 0xe000 0xd7ff)).holds allNull = .unknown := by
  have exclusive : (below .char 0xe000 0xe000).Reachable := .exclusive (by decide) (by decide)
  have inclusive : (upTo .char 0xe000 0xd7ff).Reachable := .ascending (by decide) (by decide)
  have isRange : (upTo .char 0xe000 0xd7ff).IsRange := ⟨by decide, .inl (by decide)⟩
  have listed : ¬ (below .char 0xe000 0xe000).IsRange :=
    fun isRange => absurd isRange.1 (by decide)
  have stored : grade.datum beforeGap = some (ElementType.char.value 0xd7ff) := rfl
  refine ⟨?_, ?_, ?_⟩
  · exact ((membership_of_empty exclusive (by decide) allNull grade (.inl rfl)).1
      fun undecided => listed undecided.1).1
  · exact ((membership_of_empty inclusive (by decide) beforeGap grade
      (.inr ⟨0xd7ff, by decide, stored⟩)).1 fun undecided => by
        rw [stored] at undecided
        cases undecided.2).2.1
  · exact (membership_of_empty inclusive (by decide) allNull grade (.inl rfl)).2
      ⟨isRange, rfl⟩ true

theorem membership_of_empty_null :
    ¬ ∀ (p : Progression) (row : Row) (field : Expr), p.Reachable → p.isEmpty = true →
      (field.datum row = none ∨
        ∃ n, p.type.contains n = true ∧ field.datum row = some (p.type.value n)) →
      (field.inProgression false p).holds row = .no ∧
        (field.inProgression true p).holds row = .yes := by
  intro decided
  have backward : (upTo .int4 5 1).Reachable := .ascending (by decide) (by decide)
  have answers := decided (upTo .int4 5 1) allNull grade backward (by decide) (.inl rfl)
  have unknown : (grade.inProgression false (upTo .int4 5 1)).holds allNull = .unknown := by
    decide +kernel
  rw [unknown] at answers
  cases answers.1

end SqlBuilder.Progression
