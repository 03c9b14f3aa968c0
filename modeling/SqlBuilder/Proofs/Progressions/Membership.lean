import Mathlib.Order.Compare
import SqlBuilder.Progression.Membership
import SqlBuilder.Proofs.Evaluation.Row
import SqlBuilder.Proofs.Progressions.Enumeration

namespace SqlBuilder

namespace ElementType

theorem datum_value (type : ElementType) (n : Int) :
    (type.value n).datum = some (type.value n) := by
  cases type <;> rfl

theorem code_of_contains {n : Int} (inside : char.contains n = true) :
    ((Char.ofNat n.toNat).toNat : Int) = n := by
  simp only [contains, Bool.and_eq_true, Bool.or_eq_true, decide_eq_true_iff] at inside
  have valid : n.toNat.isValidChar := by
    unfold Nat.isValidChar
    omega
  have code : (Char.ofNat n.toNat).toNat = n.toNat := by
    rw [Char.ofNat, dif_pos valid]
    rfl
  rw [code]
  omega

end ElementType

namespace Server

variable (server : Server) {type : ElementType}

theorem order?_value {m n : Int} (first : type.contains m = true)
    (second : type.contains n = true) :
    server.order? (type.value m) (type.value n) = some (compare m n) := by
  cases type with
  | int4 =>
      simp only [ElementType.contains, Bool.and_eq_true, decide_eq_true_iff] at first second
      rw [ElementType.value, ElementType.value, server.order?_int4,
        Int32.toInt_ofInt_of_le (by omega) (by omega),
        Int32.toInt_ofInt_of_le (by omega) (by omega)]
  | int8 =>
      simp only [ElementType.contains, Bool.and_eq_true, decide_eq_true_iff] at first second
      rw [ElementType.value, ElementType.value, server.order?_int8,
        Int64.toInt_ofInt_of_le (by omega) (by omega),
        Int64.toInt_ofInt_of_le (by omega) (by omega)]
  | char =>
      rw [ElementType.value, ElementType.value, server.order?_char,
        ElementType.code_of_contains first, ElementType.code_of_contains second]

section Elements

variable {n : Int} (element : type.contains n = true)
include element

theorem compared_value (test : Ordering → Bool) {m : Int} (other : type.contains m = true) :
    server.compared test (some (type.value n)) (some (type.value m)) =
      .ofBool (test (compare n m)) := by
  rw [compared, server.order?_value element other]
  rfl

theorem isAmong_value {ms : List Int} (elements : ∀ m ∈ ms, type.contains m = true) :
    server.isAmong (some (type.value n)) (ms.map fun m => some (type.value m)) =
      .ofBool (decide (n ∈ ms)) := by
  unfold isAmong
  induction ms with
  | nil => rfl
  | cons m ms ih =>
      obtain ⟨first, rest⟩ := List.forall_mem_cons.mp elements
      have test : (compare n m).isEq = decide (n = m) := by
        rw [Bool.eq_iff_iff, Ordering.isEq_iff_eq_eq, Std.compare_eq_iff_eq, decide_eq_true_iff]
      rw [List.map_cons, List.map_cons, Connective.ofList_cons, ih rest, equal,
        server.compared_value element _ first, test, Connective.apply, Truth.or_ofBool]
      simp

theorem isBetween_value {low high : Int} (first : type.contains low = true)
    (last : type.contains high = true) :
    server.isBetween false (some (type.value n)) (some (type.value low)) (some (type.value high)) =
      .ofBool (decide (low ≤ n ∧ n ≤ high)) := by
  have above : (compare n low).isGE = decide (low ≤ n) := by
    rw [Bool.eq_iff_iff, Std.isGE_compare, decide_eq_true_iff]
  have below : (compare n high).isLE = decide (n ≤ high) := by
    rw [Bool.eq_iff_iff, Std.isLE_compare, decide_eq_true_iff]
  rw [isBetween, if_neg Bool.false_ne_true, isWithin, server.compared_value element _ first,
    server.compared_value element _ last, above, below, Truth.and_ofBool, Bool.decide_and]

end Elements

theorem isAmong_null {listed : List Datum} (nonempty : listed ≠ []) :
    server.isAmong none listed = .unknown := by
  unfold isAmong
  induction listed with
  | nil => exact absurd rfl nonempty
  | cons x listed ih =>
      rw [List.map_cons, Connective.ofList_cons]
      cases listed with
      | nil => rfl
      | cons y listed =>
          rw [ih (List.cons_ne_nil y listed)]
          rfl

theorem isBetween_null (low high : Datum) : server.isBetween false none low high = .unknown := rfl

end Server

namespace Progression

theorem Enumerates.mem_iff {type : ElementType} {first bound step : Int} {xs : List Int}
    (enumerates : Enumerates type first bound step xs) (n : Int) :
    n ∈ xs ↔ type.contains n = true ∧ ∃ k : Nat, n = first + k * step ∧ NotPast bound step n := by
  obtain ⟨count, counted, rfl⟩ := enumerates
  simp only [List.mem_filter, List.mem_map, List.mem_range]
  constructor
  · rintro ⟨⟨k, early, rfl⟩, inside⟩
    exact ⟨inside, k, rfl, (counted k).mp early⟩
  · rintro ⟨inside, k, rfl, early⟩
    exact ⟨⟨k, (counted k).mpr early, rfl⟩, inside⟩

theorem rangeEnds?_cases {p : Progression} {low high : Value}
    (ends : p.rangeEnds? = some (low, high)) :
    ∃ a b, low = p.type.value a ∧ high = p.type.value b ∧ p.type.contains a = true ∧
      p.type.contains b = true ∧
      (p.step = 1 ∧ a = p.first ∧ b = p.last ∨ p.step = -1 ∧ a = p.last ∧ b = p.first) := by
  unfold rangeEnds? at ends
  split at ends
  · rename_i elements
    obtain ⟨first, last⟩ := Bool.and_eq_true_iff.mp elements
    split at ends
    · rename_i ascending
      obtain ⟨rfl, rfl⟩ := Prod.mk.inj (Option.some.inj ends)
      exact ⟨p.first, p.last, rfl, rfl, first, last, .inl ⟨ascending, rfl, rfl⟩⟩
    · split at ends
      · rename_i descending
        obtain ⟨rfl, rfl⟩ := Prod.mk.inj (Option.some.inj ends)
        exact ⟨p.last, p.first, rfl, rfl, last, first, .inr ⟨descending, rfl, rfl⟩⟩
      · cases ends
  · cases ends

namespace Settled

variable {p : Progression} (settled : p.Settled) (nonempty : p.isEmpty = false)
include settled nonempty

theorem enumerates : Enumerates p.type p.first p.last p.step p.elements := by
  have reached := reaches_of_nonempty nonempty
  obtain ⟨k, last, elements⟩ := settled.elements_eq nonempty
  refine ⟨k + 1, fun i => ?_, ?_⟩
  · rw [notPast_steps_iff settled.moving reached, last, stepCount_of_steps settled.moving,
      Nat.lt_succ_iff]
  · rw [elements, walk_eq]

theorem contains_of_mem {n : Int} (member : n ∈ p.elements) : p.type.contains n = true :=
  (((settled.enumerates nonempty).mem_iff n).mp member).1

theorem elements_ne_nil : p.elements ≠ [] := by
  rw [Ne, ← settled.isEmpty_iff, nonempty]
  exact Bool.false_ne_true

theorem rangeEnds?_spec {low high : Value} (ends : p.rangeEnds? = some (low, high)) :
    ∃ a b, low = p.type.value a ∧ high = p.type.value b ∧ p.type.contains a = true ∧
      p.type.contains b = true ∧
      ∀ n, p.type.contains n = true → (n ∈ p.elements ↔ a ≤ n ∧ n ≤ b) := by
  have elements := (settled.enumerates nonempty).mem_iff
  obtain ⟨a, b, lower, upper, insideLow, insideHigh, way⟩ := rangeEnds?_cases ends
  refine ⟨a, b, lower, upper, insideLow, insideHigh, fun n element => ?_⟩
  rcases way with ⟨ascending, rfl, rfl⟩ | ⟨descending, rfl, rfl⟩
  · rw [elements, ascending]
    constructor
    · rintro ⟨-, k, equal, early, -⟩
      have := early Int.one_pos
      omega
    · rintro ⟨above, below⟩
      exact ⟨element, (n - p.first).toNat, by omega, fun _ => below, by omega⟩
  · rw [elements, descending]
    constructor
    · rintro ⟨-, k, equal, -, early⟩
      have := early (by decide)
      omega
    · rintro ⟨above, below⟩
      exact ⟨element, (p.first - n).toNat, by omega, by omega, fun _ => above⟩

end Settled

variable {p : Progression} (settled : p.Settled) (nonempty : p.isEmpty = false) (row : Row)
  (field : Expr) (negated : Bool)

theorem data_values : (p.values.map Expr.bind).map (Expr.datum row) =
    p.elements.map fun m => some (p.type.value m) := by
  rw [values, List.map_map, List.map_map]
  apply List.map_congr_left
  intro m _
  exact p.type.datum_value m

theorem holds_range (type : ElementType) (a b : Int) :
    (Condition.range field ⟨false, negated⟩ (.bind (type.value a))
        (.bind (type.value b))).holds row =
      .notIf negated (row.server.isBetween false (field.datum row) (some (type.value a))
        (some (type.value b))) := by
  rw [← type.datum_value a, ← type.datum_value b]
  rfl

include settled nonempty

theorem holds_memberOf : (field.memberOf negated (p.values.map .bind)).holds row =
    .notIf negated (row.server.isAmong (field.datum row)
      (p.elements.map fun m => some (p.type.value m))) := by
  have listed : (p.values.map Expr.bind).isEmpty = false := by
    simp [values, settled.elements_ne_nil nonempty]
  rw [Expr.memberOf, listed, if_neg Bool.false_ne_true, ← data_values row]
  rfl

theorem holds_inProgression
    (stored : field.datum row = none ∨
      ∃ n, p.type.contains n = true ∧ field.datum row = some (p.type.value n)) :
    (field.inProgression negated p).holds row =
      (field.memberOf negated (p.values.map .bind)).holds row := by
  unfold Expr.inProgression
  cases ends : p.rangeEnds? with
  | none => rfl
  | some pair =>
      obtain ⟨low, high⟩ := pair
      obtain ⟨a, b, rfl, rfl, first, last, between⟩ := settled.rangeEnds?_spec nonempty ends
      rw [holds_memberOf settled nonempty, holds_range]
      rcases stored with null | ⟨n, element, value⟩
      · have listed : p.elements.map (fun m => some (p.type.value m)) ≠ [] := by
          simp [settled.elements_ne_nil nonempty]
        rw [null, Server.isBetween_null, Server.isAmong_null _ listed]
      · have members : ∀ m ∈ p.elements, p.type.contains m = true :=
          fun m member => settled.contains_of_mem nonempty member
        rw [value, Server.isBetween_value _ element first last,
          Server.isAmong_value _ element members, decide_eq_decide.mpr (between n element)]

theorem holds_inProgression_iff {n : Int} (element : p.type.contains n = true)
    (value : field.datum row = some (p.type.value n)) :
    (field.inProgression false p).holds row = .yes ↔ n ∈ p.elements := by
  have members : ∀ m ∈ p.elements, p.type.contains m = true :=
    fun m member => settled.contains_of_mem nonempty member
  rw [holds_inProgression settled nonempty row field false (.inr ⟨n, element, value⟩),
    holds_memberOf settled nonempty, value, Server.isAmong_value _ element members,
    Truth.notIf_ofBool, Truth.ofBool_eq_yes_iff]
  simp

omit settled nonempty

theorem membership_agrees {p : Progression} (reachable : p.Reachable) (nonempty : p.isEmpty = false)
    (row : Row) (field : Expr)
    (stored : field.datum row = none ∨
      ∃ n, p.type.contains n = true ∧ field.datum row = some (p.type.value n)) :
    (∀ negated, (field.inProgression negated p).holds row =
      (field.memberOf negated (p.values.map .bind)).holds row) ∧
    ∀ n, p.type.contains n = true → field.datum row = some (p.type.value n) →
      ((field.inProgression false p).holds row = .yes ↔ n ∈ p.elements) := by
  have settled := reachable.settled
  constructor
  · intro negated
    exact holds_inProgression settled nonempty row field negated stored
  · intro n element value
    exact holds_inProgression_iff settled nonempty row field element value

def beforeGap : Row := ⟨.ascii, fun _ => some (ElementType.char.value 0xd7ff), fun _ => .unknown⟩

def grade : Expr := .column ⟨[], .quoted "grade"⟩

theorem membership_agrees_acrossGap :
    (grade.inProgression true acrossGap).holds beforeGap =
      (grade.memberOf true (acrossGap.values.map .bind)).holds beforeGap ∧
    (grade.inProgression false acrossGap).holds beforeGap = .yes := by
  have reachable : acrossGap.Reachable := .descending (by decide) (by decide)
  obtain ⟨agree, among⟩ := membership_agrees reachable (by decide +kernel) beforeGap grade
    (.inr ⟨0xd7ff, by decide, rfl⟩)
  exact ⟨agree true, (among 0xd7ff (by decide) rfl).mpr (by decide +kernel)⟩

end Progression
end SqlBuilder
