import Mathlib.Data.List.Basic
import Mathlib.Data.List.Range
import Mathlib.Tactic.Ring
import Mathlib.Algebra.Order.Ring.Int
import SqlBuilder.Progression.Basic

namespace SqlBuilder.Progression

def NotPast (bound step value : Int) : Prop :=
  (0 < step → value ≤ bound) ∧ (step < 0 → bound ≤ value)

/-- The values after `count` steps and later are those beyond the bound. -/
def Enumerates (type : ElementType) (first bound step : Int) (xs : List Int) : Prop :=
  ∃ count : Nat, (∀ k : Nat, k < count ↔ NotPast bound step (first + k * step)) ∧
    xs = ((List.range count).map fun k : Nat => first + k * step).filter (type.contains ·)

inductive Reachable : Progression → Prop
  | between {type : ElementType} {first last step : Int} {p : Progression} :
      type.contains first = true → type.contains last = true →
      Progression.closed type first last step = .ok p → Reachable p
  | ascending {type : ElementType} {first last : Int} :
      type.contains first = true → type.contains last = true → Reachable (.upTo type first last)
  | exclusive {type : ElementType} {first bound : Int} :
      type.contains first = true → type.contains bound = true → Reachable (.below type first bound)
  | descending {type : ElementType} {first last : Int} :
      type.contains first = true → type.contains last = true → Reachable (.downTo type first last)
  | restepped {p q : Progression} {step : Int} :
      Reachable p → p.restep step = .ok q → Reachable q

def start (p : Progression) : Option Int := if p.isEmpty then none else some p.first

/-- A turn stops at the last element, and at no other value. A value that is no element of the type
is passed over. -/
inductive Yields (p : Progression) : Option Int → List Int → Prop
  | stop : Yields p none []
  | turn {value : Int} {rest : List Int} :
      Yields p (if value = p.last then none else some (value + p.step)) rest →
      Yields p (some value) (if p.type.contains value then value :: rest else rest)

theorem Yields.unique {p : Progression} {next : Option Int} {xs ys : List Int}
    (first : p.Yields next xs) (second : p.Yields next ys) : xs = ys := by
  induction first generalizing ys with
  | stop =>
      cases second
      rfl
  | turn _ ih =>
      cases second with
      | turn rest => rw [ih rest]

theorem stepCount_of_steps {step : Int} (moving : step ≠ 0) (first : Int) (k : Nat) :
    stepCount first (first + k * step) step = k := by
  have size : 0 < step.natAbs := Int.natAbs_pos.mpr moving
  rw [stepCount, add_sub_cancel_left, Int.natAbs_mul, Int.natAbs_natCast]
  exact Nat.mul_div_cancel k size

theorem reaches_congr {step other : Int} (direction : 0 < step ↔ 0 < other) (first bound : Int) :
    reaches first bound step = reaches first bound other := by
  simp only [reaches, direction]

theorem reaches_eq_true_iff {first bound step : Int} (moving : step ≠ 0) :
    reaches first bound step = true ↔ NotPast bound step first := by
  unfold reaches NotPast
  split <;> simp <;> omega

theorem notPast_steps_iff {first bound step : Int} (moving : step ≠ 0)
    (reached : reaches first bound step = true) (k : Nat) :
    NotPast bound step (first + k * step) ↔ k ≤ stepCount first bound step := by
  have size : 0 < step.natAbs := Int.natAbs_pos.mpr moving
  rw [stepCount, Nat.le_div_iff_mul_le size]
  rw [reaches_eq_true_iff moving] at reached
  obtain ⟨up, down⟩ := reached
  rcases lt_or_gt_of_ne moving with descending | ascending
  · have width : ((bound - first).natAbs : Int) = first - bound := by
      have := down descending
      omega
    have length : ((k * step.natAbs : Nat) : Int) = -(k * step) := by
      rw [Nat.cast_mul, Int.ofNat_natAbs_of_nonpos descending.le]
      ring
    constructor
    · intro ⟨_, inside⟩
      have := inside descending
      omega
    · intro bounded
      exact ⟨fun ascending => absurd ascending descending.not_gt, fun _ => by omega⟩
  · have width : ((bound - first).natAbs : Int) = bound - first := by
      have := up ascending
      omega
    have length : ((k * step.natAbs : Nat) : Int) = k * step := by
      rw [Nat.cast_mul, Int.natAbs_of_nonneg ascending.le]
    constructor
    · intro ⟨inside, _⟩
      have := inside ascending
      omega
    · intro bounded
      exact ⟨fun _ => by omega, fun descending => absurd descending ascending.not_gt⟩

theorem steps_nonneg {step : Int} (ascending : 0 < step) (k : Nat) : 0 ≤ k * step :=
  mul_nonneg (Int.natCast_nonneg k) ascending.le

theorem steps_nonpos {step : Int} (descending : step < 0) (k : Nat) : k * step ≤ 0 :=
  mul_nonpos_of_nonneg_of_nonpos (Int.natCast_nonneg k) descending.le

theorem reaches_steps {step : Int} (moving : step ≠ 0) (first : Int) (k : Nat) :
    reaches first (first + k * step) step = true := by
  rw [reaches_eq_true_iff moving]
  constructor
  · intro ascending
    have := steps_nonneg ascending k
    omega
  · intro descending
    have := steps_nonpos descending k
    omega

theorem not_notPast_steps {first bound step : Int} (moving : step ≠ 0)
    (missed : reaches first bound step = false) (k : Nat) :
    ¬ NotPast bound step (first + k * step) := by
  have beyond : ¬ NotPast bound step first := by
    rw [← reaches_eq_true_iff moving, missed]
    exact Bool.false_ne_true
  intro inside
  apply beyond
  constructor
  · intro ascending
    have := inside.1 ascending
    have := steps_nonneg ascending k
    omega
  · intro descending
    have := inside.2 descending
    have := steps_nonpos descending k
    omega

theorem reaches_of_nonempty {p : Progression} (nonempty : p.isEmpty = false) :
    reaches p.first p.last p.step = true := by
  simpa [isEmpty] using nonempty

theorem lastElement_spec {type : ElementType} {first : Int} (step : Int)
    (element : type.contains first = true) (k : Nat) :
    ∃ j ≤ k, lastElement type first step k = first + j * step ∧
      type.contains (first + j * step) = true ∧
      ∀ i : Nat, j < i → i ≤ k → type.contains (first + i * step) = false := by
  induction k with
  | zero =>
      refine ⟨0, le_rfl, by simp [lastElement], by simpa using element, ?_⟩
      intro i above below
      omega
  | succ k ih =>
      rw [lastElement]
      by_cases found : type.contains (first + (k + 1 : Nat) * step) = true
      · refine ⟨k + 1, le_rfl, if_pos found, found, ?_⟩
        intro i above below
        omega
      · obtain ⟨j, bounded, value, inside, others⟩ := ih
        refine ⟨j, by omega, by rw [if_neg found, value], inside, ?_⟩
        intro i above below
        rcases Nat.lt_or_eq_of_le below with earlier | rfl
        · exact others i above (by omega)
        · simpa using found

/-- A progression with its last element found: it is so many steps after the first one, unless the
progression is empty. -/
structure Settled (p : Progression) : Prop where
  moving : p.step ≠ 0
  first : p.type.contains p.first = true
  last : p.isEmpty = false →
    p.type.contains p.last = true ∧ ∃ k : Nat, p.last = p.first + k * p.step

section Normalized

variable {type : ElementType} {first bound step : Int} (element : type.contains first = true)
  (moving : step ≠ 0)

theorem normalized_of_missed (missed : reaches first bound step = false) :
    normalized type first bound step = ⟨type, first, bound, step⟩ := by
  rw [normalized, missed]
  rfl

theorem type_normalized : (normalized type first bound step).type = type := by
  unfold normalized
  split <;> rfl

theorem first_normalized : (normalized type first bound step).first = first := by
  unfold normalized
  split <;> rfl

theorem step_normalized : (normalized type first bound step).step = step := by
  unfold normalized
  split <;> rfl

include element

theorem normalized_of_reached (reached : reaches first bound step = true) :
    ∃ j ≤ stepCount first bound step,
      normalized type first bound step = ⟨type, first, first + j * step, step⟩ ∧
      type.contains (first + j * step) = true ∧
      ∀ i : Nat, j < i → i ≤ stepCount first bound step →
        type.contains (first + i * step) = false := by
  obtain ⟨j, bounded, value, inside, others⟩ :=
    lastElement_spec step element (stepCount first bound step)
  refine ⟨j, bounded, ?_, inside, others⟩
  rw [normalized, reached, value]
  rfl

include moving

theorem isEmpty_normalized :
    (normalized type first bound step).isEmpty = !reaches first bound step := by
  cases reached : reaches first bound step with
  | false => rw [normalized_of_missed reached, isEmpty, reached]
  | true =>
      obtain ⟨j, -, value, -⟩ := normalized_of_reached element reached
      rw [value, isEmpty, reaches_steps moving]

theorem settled_normalized : (normalized type first bound step).Settled where
  moving := by rwa [step_normalized]
  first := by rwa [type_normalized, first_normalized]
  last := by
    intro nonempty
    have reached : reaches first bound step = true := by
      simpa [isEmpty_normalized element moving] using nonempty
    obtain ⟨j, -, value, inside, -⟩ := normalized_of_reached element reached
    rw [value]
    exact ⟨inside, j, rfl⟩

end Normalized

theorem walk_eq (type : ElementType) (step : Int) (k : Nat) (value : Int) :
    walk type step k value =
      ((List.range (k + 1)).map fun i : Nat => value + i * step).filter (type.contains ·) := by
  induction k generalizing value with
  | zero =>
      rw [walk]
      split <;> simp_all
  | succ k ih =>
      have shifted : ((List.range (k + 1)).map fun i : Nat => value + step + i * step) =
          (List.range (k + 1)).map ((fun i : Nat => value + i * step) ∘ Nat.succ) := by
        apply List.map_congr_left
        intro i _
        simp only [Function.comp_apply, Nat.cast_succ]
        ring
      rw [walk, ih, shifted, List.range_succ_eq_map (n := k + 1), List.map_cons, List.map_map,
        List.filter_cons]
      simp

theorem filter_range_of_others {type : ElementType} {first step : Int} {j n : Nat} (bounded : j ≤ n)
    (others : ∀ i : Nat, j < i → i ≤ n → type.contains (first + i * step) = false) :
    ((List.range (j + 1)).map fun i : Nat => first + i * step).filter (type.contains ·) =
      ((List.range (n + 1)).map fun i : Nat => first + i * step).filter (type.contains ·) := by
  induction n, bounded using Nat.le_induction with
  | base => rfl
  | succ n above ih =>
      have last := others (n + 1) (by omega) le_rfl
      rw [ih fun i after before => others i after (by omega), List.range_succ (n := n + 1),
        List.map_append, List.filter_append]
      simpa using last

namespace Settled

variable {p : Progression} (settled : p.Settled)
include settled

theorem elements_eq (nonempty : p.isEmpty = false) :
    ∃ k : Nat, p.last = p.first + k * p.step ∧ p.elements = walk p.type p.step k p.first := by
  obtain ⟨-, k, last⟩ := settled.last nonempty
  refine ⟨k, last, ?_⟩
  rw [elements, nonempty, last, stepCount_of_steps settled.moving]
  rfl

theorem head?_elements : p.first? = p.elements.head? := by
  cases emptiness : p.isEmpty with
  | true => simp [first?, elements, emptiness]
  | false =>
      obtain ⟨k, -, elements⟩ := settled.elements_eq emptiness
      rw [first?, emptiness, elements]
      cases k <;> simp [walk, settled.first]

theorem getLast?_elements : p.last? = p.elements.getLast? := by
  cases emptiness : p.isEmpty with
  | true => simp [last?, elements, emptiness]
  | false =>
      obtain ⟨inside, -⟩ := settled.last emptiness
      obtain ⟨k, last, elements⟩ := settled.elements_eq emptiness
      rw [last] at inside
      rw [last?, emptiness, elements, walk_eq, List.range_succ, List.map_append, List.filter_append]
      simp [inside, last]

theorem isEmpty_iff : p.isEmpty = true ↔ p.elements = [] := by
  cases emptiness : p.isEmpty with
  | true => simp [elements, emptiness]
  | false =>
      have head := settled.head?_elements
      rw [first?, emptiness] at head
      constructor
      · intro impossible
        cases impossible
      · intro none
        rw [none] at head
        simp at head

theorem yields_walk {k : Nat} {value : Int} (distance : p.last = value + k * p.step) :
    p.Yields (some value) (walk p.type p.step k value) := by
  induction k generalizing value with
  | zero =>
      have last : value = p.last := by simp [distance]
      have rest : p.Yields (if value = p.last then none else some (value + p.step)) [] := by
        rw [if_pos last]
        exact .stop
      exact .turn rest
  | succ k ih =>
      have before : value ≠ p.last := by
        intro equal
        have steps : ((k + 1 : Nat) : Int) * p.step ≠ 0 :=
          mul_ne_zero (Nat.cast_ne_zero.mpr k.succ_ne_zero) settled.moving
        apply steps
        omega
      have next : p.last = value + p.step + k * p.step := by
        rw [distance, Nat.cast_succ]
        ring
      have rest : p.Yields (if value = p.last then none else some (value + p.step))
          (walk p.type p.step k (value + p.step)) := by
        rw [if_neg before]
        exact ih next
      exact .turn rest

theorem yields_elements : p.Yields p.start p.elements := by
  cases emptiness : p.isEmpty with
  | true =>
      have none : p.elements = [] := by simp [elements, emptiness]
      rw [start, emptiness, none]
      exact .stop
  | false =>
      obtain ⟨k, last, elements⟩ := settled.elements_eq emptiness
      rw [start, emptiness, elements]
      exact settled.yields_walk last

theorem yields_iff (xs : List Int) : p.Yields p.start xs ↔ xs = p.elements := by
  constructor
  · intro run
    exact run.unique settled.yields_elements
  · rintro rfl
    exact settled.yields_elements

end Settled

theorem enumerates_normalized {type : ElementType} {first step : Int} (bound : Int)
    (element : type.contains first = true) (moving : step ≠ 0) :
    Enumerates type first bound step (normalized type first bound step).elements := by
  cases reached : reaches first bound step with
  | false =>
      refine ⟨0, fun k => ?_, ?_⟩
      · have outside := not_notPast_steps moving reached k
        simp [outside]
      · simp [elements, isEmpty_normalized element moving, reached]
  | true =>
      obtain ⟨j, bounded, value, inside, others⟩ := normalized_of_reached element reached
      refine ⟨stepCount first bound step + 1, fun k => ?_, ?_⟩
      · rw [notPast_steps_iff moving reached, Nat.lt_succ_iff]
      · rw [value, elements, isEmpty, reaches_steps moving, stepCount_of_steps moving,
          ← filter_range_of_others bounded others, ← walk_eq]
        rfl

theorem Reachable.settled {p : Progression} (reachable : p.Reachable) : p.Settled := by
  induction reachable with
  | between first last made =>
      rename_i type a b step p
      unfold closed at made
      split at made
      · cases made
      · rename_i moving
        cases made
        exact settled_normalized first moving
  | ascending first last => exact settled_normalized first one_ne_zero
  | exclusive first bound => exact settled_normalized first one_ne_zero
  | descending first last => exact settled_normalized first (by decide)
  | restepped reachable made settled =>
      rename_i p q step
      unfold restep at made
      split at made
      · cases made
      · rename_i positive
        cases made
        apply settled_normalized settled.first
        split <;> omega

theorem restep_enumerates {p : Progression} (settled : p.Settled) {step : Int}
    (positive : 0 < step) :
    ∃ q, p.restep step = .ok q ∧ q.step = (if 0 < p.step then step else -step) ∧
      Enumerates p.type p.first p.last q.step q.elements ∧ q.isEmpty = p.isEmpty := by
  have moving : (if 0 < p.step then step else -step) ≠ 0 := by
    split <;> omega
  refine ⟨_, if_neg positive.not_ge, step_normalized, ?_, ?_⟩
  · rw [step_normalized]
    exact enumerates_normalized p.last settled.first moving
  · have direction : 0 < (if 0 < p.step then step else -step) ↔ 0 < p.step := by
      split <;> omega
    rw [isEmpty_normalized settled.first moving, reaches_congr direction, isEmpty]

theorem elements_enumerate :
    (∀ (type : ElementType) (first last step : Int), type.contains first = true →
      type.contains last = true → step ≠ 0 → ∃ p, closed type first last step = .ok p ∧
        Enumerates type first last step p.elements) ∧
    (∀ (type : ElementType) (first last : Int), type.contains first = true →
      type.contains last = true →
        Enumerates type first last 1 (upTo type first last).elements ∧
        Enumerates type first last (-1) (downTo type first last).elements ∧
        Enumerates type first (last - 1) 1 (below type first last).elements) ∧
    (∀ p : Progression, p.Reachable →
      (∀ step, 0 < step → ∃ q, p.restep step = .ok q ∧
        q.step = (if 0 < p.step then step else -step) ∧
        Enumerates p.type p.first p.last q.step q.elements ∧ q.isEmpty = p.isEmpty) ∧
      (p.isEmpty = true ↔ p.elements = []) ∧ p.first? = p.elements.head? ∧
      p.last? = p.elements.getLast? ∧ ∀ xs, p.Yields p.start xs ↔ xs = p.elements) := by
  refine ⟨?_, ?_, ?_⟩
  · intro type first last step element _ moving
    exact ⟨_, if_neg moving, enumerates_normalized last element moving⟩
  · intro type first last element _
    refine ⟨?_, ?_, ?_⟩
    · exact enumerates_normalized last element one_ne_zero
    · exact enumerates_normalized last element (by decide)
    · exact enumerates_normalized (last - 1) element one_ne_zero
  · intro p reachable
    have settled := reachable.settled
    exact ⟨fun step positive => restep_enumerates settled positive, settled.isEmpty_iff,
      settled.head?_elements, settled.getLast?_elements, settled.yields_iff⟩

def acrossGap : Progression := downTo .char 0xe001 0xd7fe

theorem elements_enumerate_acrossGap :
    (∃ p, closed .char 0xd7fe 0xe003 3 = .ok p ∧ Enumerates .char 0xd7fe 0xe003 3 p.elements) ∧
    Enumerates .char 0xd7fe 0xe000 1 (below .char 0xd7fe 0xe001).elements ∧
    (∃ q, acrossGap.restep 3 = .ok q ∧ q.step = -3 ∧
      Enumerates .char 0xe001 0xd7fe (-3) q.elements ∧ q.isEmpty = false) ∧
    acrossGap.Yields acrossGap.start [0xe001, 0xe000, 0xd7ff, 0xd7fe] := by
  obtain ⟨closed, ranges, every⟩ := elements_enumerate
  obtain ⟨resteps, -, -, -, yields⟩ := every acrossGap (.descending (by decide) (by decide))
  refine ⟨closed .char _ _ 3 (by decide) (by decide) (by decide), ?_, ?_, ?_⟩
  · exact (ranges .char 0xd7fe 0xe001 (by decide) (by decide)).2.2
  · obtain ⟨q, made, direction, enumerates, emptiness⟩ := resteps 3 (by decide)
    rw [direction] at enumerates
    exact ⟨q, made, direction, enumerates, emptiness⟩
  · exact (yields _).mpr (by decide +kernel)

end SqlBuilder.Progression
