import SqlBuilder.Proofs.Progressions.Enumeration

namespace SqlBuilder.Progression

theorem lastElement_eq_of_others {type : ElementType} {first step : Int} {j n : Nat}
    (bounded : j ≤ n)
    (others : ∀ i : Nat, j < i → i ≤ n → type.contains (first + i * step) = false) :
    lastElement type first step n = lastElement type first step j := by
  induction n, bounded using Nat.le_induction with
  | base => rfl
  | succ n above ih =>
      have last := others (n + 1) (by omega) le_rfl
      rw [lastElement, last, if_neg Bool.false_ne_true]
      exact ih fun i after before => others i after (by omega)

theorem stepCount_mul (first bound step : Int) (m : Nat) :
    stepCount first bound (m * step) = stepCount first bound step / m := by
  rw [stepCount, stepCount, Int.natAbs_mul, Int.natAbs_natCast, Nat.div_div_eq_div_mul,
    Nat.mul_comm]

theorem normalized_of_reaches {type : ElementType} {first bound step : Int}
    (reached : reaches first bound step = true) :
    normalized type first bound step =
      ⟨type, first, lastElement type first step (stepCount first bound step), step⟩ :=
  if_pos reached

section Grids

variable {type : ElementType} {first step : Int} (bound : Int) {m : Nat}
  (element : type.contains first = true) (moving : step ≠ 0) (multiple : 0 < m)
include element moving multiple

theorem lastElement_normalized (reached : reaches first bound step = true) :
    lastElement type first (m * step)
        (stepCount first (normalized type first bound step).last (m * step)) =
      lastElement type first (m * step) (stepCount first bound (m * step)) := by
  obtain ⟨j, bounded, value, -, others⟩ := normalized_of_reached element reached
  rw [value, stepCount_mul, stepCount_mul, stepCount_of_steps moving]
  symm
  apply lastElement_eq_of_others (Nat.div_le_div_right bounded)
  intro i above below
  have onFineGrid : first + i * (m * step) = first + (i * m : Nat) * step := by
    rw [Nat.cast_mul]
    ring
  rw [onFineGrid]
  apply others
  · exact (Nat.div_lt_iff_lt_mul multiple).mp above
  · exact (Nat.le_div_iff_mul_le multiple).mp below

theorem normalized_normalized :
    normalized type first (normalized type first bound step).last (m * step) =
      normalized type first bound (m * step) := by
  have direction : 0 < m * step ↔ 0 < step :=
    mul_pos_iff_of_pos_left (Int.natCast_pos.mpr multiple)
  cases reached : reaches first bound step with
  | false => rw [normalized_of_missed reached]
  | true =>
      have again : reaches first (normalized type first bound step).last step = true := by
        obtain ⟨j, -, value, -⟩ := normalized_of_reached element reached
        rw [value]
        exact reaches_steps moving first j
      rw [← reaches_congr direction] at again
      have alone : reaches first bound (m * step) = true := by
        rw [reaches_congr direction, reached]
      rw [normalized_of_reaches again, normalized_of_reaches alone,
        lastElement_normalized bound element moving multiple reached]

end Grids

def directed (p : Progression) (size : Int) : Int := if 0 < p.step then size else -size

theorem restep_of_pos (p : Progression) {size : Int} (positive : 0 < size) :
    p.restep size = .ok (normalized p.type p.first p.last (p.directed size)) :=
  if_neg positive.not_ge

theorem directed_ne_zero (p : Progression) {size : Int} (positive : 0 < size) :
    p.directed size ≠ 0 := by
  unfold directed
  split <;> omega

theorem directed_mul (p : Progression) (m : Nat) (size : Int) :
    p.directed (m * size) = m * p.directed size := by
  unfold directed
  split
  · rfl
  · ring

theorem directed_normalized (p : Progression) {size : Int} (positive : 0 < size) (other : Int) :
    (normalized p.type p.first p.last (p.directed size)).directed other = p.directed other := by
  have direction : 0 < p.directed size ↔ 0 < p.step := by
    unfold directed
    split <;> omega
  simp only [directed, step_normalized] at direction ⊢
  simp only [direction]

namespace Settled

variable {p : Progression} (settled : p.Settled)
include settled

theorem restep_multiple {a b : Int} (positive : 0 < a) (multiple : 0 < b) (divides : a ∣ b) :
    ∃ q r, p.restep a = .ok q ∧ q.restep b = .ok r ∧ p.restep b = .ok r := by
  obtain ⟨factor, rfl⟩ := divides
  have factor_pos : 0 < factor := pos_of_mul_pos_right multiple positive.le
  obtain ⟨m, rfl⟩ := Int.eq_ofNat_of_zero_le factor_pos.le
  have forgotten := normalized_normalized p.last settled.first (p.directed_ne_zero positive)
    (Int.natCast_pos.mp factor_pos)
  refine ⟨_, _, p.restep_of_pos positive, restep_of_pos _ multiple, ?_⟩
  rw [p.restep_of_pos multiple, directed_normalized p positive, type_normalized, first_normalized,
    mul_comm a, directed_mul, forgotten]

theorem normalized_self : normalized p.type p.first p.last p.step = p := by
  cases emptiness : p.isEmpty with
  | true =>
      have missed : reaches p.first p.last p.step = false := by
        simpa [isEmpty] using emptiness
      rw [normalized_of_missed missed]
  | false =>
      obtain ⟨inside, k, last⟩ := settled.last emptiness
      have reached := reaches_of_nonempty emptiness
      have count : stepCount p.first p.last p.step = k := by
        rw [last, stepCount_of_steps settled.moving]
      have element : lastElement p.type p.first p.step k = p.last := by
        rw [last] at inside ⊢
        cases k with
        | zero => simp [lastElement]
        | succ k => rw [lastElement, if_pos inside]
      rw [normalized, reached, if_pos rfl, count, element]

theorem restep_same : p.restep p.step.natAbs = .ok p := by
  have positive : 0 < (p.step.natAbs : Int) := by
    have := settled.moving
    omega
  have kept : p.directed p.step.natAbs = p.step := by
    unfold directed
    split <;> omega
  rw [p.restep_of_pos positive, kept, settled.normalized_self]

end Settled

theorem restep_restep {p : Progression} (reachable : p.Reachable) :
    (∀ a b : Int, 0 < a → 0 < b → a ∣ b →
      ∃ q r, p.restep a = .ok q ∧ q.restep b = .ok r ∧ p.restep b = .ok r) ∧
    (∀ a : Int, 0 < a → ∃ q, p.restep a = .ok q ∧ q.restep a = .ok q) ∧
    p.restep p.step.natAbs = .ok p ∧
    (∀ b : Int, 0 < b → ∃ q r, p.restep 1 = .ok q ∧ q.restep b = .ok r ∧ p.restep b = .ok r) := by
  have settled := reachable.settled
  refine ⟨?_, ?_, settled.restep_same, ?_⟩
  · intro a b positive multiple divides
    exact settled.restep_multiple positive multiple divides
  · intro a positive
    obtain ⟨q, r, made, again, once⟩ := settled.restep_multiple positive positive dvd_rfl
    rw [made] at once
    cases once
    exact ⟨q, made, again⟩
  · intro b positive
    exact settled.restep_multiple Int.one_pos positive (one_dvd b)

theorem restep_restep_acrossGap :
    ∃ q r, (downTo .char 0xe003 0xd7f0).restep 2 = .ok q ∧ q.restep 6 = .ok r ∧
      (downTo .char 0xe003 0xd7f0).restep 6 = .ok r ∧ q.last = 0xd7f1 ∧ r.last = 0xd7f3 := by
  have reachable : (downTo .char 0xe003 0xd7f0).Reachable := .descending (by decide) (by decide)
  obtain ⟨q, r, fine, coarse, alone⟩ := (restep_restep reachable).1 2 6 (by decide) (by decide)
    (by decide)
  refine ⟨q, r, fine, coarse, alone, ?_, ?_⟩
  · cases fine
    decide +kernel
  · cases alone
    decide +kernel

end SqlBuilder.Progression
