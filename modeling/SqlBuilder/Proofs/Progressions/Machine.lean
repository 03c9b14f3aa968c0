import Mathlib.Data.PFun
import SqlBuilder.Proofs.Progressions.Restep

/-!
# Progressions in machine integers

Steps are integers of 64 bits, and everything else is reckoned in 128 bits. That is always enough:
no operation overflows, no remainder is taken by zero, and both loops come to an end. What they
reckon is what the definitions over all integers say.
-/

namespace SqlBuilder.Progression

inductive Fault
  | overflow
  | divisionByZero
  | refused (error : ProgressionError)
  deriving DecidableEq, Repr

/-- A computation that ends with a result, ends with a fault or does not end. -/
abbrev Machine := ExceptT Fault Part

namespace Machine

def wide (n : Int) : Machine Int :=
  if -2 ^ 127 ≤ n ∧ n < 2 ^ 127 then pure n else throw .overflow

def long (n : Int) : Machine Int :=
  if ElementType.int8.contains n then pure n else throw .overflow

def remainder (a b : Int) : Machine Int :=
  if b = 0 then throw .divisionByZero
  else if a = -2 ^ 127 ∧ b = -1 then throw .overflow
  else pure (a % b)

/-- A turn of a loop that has come by some values before. It leads to the next value, or it ends
the loop. -/
def turned (turn : Int → Machine (Option Int)) (state : List Int × Int) :
    Part (Except Fault (List Int) ⊕ List Int × Int) :=
  (turn state.2).run.map fun
    | .error fault => .inl (.error fault)
    | .ok none => .inl (.ok (state.1 ++ [state.2]))
    | .ok (some next) => .inr (state.1 ++ [state.2], next)

def visitedAfter (turn : Int → Machine (Option Int)) (met : List Int) (value : Int) :
    Machine (List Int) :=
  ExceptT.mk (PFun.fix (turned turn) (met, value))

def visited (turn : Int → Machine (Option Int)) (value : Int) : Machine (List Int) :=
  visitedAfter turn [] value

def aligned (first bound step : Int) : Machine Int := do
  if 0 < step ∧ first < bound then
    wide (bound - (← remainder (← wide (bound - first)) step))
  else if step < 0 ∧ bound < first then
    let distance ← wide (first - bound)
    let size ← wide (-step)
    wide (bound + (← remainder distance size))
  else return bound

def backward (type : ElementType) (first step last : Int) : Machine (Option Int) := do
  if !type.contains last && reaches first last step then return some (← wide (last - step))
  else return none

def normalized (type : ElementType) (first bound step : Int) : Machine Progression := do
  let start ← aligned first bound step
  let met ← visited (backward type first step) start
  return ⟨type, first, met.getLastD start, step⟩

def closed (type : ElementType) (first last step : Int) : Machine Progression :=
  if step = 0 then throw (.refused .zeroStep) else normalized type first last step

def below (type : ElementType) (first bound : Int) : Machine Progression := do
  normalized type first (← wide (bound - 1)) 1

def directed (p : Progression) (size : Int) : Machine Int :=
  if 0 < p.step then pure size else long (-size)

def restep (p : Progression) (size : Int) : Machine Progression := do
  if size ≤ 0 then throw (.refused (.stepNotPositive size))
  else normalized p.type p.first p.last (← directed p size)

def advance (p : Progression) (value : Int) : Machine (Option Int) := do
  if value = p.last then return none else return some (← wide (value + p.step))

def raw (p : Progression) : Machine (List Int) :=
  match p.start with
  | none => pure []
  | some value => visited (advance p) value

theorem wide_eq {n : Int} (low : -2 ^ 66 ≤ n) (high : n ≤ 2 ^ 66) : wide n = pure n :=
  if_pos ⟨by omega, by omega⟩

section Loops

variable {turn : Int → Machine (Option Int)} {value : Int}

theorem visitedAfter_of_stop (met : List Int) (stop : turn value = pure none) :
    visitedAfter turn met value = pure (met ++ [value]) := by
  apply Part.eq_some_iff.mpr
  apply PFun.fix_stop
  rw [turned, stop]
  exact Part.mem_some _

theorem visitedAfter_of_move (met : List Int) {next : Int} (move : turn value = pure (some next)) :
    visitedAfter turn met value = visitedAfter turn (met ++ [value]) next := by
  apply PFun.fix_fwd_eq
  rw [turned, move]
  exact Part.mem_some _

theorem visited_of_stop (stop : turn value = pure none) : visited turn value = pure [value] :=
  visitedAfter_of_stop [] stop

theorem visitedAfter_steps (met : List Int) {d : Int} {n : Nat}
    (moves : ∀ i < n, turn (value + i * d) = pure (some (value + (i + 1 : Nat) * d)))
    (stops : turn (value + n * d) = pure none) :
    visitedAfter turn met value =
      pure (met ++ (List.range (n + 1)).map fun i : Nat => value + i * d) := by
  induction n generalizing value met with
  | zero =>
      have stop : turn value = pure none := by simpa using stops
      simpa using visitedAfter_of_stop met stop
  | succ n ih =>
      have shifted (i : Nat) : value + d + i * d = value + (i + 1 : Nat) * d := by
        rw [Nat.cast_succ]
        ring
      have move : turn value = pure (some (value + d)) := by
        simpa using moves 0 n.succ_pos
      rw [visitedAfter_of_move met move, ih]
      · rw [List.range_succ_eq_map (n := n + 1), List.map_cons, List.map_map]
        simp [Function.comp_def, shifted]
      · intro i before
        rw [shifted, shifted]
        exact moves (i + 1) (by omega)
      · rwa [shifted]

theorem visited_steps {d : Int} {n : Nat}
    (moves : ∀ i < n, turn (value + i * d) = pure (some (value + (i + 1 : Nat) * d)))
    (stops : turn (value + n * d) = pure none) :
    visited turn value = pure ((List.range (n + 1)).map fun i : Nat => value + i * d) :=
  visitedAfter_steps [] moves stops

end Loops

theorem range_of_contains {type : ElementType} {n : Int} (element : type.contains n = true) :
    -2 ^ 63 ≤ n ∧ n < 2 ^ 63 := by
  cases type <;> simp [ElementType.contains] at element <;> omega

/-- What a progression is made of: an element, another one or the value before it, and a step. -/
structure Admissible (type : ElementType) (first bound step : Int) : Prop where
  first : type.contains first = true
  bound : type.contains bound = true ∨ type.contains (bound + 1) = true
  long : ElementType.int8.contains step = true
  moving : step ≠ 0

variable {type : ElementType} {first bound step : Int}

theorem sub_emod_of_ascending (ascending : 0 < step) (forward : first ≤ bound) :
    bound - (bound - first) % step = first + stepCount first bound step * step := by
  have count : (stepCount first bound step : Int) = (bound - first) / step := by
    rw [stepCount, Int.natCast_ediv, Int.natAbs_of_nonneg (by omega),
      Int.natAbs_of_nonneg (by omega)]
  rw [count, Int.emod_def]
  ring

theorem add_emod_of_descending (descending : step < 0) (backward : bound ≤ first) :
    bound + (first - bound) % (-step) = first + stepCount first bound step * step := by
  have count : (stepCount first bound step : Int) = (first - bound) / (-step) := by
    rw [stepCount, Int.natCast_ediv, Int.ofNat_natAbs_of_nonpos (by omega),
      Int.ofNat_natAbs_of_nonpos (by omega), neg_sub]
  rw [count, Int.emod_def]
  ring

theorem stepCount_self (first step : Int) : stepCount first first step = 0 := by
  simp [stepCount]

theorem between_of_le_stepCount (moving : step ≠ 0) (reached : reaches first bound step = true)
    {i : Nat} (counted : i ≤ stepCount first bound step) :
    min first bound ≤ first + i * step ∧ first + i * step ≤ max first bound := by
  obtain ⟨up, down⟩ := (notPast_steps_iff moving reached i).mpr counted
  rcases lt_or_gt_of_ne moving with descending | ascending
  · have := steps_nonpos descending i
    have := down descending
    omega
  · have := steps_nonneg ascending i
    have := up ascending
    omega

theorem remainder_eq {a b : Int} (nonneg : 0 ≤ a) (positive : 0 < b) :
    remainder a b = pure (a % b) := by
  rw [remainder, if_neg positive.ne', if_neg (by omega)]

theorem backward_of_element (first step : Int) {last : Int} (inside : type.contains last = true) :
    backward type first step last = pure none := by
  rw [backward, inside]
  rfl

theorem visited_of_missed (type : ElementType) (missed : reaches first bound step = false) :
    visited (backward type first step) bound = pure [bound] := by
  apply visited_of_stop
  rw [backward, missed, Bool.and_false]
  rfl

namespace Admissible

variable (call : Admissible type first bound step)
include call

theorem ranges : (-2 ^ 63 ≤ first ∧ first < 2 ^ 63) ∧ (-2 ^ 63 - 1 ≤ bound ∧ bound < 2 ^ 63) ∧
    (-2 ^ 63 ≤ step ∧ step < 2 ^ 63) := by
  refine ⟨range_of_contains call.first, ?_, range_of_contains call.long⟩
  rcases call.bound with element | next
  · have := range_of_contains element
    omega
  · have := range_of_contains next
    omega

theorem aligned_of_missed (missed : reaches first bound step = false) :
    aligned first bound step = pure bound := by
  have beyond : ¬ NotPast bound step first := by
    rw [← reaches_eq_true_iff call.moving, missed]
    exact Bool.false_ne_true
  unfold NotPast at beyond
  rw [aligned, if_neg (by omega), if_neg (by omega)]

theorem aligned_of_reached (reached : reaches first bound step = true) :
    aligned first bound step = pure (first + stepCount first bound step * step) := by
  obtain ⟨firsts, bounds, steps⟩ := call.ranges
  obtain ⟨low, high⟩ := between_of_le_stepCount call.moving reached le_rfl
  obtain ⟨up, down⟩ := (reaches_eq_true_iff call.moving).mp reached
  rcases eq_or_ne first bound with rfl | apart
  · rw [aligned, if_neg (by omega), if_neg (by omega), stepCount_self]
    simp
  · rcases lt_or_gt_of_ne call.moving with descending | ascending
    · have backward := down descending
      rw [← add_emod_of_descending descending backward] at low high ⊢
      rw [aligned, if_neg (by omega), if_pos (by omega)]
      rw [wide_eq (by omega) (by omega), pure_bind, wide_eq (by omega) (by omega), pure_bind,
        remainder_eq (by omega) (by omega), pure_bind, wide_eq (by omega) (by omega)]
    · have forward := up ascending
      rw [← sub_emod_of_ascending ascending forward] at low high ⊢
      rw [aligned, if_pos (by omega)]
      rw [wide_eq (by omega) (by omega), pure_bind, remainder_eq (by omega) ascending, pure_bind,
        wide_eq (by omega) (by omega)]

theorem backward_of_other (reached : reaches first bound step = true) {i : Nat}
    (counted : i < stepCount first bound step)
    (other : type.contains (first + (i + 1 : Nat) * step) = false) :
    backward type first step (first + (i + 1 : Nat) * step) = pure (some (first + i * step)) := by
  obtain ⟨firsts, bounds, steps⟩ := call.ranges
  obtain ⟨low, high⟩ := between_of_le_stepCount call.moving reached counted.le
  have back : first + (i + 1 : Nat) * step - step = first + i * step := by
    rw [Nat.cast_succ]
    ring
  rw [backward, other, reaches_steps call.moving, Bool.not_false, Bool.and_self, if_pos rfl, back,
    wide_eq (by omega) (by omega), pure_bind]

theorem visited_of_reached (reached : reaches first bound step = true) :
    ∃ j ≤ stepCount first bound step,
      visited (backward type first step) (first + stepCount first bound step * step) =
        pure ((List.range (stepCount first bound step - j + 1)).map fun i : Nat =>
          first + (stepCount first bound step - i : Nat) * step) ∧
      Progression.normalized type first bound step = ⟨type, first, first + j * step, step⟩ := by
  obtain ⟨j, bounded, result, inside, others⟩ := normalized_of_reached call.first reached
  refine ⟨j, bounded, ?_, result⟩
  have grid {i : Nat} (counted : i ≤ stepCount first bound step) :
      first + stepCount first bound step * step + i * -step =
        first + (stepCount first bound step - i : Nat) * step := by
    rw [Nat.cast_sub counted]
    ring
  rw [visited_steps (d := -step) (n := stepCount first bound step - j)]
  · congr 1
    apply List.map_congr_left
    intro i member
    have := List.mem_range.mp member
    exact grid (by omega)
  · intro i before
    have later : stepCount first bound step - i = stepCount first bound step - (i + 1) + 1 := by
      omega
    rw [grid (by omega), grid (by omega), later]
    exact call.backward_of_other reached (by omega) (others _ (by omega) (by omega))
  · rw [grid (by omega), Nat.sub_sub_self bounded]
    exact backward_of_element first step inside

theorem walks_back :
    ∃ start met, aligned first bound step = pure start ∧
      visited (backward type first step) start = pure met ∧
      (reaches first bound step = true → ∀ value ∈ met, reaches first value step = true) ∧
      (reaches first bound step = false → met = [bound]) ∧
      normalized type first bound step =
        pure (Progression.normalized type first bound step) := by
  cases reached : reaches first bound step with
  | false =>
      have start := call.aligned_of_missed reached
      have met := visited_of_missed type reached
      refine ⟨bound, [bound], start, met, nofun, fun _ => rfl, ?_⟩
      rw [normalized, start, pure_bind, met, pure_bind, normalized_of_missed reached]
      rfl
  | true =>
      have start := call.aligned_of_reached reached
      obtain ⟨j, bounded, met, result⟩ := call.visited_of_reached reached
      refine ⟨_, _, start, met, fun _ => ?_, nofun, ?_⟩
      · intro value member
        obtain ⟨i, -, rfl⟩ := List.mem_map.mp member
        exact reaches_steps call.moving first _
      · rw [normalized, start, pure_bind, met, pure_bind, result, List.range_succ, List.map_append,
          List.map_singleton, List.getLastD_concat, Nat.sub_sub_self bounded]

theorem normalized_eq :
    normalized type first bound step = pure (Progression.normalized type first bound step) := by
  obtain ⟨_, _, _, _, _, _, result⟩ := call.walks_back
  exact result

end Admissible

theorem raw_of_isEmpty {p : Progression} (emptiness : p.isEmpty = true) : raw p = pure [] := by
  rw [raw, start, emptiness]
  rfl

structure Ready (p : Progression) : Prop extends p.Settled where
  long : ElementType.int8.contains p.step = true
  bound : p.type.contains p.last = true ∨ p.type.contains (p.last + 1) = true

theorem Admissible.ready (call : Admissible type first bound step) :
    Ready (Progression.normalized type first bound step) where
  toSettled := settled_normalized call.first call.moving
  long := by
    rw [step_normalized]
    exact call.long
  bound := by
    cases reached : reaches first bound step with
    | false =>
        rw [normalized_of_missed reached]
        exact call.bound
    | true =>
        obtain ⟨j, -, result, inside, -⟩ := normalized_of_reached call.first reached
        rw [result]
        exact .inl inside

namespace Ready

variable {p : Progression} (ready : Ready p)
include ready

theorem admissible {size : Int} (positive : 0 < size)
    (long : ElementType.int8.contains size = true) :
    Admissible p.type p.first p.last (p.directed size) where
  first := ready.first
  bound := ready.bound
  long := by
    have range := range_of_contains long
    unfold Progression.directed
    split <;> simp [ElementType.contains] <;> omega
  moving := p.directed_ne_zero positive

theorem directed_eq {size : Int} (positive : 0 < size)
    (long : ElementType.int8.contains size = true) :
    directed p size = pure (p.directed size) := by
  have range := (ready.admissible positive long).long
  rw [directed]
  unfold Progression.directed at range ⊢
  split
  · rfl
  · rename_i descending
    rw [if_neg descending] at range
    exact if_pos range

theorem restep_eq {size : Int} (positive : 0 < size)
    (long : ElementType.int8.contains size = true) :
    ∃ q, restep p size = pure q ∧ p.restep size = .ok q ∧ q.type = p.type ∧ Ready q := by
  have call := ready.admissible positive long
  refine ⟨_, ?_, p.restep_of_pos positive, type_normalized, call.ready⟩
  rw [restep, if_neg positive.not_ge, ready.directed_eq positive long, pure_bind,
    call.normalized_eq]

theorem chain_eq (sizes : List Int)
    (long : ∀ size ∈ sizes, 0 < size ∧ ElementType.int8.contains size = true) :
    ∃ q, sizes.foldlM restep p = pure q ∧ sizes.foldlM Progression.restep p = .ok q ∧
      q.type = p.type ∧ Ready q := by
  induction sizes generalizing p with
  | nil => exact ⟨p, rfl, rfl, rfl, ready⟩
  | cons size sizes ih =>
      obtain ⟨⟨positive, here⟩, later⟩ := List.forall_mem_cons.mp long
      obtain ⟨mid, reckoned, made, same, next⟩ := ready.restep_eq positive here
      obtain ⟨q, rest, others, type, last⟩ := ih next later
      refine ⟨q, ?_, ?_, type.trans same, last⟩
      · rw [List.foldlM_cons, reckoned, pure_bind, rest]
      · rw [List.foldlM_cons, made]
        exact others

theorem advance_of_before (nonempty : p.isEmpty = false) {k i : Nat}
    (last : p.last = p.first + k * p.step) (before : i < k) :
    advance p (p.first + i * p.step) = pure (some (p.first + (i + 1 : Nat) * p.step)) := by
  have count : i + 1 ≤ stepCount p.first p.last p.step := by
    rwa [last, stepCount_of_steps ready.moving]
  have apart : p.first + i * p.step ≠ p.last := by
    rw [last]
    intro same
    have equal := mul_right_cancel₀ ready.moving (add_left_cancel same)
    omega
  have next : p.first + i * p.step + p.step = p.first + (i + 1 : Nat) * p.step := by
    rw [Nat.cast_succ]
    ring
  have firsts := range_of_contains ready.first
  have lasts := range_of_contains (ready.last nonempty).1
  obtain ⟨low, high⟩ :=
    between_of_le_stepCount ready.moving (reaches_of_nonempty nonempty) count
  rw [advance, if_neg apart, next, wide_eq (by omega) (by omega), pure_bind]

theorem raw_eq (nonempty : p.isEmpty = false) :
    ∃ k : Nat, p.last = p.first + k * p.step ∧
      raw p = pure ((List.range (k + 1)).map fun i : Nat => p.first + i * p.step) := by
  obtain ⟨-, k, last⟩ := ready.last nonempty
  refine ⟨k, last, ?_⟩
  rw [raw, start, nonempty]
  apply visited_steps
  · intro i before
    exact ready.advance_of_before nonempty last before
  · exact if_pos last.symm

theorem elements_of_raw :
    ∃ values, raw p = pure values ∧ p.elements = values.filter (p.type.contains ·) := by
  cases emptiness : p.isEmpty with
  | true =>
      refine ⟨[], raw_of_isEmpty emptiness, ?_⟩
      rw [elements, emptiness]
      rfl
  | false =>
      obtain ⟨k, last, values⟩ := ready.raw_eq emptiness
      refine ⟨_, values, ?_⟩
      rw [elements, emptiness, last, stepCount_of_steps ready.moving, ← walk_eq]
      rfl

end Ready

inductive Source
  | closed (first last step : Int)
  | below (first bound : Int)

namespace Source

def Valid (type : ElementType) : Source → Prop
  | closed first last step => type.contains first = true ∧ type.contains last = true ∧
      ElementType.int8.contains step = true ∧ step ≠ 0
  | below first bound => type.contains first = true ∧ type.contains bound = true

def make (type : ElementType) : Source → Except ProgressionError Progression
  | closed first last step => Progression.closed type first last step
  | below first bound => .ok (Progression.below type first bound)

def reckon (type : ElementType) : Source → Machine Progression
  | closed first last step => Machine.closed type first last step
  | below first bound => Machine.below type first bound

theorem reckon_eq {source : Source} (valid : source.Valid type) :
    ∃ p, source.reckon type = pure p ∧ source.make type = .ok p ∧ p.type = type ∧ Ready p := by
  cases source with
  | closed first last step =>
      obtain ⟨element, bound, long, moving⟩ := valid
      have call : Admissible type first last step := ⟨element, .inl bound, long, moving⟩
      refine ⟨_, ?_, if_neg moving, type_normalized, call.ready⟩
      exact (if_neg moving).trans call.normalized_eq
  | below first bound =>
      obtain ⟨element, next⟩ := valid
      have range := range_of_contains next
      have call : Admissible type first (bound - 1) 1 :=
        ⟨element, .inr (by rwa [sub_add_cancel]), by decide, one_ne_zero⟩
      refine ⟨_, ?_, rfl, type_normalized, call.ready⟩
      rw [reckon, Machine.below, wide_eq (by omega) (by omega), pure_bind, call.normalized_eq]
      rfl

end Source

/-- The calls that a chain of steps makes are admissible, so that the first part is about all of
them. -/
theorem runs_without_fault :
    (∀ (type : ElementType) (first bound step : Int), Admissible type first bound step →
      ∃ start met, aligned first bound step = pure start ∧
        visited (backward type first step) start = pure met ∧
        (reaches first bound step = true → ∀ value ∈ met, reaches first value step = true) ∧
        (reaches first bound step = false → met = [bound]) ∧
        normalized type first bound step =
          pure (Progression.normalized type first bound step)) ∧
    ∀ (type : ElementType) (source : Source) (sizes : List Int), source.Valid type →
      (∀ size ∈ sizes, 0 < size ∧ ElementType.int8.contains size = true) →
      ∃ p, (source.reckon type >>= fun q => sizes.foldlM restep q) = pure p ∧
        (source.make type >>= fun q => sizes.foldlM Progression.restep q) = .ok p ∧
        p.type = type ∧ type.contains p.first = true ∧
        (∀ size, 0 < size → ElementType.int8.contains size = true →
          Admissible type p.first p.last (p.directed size)) ∧
        (p.isEmpty = true → raw p = pure []) ∧
        (p.isEmpty = false → type.contains p.last = true ∧
          ∃ k : Nat, p.last = p.first + k * p.step ∧
            raw p = pure ((List.range (k + 1)).map fun i : Nat => p.first + i * p.step)) ∧
        ∃ values, raw p = pure values ∧ p.elements = values.filter (type.contains ·) := by
  constructor
  · intro type first bound step call
    exact call.walks_back
  · intro type source sizes valid long
    obtain ⟨q, reckoned, made, same, fresh⟩ := source.reckon_eq valid
    obtain ⟨p, chained, stepped, kept, ready⟩ := fresh.chain_eq sizes long
    obtain rfl : p.type = type := kept.trans same
    refine ⟨p, ?_, ?_, rfl, ready.first, fun size => ready.admissible, raw_of_isEmpty,
      fun nonempty => ⟨(ready.last nonempty).1, ready.raw_eq nonempty⟩, ready.elements_of_raw⟩
    · rw [reckoned, pure_bind, chained]
    · rw [made]
      exact stepped

theorem runs_without_fault_extremes :
    normalized .char 0xd7fe 0xdfff 1 = pure ⟨.char, 0xd7fe, 0xd7ff, 1⟩ ∧
    normalized .int8 (2 ^ 63 - 1) (-2 ^ 63) (-2 ^ 63) =
      pure ⟨.int8, 2 ^ 63 - 1, -1, -2 ^ 63⟩ ∧
    ∃ p, (Machine.closed .int8 (2 ^ 63 - 1) (-2 ^ 63) (-2 ^ 63) >>=
        fun q => [2 ^ 63 - 1].foldlM restep q) = pure p ∧
      raw p = pure [2 ^ 63 - 1, 0] := by
  obtain ⟨calls, chains⟩ := runs_without_fault
  refine ⟨?_, ?_, ?_⟩
  · obtain ⟨_, _, _, _, _, _, result⟩ := calls .char 0xd7fe 0xdfff 1
      ⟨by decide, .inr (by decide), by decide, by decide⟩
    exact result.trans (congrArg pure (by decide +kernel))
  · obtain ⟨_, _, _, _, _, _, result⟩ := calls .int8 (2 ^ 63 - 1) (-2 ^ 63) (-2 ^ 63)
      ⟨by decide, .inl (by decide), by decide, by decide⟩
    exact result.trans (congrArg pure (by decide +kernel))
  · obtain ⟨p, chained, made, -, -, -, -, nonempty, -⟩ := chains .int8
      (.closed (2 ^ 63 - 1) (-2 ^ 63) (-2 ^ 63)) [2 ^ 63 - 1]
      ⟨by decide, by decide, by decide, by decide⟩ (by decide)
    obtain rfl : ⟨.int8, 2 ^ 63 - 1, 0, -(2 ^ 63 - 1)⟩ = p :=
      Except.ok.inj (made.symm.trans (by decide +kernel)).symm
    obtain ⟨-, k, last, values⟩ := nonempty (by decide)
    obtain rfl : k = 1 := by
      simp only at last
      omega
    exact ⟨_, chained, values⟩

end Machine
end SqlBuilder.Progression
