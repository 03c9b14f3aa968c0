import SqlBuilder.Value

namespace SqlBuilder

/-- The types a progression can run over; each element is an integer, a character its code. -/
inductive ElementType
  | int4
  | int8
  | char
  deriving DecidableEq, Repr

namespace ElementType

def contains : ElementType → Int → Bool
  | .int4, n => -0x80000000 ≤ n && n < 0x80000000
  | .int8, n => -0x8000000000000000 ≤ n && n < 0x8000000000000000
  | .char, n => 0 ≤ n && (n < 0xd800 || (0xdfff < n && n < 0x110000))

def value : ElementType → Int → Value
  | .int4, n => .int4 (Int32.ofInt n)
  | .int8, n => .int8 (Int64.ofInt n)
  | .char, n => .text (Char.ofNat n.toNat).toString

end ElementType

inductive ProgressionError
  | zeroStep
  | stepNotPositive (step : Int)
  deriving DecidableEq, Repr

def ProgressionError.message : ProgressionError → String
  | .zeroStep => "progression step must be non-zero"
  | .stepNotPositive step => "step must be positive, was " ++ toString step

structure Progression where
  type : ElementType
  first : Int
  last : Int
  step : Int
  deriving DecidableEq, Repr

namespace Progression

def reaches (first last step : Int) : Bool :=
  if 0 < step then first ≤ last else last ≤ first

def stepCount (first last step : Int) : Nat := (last - first).natAbs / step.natAbs

/-- The last element among `first` and the `k` values after it. -/
def lastElement (type : ElementType) (first step : Int) : (k : Nat) → Int
  | 0 => first
  | k + 1 =>
      let value := first + (k + 1 : Nat) * step
      if type.contains value then value else lastElement type first step k

/-- An empty progression keeps its bound. -/
def normalized (type : ElementType) (first bound step : Int) : Progression :=
  if reaches first bound step then
    ⟨type, first, lastElement type first step (stepCount first bound step), step⟩
  else ⟨type, first, bound, step⟩

def closed (type : ElementType) (first last step : Int) : Except ProgressionError Progression :=
  if step = 0 then .error .zeroStep else .ok (normalized type first last step)

def upTo (type : ElementType) (first last : Int) : Progression := normalized type first last 1

def below (type : ElementType) (first bound : Int) : Progression := upTo type first (bound - 1)

def downTo (type : ElementType) (first last : Int) : Progression := normalized type first last (-1)

def restep (p : Progression) (step : Int) : Except ProgressionError Progression :=
  if step ≤ 0 then .error (.stepNotPositive step)
  else .ok (normalized p.type p.first p.last (if 0 < p.step then step else -step))

def isEmpty (p : Progression) : Bool := !reaches p.first p.last p.step

def first? (p : Progression) : Option Int := if p.isEmpty then none else some p.first

def last? (p : Progression) : Option Int := if p.isEmpty then none else some p.last

def walk (type : ElementType) (step : Int) : (k : Nat) → (value : Int) → List Int
  | 0, value => if type.contains value then [value] else []
  | k + 1, value =>
      if type.contains value then value :: walk type step k (value + step)
      else walk type step k (value + step)

def elements (p : Progression) : List Int :=
  if p.isEmpty then [] else walk p.type p.step (stepCount p.first p.last p.step) p.first

def walkFront (type : ElementType) (step : Int) : (k n : Nat) → (value : Int) → List Int
  | _, 0, _ => []
  | 0, _ + 1, value => if type.contains value then [value] else []
  | k + 1, n + 1, value =>
      if type.contains value then value :: walkFront type step k n (value + step)
      else walkFront type step k (n + 1) (value + step)

def front (p : Progression) (n : Nat) : List Int :=
  if p.isEmpty then [] else walkFront p.type p.step (stepCount p.first p.last p.step) n p.first

theorem walkFront_eq_take (type : ElementType) (step : Int) (k n : Nat) (value : Int) :
    walkFront type step k n value = (walk type step k value).take n := by
  induction k generalizing n value with
  | zero =>
      cases n with
      | zero => simp [walkFront]
      | succ n => simp only [walkFront, walk]; split <;> simp
  | succ k ih =>
      cases n with
      | zero => simp [walkFront]
      | succ n => simp only [walkFront, walk]; split <;> simp [ih]

theorem front_eq_take (p : Progression) (n : Nat) : p.front n = p.elements.take n := by
  unfold front elements
  split <;> simp [walkFront_eq_take]

def inspect (p : Progression) : String :=
  "Progression \x7b first: " ++ toString p.first ++ ", last: " ++ toString p.last ++
    ", step: " ++ toString p.step ++ " \x7d"

example : (closed .int4 1 10 2).toOption.map elements = some [1, 3, 5, 7, 9] := by decide +kernel
example : (downTo .char 0xe001 0xd7fe).elements = [0xe001, 0xe000, 0xd7ff, 0xd7fe] := by
  decide +kernel

end Progression
end SqlBuilder
