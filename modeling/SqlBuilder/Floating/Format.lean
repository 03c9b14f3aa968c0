namespace SqlBuilder

structure FloatFormat where
  fractionBits : Nat
  exponentBits : Nat

inductive FloatValue
  | notANumber
  | infinite (negative : Bool)
  | finite (negative : Bool) (mantissa : Nat) (exponent : Int)
  deriving DecidableEq, Repr

namespace FloatFormat

def single : FloatFormat := ⟨23, 8⟩
def double : FloatFormat := ⟨52, 11⟩

def bias (f : FloatFormat) : Nat := Nat.pow 2 (f.exponentBits - 1) - 1

def leastExponent (f : FloatFormat) : Int := 1 - (f.bias : Int) - (f.fractionBits : Int)

def infinityBits (f : FloatFormat) : Nat :=
  (Nat.pow 2 f.exponentBits - 1) * Nat.pow 2 f.fractionBits

def notANumberBits (f : FloatFormat) : Nat := f.infinityBits + Nat.pow 2 (f.fractionBits - 1)

def signBit (f : FloatFormat) : Nat := Nat.pow 2 (f.fractionBits + f.exponentBits)

def decode (f : FloatFormat) (bits : Nat) : FloatValue :=
  let negative := bits / f.signBit % 2 = 1
  let magnitude := bits % f.signBit
  let fraction := magnitude % Nat.pow 2 f.fractionBits
  let field := magnitude / Nat.pow 2 f.fractionBits
  if magnitude > f.infinityBits then .notANumber
  else if magnitude = f.infinityBits then .infinite negative
  else if field = 0 then .finite negative fraction f.leastExponent
  else .finite negative (Nat.pow 2 f.fractionBits + fraction) (f.leastExponent + (field - 1 : Nat))

/-- The quotient nearest to `m / 2 ^ shift`, the even one of two equally near. -/
def roundShift (m shift : Nat) : Nat :=
  let divisor := Nat.pow 2 shift
  let q := m / divisor
  let r := 2 * (m % divisor)
  if r > divisor ∨ (r = divisor ∧ q % 2 = 1) then q + 1 else q

def lastPlace (f : FloatFormat) (m : Nat) (e : Int) : Int :=
  max f.leastExponent (e + m.log2 - f.fractionBits)

/-- A carry out of the fraction runs into the exponent field, which is the next binade. -/
def magnitudeBits (f : FloatFormat) (m : Nat) (e : Int) : Nat :=
  let place := f.lastPlace m e
  let digits :=
    if place ≤ e then m * Nat.pow 2 (e - place).toNat else roundShift m (place - e).toNat
  min f.infinityBits ((place - f.leastExponent).toNat * Nat.pow 2 f.fractionBits + digits)

def encode (f : FloatFormat) : FloatValue → Nat
  | .notANumber => f.notANumberBits
  | .infinite negative => (if negative then f.signBit else 0) + f.infinityBits
  | .finite negative m e =>
      (if negative then f.signBit else 0) + if m = 0 then 0 else f.magnitudeBits m e

def isNaN (f : FloatFormat) (bits : Nat) : Bool :=
  f.decode bits = .notANumber

def doubleOfInt (n : Int) : UInt64 :=
  UInt64.ofNat (double.encode (.finite (n < 0) n.natAbs 0))

def widen (bits : UInt32) : UInt64 :=
  UInt64.ofNat (double.encode (single.decode bits.toNat))

example : doubleOfInt 2 = 0x4000000000000000 := by decide +kernel
example : doubleOfInt 0x20000000000001 = doubleOfInt 0x20000000000000 := by decide +kernel
example : doubleOfInt 0x20000000000003 = doubleOfInt 0x20000000000004 := by decide +kernel
example : widen 0x3f000000 = 0x3fe0000000000000 := by decide +kernel
example : widen 1 = 0x36a0000000000000 := by decide +kernel
example : widen 0xff800000 = 0xfff0000000000000 := by decide +kernel

end FloatFormat
end SqlBuilder
