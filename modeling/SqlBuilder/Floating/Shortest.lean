import SqlBuilder.Floating.Format

/-!
# Shortest decimal text

A floating-point number is written with the fewest decimal digits that still read back as it. On
each grid `10 ^ k`, from coarse to fine, the two neighbours of the number are tested against the
interval of numbers that round to it; the first grid with a hit wins, and the nearer neighbour of
two. A tie rule decides between neighbours that are equally near.
-/

namespace SqlBuilder

structure DecimalDigits where
  digits : Nat
  exponent : Int
  deriving DecidableEq, Repr

def digitCount (n : Nat) : Nat := (Nat.toDigits 10 n).length

def DecimalDigits.normalize (d : DecimalDigits) : DecimalDigits :=
  let zeros := ((Nat.toDigits 10 d.digits).reverse.takeWhile (· = '0')).length
  ⟨d.digits / Nat.pow 10 zeros, d.exponent + zeros⟩

inductive TieRule
  | up
  | toEven
  deriving DecidableEq, Repr

def TieRule.nearer (tie : TieRule) (below toBelow toAbove : Nat) : Nat :=
  if toBelow < toAbove then below
  else if toAbove < toBelow then below + 1
  else match tie with
    | .up => below + 1
    | .toEven => below + below % 2

namespace FloatFormat

def scaled (a : Nat) (e k : Int) : Nat × Nat :=
  (a * Nat.pow 2 e.toNat * Nat.pow 10 (-k).toNat, Nat.pow 10 k.toNat * Nat.pow 2 (-e).toNat)

def leadingExponent (m : Nat) (e : Int) : Int :=
  let (a, d) := scaled m e 0
  if d ≤ a then digitCount (a / d) - 1 else -(digitCount ((d + a - 1) / a - 1) : Int)

def lowerGap (f : FloatFormat) (m : Nat) (e : Int) : Nat :=
  if m = Nat.pow 2 f.fractionBits ∧ f.leastExponent < e then 1 else 2

/-- The neighbour of `m * 2 ^ e` on the grid `10 ^ k` that reads back, if there is one. -/
def gridNeighbour (f : FloatFormat) (tie : TieRule) (m : Nat) (e k : Int) : Option Nat :=
  let (value, unit) := scaled (4 * m) (e - 2) k
  let low := (scaled (4 * m - f.lowerGap m e) (e - 2) k).1
  let high := (scaled (4 * m + 2) (e - 2) k).1
  let inside (c : Nat) : Bool :=
    if m % 2 = 0 then low ≤ c * unit && c * unit ≤ high else low < c * unit && c * unit < high
  let below := value / unit
  match inside below, inside (below + 1) with
  | true, true => some (tie.nearer below (value - below * unit) ((below + 1) * unit - value))
  | true, false => some below
  | false, true => some (below + 1)
  | false, false => none

/-- Seventeen digits are enough for a double, nine for a single. -/
def shortestDigits (f : FloatFormat) (tie : TieRule) (m : Nat) (e : Int) : DecimalDigits :=
  let lead := leadingExponent m e
  let hit := (List.range 18).findSome? fun (places : Nat) =>
    (f.gridNeighbour tie m e (lead - places)).map fun c => (⟨c, lead - places⟩ : DecimalDigits)
  (hit.getD ⟨m, e⟩).normalize

end FloatFormat

/-- Numbers whose leading digit stands for a power of ten between the two bounds are written
without an exponent. With `plusSign`, a positive exponent has its sign too. -/
structure DecimalStyle where
  leastPositional : Int
  greatestPositional : Int
  tie : TieRule
  plusSign : Bool

namespace DecimalStyle

def zeros (n : Int) : String := String.ofList (List.replicate n.toNat '0')

def magnitude (style : DecimalStyle) (d : DecimalDigits) : String :=
  let digits := Nat.toDigits 10 d.digits
  let lead : Int := d.exponent + digits.length - 1
  if style.leastPositional ≤ lead ∧ lead ≤ style.greatestPositional then
    if 0 ≤ d.exponent then String.ofList digits ++ zeros d.exponent ++ ".0"
    else if 0 ≤ lead then
      String.ofList (digits.take (lead + 1).toNat) ++ "." ++
        String.ofList (digits.drop (lead + 1).toNat)
    else "0." ++ zeros (-lead - 1) ++ String.ofList digits
  else
    let fraction := if digits.length ≤ 1 then "" else "." ++ String.ofList (digits.drop 1)
    let plus := if style.plusSign ∧ 0 ≤ lead then "+" else ""
    String.ofList (digits.take 1) ++ fraction ++ "e" ++ plus ++ toString lead

def text (style : DecimalStyle) (f : FloatFormat) (bits : Nat) : String :=
  match f.decode bits with
  | .notANumber => "NaN"
  | .infinite negative => if negative then "-inf" else "inf"
  | .finite negative m e =>
      (if negative then "-" else "") ++
        if m = 0 then "0.0" else style.magnitude (f.shortestDigits style.tie m e)

end DecimalStyle
end SqlBuilder
