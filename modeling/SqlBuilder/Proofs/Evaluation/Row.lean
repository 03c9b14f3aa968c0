import SqlBuilder.Proofs.Conditions.Value
import SqlBuilder.Proofs.Evaluation.Like

namespace SqlBuilder

namespace Truth

def ofBool (b : Bool) : Truth := if b then yes else no

def notIf (negated : Bool) (a : Truth) : Truth := if negated then a.not else a

@[simp] theorem ofBool_eq_yes_iff (b : Bool) : ofBool b = yes ↔ b = true := by
  cases b <;> decide

theorem and_ofBool (a b : Bool) : (ofBool a).and (ofBool b) = ofBool (a && b) := by
  cases a <;> cases b <;> rfl

theorem or_ofBool (a b : Bool) : (ofBool a).or (ofBool b) = ofBool (a || b) := by
  cases a <;> cases b <;> rfl

theorem notIf_ofBool (negated b : Bool) : notIf negated (ofBool b) = ofBool (b != negated) := by
  cases negated <;> cases b <;> rfl

end Truth

abbrev Datum := Option Value

def Value.datum : Value → Datum
  | .null _ => none
  | v => some v

/-- Whether every server has an equality for values of the kind: not for JSON, and of types of its
own only the server knows. -/
def Value.isComparable : Value → Bool
  | .json _ => false
  | .null _ => false
  | .other _ _ _ => false
  | _ => true

/-- Integers compare as numbers and single characters by their codes; the order of other values is
left open. Folding keeps apart the characters that are special in patterns. -/
structure Server where
  order? : Value → Value → Option Ordering
  equates : Value → Prop
  equates_of_isComparable (v : Value) : v.isComparable = true → equates v
  order?_self (v : Value) : equates v → order? v v = some .eq
  order?_int4 (m n : Int32) : order? (.int4 m) (.int4 n) = some (compare m.toInt n.toInt)
  order?_int8 (m n : Int64) : order? (.int8 m) (.int8 n) = some (compare m.toInt n.toInt)
  order?_char (c d : Char) :
    order? (.text c.toString) (.text d.toString) = some (compare (c.toNat : Int) d.toNat)
  fold : Char → Char
  fold_eq_iff (m : Char) : Like.isSpecial m = true → ∀ c, fold c = m ↔ c = m

namespace Server

variable (server : Server)

def compared (test : Ordering → Bool) : Datum → Datum → Truth
  | some v, some w => (server.order? v w).elim .unknown fun o => .ofBool (test o)
  | _, _ => .unknown

def equal (x y : Datum) : Truth := server.compared Ordering.isEq x y

theorem equal_self {v : Value} (present : v.datum = some v) (equated : server.equates v) :
    server.equal v.datum v.datum = .yes := by
  rw [present, equal, compared, server.order?_self v equated]
  rfl

def isAmong (x : Datum) (listed : List Datum) : Truth :=
  Connective.or.ofList (listed.map (server.equal x))

def isWithin (x low high : Datum) : Truth :=
  (server.compared Ordering.isGE x low).and (server.compared Ordering.isLE x high)

def isBetween (symmetric : Bool) (x low high : Datum) : Truth :=
  if symmetric then (server.isWithin x low high).or (server.isWithin x high low)
  else server.isWithin x low high

def folded (ignoreCase : Bool) (text : String) : List Char :=
  if ignoreCase then text.toList.map server.fold else text.toList

/-- A pattern that cannot be read is refused, so that there is no answer. -/
def like (ignoreCase : Bool) : Datum → Datum → Truth
  | some (.text subject), some (.text pattern) =>
      (Like.read (server.folded ignoreCase pattern)).elim .unknown fun marks =>
        .ofBool (Like.accepts marks (server.folded ignoreCase subject))
  | _, _ => .unknown

def codes (text : String) : List Int := text.toList.map fun c => c.toNat

theorem compare_codes (c d : Char) :
    compare (codes c.toString) (codes d.toString) = compare (c.toNat : Int) d.toNat := by
  have single (e : Char) : codes e.toString = [(e.toNat : Int)] := by
    simp [codes]
  have lists : compare [(c.toNat : Int)] [(d.toNat : Int)] =
      List.compareLex compare [(c.toNat : Int)] [(d.toNat : Int)] := rfl
  rw [single, single, lists, List.compareLex_cons_cons, List.compareLex_nil_nil]
  cases compare (c.toNat : Int) d.toNat <;> rfl

theorem toLower_eq_iff (m : Char) (special : Like.isSpecial m = true) (c : Char) :
    c.toLower = m ↔ c = m := by
  have codes : m.toNat = 33 ∨ m.toNat = 37 ∨ m.toNat = 95 := by
    simp only [Like.isSpecial, Bool.or_eq_true, decide_eq_true_iff] at special
    rcases special with (rfl | rfl) | rfl <;> decide
  unfold Char.toLower
  split
  · rename_i upper
    have range : 65 ≤ c.toNat ∧ c.toNat ≤ 90 := by
      simpa [UInt32.le_iff_toNat_le] using upper
    -- Neither a capital letter nor its lower case is special.
    constructor
    · rintro rfl
      simp at codes
      omega
    · rintro rfl
      omega
  · rfl

def ascii : Server where
  order?
    | .int4 m, .int4 n => some (compare m.toInt n.toInt)
    | .int8 m, .int8 n => some (compare m.toInt n.toInt)
    | .text s, .text t => some (compare (codes s) (codes t))
    | v, w => if v.isComparable ∧ v = w then some .eq else none
  equates v := v.isComparable = true
  equates_of_isComparable _ comparable := comparable
  order?_self v comparable := by
    cases v with
    | int4 n => exact congrArg some (Std.ReflCmp.compare_self (a := n.toInt))
    | int8 n => exact congrArg some (Std.ReflCmp.compare_self (a := n.toInt))
    | text s => exact congrArg some (Std.ReflCmp.compare_self (a := codes s))
    | _ => exact if_pos ⟨comparable, rfl⟩
  order?_int4 _ _ := rfl
  order?_int8 _ _ := rfl
  order?_char c d := congrArg some (compare_codes c d)
  fold := Char.toLower
  fold_eq_iff := toLower_eq_iff

end Server

structure Row where
  server : Server
  datum : Expr → Datum
  truth : Condition → Truth

mutual

def Expr.datum (row : Row) : Expr → Datum
  | .bind value => value.datum
  | .literal text => some (.text text)
  | .binary left .concat right =>
      match left.datum row, right.datum row with
      | some (.text s), some (.text t) => some (.text (s ++ t))
      | _, _ => row.datum (.binary left .concat right)
  | .call .replace arguments =>
      match Expr.data row arguments with
      | [some (.text s), some (.text sought), some (.text new)] =>
          some (.text (String.ofList (replaceAll sought.toList new.toList s.toList)))
      | _ => row.datum (.call .replace arguments)
  | .caseOf subject arms => Expr.armDatum row (subject.datum row) arms
  | e => row.datum e

def Expr.data (row : Row) : List Expr → List Datum
  | [] => []
  | e :: es => e.datum row :: Expr.data row es

def Expr.armDatum (row : Row) (subject : Datum) : List (Expr × Value) → Datum
  | [] => none
  | (key, value) :: arms =>
      if row.server.equal subject (key.datum row) = .yes then value.datum
      else Expr.armDatum row subject arms

end

namespace Condition

def leafTruth (row : Row) : Condition → Truth
  | .constant value => .ofBool value
  | .pattern subject ignoreCase negated sought =>
      .notIf negated (row.server.like ignoreCase (subject.datum row) (sought.datum row))
  | .inList operand negated values =>
      .notIf negated (row.server.isAmong (operand.datum row) (values.map (Expr.datum row)))
  | .range operand kind low high =>
      .notIf kind.negated
        (row.server.isBetween kind.symmetric (operand.datum row) (low.datum row) (high.datum row))
  | c => row.truth c

def holds (row : Row) (c : Condition) : Truth := c.value (leafTruth row)

end Condition
end SqlBuilder
