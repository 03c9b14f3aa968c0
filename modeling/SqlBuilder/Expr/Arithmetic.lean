import SqlBuilder.Term.Basic

namespace SqlBuilder

inductive Exponent
  | integer (n : Int)
  | single (bits : UInt32)
  | double (bits : UInt64)
  | expr (e : Expr)

def Exponent.toExpr : Exponent → Expr
  | .integer n => .bind (.float8 (FloatFormat.doubleOfInt n))
  | .single bits => .bind (.float8 (FloatFormat.widen bits))
  | .double bits => .bind (.float8 bits)
  | .expr e => e

namespace Expr

def power (base : Expr) (exponent : Exponent) : Expr := .call .power [base, exponent.toExpr]

def bitAnd (a b : Expr) : Expr := .binary a .bitAnd b
def bitOr (a b : Expr) : Expr := .binary a .bitOr b
def bitXor (a b : Expr) : Expr := .binary a .bitXor b
def bitNand (a b : Expr) : Expr := .complement (a.bitAnd b)
def bitNor (a b : Expr) : Expr := .complement (a.bitOr b)
def bitXnor (a b : Expr) : Expr := .complement (a.bitXor b)
def shiftLeft (a count : Expr) : Expr := .binary a .shiftLeft count
def shiftRight (a count : Expr) : Expr := .binary a .shiftRight count

end Expr
end SqlBuilder
