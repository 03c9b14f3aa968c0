import SqlBuilder.Operator
import SqlBuilder.Table
import SqlBuilder.Value
import SqlBuilder.Error

namespace SqlBuilder

mutual

inductive Expr
  | column (path : Ident)
  | bind (value : Value)
  | verbatim (sql : String)
  | literal (text : String)
  | call (function : SqlFunction) (arguments : List Expr)
  | binary (left : Expr) (operator : BinaryOperator) (right : Expr)
  | complement (operand : Expr)
  | caseOf (subject : Expr) (arms : List (Expr × Value))
  | subquery (select : Select)
  | quantified (quantifier : Quantifier) (select : Select)
  | rejected (cause : Rejection)

inductive Condition
  | neutral
  | constant (value : Bool)
  | conjunction (members : List Condition)
  | disjunction (members : List Condition)
  | negation (operand : Condition)
  | comparison (left : Expr) (operator : Comparison) (right : Expr)
  /-- A pattern in which an exclamation mark makes the next character literal. -/
  | pattern (subject : Expr) (ignoreCase negated : Bool) (pattern : Expr)
  | nullCheck (operand : Expr) (negated : Bool)
  | inList (operand : Expr) (negated : Bool) (values : List Expr)
  | inSelect (operand : Expr) (negated : Bool) (select : Select)
  | range (operand : Expr) (kind : BetweenKind) (low high : Expr)
  | existence (negated : Bool) (select : Select)
  | truth (operand : Expr)
  /-- SQL text in which question marks take the values, for as long as there are any. -/
  | template (sql : String) (values : List Value)

structure Select where
  columns : List Expr
  table : Option Table
  condition : Condition
  orderBy : List (Expr × SortOrder)
  limit : Option Int

end

instance : Inhabited Expr := ⟨.verbatim ""⟩

mutual

/-- Neutral members do not make a group count, and a group of none is neutral. -/
def Condition.isNeutral : Condition → Bool
  | .neutral => true
  | .conjunction members => Condition.allNeutral members
  | .disjunction members => Condition.allNeutral members
  | .negation operand => operand.isNeutral
  | _ => false

def Condition.allNeutral : List Condition → Bool
  | [] => true
  | c :: cs => c.isNeutral && Condition.allNeutral cs

end

theorem Condition.allNeutral_eq_all (cs : List Condition) :
    Condition.allNeutral cs = cs.all Condition.isNeutral := by
  induction cs with
  | nil => rfl
  | cons c cs ih => simp [Condition.allNeutral, ih]

def Expr.columnName? : Expr → Option Segment
  | .column path => some path.name
  | _ => none

end SqlBuilder
