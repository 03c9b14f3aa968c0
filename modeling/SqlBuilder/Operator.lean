namespace SqlBuilder

inductive BinaryOperator
  | bitAnd
  | bitOr
  | bitXor
  | shiftLeft
  | shiftRight
  | concat
  deriving DecidableEq, Repr

def BinaryOperator.sql : BinaryOperator → String
  | .bitAnd => "&"
  | .bitOr => "|"
  | .bitXor => "#"
  | .shiftLeft => "<<"
  | .shiftRight => ">>"
  | .concat => "||"

inductive SqlFunction
  | power
  | lower
  | replace
  deriving DecidableEq, Repr

def SqlFunction.sql : SqlFunction → String
  | .power => "power"
  | .lower => "lower"
  | .replace => "replace"

inductive Quantifier
  | any
  | all
  deriving DecidableEq, Repr

def Quantifier.sql : Quantifier → String
  | .any => "ANY"
  | .all => "ALL"

inductive SortOrder
  | asc
  | desc
  deriving DecidableEq, Repr, Inhabited

def SortOrder.sql : SortOrder → String
  | .asc => "ASC"
  | .desc => "DESC"

inductive Comparison
  | eq
  | ne
  | lt
  | le
  | gt
  | ge
  | isDistinctFrom
  | isNotDistinctFrom
  | like
  | notLike
  | likeIgnoreCase
  | notLikeIgnoreCase
  | likeRegex
  | notLikeRegex
  | similarTo
  | notSimilarTo
  deriving DecidableEq, Repr

namespace Comparison

def sql : Comparison → String
  | .eq => "="
  | .ne => "<>"
  | .lt => "<"
  | .le => "<="
  | .gt => ">"
  | .ge => ">="
  | .isDistinctFrom => "IS DISTINCT FROM"
  | .isNotDistinctFrom => "IS NOT DISTINCT FROM"
  | .like => "LIKE"
  | .notLike => "NOT LIKE"
  | .likeIgnoreCase => "ILIKE"
  | .notLikeIgnoreCase => "NOT ILIKE"
  | .likeRegex => "~"
  | .notLikeRegex => "!~"
  | .similarTo => "SIMILAR TO"
  | .notSimilarTo => "NOT SIMILAR TO"

def likeWith (ignoreCase negated : Bool) : Comparison :=
  match ignoreCase, negated with
  | false, false => .like
  | false, true => .notLike
  | true, false => .likeIgnoreCase
  | true, true => .notLikeIgnoreCase

end Comparison

structure BetweenKind where
  symmetric : Bool := false
  negated : Bool := false
  deriving DecidableEq, Repr

def BetweenKind.sql (kind : BetweenKind) : String :=
  (if kind.negated then "NOT BETWEEN" else "BETWEEN") ++ if kind.symmetric then " SYMMETRIC" else ""

end SqlBuilder
