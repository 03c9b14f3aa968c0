import SqlBuilder.Expr.Arithmetic
import SqlBuilder.Progression.Membership
import SqlBuilder.SortKey

namespace SqlBuilder

inductive Marker
  | null

inductive InSource
  | operands (operands : List Expr)
  | select (s : Select)
  | progression (p : Progression)

namespace Expr

variable (e : Expr)

def compared (operator : Comparison) (other : Expr) : Condition := .comparison e operator other

def equal : Expr → Condition := e.compared .eq
def eq : Expr → Condition := e.compared .eq
def notEqual : Expr → Condition := e.compared .ne
def ne : Expr → Condition := e.compared .ne
def lessThan : Expr → Condition := e.compared .lt
def lt : Expr → Condition := e.compared .lt
def lessOrEqual : Expr → Condition := e.compared .le
def le : Expr → Condition := e.compared .le
def greaterThan : Expr → Condition := e.compared .gt
def gt : Expr → Condition := e.compared .gt
def greaterOrEqual : Expr → Condition := e.compared .ge
def ge : Expr → Condition := e.compared .ge
def isDistinctFrom : Expr → Condition := e.compared .isDistinctFrom
def isNotDistinctFrom : Expr → Condition := e.compared .isNotDistinctFrom
def likeRegex : Expr → Condition := e.compared .likeRegex
def notLikeRegex : Expr → Condition := e.compared .notLikeRegex
def similarTo : Expr → Condition := e.compared .similarTo
def notSimilarTo : Expr → Condition := e.compared .notSimilarTo
def like : Expr → Condition := e.compared .like
def notLike : Expr → Condition := e.compared .notLike
def likeIgnoreCase : Expr → Condition := e.compared .likeIgnoreCase
def notLikeIgnoreCase : Expr → Condition := e.compared .notLikeIgnoreCase

def is : Marker → Condition
  | .null => e.isNull

def isNot : Marker → Condition
  | .null => e.isNotNull

def contains (text : Expr) : Condition := e.matchesText .contains text false false
def notContains (text : Expr) : Condition := e.matchesText .contains text false true
def containsIgnoreCase (text : Expr) : Condition := e.matchesText .contains text true false
def notContainsIgnoreCase (text : Expr) : Condition := e.matchesText .contains text true true
def startsWith (text : Expr) : Condition := e.matchesText .startsWith text false false
def startsWithIgnoreCase (text : Expr) : Condition := e.matchesText .startsWith text true false
def endsWith (text : Expr) : Condition := e.matchesText .endsWith text false false
def endsWithIgnoreCase (text : Expr) : Condition := e.matchesText .endsWith text true false

def equalIgnoreCase (other : Expr) : Condition := e.equalIgnoringCase other false
def notEqualIgnoreCase (other : Expr) : Condition := e.equalIgnoringCase other true

def member (negated : Bool) : InSource → Condition
  | .operands operands => e.memberOf negated operands
  | .select s => .inSelect e negated s
  | .progression p => e.inProgression negated p

def isIn : InSource → Condition := e.member false
def notIn : InSource → Condition := e.member true

def between (kind : BetweenKind) (low high : Expr) : Condition := .range e kind low high

def betweenRange : Expr → Expr → Condition := e.between ⟨false, false⟩
def betweenSymmetricRange : Expr → Expr → Condition := e.between ⟨true, false⟩
def notBetweenRange : Expr → Expr → Condition := e.between ⟨false, true⟩
def notBetweenSymmetricRange : Expr → Expr → Condition := e.between ⟨true, true⟩

def asc : SortKey := e.sorted .asc
def desc : SortKey := e.sorted .desc

def pow : Exponent → Expr := e.power

end Expr
end SqlBuilder
