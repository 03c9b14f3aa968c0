import SqlBuilder.Term.Basic

namespace SqlBuilder

inductive TextMatch
  | contains
  | startsWith
  | endsWith
  deriving DecidableEq, Repr

namespace Expr

def likeMarks : List String := ["!", "%", "_"]

/-- Puts an exclamation mark before every character that a pattern would take as special. -/
def likeEscaped (e : Expr) : Expr :=
  likeMarks.foldl (fun e mark => .call .replace [e, .literal mark, .literal ("!" ++ mark)]) e

def wildcard : Expr := .literal "%"

end Expr

def TextMatch.pattern (place : TextMatch) (e : Expr) : Expr :=
  match place with
  | .contains => .binary (.binary Expr.wildcard .concat e.likeEscaped) .concat Expr.wildcard
  | .startsWith => .binary e.likeEscaped .concat Expr.wildcard
  | .endsWith => .binary Expr.wildcard .concat e.likeEscaped

namespace Expr

def matchesText (subject : Expr) (place : TextMatch) (text : Expr) (ignoreCase negated : Bool) :
    Condition :=
  .pattern subject ignoreCase negated (place.pattern text)

def equalIgnoringCase (a b : Expr) (negated : Bool) : Condition :=
  .comparison (.call .lower [a]) (if negated then .ne else .eq) (.call .lower [b])

def isNull (e : Expr) : Condition := .nullCheck e false
def isNotNull (e : Expr) : Condition := .nullCheck e true

def memberOf (e : Expr) (negated : Bool) (values : List Expr) : Condition :=
  if values.isEmpty then .constant negated else .inList e negated values

end Expr

def Condition.plain (sql : String) : Condition := .template sql []

end SqlBuilder
