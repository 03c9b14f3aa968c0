import SqlBuilder.Condition.Combine
import SqlBuilder.SortKey

namespace SqlBuilder

namespace Select

def ofColumns (columns : List Expr) : Select := ⟨columns, none, .neutral, [], none⟩

def fromTable (s : Select) (t : Table) : Select := { s with table := some t }

def filter (s : Select) (c : Condition) : Select := { s with condition := c }

def andFilter (s : Select) (c : Condition) : Select :=
  { s with condition := .all [s.condition, c] }

def sortBy (s : Select) (key : SortKey) : Select := { s with orderBy := s.orderBy ++ [key] }

def limitTo (s : Select) (n : Int) : Select := { s with limit := some n }

end Select

structure QuantifiedSelect where
  quantifier : Quantifier
  select : Select

namespace QuantifiedSelect

def toExpr (q : QuantifiedSelect) : Expr := .quantified q.quantifier q.select

end QuantifiedSelect

def Select.anyOf (s : Select) : QuantifiedSelect := ⟨.any, s⟩
def Select.allOf (s : Select) : QuantifiedSelect := ⟨.all, s⟩

end SqlBuilder
