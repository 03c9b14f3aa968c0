import SqlBuilder.Progression.Basic
import SqlBuilder.Condition.Predicate

namespace SqlBuilder

namespace Progression

def values (p : Progression) : List Value := p.elements.map p.type.value

/-- The ends of the progression in ascending order, when every value between them is meant. -/
def rangeEnds? (p : Progression) : Option (Value × Value) :=
  if p.type.contains p.first && p.type.contains p.last then
    if p.step = 1 then some (p.type.value p.first, p.type.value p.last)
    else if p.step = -1 then some (p.type.value p.last, p.type.value p.first)
    else none
  else none

end Progression

def Expr.inProgression (e : Expr) (negated : Bool) (p : Progression) : Condition :=
  match p.rangeEnds? with
  | some (low, high) => .range e ⟨false, negated⟩ (.bind low) (.bind high)
  | none => e.memberOf negated (p.values.map .bind)

end SqlBuilder
