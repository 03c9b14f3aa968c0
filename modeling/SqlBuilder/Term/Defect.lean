import SqlBuilder.Term.Basic

namespace SqlBuilder

mutual

def Expr.defect? : Expr → Option Defect
  | .rejected cause => some (.rejected cause)
  | .call _ arguments => Expr.firstDefect arguments
  | .binary left _ right => left.defect? <|> right.defect?
  | .complement operand => operand.defect?
  | .caseOf subject arms => subject.defect? <|> Expr.armDefect arms
  | .subquery select => select.defect?
  | .quantified _ select => select.defect?
  | _ => none

def Expr.firstDefect : List Expr → Option Defect
  | [] => none
  | e :: es => e.defect? <|> Expr.firstDefect es

def Expr.armDefect : List (Expr × Value) → Option Defect
  | [] => none
  | (key, _) :: arms => key.defect? <|> Expr.armDefect arms

def Condition.defect? : Condition → Option Defect
  | .conjunction members => Condition.firstDefect members
  | .disjunction members => Condition.firstDefect members
  | .negation operand => operand.defect?
  | .comparison left _ right => left.defect? <|> right.defect?
  | .pattern subject _ _ pattern => subject.defect? <|> pattern.defect?
  | .nullCheck operand _ => operand.defect?
  | .inList operand _ values => operand.defect? <|> Expr.firstDefect values
  | .inSelect operand _ select => operand.defect? <|> select.defect?
  | .range operand _ low high => operand.defect? <|> low.defect? <|> high.defect?
  | .existence _ select => select.defect?
  | .truth operand => operand.defect?
  | _ => none

def Condition.firstDefect : List Condition → Option Defect
  | [] => none
  | c :: cs => c.defect? <|> Condition.firstDefect cs

def Select.defect? : Select → Option Defect
  | ⟨columns, _, condition, orderBy, _⟩ =>
      if columns.isEmpty then some .selectWithoutColumns
      else Expr.firstDefect columns <|> condition.defect? <|> Select.orderDefect orderBy

def Select.orderDefect : List (Expr × SortOrder) → Option Defect
  | [] => none
  | (key, _) :: items => key.defect? <|> Select.orderDefect items

end

theorem Expr.firstDefect_eq_findSome? (es : List Expr) :
    Expr.firstDefect es = es.findSome? Expr.defect? := by
  induction es with
  | nil => rfl
  | cons e es ih => cases first : e.defect? <;> simp [Expr.firstDefect, first, ih]

theorem Condition.firstDefect_eq_findSome? (cs : List Condition) :
    Condition.firstDefect cs = cs.findSome? Condition.defect? := by
  induction cs with
  | nil => rfl
  | cons c cs ih => cases first : c.defect? <;> simp [Condition.firstDefect, first, ih]

theorem Expr.armDefect_eq_findSome? (arms : List (Expr × Value)) :
    Expr.armDefect arms = arms.findSome? fun arm => arm.1.defect? := by
  induction arms with
  | nil => rfl
  | cons arm arms ih => cases first : arm.1.defect? <;> simp [Expr.armDefect, first, ih]

theorem Select.orderDefect_eq_findSome? (items : List (Expr × SortOrder)) :
    Select.orderDefect items = items.findSome? fun item => item.1.defect? := by
  induction items with
  | nil => rfl
  | cons item items ih => cases first : item.1.defect? <;> simp [Select.orderDefect, first, ih]

end SqlBuilder
