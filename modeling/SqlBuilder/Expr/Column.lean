import SqlBuilder.Term.Basic

namespace SqlBuilder

def Expr.ofPath : Except IdentError Ident → Expr
  | .ok path => .column path
  | .error e => .rejected (.identifier e)

def Expr.field (name : String) : Expr := .ofPath (Ident.parse name)

def Table.field (t : Table) (name : String) : Expr := .ofPath ((Ident.parse name).map t.ident.dot)

def BareName.excluded : BareName where
  head := 'E'
  tail := ['X', 'C', 'L', 'U', 'D', 'E', 'D']
  isStart := rfl
  isRest := List.all_eq_true.mp rfl

def Expr.excluded (e : Expr) : Expr :=
  match e.columnName? with
  | some name => .column ((Ident.bare .excluded).dot ⟨[], name⟩)
  | none => .rejected .excludedNeedsColumn

end SqlBuilder
