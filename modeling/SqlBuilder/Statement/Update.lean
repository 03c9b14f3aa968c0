import SqlBuilder.Statement.Insert

namespace SqlBuilder

structure Update where
  table : Table
  set : Assignments
  condition : Condition
  returning : List Expr

namespace Update

def fragment (u : Update) : Fragment :=
  .text ("UPDATE " ++ u.table.sql ++ " SET ") :: u.set.setList ++
    u.condition.fragment.clause " WHERE " ++ returningClause u.returning

def write (u : Update) : Writer String := do
  let set ← u.set.writeSetList
  let condition ← Writer.clause " WHERE " u.condition.write
  let returning ← writeReturning u.returning
  return "UPDATE " ++ u.table.sql ++ " SET " ++ set ++ condition ++ returning

theorem write_eq (u : Update) : u.write = u.fragment.render := by
  rw [write, fragment, u.set.writeSetList_eq, u.condition.write_eq, writeReturning_eq,
    ← Fragment.render_clause]
  simp [Fragment.render_text, Fragment.render_append, String.append_assoc]

def defect? (u : Update) : Option Defect :=
  u.set.defect? <|> u.condition.defect? <|> u.returning.findSome? Expr.defect?

end Update

instance : Query Update := ⟨Update.fragment, Update.defect?, Update.write, Update.write_eq⟩

end SqlBuilder
