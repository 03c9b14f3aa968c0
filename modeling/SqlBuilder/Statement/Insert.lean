import SqlBuilder.Statement.Assignment
import SqlBuilder.Query

namespace SqlBuilder

inductive ConflictAction
  | doNothing
  | doUpdate (set : Assignments) (condition : Condition)

structure Conflict where
  target : List Expr
  action : ConflictAction

structure Insert where
  table : Table
  rows : List Assignments
  conflict : Option Conflict
  returning : List Expr

/-- A column that decides about a conflict is named without its table. -/
def Expr.conflictFragment (e : Expr) : Fragment :=
  match e.columnName? with
  | some name => [.text name.sql]
  | none => e.fragment

theorem Expr.conflictFragment_of_columnName? {e : Expr} {name : Segment}
    (column : e.columnName? = some name) : e.conflictFragment = [.text name.sql] := by
  unfold Expr.conflictFragment
  rw [column]

def Expr.writeConflict (e : Expr) : Writer String :=
  match e.columnName? with
  | some name => return name.sql
  | none => e.write

def Expr.conflictDefect? (e : Expr) : Option Defect :=
  e.defect? <|> if e.columnName?.isNone then some .conflictOnExpression else none

def returningClause (columns : List Expr) : Fragment :=
  Fragment.listClause " RETURNING " (columns.map Expr.fragment)

def writeConflictTarget (target : List Expr) : Writer String :=
  if target.isEmpty then return ""
  else do
    let target ← Writer.parenthesized (Writer.separated ", " (target.mapM Expr.writeConflict))
    return " " ++ target

def writeReturning (columns : List Expr) : Writer String :=
  Writer.listClause " RETURNING " (columns.mapM Expr.write)

theorem Expr.writeConflict_eq (e : Expr) : e.writeConflict = e.conflictFragment.render := by
  unfold Expr.writeConflict Expr.conflictFragment
  cases e.columnName? with
  | some name => simp [Fragment.render_text, Fragment.render_nil]
  | none => exact e.write_eq

theorem writeReturning_eq (columns : List Expr) :
    writeReturning columns = (returningClause columns).render := by
  rw [returningClause, Fragment.render_listClause, Fragment.mapM_render Expr.write_eq,
    writeReturning]

namespace ConflictAction

def fragment : ConflictAction → Fragment
  | .doNothing => [.text " DO NOTHING"]
  | .doUpdate set condition =>
      .text " DO UPDATE SET " :: set.setList ++ condition.fragment.clause " WHERE "

def write : ConflictAction → Writer String
  | .doNothing => return " DO NOTHING"
  | .doUpdate set condition => do
      let set ← set.writeSetList
      let condition ← Writer.clause " WHERE " condition.write
      return " DO UPDATE SET " ++ set ++ condition

theorem write_eq (action : ConflictAction) : action.write = action.fragment.render := by
  cases action with
  | doNothing => simp [write, fragment, Fragment.render_text, Fragment.render_nil]
  | doUpdate set condition =>
      rw [write, fragment, set.writeSetList_eq, condition.write_eq, ← Fragment.render_clause]
      simp [Fragment.render_text, Fragment.render_append, String.append_assoc]

end ConflictAction

namespace Conflict

def targetFragment (c : Conflict) : Fragment :=
  if c.target.isEmpty then []
  else .text " " :: (Fragment.join ", " (c.target.map Expr.conflictFragment)).parenthesized

def fragment (c : Conflict) : Fragment :=
  .text " ON CONFLICT" :: c.targetFragment ++ c.action.fragment

def write (c : Conflict) : Writer String := do
  let target ← writeConflictTarget c.target
  let action ← c.action.write
  return " ON CONFLICT" ++ target ++ action

theorem writeTarget_eq (c : Conflict) :
    writeConflictTarget c.target = c.targetFragment.render := by
  unfold writeConflictTarget targetFragment
  split
  · rw [Fragment.render_nil]
  · rw [Fragment.render_text, Fragment.render_parenthesized, Fragment.render_join,
      Fragment.mapM_render Expr.writeConflict_eq]

theorem write_eq (c : Conflict) : c.write = c.fragment.render := by
  rw [write, fragment, c.writeTarget_eq, c.action.write_eq]
  simp [Fragment.render_text, Fragment.render_append, String.append_assoc]

/-- An update needs to know which conflict it answers. -/
def actionDefect? (c : Conflict) : Option Defect :=
  match c.action with
  | .doNothing => none
  | .doUpdate set condition =>
      (if c.target.isEmpty then some .updateWithoutConflictTarget else none) <|>
        set.defect? <|> condition.defect?

def defect? (c : Conflict) : Option Defect :=
  c.target.findSome? Expr.conflictDefect? <|> c.actionDefect?

end Conflict

namespace Insert

def rowsFragment : List Assignments → Fragment
  | [] => [.text " DEFAULT VALUES"]
  | row :: rows =>
      .text " " :: row.columns ++ .text " VALUES " ::
        Fragment.join ", " ((row :: rows).map Assignments.tuple)

def conflictClause : Option Conflict → Fragment
  | some conflict => conflict.fragment
  | none => []

def fragment (i : Insert) : Fragment :=
  .text ("INSERT INTO " ++ i.table.sql) :: rowsFragment i.rows ++ conflictClause i.conflict ++
    returningClause i.returning

def writeRows : List Assignments → Writer String
  | [] => return " DEFAULT VALUES"
  | row :: rows => do
      let tuples ← Writer.separated ", " ((row :: rows).mapM Assignments.writeTuple)
      return " " ++ row.columnsText ++ " VALUES " ++ tuples

def writeConflictClause : Option Conflict → Writer String
  | some conflict => conflict.write
  | none => return ""

def write (i : Insert) : Writer String := do
  let rows ← writeRows i.rows
  let conflict ← writeConflictClause i.conflict
  let returning ← writeReturning i.returning
  return "INSERT INTO " ++ i.table.sql ++ rows ++ conflict ++ returning

theorem writeRows_eq (rows : List Assignments) : writeRows rows = (rowsFragment rows).render := by
  cases rows with
  | nil => simp [writeRows, rowsFragment, Fragment.render_text, Fragment.render_nil]
  | cons row rows =>
      rw [writeRows, rowsFragment, ← Fragment.mapM_render Assignments.writeTuple_eq,
        ← Fragment.render_join]
      simp [Fragment.render_text, Fragment.render_append, row.render_columns, String.append_assoc]

theorem writeConflictClause_eq (conflict : Option Conflict) :
    writeConflictClause conflict = (conflictClause conflict).render := by
  cases conflict with
  | none => rw [writeConflictClause, conflictClause, Fragment.render_nil]
  | some conflict => exact conflict.write_eq

theorem write_eq (i : Insert) : i.write = i.fragment.render := by
  rw [write, fragment, writeRows_eq, writeConflictClause_eq, writeReturning_eq]
  simp [Fragment.render_text, Fragment.render_append, String.append_assoc]

/-- Rows are counted from one; the first whose columns differ from those of row one is named. -/
def shapeDefect? : List Assignments → Option Defect
  | [] => none
  | row :: rows =>
      (rows.zipIdx 2).findSome? fun (other, number) =>
        if other.columnNames = row.columnNames then none else some (.rowColumnsDiffer number)

def defect? (i : Insert) : Option Defect :=
  i.rows.findSome? Assignments.defect? <|> shapeDefect? i.rows <|>
    i.conflict.bind Conflict.defect? <|> i.returning.findSome? Expr.defect?

end Insert

instance : Query Insert := ⟨Insert.fragment, Insert.defect?, Insert.write, Insert.write_eq⟩

end SqlBuilder
