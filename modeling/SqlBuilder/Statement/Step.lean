import SqlBuilder.Statement.Update
import SqlBuilder.Condition.Combine

namespace SqlBuilder

structure InsertStart where
  table : Table
  rows : List Assignments

structure InsertRow where
  table : Table
  rows : List Assignments
  row : Assignments

structure InsertConflict where
  insert : Insert
  target : List Expr

structure UpsertStart where
  insert : Insert
  target : List Expr

structure Upsert where
  insert : Insert
  target : List Expr
  set : Assignments

structure InsertDone where
  statement : Insert

structure UpdateStart where
  table : Table

structure UpdateSet where
  table : Table
  set : Assignments

structure UpdateFilter where
  statement : Update

structure UpdateDone where
  statement : Update

def insertInto (t : Table) : InsertStart := ⟨t, []⟩

def update (t : Table) : UpdateStart := ⟨t⟩

class Assigns (S : Type) (M : outParam Type) where
  assign : S → Assignment → M

export Assigns (assign)

instance : Assigns InsertStart InsertRow := ⟨fun s a => ⟨s.table, s.rows, .single a⟩⟩
instance : Assigns InsertRow InsertRow := ⟨fun s a => { s with row := s.row.add a }⟩
instance : Assigns UpsertStart Upsert := ⟨fun s a => ⟨s.insert, s.target, .single a⟩⟩
instance : Assigns Upsert Upsert := ⟨fun s a => { s with set := s.set.add a }⟩
instance : Assigns UpdateStart UpdateSet := ⟨fun s a => ⟨s.table, .single a⟩⟩
instance : Assigns UpdateSet UpdateSet := ⟨fun s a => { s with set := s.set.add a }⟩

namespace InsertStart

def statement (s : InsertStart) : Insert := ⟨s.table, s.rows, none, []⟩

end InsertStart

namespace InsertRow

def statement (s : InsertRow) : Insert := ⟨s.table, s.rows ++ [s.row], none, []⟩

def newRecord (s : InsertRow) : InsertStart := ⟨s.table, s.rows ++ [s.row]⟩

def onConflict (s : InsertRow) (target : List Expr) : InsertConflict := ⟨s.statement, target⟩

def onConflictDoNothing (s : InsertRow) : InsertDone :=
  ⟨{ s.statement with conflict := some ⟨[], .doNothing⟩ }⟩

def returning (s : InsertRow) (columns : List Expr) : InsertDone :=
  ⟨{ s.statement with returning := columns }⟩

def assignmentCount (s : InsertRow) : Nat := s.row.count

end InsertRow

namespace InsertConflict

def doNothing (s : InsertConflict) : InsertDone :=
  ⟨{ s.insert with conflict := some ⟨s.target, .doNothing⟩ }⟩

def doUpdate (s : InsertConflict) : UpsertStart := ⟨s.insert, s.target⟩

end InsertConflict

namespace Upsert

def statementWhere (s : Upsert) (c : Condition) : Insert :=
  { s.insert with conflict := some ⟨s.target, .doUpdate s.set c⟩ }

def statement (s : Upsert) : Insert := s.statementWhere .neutral

def filter (s : Upsert) (c : Condition) : InsertDone := ⟨s.statementWhere c⟩

def returning (s : Upsert) (columns : List Expr) : InsertDone :=
  ⟨{ s.statement with returning := columns }⟩

def assignmentCount (s : Upsert) : Nat := s.set.count

end Upsert

def InsertDone.returning (s : InsertDone) (columns : List Expr) : InsertDone :=
  ⟨{ s.statement with returning := columns }⟩

namespace UpdateSet

def statement (s : UpdateSet) : Update := ⟨s.table, s.set, .neutral, []⟩

def filter (s : UpdateSet) (c : Condition) : UpdateFilter := ⟨{ s.statement with condition := c }⟩

def returning (s : UpdateSet) (columns : List Expr) : UpdateDone :=
  ⟨{ s.statement with returning := columns }⟩

def assignmentCount (s : UpdateSet) : Nat := s.set.count

end UpdateSet

namespace UpdateFilter

def andFilter (s : UpdateFilter) (c : Condition) : UpdateFilter :=
  ⟨{ s.statement with condition := .all [s.statement.condition, c] }⟩

def returning (s : UpdateFilter) (columns : List Expr) : UpdateDone :=
  ⟨{ s.statement with returning := columns }⟩

end UpdateFilter

inductive Step
  | insertStart (s : InsertStart)
  | insertRow (s : InsertRow)
  | insertConflict (s : InsertConflict)
  | upsertStart (s : UpsertStart)
  | upsert (s : Upsert)
  | insertDone (s : InsertDone)
  | updateStart (s : UpdateStart)
  | updateSet (s : UpdateSet)
  | updateFilter (s : UpdateFilter)
  | updateDone (s : UpdateDone)

inductive Call
  | assign (a : Assignment)
  | newRecord
  | onConflict (target : List Expr)
  | doNothing
  | doUpdate
  | onConflictDoNothing
  | filter (c : Condition)
  | andFilter (c : Condition)
  | returning (columns : List Expr)

inductive Statement
  | insert (i : Insert)
  | update (u : Update)

namespace Statement

def fragment : Statement → Fragment
  | .insert i => i.fragment
  | .update u => u.fragment

def defect? : Statement → Option Defect
  | .insert i => i.defect?
  | .update u => u.defect?

def write : Statement → Writer String
  | .insert i => i.write
  | .update u => u.write

theorem write_eq (s : Statement) : s.write = s.fragment.render := by
  cases s with
  | insert i => exact i.write_eq
  | update u => exact u.write_eq

instance : Query Statement := ⟨fragment, defect?, write, write_eq⟩

end Statement

namespace Step

/-- Where the step goes with the call, if its type offers that call. -/
def next? : Step → Call → Option Step
  | .insertStart s, .assign a => some (.insertRow (SqlBuilder.assign s a))
  | .insertRow s, .assign a => some (.insertRow (SqlBuilder.assign s a))
  | .insertRow s, .newRecord => some (.insertStart s.newRecord)
  | .insertRow s, .onConflict target => some (.insertConflict (s.onConflict target))
  | .insertRow s, .onConflictDoNothing => some (.insertDone s.onConflictDoNothing)
  | .insertRow s, .returning columns => some (.insertDone (s.returning columns))
  | .insertConflict s, .doNothing => some (.insertDone s.doNothing)
  | .insertConflict s, .doUpdate => some (.upsertStart s.doUpdate)
  | .upsertStart s, .assign a => some (.upsert (SqlBuilder.assign s a))
  | .upsert s, .assign a => some (.upsert (SqlBuilder.assign s a))
  | .upsert s, .filter c => some (.insertDone (s.filter c))
  | .upsert s, .returning columns => some (.insertDone (s.returning columns))
  | .insertDone s, .returning columns => some (.insertDone (s.returning columns))
  | .updateStart s, .assign a => some (.updateSet (SqlBuilder.assign s a))
  | .updateSet s, .assign a => some (.updateSet (SqlBuilder.assign s a))
  | .updateSet s, .filter c => some (.updateFilter (s.filter c))
  | .updateSet s, .returning columns => some (.updateDone (s.returning columns))
  | .updateFilter s, .andFilter c => some (.updateFilter (s.andFilter c))
  | .updateFilter s, .returning columns => some (.updateDone (s.returning columns))
  | _, _ => none

def run? (s : Step) (calls : List Call) : Option Step := calls.foldlM next? s

def statement? : Step → Option Statement
  | .insertStart s => some (.insert s.statement)
  | .insertRow s => some (.insert s.statement)
  | .insertConflict _ => none
  | .upsertStart _ => none
  | .upsert s => some (.insert s.statement)
  | .insertDone s => some (.insert s.statement)
  | .updateStart _ => none
  | .updateSet s => some (.update s.statement)
  | .updateFilter s => some (.update s.statement)
  | .updateDone s => some (.update s.statement)

def assignmentCount? : Step → Option Nat
  | .insertRow s => some s.assignmentCount
  | .upsert s => some s.assignmentCount
  | .updateSet s => some s.assignmentCount
  | _ => none

end Step
end SqlBuilder
