import SqlBuilder.Proofs.Statements.Rows

/-!
# Drafts of statements

A draft is a statement under construction in a single record, where every row and every SET list may
be empty and every clause may be missing. Its operations are total: what finds no place in the
record is dropped without notice. A step holds no more than its type allows, and every call does the
same to a step as to the draft of it, so that no call on the way of a step is ever dropped.
-/

namespace SqlBuilder

def extendLast (a : Assignment) : List (List Assignment) → List (List Assignment)
  | [] => [[a]]
  | [row] => [row ++ [a]]
  | row :: other :: rows => row :: extendLast a (other :: rows)

theorem extendLast_concat (a : Assignment) (rows : List (List Assignment)) (row : List Assignment) :
    extendLast a (rows ++ [row]) = rows ++ [row ++ [a]] := by
  induction rows with
  | nil => rfl
  | cons first rows ih =>
      cases rows with
      | nil => rfl
      | cons second rows => exact congrArg (first :: ·) ih

inductive ActionDraft
  | doNothing
  | doUpdate (set : SetList) (condition : Condition)

structure ConflictDraft where
  target : List Expr
  action : ActionDraft

/-- The last row is the one that is being filled. -/
structure InsertDraft where
  table : Table
  rows : List SetList
  conflict : Option ConflictDraft
  returning : List Expr

structure UpdateDraft where
  table : Table
  set : SetList
  condition : Condition
  returning : List Expr

namespace InsertDraft

def ofTable (t : Table) : InsertDraft := ⟨t, [[]], none, []⟩

def filledRows (d : InsertDraft) : List SetList := d.rows.filter (!·.isEmpty)

def assignRow (d : InsertDraft) (a : Assignment) : InsertDraft :=
  { d with rows := extendLast a d.rows }

def newRecord (d : InsertDraft) : InsertDraft := { d with rows := d.rows ++ [[]] }

def answer (d : InsertDraft) (target : List Expr) (action : ActionDraft) : InsertDraft :=
  { d with conflict := some ⟨target, action⟩ }

def assignUpdate (d : InsertDraft) (a : Assignment) : InsertDraft :=
  match d.conflict with
  | some ⟨target, .doUpdate set condition⟩ => d.answer target (.doUpdate (set ++ [a]) condition)
  | _ => d

def filterUpdate (d : InsertDraft) (c : Condition) : InsertDraft :=
  match d.conflict with
  | some ⟨target, .doUpdate set _⟩ => d.answer target (.doUpdate set c)
  | _ => d

def rowCount (d : InsertDraft) : Nat := d.rows.getLast?.elim 0 List.length

def updateCount (d : InsertDraft) : Nat :=
  match d.conflict with
  | some ⟨_, .doUpdate set _⟩ => set.length
  | _ => 0

end InsertDraft

def ActionDraft.write : ActionDraft → Writer String
  | .doNothing => return " DO NOTHING"
  | .doUpdate set condition => do
      let set ← set.write
      let condition ← Writer.clause " WHERE " condition.write
      return " DO UPDATE SET " ++ set ++ condition

namespace ConflictDraft

def write (c : ConflictDraft) : Writer String := do
  let target ← writeConflictTarget c.target
  let action ← c.action.write
  return " ON CONFLICT" ++ target ++ action

def actionDefect? (c : ConflictDraft) : Option Defect :=
  match c.action with
  | .doNothing => none
  | .doUpdate set condition =>
      (if c.target.isEmpty then some .updateWithoutConflictTarget else none) <|>
        set.defect? <|> condition.defect?

def defect? (c : ConflictDraft) : Option Defect :=
  c.target.findSome? Expr.conflictDefect? <|> c.actionDefect?

end ConflictDraft

namespace InsertDraft

def shapeDefect? : List SetList → Option Defect
  | [] => none
  | row :: rows => (rows.zipIdx 2).findSome? fun (other, number) =>
      if other.columnNames = row.columnNames then none else some (.rowColumnsDiffer number)

def writeRows : List SetList → Writer String
  | [] => return " DEFAULT VALUES"
  | row :: rows => do
      let tuples ← Writer.separated ", " ((row :: rows).mapM SetList.writeTuple)
      return " " ++ row.columnsText ++ " VALUES " ++ tuples

def writeConflictClause : Option ConflictDraft → Writer String
  | some c => c.write
  | none => return ""

def write (d : InsertDraft) : Writer String := do
  let rows ← writeRows d.filledRows
  let conflict ← writeConflictClause d.conflict
  let returning ← writeReturning d.returning
  return "INSERT INTO " ++ d.table.sql ++ rows ++ conflict ++ returning

def defect? (d : InsertDraft) : Option Defect :=
  d.filledRows.findSome? SetList.defect? <|> shapeDefect? d.filledRows <|>
    d.conflict.bind ConflictDraft.defect? <|> d.returning.findSome? Expr.defect?

end InsertDraft

def UpdateDraft.ofTable (t : Table) : UpdateDraft := ⟨t, [], .neutral, []⟩

def UpdateDraft.assign (d : UpdateDraft) (a : Assignment) : UpdateDraft :=
  { d with set := d.set ++ [a] }

def UpdateDraft.write (d : UpdateDraft) : Writer String := do
  let set ← d.set.write
  let condition ← Writer.clause " WHERE " d.condition.write
  let returning ← writeReturning d.returning
  return "UPDATE " ++ d.table.sql ++ " SET " ++ set ++ condition ++ returning

def UpdateDraft.defect? (d : UpdateDraft) : Option Defect :=
  (if d.set.isEmpty then some .updateWithoutAssignments else none) <|>
    d.set.defect? <|> d.condition.defect? <|> d.returning.findSome? Expr.defect?

inductive Draft
  | insertStart (d : InsertDraft)
  | insertRow (d : InsertDraft)
  | insertConflict (d : InsertDraft) (target : List Expr)
  | upsertStart (d : InsertDraft)
  | upsert (d : InsertDraft)
  | insertDone (d : InsertDraft)
  | updateStart (d : UpdateDraft)
  | updateSet (d : UpdateDraft)
  | updateFilter (d : UpdateDraft)
  | updateDone (d : UpdateDraft)

namespace Draft

def next? : Draft → Call → Option Draft
  | .insertStart d, .assign a => some (.insertRow (d.assignRow a))
  | .insertRow d, .assign a => some (.insertRow (d.assignRow a))
  | .insertRow d, .newRecord => some (.insertStart d.newRecord)
  | .insertRow d, .onConflict target => some (.insertConflict d target)
  | .insertRow d, .onConflictDoNothing => some (.insertDone (d.answer [] .doNothing))
  | .insertRow d, .returning columns => some (.insertDone { d with returning := columns })
  | .insertConflict d target, .doNothing => some (.insertDone (d.answer target .doNothing))
  | .insertConflict d target, .doUpdate =>
      some (.upsertStart (d.answer target (.doUpdate [] .neutral)))
  | .upsertStart d, .assign a => some (.upsert (d.assignUpdate a))
  | .upsert d, .assign a => some (.upsert (d.assignUpdate a))
  | .upsert d, .filter c => some (.insertDone (d.filterUpdate c))
  | .upsert d, .returning columns => some (.insertDone { d with returning := columns })
  | .insertDone d, .returning columns => some (.insertDone { d with returning := columns })
  | .updateStart d, .assign a => some (.updateSet (d.assign a))
  | .updateSet d, .assign a => some (.updateSet (d.assign a))
  | .updateSet d, .filter c => some (.updateFilter { d with condition := c })
  | .updateSet d, .returning columns => some (.updateDone { d with returning := columns })
  | .updateFilter d, .andFilter c =>
      some (.updateFilter { d with condition := .all [d.condition, c] })
  | .updateFilter d, .returning columns => some (.updateDone { d with returning := columns })
  | _, _ => none

def run? (d : Draft) (calls : List Call) : Option Draft := calls.foldlM next? d

def insert? : Draft → Option InsertDraft
  | .insertStart d => some d
  | .insertRow d => some d
  | .insertConflict d _ => some d
  | .upsertStart d => some d
  | .upsert d => some d
  | .insertDone d => some d
  | _ => none

def update? : Draft → Option UpdateDraft
  | .updateStart d => some d
  | .updateSet d => some d
  | .updateFilter d => some d
  | .updateDone d => some d
  | _ => none

def assignmentCount? : Draft → Option Nat
  | .insertRow d => some d.rowCount
  | .upsert d => some d.updateCount
  | .updateSet d => some d.set.length
  | _ => none

end Draft

def ConflictAction.draft : ConflictAction → ActionDraft
  | .doNothing => .doNothing
  | .doUpdate set condition => .doUpdate set.toList condition

def Insert.draft (i : Insert) : InsertDraft :=
  ⟨i.table, i.rows.map Assignments.toList,
    i.conflict.map fun c => ⟨c.target, c.action.draft⟩, i.returning⟩

def Update.draft (u : Update) : UpdateDraft := ⟨u.table, u.set.toList, u.condition, u.returning⟩

theorem ConflictAction.write_draft (action : ConflictAction) :
    action.draft.write = action.write := by
  cases action <;> rfl

theorem Conflict.defect?_draft (c : Conflict) :
    (ConflictDraft.mk c.target c.action.draft).defect? = c.defect? := by
  unfold ConflictDraft.defect? ConflictDraft.actionDefect? Conflict.defect? Conflict.actionDefect?
  cases c.action <;> rfl

theorem InsertDraft.writeRows_toList (rows : List Assignments) :
    writeRows (rows.map Assignments.toList) = Insert.writeRows rows := by
  cases rows with
  | nil => rfl
  | cons row rows =>
      have tuples : ((row :: rows).map Assignments.toList).mapM SetList.writeTuple =
          (row :: rows).mapM Assignments.writeTuple := List.mapM_map
      rw [List.map_cons, writeRows, ← List.map_cons, tuples]
      rfl

theorem InsertDraft.shapeDefect?_toList (rows : List Assignments) :
    shapeDefect? (rows.map Assignments.toList) = Insert.shapeDefect? rows := by
  cases rows with
  | nil => rfl
  | cons row rows =>
      rw [List.map_cons, shapeDefect?, List.zipIdx_map, List.findSome?_map]
      rfl

theorem InsertDraft.agrees {d : InsertDraft} {i : Insert}
    (finished : i.draft = { d with rows := d.filledRows }) :
    d.write = i.write ∧ d.defect? = i.defect? := by
  obtain ⟨table, rows, conflict, returning⟩ := InsertDraft.mk.inj finished
  have filled : d.filledRows = i.rows.map Assignments.toList := rows.symm
  constructor
  · rw [write, Insert.write, filled, writeRows_toList, ← table, ← conflict, ← returning]
    cases i.conflict with
    | none => rfl
    | some c =>
        rw [Option.map_some, InsertDraft.writeConflictClause, ConflictDraft.write,
          ConflictAction.write_draft]
        rfl
  · rw [defect?, Insert.defect?, filled, List.findSome?_map, shapeDefect?_toList,
      ← conflict, ← returning]
    cases i.conflict with
    | none => rfl
    | some c => rw [Option.map_some, Option.bind_some, Conflict.defect?_draft]; rfl

theorem UpdateDraft.agrees (u : Update) : u.draft.write = u.write ∧ u.draft.defect? = u.defect? :=
  ⟨rfl, rfl⟩

namespace Step

/-- A record that was begun and not yet filled is an empty row. -/
def draft : Step → Draft
  | .insertStart s => .insertStart s.statement.draft.newRecord
  | .insertRow s => .insertRow s.statement.draft
  | .insertConflict s => .insertConflict s.insert.draft s.target
  | .upsertStart s => .upsertStart (s.insert.draft.answer s.target (.doUpdate [] .neutral))
  | .upsert s => .upsert s.statement.draft
  | .insertDone s => .insertDone s.statement.draft
  | .updateStart s => .updateStart (.ofTable s.table)
  | .updateSet s => .updateSet s.statement.draft
  | .updateFilter s => .updateFilter s.statement.draft
  | .updateDone s => .updateDone s.statement.draft

theorem draft_next? (s : Step) (c : Call) : s.draft.next? c = (s.next? c).map draft := by
  cases s with
  | insertStart s =>
      cases c with
      | assign a =>
          simp [draft, Draft.next?, next?, InsertDraft.newRecord, InsertDraft.assignRow,
            extendLast_concat, InsertRow.statement, InsertStart.statement, Insert.draft,
            SqlBuilder.assign]
      | _ => rfl
  | insertRow s =>
      cases c with
      | assign a =>
          simp [draft, Draft.next?, next?, InsertDraft.assignRow, extendLast_concat,
            InsertRow.statement, Insert.draft, SqlBuilder.assign]
      | _ => rfl
  | _ => cases c <;> rfl

theorem draft_run? (s : Step) (calls : List Call) :
    s.draft.run? calls = (s.run? calls).map draft := by
  induction calls generalizing s with
  | nil => rfl
  | cons c calls ih =>
      change (s.draft.next? c).bind (fun d => d.run? calls) = _
      rw [draft_next?, run?_cons]
      cases s.next? c with
      | none => rfl
      | some t => exact ih t

theorem assignmentCount?_draft (s : Step) : s.draft.assignmentCount? = s.assignmentCount? := by
  cases s with
  | insertRow s =>
      simp [draft, Draft.assignmentCount?, assignmentCount?, InsertDraft.rowCount,
        InsertRow.statement, Insert.draft, InsertRow.assignmentCount, Assignments.count]
  | _ => rfl

end Step
end SqlBuilder
