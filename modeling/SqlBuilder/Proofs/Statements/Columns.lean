import SqlBuilder.Proofs.Identifiers.Spelling
import SqlBuilder.Proofs.Rendering.Defects
import SqlBuilder.Proofs.Statements.Rows

namespace SqlBuilder

namespace Writer

variable {α β γ : Type} {write : α → Writer β} {bound : α → List Value}

theorem mapM_cons_run (x : α) (xs : List α) (ps : Params) :
    (x :: xs).mapM write ps =
      ((write x ps).1 :: (xs.mapM write (write x ps).2).1, (xs.mapM write (write x ps).2).2) := by
  rw [List.mapM_cons]
  rfl

theorem length_mapM (xs : List α) (ps : Params) : (xs.mapM write ps).1.length = xs.length := by
  induction xs generalizing ps with
  | nil => rfl
  | cons x xs ih => rw [mapM_cons_run, List.length_cons, ih, List.length_cons]

theorem mapM_params (binds : ∀ x ps, (write x ps).2 = ps.append (bound x)) (xs : List α)
    (ps : Params) : (xs.mapM write ps).2 = ps.append (xs.flatMap bound) := by
  induction xs generalizing ps with
  | nil => exact (ps.append_nil).symm
  | cons x xs ih => rw [mapM_cons_run, ih, binds, Params.append_append, List.flatMap_cons]

theorem getElem?_mapM (binds : ∀ x ps, (write x ps).2 = ps.append (bound x)) (xs : List α)
    (ps : Params) (j : Nat) :
    (xs.mapM write ps).1[j]? =
      xs[j]?.map fun x => (write x (ps.append ((xs.take j).flatMap bound))).1 := by
  induction xs generalizing ps j with
  | nil => rfl
  | cons x xs ih =>
      rw [mapM_cons_run, binds]
      cases j with
      | zero => simp
      | succ j => simp [ih]

theorem mapM_map_run (f : β → γ) (xs : List α) (ps : Params) :
    xs.mapM (fun x => f <$> write x) ps =
      ((xs.mapM write ps).1.map f, (xs.mapM write ps).2) := by
  induction xs generalizing ps with
  | nil => rfl
  | cons x xs ih =>
      rw [mapM_cons_run, mapM_cons_run, ih]
      rfl

end Writer

namespace Assignments

def entries (row : Assignments) : Writer (List String) := row.toList.mapM (·.value.write)

def listText (items : List String) : String := "(" ++ ", ".intercalate items ++ ")"

theorem writeTuple_eq_map (row : Assignments) : row.writeTuple = listText <$> row.entries := rfl

theorem value_params (a : Assignment) (ps : Params) :
    (a.value.write ps).2 = ps.append a.value.fragment.values := by
  rw [a.value.write_eq]
  rfl

def boundValues (row : List Assignment) : List Value := row.flatMap (·.value.fragment.values)

theorem entries_params (row : Assignments) (ps : Params) :
    (row.entries ps).2 = ps.append (boundValues row.toList) :=
  Writer.mapM_params value_params row.toList ps

end Assignments

open Assignments

def boundBefore (rows : List (List Assignment)) (r j : Nat) : List Value :=
  (rows.take r).flatMap boundValues ++ boundValues ((rows.getD r []).take j)

theorem boundBefore_map {rows : List Assignments} {r : Nat} {row : Assignments}
    (place : rows[r]? = some row) (j : Nat) :
    boundBefore (rows.map Assignments.toList) r j =
      (rows.take r).flatMap (fun row => boundValues row.toList) ++
        boundValues (row.toList.take j) := by
  rw [boundBefore, ← List.map_take, List.flatMap_map, List.getD_eq_getElem?_getD,
    List.getElem?_map, place]
  rfl

namespace Insert

theorem shapeDefect?_eq_none_iff (row : Assignments) (rows : List Assignments) :
    shapeDefect? (row :: rows) = none ↔ ∀ other ∈ rows, other.columnNames = row.columnNames := by
  rw [shapeDefect?, List.findSome?_eq_none_iff]
  constructor
  · intro sound other member
    rw [← List.zipIdx_map_fst 2 rows] at member
    obtain ⟨⟨found, number⟩, among, rfl⟩ := List.mem_map.mp member
    have equal := sound _ among
    dsimp only at equal
    split at equal
    · rename_i same
      exact same
    · simp at equal
  · intro same entry among
    have member := List.mem_map_of_mem (f := Prod.fst) among
    rw [List.zipIdx_map_fst] at member
    simp [same _ member]

end Insert

theorem columns_of_named {row : List Assignment}
    (named : ∀ a ∈ row, ∃ name, a.target.columnName? = some name) :
    ∃ columns : List Segment, row.map (·.target.columnName?) = columns.map some := by
  induction row with
  | nil => exact ⟨[], rfl⟩
  | cons a row ih =>
      obtain ⟨first, rest⟩ := List.forall_mem_cons.mp named
      obtain ⟨name, column⟩ := first
      obtain ⟨columns, same⟩ := ih rest
      exact ⟨name :: columns, by rw [List.map_cons, column, same, List.map_cons]⟩

theorem Assignments.exists_columns {row : Assignments} (sound : row.defect? = none) :
    ∃ columns : List Segment, row.toList.map (·.target.columnName?) = columns.map some :=
  columns_of_named fun a member =>
    (a.defect?_eq_none_iff.mp (row.defect?_eq_none_iff.mp sound a member)).1

theorem Assignments.columnNames_eq {row : Assignments} {columns : List Segment}
    (names : row.toList.map (·.target.columnName?) = columns.map some) :
    row.columnNames = (columns.map Segment.sql).map some := by
  have texts := congrArg (List.map (Option.map Segment.sql)) names
  simpa [Assignments.columnNames, SetList.columnNames, Function.comp_def] using texts

theorem Assignments.columns_unique {row other : Assignments} {columns : List Segment}
    (names : row.toList.map (·.target.columnName?) = columns.map some)
    (sound : other.defect? = none) (same : other.columnNames = row.columnNames) :
    other.toList.map (·.target.columnName?) = columns.map some := by
  obtain ⟨others, found⟩ := other.exists_columns sound
  have texts : others.map Segment.sql = columns.map Segment.sql := by
    rw [columnNames_eq names, columnNames_eq found] at same
    exact (List.map_inj_right fun s t => Option.some.inj).mp same
  rw [found, (List.map_inj_right fun s t => Segment.sql_inj.mp).mp texts]

theorem targetTexts_eq {row : List Assignment} {columns : List Segment}
    (names : row.map (·.target.columnName?) = columns.map some) :
    row.map (·.target.targetText) = columns.map Segment.sql := by
  induction row generalizing columns with
  | nil =>
      cases columns with
      | nil => rfl
      | cons name columns => simp at names
  | cons a row ih =>
      cases columns with
      | nil => simp at names
      | cons name columns =>
          obtain ⟨first, rest⟩ := List.cons_eq_cons.mp names
          have text : a.target.targetText = name.sql := by
            rw [Expr.targetText, show a.target.columnName? = some name from first]
          rw [List.map_cons, List.map_cons, ih rest, text]

theorem Assignments.columnsText_eq {row : Assignments} {columns : List Segment}
    (names : row.toList.map (·.target.columnName?) = columns.map some) :
    row.columnsText = listText (columns.map Segment.sql) := by
  rw [columnsText, SetList.columnsText, targetTexts_eq names, listText]

namespace Insert

theorem render_filled {i : Insert} {row : Assignments} {rows : List Assignments}
    (filled : i.rows = row :: rows) (ps : Params) :
    (Query.render i ps).1 =
      "INSERT INTO " ++ i.table.sql ++ " " ++ row.columnsText ++ " VALUES " ++
        ", ".intercalate (((row :: rows).mapM entries ps).1.map listText) ++
        ((conflictClause i.conflict ++ returningClause i.returning).render
          ((row :: rows).mapM entries ps).2).1 := by
  have tuples : (row :: rows).mapM (fun row => listText <$> row.entries) ps = _ :=
    Writer.mapM_map_run listText (row :: rows) ps
  rw [Fragment.render_append, ← writeConflictClause_eq, ← writeReturning_eq]
  change ((do
      let rows ← writeRows i.rows
      let conflict ← writeConflictClause i.conflict
      let returning ← writeReturning i.returning
      return "INSERT INTO " ++ i.table.sql ++ rows ++ conflict ++ returning :
        Writer String) ps).1 = _
  rw [filled, writeRows, Writer.separated]
  simp only [funext writeTuple_eq_map, bind_assoc, pure_bind]
  simp only [Writer.bind_apply, Writer.pure_apply, tuples, String.append_assoc]

theorem shared_columns {i : Insert} {row : Assignments} {rows : List Assignments}
    (filled : i.rows = row :: rows) (valid : i.defect? = none) :
    ∃ columns : List Segment, row.columnsText = listText (columns.map Segment.sql) ∧
      ∀ other ∈ i.rows, other.toList.map (·.target.columnName?) = columns.map some := by
  obtain ⟨sound, shape, -⟩ := i.defect?_eq_none_iff.mp valid
  rw [filled] at sound shape ⊢
  obtain ⟨first, rest⟩ := List.forall_mem_cons.mp sound
  obtain ⟨columns, names⟩ := row.exists_columns first
  refine ⟨columns, columnsText_eq names, List.forall_mem_cons.mpr ⟨names, ?_⟩⟩
  intro other member
  exact columns_unique names (rest other member)
    ((shapeDefect?_eq_none_iff row rows).mp shape other member)

structure Aligned (columns : List Segment) (row : List Assignment) (tuple : List String)
    (before : Nat → Params) : Prop where
  width : tuple.length = columns.length
  entry : ∀ j name, columns[j]? = some name → ∃ a : Assignment, row[j]? = some a ∧
    a.target.columnName? = some name ∧ tuple[j]? = some (a.value.write (before j)).1

theorem aligned_entries {columns : List Segment} {row : Assignments}
    (names : row.toList.map (·.target.columnName?) = columns.map some) (ps : Params) :
    Aligned columns row.toList (row.entries ps).1 fun j =>
      ps.append (boundValues (row.toList.take j)) where
  width := by
    rw [entries, Writer.length_mapM]
    simpa using congrArg List.length names
  entry := by
    intro j name column
    have found : (row.toList.map (·.target.columnName?))[j]? = some (some name) := by
      rw [names, List.getElem?_map, column]
      rfl
    rw [List.getElem?_map] at found
    obtain ⟨a, at_, target⟩ := Option.map_eq_some_iff.mp found
    refine ⟨a, at_, target, ?_⟩
    rw [entries, Writer.getElem?_mapM value_params, at_]
    rfl

/-- Entry `j` of a row is written after the parameters `before j`; the records are taken from the
calls, whatever is said about conflicts and returned columns after them. -/
theorem values_under_columns {t : Table} {calls : List Call} {step : Step} {i : Insert}
    (reached : (Step.insertStart (insertInto t)).run? calls = some step)
    (complete : step.statement? = some (.insert i)) (valid : Query.validate i = .ok ())
    (assigned : ∃ a, Call.assign a ∈ calls) :
    ∃ columns : List Segment, ∀ ps, ∃ tuples : List (List String),
      (Query.render i ps).1 =
        "INSERT INTO " ++ t.sql ++ " " ++ listText (columns.map Segment.sql) ++ " VALUES " ++
          ", ".intercalate (tuples.map listText) ++
          ((conflictClause i.conflict ++ returningClause i.returning).render
            (ps.append ((Call.records calls).flatMap boundValues))).1 ∧
      tuples.length = (Call.records calls).length ∧
      ∀ r row, (Call.records calls)[r]? = some row → ∃ tuple, tuples[r]? = some tuple ∧
        Aligned columns row tuple fun j => ps.append (boundBefore (Call.records calls) r j) := by
  obtain ⟨table, held⟩ := Step.statement?_eq_insert complete
  have records := Step.rows_of_run reached
  rw [← held] at records
  rw [Step.table_of_run reached] at table
  obtain ⟨a, member⟩ := assigned
  have nonempty := Step.records_ne_nil reached (List.ne_nil_of_mem member)
  rw [← records]
  cases filled : i.rows with
  | nil => rw [← records, filled] at nonempty; exact absurd rfl nonempty
  | cons row rows =>
      obtain ⟨columns, names, same⟩ :=
        shared_columns filled ((Defect.check_eq_ok_iff _).mp valid)
      refine ⟨columns, fun ps => ⟨((row :: rows).mapM entries ps).1, ?_, ?_, ?_⟩⟩
      · rw [render_filled filled, names, table, Writer.mapM_params entries_params,
          List.flatMap_map]
        rfl
      · rw [Writer.length_mapM, List.length_map]
      · intro r record found
        rw [List.getElem?_map] at found
        obtain ⟨other, place, rfl⟩ := Option.map_eq_some_iff.mp found
        have there : other ∈ i.rows := filled ▸ List.mem_of_getElem? place
        have aligned := aligned_entries (same other there)
          (ps.append (((row :: rows).take r).flatMap fun row => boundValues row.toList))
        rw [Writer.getElem?_mapM entries_params, place]
        refine ⟨_, rfl, ?_⟩
        simpa only [boundBefore_map place, Params.append_append] using aligned

def twoRecords : List Call :=
  let a : Expr := .column ⟨[], .quoted "a"⟩
  let b : Expr := .column ⟨[], .quoted "b"⟩
  [.assign ⟨a, .bind (.int4 1)⟩, .assign ⟨b, .bind (.int4 2)⟩, .newRecord,
    .assign ⟨a, .bind (.int4 3)⟩, .assign ⟨b, .bind (.int4 4)⟩, .newRecord]

theorem values_under_columns_twoRecords :
    ∃ columns : List Segment, ∀ ps : Params, ∃ tuples : List (List String),
      tuples.length = 2 ∧
      ∀ r row, (Call.records twoRecords)[r]? = some row → ∃ tuple, tuples[r]? = some tuple ∧
        Aligned columns row tuple
          fun j => ps.append (boundBefore (Call.records twoRecords) r j) := by
  have assigned : ∃ a, Call.assign a ∈ twoRecords := ⟨_, List.mem_cons_self⟩
  obtain ⟨columns, written⟩ :=
    @values_under_columns ⟨⟨[], .quoted "t"⟩⟩ twoRecords _ _ rfl rfl rfl assigned
  refine ⟨columns, fun ps => ?_⟩
  obtain ⟨tuples, -, count, aligned⟩ := written ps
  exact ⟨tuples, count, aligned⟩

end Insert

end SqlBuilder
