import SqlBuilder.Proofs.Statements.Columns
import SqlBuilder.Proofs.Statements.Draft

namespace SqlBuilder

namespace Call

def assigned (calls : List Call) : List Assignment :=
  calls.filterMap fun
    | .assign a => some a
    | _ => none

def extend (row : List Assignment) : Call → List Assignment
  | .assign a => row ++ [a]
  | .newRecord => []
  | .doUpdate => []
  | _ => row

def current (calls : List Call) : List Assignment := calls.foldl extend []

def restrict (c : Condition) : Call → Condition
  | .filter d => d
  | .andFilter d => .all [c, d]
  | _ => c

def condition (calls : List Call) : Condition := calls.foldl restrict .neutral

def returning? : Call → Option (List Expr)
  | .returning columns => some columns
  | _ => none

def returned (calls : List Call) : List Expr := (calls.filterMap returning?).getLast?.getD []

def conflict : List Call → Option ConflictDraft
  | [] => none
  | .onConflictDoNothing :: _ => some ⟨[], .doNothing⟩
  | .onConflict target :: .doNothing :: _ => some ⟨target, .doNothing⟩
  | .onConflict target :: .doUpdate :: calls =>
      some ⟨target, .doUpdate (assigned calls) (condition calls)⟩
  | _ :: calls => conflict calls

end Call

open Call

/-- The parts of a draft are those of the calls, and no row but the last is empty. -/
structure InsertDraft.Recorded (t : Table) (calls : List Call) (d : InsertDraft) : Prop where
  table : d.table = t
  rows : d.filledRows = records calls
  filled : ∀ row ∈ d.rows.dropLast, row ≠ []
  conflict : d.conflict = Call.conflict calls
  returning : d.returning = returned calls

structure UpdateDraft.Recorded (t : Table) (calls : List Call) (d : UpdateDraft) : Prop where
  table : d.table = t
  set : d.set = assigned calls
  condition : d.condition = Call.condition calls
  returning : d.returning = returned calls

namespace Step

def returned : Step → List Expr
  | .insertStart _ => []
  | .insertRow _ => []
  | .insertConflict s => s.insert.returning
  | .upsertStart s => s.insert.returning
  | .upsert s => s.insert.returning
  | .insertDone s => s.statement.returning
  | .updateStart _ => []
  | .updateSet _ => []
  | .updateFilter s => s.statement.returning
  | .updateDone s => s.statement.returning

theorem returned_of_next? {s t : Step} {c : Call} (next : s.next? c = some t) :
    t.returned = c.returning?.getD s.returned := by
  unfold next? at next
  split at next <;> first | exact Option.some.inj next ▸ rfl | simp at next

theorem returned_of_run {s t : Step} {calls : List Call} (reached : s.run? calls = some t) :
    t.returned = (calls.filterMap returning?).getLast?.getD s.returned := by
  induction calls generalizing s with
  | nil => exact Option.some.inj reached ▸ rfl
  | cons c calls ih =>
      rw [run?_cons] at reached
      obtain ⟨mid, first, rest⟩ := Option.bind_eq_some_iff.mp reached
      rw [ih rest, returned_of_next? first]
      cases asked : c.returning? with
      | none => simp [asked]
      | some columns => simp [asked, List.getLast?_cons]

def current? : Step → Option (List Assignment)
  | .insertStart _ => some []
  | .insertRow s => some s.row.toList
  | .upsertStart _ => some []
  | .upsert s => some s.set.toList
  | .updateStart _ => some []
  | .updateSet s => some s.set.toList
  | _ => none

theorem current?_of_next? {s t : Step} {c : Call} (next : s.next? c = some t)
    {row before : List Assignment} (held : ∀ r, s.current? = some r → r = before)
    (filling : t.current? = some row) : row = extend before c := by
  unfold next? at next
  split at next
  case h_20 => simp at next
  all_goals
    obtain rfl := Option.some.inj next
    simp_all [current?, extend, SqlBuilder.assign]

theorem current?_of_run {s t : Step} {calls : List Call} (reached : s.run? calls = some t)
    {row before : List Assignment} (held : ∀ r, s.current? = some r → r = before)
    (filling : t.current? = some row) : row = calls.foldl extend before := by
  induction calls generalizing s before with
  | nil =>
      obtain rfl := Option.some.inj reached
      exact held row filling
  | cons c calls ih =>
      rw [run?_cons] at reached
      obtain ⟨mid, first, rest⟩ := Option.bind_eq_some_iff.mp reached
      exact ih rest fun r within => current?_of_next? first held within

theorem current?_of_assignmentCount? {s : Step} {n : Nat} (counted : s.assignmentCount? = some n) :
    ∃ row, s.current? = some row ∧ n = row.length := by
  cases s with
  | insertRow s => exact ⟨s.row.toList, rfl, (Option.some.inj counted).symm⟩
  | upsert s => exact ⟨s.set.toList, rfl, (Option.some.inj counted).symm⟩
  | updateSet s => exact ⟨s.set.toList, rfl, (Option.some.inj counted).symm⟩
  | _ => simp [assignmentCount?] at counted

def conflict (s : Step) : Option ConflictDraft := s.draft.insert?.bind InsertDraft.conflict

theorem conflict_of_done_run {s : InsertDone} {t : Step} {calls : List Call}
    (reached : (insertDone s).run? calls = some t) :
    t.conflict = (insertDone s).conflict ∧ Call.conflict calls = none ∧ assigned calls = [] ∧
      ∀ c, calls.foldl restrict c = c := by
  induction calls generalizing s with
  | nil => exact ⟨Option.some.inj reached ▸ rfl, rfl, rfl, fun c => rfl⟩
  | cons c calls ih =>
      cases c with
      | returning columns => exact ih (s := s.returning columns) reached
      | _ => simp [run?_cons, next?] at reached

theorem conflict_of_upsert_run {s : Upsert} {t : Step} {calls : List Call}
    (reached : (upsert s).run? calls = some t) :
    t.conflict = some ⟨s.target, .doUpdate (s.set.toList ++ assigned calls) (condition calls)⟩ := by
  induction calls generalizing s with
  | nil =>
      obtain rfl := Option.some.inj reached
      simp [conflict, draft, Draft.insert?, Upsert.statement, Upsert.statementWhere, Insert.draft,
        ConflictAction.draft, assigned, condition]
  | cons c calls ih =>
      cases c with
      | assign a =>
          rw [ih (s := SqlBuilder.assign s a) reached]
          simp [SqlBuilder.assign, assigned, condition, restrict]
      | filter c =>
          obtain ⟨same, -, none, kept⟩ := conflict_of_done_run (s := s.filter c) reached
          have nothing : assigned (.filter c :: calls) = [] := none
          have held : condition (.filter c :: calls) = c := kept c
          rw [same, nothing, held, List.append_nil]
          rfl
      | returning columns =>
          obtain ⟨same, -, none, kept⟩ := conflict_of_done_run (s := s.returning columns) reached
          have nothing : assigned (.returning columns :: calls) = [] := none
          have held : condition (.returning columns :: calls) = .neutral := kept .neutral
          rw [same, nothing, held, List.append_nil]
          rfl
      | _ => simp [run?_cons, next?] at reached

theorem conflict_of_conflict_run {s : InsertConflict} {t : Step} {calls : List Call}
    (fresh : s.insert.conflict = none) (reached : (insertConflict s).run? calls = some t) :
    t.conflict = Call.conflict (.onConflict s.target :: calls) := by
  cases calls with
  | nil =>
      obtain rfl := Option.some.inj reached
      simp [conflict, draft, Draft.insert?, Insert.draft, fresh, Call.conflict]
  | cons c calls =>
      cases c with
      | doNothing => exact (conflict_of_done_run (s := s.doNothing) reached).1
      | doUpdate =>
          cases calls with
          | nil => exact Option.some.inj reached ▸ rfl
          | cons c calls =>
              cases c with
              | assign a =>
                  exact conflict_of_upsert_run (s := SqlBuilder.assign s.doUpdate a) reached
              | _ => simp [run?_cons, next?] at reached
      | _ => simp [run?_cons, next?] at reached

theorem conflict_of_open_run {t : Step} (calls : List Call) :
    (∀ s : InsertStart, (insertStart s).run? calls = some t → t.conflict = Call.conflict calls) ∧
    (∀ s : InsertRow, (insertRow s).run? calls = some t → t.conflict = Call.conflict calls) := by
  -- Together, as for the rows: the two kinds of step lead to each other.
  induction calls with
  | nil => exact ⟨fun s reached => Option.some.inj reached ▸ rfl,
      fun s reached => Option.some.inj reached ▸ rfl⟩
  | cons c calls ih =>
      obtain ⟨fromStart, fromRow⟩ := ih
      constructor
      · intro s reached
        cases c with
        | assign a => exact fromRow (SqlBuilder.assign s a) reached
        | _ => simp [run?_cons, next?] at reached
      · intro s reached
        cases c with
        | assign a => exact fromRow (SqlBuilder.assign s a) reached
        | newRecord => exact fromStart s.newRecord reached
        | onConflict target => exact conflict_of_conflict_run (s := s.onConflict target) rfl reached
        | onConflictDoNothing => exact (conflict_of_done_run (s := s.onConflictDoNothing) reached).1
        | returning columns =>
            obtain ⟨same, none, -⟩ := conflict_of_done_run (s := s.returning columns) reached
            exact same.trans none.symm
        | _ => simp [run?_cons, next?] at reached

theorem insert?_of_next? {s t : Step} {c : Call} (next : s.next? c = some t) :
    t.draft.insert?.isSome = s.draft.insert?.isSome := by
  unfold next? at next
  split at next <;> first | exact Option.some.inj next ▸ rfl | simp at next

theorem parts_of_insert? {s : Step} {d : InsertDraft} (held : s.draft.insert? = some d) :
    d.table = s.table ∧ d.filledRows = s.rows.map Assignments.toList ∧
      (∀ row ∈ d.rows.dropLast, row ≠ []) ∧ d.returning = s.returned := by
  have written : ∀ rows : List Assignments, ∀ row ∈ rows.map Assignments.toList, row ≠ [] := by
    intro rows row member
    obtain ⟨as, -, rfl⟩ := List.mem_map.mp member
    exact as.toList_ne_nil
  have kept : ∀ rows : List Assignments,
      (rows.map Assignments.toList).filter (!·.isEmpty) = rows.map Assignments.toList := by
    intro rows
    exact List.filter_eq_self.mpr (by simpa using written rows)
  cases s with
  | insertStart s =>
      obtain rfl := Option.some.inj held
      refine ⟨rfl, ?_, ?_, rfl⟩
      · rw [InsertDraft.filledRows]
        change (s.rows.map Assignments.toList ++ [[]]).filter _ = _
        rw [List.filter_append, kept]
        exact List.append_nil _
      · change ∀ row ∈ (s.rows.map Assignments.toList ++ [[]]).dropLast, row ≠ []
        rw [List.dropLast_concat]
        exact written s.rows
  | updateStart s => simp [draft, Draft.insert?] at held
  | updateSet s => simp [draft, Draft.insert?] at held
  | updateFilter s => simp [draft, Draft.insert?] at held
  | updateDone s => simp [draft, Draft.insert?] at held
  | _ =>
      obtain rfl := Option.some.inj held
      exact ⟨rfl, kept _, fun row member => written _ row (List.dropLast_subset _ member), rfl⟩

theorem insert_recorded {t : Table} {s : Step} {calls : List Call}
    (reached : (insertStart (insertInto t)).run? calls = some s) :
    ∃ d, s.draft.insert? = some d ∧ d.Recorded t calls := by
  have held : s.draft.insert?.isSome = true :=
    run_invariant (P := fun u => u.draft.insert?.isSome = true)
      (fun u c v next before => (insert?_of_next? next).trans before) reached rfl
  obtain ⟨d, draft⟩ := Option.isSome_iff_exists.mp held
  obtain ⟨table, rows, filled, returning⟩ := parts_of_insert? draft
  have conflict := (conflict_of_open_run calls).1 (insertInto t) reached
  rw [Step.conflict, draft] at conflict
  exact ⟨d, draft, table.trans (table_of_run reached), rows.trans (rows_of_run reached), filled,
    conflict, returning.trans (returned_of_run reached)⟩

theorem update?_of_next? {s t : Step} {c : Call} {d : UpdateDraft} (next : s.next? c = some t)
    (held : s.draft.update? = some d) :
    t.draft.update? = some ⟨d.table, d.set ++ assigned [c], restrict d.condition c,
      c.returning?.getD d.returning⟩ := by
  have drafts : s.draft.next? c = some t.draft := by rw [draft_next?, next, Option.map_some]
  unfold Draft.next? at drafts
  split at drafts
  case h_20 => simp at drafts
  all_goals
    rw [← Option.some.inj drafts]
    simp_all [Draft.update?, UpdateDraft.assign, assigned, restrict, returning?]

theorem update?_of_run {s t : Step} {calls : List Call} {d : UpdateDraft}
    (reached : s.run? calls = some t) (held : s.draft.update? = some d) :
    t.draft.update? = some ⟨d.table, d.set ++ assigned calls, calls.foldl restrict d.condition,
      (calls.filterMap returning?).getLast?.getD d.returning⟩ := by
  induction calls generalizing s d with
  | nil =>
      obtain rfl := Option.some.inj reached
      rw [held]
      simp [assigned]
  | cons c calls ih =>
      rw [run?_cons] at reached
      obtain ⟨mid, first, rest⟩ := Option.bind_eq_some_iff.mp reached
      rw [ih rest (update?_of_next? first held)]
      have set : assigned (c :: calls) = assigned [c] ++ assigned calls :=
        List.filterMap_append (l := [c])
      rw [set, List.append_assoc]
      cases asked : c.returning? with
      | none => simp [asked]
      | some columns => simp [asked, List.getLast?_cons]

theorem update_recorded {t : Table} {s : Step} {calls : List Call}
    (reached : (updateStart (update t)).run? calls = some s) :
    ∃ d, s.draft.update? = some d ∧ d.Recorded t calls :=
  ⟨_, update?_of_run reached rfl, rfl, rfl, rfl, rfl⟩

theorem insert_of_statement? {s : Step} {st : Statement} {d : InsertDraft}
    (complete : s.statement? = some st) (held : s.draft.insert? = some d) :
    ∃ i, st = .insert i ∧ i.draft = { d with rows := d.filledRows } := by
  obtain ⟨-, rows, -⟩ := parts_of_insert? held
  rw [rows]
  cases s with
  | insertConflict s => simp [statement?] at complete
  | upsertStart s => simp [statement?] at complete
  | updateStart s => simp [draft, Draft.insert?] at held
  | updateSet s => simp [draft, Draft.insert?] at held
  | updateFilter s => simp [draft, Draft.insert?] at held
  | updateDone s => simp [draft, Draft.insert?] at held
  | _ =>
      obtain rfl := Option.some.inj held
      exact ⟨_, (Option.some.inj complete).symm, rfl⟩

theorem update_of_statement? {s : Step} {st : Statement} {d : UpdateDraft}
    (complete : s.statement? = some st) (held : s.draft.update? = some d) :
    ∃ u, st = .update u ∧ u.draft = d := by
  cases s with
  | updateSet s => exact ⟨_, (Option.some.inj complete).symm, Option.some.inj held⟩
  | updateFilter s => exact ⟨_, (Option.some.inj complete).symm, Option.some.inj held⟩
  | updateDone s => exact ⟨_, (Option.some.inj complete).symm, Option.some.inj held⟩
  | updateStart s => simp [statement?] at complete
  | _ => simp [draft, Draft.update?] at held

theorem text_of_defaults (t : Table) (ps : Params) :
    (Query.render (Insert.mk t [] none []) ps).1 =
      "INSERT INTO " ++ t.sql ++ " DEFAULT VALUES" := by
  rw [Query.render_eq]
  change (Insert.fragment ⟨t, [], none, []⟩).textFrom (ps.size + 1) = _
  simp [Insert.fragment, Insert.rowsFragment, Insert.conflictClause, returningClause,
    Fragment.listClause, Fragment.textFrom, Fragment.textsFrom]

theorem defaults_iff {t : Table} {s : Step} {calls : List Call} {i : Insert}
    (reached : (insertStart (insertInto t)).run? calls = some s)
    (complete : s.statement? = some (.insert i)) (ps : Params) (rest : String) :
    (Query.render i ps).1 = "INSERT INTO " ++ t.sql ++ " DEFAULT VALUES" ++ rest ↔
      calls = [] ∧ rest = "" := by
  cases calls with
  | nil =>
      obtain rfl := Option.some.inj reached
      have bare : Statement.insert ⟨t, [], none, []⟩ = .insert i := Option.some.inj complete
      obtain rfl := Statement.insert.inj bare
      rw [text_of_defaults]
      constructor
      · intro same
        have chars := congrArg String.toList same
        refine ⟨rfl, String.toList_eq_nil_iff.mp ?_⟩
        simpa using chars
      · rintro ⟨-, rfl⟩
        exact String.append_empty.symm
  | cons c calls =>
      obtain ⟨same, held⟩ := statement?_eq_insert complete
      have table : i.table = t := same.trans (table_of_run reached)
      have records := rows_of_run reached
      rw [← held] at records
      have nonempty := records_ne_nil reached (List.cons_ne_nil c calls)
      cases filled : i.rows with
      | nil => exact absurd (by rw [← records, filled]; rfl) nonempty
      | cons row rows =>
          -- The column list opens with a parenthesis.
          constructor
          · intro same
            rw [Insert.render_filled filled, table] at same
            have chars := congrArg String.toList same
            simp [Assignments.columnsText, SetList.columnsText, String.append_assoc] at chars
          · rintro ⟨none, -⟩
            simp at none

end Step

/-- A finished INSERT is its draft without the rows that were begun and never filled. -/
structure Insert.Keeps (t : Table) (calls : List Call) (d : InsertDraft) (i : Insert) : Prop where
  draft : i.draft = { d with rows := d.filledRows }
  agrees : d.write = i.write ∧ d.defect? = i.defect?
  updates : ∀ target set c, d.conflict = some ⟨target, .doUpdate set c⟩ → set ≠ []
  defaults : ∀ ps rest,
    (Query.render i ps).1 = "INSERT INTO " ++ t.sql ++ " DEFAULT VALUES" ++ rest ↔
      calls = [] ∧ rest = ""

structure Update.Keeps (d : UpdateDraft) (u : Update) : Prop where
  draft : u.draft = d
  agrees : d.write = u.write ∧ d.defect? = u.defect?
  updates : d.set ≠ []

namespace Step

theorem keeps_insert {t : Table} {s : Step} {calls : List Call} {st : Statement} {d : InsertDraft}
    (reached : (insertStart (insertInto t)).run? calls = some s)
    (complete : s.statement? = some st) (held : s.draft.insert? = some d) :
    ∃ i, st = .insert i ∧ i.Keeps t calls d := by
  obtain ⟨i, rfl, draft⟩ := insert_of_statement? complete held
  refine ⟨i, rfl, draft, InsertDraft.agrees draft, ?_, defaults_iff reached complete⟩
  intro target set c action
  have conflict : i.draft.conflict = some ⟨target, .doUpdate set c⟩ := by rw [draft, ← action]
  obtain ⟨answer, -, same⟩ := Option.map_eq_some_iff.mp conflict
  obtain ⟨-, same⟩ := ConflictDraft.mk.inj same
  cases written : answer.action with
  | doNothing => simp [written, ConflictAction.draft] at same
  | doUpdate assignments condition =>
      rw [written] at same
      obtain ⟨rfl, -⟩ := ActionDraft.doUpdate.inj same
      exact assignments.toList_ne_nil

theorem keeps_update {s : Step} {st : Statement} {d : UpdateDraft}
    (complete : s.statement? = some st) (held : s.draft.update? = some d) :
    ∃ u, st = .update u ∧ u.Keeps d := by
  obtain ⟨u, rfl, rfl⟩ := update_of_statement? complete held
  exact ⟨u, rfl, rfl, UpdateDraft.agrees u, u.set.toList_ne_nil⟩

theorem count_of_run {s t : Step} {calls : List Call} (reached : s.run? calls = some t)
    (fresh : s.current? = some []) {n : Nat} (counted : t.assignmentCount? = some n) :
    n = (current calls).length := by
  obtain ⟨row, filling, rfl⟩ := current?_of_assignmentCount? counted
  have held : ∀ r, s.current? = some r → r = [] := by
    intro r within
    rw [fresh] at within
    exact (Option.some.inj within).symm
  rw [current?_of_run reached held filling]
  rfl

/-- The run of the same calls on drafts, which drop what finds no place, ends in the draft of the
step. -/
theorem run_recorded (t : Table) (calls : List Call) (s : Step) :
    ((insertStart (insertInto t)).run? calls = some s →
      (Draft.insertStart (.ofTable t)).run? calls = some s.draft ∧
      s.draft.assignmentCount? = s.assignmentCount? ∧
      (∀ n, s.assignmentCount? = some n → n = (current calls).length) ∧
      ∃ d, s.draft.insert? = some d ∧ d.Recorded t calls ∧
        ∀ st, s.statement? = some st → ∃ i, st = .insert i ∧ i.Keeps t calls d) ∧
    ((updateStart (update t)).run? calls = some s →
      (Draft.updateStart (.ofTable t)).run? calls = some s.draft ∧
      s.draft.assignmentCount? = s.assignmentCount? ∧
      (∀ n, s.assignmentCount? = some n → n = (current calls).length) ∧
      ∃ d, s.draft.update? = some d ∧ d.Recorded t calls ∧
        ∀ st, s.statement? = some st → ∃ u, st = .update u ∧ u.Keeps d) := by
  constructor
  · intro reached
    have drafts := draft_run? (insertStart (insertInto t)) calls
    rw [reached] at drafts
    obtain ⟨d, held, recorded⟩ := insert_recorded reached
    exact ⟨drafts, s.assignmentCount?_draft, fun n => count_of_run reached rfl, d, held, recorded,
      fun st complete => keeps_insert reached complete held⟩
  · intro reached
    have drafts := draft_run? (updateStart (update t)) calls
    rw [reached] at drafts
    obtain ⟨d, held, recorded⟩ := update_recorded reached
    exact ⟨drafts, s.assignmentCount?_draft, fun n => count_of_run reached rfl, d, held, recorded,
      fun st complete => keeps_update complete held⟩

def upsertCalls : List Call :=
  let a : Expr := .column ⟨[], .quoted "a"⟩
  let b : Expr := .column ⟨[], .quoted "b"⟩
  [.assign ⟨a, .bind (.int4 1)⟩, .newRecord, .assign ⟨a, .bind (.int4 2)⟩, .onConflict [a],
    .doUpdate, .assign ⟨b, .bind (.int4 3)⟩, .filter (.constant true), .returning [a],
    .returning [b]]

def filterCalls : List Call :=
  let a : Expr := .column ⟨[], .quoted "a"⟩
  [.assign ⟨a, .bind (.int4 1)⟩, .filter (.nullCheck a false), .andFilter (.constant true)]

theorem run_recorded_upsert :
    (∃ d : InsertDraft, d.Recorded ⟨⟨[], .quoted "t"⟩⟩ upsertCalls ∧ d.rows.length = 2 ∧
      d.conflict.isSome = true) ∧
    ∃ d : UpdateDraft, d.Recorded ⟨⟨[], .quoted "t"⟩⟩ filterCalls ∧ d.set.length = 1 := by
  obtain ⟨-, -, -, d, held, recorded, -⟩ := (run_recorded ⟨⟨[], .quoted "t"⟩⟩ upsertCalls _).1 rfl
  obtain ⟨-, -, -, u, kept, filtered, -⟩ := (run_recorded ⟨⟨[], .quoted "t"⟩⟩ filterCalls _).2 rfl
  obtain rfl := Option.some.inj held
  obtain rfl := Option.some.inj kept
  exact ⟨⟨_, recorded, rfl, rfl⟩, _, filtered, rfl⟩

end Step
end SqlBuilder
