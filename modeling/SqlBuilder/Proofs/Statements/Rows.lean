import SqlBuilder.Statement.Step

namespace SqlBuilder

namespace Step

theorem run?_cons (s : Step) (c : Call) (calls : List Call) :
    s.run? (c :: calls) = (s.next? c).bind fun t => t.run? calls := rfl

theorem run_invariant_of_mem {P : Step → Prop} {calls : List Call}
    (preserved : ∀ c ∈ calls, ∀ s t, s.next? c = some t → P s → P t) {s t : Step}
    (reached : s.run? calls = some t) (start : P s) : P t := by
  induction calls generalizing s with
  | nil =>
      obtain rfl := Option.some.inj reached
      exact start
  | cons c calls ih =>
      rw [run?_cons] at reached
      obtain ⟨mid, first, rest⟩ := Option.bind_eq_some_iff.mp reached
      obtain ⟨here, later⟩ := List.forall_mem_cons.mp preserved
      exact ih later rest (here s mid first start)

theorem run_invariant {P : Step → Prop}
    (preserved : ∀ s c t, s.next? c = some t → P s → P t) {s t : Step} {calls : List Call}
    (reached : s.run? calls = some t) (start : P s) : P t :=
  run_invariant_of_mem (fun c _ s t => preserved s c t) reached start

def table : Step → Table
  | .insertStart s => s.table
  | .insertRow s => s.table
  | .insertConflict s => s.insert.table
  | .upsertStart s => s.insert.table
  | .upsert s => s.insert.table
  | .insertDone s => s.statement.table
  | .updateStart s => s.table
  | .updateSet s => s.table
  | .updateFilter s => s.statement.table
  | .updateDone s => s.statement.table

def rows : Step → List Assignments
  | .insertStart s => s.rows
  | .insertRow s => s.rows ++ [s.row]
  | .insertConflict s => s.insert.rows
  | .upsertStart s => s.insert.rows
  | .upsert s => s.insert.rows
  | .insertDone s => s.statement.rows
  | _ => []

def isSettled : Step → Bool
  | .insertStart _ => false
  | .insertRow _ => false
  | _ => true

theorem statement?_eq_insert {s : Step} {i : Insert} (complete : s.statement? = some (.insert i)) :
    i.table = s.table ∧ i.rows = s.rows := by
  cases s with
  | insertConflict s => simp [statement?] at complete
  | upsertStart s => simp [statement?] at complete
  | updateStart s => simp [statement?] at complete
  | updateSet s => simp [statement?] at complete
  | updateFilter s => simp [statement?] at complete
  | updateDone s => simp [statement?] at complete
  | _ =>
      simp only [statement?, Option.some.injEq, Statement.insert.injEq] at complete
      subst complete
      exact ⟨rfl, rfl⟩

theorem table_of_next? (s : Step) (c : Call) (t : Step) (next : s.next? c = some t) :
    t.table = s.table := by
  unfold next? at next
  split at next <;> first | exact Option.some.inj next ▸ rfl | simp at next

theorem rows_of_next? (s : Step) (c : Call) (t : Step) (next : s.next? c = some t)
    (settled : s.isSettled = true) : t.isSettled = true ∧ t.rows = s.rows := by
  unfold next? at next
  split at next <;>
    first | simp [isSettled] at settled; done | exact Option.some.inj next ▸ ⟨rfl, rfl⟩ |
      simp at next

theorem table_of_run {s t : Step} {calls : List Call} (reached : s.run? calls = some t) :
    t.table = s.table :=
  run_invariant (fun u c v next same => (table_of_next? u c v next).trans same) reached rfl

theorem rows_of_settled_run {s t : Step} {calls : List Call} (reached : s.run? calls = some t)
    (settled : s.isSettled = true) : t.rows = s.rows := by
  have kept : t.isSettled = true ∧ t.rows = s.rows := by
    apply run_invariant ?_ reached ⟨settled, rfl⟩
    rintro u c v next ⟨before, same⟩
    obtain ⟨after, equal⟩ := rows_of_next? u c v next before
    exact ⟨after, equal.trans same⟩
  exact kept.2

end Step

namespace Call

def finished (row : List Assignment) : List (List Assignment) := if row.isEmpty then [] else [row]

/-- The records of the calls, when `row` has been assigned to the current one. The first call that
is about something else than records ends them. -/
def recordsFrom : (row : List Assignment) → List Call → List (List Assignment)
  | row, .assign a :: calls => recordsFrom (row ++ [a]) calls
  | row, .newRecord :: calls => finished row ++ recordsFrom [] calls
  | row, _ => finished row

def records (calls : List Call) : List (List Assignment) := recordsFrom [] calls

theorem finished_toList (row : Assignments) : finished row.toList = [row.toList] := rfl

theorem recordsFrom_ne_nil {row : List Assignment} (filled : row ≠ []) (calls : List Call) :
    recordsFrom row calls ≠ [] := by
  induction calls generalizing row with
  | nil => simpa [recordsFrom, finished] using filled
  | cons c calls ih =>
      cases c with
      | assign a => exact ih (by simp)
      | newRecord => simp [recordsFrom, finished, filled]
      | _ => simpa [recordsFrom, finished] using filled

end Call

namespace Step

open Call

theorem rows_of_open_run {t : Step} (calls : List Call) :
    (∀ s : InsertStart, (insertStart s).run? calls = some t →
      t.rows.map Assignments.toList = s.rows.map Assignments.toList ++ recordsFrom [] calls) ∧
    (∀ s : InsertRow, (insertRow s).run? calls = some t →
      t.rows.map Assignments.toList =
        s.rows.map Assignments.toList ++ recordsFrom s.row.toList calls) := by
  -- Together, since an assignment and a new record lead from one kind of step to the other.
  induction calls with
  | nil =>
      constructor
      · intro s reached
        obtain rfl := Option.some.inj reached
        simp [rows, recordsFrom, finished]
      · intro s reached
        obtain rfl := Option.some.inj reached
        simp [rows, recordsFrom, finished_toList]
  | cons c calls ih =>
      obtain ⟨fromStart, fromRow⟩ := ih
      constructor
      · intro s reached
        cases c with
        | assign a => exact fromRow (assign s a) reached
        | _ => simp [run?_cons, next?] at reached
      · intro s reached
        have settled : ∀ u : Step, u.isSettled = true → u.rows = s.rows ++ [s.row] →
            u.run? calls = some t →
            t.rows.map Assignments.toList =
              s.rows.map Assignments.toList ++ finished s.row.toList := by
          intro u done held reached
          rw [rows_of_settled_run reached done, held, List.map_append, finished_toList]
          rfl
        cases c with
        | assign a => exact fromRow (assign s a) reached
        | newRecord =>
            have rest := fromStart s.newRecord reached
            rw [rest, recordsFrom, finished_toList]
            simp [InsertRow.newRecord]
        | onConflict target => exact settled _ rfl rfl reached
        | onConflictDoNothing => exact settled _ rfl rfl reached
        | returning columns => exact settled _ rfl rfl reached
        | doNothing => simp [run?_cons, next?] at reached
        | doUpdate => simp [run?_cons, next?] at reached
        | filter condition => simp [run?_cons, next?] at reached
        | andFilter condition => simp [run?_cons, next?] at reached

theorem rows_of_run {t : Table} {calls : List Call} {step : Step}
    (reached : (insertStart (insertInto t)).run? calls = some step) :
    step.rows.map Assignments.toList = records calls :=
  (rows_of_open_run calls).1 (insertInto t) reached

theorem records_ne_nil {t : Table} {calls : List Call} {step : Step}
    (reached : (insertStart (insertInto t)).run? calls = some step) (called : calls ≠ []) :
    records calls ≠ [] := by
  cases calls with
  | nil => exact absurd rfl called
  | cons c calls =>
      -- Nothing but an assignment can come first.
      cases c with
      | assign a => exact recordsFrom_ne_nil (by simp) calls
      | _ => simp [run?_cons, next?] at reached

end Step
end SqlBuilder
