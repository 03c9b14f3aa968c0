import Mathlib.Data.List.Basic
import SqlBuilder.Proofs.Rendering.Faults
import SqlBuilder.Proofs.Statements.Columns

namespace SqlBuilder

open Fragment

structure Assignment.Sound (a : Assignment) : Prop where
  target : ∃ path, a.target = .column path
  value : (Term.expr a.value).Faultless

def Assignments.Sound (as : Assignments) : Prop := ∀ a ∈ as.toList, a.Sound

def Assignments.names (as : Assignments) : List Segment :=
  as.toList.filterMap (·.target.columnName?)

structure Conflict.Sound (c : Conflict) : Prop where
  target : ∀ e ∈ c.target, ∃ path, e = .column path
  update : ∀ set condition, c.action = .doUpdate set condition →
    c.target ≠ [] ∧ set.Sound ∧ (Term.condition condition).Faultless

structure Insert.Sound (i : Insert) : Prop where
  rows : ∀ row ∈ i.rows, row.Sound
  columns : ∀ row ∈ i.rows, ∀ other ∈ i.rows, row.names = other.names
  conflict : ∀ c, i.conflict = some c → c.Sound
  returning : ∀ e ∈ i.returning, (Term.expr e).Faultless

structure Update.Sound (u : Update) : Prop where
  set : u.set.Sound
  condition : (Term.condition u.condition).Faultless
  returning : ∀ e ∈ u.returning, (Term.expr e).Faultless

def Statement.Sound : Statement → Prop
  | .insert i => i.Sound
  | .update u => u.Sound

theorem Expr.exists_columnName?_iff (e : Expr) :
    (∃ name, e.columnName? = some name) ↔ ∃ path, e = .column path := by
  cases e <;> simp [Expr.columnName?]

theorem Assignment.defect?_eq_none_iff_sound (a : Assignment) : a.defect? = none ↔ a.Sound := by
  rw [a.defect?_eq_none_iff, a.target.exists_columnName?_iff, a.value.defect?_eq_none_iff]
  exact ⟨fun ⟨target, value⟩ => ⟨target, value⟩, fun sound => ⟨sound.target, sound.value⟩⟩

theorem Assignments.defect?_eq_none_iff_sound (as : Assignments) :
    as.defect? = none ↔ as.Sound := by
  rw [as.defect?_eq_none_iff]
  exact forall₂_congr fun a _ => a.defect?_eq_none_iff_sound

theorem Expr.forall_defect?_eq_none_iff (columns : List Expr) :
    (∀ e ∈ columns, e.defect? = none) ↔ ∀ e ∈ columns, (Term.expr e).Faultless :=
  forall₂_congr fun e _ => e.defect?_eq_none_iff

namespace Conflict

theorem actionDefect?_eq_none_iff (c : Conflict) :
    c.actionDefect? = none ↔ ∀ set condition, c.action = .doUpdate set condition →
      c.target ≠ [] ∧ set.defect? = none ∧ condition.defect? = none := by
  unfold actionDefect?
  cases c.action with
  | doNothing => simp
  | doUpdate set condition =>
      rw [Option.orElse_eq_none, Option.orElse_eq_none]
      simp

theorem defect?_eq_none_iff_sound (c : Conflict) : c.defect? = none ↔ c.Sound := by
  rw [c.defect?_eq_none_iff, c.actionDefect?_eq_none_iff]
  simp only [Expr.conflictDefect?_eq_none_iff, Expr.exists_columnName?_iff,
    Assignments.defect?_eq_none_iff_sound, Condition.defect?_eq_none_iff]
  exact ⟨fun ⟨target, update⟩ => ⟨target, update⟩, fun sound => ⟨sound.target, sound.update⟩⟩

end Conflict

namespace Assignments

theorem names_of_sound {as : Assignments} (sound : as.defect? = none) :
    as.toList.map (·.target.columnName?) = as.names.map some := by
  obtain ⟨columns, named⟩ := as.exists_columns sound
  have names : as.names = columns := by
    have kept := congrArg (List.filterMap id) named
    simpa [List.filterMap_map, Function.comp_def, Assignments.names] using kept
  rw [names, named]

theorem columnNames_eq_iff {as bs : Assignments} (first : as.defect? = none)
    (second : bs.defect? = none) : as.columnNames = bs.columnNames ↔ as.names = bs.names := by
  rw [columnNames_eq (names_of_sound first), columnNames_eq (names_of_sound second),
    List.map_inj_right fun s t => Option.some.inj, List.map_inj_right fun s t => Segment.sql_inj.mp]

end Assignments

namespace Insert

theorem shapeDefect?_eq_none_iff_names {rows : List Assignments}
    (sound : ∀ row ∈ rows, row.defect? = none) :
    shapeDefect? rows = none ↔ ∀ row ∈ rows, ∀ other ∈ rows, row.names = other.names := by
  cases rows with
  | nil => simp [shapeDefect?]
  | cons first rows =>
      have names : ∀ other ∈ rows,
          (other.columnNames = first.columnNames ↔ other.names = first.names) :=
        fun other member => Assignments.columnNames_eq_iff
          (sound other (List.mem_cons_of_mem _ member)) (sound first List.mem_cons_self)
      rw [shapeDefect?_eq_none_iff, forall₂_congr names]
      constructor
      · intro same
        have equal : ∀ row ∈ first :: rows, row.names = first.names :=
          List.forall_mem_cons.mpr ⟨rfl, same⟩
        exact fun row member other among => (equal row member).trans (equal other among).symm
      · exact fun same other member =>
          same other (List.mem_cons_of_mem _ member) first List.mem_cons_self

theorem defect?_eq_none_iff_sound (i : Insert) : i.defect? = none ↔ i.Sound := by
  rw [i.defect?_eq_none_iff, Expr.forall_defect?_eq_none_iff]
  constructor
  · rintro ⟨rows, shape, conflict, returning⟩
    exact ⟨fun row member => row.defect?_eq_none_iff_sound.mp (rows row member),
      (shapeDefect?_eq_none_iff_names rows).mp shape,
      fun c answer => c.defect?_eq_none_iff_sound.mp (conflict c answer), returning⟩
  · intro sound
    have rows : ∀ row ∈ i.rows, row.defect? = none :=
      fun row member => row.defect?_eq_none_iff_sound.mpr (sound.rows row member)
    exact ⟨rows, (shapeDefect?_eq_none_iff_names rows).mpr sound.columns,
      fun c answer => c.defect?_eq_none_iff_sound.mpr (sound.conflict c answer), sound.returning⟩

end Insert

theorem Update.defect?_eq_none_iff_sound (u : Update) : u.defect? = none ↔ u.Sound := by
  rw [u.defect?_eq_none_iff, u.set.defect?_eq_none_iff_sound, u.condition.defect?_eq_none_iff,
    Expr.forall_defect?_eq_none_iff]
  exact ⟨fun ⟨set, condition, returning⟩ => ⟨set, condition, returning⟩,
    fun sound => ⟨sound.set, sound.condition, sound.returning⟩⟩

theorem Statement.defect?_eq_none_iff_sound (s : Statement) : s.defect? = none ↔ s.Sound := by
  cases s with
  | insert i => exact i.defect?_eq_none_iff_sound
  | update u => exact u.defect?_eq_none_iff_sound

def namesFragment (names : List Segment) : Fragment :=
  (join ", " (names.map fun name => [.text name.sql])).parenthesized

def Assignments.setSpelling (as : Assignments) : Fragment :=
  join ", " (as.toList.filterMap fun a =>
    a.target.columnName?.map fun name => .text name.sql :: .text " = " :: a.value.fragment)

def ConflictAction.spelling : ConflictAction → Fragment
  | .doNothing => [.text " DO NOTHING"]
  | .doUpdate set condition =>
      .text " DO UPDATE SET " :: set.setSpelling ++ condition.fragment.clause " WHERE "

def Conflict.spelling (c : Conflict) : Fragment :=
  .text " ON CONFLICT" ::
    (if c.target.isEmpty then []
      else .text " " :: namesFragment (c.target.filterMap Expr.columnName?)) ++
    c.action.spelling

def Insert.rowsSpelling : List Assignments → Fragment
  | [] => [.text " DEFAULT VALUES"]
  | row :: rows =>
      .text " " :: namesFragment row.names ++ .text " VALUES " ::
        join ", " ((row :: rows).map Assignments.tuple)

def Insert.conflictSpelling : Option Conflict → Fragment
  | some conflict => conflict.spelling
  | none => []

def Insert.spelling (i : Insert) : Fragment :=
  .text ("INSERT INTO " ++ i.table.sql) :: Insert.rowsSpelling i.rows ++
    Insert.conflictSpelling i.conflict ++ returningClause i.returning

def Update.spelling (u : Update) : Fragment :=
  .text ("UPDATE " ++ u.table.sql ++ " SET ") :: u.set.setSpelling ++
    u.condition.fragment.clause " WHERE " ++ returningClause u.returning

def Statement.spelling : Statement → Fragment
  | .insert i => i.spelling
  | .update u => u.spelling

theorem namesFragment_filterMap {α : Type} {xs : List α} {column? : α → Option Segment}
    {write : α → Fragment}
    (named : ∀ x ∈ xs, ∃ name, column? x = some name ∧ write x = [.text name.sql]) :
    (join ", " (xs.map write)).parenthesized = namesFragment (xs.filterMap column?) := by
  rw [namesFragment, List.map_filterMap, List.filterMap_eq_map_iff_forall_eq_some.mpr]
  intro x member
  obtain ⟨name, column, text⟩ := named x member
  rw [column, text, Option.map_some]

namespace Assignments

variable {as : Assignments} (sound : as.defect? = none)
include sound

theorem target_named {a : Assignment} (member : a ∈ as.toList) :
    ∃ name, a.target.columnName? = some name ∧ a.target.targetFragment = [.text name.sql] := by
  obtain ⟨name, column⟩ := (a.defect?_eq_none_iff.mp (as.defect?_eq_none_iff.mp sound a member)).1
  exact ⟨name, column, Expr.targetFragment_of_columnName? column⟩

theorem columns_eq_spelling : as.columns = namesFragment as.names :=
  namesFragment_filterMap fun _ member => target_named sound member

theorem setList_eq_spelling : as.setList = as.setSpelling := by
  rw [setList, setSpelling, List.filterMap_eq_map_iff_forall_eq_some.mpr]
  intro a member
  obtain ⟨name, column, text⟩ := target_named sound member
  rw [column, Assignment.setItem, text]
  rfl

end Assignments

theorem Conflict.fragment_eq_spelling {c : Conflict} (sound : c.defect? = none) :
    c.fragment = c.spelling := by
  obtain ⟨target, update⟩ := c.defect?_eq_none_iff.mp sound
  have names : (join ", " (c.target.map Expr.conflictFragment)).parenthesized =
      namesFragment (c.target.filterMap Expr.columnName?) := by
    apply namesFragment_filterMap
    intro e member
    obtain ⟨name, column⟩ := e.conflictDefect?_eq_none_iff.mp (target e member)
    exact ⟨name, column, Expr.conflictFragment_of_columnName? column⟩
  have action : c.action.fragment = c.action.spelling := by
    have updates := c.actionDefect?_eq_none_iff.mp update
    cases answer : c.action with
    | doNothing => rfl
    | doUpdate set condition =>
        obtain ⟨-, set, -⟩ := updates set condition answer
        rw [ConflictAction.fragment, Assignments.setList_eq_spelling set, ConflictAction.spelling]
  rw [fragment, targetFragment, names, action, spelling]

theorem Insert.fragment_eq_spelling {i : Insert} (sound : i.defect? = none) :
    i.fragment = i.spelling := by
  obtain ⟨rows, -, conflict, -⟩ := i.defect?_eq_none_iff.mp sound
  have list : rowsFragment i.rows = rowsSpelling i.rows := by
    cases filled : i.rows with
    | nil => rfl
    | cons row others =>
        have first := rows row (filled ▸ List.mem_cons_self)
        rw [rowsFragment, Assignments.columns_eq_spelling first, rowsSpelling]
  have answer : conflictClause i.conflict = conflictSpelling i.conflict := by
    cases action : i.conflict with
    | none => rfl
    | some c => exact Conflict.fragment_eq_spelling (conflict c action)
  rw [fragment, list, answer, spelling]

theorem Update.fragment_eq_spelling {u : Update} (sound : u.defect? = none) :
    u.fragment = u.spelling := by
  rw [fragment, Assignments.setList_eq_spelling (u.defect?_eq_none_iff.mp sound).1, spelling]

theorem Statement.fragment_eq_spelling {s : Statement} (sound : s.defect? = none) :
    s.fragment = s.spelling := by
  cases s with
  | insert i => exact Insert.fragment_eq_spelling sound
  | update u => exact Update.fragment_eq_spelling sound

theorem defects_join_eq_nil {separator : String} {fragments : List Fragment}
    (sound : ∀ f ∈ fragments, f.defects = []) : (join separator fragments).defects = [] := by
  rwa [defects_join, List.flatMap_eq_nil_iff]

theorem defects_namesFragment (names : List Segment) : (namesFragment names).defects = [] := by
  rw [namesFragment, defects_parenthesized]
  exact defects_join_eq_nil (List.forall_mem_map.mpr fun name _ => rfl)

theorem Condition.defects_clause {c : Condition} (keyword : String) (sound : c.defect? = none) :
    (c.fragment.clause keyword).defects = [] := by
  have none := Condition.defects_eq_nil sound
  rw [Fragment.defects_clause keyword c.fragment fun _ => none, none]

theorem defects_returningClause {columns : List Expr} (sound : ∀ e ∈ columns, e.defect? = none) :
    (returningClause columns).defects = [] := by
  rw [returningClause, defects_listClause, List.flatMap_eq_nil_iff, List.forall_mem_map]
  exact fun e member => Expr.defects_eq_nil (sound e member)

namespace Assignments

variable {as : Assignments} (sound : as.defect? = none)
include sound

theorem value_defects {a : Assignment} (member : a ∈ as.toList) : a.value.fragment.defects = [] :=
  Expr.defects_eq_nil
    (a.defect?_eq_none_iff.mp (as.defect?_eq_none_iff.mp sound a member)).2

theorem defects_tuple : as.tuple.defects = [] := by
  rw [tuple, defects_parenthesized]
  exact defects_join_eq_nil (List.forall_mem_map.mpr fun a member => value_defects sound member)

theorem defects_setSpelling : as.setSpelling.defects = [] := by
  apply defects_join_eq_nil
  intro f member
  obtain ⟨a, among, written⟩ := List.mem_filterMap.mp member
  obtain ⟨name, -, rfl⟩ := Option.map_eq_some_iff.mp written
  simpa using value_defects sound among

end Assignments

theorem Conflict.defects_spelling {c : Conflict} (sound : c.defect? = none) :
    c.spelling.defects = [] := by
  have updates := c.actionDefect?_eq_none_iff.mp (c.defect?_eq_none_iff.mp sound).2
  have action : c.action.spelling.defects = [] := by
    cases answer : c.action with
    | doNothing => rfl
    | doUpdate set condition =>
        obtain ⟨-, assigned, filter⟩ := updates set condition answer
        simp [ConflictAction.spelling, Assignments.defects_setSpelling assigned,
          Condition.defects_clause _ filter]
  rw [spelling, defects_append, action]
  split <;> simp [defects_namesFragment]

theorem Insert.defects_spelling {i : Insert} (sound : i.defect? = none) :
    i.spelling.defects = [] := by
  obtain ⟨rows, -, conflict, returning⟩ := i.defect?_eq_none_iff.mp sound
  have list : (rowsSpelling i.rows).defects = [] := by
    cases filled : i.rows with
    | nil => rfl
    | cons row others =>
        have tuples : (join ", " ((row :: others).map Assignments.tuple)).defects = [] :=
          defects_join_eq_nil (List.forall_mem_map.mpr fun other member =>
            Assignments.defects_tuple (rows other (filled ▸ member)))
        rw [rowsSpelling, defects_append, defects_cons_text, defects_namesFragment,
          defects_cons_text, tuples, List.nil_append]
  have answer : (conflictSpelling i.conflict).defects = [] := by
    cases action : i.conflict with
    | none => rfl
    | some c => exact Conflict.defects_spelling (conflict c action)
  simp [spelling, list, answer, defects_returningClause returning]

theorem Update.defects_spelling {u : Update} (sound : u.defect? = none) :
    u.spelling.defects = [] := by
  obtain ⟨set, condition, returning⟩ := u.defect?_eq_none_iff.mp sound
  simp [spelling, Assignments.defects_setSpelling set, Condition.defects_clause _ condition,
    defects_returningClause returning]

theorem Statement.defects_spelling {s : Statement} (sound : s.defect? = none) :
    s.spelling.defects = [] := by
  cases s with
  | insert i => exact Insert.defects_spelling sound
  | update u => exact Update.defects_spelling sound

namespace Statement

theorem validate_iff_sound (s : Statement) :
    (Query.validate s = .ok () ↔ s.Sound) ∧
      (Query.validate s = .ok () →
        (∀ ps, Query.render s ps = s.spelling.render ps) ∧ s.spelling.defects = []) := by
  have valid : Query.validate s = .ok () ↔ s.defect? = none := Defect.check_eq_ok_iff _
  rw [valid]
  refine ⟨s.defect?_eq_none_iff_sound, fun sound => ⟨fun ps => ?_, defects_spelling sound⟩⟩
  rw [← fragment_eq_spelling sound, Query.render_eq]
  rfl

def lookupUpsert : Statement :=
  let a : Expr := .column ⟨[.quoted "t"], .quoted "a"⟩
  let b : Expr := .column ⟨[.quoted "t"], .quoted "b"⟩
  .insert ⟨⟨⟨[], .quoted "t"⟩⟩, [⟨⟨a, .bind (.int4 1)⟩, []⟩, ⟨⟨a, .bind (.int4 2)⟩, []⟩],
    some ⟨[a], .doUpdate ⟨⟨b, a⟩, []⟩ (.nullCheck b false)⟩, [b]⟩

theorem validate_iff_sound_lookupUpsert :
    lookupUpsert.Sound ∧ (Query.render lookupUpsert .empty).1 =
      "INSERT INTO \"t\" (\"a\") VALUES ($1), ($2) ON CONFLICT (\"a\") DO UPDATE SET " ++
        "\"b\" = \"t\".\"a\" WHERE \"t\".\"b\" IS NULL RETURNING \"t\".\"b\"" := by
  obtain ⟨order, written⟩ := validate_iff_sound lookupUpsert
  refine ⟨order.mp rfl, ?_⟩
  rw [(written rfl).1]
  rfl

end Statement
end SqlBuilder
