import SqlBuilder.Proofs.Rendering.Placeholders
import SqlBuilder.Proofs.Rendering.Replacement
import SqlBuilder.Proofs.Statements.Rows

namespace SqlBuilder

open Fragment

variable (g : Value → Value)

theorem Expr.conflictDefect?_mapValues (e : Expr) :
    (e.mapValues g).conflictDefect? = e.conflictDefect? := by
  simp only [Expr.conflictDefect?, Expr.defect?_mapValues, Expr.columnName?_mapValues]

theorem Expr.conflictFragment_mapValues (e : Expr) :
    (e.mapValues g).conflictFragment = e.conflictFragment.mapValues g := by
  unfold Expr.conflictFragment
  rw [Expr.columnName?_mapValues]
  cases e.columnName? with
  | some name => rfl
  | none => exact e.fragment_mapValues g

def Assignment.mapValues (a : Assignment) : Assignment :=
  ⟨a.target.mapValues g, a.value.mapValues g⟩

def Assignments.mapValues (as : Assignments) : Assignments :=
  ⟨as.first.mapValues g, as.rest.map (Assignment.mapValues g)⟩

def ConflictAction.mapValues : ConflictAction → ConflictAction
  | .doNothing => .doNothing
  | .doUpdate set condition => .doUpdate (set.mapValues g) (condition.mapValues g)

def Conflict.mapValues (c : Conflict) : Conflict :=
  ⟨c.target.map (Expr.mapValues g), c.action.mapValues g⟩

def Insert.mapValues (i : Insert) : Insert :=
  ⟨i.table, i.rows.map (Assignments.mapValues g), i.conflict.map (Conflict.mapValues g),
    i.returning.map (Expr.mapValues g)⟩

def Update.mapValues (u : Update) : Update :=
  ⟨u.table, u.set.mapValues g, u.condition.mapValues g, u.returning.map (Expr.mapValues g)⟩

def Statement.mapValues : Statement → Statement
  | .insert i => .insert (i.mapValues g)
  | .update u => .update (u.mapValues g)

namespace Assignments

@[simp] theorem toList_mapValues (as : Assignments) :
    (as.mapValues g).toList = as.toList.map (Assignment.mapValues g) := rfl

theorem join_mapValues {write : Assignment → Fragment}
    (eq : ∀ a : Assignment, write (a.mapValues g) = (write a).mapValues g) (as : Assignments) :
    join ", " ((as.mapValues g).toList.map write) =
      (join ", " (as.toList.map write)).mapValues g := by
  rw [mapValues_join, toList_mapValues, List.map_map, List.map_map]
  congr 1
  exact List.map_congr_left fun a _ => eq a

theorem columns_mapValues (as : Assignments) :
    (as.mapValues g).columns = as.columns.mapValues g := by
  rw [columns, columns, mapValues_parenthesized,
    join_mapValues g (fun a => a.target.targetFragment_mapValues g)]

theorem tuple_mapValues (as : Assignments) : (as.mapValues g).tuple = as.tuple.mapValues g := by
  rw [tuple, tuple, mapValues_parenthesized,
    join_mapValues g (fun a => a.value.fragment_mapValues g)]

theorem setItem_mapValues (a : Assignment) : (a.mapValues g).setItem = a.setItem.mapValues g := by
  simp [Assignment.setItem, Assignment.mapValues, Expr.targetFragment_mapValues,
    Expr.fragment_mapValues]

theorem setList_mapValues (as : Assignments) :
    (as.mapValues g).setList = as.setList.mapValues g :=
  join_mapValues g (setItem_mapValues g) as

theorem columnNames_mapValues (as : Assignments) :
    (as.mapValues g).columnNames = as.columnNames := by
  simp [columnNames, SetList.columnNames, Assignment.mapValues]

theorem defect?_mapValues (as : Assignments) : (as.mapValues g).defect? = as.defect? := by
  have each : ∀ a : Assignment, (a.mapValues g).defect? = a.defect? := by
    intro a
    simp only [Assignment.defect?, Assignment.mapValues, Expr.defect?_mapValues,
      Expr.columnName?_mapValues]
  simp [defect?, SetList.defect?, List.findSome?_map, Function.comp_def, each]

end Assignments

theorem returningClause_mapValues (columns : List Expr) :
    returningClause (columns.map (Expr.mapValues g)) = (returningClause columns).mapValues g := by
  simp [returningClause, mapValues_listClause, Expr.fragment_mapValues, Function.comp_def]

namespace Conflict

theorem targetFragment_mapValues (c : Conflict) :
    (c.mapValues g).targetFragment = c.targetFragment.mapValues g := by
  have targets : (c.target.map (Expr.mapValues g)).map Expr.conflictFragment =
      (c.target.map Expr.conflictFragment).map (Fragment.mapValues g) := by
    simp [Expr.conflictFragment_mapValues]
  unfold targetFragment
  rw [Conflict.mapValues, targets, List.isEmpty_map]
  split
  · rfl
  · rw [mapValues_cons_text, mapValues_parenthesized, mapValues_join]

theorem actionFragment_mapValues (action : ConflictAction) :
    (action.mapValues g).fragment = action.fragment.mapValues g := by
  cases action with
  | doNothing => rfl
  | doUpdate set condition =>
      simp [ConflictAction.mapValues, ConflictAction.fragment, Assignments.setList_mapValues,
        Condition.fragment_mapValues, mapValues_clause]

theorem fragment_mapValues (c : Conflict) : (c.mapValues g).fragment = c.fragment.mapValues g := by
  rw [fragment, fragment, mapValues_append, mapValues_cons_text, targetFragment_mapValues]
  exact congrArg _ (actionFragment_mapValues g c.action)

theorem defect?_mapValues (c : Conflict) : (c.mapValues g).defect? = c.defect? := by
  obtain ⟨target, action⟩ := c
  cases action <;>
    simp [defect?, actionDefect?, Conflict.mapValues, ConflictAction.mapValues, List.findSome?_map,
      Function.comp_def, Expr.conflictDefect?_mapValues, Assignments.defect?_mapValues]

end Conflict

namespace Insert

theorem rowsFragment_mapValues (rows : List Assignments) :
    rowsFragment (rows.map (Assignments.mapValues g)) = (rowsFragment rows).mapValues g := by
  cases rows with
  | nil => rfl
  | cons row rows =>
      simp [rowsFragment, mapValues_join, Assignments.columns_mapValues,
        Assignments.tuple_mapValues, Function.comp_def]

theorem fragment_mapValues (i : Insert) : (i.mapValues g).fragment = i.fragment.mapValues g := by
  obtain ⟨table, rows, conflict, returning⟩ := i
  cases conflict <;>
    simp [fragment, Insert.mapValues, rowsFragment_mapValues, returningClause_mapValues,
      conflictClause, Conflict.fragment_mapValues]

theorem shapeDefect?_mapValues (rows : List Assignments) :
    shapeDefect? (rows.map (Assignments.mapValues g)) = shapeDefect? rows := by
  cases rows with
  | nil => rfl
  | cons row rows =>
      simp [shapeDefect?, List.zipIdx_map, List.findSome?_map, Function.comp_def,
        Assignments.columnNames_mapValues]

theorem defect?_mapValues (i : Insert) : (i.mapValues g).defect? = i.defect? := by
  obtain ⟨table, rows, conflict, returning⟩ := i
  cases conflict <;>
    simp [defect?, Insert.mapValues, List.findSome?_map, Function.comp_def,
      Assignments.defect?_mapValues, shapeDefect?_mapValues, Conflict.defect?_mapValues]

end Insert

namespace Update

theorem fragment_mapValues (u : Update) : (u.mapValues g).fragment = u.fragment.mapValues g := by
  simp [fragment, Update.mapValues, Assignments.setList_mapValues, Condition.fragment_mapValues,
    mapValues_clause, returningClause_mapValues]

theorem defect?_mapValues (u : Update) : (u.mapValues g).defect? = u.defect? := by
  simp [defect?, Update.mapValues, List.findSome?_map, Function.comp_def,
    Assignments.defect?_mapValues]

end Update

namespace Condition

theorem conjuncts_mapValues (c : Condition) :
    conjuncts (c.mapValues g) = (conjuncts c).map (mapValues g) := by
  have same := c.isNeutral_mapValues g
  by_cases neutral : c.isNeutral = true
  · rw [conjuncts_of_isNeutral neutral, conjuncts_of_isNeutral (same.trans neutral)]
    rfl
  · cases c with
    | conjunction members =>
        rw [mapValues, conjuncts, conjuncts, mapAll_eq_map, List.filter_map]
        simp [Function.comp_def, isNeutral_mapValues]
    | _ => simp_all [conjuncts, mapValues]

theorem all_mapValues (cs : List Condition) :
    all (cs.map (mapValues g)) = (all cs).mapValues g := by
  have parts : (cs.map (mapValues g)).flatMap conjuncts =
      (cs.flatMap conjuncts).map (mapValues g) := by
    simp only [List.flatMap_map, List.map_flatMap, conjuncts_mapValues]
  unfold all
  rw [parts]
  match cs.flatMap conjuncts with
  | [] => rfl
  | [c] => rfl
  | c :: d :: rest => simp [group, mapValues]

end Condition

def Step.mapValues : Step → Step
  | .insertStart s => .insertStart ⟨s.table, s.rows.map (Assignments.mapValues g)⟩
  | .insertRow s => .insertRow ⟨s.table, s.rows.map (Assignments.mapValues g), s.row.mapValues g⟩
  | .insertConflict s => .insertConflict ⟨s.insert.mapValues g, s.target.map (Expr.mapValues g)⟩
  | .upsertStart s => .upsertStart ⟨s.insert.mapValues g, s.target.map (Expr.mapValues g)⟩
  | .upsert s => .upsert ⟨s.insert.mapValues g, s.target.map (Expr.mapValues g), s.set.mapValues g⟩
  | .insertDone s => .insertDone ⟨s.statement.mapValues g⟩
  | .updateStart s => .updateStart s
  | .updateSet s => .updateSet ⟨s.table, s.set.mapValues g⟩
  | .updateFilter s => .updateFilter ⟨s.statement.mapValues g⟩
  | .updateDone s => .updateDone ⟨s.statement.mapValues g⟩

def Call.mapValues : Call → Call
  | .assign a => .assign (a.mapValues g)
  | .newRecord => .newRecord
  | .onConflict target => .onConflict (target.map (Expr.mapValues g))
  | .doNothing => .doNothing
  | .doUpdate => .doUpdate
  | .onConflictDoNothing => .onConflictDoNothing
  | .filter c => .filter (c.mapValues g)
  | .andFilter c => .andFilter (c.mapValues g)
  | .returning columns => .returning (columns.map (Expr.mapValues g))

namespace Assignments

theorem add_mapValues (as : Assignments) (a : Assignment) :
    (as.mapValues g).add (a.mapValues g) = (as.add a).mapValues g := by
  simp [add, mapValues]

end Assignments

namespace Step

theorem next?_mapValues (s : Step) (c : Call) :
    (s.mapValues g).next? (c.mapValues g) = (s.next? c).map (Step.mapValues g) := by
  cases s with
  | insertStart s => cases c <;> rfl
  | insertRow s =>
      cases c <;>
        simp [next?, mapValues, Call.mapValues, SqlBuilder.assign, Assignments.add_mapValues,
          InsertRow.newRecord, InsertRow.onConflict, InsertRow.onConflictDoNothing,
          InsertRow.returning, InsertRow.statement, Insert.mapValues, Conflict.mapValues,
          ConflictAction.mapValues]
  | insertConflict s => cases c <;> rfl
  | upsertStart s => cases c <;> rfl
  | upsert s =>
      cases c <;>
        simp [next?, mapValues, Call.mapValues, SqlBuilder.assign, Assignments.add_mapValues,
          Upsert.filter, Upsert.returning, Upsert.statement, Upsert.statementWhere,
          Insert.mapValues, Conflict.mapValues, ConflictAction.mapValues, Condition.mapValues]
  | insertDone s => cases c <;> rfl
  | updateStart s => cases c <;> rfl
  | updateSet s =>
      cases c <;>
        simp [next?, mapValues, Call.mapValues, SqlBuilder.assign, Assignments.add_mapValues,
          UpdateSet.filter, UpdateSet.returning, UpdateSet.statement, Update.mapValues,
          Condition.mapValues]
  | updateFilter s =>
      cases c with
      | andFilter c =>
          have filter := Condition.all_mapValues g [s.statement.condition, c]
          simp_all [next?, mapValues, Call.mapValues, UpdateFilter.andFilter, Update.mapValues]
      | _ => rfl
  | updateDone s => cases c <;> rfl

theorem run?_mapValues (s : Step) (calls : List Call) :
    (s.mapValues g).run? (calls.map (Call.mapValues g)) =
      (s.run? calls).map (Step.mapValues g) := by
  induction calls generalizing s with
  | nil => rfl
  | cons c calls ih =>
      rw [List.map_cons, run?_cons, run?_cons, next?_mapValues]
      cases s.next? c with
      | none => rfl
      | some t => exact ih t

theorem statement?_mapValues (s : Step) :
    (s.mapValues g).statement? = s.statement?.map (Statement.mapValues g) := by
  cases s with
  | insertRow s =>
      simp [statement?, mapValues, Statement.mapValues, InsertRow.statement, Insert.mapValues]
  | _ => rfl

end Step

namespace Root

def mapValues : Root → Root
  | .condition c => .condition (c.mapValues g)
  | .select s => .select (s.mapValues g)
  | .statement s => .statement (s.mapValues g)

theorem fragment_mapValues (q : Root) : (q.mapValues g).fragment = q.fragment.mapValues g := by
  cases q with
  | condition c => exact c.standalone_mapValues g
  | select s => exact s.fragment_mapValues g
  | statement s =>
      cases s with
      | insert i => exact i.fragment_mapValues g
      | update u => exact u.fragment_mapValues g

theorem defect?_mapValues (q : Root) : (q.mapValues g).defect? = q.defect? := by
  cases q with
  | condition c => exact c.defect?_mapValues g
  | select s => exact s.defect?_mapValues g
  | statement s =>
      cases s with
      | insert i => exact i.defect?_mapValues g
      | update u => exact u.defect?_mapValues g

theorem text_apart_from_values :
    (∀ q : Root, Query.validate (q.mapValues g) = Query.validate q ∧
      ∀ ps, ∃ text bound, Query.render q ps = (text, ps.append bound) ∧
        Query.render (q.mapValues g) ps = (text, ps.append (bound.map g))) ∧
    ∀ (start : Step) (calls : List Call),
      ((start.mapValues g).run? (calls.map (Call.mapValues g))).bind Step.statement? =
        ((start.run? calls).bind Step.statement?).map (Statement.mapValues g) := by
  constructor
  · intro q
    refine ⟨congrArg Defect.check (q.defect?_mapValues g), fun ps => ?_⟩
    refine ⟨q.fragment.textFrom (ps.size + 1), q.fragment.values, Query.render_eq q ps, ?_⟩
    have replaced : Query.render (q.mapValues g) ps = (q.mapValues g).fragment.render ps := by
      rw [Query.render, ← write_eq]
      rfl
    rw [replaced, fragment_mapValues, Fragment.render, values_mapValues, textFrom,
      textsFrom_mapValues]
    rfl
  · intro start calls
    rw [Step.run?_mapValues]
    cases start.run? calls with
    | none => rfl
    | some s => exact s.statement?_mapValues g

end Root
end SqlBuilder
