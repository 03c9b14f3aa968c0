import SqlBuilder.Term.Write
import SqlBuilder.Term.Defect

namespace SqlBuilder

structure Assignment where
  target : Expr
  value : Expr

namespace Assignment

def document (target : Expr) (document : Json) : Assignment := ⟨target, .bind (.json document)⟩

def setItem (a : Assignment) : Fragment :=
  a.target.targetFragment ++ .text " = " :: a.value.fragment

def writeSetItem (a : Assignment) : Writer String := do
  let value ← a.value.write
  return a.target.targetText ++ " = " ++ value

def defect? (a : Assignment) : Option Defect :=
  a.target.defect? <|> a.value.defect? <|>
    if a.target.columnName?.isNone then some .assignmentToExpression else none

theorem writeSetItem_eq (a : Assignment) : a.writeSetItem = a.setItem.render := by
  simp [writeSetItem, setItem, Fragment.render_append, Fragment.render_text,
    Expr.render_targetFragment, Expr.write_eq, String.append_assoc]

end Assignment

/-- A row or a list of things to set, which may be empty. -/
abbrev SetList := List Assignment

namespace SetList

def columnNames (set : SetList) : List (Option String) :=
  set.map (·.target.columnName?.map Segment.sql)

def columnsText (set : SetList) : String :=
  "(" ++ ", ".intercalate (set.map (·.target.targetText)) ++ ")"

def writeTuple (set : SetList) : Writer String :=
  Writer.parenthesized (Writer.separated ", " (set.mapM (·.value.write)))

def write (set : SetList) : Writer String :=
  Writer.separated ", " (set.mapM Assignment.writeSetItem)

def defect? (set : SetList) : Option Defect := set.findSome? Assignment.defect?

end SetList

structure Assignments where
  first : Assignment
  rest : List Assignment

namespace Assignments

def single (a : Assignment) : Assignments := ⟨a, []⟩

def add (as : Assignments) (a : Assignment) : Assignments := ⟨as.first, as.rest ++ [a]⟩

def toList (as : Assignments) : SetList := as.first :: as.rest

def count (as : Assignments) : Nat := as.toList.length

def columnNames (as : Assignments) : List (Option String) := as.toList.columnNames

def columns (as : Assignments) : Fragment :=
  (Fragment.join ", " (as.toList.map (·.target.targetFragment))).parenthesized

def tuple (as : Assignments) : Fragment :=
  (Fragment.join ", " (as.toList.map (·.value.fragment))).parenthesized

def setList (as : Assignments) : Fragment :=
  Fragment.join ", " (as.toList.map Assignment.setItem)

def columnsText (as : Assignments) : String := as.toList.columnsText

def writeTuple (as : Assignments) : Writer String := as.toList.writeTuple

def writeSetList (as : Assignments) : Writer String := as.toList.write

def defect? (as : Assignments) : Option Defect := as.toList.defect?

@[simp] theorem toList_single (a : Assignment) : (single a).toList = [a] := rfl

@[simp] theorem toList_add (as : Assignments) (a : Assignment) :
    (as.add a).toList = as.toList ++ [a] := rfl

@[simp] theorem count_single (a : Assignment) : (single a).count = 1 := rfl

@[simp] theorem count_add (as : Assignments) (a : Assignment) :
    (as.add a).count = as.count + 1 := by
  simp [count]

theorem render_columns (as : Assignments) : as.columns.render = pure as.columnsText := by
  have targets : (as.toList.map (·.target.targetFragment)).mapM Fragment.render =
      (pure (as.toList.map (·.target.targetText)) : Writer (List String)) := by
    rw [Fragment.mapM_render (fun a => (a.target.render_targetFragment).symm), List.mapM_pure]
  rw [columns, Fragment.render_parenthesized, Fragment.render_join, targets]
  simp [Writer.parenthesized, Writer.separated, columnsText, SetList.columnsText]

theorem writeTuple_eq (as : Assignments) : as.writeTuple = as.tuple.render := by
  rw [tuple, Fragment.render_parenthesized, Fragment.render_join,
    Fragment.mapM_render (fun a => a.value.write_eq), writeTuple, SetList.writeTuple]

theorem writeSetList_eq (as : Assignments) : as.writeSetList = as.setList.render := by
  rw [setList, Fragment.render_join, Fragment.mapM_render Assignment.writeSetItem_eq, writeSetList,
    SetList.write]

theorem toList_ne_nil (as : Assignments) : as.toList ≠ [] := by
  simp [toList]

end Assignments
end SqlBuilder
