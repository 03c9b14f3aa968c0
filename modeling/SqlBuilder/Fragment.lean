import SqlBuilder.Error
import SqlBuilder.Value

/-!
# Fragments of SQL

Rendering a term yields a fragment: literal text with a slot wherever a value is bound and a mark
wherever something is defective. Only when a fragment is written after the values of the text
before it do its slots get their numbers, so a fragment can be placed anywhere.
-/

namespace SqlBuilder

structure Params where
  values : List Value

namespace Params

def empty : Params := ⟨[]⟩

def size (ps : Params) : Nat := ps.values.length

def isEmpty (ps : Params) : Bool := ps.values.isEmpty

def push (ps : Params) (v : Value) : Nat × Params := (ps.size + 1, ⟨ps.values ++ [v]⟩)

def append (ps : Params) (vs : List Value) : Params := ⟨ps.values ++ vs⟩

@[simp] theorem size_append (ps : Params) (vs : List Value) :
    (ps.append vs).size = ps.size + vs.length := by
  simp [append, size]

@[simp] theorem append_nil (ps : Params) : ps.append [] = ps := by
  simp [append]

@[simp] theorem append_append (ps : Params) (vs ws : List Value) :
    (ps.append vs).append ws = ps.append (vs ++ ws) := by
  simp [append]

end Params

abbrev Writer (α : Type) := StateM Params α

inductive Piece
  | text (s : String)
  | slot (v : Value)
  | defect (d : Defect)

abbrev Fragment := List Piece

def placeholder (n : Nat) : String := "$" ++ n.repr

theorem isDigit_of_mem_repr {n : Nat} {c : Char} (member : c ∈ n.repr.toList) :
    c.isDigit = true := by
  rw [Nat.toList_repr] at member
  exact Nat.isDigit_of_mem_toDigits (by decide) (by decide) member

def Defect.sql : Defect → String
  | .rejected cause => "/* invalid: " ++ cause.message ++ " */"
  | _ => ""

namespace Fragment

def join (separator : String) (fragments : List Fragment) : Fragment :=
  [Piece.text separator].intercalate fragments

def parenthesized (f : Fragment) : Fragment := .text "(" :: f ++ [.text ")"]

def values (f : Fragment) : List Value :=
  f.filterMap fun
    | .slot v => some v
    | _ => none

def defects (f : Fragment) : List Defect :=
  f.filterMap fun
    | .defect d => some d
    | _ => none

def textsFrom : Nat → Fragment → List String
  | _, [] => []
  | next, .text s :: f => s :: textsFrom next f
  | next, .slot _ :: f => placeholder next :: textsFrom (next + 1) f
  | next, .defect d :: f => d.sql :: textsFrom next f

def textFrom (next : Nat) (f : Fragment) : String := String.join (textsFrom next f)

def render (f : Fragment) : Writer String := fun ps =>
  (f.textFrom (ps.size + 1), ps.append f.values)

def isBlank (f : Fragment) : Bool :=
  f.all fun
    | .text s => s.isEmpty
    | .slot _ => false
    | .defect d => d.sql.isEmpty

/-- The fragment with its slots written out from number `next` on as plain text, so that it binds
nothing. -/
def unboundFrom : Nat → Fragment → Fragment
  | _, [] => []
  | next, .slot _ :: f => .text (placeholder next) :: unboundFrom (next + 1) f
  | next, piece :: f => piece :: unboundFrom next f

def unbound (f : Fragment) : Fragment := f.unboundFrom 1

def clause (keyword : String) (f : Fragment) : Fragment :=
  if f.isBlank then [] else .text keyword :: f

def listClause (keyword : String) (items : List Fragment) : Fragment :=
  if items.isEmpty then [] else .text keyword :: join ", " items

@[simp] theorem isBlank_nil : isBlank [] = true := rfl

@[simp] theorem isBlank_cons_text (s : String) (f : Fragment) :
    isBlank (.text s :: f) = (s.isEmpty && isBlank f) := rfl

@[simp] theorem isBlank_cons_slot (v : Value) (f : Fragment) : isBlank (.slot v :: f) = false := rfl

@[simp] theorem isBlank_cons_defect (d : Defect) (f : Fragment) :
    isBlank (.defect d :: f) = (d.sql.isEmpty && isBlank f) := rfl

@[simp] theorem isBlank_append (f g : Fragment) : isBlank (f ++ g) = (isBlank f && isBlank g) := by
  simp [isBlank]

@[simp] theorem isBlank_parenthesized (f : Fragment) : f.parenthesized.isBlank = false := by
  simp [parenthesized]

@[simp] theorem values_nil : values [] = [] := rfl

@[simp] theorem values_append (f g : Fragment) : values (f ++ g) = values f ++ values g := by
  simp [values]

@[simp] theorem values_cons_text (s : String) (f : Fragment) :
    values (.text s :: f) = values f := rfl

@[simp] theorem values_cons_slot (v : Value) (f : Fragment) :
    values (.slot v :: f) = v :: values f := rfl

@[simp] theorem values_cons_defect (d : Defect) (f : Fragment) :
    values (.defect d :: f) = values f := rfl

@[simp] theorem defects_nil : defects [] = [] := rfl

@[simp] theorem defects_append (f g : Fragment) : defects (f ++ g) = defects f ++ defects g := by
  simp [defects]

@[simp] theorem defects_cons_text (s : String) (f : Fragment) :
    defects (.text s :: f) = defects f := rfl

@[simp] theorem defects_cons_slot (v : Value) (f : Fragment) :
    defects (.slot v :: f) = defects f := rfl

@[simp] theorem defects_cons_defect (d : Defect) (f : Fragment) :
    defects (.defect d :: f) = d :: defects f := rfl

@[simp] theorem defects_parenthesized (f : Fragment) : f.parenthesized.defects = f.defects := by
  simp [parenthesized]

@[simp] theorem defects_join (separator : String) (fragments : List Fragment) :
    (join separator fragments).defects = fragments.flatMap defects := by
  unfold join
  induction fragments with
  | nil => rfl
  | cons f fragments ih =>
      cases fragments with
      | nil => simp
      | cons g fragments => simpa [List.intercalate_cons_cons] using ih

theorem textsFrom_append (next : Nat) (f g : Fragment) :
    textsFrom next (f ++ g) = textsFrom next f ++ textsFrom (next + f.values.length) g := by
  induction f generalizing next with
  | nil => simp [textsFrom]
  | cons piece f ih => cases piece <;> simp [textsFrom, ih, Nat.add_assoc, Nat.add_comm 1]

theorem textFrom_append (next : Nat) (f g : Fragment) :
    textFrom next (f ++ g) = textFrom next f ++ textFrom (next + f.values.length) g := by
  simp [textFrom, textsFrom_append]

theorem textsFrom_unboundFrom (next other : Nat) (f : Fragment) :
    textsFrom other (f.unboundFrom next) = textsFrom next f := by
  induction f generalizing next with
  | nil => rfl
  | cons piece f ih => cases piece <;> simp [textsFrom, unboundFrom, ih]

@[simp] theorem values_unboundFrom (next : Nat) (f : Fragment) :
    (f.unboundFrom next).values = [] := by
  induction f generalizing next with
  | nil => rfl
  | cons piece f ih => cases piece <;> simp [unboundFrom, ih]

end Fragment
end SqlBuilder
