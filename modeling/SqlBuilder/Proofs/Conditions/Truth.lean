namespace SqlBuilder

inductive Truth
  | yes
  | no
  | unknown
  deriving DecidableEq, Repr

namespace Truth

def not : Truth → Truth
  | yes => no
  | no => yes
  | unknown => unknown

def and : Truth → Truth → Truth
  | no, _ => no
  | _, no => no
  | yes, yes => yes
  | _, _ => unknown

def or : Truth → Truth → Truth
  | yes, _ => yes
  | _, yes => yes
  | no, no => no
  | _, _ => unknown

@[simp] theorem not_not (a : Truth) : a.not.not = a := by
  cases a <;> rfl

theorem and_assoc (a b c : Truth) : (a.and b).and c = a.and (b.and c) := by
  cases a <;> cases b <;> cases c <;> rfl

theorem or_assoc (a b c : Truth) : (a.or b).or c = a.or (b.or c) := by
  cases a <;> cases b <;> cases c <;> rfl

@[simp] theorem and_yes (a : Truth) : a.and yes = a := by
  cases a <;> rfl

@[simp] theorem yes_and (a : Truth) : yes.and a = a := by
  cases a <;> rfl

@[simp] theorem or_no (a : Truth) : a.or no = a := by
  cases a <;> rfl

@[simp] theorem no_or (a : Truth) : no.or a = a := by
  cases a <;> rfl

end Truth

inductive Connective
  | and
  | or

namespace Connective

def apply : Connective → Truth → Truth → Truth
  | .and => Truth.and
  | .or => Truth.or

def unit : Connective → Truth
  | .and => .yes
  | .or => .no

def ofList (k : Connective) (values : List Truth) : Truth := values.foldr k.apply k.unit

/-- Absent values are passed over, and nothing is left of absent values alone. -/
def ofPresent (k : Connective) (values : List (Option Truth)) : Option Truth :=
  match values.filterMap id with
  | [] => none
  | a :: present => some (k.ofList (a :: present))

theorem apply_assoc (k : Connective) (a b c : Truth) :
    k.apply (k.apply a b) c = k.apply a (k.apply b c) := by
  cases k with
  | and => exact Truth.and_assoc a b c
  | or => exact Truth.or_assoc a b c

@[simp] theorem apply_unit (k : Connective) (a : Truth) : k.apply a k.unit = a := by
  cases k with
  | and => exact a.and_yes
  | or => exact a.or_no

@[simp] theorem unit_apply (k : Connective) (a : Truth) : k.apply k.unit a = a := by
  cases k with
  | and => exact a.yes_and
  | or => exact a.no_or

@[simp] theorem ofList_nil (k : Connective) : k.ofList [] = k.unit := rfl

@[simp] theorem ofList_cons (k : Connective) (a : Truth) (values : List Truth) :
    k.ofList (a :: values) = k.apply a (k.ofList values) := rfl

theorem ofList_append (k : Connective) (first second : List Truth) :
    k.ofList (first ++ second) = k.apply (k.ofList first) (k.ofList second) := by
  induction first with
  | nil => rw [List.nil_append, ofList_nil, unit_apply]
  | cons a first ih => rw [List.cons_append, ofList_cons, ofList_cons, ih, apply_assoc]

end Connective
end SqlBuilder
