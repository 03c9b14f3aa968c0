import SqlBuilder.Ident.Parse

namespace SqlBuilder

/-- Why an expression cannot stand where a column was asked for. -/
inductive Rejection
  | identifier (error : IdentError)
  | excludedNeedsColumn
  deriving DecidableEq, Repr

inductive Defect
  | rejected (cause : Rejection)
  | selectWithoutColumns
  | assignmentToExpression
  | rowColumnsDiffer (row : Nat)
  | conflictOnExpression
  | updateWithoutConflictTarget
  | updateWithoutAssignments
  deriving DecidableEq, Repr

inductive Error
  | validation (message : String)
  | identifier (message : String)
  | decode (column message : String)
  deriving DecidableEq, Repr

namespace Error

def text : Error → String
  | .validation message => "Validation error: " ++ message
  | .identifier message => "Invalid identifier: " ++ message
  | .decode column message => "Decode error on column '" ++ column ++ "': " ++ message

def isValidation : Error → Bool
  | .validation _ => true
  | _ => false

def ofIdent (e : IdentError) : Error := .identifier e.message

end Error

def Rejection.message : Rejection → String
  | .identifier e => (Error.ofIdent e).text
  | .excludedNeedsColumn => "EXCLUDED requires a column reference"

namespace Defect

def message : Defect → String
  | .rejected cause => cause.message
  | .selectWithoutColumns => "SELECT requires at least one column"
  | .assignmentToExpression => "assignment target must be a column"
  | .rowColumnsDiffer row =>
      "INSERT row " ++ toString row ++ " assigns different columns than row 1"
  | .conflictOnExpression => "ON CONFLICT target must be a column"
  | .updateWithoutConflictTarget => "ON CONFLICT DO UPDATE requires a conflict target"
  | .updateWithoutAssignments => "UPDATE requires at least one SET assignment"

def error (d : Defect) : Error := .validation d.message

def check : Option Defect → Except Error Unit
  | none => .ok ()
  | some d => .error d.error

@[simp] theorem check_eq_ok_iff (d : Option Defect) : check d = .ok () ↔ d = none := by
  cases d <;> simp [check]

end Defect
end SqlBuilder
