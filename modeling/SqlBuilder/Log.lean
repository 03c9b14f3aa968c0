namespace SqlBuilder

inductive LogLevel
  | error
  | warn
  | info
  | debug
  | trace
  deriving DecidableEq, Repr

def LogLevel.name : LogLevel → String
  | .error => "ERROR"
  | .warn => "WARN"
  | .info => "INFO"
  | .debug => "DEBUG"
  | .trace => "TRACE"

inductive SetClause
  | insert
  | update
  | onConflict
  deriving DecidableEq, Repr

def SetClause.name : SetClause → String
  | .insert => "insert"
  | .update => "update"
  | .onConflict => "on_conflict"

inductive Event
  | queryBuilt (level : LogLevel) (paramCount : Nat) (sql : String)
  | setBlockFinished (clause : SetClause) (assignments : Nat)
  deriving DecidableEq, Repr

namespace Event

def level : Event → LogLevel
  | .queryBuilt level _ _ => level
  | .setBlockFinished _ _ => .trace

def target : Event → String
  | .queryBuilt _ _ _ => "pgdsl.sql"
  | .setBlockFinished _ _ => "pgdsl.set"

def message : Event → String
  | .queryBuilt _ _ _ => "query built"
  | .setBlockFinished _ _ => "set block finished"

end Event

/-- Steps back a byte at a time, to the first position that lies between two characters. -/
def boundaryBefore (text : String) : (bytes : Nat) → Nat
  | 0 => 0
  | bytes + 1 =>
      if (String.Pos.Raw.mk (bytes + 1)).isValid text then bytes + 1 else boundaryBefore text bytes

theorem isValid_boundaryBefore (text : String) (bytes : Nat) :
    (String.Pos.Raw.mk (boundaryBefore text bytes)).IsValid text := by
  induction bytes with
  | zero => exact String.Pos.Raw.isValid_zero
  | succ bytes ih =>
    rw [boundaryBefore]
    split
    next boundary => exact String.Pos.Raw.isValid_eq_true_iff.mp boundary
    next => exact ih

def cutBefore (text : String) (bytes : Nat) : text.Pos :=
  text.pos ⟨boundaryBefore text bytes⟩ (isValid_boundaryBefore text bytes)

structure LogConfig where
  level : LogLevel := .debug
  maxLength : Option Nat := some 200
  enabled : Bool := true

namespace LogConfig

def shorten (config : LogConfig) (sql : String) : String :=
  match config.maxLength with
  | none => sql
  | some limit =>
      if sql.utf8ByteSize ≤ limit then sql
      else (sql.sliceTo (cutBefore sql limit)).copy ++ "..."

def report (config : LogConfig) (sql : String) (paramCount : Nat) : List Event :=
  if config.enabled then [.queryBuilt config.level paramCount (config.shorten sql)] else []

end LogConfig
end SqlBuilder
