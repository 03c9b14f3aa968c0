import SqlBuilder.Term.Basic

namespace SqlBuilder.Condition

variable {m : Type → Type} [Monad m] {α : Type}

def forSome (input : Option α) (build : α → m Condition) : m Condition :=
  match input with
  | some a => build a
  | none => pure .neutral

def forSomeIf (input : Option α) (test : α → m Bool) (build : α → m Condition) : m Condition :=
  match input with
  | some a => do if ← test a then build a else pure .neutral
  | none => pure .neutral

def onlyIf (flag : Bool) (c : Condition) : Condition := if flag then c else .neutral

def onlyIfM (flag : Bool) (build : Unit → m Condition) : m Condition :=
  if flag then build () else pure .neutral

end SqlBuilder.Condition
