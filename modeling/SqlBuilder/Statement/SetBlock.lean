import SqlBuilder.Statement.Step

namespace SqlBuilder

/-- Blocks start from a step of type `S` or `M`; every assignment yields one of type `M`. -/
structure SetContext (S M : Type) where
  current : S ⊕ M
  assignments : Nat

abbrev SetBlock (S M : Type) := StateM (SetContext S M)

namespace SetBlock

variable {S M α : Type}

def assign [Assigns S M] [Assigns M M] (a : Assignment) : SetBlock S M M := do
  let context ← get
  let next := match context.current with
    | .inl seed => SqlBuilder.assign seed a
    | .inr step => SqlBuilder.assign step a
  set (⟨.inr next, context.assignments + 1⟩ : SetContext S M)
  pure next

def assignments : SetBlock S M Nat := do return (← get).assignments

def finish (clause : SetClause) (seed : S ⊕ M) (block : SetBlock S M α) : α × Event :=
  let (result, context) := block.run ⟨seed, 0⟩
  (result, .setBlockFinished clause context.assignments)

end SetBlock

variable {α : Type}

def InsertStart.values (s : InsertStart) (block : SetBlock InsertStart InsertRow α) : α × Event :=
  block.finish .insert (.inl s)

def InsertRow.values (s : InsertRow) (block : SetBlock InsertStart InsertRow α) : α × Event :=
  s.newRecord.values block

def UpdateStart.setWith (s : UpdateStart) (block : SetBlock UpdateStart UpdateSet α) : α × Event :=
  block.finish .update (.inl s)

def UpdateSet.setWith (s : UpdateSet) (block : SetBlock UpdateStart UpdateSet α) : α × Event :=
  block.finish .update (.inr s)

def UpsertStart.setWith (s : UpsertStart) (block : SetBlock UpsertStart Upsert α) : α × Event :=
  block.finish .onConflict (.inl s)

def Upsert.setWith (s : Upsert) (block : SetBlock UpsertStart Upsert α) : α × Event :=
  block.finish .onConflict (.inr s)

end SqlBuilder
