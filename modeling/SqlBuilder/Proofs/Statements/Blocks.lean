import SqlBuilder.Proofs.Statements.Rows
import SqlBuilder.Statement.SetBlock

namespace SqlBuilder

namespace Step

theorem run?_append (s : Step) (first second : List Call) :
    s.run? (first ++ second) = (s.run? first).bind (run? · second) :=
  List.foldlM_append

theorem assignmentCount?_of_assign {s t : Step} {a : Assignment}
    (next : s.next? (.assign a) = some t) :
    t.assignmentCount? = some (s.assignmentCount?.getD 0 + 1) := by
  cases s with
  | insertStart s => exact Option.some.inj next ▸ rfl
  | insertRow s =>
      obtain rfl := Option.some.inj next
      exact congrArg some (s.row.count_add a)
  | upsertStart s => exact Option.some.inj next ▸ rfl
  | upsert s =>
      obtain rfl := Option.some.inj next
      exact congrArg some (s.set.count_add a)
  | updateStart s => exact Option.some.inj next ▸ rfl
  | updateSet s =>
      obtain rfl := Option.some.inj next
      exact congrArg some (s.set.count_add a)
  | _ => cases next

theorem assignmentCount?_of_assigned {s t : Step} {as : List Assignment}
    (reached : s.run? (as.map .assign) = some t) :
    t.assignmentCount?.getD 0 = s.assignmentCount?.getD 0 + as.length := by
  induction as generalizing s with
  | nil =>
      obtain rfl := Option.some.inj reached
      rfl
  | cons a as ih =>
      rw [List.map_cons, run?_cons] at reached
      obtain ⟨mid, next, rest⟩ := Option.bind_eq_some_iff.mp reached
      rw [ih rest, assignmentCount?_of_assign next, Option.getD_some, List.length_cons]
      omega

end Step

class SetFamily (S : outParam Type) (M : Type) [Assigns S M] [Assigns M M] where
  unset : S → Step
  filled : M → Step
  next?_unset (s : S) (a : Assignment) : (unset s).next? (.assign a) = some (filled (assign s a))
  next?_filled (t : M) (a : Assignment) : (filled t).next? (.assign a) = some (filled (assign t a))

instance : SetFamily InsertStart InsertRow :=
  ⟨.insertStart, .insertRow, fun _ _ => rfl, fun _ _ => rfl⟩

instance : SetFamily UpdateStart UpdateSet :=
  ⟨.updateStart, .updateSet, fun _ _ => rfl, fun _ _ => rfl⟩

instance : SetFamily UpsertStart Upsert :=
  ⟨.upsertStart, .upsert, fun _ _ => rfl, fun _ _ => rfl⟩

/-- What a block does may depend on the answers it got before. -/
inductive SetScript (M α : Type)
  | done (result : α)
  | assign (a : Assignment) (next : M → SetScript M α)
  | assignments (next : Nat → SetScript M α)

inductive SetAnswer (M : Type)
  | assigned (a : Assignment) (step : M)
  | assignments (count : Nat)

def SetAnswer.made {M : Type} (answers : List (SetAnswer M)) : List Assignment :=
  answers.filterMap fun
    | .assigned a _ => some a
    | .assignments _ => none

namespace SetAnswer

variable {M : Type} (answers : List (SetAnswer M))

@[simp] theorem made_nil : made ([] : List (SetAnswer M)) = [] := rfl

@[simp] theorem made_assigned (a : Assignment) (step : M) :
    made (.assigned a step :: answers) = a :: made answers := rfl

@[simp] theorem made_assignments (count : Nat) :
    made (.assignments count :: answers) = made answers := rfl

end SetAnswer

namespace SetScript

variable {S M α : Type}

def block [Assigns S M] [Assigns M M] : SetScript M α → SetBlock S M α
  | .done result => pure result
  | .assign a next => do
      let step ← SetBlock.assign a
      (next step).block
  | .assignments next => do
      let count ← SetBlock.assignments
      (next count).block

theorem run_assign [Assigns S M] [Assigns M M] (a : Assignment)
    (next : M → SetScript M α) (context : SetContext S M) :
    (assign a next).block.run context =
      (next ((SetBlock.assign a : SetBlock S M M).run context).1).block.run
        ((SetBlock.assign a : SetBlock S M M).run context).2 :=
  rfl

inductive Performs : SetScript M α → List (SetAnswer M) → α → Prop
  | done (result : α) : Performs (.done result) [] result
  | assign {a : Assignment} {next : M → SetScript M α} {step : M} {answers : List (SetAnswer M)}
      {result : α} (rest : Performs (next step) answers result) :
      Performs (.assign a next) (.assigned a step :: answers) result
  | assignments {next : Nat → SetScript M α} {count : Nat} {answers : List (SetAnswer M)}
      {result : α} (rest : Performs (next count) answers result) :
      Performs (.assignments next) (.assignments count :: answers) result

end SetScript

section
variable {S M α : Type} [Assigns S M] [Assigns M M] [SetFamily S M]

def SetAnswer.Chained (origin : Step) (made : List Assignment) : SetAnswer M → Prop
  | .assigned a step =>
      origin.run? ((made ++ [a]).map .assign) = some (SetFamily.filled step) ∧
        (SetFamily.filled step).assignmentCount? =
          some (origin.assignmentCount?.getD 0 + (made.length + 1))
  | .assignments count => count = made.length

/-- The result is what the script comes to with the answers of a chain of calls, and the number that
is reported is that of its assignments. -/
def FollowsChain (origin : Step) (clause : SetClause) (script : SetScript M α)
    (outcome : α × Event) : Prop :=
  ∃ answers : List (SetAnswer M), script.Performs answers outcome.1 ∧
    outcome.2 = .setBlockFinished clause (SetAnswer.made answers).length ∧
    ∀ before answer after, answers = before ++ answer :: after →
      answer.Chained origin (SetAnswer.made before)

namespace SetContext

def step (context : SetContext S M) : Step :=
  match context.current with
  | .inl seed => SetFamily.unset (M := M) seed
  | .inr filled => SetFamily.filled filled

structure Follows (origin : Step) (made : List Assignment) (context : SetContext S M) : Prop where
  reached : origin.run? (made.map .assign) = some context.step
  counted : context.assignments = made.length

theorem Follows.assign {origin : Step} {made : List Assignment} {context : SetContext S M}
    (follows : context.Follows origin made) (a : Assignment) :
    ∃ step : M, (SetBlock.assign a : SetBlock S M M).run context =
        (step, ⟨.inr step, context.assignments + 1⟩) ∧
      SetContext.Follows origin (made ++ [a])
        (⟨.inr step, context.assignments + 1⟩ : SetContext S M) ∧
      (SetAnswer.assigned a step).Chained origin made := by
  obtain ⟨reached, counted⟩ := follows
  have next : ∃ step : M, (SetBlock.assign a : SetBlock S M M).run context =
        (step, ⟨.inr step, context.assignments + 1⟩) ∧
      context.step.next? (.assign a) = some (SetFamily.filled step) := by
    obtain ⟨current, count⟩ := context
    cases current with
    | inl seed => exact ⟨SqlBuilder.assign seed a, rfl, SetFamily.next?_unset seed a⟩
    | inr filled => exact ⟨SqlBuilder.assign filled a, rfl, SetFamily.next?_filled filled a⟩
  obtain ⟨step, answered, next⟩ := next
  have chain : origin.run? ((made ++ [a]).map .assign) = some (SetFamily.filled step) := by
    rw [List.map_append, Step.run?_append, reached, Option.bind_some, List.map_cons, Step.run?_cons,
      next]
    rfl
  refine ⟨step, answered, ⟨chain, ?_⟩, chain, ?_⟩
  · rw [List.length_append, counted]
    rfl
  · rw [Step.assignmentCount?_of_assign next, Step.assignmentCount?_of_assigned reached]
    rfl

end SetContext

omit [Assigns S M] [Assigns M M] [SetFamily S M] in
theorem SetAnswer.forall_split_cons {first : SetAnswer M} {answers : List (SetAnswer M)}
    {holds : List (SetAnswer M) → SetAnswer M → Prop} (head : holds [] first)
    (tail : ∀ before answer after, answers = before ++ answer :: after →
      holds (first :: before) answer) :
    ∀ before answer after, first :: answers = before ++ answer :: after → holds before answer := by
  intro before answer after split
  cases before with
  | nil =>
      obtain ⟨rfl, -⟩ := List.cons.inj split
      exact head
  | cons other before =>
      obtain ⟨rfl, rest⟩ := List.cons.inj split
      exact tail before answer after rest

namespace SetScript

theorem run_block {origin : Step} (script : SetScript M α) {made : List Assignment}
    {context : SetContext S M} (follows : context.Follows origin made) :
    ∃ answers : List (SetAnswer M), script.Performs answers (script.block.run context).1 ∧
      (script.block.run context).2.assignments = made.length + (SetAnswer.made answers).length ∧
      ∀ before answer after, answers = before ++ answer :: after →
        answer.Chained origin (made ++ SetAnswer.made before) := by
  induction script generalizing made context with
  | done result =>
      refine ⟨[], .done result, follows.counted, ?_⟩
      intro before answer after split
      simp at split
  | assign a next ih =>
      obtain ⟨step, answered, after, chained⟩ := follows.assign a
      obtain ⟨answers, performs, counted, others⟩ := ih step after
      rw [run_assign, answered]
      refine ⟨.assigned a step :: answers, .assign performs, ?_, ?_⟩
      · rw [counted, List.length_append, SetAnswer.made_assigned, List.length_cons,
          List.length_cons, List.length_nil]
        omega
      · apply SetAnswer.forall_split_cons
        · rwa [SetAnswer.made_nil, List.append_nil]
        -- The answers after the first one come after one more assignment.
        · intro before answer rest split
          rw [SetAnswer.made_assigned, List.append_cons]
          exact others before answer rest split
  | assignments next ih =>
      obtain ⟨answers, performs, counted, others⟩ := ih context.assignments follows
      refine ⟨.assignments context.assignments :: answers, .assignments performs, counted, ?_⟩
      apply SetAnswer.forall_split_cons
      · rw [SetAnswer.made_nil, List.append_nil]
        exact follows.counted
      · intro before answer rest split
        rw [SetAnswer.made_assignments]
        exact others before answer rest split

theorem finish_followsChain (clause : SetClause) (seed : S ⊕ M) (script : SetScript M α) :
    FollowsChain (SetContext.step ⟨seed, 0⟩) clause script
      (SetBlock.finish clause seed script.block) := by
  have start : SetContext.Follows (SetContext.step ⟨seed, 0⟩) [] (⟨seed, 0⟩ : SetContext S M) :=
    ⟨rfl, rfl⟩
  obtain ⟨answers, performs, counted, chained⟩ := script.run_block start
  refine ⟨answers, performs, ?_, chained⟩
  rw [List.length_nil, Nat.zero_add] at counted
  exact congrArg (Event.setBlockFinished clause) counted

end SetScript
end

namespace SetScript

variable {α : Type}

theorem block_followsChain :
    (∀ (s : InsertStart) (script : SetScript InsertRow α),
      FollowsChain (.insertStart s) .insert script (s.values script.block)) ∧
    (∀ (s : InsertRow) (script : SetScript InsertRow α),
      (Step.insertRow s).next? .newRecord = some (.insertStart s.newRecord) ∧
        FollowsChain (.insertStart s.newRecord) .insert script (s.values script.block)) ∧
    (∀ (s : UpdateStart) (script : SetScript UpdateSet α),
      FollowsChain (.updateStart s) .update script (s.setWith script.block)) ∧
    (∀ (s : UpdateSet) (script : SetScript UpdateSet α),
      FollowsChain (.updateSet s) .update script (s.setWith script.block)) ∧
    (∀ (s : UpsertStart) (script : SetScript Upsert α),
      FollowsChain (.upsertStart s) .onConflict script (s.setWith script.block)) ∧
    (∀ (s : Upsert) (script : SetScript Upsert α),
      FollowsChain (.upsert s) .onConflict script (s.setWith script.block)) := by
  refine ⟨?_, ?_, ?_, ?_, ?_, ?_⟩
  · intro s script
    exact finish_followsChain .insert (.inl s) script
  · intro s script
    exact ⟨rfl, finish_followsChain .insert (.inl s.newRecord) script⟩
  · intro s script
    exact finish_followsChain .update (.inl s) script
  · intro s script
    exact finish_followsChain .update (.inr s) script
  · intro s script
    exact finish_followsChain .onConflict (.inl s) script
  · intro s script
    exact finish_followsChain .onConflict (.inr s) script

end SetScript
end SqlBuilder
