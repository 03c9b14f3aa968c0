import SqlBuilder.Condition.Guard
import SqlBuilder.Proofs.Conditions.Monoid

namespace SqlBuilder

/-- Tests and builders may read and change their surroundings. -/
inductive Guard (σ : Type) : Type 1
  | forSome {α : Type} (input : Option α) (build : α → StateM σ Condition)
  | forSomeIf {α : Type} (input : Option α) (test : α → StateM σ Bool)
      (build : α → StateM σ Condition)
  | onlyIf (flag : Bool) (build : Unit → StateM σ Condition)

inductive GuardCall
  | test (place : Nat)
  | build (place : Nat)
  deriving DecidableEq, Repr

abbrev Noted (σ : Type) := StateM (σ × List GuardCall)

def Noted.call {σ α : Type} (called : GuardCall) (action : StateM σ α) : Noted σ α := do
  let (state, log) ← get
  let (answer, after) := action.run state
  set (after, log ++ [called])
  return answer

/-- Joined at once or one after the other, the conditions come to what the parts joined are. -/
structure Condition.JoinAs (conditions parts : List Condition) : Prop where
  all_eq : all conditions = all parts
  any_eq : any conditions = any parts
  foldl_and : conditions.foldl and .neutral = all parts
  foldl_or : conditions.foldl or .neutral = any parts
  chained_and (first : Condition) (rest : List Condition) (split : conditions = first :: rest) :
    rest.foldl and first = all parts
  chained_or (first : Condition) (rest : List Condition) (split : conditions = first :: rest) :
    rest.foldl or first = any parts

namespace Guard

variable {σ : Type}

def check (place : Nat) : Guard σ → Noted σ Condition
  | .forSome input build => Condition.forSome input fun a => Noted.call (.build place) (build a)
  | .forSomeIf input test build =>
      Condition.forSomeIf input (fun a => Noted.call (.test place) (test a))
        fun a => Noted.call (.build place) (build a)
  | .onlyIf flag build =>
      Condition.onlyIfM flag fun _ => Noted.call (.build place) (build ())

def checkFrom (place : Nat) : List (Guard σ) → Noted σ (List Condition)
  | [] => return []
  | g :: gs => do
      let c ← g.check place
      let cs ← checkFrom (place + 1) gs
      return c :: cs

def checkAll (gs : List (Guard σ)) : Noted σ (List Condition) := checkFrom 0 gs

inductive Ends : Guard σ → σ → Option Condition → σ → Prop
  | someAbsent {α : Type} {build : α → StateM σ Condition} {s : σ} :
      Ends (.forSome none build) s none s
  | somePresent {α : Type} {a : α} {build : α → StateM σ Condition} {s t : σ} {c : Condition}
      (built : (build a).run s = (c, t)) : Ends (.forSome (some a) build) s (some c) t
  | ifAbsent {α : Type} {test : α → StateM σ Bool} {build : α → StateM σ Condition} {s : σ} :
      Ends (.forSomeIf none test build) s none s
  | ifRefused {α : Type} {a : α} {test : α → StateM σ Bool} {build : α → StateM σ Condition}
      {s t : σ} (tested : (test a).run s = (false, t)) :
      Ends (.forSomeIf (some a) test build) s none t
  | ifPassed {α : Type} {a : α} {test : α → StateM σ Bool} {build : α → StateM σ Condition}
      {s t u : σ} {c : Condition} (tested : (test a).run s = (true, t))
      (built : (build a).run t = (c, u)) : Ends (.forSomeIf (some a) test build) s (some c) u
  | flagUnset {build : Unit → StateM σ Condition} {s : σ} : Ends (.onlyIf false build) s none s
  | flagSet {build : Unit → StateM σ Condition} {s t : σ} {c : Condition}
      (built : (build ()).run s = (c, t)) : Ends (.onlyIf true build) s (some c) t

inductive EndAll : List (Guard σ) → σ → List (Option Condition) → σ → Prop
  | nil {s : σ} : EndAll [] s [] s
  | cons {g : Guard σ} {gs : List (Guard σ)} {s t u : σ} {o : Option Condition}
      {os : List (Option Condition)} (first : g.Ends s o t) (rest : EndAll gs t os u) :
      EndAll (g :: gs) s (o :: os) u

def tests : Guard σ → Bool
  | .forSomeIf input _ _ => input.isSome
  | _ => false

def calls (place : Nat) (g : Guard σ) (outcome : Option Condition) : List GuardCall :=
  (if g.tests then [.test place] else []) ++ if outcome.isSome then [.build place] else []

def callsFrom (place : Nat) : List (Guard σ) → List (Option Condition) → List GuardCall
  | g :: gs, o :: os => g.calls place o ++ callsFrom (place + 1) gs os
  | _, _ => []

def Builds : Guard σ → Prop
  | .forSome _ build => ∀ a s, ((build a).run s).1.FromRecipe
  | .forSomeIf _ _ build => ∀ a s, ((build a).run s).1.FromRecipe
  | .onlyIf _ build => ∀ s, ((build ()).run s).1.FromRecipe

theorem check_forSomeIf {α : Type} (a : α) (test : α → StateM σ Bool)
    (build : α → StateM σ Condition) (place : Nat) (s : σ) (log : List GuardCall) :
    ((forSomeIf (some a) test build).check place).run (s, log) =
      if ((test a).run s).1 then
        (Noted.call (.build place) (build a)).run (((test a).run s).2, log ++ [.test place])
      else (.neutral, (((test a).run s).2, log ++ [.test place])) := by
  change (if ((test a).run s).1 then Noted.call (.build place) (build a)
    else pure .neutral : Noted σ Condition).run (((test a).run s).2, log ++ [.test place]) = _
  split <;> rfl

theorem check_run (g : Guard σ) (place : Nat) (s : σ) (log : List GuardCall) :
    ∃ outcome t, g.Ends s outcome t ∧
      (g.check place).run (s, log) =
        (outcome.getD .neutral, (t, log ++ g.calls place outcome)) := by
  have silent : (Condition.neutral, (s, log)) = (.neutral, (s, log ++ [])) := by
    rw [List.append_nil]
  cases g with
  | forSome input build =>
      cases input with
      | none => exact ⟨none, s, .someAbsent, silent⟩
      | some a => exact ⟨_, _, .somePresent rfl, rfl⟩
  | forSomeIf input test build =>
      cases input with
      | none => exact ⟨none, s, .ifAbsent, silent⟩
      | some a =>
          rw [check_forSomeIf]
          rcases tested : (test a).run s with ⟨answer, t⟩
          cases answer with
          | false => exact ⟨none, t, .ifRefused tested, rfl⟩
          | true =>
              refine ⟨_, _, .ifPassed tested rfl, ?_⟩
              rw [calls, ← List.append_assoc]
              rfl
  | onlyIf flag build =>
      cases flag with
      | false => exact ⟨none, s, .flagUnset, silent⟩
      | true => exact ⟨_, _, .flagSet rfl, rfl⟩

theorem checkFrom_cons (g : Guard σ) (gs : List (Guard σ)) (place : Nat)
    (before : σ × List GuardCall) :
    (checkFrom place (g :: gs)).run before =
      (((g.check place).run before).1 ::
          ((checkFrom (place + 1) gs).run ((g.check place).run before).2).1,
        ((checkFrom (place + 1) gs).run ((g.check place).run before).2).2) :=
  rfl

theorem checkFrom_run (gs : List (Guard σ)) (place : Nat) (s : σ) (log : List GuardCall) :
    ∃ outcomes t, EndAll gs s outcomes t ∧
      (checkFrom place gs).run (s, log) =
        (outcomes.map (·.getD .neutral), (t, log ++ callsFrom place gs outcomes)) := by
  induction gs generalizing place s log with
  | nil => exact ⟨[], s, .nil, congrArg (fun log => ([], (s, log))) (List.append_nil log).symm⟩
  | cons g gs ih =>
      obtain ⟨outcome, t, first, ran⟩ := g.check_run place s log
      obtain ⟨outcomes, u, rest, others⟩ := ih (place + 1) t (log ++ g.calls place outcome)
      refine ⟨outcome :: outcomes, u, .cons first rest, ?_⟩
      rw [checkFrom_cons, ran, others, callsFrom, List.append_assoc]
      rfl

theorem Ends.fromRecipe {g : Guard σ} {s t : σ} {c : Condition} (ends : g.Ends s (some c) t)
    (builds : g.Builds) : c.FromRecipe := by
  cases ends with
  | @somePresent _ a _ _ _ _ ran =>
      have built := builds a s
      rwa [ran] at built
  | @ifPassed _ a _ _ _ mid _ _ _ ran =>
      have built := builds a mid
      rwa [ran] at built
  | flagSet ran =>
      have built := builds s
      rwa [ran] at built

theorem EndAll.fromRecipe {gs : List (Guard σ)} {s t : σ} {outcomes : List (Option Condition)}
    (ends : EndAll gs s outcomes t) (builds : ∀ g ∈ gs, g.Builds) :
    ∀ c ∈ outcomes.map (·.getD .neutral), c.FromRecipe := by
  induction ends with
  | nil => exact fun _ member => absurd member List.not_mem_nil
  | @cons g gs _ _ _ outcome _ first _ ih =>
      obtain ⟨here, others⟩ := List.forall_mem_cons.mp builds
      refine List.forall_mem_cons.mpr ⟨?_, ih others⟩
      cases outcome with
      | none => exact Condition.fromRecipe_neutral
      | some c => exact first.fromRecipe here

theorem filter_outcomes (outcomes : List (Option Condition)) :
    (outcomes.map (·.getD .neutral)).filter (!·.isNeutral) =
      (outcomes.filterMap id).filter (!·.isNeutral) := by
  induction outcomes with
  | nil => rfl
  | cons outcome outcomes ih =>
      cases outcome with
      | none => exact ih
      | some c =>
          change (c :: outcomes.map (·.getD .neutral)).filter _ =
            (c :: outcomes.filterMap id).filter _
          rw [List.filter_cons, List.filter_cons, ih]

theorem joinAs_outcomes {outcomes : List (Option Condition)}
    (built : ∀ c ∈ outcomes.map (·.getD .neutral), c.FromRecipe) :
    Condition.JoinAs (outcomes.map (·.getD .neutral)) (outcomes.filterMap id) := by
  have normal : ∀ c ∈ outcomes.map (·.getD .neutral), c.NeutralOrReduced fun _ => True :=
    fun c member => (built c member).neutralOrReduced
  have joined (k : Connective) :
      k.join (outcomes.map (·.getD .neutral)) = k.join (outcomes.filterMap id) :=
    k.join_congr_written (filter_outcomes outcomes)
  have folded (k : Connective) :
      (outcomes.map (·.getD .neutral)).foldl (fun a b => k.join [a, b]) .neutral =
        k.join (outcomes.filterMap id) := by
    rw [k.foldl_join Condition.fromRecipe_neutral.neutralOrReduced normal, k.join_neutral_cons,
      joined k]
  have chained (k : Connective) (first : Condition) (rest : List Condition)
      (split : outcomes.map (·.getD .neutral) = first :: rest) :
      rest.foldl (fun a b => k.join [a, b]) first = k.join (outcomes.filterMap id) := by
    rw [split] at normal
    obtain ⟨head, tail⟩ := List.forall_mem_cons.mp normal
    rw [k.foldl_join head tail, ← split, joined k]
  exact ⟨joined .and, joined .or, folded .and, folded .or, chained .and, chained .or⟩

theorem checked_as_passed (gs : List (Guard σ)) (builds : ∀ g ∈ gs, g.Builds) (s : σ) :
    ∃ outcomes t, EndAll gs s outcomes t ∧
      (checkAll gs).run (s, []) =
        (outcomes.map (·.getD .neutral), (t, callsFrom 0 gs outcomes)) ∧
      Condition.JoinAs (outcomes.map (·.getD .neutral)) (outcomes.filterMap id) := by
  obtain ⟨outcomes, t, ends, ran⟩ := checkFrom_run gs 0 s []
  exact ⟨outcomes, t, ends, ran, joinAs_outcomes (ends.fromRecipe builds)⟩

def counting : List (Guard Nat) :=
  [.forSomeIf (some ()) (fun _ => modifyGet fun n => (0 < n, n + 1)) fun _ => pure (.plain "a"),
    .forSome (none : Option Unit) fun _ => pure (.plain "b"),
    .forSomeIf (some ()) (fun _ => modifyGet fun n => (0 < n, n + 1))
      fun _ => pure (.all [.plain "c", .plain "d"]),
    .onlyIf true fun _ => pure (.plain "e")]

theorem checked_as_passed_counting :
    (∀ g ∈ counting, g.Builds) ∧
    (checkAll counting).run (0, []) =
      ([.neutral, .neutral, .all [.plain "c", .plain "d"], .plain "e"],
        (2, [.test 0, .test 2, .build 2, .build 3])) ∧
    Condition.JoinAs [.neutral, .neutral, .all [.plain "c", .plain "d"], .plain "e"]
      [.all [.plain "c", .plain "d"], .plain "e"] := by
  have leaf := Condition.fromRecipe_plain
  have group : (Condition.all [.plain "c", .plain "d"]).FromRecipe :=
    Condition.fromRecipe_all (by simp [leaf])
  have builds : ∀ g ∈ counting, g.Builds := by
    simp only [counting, List.forall_mem_cons, List.not_mem_nil, false_implies, implies_true,
      and_true]
    exact ⟨fun _ _ => leaf "a", fun _ _ => leaf "b", fun _ _ => group, fun _ => leaf "e"⟩
  obtain ⟨outcomes, t, ends, ran, joined⟩ := checked_as_passed counting builds 0
  refine ⟨builds, rfl, ?_⟩
  rcases ends with _ | ⟨first, _ | ⟨second, _ | ⟨third, _ | ⟨fourth, ⟨⟩⟩⟩⟩⟩
  cases second
  cases first with
  | ifPassed tested => exact absurd (congrArg Prod.fst tested) Bool.false_ne_true
  | ifRefused tested =>
      obtain ⟨-, rfl⟩ := Prod.mk.inj tested
      cases third with
      | ifRefused tested => exact absurd (congrArg Prod.fst tested).symm Bool.false_ne_true
      | ifPassed _ built =>
          obtain ⟨rfl, -⟩ := Prod.mk.inj built
          cases fourth with
          | flagSet built =>
              obtain ⟨rfl, -⟩ := Prod.mk.inj built
              exact joined

end Guard
end SqlBuilder
