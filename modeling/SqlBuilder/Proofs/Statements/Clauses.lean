import Mathlib.Data.List.DropRight
import SqlBuilder.Proofs.Conditions.Monoid
import SqlBuilder.Query
import SqlBuilder.Select
import SqlBuilder.Statement.Step

namespace SqlBuilder

inductive SelectCall
  | fromTable (t : Table)
  | filter (c : Condition)
  | andFilter (c : Condition)
  | sortBy (key : SortKey)
  | limitTo (n : Int)

inductive SelectClause
  | table
  | condition
  | order
  | limit
  deriving DecidableEq

namespace SelectCall

def clause : SelectCall → SelectClause
  | fromTable _ => .table
  | filter _ => .condition
  | andFilter _ => .condition
  | sortBy _ => .order
  | limitTo _ => .limit

def table? : SelectCall → Option Table
  | fromTable t => some t
  | _ => none

def limit? : SelectCall → Option Int
  | limitTo n => some n
  | _ => none

def key? : SelectCall → Option SortKey
  | sortBy key => some key
  | _ => none

def replaced? : SelectCall → Option Condition
  | filter c => some c
  | _ => none

def added? : SelectCall → Option Condition
  | andFilter c => some c
  | _ => none

def condition? (call : SelectCall) : Option Condition := call.replaced?.or call.added?

/-- The last condition that replaced the others, and what was added since. -/
def restrictions (calls : List SelectCall) : List Condition :=
  (calls.filterMap replaced?).getLast?.toList ++
    (calls.rtakeWhile (·.replaced?.isNone)).filterMap added?

end SelectCall

namespace Select

def next (s : Select) : SelectCall → Select
  | .fromTable t => s.fromTable t
  | .filter c => s.filter c
  | .andFilter c => s.andFilter c
  | .sortBy key => s.sortBy key
  | .limitTo n => s.limitTo n

def run (s : Select) (calls : List SelectCall) : Select := calls.foldl next s

end Select

namespace SelectCall

theorem restrictions_concat (calls : List SelectCall) (call : SelectCall) :
    restrictions (calls ++ [call]) =
      match call with
      | .filter c => [c]
      | .andFilter c => restrictions calls ++ [c]
      | _ => restrictions calls := by
  cases call <;> simp [restrictions, replaced?, added?]

theorem mem_condition?_of_mem_restrictions {calls : List SelectCall} {c : Condition}
    (member : c ∈ restrictions calls) : c ∈ calls.filterMap condition? := by
  induction calls using List.reverseRecOn with
  | nil => exact absurd member List.not_mem_nil
  | append_singleton calls call ih =>
      rw [restrictions_concat] at member
      rw [List.filterMap_append, List.mem_append]
      cases call with
      | filter d => exact .inr member
      | andFilter d => exact (List.mem_append.mp member).imp ih id
      | _ => exact .inl (ih member)

end SelectCall

namespace SelectCall

variable {calls others : List SelectCall}

theorem filterMap_eq_of_clause {α : Type} {f : SelectCall → Option α} {k : SelectClause}
    (own : ∀ call, (f call).isSome → call.clause = k)
    (same : calls.filter (·.clause = k) = others.filter (·.clause = k)) :
    calls.filterMap f = others.filterMap f := by
  have restricted (cs : List SelectCall) :
      (cs.filter (·.clause = k)).filterMap f = cs.filterMap f := by
    rw [List.filterMap_filter]
    apply List.filterMap_congr
    intro call _
    split
    · rfl
    · rename_i other
      have none : ¬ (f call).isSome := fun some => other (by simpa using own call some)
      exact (Option.not_isSome_iff_eq_none.mp none).symm
  rw [← restricted calls, same, restricted others]

theorem restrictions_filter (calls : List SelectCall) :
    restrictions (calls.filter (·.clause = .condition)) = restrictions calls := by
  induction calls using List.reverseRecOn with
  | nil => rfl
  | append_singleton calls call ih =>
      rw [List.filter_append, restrictions_concat]
      cases call with
      | filter c => exact restrictions_concat _ (.filter c)
      | andFilter c =>
          exact (restrictions_concat _ (.andFilter c)).trans (congrArg (· ++ [c]) ih)
      | _ => exact (congrArg restrictions (List.append_nil _)).trans ih

theorem restrictions_eq_of_clause
    (same : calls.filter (·.clause = .condition) = others.filter (·.clause = .condition)) :
    restrictions calls = restrictions others := by
  rw [← restrictions_filter calls, same, restrictions_filter others]

end SelectCall

theorem Condition.all_concat {cs : List Condition} (built : ∀ c ∈ cs, c.FromRecipe)
    (d : Condition) :
    all [all cs, d] = all (cs ++ [d]) :=
  Connective.and.join_splice [] [d] fun c member => (built c member).neutralOrReduced

open SelectCall

theorem Select.run_eq (columns : List Expr) (calls : List SelectCall)
    (built : ∀ c ∈ calls.filterMap condition?, c.FromRecipe) :
    (ofColumns columns).run calls =
      ⟨columns, (calls.filterMap table?).getLast?, .all (restrictions calls),
        calls.filterMap key?, (calls.filterMap limit?).getLast?⟩ := by
  induction calls using List.reverseRecOn with
  | nil => rfl
  | append_singleton calls call ih =>
      have before : ∀ c ∈ calls.filterMap condition?, c.FromRecipe := fun c member =>
        built c (by rw [List.filterMap_append]; exact List.mem_append_left _ member)
      have force : ∀ c ∈ restrictions calls, c.FromRecipe := fun c member =>
        before c (mem_condition?_of_mem_restrictions member)
      rw [run, List.foldl_concat, ← run, ih before, restrictions_concat]
      cases call with
      | fromTable t => simp [next, fromTable, table?, key?, limit?]
      | filter c =>
          have given : c.FromRecipe := built c (by simp [condition?, replaced?])
          have alone : Condition.all [c] = c := Connective.and.join_singleton given.neutralOrReduced
          simp [next, filter, alone, table?, key?, limit?]
      | andFilter c => simp [next, andFilter, Condition.all_concat force, table?, key?, limit?]
      | sortBy key => simp [next, sortBy, table?, key?, limit?]
      | limitTo n => simp [next, limitTo, table?, key?, limit?]

theorem UpdateFilter.foldl_andFilter (s : UpdateSet) (c : Condition) (cs : List Condition)
    (built : ∀ d ∈ c :: cs, d.FromRecipe) :
    cs.foldl andFilter (s.filter c) = ⟨{ s.statement with condition := .all (c :: cs) }⟩ := by
  induction cs using List.reverseRecOn with
  | nil =>
      have alone : Condition.all [c] = c :=
        Connective.and.join_singleton (built c List.mem_cons_self).neutralOrReduced
      rw [alone]
      rfl
  | append_singleton cs d ih =>
      have before : ∀ e ∈ c :: cs, e.FromRecipe := fun e member =>
        built e (List.mem_append_left [d] member)
      rw [List.foldl_concat, ih before, andFilter]
      simp only [Condition.all_concat before, List.cons_append]

theorem Select.run_eq_of_clauses (columns : List Expr) {calls others : List SelectCall}
    (built : ∀ c ∈ calls.filterMap condition?, c.FromRecipe)
    (same : ∀ k : SelectClause, others.filter (·.clause = k) = calls.filter (·.clause = k)) :
    (ofColumns columns).run others = (ofColumns columns).run calls := by
  have tables := filterMap_eq_of_clause (f := table?) (by rintro ⟨⟩ <;> simp [table?, clause])
    (same .table)
  have conditions := filterMap_eq_of_clause (f := condition?)
    (by rintro ⟨⟩ <;> simp [condition?, replaced?, added?, clause]) (same .condition)
  have keys := filterMap_eq_of_clause (f := key?) (by rintro ⟨⟩ <;> simp [key?, clause])
    (same .order)
  have limits := filterMap_eq_of_clause (f := limit?) (by rintro ⟨⟩ <;> simp [limit?, clause])
    (same .limit)
  rw [run_eq columns calls built, run_eq columns others (conditions ▸ built), tables, keys, limits,
    restrictions_eq_of_clause (same .condition)]

theorem Select.run_by_clause (columns : List Expr) :
    (∀ calls : List SelectCall, (∀ c ∈ calls.filterMap condition?, c.FromRecipe) →
      (ofColumns columns).run calls =
        ⟨columns, (calls.filterMap table?).getLast?, .all (restrictions calls),
          calls.filterMap key?, (calls.filterMap limit?).getLast?⟩ ∧
      ∀ others : List SelectCall,
        (∀ k : SelectClause, others.filter (·.clause = k) = calls.filter (·.clause = k)) →
        (ofColumns columns).run others = (ofColumns columns).run calls ∧
        ∀ ps, Query.render ((ofColumns columns).run others) ps =
          Query.render ((ofColumns columns).run calls) ps) ∧
    ∀ (s : UpdateSet) (c : Condition) (cs : List Condition), (∀ d ∈ c :: cs, d.FromRecipe) →
      (cs.foldl UpdateFilter.andFilter (s.filter c)).statement =
        { s.statement with condition := .all (c :: cs) } := by
  constructor
  · intro calls built
    refine ⟨run_eq columns calls built, ?_⟩
    intro others same
    have equal := run_eq_of_clauses columns built same
    exact ⟨equal, fun ps => by rw [equal]⟩
  · intro s c cs built
    rw [UpdateFilter.foldl_andFilter s c cs built]

def SelectCall.replacing : List SelectCall :=
  [.filter (.plain "a"), .limitTo 5, .andFilter (.plain "b"),
    .filter (.all [.plain "c", .plain "d"]), .andFilter .neutral, .limitTo 3,
    .andFilter (.all [.plain "e", .plain "f"])]

theorem Select.run_by_clause_replacing :
    (ofColumns [.verbatim "x"]).run replacing =
      ⟨[.verbatim "x"], none,
        .all [.all [.plain "c", .plain "d"], .neutral, .all [.plain "e", .plain "f"]], [], some 3⟩ ∧
    (ofColumns [.verbatim "x"]).run
        (.limitTo 5 :: .limitTo 3 :: replacing.filter (·.limit?.isNone)) =
      (ofColumns [.verbatim "x"]).run replacing ∧
    ((update ⟨⟨[], .quoted "t"⟩⟩ |> (assign · ⟨.verbatim "x", .verbatim "y"⟩)).filter (.plain "a")
        |>.andFilter .neutral |>.andFilter (.all [.plain "b", .plain "c"])).statement.condition =
      .all [.plain "a", .neutral, .all [.plain "b", .plain "c"]] := by
  have leaf := Condition.fromRecipe_plain
  have group (a b : String) : (Condition.all [.plain a, .plain b]).FromRecipe :=
    Condition.fromRecipe_all (by simp [leaf])
  have built : ∀ c ∈ replacing.filterMap condition?, c.FromRecipe := by
    simp [replacing, condition?, replaced?, added?, leaf, group, Condition.fromRecipe_neutral]
  obtain ⟨selects, updates⟩ := run_by_clause [.verbatim "x"]
  obtain ⟨clauses, apart⟩ := selects replacing built
  refine ⟨clauses, (apart _ ?_).1, ?_⟩
  · intro k
    cases k <;> rfl
  · have joined := updates ⟨⟨⟨[], .quoted "t"⟩⟩, .single ⟨.verbatim "x", .verbatim "y"⟩⟩
      (.plain "a") [.neutral, .all [.plain "b", .plain "c"]]
      (by simp [leaf, group, Condition.fromRecipe_neutral])
    exact congrArg Update.condition joined

end SqlBuilder
