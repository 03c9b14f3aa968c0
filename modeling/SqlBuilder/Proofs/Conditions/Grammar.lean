import SqlBuilder.Proofs.Conditions.Truth

namespace SqlBuilder

inductive Token (α : Type)
  | atom (a : α)
  | and
  | or
  | not
  | leftParen
  | rightParen
  deriving DecidableEq

inductive Tree (α : Type)
  | atom (a : α)
  | not (operand : Tree α)
  | and (left right : Tree α)
  | or (left right : Tree α)

def Tree.eval {α : Type} (value : α → Truth) : Tree α → Truth
  | .atom a => value a
  | .not operand => (operand.eval value).not
  | .and left right => (left.eval value).and (right.eval value)
  | .or left right => (left.eval value).or (right.eval value)

/-- From what binds most tightly to what binds least. -/
inductive Level
  | primary
  | negation
  | conjunction
  | disjunction

variable {α : Type}

inductive Reads : Level → List (Token α) → Tree α → Prop
  | atom (a : α) : Reads .primary [.atom a] (.atom a)
  | group {ts t} (inner : Reads .disjunction ts t) :
      Reads .primary (.leftParen :: ts ++ [.rightParen]) t
  | ofPrimary {ts t} (primary : Reads .primary ts t) : Reads .negation ts t
  | not {ts t} (operand : Reads .negation ts t) : Reads .negation (.not :: ts) (.not t)
  | ofNegation {ts t} (negation : Reads .negation ts t) : Reads .conjunction ts t
  | and {ts us t u} (left : Reads .conjunction ts t) (right : Reads .negation us u) :
      Reads .conjunction (ts ++ .and :: us) (.and t u)
  | ofConjunction {ts t} (conjunction : Reads .conjunction ts t) : Reads .disjunction ts t
  | or {ts us t u} (left : Reads .disjunction ts t) (right : Reads .conjunction us u) :
      Reads .disjunction (ts ++ .or :: us) (.or t u)

/-- A group that waits for an operand: what its ORs and ANDs have to their left so far, and how many
NOTs stand right before the operand. -/
structure Pending (α : Type) where
  disjuncts : Option (Tree α)
  conjuncts : Option (Tree α)
  negations : Nat

namespace Pending

def start : Pending α := ⟨none, none, 0⟩

def negated : Nat → Tree α → Tree α
  | 0, t => t
  | n + 1, t => negated n (.not t)

def conjunction (p : Pending α) (operand : Tree α) : Tree α :=
  match p.conjuncts with
  | none => negated p.negations operand
  | some left => .and left (negated p.negations operand)

end Pending

def disjunction : Option (Tree α) → Tree α → Tree α
  | none, t => t
  | some left, t => .or left t

/-- Either an operand has to come next, or a group has one and may go on or end. The groups around
it wait for it as their operand. -/
inductive Reader (α : Type)
  | waiting (group : Pending α) (around : List (Pending α))
  | filled (disjuncts : Option (Tree α)) (conjunction : Tree α) (around : List (Pending α))

namespace Reader

def next? : Reader α → Token α → Option (Reader α)
  | .waiting group around, .atom a =>
      some (.filled group.disjuncts (group.conjunction (.atom a)) around)
  | .waiting group around, .not =>
      some (.waiting { group with negations := group.negations + 1 } around)
  | .waiting group around, .leftParen => some (.waiting .start (group :: around))
  | .filled disjuncts t around, .and => some (.waiting ⟨disjuncts, some t, 0⟩ around)
  | .filled disjuncts t around, .or =>
      some (.waiting ⟨some (disjunction disjuncts t), none, 0⟩ around)
  | .filled disjuncts t (group :: around), .rightParen =>
      some (.filled group.disjuncts (group.conjunction (disjunction disjuncts t)) around)
  | _, _ => none

def run? (r : Reader α) (ts : List (Token α)) : Option (Reader α) := ts.foldlM next? r

def result? : Reader α → Option (Tree α)
  | .filled disjuncts t [] => some (disjunction disjuncts t)
  | _ => none

theorem run?_append (r : Reader α) (ts us : List (Token α)) :
    r.run? (ts ++ us) = (r.run? ts).bind fun s => s.run? us := by
  rw [run?, List.foldlM_append]
  rfl

end Reader

def parse (ts : List (Token α)) : Option (Tree α) :=
  ((Reader.waiting .start []).run? ts).bind Reader.result?

/-- What the reader does with a sequence that is read as `t`. At the inner levels the group takes
`t` as an operand; at the outer ones `t` is all that the group, or the AND at its end, has. -/
def Found : Level → List (Token α) → Tree α → Prop
  | .primary, ts, t | .negation, ts, t => ∀ group around,
      (Reader.waiting group around).run? ts =
        some (.filled group.disjuncts (group.conjunction t) around)
  | .conjunction, ts, t => ∀ disjuncts around,
      (Reader.waiting ⟨disjuncts, none, 0⟩ around).run? ts = some (.filled disjuncts t around)
  | .disjunction, ts, t => ∀ around, ∃ disjuncts last,
      (Reader.waiting .start around).run? ts = some (.filled disjuncts last around) ∧
        disjunction disjuncts last = t

theorem Reads.found {level : Level} {ts : List (Token α)} {t : Tree α} (reads : Reads level ts t) :
    Found level ts t := by
  induction reads with
  | atom a => exact fun group around => rfl
  | @group ts t inner ih =>
      intro group around
      obtain ⟨disjuncts, last, read, whole⟩ := ih (group :: around)
      have opened : (Reader.waiting group around).run? (.leftParen :: ts ++ [.rightParen]) =
          (Reader.waiting .start (group :: around)).run? (ts ++ [.rightParen]) := rfl
      rw [opened, Reader.run?_append, read, ← whole]
      rfl
  | ofPrimary primary ih => exact ih
  | not operand ih =>
      intro group around
      exact ih { group with negations := group.negations + 1 } around
  | ofNegation negation ih => exact fun disjuncts around => ih ⟨disjuncts, none, 0⟩ around
  | and left right ihLeft ihRight =>
      intro disjuncts around
      rw [Reader.run?_append, ihLeft disjuncts around]
      exact ihRight ⟨disjuncts, some _, 0⟩ around
  | @ofConjunction ts t conjunction ih => exact fun around => ⟨none, t, ih none around, rfl⟩
  | @or ts us t u left right ihLeft ihRight =>
      intro around
      obtain ⟨disjuncts, last, read, whole⟩ := ihLeft around
      refine ⟨some t, u, ?_, rfl⟩
      rw [Reader.run?_append, read, ← whole]
      exact ihRight (some (disjunction disjuncts last)) around

theorem Reads.parse_eq {ts : List (Token α)} {t : Tree α} (reads : Reads .disjunction ts t) :
    parse ts = some t := by
  obtain ⟨disjuncts, last, read, whole⟩ := reads.found []
  rw [parse, read, ← whole]
  rfl

theorem Reads.unique {ts : List (Token α)} {t u : Tree α} (first : Reads .disjunction ts t)
    (second : Reads .disjunction ts u) : t = u :=
  Option.some.inj (first.parse_eq.symm.trans second.parse_eq)

end SqlBuilder
