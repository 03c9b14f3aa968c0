import SqlBuilder.Proofs.Identifiers.Reading
import SqlBuilder.Term.Render

namespace SqlBuilder

inductive Quote
  | name
  | text
  deriving DecidableEq

namespace Quote

def char : Quote → Char
  | .name => '"'
  | .text => '\''

def doubled (q : Quote) (cs : List Char) : List Char :=
  cs.flatMap fun c => if c = q.char then [c, c] else [c]

end Quote

structure Scan where
  quote : Option Quote
  depth : Nat
  deriving DecidableEq

namespace Scan

def next? : Scan → Char → Option Scan
  | ⟨some q, depth⟩, c => some ⟨if c = q.char then none else some q, depth⟩
  | ⟨none, depth⟩, '"' => some ⟨some .name, depth⟩
  | ⟨none, depth⟩, '\'' => some ⟨some .text, depth⟩
  | ⟨none, depth⟩, '(' => some ⟨none, depth + 1⟩
  | ⟨none, 0⟩, ')' => none
  | ⟨none, depth + 1⟩, ')' => some ⟨none, depth⟩
  | ⟨none, depth⟩, _ => some ⟨none, depth⟩

def run? (s : Scan) (cs : List Char) : Option Scan := cs.foldlM next? s

theorem run?_cons (s : Scan) (c : Char) (cs : List Char) :
    s.run? (c :: cs) = (s.next? c).bind (run? · cs) := rfl

theorem run?_append (s : Scan) (cs ds : List Char) :
    s.run? (cs ++ ds) = (s.run? cs).bind (run? · ds) :=
  List.foldlM_append

def isPlain (c : Char) : Bool := c != '"' && c != '\'' && c != '(' && c != ')'

theorem next?_of_isPlain {c : Char} (plain : isPlain c = true) (s : Scan) : s.next? c = some s := by
  simp only [isPlain, Bool.and_eq_true, bne_iff_ne] at plain
  obtain ⟨⟨⟨double, single⟩, opening⟩, closing⟩ := plain
  obtain ⟨quote, depth⟩ := s
  cases quote with
  | some q =>
      have other : c ≠ q.char := by cases q <;> assumption
      rw [next?, if_neg other]
  | none => cases depth <;> simp_all [next?]

theorem mark_of_not_isPlain {c : Char} (marked : ¬ isPlain c = true) :
    c = '"' ∨ c = '\'' ∨ c = '(' ∨ c = ')' := by
  grind [isPlain]

theorem isPlain_of_class {inClass : Char → Bool}
    (unmarked : ['"', '\'', '(', ')'].any inClass = false) {c : Char} (member : inClass c = true) :
    isPlain c = true := by
  by_cases plain : isPlain c = true
  · exact plain
  · have mark : c ∈ ['"', '\'', '(', ')'] := by simpa using mark_of_not_isPlain plain
    have found := List.any_eq_true.mpr ⟨c, mark, member⟩
    rw [unmarked] at found
    cases found

theorem run?_of_isPlain {cs : List Char} (plain : cs.all isPlain = true) (s : Scan) :
    s.run? cs = some s := by
  induction cs with
  | nil => rfl
  | cons c cs ih =>
      rw [List.all_cons, Bool.and_eq_true] at plain
      rw [run?_cons, next?_of_isPlain plain.1]
      exact ih plain.2

theorem next?_open (q : Quote) (depth : Nat) :
    next? ⟨none, depth⟩ q.char = some ⟨some q, depth⟩ := by
  cases q <;> rfl

theorem next?_close (q : Quote) (depth : Nat) :
    next? ⟨some q, depth⟩ q.char = some ⟨none, depth⟩ := by
  cases q <;> rfl

theorem next?_inside {q : Quote} {c : Char} (other : c ≠ q.char) (depth : Nat) :
    next? ⟨some q, depth⟩ c = some ⟨some q, depth⟩ := by
  simp [next?, other]

/-- The scan leaves the quotes at a doubled quote only to enter them again. -/
theorem run?_doubled (q : Quote) (cs : List Char) (depth : Nat) :
    run? ⟨some q, depth⟩ (q.doubled cs) = some ⟨some q, depth⟩ := by
  induction cs with
  | nil => rfl
  | cons c cs ih =>
      rw [Quote.doubled, List.flatMap_cons, ← Quote.doubled, run?_append]
      by_cases same : c = q.char
      · rw [if_pos same, same, run?_cons, next?_close, Option.bind_some, run?_cons, next?_open]
        exact ih
      · rw [if_neg same, run?_cons, next?_inside same]
        exact ih

def deepen (n : Nat) (s : Scan) : Scan := ⟨s.quote, s.depth + n⟩

theorem next?_deepen (n : Nat) {s t : Scan} {c : Char} (step : s.next? c = some t) :
    (s.deepen n).next? c = some (t.deepen n) := by
  by_cases plain : isPlain c = true
  · rw [next?_of_isPlain plain] at step ⊢
    obtain rfl := Option.some.inj step
    rfl
  · obtain ⟨quote, depth⟩ := s
    cases quote with
    | some q =>
        obtain rfl := Option.some.inj step
        rfl
    | none =>
        rcases mark_of_not_isPlain plain with rfl | rfl | rfl | rfl
        · obtain rfl := Option.some.inj step
          rfl
        · obtain rfl := Option.some.inj step
          rfl
        · obtain rfl := Option.some.inj step
          simp [next?, deepen, Nat.add_right_comm]
        · cases depth with
          | zero => cases step
          | succ depth =>
              obtain rfl := Option.some.inj step
              simp [next?, deepen, Nat.add_right_comm]

theorem run?_deepen (n : Nat) {s t : Scan} {cs : List Char} (read : s.run? cs = some t) :
    (s.deepen n).run? cs = some (t.deepen n) := by
  induction cs generalizing s with
  | nil =>
      obtain rfl := Option.some.inj read
      rfl
  | cons c cs ih =>
      rw [run?_cons] at read
      obtain ⟨u, step, rest⟩ := Option.bind_eq_some_iff.mp read
      rw [run?_cons, next?_deepen n step]
      exact ih rest

end Scan

def Closed (text : String) : Prop := Scan.run? ⟨none, 0⟩ text.toList = some ⟨none, 0⟩

instance (text : String) : Decidable (Closed text) :=
  inferInstanceAs (Decidable (Scan.run? _ _ = _))

def Balanced (cs : List Char) : Prop := ∀ depth, Scan.run? ⟨none, depth⟩ cs = some ⟨none, depth⟩

theorem closed_iff_balanced (text : String) : Closed text ↔ Balanced text.toList := by
  constructor
  · intro closed depth
    simpa [Scan.deepen] using Scan.run?_deepen depth closed
  · intro balanced
    exact balanced 0

namespace Balanced

theorem append {cs ds : List Char} (first : Balanced cs) (second : Balanced ds) :
    Balanced (cs ++ ds) := by
  intro depth
  rw [Scan.run?_append, first depth]
  exact second depth

theorem parenthesized {cs : List Char} (inner : Balanced cs) : Balanced ('(' :: cs ++ [')']) := by
  intro depth
  rw [Scan.run?_append]
  show ((Scan.run? ⟨none, depth + 1⟩ cs).bind (Scan.run? · [')'])) = _
  rw [inner (depth + 1)]
  rfl

end Balanced

theorem Quote.balanced_quoted (q : Quote) (cs : List Char) :
    Balanced (q.char :: q.doubled cs ++ [q.char]) := by
  intro depth
  rw [List.cons_append, Scan.run?_cons, Scan.next?_open, Option.bind_some, Scan.run?_append,
    Scan.run?_doubled, Option.bind_some, Scan.run?_cons, Scan.next?_close]
  rfl

namespace Closed

theorem of_isPlain {text : String} (plain : text.toList.all Scan.isPlain = true) : Closed text :=
  Scan.run?_of_isPlain plain _

theorem append {s t : String} (first : Closed s) (second : Closed t) : Closed (s ++ t) := by
  rw [closed_iff_balanced, String.toList_append]
  exact ((closed_iff_balanced s).mp first).append ((closed_iff_balanced t).mp second)

end Closed

theorem Scan.isPlain_repr (n : Nat) : n.repr.toList.all isPlain = true := by
  rw [List.all_eq_true]
  intro c member
  exact isPlain_of_class rfl (isDigit_of_mem_repr member)

theorem Scan.isPlain_placeholder (n : Nat) : (placeholder n).toList.all isPlain = true := by
  rw [placeholder, String.toList_append, List.all_append, isPlain_repr]
  rfl

theorem closed_stringConstant (text : String) : Closed (stringConstant text) := by
  have chars : (stringConstant text).toList =
      Quote.text.char :: Quote.text.doubled text.toList ++ [Quote.text.char] := by
    simp only [stringConstant, String.toList_append, String.toList_ofList]
    rfl
  rw [closed_iff_balanced, chars]
  exact Quote.text.balanced_quoted text.toList

theorem BareName.closed_text (name : BareName) : Closed name.text := by
  apply Closed.of_isPlain
  rw [text, String.toList_ofList, chars, List.all_cons, Bool.and_eq_true, List.all_eq_true]
  constructor
  · exact Scan.isPlain_of_class rfl name.isStart
  · intro c member
    exact Scan.isPlain_of_class rfl (name.isRest c member)

theorem Quote.doubled_name (cs : List Char) : Quote.name.doubled cs = Segment.doubleQuotes cs := by
  unfold Quote.doubled Segment.doubleQuotes
  congr 1
  funext c
  by_cases quote : c = '"'
  · subst quote
    rfl
  · rw [if_neg quote]
    exact if_neg quote

theorem Segment.closed_sql (s : Segment) : Closed s.sql := by
  cases s with
  | bare name => exact name.closed_text
  | quoted name =>
      rw [closed_iff_balanced, toList_sql_quoted, ← Quote.doubled_name]
      exact Quote.name.balanced_quoted name.toList

end SqlBuilder
