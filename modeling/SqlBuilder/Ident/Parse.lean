import SqlBuilder.Ident.Basic
import SqlBuilder.Text.Quoted

namespace SqlBuilder

inductive IdentFault
  | empty
  | containsNul
  | trailingDot
  | emptySegment
  | invalidCharacter (c : Char)
  | unclosedQuote
  | emptyQuotes
  | afterQuote (c : Char)
  | notQuotable
  deriving DecidableEq, Repr

structure IdentError where
  fault : IdentFault
  input : String
  deriving DecidableEq, Repr

def IdentError.message (e : IdentError) : String :=
  let shown := Text.quoted e.input
  match e.fault with
  | .empty => "identifier cannot be empty"
  | .containsNul => "identifier cannot contain NUL: " ++ shown
  | .trailingDot => "trailing '.' in " ++ shown
  | .emptySegment => "empty segment in " ++ shown
  | .invalidCharacter c => "invalid character '" ++ c.toString ++ "' in " ++ shown
  | .unclosedQuote => "unclosed quote in " ++ shown
  | .emptyQuotes => "empty quoted segment in " ++ shown
  | .afterQuote c => "unexpected '" ++ c.toString ++ "' after segment in " ++ shown
  | .notQuotable => "invalid quoted identifier " ++ shown

namespace Segment

def ofBare : List Char → Except IdentFault Segment
  | [] => .error .emptySegment
  | c :: cs =>
      if start : BareName.isStartChar c then
        match rest : cs.find? (!BareName.isRestChar ·) with
        | none => .ok (.bare ⟨c, cs, start, by simpa using rest⟩)
        | some d => .error (.invalidCharacter d)
      else .error (.invalidCharacter c)

/-- The text up to the closing quote, and what follows that quote. -/
def readQuoted : List Char → Option (List Char × List Char)
  | [] => none
  | '"' :: '"' :: rest => (readQuoted rest).map fun (body, after) => ('"' :: body, after)
  | '"' :: rest => some ([], rest)
  | c :: rest => (readQuoted rest).map fun (body, after) => (c :: body, after)

def read : List Char → Except IdentFault (Segment × List Char)
  | [] => .error .trailingDot
  | '"' :: rest =>
      match readQuoted rest with
      | none => .error .unclosedQuote
      | some ([], _) => .error .emptyQuotes
      | some (body, after) => .ok (.quoted (String.ofList body), after)
  | cs => (ofBare (cs.takeWhile (· ≠ '.'))).map fun s => (s, cs.dropWhile (· ≠ '.'))

theorem readQuoted_length {cs body after : List Char} (read : readQuoted cs = some (body, after)) :
    after.length < cs.length := by
  fun_induction readQuoted cs generalizing body with
  | case1 => simp at read
  | case2 rest ih =>
      obtain ⟨⟨b, a⟩, inner, pair⟩ := Option.map_eq_some_iff.mp read
      obtain ⟨rfl, rfl⟩ := Prod.mk.inj pair
      have := ih inner
      simp only [List.length_cons]
      omega
  | case3 rest _ =>
      obtain ⟨rfl, rfl⟩ := Prod.mk.inj (Option.some.inj read)
      simp
  | case4 c rest _ _ ih =>
      obtain ⟨⟨b, a⟩, inner, pair⟩ := Option.map_eq_some_iff.mp read
      obtain ⟨rfl, rfl⟩ := Prod.mk.inj pair
      have := ih inner
      simp only [List.length_cons]
      omega

theorem read_length {cs after : List Char} {s : Segment} (success : read cs = .ok (s, after)) :
    after.length ≤ cs.length := by
  unfold read at success
  split at success
  · simp at success
  · rename_i rest
    split at success
    · simp at success
    · simp at success
    · rename_i body after' _ quoted
      obtain ⟨_, rfl⟩ := Prod.mk.inj (Except.ok.inj success)
      have := readQuoted_length quoted
      simp only [List.length_cons]
      omega
  · cases bare : ofBare (List.takeWhile (· ≠ '.') cs) with
    | error fault => rw [bare] at success; simp [Except.map] at success
    | ok segment =>
        rw [bare] at success
        obtain ⟨_, rfl⟩ := Prod.mk.inj (Except.ok.inj success)
        exact (List.dropWhile_sublist _).length_le

end Segment

namespace Ident

def readPath (cs : List Char) : Except IdentFault Ident :=
  match _success : Segment.read cs with
  | .error fault => .error fault
  | .ok (s, []) => .ok ⟨[], s⟩
  | .ok (s, '.' :: rest) => (readPath rest).map (Ident.dot ⟨[], s⟩)
  | .ok (_, c :: _) => .error (.afterQuote c)
termination_by cs.length
decreasing_by
  have := Segment.read_length ‹_›
  simp only [List.length_cons] at this
  omega

def parse (input : String) : Except IdentError Ident :=
  if input.isEmpty then .error ⟨.empty, input⟩
  else if input.toList.contains '\x00' then .error ⟨.containsNul, input⟩
  else (readPath input.toList).mapError (⟨·, input⟩)

def quoted (name : String) : Except IdentError Ident :=
  if name.isEmpty || name.toList.contains '\x00' then .error ⟨.notQuotable, name⟩
  else .ok ⟨[], .quoted name⟩

example : (parse "public.\"Order \"\"Lines\"\"\".id").toOption.map (·.segments.map Segment.text) =
    some ["public", "Order \"Lines\"", "id"] := by decide +kernel

end Ident
end SqlBuilder
