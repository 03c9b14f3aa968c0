import SqlBuilder.Expr.Column
import SqlBuilder.Query

namespace SqlBuilder

inductive CommentMark
  | opening
  | closing

namespace CommentMark

def chars : CommentMark → List Char
  | .opening => ['/', '*']
  | .closing => ['*', '/']

def OccursIn (m : CommentMark) (text : String) : Prop := m.chars <:+: text.toList

instance (m : CommentMark) (text : String) : Decidable (m.OccursIn text) :=
  inferInstanceAs (Decidable (m.chars <:+: text.toList))

def isInert (c : Char) : Bool := c != '/' && c != '*'

end CommentMark

def ClosedComment (text : String) : Prop :=
  ∃ body : String, text = "/*" ++ body ++ "*/" ∧ ∀ m : CommentMark, ¬ m.OccursIn body

namespace CommentMark

variable (m : CommentMark)

theorem eq_slash_or_star {c : Char} (active : isInert c = false) : c = '/' ∨ c = '*' := by
  unfold isInert at active
  rw [Bool.and_eq_false_iff] at active
  simpa using active

theorem infix_cons_cons_iff (c d : Char) (cs : List Char) :
    m.chars <:+: c :: d :: cs ↔ m.chars = [c, d] ∨ m.chars <:+: d :: cs := by
  cases m <;>
    simp only [chars, List.infix_cons_iff (a := c), List.cons_prefix_cons, List.nil_prefix,
      and_true, List.cons.injEq]

theorem not_infix_singleton (c : Char) : ¬ m.chars <:+: [c] := by
  intro inside
  have short := inside.length_le
  cases m <;> simp [chars] at short

theorem chars_ne {c d : Char} (inert : isInert c = true ∨ isInert d = true) : m.chars ≠ [c, d] := by
  intro same
  cases m <;>
  · obtain ⟨rfl, rfl⟩ : _ = c ∧ _ = d := by simpa [chars] using same
    revert inert
    decide

section
variable {c : Char} (inert : isInert c = true)
include inert

theorem infix_inert_cons_iff (cs : List Char) : m.chars <:+: c :: cs ↔ m.chars <:+: cs := by
  cases cs with
  | nil =>
      refine iff_of_false (m.not_infix_singleton c) fun inside => ?_
      exact m.not_infix_singleton c (inside.trans List.nil_infix)
  | cons d cs => rw [infix_cons_cons_iff, or_iff_right (m.chars_ne (.inl inert))]

theorem infix_cons_inert_iff (b : Char) (cs : List Char) :
    m.chars <:+: b :: c :: cs ↔ m.chars <:+: c :: cs := by
  rw [infix_cons_cons_iff, or_iff_right (m.chars_ne (.inr inert))]

theorem infix_append_inert_iff (cs : List Char) : m.chars <:+: cs ++ [c] ↔ m.chars <:+: cs := by
  induction cs with
  | nil => exact m.infix_inert_cons_iff inert []
  | cons b cs ih =>
      cases cs with
      | nil =>
          refine iff_of_false ?_ (m.not_infix_singleton b)
          rw [List.singleton_append, m.infix_cons_inert_iff inert]
          exact m.not_infix_singleton c
      | cons d cs =>
          rw [List.cons_append, List.cons_append, infix_cons_cons_iff, infix_cons_cons_iff,
            ← List.cons_append, ih]

end

theorem infix_inert_append_iff {lead : List Char} (inert : lead.all isInert = true)
    (cs : List Char) : m.chars <:+: lead ++ cs ↔ m.chars <:+: cs := by
  induction lead with
  | nil => rfl
  | cons c lead ih =>
      obtain ⟨first, rest⟩ : isInert c = true ∧ lead.all isInert = true := by simpa using inert
      rw [List.cons_append, m.infix_inert_cons_iff first, ih rest]

end CommentMark

namespace Text

open CommentMark

theorem digitChar_isInert {n : Nat} (digit : n < 16) : isInert n.digitChar = true := by
  have digits : ∀ n < 16, isInert (Nat.digitChar n) = true := by decide
  exact digits n digit

theorem toDigits_isInert (n : Nat) : (Nat.toDigits 16 n).all isInert = true := by
  induction n using Nat.strongRecOn with
  | ind n ih =>
      rw [Nat.toDigits_eq_if (by omega)]
      split
      · rename_i digit
        simp [digitChar_isInert digit]
      · have last : n % 16 < 16 := Nat.mod_lt _ (by omega)
        have fewer : n / 16 < n := Nat.div_lt_self (by omega) (by omega)
        rw [List.all_append, ih _ fewer]
        simp [digitChar_isInert last]

theorem toList_escapedChar_of_active {c : Char} (active : isInert c = false) :
    (escapedChar c).toList = [c] := by
  rcases eq_slash_or_star active with rfl | rfl
  · decide +kernel
  · decide +kernel

theorem toList_codeEscape (c : Char) :
    (codeEscape c).toList = ['\\', 'u', '\x7b'] ++ Nat.toDigits 16 c.toNat ++ ['\x7d'] := by
  simp [codeEscape]

theorem escapedChar_of_inert {c : Char} (inert : isInert c = true) :
    ∃ d ds, (escapedChar c).toList = d :: ds ∧ isInert d = true ∧ ds.all isInert = true := by
  unfold escapedChar
  split
  · exact ⟨_, _, rfl, rfl, rfl⟩
  · exact ⟨_, _, rfl, rfl, rfl⟩
  · exact ⟨_, _, rfl, rfl, rfl⟩
  · exact ⟨_, _, rfl, rfl, rfl⟩
  · exact ⟨_, _, rfl, rfl, rfl⟩
  · exact ⟨_, _, rfl, rfl, rfl⟩
  · split
    · refine ⟨_, _, toList_codeEscape c, rfl, ?_⟩
      simp [toDigits_isInert, show isInert 'u' = true from rfl, show isInert '\x7b' = true from rfl,
        show isInert '\x7d' = true from rfl]
    · exact ⟨c, [], by simp, inert, rfl⟩

def escapedChars (cs : List Char) : List Char := cs.flatMap fun c => (escapedChar c).toList

theorem escapedChars_cons (c : Char) (cs : List Char) :
    escapedChars (c :: cs) = (escapedChar c).toList ++ escapedChars cs := rfl

theorem toList_quoted (text : String) :
    (quoted text).toList = '"' :: (escapedChars text.toList ++ ['"']) := by
  have inner (cs : List Char) : (String.join (cs.map escapedChar)).toList = escapedChars cs := by
    induction cs with
    | nil => rfl
    | cons c cs ih => simp [escapedChars_cons, ← ih]
  simp [quoted, inner]

end Text

namespace CommentMark

open Text

variable (m : CommentMark)

theorem infix_escapedChars_iff (cs : List Char) :
    m.chars <:+: escapedChars cs ↔ m.chars <:+: cs := by
  induction cs with
  | nil => rfl
  | cons c cs ih =>
      rw [escapedChars_cons]
      cases first : isInert c with
      | true =>
          obtain ⟨d, ds, shown, inert, rest⟩ := escapedChar_of_inert first
          rw [shown, List.cons_append, m.infix_inert_cons_iff inert, m.infix_inert_append_iff rest,
            ih, m.infix_inert_cons_iff first]
      | false =>
          rw [toList_escapedChar_of_active first, List.singleton_append]
          cases cs with
          | nil => rfl
          | cons d cs =>
              -- A mark that starts here ends with the next character, which is shown as it is
              -- unless it is inert.
              cases second : isInert d with
              | true =>
                  obtain ⟨e, es, shown, inert, -⟩ := escapedChar_of_inert second
                  rw [m.infix_cons_inert_iff second, ← ih, escapedChars_cons, shown,
                    List.cons_append, m.infix_cons_inert_iff inert]
              | false =>
                  rw [escapedChars_cons, toList_escapedChar_of_active second,
                    List.singleton_append] at ih ⊢
                  rw [infix_cons_cons_iff, infix_cons_cons_iff, ih]

theorem occursIn_lead_iff {lead : String} (inert : lead.toList.all isInert = true) (text : String) :
    m.OccursIn (lead ++ text) ↔ m.OccursIn text := by
  unfold OccursIn
  rw [String.toList_append, m.infix_inert_append_iff inert]

theorem occursIn_quoted_iff (text : String) : m.OccursIn (quoted text) ↔ m.OccursIn text := by
  unfold OccursIn
  rw [toList_quoted, m.infix_inert_cons_iff rfl, m.infix_append_inert_iff rfl,
    infix_escapedChars_iff]

theorem occursIn_named_iff {lead tail : String} (before : lead.toList.all isInert = true)
    (after : tail.toList.all isInert = true) (written : tail.toList ≠ []) (c : Char)
    (text : String) :
    m.OccursIn (lead ++ c.toString ++ tail ++ text) ↔ m.OccursIn text := by
  obtain ⟨d, ds, chars⟩ := List.exists_cons_of_ne_nil written
  have inert : isInert d = true := by
    rw [chars, List.all_cons, Bool.and_eq_true] at after
    exact after.1
  have named : (lead ++ c.toString ++ tail ++ text).toList =
      lead.toList ++ c :: d :: (ds ++ text.toList) := by
    simp [chars]
  unfold OccursIn
  rw [named, m.infix_inert_append_iff before, m.infix_cons_inert_iff inert, ← List.cons_append,
    ← chars, m.infix_inert_append_iff after]

end CommentMark

namespace Segment

theorem fault_of_ofBare {cs : List Char} {fault : IdentFault} (refused : ofBare cs = .error fault) :
    fault ≠ .empty := by
  unfold ofBare at refused
  split at refused
  · obtain rfl := Except.error.inj refused
    simp
  · split at refused
    · split at refused
      · cases refused
      · obtain rfl := Except.error.inj refused
        simp
    · obtain rfl := Except.error.inj refused
      simp

theorem fault_of_read {cs : List Char} {fault : IdentFault} (refused : read cs = .error fault) :
    fault ≠ .empty := by
  unfold read at refused
  split at refused
  · obtain rfl := Except.error.inj refused
    simp
  · split at refused
    · obtain rfl := Except.error.inj refused
      simp
    · obtain rfl := Except.error.inj refused
      simp
    · cases refused
  · cases bare : ofBare (List.takeWhile (· ≠ '.') cs) with
    | ok segment =>
        rw [bare] at refused
        cases refused
    | error inner =>
        rw [bare] at refused
        obtain rfl := Except.error.inj refused
        exact fault_of_ofBare bare

end Segment

namespace Ident

theorem fault_of_readPath {cs : List Char} {fault : IdentFault}
    (refused : readPath cs = .error fault) : fault ≠ .empty := by
  fun_induction readPath cs with
  | case1 cs inner first =>
      obtain rfl := Except.error.inj refused
      exact Segment.fault_of_read first
  | case2 => cases refused
  | case3 cs s rest first ih =>
      cases path : readPath rest with
      | ok i =>
          rw [path] at refused
          cases refused
      | error inner =>
          rw [path] at refused
          obtain rfl := Except.error.inj refused
          exact ih path
  | case4 =>
      obtain rfl := Except.error.inj refused
      simp

theorem error_of_parse {name : String} {e : IdentError} (rejected : parse name = .error e) :
    e.input = name ∧ (e.fault = .empty → name = "") := by
  unfold parse at rejected
  split at rejected
  · rename_i empty
    obtain rfl := Except.error.inj rejected
    exact ⟨rfl, fun _ => by simpa using empty⟩
  · split at rejected
    · obtain rfl := Except.error.inj rejected
      exact ⟨rfl, fun absent => by cases absent⟩
    · cases path : readPath name.toList with
      | ok i =>
          rw [path] at rejected
          cases rejected
      | error fault =>
          rw [path] at rejected
          obtain rfl := Except.error.inj rejected
          exact ⟨rfl, fun absent => absurd absent (fault_of_readPath path)⟩

end Ident

namespace IdentError

open CommentMark

theorem occursIn_message_iff (m : CommentMark) {e : IdentError} (shown : e.fault ≠ .empty) :
    m.OccursIn e.message ↔ m.OccursIn e.input := by
  obtain ⟨fault, input⟩ := e
  cases fault with
  | empty => exact absurd rfl shown
  | invalidCharacter c =>
      exact (m.occursIn_named_iff rfl rfl (by decide) c _).trans (m.occursIn_quoted_iff input)
  | afterQuote c =>
      exact (m.occursIn_named_iff rfl rfl (by decide) c _).trans (m.occursIn_quoted_iff input)
  | _ => exact (m.occursIn_lead_iff rfl _).trans (m.occursIn_quoted_iff input)

def commentBody (e : IdentError) : String :=
  " invalid: " ++ ("Invalid identifier: " ++ e.message) ++ " "

theorem occursIn_commentBody_iff (m : CommentMark) {name : String} {e : IdentError}
    (rejected : Ident.parse name = .error e) : m.OccursIn e.commentBody ↔ m.OccursIn name := by
  obtain ⟨rfl, unnamed⟩ := Ident.error_of_parse rejected
  have message : m.OccursIn e.commentBody ↔ m.OccursIn e.message := by
    have blank : " ".toList = [' '] := rfl
    rw [OccursIn, commentBody, String.toList_append, blank, m.infix_append_inert_iff rfl]
    rw [← OccursIn, m.occursIn_lead_iff, m.occursIn_lead_iff]
    · decide
    · decide
  rw [message]
  by_cases empty : e.fault = .empty
  · have constant : e.message = "identifier cannot be empty" ++ "" := by
      rw [IdentError.message, empty, String.append_empty]
    rw [constant, unnamed empty]
    exact m.occursIn_lead_iff (by decide) ""
  · exact occursIn_message_iff m empty

end IdentError

namespace Expr

theorem toSql_rejected (e : IdentError) :
    (Expr.rejected (.identifier e)).toSql = "/*" ++ e.commentBody ++ "*/" := by
  have text : (Expr.rejected (.identifier e)).toSql =
      "/* invalid: " ++ ("Invalid identifier: " ++ e.message) ++ " */" := by
    rw [toSql, Expr.write_eq]
    exact String.empty_append
  have opened : "/* invalid: " = "/*" ++ " invalid: " := by decide
  have closed : " */" = " " ++ "*/" := by decide
  rw [text, IdentError.commentBody, opened, closed]
  simp only [String.append_assoc]

variable {name : String} {e : IdentError} (rejected : Ident.parse name = .error e)
include rejected

theorem field_of_rejected : field name = .rejected (.identifier e) := by
  rw [field, rejected]
  rfl

theorem field_of_rejected_inTable (t : Table) : t.field name = .rejected (.identifier e) := by
  rw [Table.field, rejected]
  rfl

theorem closedComment_field_iff :
    ClosedComment (field name).toSql ↔ ∀ m : CommentMark, ¬ m.OccursIn name := by
  rw [field_of_rejected rejected, toSql_rejected]
  constructor
  · rintro ⟨body, same, apart⟩ m
    have inside : e.commentBody = body := by
      simpa [← String.toList_inj] using same
    rw [← IdentError.occursIn_commentBody_iff m rejected, inside]
    exact apart m
  · intro apart
    refine ⟨e.commentBody, rfl, fun m => ?_⟩
    rw [IdentError.occursIn_commentBody_iff m rejected]
    exact apart m

omit rejected

theorem exists_error {name : String} (rejected : (Ident.parse name).toOption = none) :
    ∃ e, Ident.parse name = .error e := by
  cases read : Ident.parse name with
  | error e => exact ⟨e, rfl⟩
  | ok path =>
      rw [read] at rejected
      cases rejected

/-- The text for a rejected name is a comment with the comment marks of the name, so that it is a
single comment just when the name has none. -/
theorem toSql_field_of_rejected {name : String} (rejected : (Ident.parse name).toOption = none)
    (t : Table) :
    (∃ body : String, (field name).toSql = "/*" ++ body ++ "*/" ∧
      ∀ m : CommentMark, m.OccursIn body ↔ m.OccursIn name) ∧
    (t.field name).toSql = (field name).toSql ∧
    (ClosedComment (field name).toSql ↔ ∀ m : CommentMark, ¬ m.OccursIn name) := by
  obtain ⟨e, refused⟩ := exists_error rejected
  refine ⟨⟨e.commentBody, ?_, fun m => IdentError.occursIn_commentBody_iff m refused⟩, ?_,
    closedComment_field_iff refused⟩
  · rw [field_of_rejected refused, toSql_rejected]
  · rw [field_of_rejected refused, field_of_rejected_inTable refused]

theorem toSql_field_of_rejected_digit : ClosedComment (field "1a").toSql := by
  have rejected : (Ident.parse "1a").toOption = none := by decide +kernel
  obtain ⟨-, -, closed⟩ := toSql_field_of_rejected rejected ⟨.bare .excluded⟩
  refine closed.mpr fun m => ?_
  cases m <;> decide +kernel

theorem toSql_field_closesEarly :
    ¬ ∀ name : String, (Ident.parse name).toOption = none → ClosedComment (field name).toSql := by
  intro closed
  have rejected : (Ident.parse "a*/b").toOption = none := by decide +kernel
  obtain ⟨e, refused⟩ := exists_error rejected
  have apart := (closedComment_field_iff refused).mp (closed "a*/b" rejected)
  exact apart .closing (by decide +kernel)

end Expr
end SqlBuilder
