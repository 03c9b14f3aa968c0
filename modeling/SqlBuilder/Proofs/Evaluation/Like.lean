import Mathlib.Data.List.Infix

namespace SqlBuilder

/-- The characters of an occurrence that was replaced already are skipped. There are no occurrences
of the empty text. -/
def replaceFrom (sought new : List Char) : (skipped : Nat) → List Char → List Char
  | _, [] => []
  | skipped + 1, _ :: cs => replaceFrom sought new skipped cs
  | 0, c :: cs =>
      if !sought.isEmpty && sought.isPrefixOf (c :: cs) then
        new ++ replaceFrom sought new (sought.length - 1) cs
      else c :: replaceFrom sought new 0 cs

def replaceAll (sought new text : List Char) : List Char := replaceFrom sought new 0 text

theorem replaceAll_singleton (mark : Char) (new text : List Char) :
    replaceAll [mark] new text = text.flatMap fun c => if c = mark then new else [c] := by
  unfold replaceAll
  induction text with
  | nil => rfl
  | cons c cs ih =>
      by_cases found : c = mark
      · simp [replaceFrom, found, ih]
      · have other : mark ≠ c := fun equal => found equal.symm
        simp [replaceFrom, found, other, ih]

example : replaceAll ['a', 'a'] ['b'] ['a', 'a', 'a', 'c', 'a', 'a'] = ['b', 'a', 'c', 'b'] := by
  decide

namespace Like

inductive Mark
  | anySequence
  | anyCharacter
  | exactly (c : Char)
  deriving DecidableEq

def read : List Char → Option (List Mark)
  | [] => some []
  | ['!'] => none
  | '!' :: c :: cs => (read cs).map (.exactly c :: ·)
  | '%' :: cs => (read cs).map (.anySequence :: ·)
  | '_' :: cs => (read cs).map (.anyCharacter :: ·)
  | c :: cs => (read cs).map (.exactly c :: ·)

def accepts : List Mark → List Char → Bool
  | [], text => text.isEmpty
  | .anySequence :: marks, text => text.tails.any (accepts marks)
  | .anyCharacter :: marks, text =>
      match text with
      | [] => false
      | _ :: text => accepts marks text
  | .exactly c :: marks, text =>
      match text with
      | [] => false
      | d :: text => c = d && accepts marks text

theorem accepts_nil_iff (text : List Char) : accepts [] text = true ↔ text = [] :=
  List.isEmpty_iff

theorem accepts_anySequence_iff (marks : List Mark) (text : List Char) :
    accepts (.anySequence :: marks) text = true ↔
      ∃ suffix, suffix <:+ text ∧ accepts marks suffix = true := by
  simp [accepts]

theorem accepts_exactly_iff (c : Char) (marks : List Mark) (text : List Char) :
    accepts (.exactly c :: marks) text = true ↔
      ∃ rest, text = c :: rest ∧ accepts marks rest = true := by
  cases text with
  | nil => simp [accepts]
  | cons d text =>
      rw [accepts, Bool.and_eq_true, decide_eq_true_iff]
      constructor
      · rintro ⟨rfl, accepted⟩
        exact ⟨text, rfl, accepted⟩
      · rintro ⟨rest, equal, accepted⟩
        cases equal
        exact ⟨rfl, accepted⟩

theorem accepts_exactly_append_iff (sought : List Char) (marks : List Mark) (text : List Char) :
    accepts (sought.map .exactly ++ marks) text = true ↔
      ∃ rest, text = sought ++ rest ∧ accepts marks rest = true := by
  induction sought generalizing text with
  | nil => simp
  | cons c sought ih =>
      rw [List.map_cons, List.cons_append, accepts_exactly_iff]
      constructor
      · rintro ⟨rest, rfl, accepted⟩
        obtain ⟨tail, rfl, remaining⟩ := (ih rest).mp accepted
        exact ⟨tail, rfl, remaining⟩
      · rintro ⟨tail, rfl, accepted⟩
        have inner := (ih (sought ++ tail)).mpr ⟨tail, rfl, accepted⟩
        exact ⟨sought ++ tail, rfl, inner⟩

theorem accepts_anything (text : List Char) : accepts [.anySequence] text = true := by
  rw [accepts_anySequence_iff]
  exact ⟨[], List.nil_suffix, rfl⟩

def isSpecial (c : Char) : Bool := c = '!' || c = '%' || c = '_'

def escaped (text : List Char) : List Char :=
  text.flatMap fun c => if isSpecial c then ['!', c] else [c]

theorem replaceAll_marks (text : List Char) :
    replaceAll ['_'] ['!', '_'] (replaceAll ['%'] ['!', '%'] (replaceAll ['!'] ['!', '!'] text)) =
      escaped text := by
  rw [replaceAll_singleton, replaceAll_singleton, replaceAll_singleton, escaped, List.flatMap_assoc,
    List.flatMap_assoc]
  apply List.flatMap_congr
  intro c _
  unfold isSpecial
  by_cases escape : c = '!'
  · subst escape
    decide
  · by_cases sequence : c = '%'
    · subst sequence
      decide
    · by_cases single : c = '_'
      · subst single
        decide
      · simp [escape, sequence, single]

theorem read_escape (c : Char) (cs : List Char) :
    read ('!' :: c :: cs) = (read cs).map (.exactly c :: ·) := by
  rw [read]

theorem read_plain {c : Char} (plain : isSpecial c = false) (cs : List Char) :
    read (c :: cs) = (read cs).map (.exactly c :: ·) := by
  simp only [isSpecial, Bool.or_eq_false_iff, decide_eq_false_iff_not] at plain
  obtain ⟨⟨escape, sequence⟩, single⟩ := plain
  rw [read]
  all_goals simp_all

theorem read_escaped (text rest : List Char) :
    read (escaped text ++ rest) = (read rest).map (text.map .exactly ++ ·) := by
  induction text with
  | nil => simp [escaped]
  | cons c text ih =>
      have unfolded : escaped (c :: text) ++ rest =
          (if isSpecial c then ['!', c] else [c]) ++ (escaped text ++ rest) := by
        simp [escaped]
      rw [unfolded]
      cases special : isSpecial c with
      | true =>
          rw [if_pos rfl, List.cons_append, List.singleton_append, read_escape, ih]
          simp [Function.comp_def]
      | false =>
          rw [if_neg Bool.false_ne_true, List.singleton_append, read_plain special, ih]
          simp [Function.comp_def]

theorem map_escaped {fold : Char → Char}
    (fixed : ∀ m, isSpecial m = true → ∀ c, fold c = m ↔ c = m) (text : List Char) :
    (escaped text).map fold = escaped (text.map fold) := by
  unfold escaped
  rw [List.map_flatMap, List.flatMap_map]
  apply List.flatMap_congr
  intro c _
  have escape : fold '!' = '!' := (fixed '!' rfl '!').mpr rfl
  by_cases special : isSpecial c = true
  · have same : fold c = c := (fixed c special c).mpr rfl
    simp [special, same, escape]
  · have plain : ¬ isSpecial (fold c) = true := by
      intro image
      have equal : c = fold c := (fixed (fold c) image c).mp rfl
      rw [← equal] at image
      exact special image
    simp [special, plain]

end Like
end SqlBuilder
