import SqlBuilder.Ident.Parse

namespace SqlBuilder

def IsLetter (c : Char) : Prop := 'A' ≤ c ∧ c ≤ 'Z' ∨ 'a' ≤ c ∧ c ≤ 'z'

def IsDigit (c : Char) : Prop := '0' ≤ c ∧ c ≤ '9'

inductive QuotesPaired : List Char → Prop
  | nil : QuotesPaired []
  | pair {cs : List Char} (paired : QuotesPaired cs) : QuotesPaired ('"' :: '"' :: cs)
  | other {c : Char} {cs : List Char} (single : c ≠ '"') (paired : QuotesPaired cs) :
      QuotesPaired (c :: cs)

inductive SegmentText : List Char → Prop
  | bare {c : Char} {cs : List Char} (start : IsLetter c ∨ c = '_')
      (rest : ∀ d ∈ cs, IsLetter d ∨ IsDigit d ∨ d = '_' ∨ d = '$') : SegmentText (c :: cs)
  | quoted {body : List Char} (written : body ≠ []) (paired : QuotesPaired body) :
      SegmentText ('"' :: body ++ ['"'])

inductive PathText : List Char → Prop
  | single {segment : List Char} (text : SegmentText segment) : PathText segment
  | dotted {segment path : List Char} (first : SegmentText segment) (rest : PathText path) :
      PathText (segment ++ '.' :: path)

namespace BareName

theorem isAlpha_iff (c : Char) : c.isAlpha = true ↔ IsLetter c := by
  change (decide ('A' ≤ c ∧ c ≤ 'Z') || (decide ('a' ≤ c) && decide (c ≤ 'z'))) = true ↔ _
  simp only [IsLetter, Bool.or_eq_true, Bool.and_eq_true, decide_eq_true_eq]

theorem isDigit_iff (c : Char) : c.isDigit = true ↔ IsDigit c := by
  change (decide ('0' ≤ c) && decide (c ≤ '9')) = true ↔ _
  simp only [IsDigit, Bool.and_eq_true, decide_eq_true_eq]

theorem isStartChar_iff (c : Char) : isStartChar c = true ↔ IsLetter c ∨ c = '_' := by
  rw [isStartChar, Bool.or_eq_true, isAlpha_iff, decide_eq_true_iff, or_comm]

theorem isRestChar_iff (c : Char) :
    isRestChar c = true ↔ IsLetter c ∨ IsDigit c ∨ c = '_' ∨ c = '$' := by
  change ((decide (c = '_') || decide (c = '$')) || (c.isAlpha || c.isDigit)) = true ↔ _
  rw [Bool.or_eq_true, Bool.or_eq_true, Bool.or_eq_true, isAlpha_iff, isDigit_iff,
    decide_eq_true_iff, decide_eq_true_iff, or_comm, or_assoc]

theorem ne_dot_of_mem {name : BareName} {c : Char} (member : c ∈ name.chars) : c ≠ '.' := by
  rintro rfl
  rcases List.mem_cons.mp member with head | tail
  · have start := name.isStart
    rw [← head] at start
    exact absurd start (by decide)
  · exact absurd (name.isRest _ tail) (by decide)

end BareName

namespace Segment

def Legible : Segment → Prop
  | .bare _ => True
  | .quoted name => name ≠ ""

theorem toList_sql_bare (name : BareName) : (Segment.bare name).sql.toList = name.chars := by
  simp [sql, BareName.text]

theorem toList_sql_quoted (name : String) :
    (Segment.quoted name).sql.toList = '"' :: doubleQuotes name.toList ++ ['"'] := by
  simp [sql]

theorem doubleQuotes_ne_nil {cs : List Char} (written : cs ≠ []) : doubleQuotes cs ≠ [] := by
  cases cs with
  | nil => exact absurd rfl written
  | cons c cs =>
      rw [doubleQuotes_cons]
      split <;> simp

theorem quotesPaired_doubleQuotes (cs : List Char) : QuotesPaired (doubleQuotes cs) := by
  induction cs with
  | nil => exact .nil
  | cons c cs ih =>
      rw [doubleQuotes_cons]
      split
      · exact .pair ih
      · rename_i single
        exact .other single ih

theorem mem_doubleQuotes {c : Char} {cs : List Char} : c ∈ doubleQuotes cs ↔ c ∈ cs := by
  induction cs with
  | nil => rfl
  | cons d cs ih =>
      rw [doubleQuotes_cons, List.mem_append, List.mem_cons, ih]
      split
      · rename_i quote
        simp [quote]
      · rw [List.mem_singleton]

theorem exists_doubleQuotes {body : List Char} (paired : QuotesPaired body) :
    ∃ cs, doubleQuotes cs = body := by
  induction paired with
  | nil => exact ⟨[], rfl⟩
  | pair _ ih =>
      obtain ⟨cs, rfl⟩ := ih
      exact ⟨'"' :: cs, rfl⟩
  | @other c _ single _ ih =>
      obtain ⟨cs, rfl⟩ := ih
      exact ⟨c :: cs, by rw [doubleQuotes_cons, if_neg single, List.singleton_append]⟩

theorem segmentText_iff (cs : List Char) :
    SegmentText cs ↔ ∃ s : Segment, s.Legible ∧ s.sql.toList = cs := by
  constructor
  · rintro (⟨start, rest⟩ | ⟨written, paired⟩)
    · rename_i c cs
      let name : BareName := ⟨c, cs, (BareName.isStartChar_iff c).mpr start,
        fun d member => (BareName.isRestChar_iff d).mpr (rest d member)⟩
      exact ⟨.bare name, trivial, toList_sql_bare name⟩
    · obtain ⟨name, rfl⟩ := exists_doubleQuotes paired
      refine ⟨.quoted (String.ofList name), ?_, ?_⟩
      · intro empty
        rw [String.ofList_eq_empty_iff.mp empty] at written
        exact written rfl
      · rw [toList_sql_quoted, String.toList_ofList]
  · rintro ⟨s, legible, rfl⟩
    cases s with
    | bare name =>
        rw [toList_sql_bare]
        exact .bare ((BareName.isStartChar_iff _).mp name.isStart)
          fun d member => (BareName.isRestChar_iff d).mp (name.isRest d member)
    | quoted name =>
        rw [toList_sql_quoted]
        have written : name.toList ≠ [] := fun empty => legible (String.toList_eq_nil_iff.mp empty)
        exact .quoted (doubleQuotes_ne_nil written) (quotesPaired_doubleQuotes name.toList)

theorem readQuoted_doubleQuotes (cs : List Char) {rest : List Char}
    (stop : ∀ c, rest.head? = some c → c = '.') :
    readQuoted (doubleQuotes cs ++ '"' :: rest) = some (cs, rest) := by
  induction cs with
  | nil =>
      cases rest with
      | nil => rfl
      | cons c rest =>
          obtain rfl := stop c rfl
          rfl
  | cons c cs ih =>
      rw [doubleQuotes_cons]
      by_cases quote : c = '"'
      · rw [if_pos quote, quote]
        simp only [List.cons_append, List.nil_append, readQuoted, ih, Option.map_some]
      · rw [if_neg quote, List.singleton_append, List.cons_append, readQuoted, ih, Option.map_some]
        · simp [quote]
        · simp [quote]

theorem eq_doubleQuotes_of_readQuoted {cs body after : List Char}
    (success : readQuoted cs = some (body, after)) : cs = doubleQuotes body ++ '"' :: after := by
  fun_induction readQuoted cs generalizing body with
  | case1 => simp at success
  | case2 rest ih =>
      obtain ⟨⟨b, a⟩, inner, pair⟩ := Option.map_eq_some_iff.mp success
      obtain ⟨rfl, rfl⟩ := Prod.mk.inj pair
      rw [ih inner, doubleQuotes_cons, if_pos rfl]
      rfl
  | case3 rest _ =>
      obtain ⟨rfl, rfl⟩ := Prod.mk.inj (Option.some.inj success)
      rfl
  | case4 c rest _ single ih =>
      obtain ⟨⟨b, a⟩, inner, pair⟩ := Option.map_eq_some_iff.mp success
      obtain ⟨rfl, rfl⟩ := Prod.mk.inj pair
      rw [ih inner, doubleQuotes_cons, if_neg single]
      rfl

theorem ofBare_chars (name : BareName) : ofBare name.chars = .ok (.bare name) := by
  obtain ⟨head, tail, start, rest⟩ := name
  have none : tail.find? (!BareName.isRestChar ·) = none := by simpa using rest
  simp only [ofBare, BareName.chars]
  rw [dif_pos start]
  split
  · rfl
  · rename_i found
    exact absurd (none.symm.trans found) (by simp)

theorem chars_of_ofBare {cs : List Char} {s : Segment} (success : ofBare cs = .ok s) :
    ∃ name : BareName, s = .bare name ∧ name.chars = cs := by
  unfold ofBare at success
  split at success
  · simp at success
  · split at success
    · split at success
      · exact ⟨_, (Except.ok.inj success).symm, rfl⟩
      · simp at success
    · simp at success

theorem read_sql {s : Segment} (legible : s.Legible) (rest : List Char)
    (stop : ∀ c, rest.head? = some c → c = '.') :
    read (s.sql.toList ++ rest) = .ok (s, rest) := by
  cases s with
  | bare name =>
      have inside : ∀ c ∈ name.chars, (decide (c ≠ '.')) = true := by
        simpa using fun c => BareName.ne_dot_of_mem
      have taken : (name.chars ++ rest).takeWhile (· ≠ '.') = name.chars := by
        rw [List.takeWhile_append_of_pos inside]
        cases rest with
        | nil => simp
        | cons c rest => simp [stop c rfl]
      have left : (name.chars ++ rest).dropWhile (· ≠ '.') = rest := by
        rw [List.dropWhile_append_of_pos inside]
        cases rest with
        | nil => rfl
        | cons c rest => simp [stop c rfl]
      have unquoted : name.head ≠ '"' := by
        intro quote
        have start := name.isStart
        rw [quote] at start
        exact absurd start (by decide)
      rw [toList_sql_bare]
      unfold read
      split
      · rename_i empty
        simp [BareName.chars] at empty
      · rename_i quote
        exact absurd (List.cons_eq_cons.mp quote).1 unquoted
      · rw [taken, left, ofBare_chars]
        rfl
  | quoted name =>
      rw [toList_sql_quoted, List.cons_append, List.cons_append, List.append_assoc, read,
        List.singleton_append, readQuoted_doubleQuotes name.toList stop]
      cases chars : name.toList with
      | nil => exact absurd (String.toList_eq_nil_iff.mp chars) legible
      | cons c cs => simp [← chars]

theorem sql_of_read {cs rest : List Char} {s : Segment} (success : read cs = .ok (s, rest)) :
    s.Legible ∧ s.sql.toList ++ rest = cs := by
  unfold read at success
  split at success
  · simp at success
  · split at success
    · simp at success
    · simp at success
    · rename_i body after written inner
      obtain ⟨rfl, rfl⟩ := Prod.mk.inj (Except.ok.inj success)
      constructor
      · intro empty
        exact written (String.ofList_eq_empty_iff.mp empty)
      · rw [toList_sql_quoted, eq_doubleQuotes_of_readQuoted inner]
        simp
  · cases bare : ofBare (cs.takeWhile (· ≠ '.')) with
    | error fault => rw [bare] at success; simp [Except.map] at success
    | ok segment =>
        rw [bare] at success
        obtain ⟨rfl, rfl⟩ := Prod.mk.inj (Except.ok.inj success)
        obtain ⟨name, rfl, chars⟩ := chars_of_ofBare bare
        exact ⟨trivial, by rw [toList_sql_bare, chars, List.takeWhile_append_dropWhile]⟩

end Segment

namespace Ident

def Legible (i : Ident) : Prop := ∀ s ∈ i.segments, s.Legible

def Obtained (i : Ident) : Prop := (∃ s, parse s = .ok i) ∨ ∃ name, quoted name = .ok i

theorem legible_single (s : Segment) : Legible ⟨[], s⟩ ↔ s.Legible := by
  simp [Legible, segments]

theorem legible_dot (s : Segment) (i : Ident) :
    (dot ⟨[], s⟩ i).Legible ↔ s.Legible ∧ i.Legible := by
  rw [Legible, segments_dot]
  exact List.forall_mem_cons

theorem toList_sql_single (s : Segment) : (Ident.mk [] s).sql.toList = s.sql.toList := by
  simp [sql, segments]

theorem toList_sql_dot (s : Segment) (i : Ident) :
    (dot ⟨[], s⟩ i).sql.toList = s.sql.toList ++ '.' :: i.sql.toList := by
  obtain ⟨qualifiers, name⟩ := i
  cases qualifiers <;> simp [sql, dot, segments, String.intercalate_cons_cons]

theorem pathText_iff (cs : List Char) :
    PathText cs ↔ ∃ i : Ident, i.Legible ∧ i.sql.toList = cs := by
  constructor
  · intro text
    induction text with
    | single text =>
        obtain ⟨s, legible, rfl⟩ := (Segment.segmentText_iff _).mp text
        exact ⟨⟨[], s⟩, (legible_single s).mpr legible, toList_sql_single s⟩
    | dotted first _ ih =>
        obtain ⟨s, start, rfl⟩ := (Segment.segmentText_iff _).mp first
        obtain ⟨i, rest, rfl⟩ := ih
        exact ⟨dot ⟨[], s⟩ i, (legible_dot s i).mpr ⟨start, rest⟩, toList_sql_dot s i⟩
  · rintro ⟨⟨qualifiers, name⟩, legible, rfl⟩
    induction qualifiers with
    | nil =>
        rw [toList_sql_single]
        exact .single
          ((Segment.segmentText_iff _).mpr ⟨name, (legible_single name).mp legible, rfl⟩)
    | cons s qualifiers ih =>
        obtain ⟨start, rest⟩ := (legible_dot s ⟨qualifiers, name⟩).mp legible
        have text := toList_sql_dot s ⟨qualifiers, name⟩
        rw [show Ident.mk (s :: qualifiers) name = dot ⟨[], s⟩ ⟨qualifiers, name⟩ from rfl, text]
        exact .dotted ((Segment.segmentText_iff _).mpr ⟨s, start, rfl⟩) (ih rest)

theorem readPath_of_read_end {cs : List Char} {s : Segment}
    (first : Segment.read cs = .ok (s, [])) :
    readPath cs = .ok ⟨[], s⟩ := by
  rw [readPath]
  split <;> simp_all

theorem readPath_of_read_dot {cs rest : List Char} {s : Segment}
    (first : Segment.read cs = .ok (s, '.' :: rest)) :
    readPath cs = (readPath rest).map (dot ⟨[], s⟩) := by
  rw [readPath]
  split <;> simp_all

theorem readPath_sql {i : Ident} (legible : i.Legible) : readPath i.sql.toList = .ok i := by
  obtain ⟨qualifiers, name⟩ := i
  induction qualifiers with
  | nil =>
      have first := Segment.read_sql ((legible_single name).mp legible) [] (by simp)
      rw [List.append_nil] at first
      rw [toList_sql_single, readPath_of_read_end first]
  | cons s qualifiers ih =>
      obtain ⟨start, rest⟩ := (legible_dot s ⟨qualifiers, name⟩).mp legible
      have first := Segment.read_sql start ('.' :: (Ident.mk qualifiers name).sql.toList) (by simp)
      rw [show Ident.mk (s :: qualifiers) name = dot ⟨[], s⟩ ⟨qualifiers, name⟩ from rfl,
        toList_sql_dot, readPath_of_read_dot first, ih rest]
      rfl

theorem sql_of_readPath {cs : List Char} {i : Ident} (success : readPath cs = .ok i) :
    i.Legible ∧ i.sql.toList = cs := by
  fun_induction readPath cs generalizing i with
  | case1 => simp at success
  | case2 cs s first =>
      obtain rfl := Except.ok.inj success
      obtain ⟨legible, text⟩ := Segment.sql_of_read first
      exact ⟨(legible_single s).mpr legible, by rw [toList_sql_single, ← text, List.append_nil]⟩
  | case3 cs s rest first ih =>
      obtain ⟨start, text⟩ := Segment.sql_of_read first
      cases inner : readPath rest with
      | error fault => rw [inner] at success; simp [Except.map] at success
      | ok path =>
          rw [inner] at success
          obtain rfl := Except.ok.inj success
          obtain ⟨legible, after⟩ := ih inner
          exact ⟨(legible_dot s path).mpr ⟨start, legible⟩, by rw [toList_sql_dot, after, text]⟩
  | case4 => simp at success

theorem readPath_eq_ok_iff (cs : List Char) (i : Ident) :
    readPath cs = .ok i ↔ i.Legible ∧ i.sql.toList = cs := by
  constructor
  · exact sql_of_readPath
  · rintro ⟨legible, rfl⟩
    exact readPath_sql legible

theorem parse_eq_ok_iff (s : String) (i : Ident) :
    parse s = .ok i ↔ i.Legible ∧ i.sql = s ∧ '\x00' ∉ s.toList := by
  have path : readPath s.toList = .ok i ↔ i.Legible ∧ i.sql = s := by
    rw [readPath_eq_ok_iff, String.toList_inj]
  unfold parse
  split
  · rename_i empty
    -- Nothing is read from the empty text, so no path is written as it.
    have none : readPath s.toList ≠ .ok i := by
      rw [String.isEmpty_iff.mp empty]
      unfold readPath
      simp [Segment.read]
    simp [← and_assoc, ← path, none]
  · split
    · rename_i nul
      simp_all
    · rename_i nul
      have clean : '\x00' ∉ s.toList := by simpa using nul
      have found : i.Legible ∧ i.sql = s ∧ '\x00' ∉ s.toList ↔ readPath s.toList = .ok i := by
        simp [path, clean]
      rw [found]
      cases readPath s.toList with
      | error fault =>
          change Except.error _ = Except.ok i ↔ _
          simp
      | ok other =>
          change Except.ok other = Except.ok i ↔ _
          rw [Except.ok.injEq, Except.ok.injEq]

theorem quoted_eq_ok_iff (name : String) (i : Ident) :
    quoted name = .ok i ↔ i = ⟨[], .quoted name⟩ ∧ name ≠ "" ∧ '\x00' ∉ name.toList := by
  unfold quoted
  split
  · rename_i refused
    constructor
    · intro success
      simp at success
    · rintro ⟨-, written, clean⟩
      simp [written, clean] at refused
  · rename_i accepted
    have fit : name ≠ "" ∧ '\x00' ∉ name.toList := by simpa using accepted
    exact ⟨fun success => ⟨(Except.ok.inj success).symm, fit⟩, fun same => same.1 ▸ rfl⟩

theorem parse_sql_of_obtained {i : Ident} (obtained : i.Obtained) : parse i.sql = .ok i := by
  rcases obtained with ⟨s, read⟩ | ⟨name, made⟩
  · obtain ⟨-, rfl, -⟩ := (parse_eq_ok_iff s i).mp read
    exact read
  · obtain ⟨rfl, written, clean⟩ := (quoted_eq_ok_iff name i).mp made
    refine (parse_eq_ok_iff _ _).mpr ⟨(legible_single _).mpr written, rfl, ?_⟩
    rw [toList_sql_single, Segment.toList_sql_quoted]
    simp [Segment.mem_doubleQuotes, clean]

/-- The first part says which texts are read, the third that any name fit for quotes is taken. -/
theorem parse_inverse_sql :
    (∀ s, (∃ i, parse s = .ok i) ↔ '\x00' ∉ s.toList ∧ PathText s.toList) ∧
    (∀ s i, parse s = .ok i → i.sql = s) ∧
    (∀ name, name ≠ "" → '\x00' ∉ name.toList → quoted name = .ok ⟨[], .quoted name⟩) ∧
    (∀ i : Ident, i.Obtained → parse i.sql = .ok i) ∧
    ∀ i j : Ident, i.Obtained → j.Obtained → (i.sql = j.sql ↔ i = j) := by
  refine ⟨?_, ?_, ?_, fun i => parse_sql_of_obtained, ?_⟩
  · intro s
    simp only [parse_eq_ok_iff, pathText_iff, String.toList_inj]
    constructor
    · rintro ⟨i, legible, text, clean⟩
      exact ⟨clean, i, legible, text⟩
    · rintro ⟨clean, i, legible, text⟩
      exact ⟨i, legible, text, clean⟩
  · intro s i read
    exact ((parse_eq_ok_iff s i).mp read).2.1
  · intro name written clean
    exact (quoted_eq_ok_iff name _).mpr ⟨rfl, written, clean⟩
  · intro i j first second
    constructor
    · intro same
      have read := parse_sql_of_obtained first
      rw [same, parse_sql_of_obtained second] at read
      exact (Except.ok.inj read).symm
    · rintro rfl
      rfl

def orderLines : Ident :=
  ⟨[.bare ⟨'p', ['u', 'b'], rfl, List.all_eq_true.mp rfl⟩, .quoted "Order \"Lines\""],
    .bare ⟨'i', ['d'], rfl, List.all_eq_true.mp rfl⟩⟩

theorem parse_inverse_sql_orderLines :
    parse "pub.\"Order \"\"Lines\"\"\".id" = .ok orderLines ∧
      orderLines.sql = "pub.\"Order \"\"Lines\"\"\".id" ∧ parse orderLines.sql = .ok orderLines ∧
      quoted "pub.id" = .ok ⟨[], .quoted "pub.id"⟩ ∧
      orderLines.sql ≠ (Ident.mk [] (.quoted "pub.id")).sql := by
  obtain ⟨-, back, quotes, round, same⟩ := parse_inverse_sql
  have read : parse "pub.\"Order \"\"Lines\"\"\".id" = .ok orderLines := by
    refine (parse_eq_ok_iff _ _).mpr ⟨?_, by decide +kernel, by decide⟩
    simp [Legible, segments, orderLines, Segment.Legible]
  have made := quotes "pub.id" (by decide) (by decide)
  have apart : orderLines ≠ ⟨[], .quoted "pub.id"⟩ := by decide
  exact ⟨read, back _ _ read, round _ (.inl ⟨_, read⟩), made,
    mt (same _ _ (.inl ⟨_, read⟩) (.inr ⟨_, made⟩)).mp apart⟩

end Ident
end SqlBuilder
