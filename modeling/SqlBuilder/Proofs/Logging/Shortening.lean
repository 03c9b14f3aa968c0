import Mathlib.Data.List.Infix
import SqlBuilder.Query

namespace SqlBuilder

/-- A slice by byte position, which exists only between two characters. -/
def sliceTo? (text : String) (bytes : Nat) : Option String :=
  (text.pos? ⟨bytes⟩).map fun cut => (text.sliceTo cut).copy

structure LongestFitting (limit : Nat) (text kept : String) : Prop where
  starts : kept.toList <+: text.toList
  fits : kept.utf8ByteSize ≤ limit
  longest : ∀ other : String, other.toList <+: text.toList → other.utf8ByteSize ≤ limit →
    other.toList <+: kept.toList

theorem boundaryBefore_le (text : String) (bytes : Nat) : boundaryBefore text bytes ≤ bytes := by
  induction bytes with
  | zero => exact Nat.le_refl 0
  | succ bytes ih =>
      rw [boundaryBefore]
      split
      · exact Nat.le_refl _
      · exact Nat.le_succ_of_le ih

theorem le_boundaryBefore {text : String} {boundary bytes : Nat}
    (valid : (String.Pos.Raw.mk boundary).IsValid text) (within : boundary ≤ bytes) :
    boundary ≤ boundaryBefore text bytes := by
  induction bytes with
  | zero => exact within
  | succ bytes ih =>
      rw [boundaryBefore]
      split
      next => exact within
      next inside =>
        -- the loop only passes over positions inside a character
        have passed : boundary ≠ bytes + 1 := by
          rintro rfl
          exact inside (String.Pos.Raw.isValid_eq_true_iff.mpr valid)
        exact ih (by omega)

theorem exists_append_of_starts {text kept : String} (starts : kept.toList <+: text.toList) :
    ∃ rest, text = kept ++ rest := by
  obtain ⟨rest, joined⟩ := starts
  refine ⟨String.ofList rest, ?_⟩
  rw [← String.toList_inj, String.toList_append, String.toList_ofList, joined]

theorem isValid_of_starts {text kept : String} (starts : kept.toList <+: text.toList) :
    (String.Pos.Raw.mk kept.utf8ByteSize).IsValid text := by
  obtain ⟨rest, joined⟩ := exists_append_of_starts starts
  exact String.Pos.Raw.isValid_iff_exists_append.mpr ⟨kept, rest, joined, rfl⟩

theorem prefix_of_size_le {text kept other : String} (starts : kept.toList <+: text.toList)
    (prefixed : other.toList <+: text.toList) (shorter : other.utf8ByteSize ≤ kept.utf8ByteSize) :
    other.toList <+: kept.toList := by
  rcases List.prefix_or_prefix_of_prefix prefixed starts with inside | outside
  · exact inside
  · obtain ⟨rest, rfl⟩ := exists_append_of_starts outside
    rw [String.utf8ByteSize_append] at shorter
    have nothing : rest = "" := String.utf8ByteSize_eq_zero_iff.mp (by omega)
    rw [nothing, String.append_empty]

theorem copy_sliceTo_cutBefore_size (text : String) (bytes : Nat) :
    (text.sliceTo (cutBefore text bytes)).copy.utf8ByteSize = boundaryBefore text bytes := by
  have offset := (cutBefore text bytes).splits.offset_eq_rawEndPos
  rw [cutBefore, String.offset_pos] at offset
  exact (congrArg String.Pos.Raw.byteIdx offset).symm

theorem longestFitting_cutBefore (text : String) (bytes : Nat) :
    LongestFitting bytes text (text.sliceTo (cutBefore text bytes)).copy := by
  have size := copy_sliceTo_cutBefore_size text bytes
  have starts : (text.sliceTo (cutBefore text bytes)).copy.toList <+: text.toList := by
    refine ⟨(text.sliceFrom (cutBefore text bytes)).copy.toList, ?_⟩
    rw [← String.toList_append, String.sliceTo_append_sliceFrom]
  refine ⟨starts, size ▸ boundaryBefore_le text bytes, ?_⟩
  intro other prefixed fits
  apply prefix_of_size_le starts prefixed
  rw [size]
  exact le_boundaryBefore (isValid_of_starts prefixed) fits

theorem sliceTo?_boundaryBefore (text : String) (bytes : Nat) :
    sliceTo? text (boundaryBefore text bytes) =
      some (text.sliceTo (cutBefore text bytes)).copy := by
  have valid := isValid_boundaryBefore text bytes
  have position : text.pos? ⟨boundaryBefore text bytes⟩ = some (cutBefore text bytes) := by
    rw [String.pos?, String.Slice.pos?,
      dif_pos (String.Pos.Raw.isValidForSlice_eq_true_iff.mpr valid.toSlice)]
    rfl
  rw [sliceTo?, position]
  rfl

theorem LongestFitting.limit_lt {limit : Nat} {text kept : String}
    (longest : LongestFitting limit text kept) (exceeds : limit < text.utf8ByteSize) :
    limit < kept.utf8ByteSize + 4 := by
  obtain ⟨rest, rfl⟩ := exists_append_of_starts longest.starts
  have fits := longest.fits
  rw [String.utf8ByteSize_append] at exceeds
  cases next : rest.toList with
  | nil =>
      rw [String.toList_eq_nil_iff.mp next, String.utf8ByteSize_empty] at exceeds
      omega
  | cons c cs =>
      by_contra room
      have width := c.utf8Size_le_four
      have more := longest.longest (kept ++ String.singleton c)
        ⟨cs, by simp [next]⟩
        (by rw [String.utf8ByteSize_append, String.utf8ByteSize_singleton]; omega)
      have longer := more.length_le
      rw [String.toList_append, List.length_append, String.toList_singleton] at longer
      exact Nat.not_succ_le_self _ longer

theorem LogConfig.shorten_of_le {config : LogConfig} {sql : String}
    (fits : ∀ limit ∈ config.maxLength, sql.utf8ByteSize ≤ limit) : config.shorten sql = sql := by
  rw [shorten]
  cases bound : config.maxLength with
  | none => rfl
  | some limit => exact if_pos (fits limit bound)

theorem LogConfig.shorten_of_lt {config : LogConfig} {sql : String} {limit : Nat}
    (bound : limit ∈ config.maxLength) (exceeds : limit < sql.utf8ByteSize) :
    config.shorten sql = (sql.sliceTo (cutBefore sql limit)).copy ++ "..." := by
  rw [shorten, bound]
  exact if_neg (Nat.not_le.mpr exceeds)

theorem LogConfig.shorten_longest (config : LogConfig) (sql : String) :
    ((∀ limit ∈ config.maxLength, sql.utf8ByteSize ≤ limit) → config.shorten sql = sql) ∧
    ∀ limit ∈ config.maxLength, limit < sql.utf8ByteSize →
      ∃ kept, config.shorten sql = kept ++ "..." ∧ LongestFitting limit sql kept ∧
        sliceTo? sql (boundaryBefore sql limit) = some kept ∧
        (String.Pos.Raw.mk (boundaryBefore sql limit)).IsValid sql ∧
        boundaryBefore sql limit ≤ sql.utf8ByteSize ∧
        limit < boundaryBefore sql limit + 4 := by
  refine ⟨shorten_of_le, ?_⟩
  intro limit bound exceeds
  have valid := isValid_boundaryBefore sql limit
  have longest := longestFitting_cutBefore sql limit
  refine ⟨_, shorten_of_lt bound exceeds, longest, sliceTo?_boundaryBefore sql limit, valid,
    valid.le_utf8ByteSize, ?_⟩
  rw [← copy_sliceTo_cutBefore_size]
  exact longest.limit_lt exceeds

theorem LogConfig.shorten_longest_wide :
    ({ maxLength := some 3 } : LogConfig).shorten "😀x" = "..." ∧
    ({ maxLength := some 4 } : LogConfig).shorten "😀x" = "😀..." ∧
    ({ maxLength := some 5 } : LogConfig).shorten "😀x" = "😀x" := by
  obtain ⟨none, shortened, -, sliced, -⟩ :=
    (shorten_longest { maxLength := some 3 } "😀x").2 3 rfl (by decide +kernel)
  obtain ⟨first, shortened', -, sliced', -⟩ :=
    (shorten_longest { maxLength := some 4 } "😀x").2 4 rfl (by decide +kernel)
  have nothing : sliceTo? "😀x" (boundaryBefore "😀x" 3) = some "" := by decide +kernel
  have face : sliceTo? "😀x" (boundaryBefore "😀x" 4) = some "😀" := by decide +kernel
  rw [nothing, Option.some.injEq] at sliced
  rw [face, Option.some.injEq] at sliced'
  refine ⟨?_, ?_, (shorten_longest _ _).1 ?_⟩
  · rw [shortened, ← sliced]
    rfl
  · rw [shortened', ← sliced']
    rfl
  · rintro limit ⟨⟩
    decide +kernel

theorem LogConfig.shorten_size_le {config : LogConfig} {limit : Nat}
    (bound : limit ∈ config.maxLength) (sql : String) :
    (config.shorten sql).utf8ByteSize ≤ limit + 3 := by
  by_cases exceeds : limit < sql.utf8ByteSize
  · have fits := (longestFitting_cutBefore sql limit).fits
    rw [shorten_of_lt bound exceeds, String.utf8ByteSize_append]
    have ellipsis : "...".utf8ByteSize = 3 := rfl
    omega
  · have fits : ∀ other ∈ config.maxLength, sql.utf8ByteSize ≤ other := by
      rintro other found
      rw [Option.mem_unique found bound]
      omega
    rw [shorten_of_le fits]
    omega

theorem Query.reported_size_le {α : Type} [Query α] {config : LogConfig} {limit : Nat}
    (bound : limit ∈ config.maxLength) (q : α) :
    (buildWith config q).1 = build q ∧
    ∀ e ∈ (buildWith config q).2, ∃ sql, e = .queryBuilt config.level (build q).params.size sql ∧
      sql.utf8ByteSize ≤ limit + 3 := by
  refine ⟨rfl, ?_⟩
  intro e reported
  simp only [buildWith, LogConfig.report] at reported
  split at reported
  · rw [List.mem_singleton] at reported
    exact ⟨_, reported, LogConfig.shorten_size_le bound _⟩
  · cases reported

end SqlBuilder
