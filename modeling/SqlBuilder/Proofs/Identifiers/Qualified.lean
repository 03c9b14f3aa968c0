import SqlBuilder.Expr.Column
import SqlBuilder.Statement.Insert
import SqlBuilder.Proofs.Identifiers.Reading

namespace SqlBuilder

structure ColumnRef where
  table : Option Ident
  column : Ident
  deriving DecidableEq

namespace ColumnRef

def within (t : Table) (path : Ident) : ColumnRef := ⟨some t.ident, path⟩

def ofPath (whole : Ident) : ColumnRef := ⟨whole.qualifier?, whole.unqualified⟩

def path (r : ColumnRef) : Ident :=
  match r.table with
  | some table => table.dot r.column
  | none => r.column

def sql (r : ColumnRef) : String :=
  match r.table with
  | some table => table.sql ++ "." ++ r.column.sql
  | none => r.column.sql

def name (r : ColumnRef) : Ident := r.column.unqualified

def excluded (r : ColumnRef) : ColumnRef := ⟨some (.bare .excluded), r.name⟩

end ColumnRef

namespace Ident

theorem dot_assoc (i j k : Ident) : (i.dot j).dot k = i.dot (j.dot k) := by
  simp [dot, segments]

theorem sql_dot (i j : Ident) : (i.dot j).sql = i.sql ++ "." ++ j.sql := by
  apply String.toList_injective
  obtain ⟨qualifiers, name⟩ := i
  induction qualifiers with
  | nil => simp [toList_sql_dot, toList_sql_single]
  | cons s qualifiers ih =>
      have assoc := dot_assoc ⟨[], s⟩ ⟨qualifiers, name⟩ j
      have text := toList_sql_dot s ⟨qualifiers, name⟩
      rw [show Ident.mk (s :: qualifiers) name = dot ⟨[], s⟩ ⟨qualifiers, name⟩ from rfl, assoc,
        toList_sql_dot, ih]
      simp [text]

theorem sql_unqualified (i : Ident) : i.unqualified.sql = i.name.sql :=
  String.toList_injective (toList_sql_single i.name)

end Ident

namespace ColumnRef

theorem path_ofPath (whole : Ident) : (ofPath whole).path = whole := by
  obtain ⟨qualifiers, name⟩ := whole
  rcases List.eq_nil_or_concat qualifiers with rfl | ⟨before, last, rfl⟩
  · rfl
  · simp [path, ofPath, Ident.qualifier?, Ident.ofSegments?, Ident.unqualified, Ident.dot,
      Ident.segments]

theorem sql_path (r : ColumnRef) : r.path.sql = r.sql := by
  unfold path sql
  cases r.table with
  | none => rfl
  | some table => exact table.sql_dot r.column

theorem name_path (r : ColumnRef) : r.path.name = r.column.name := by
  unfold path
  cases r.table <;> rfl

end ColumnRef

namespace Ident

theorem readPath_sql_dot {i : Ident} (legible : i.Legible) (cs : List Char) :
    readPath (i.sql.toList ++ '.' :: cs) = (readPath cs).map i.dot := by
  obtain ⟨qualifiers, name⟩ := i
  induction qualifiers with
  | nil =>
      have first := Segment.read_sql ((legible_single name).mp legible) ('.' :: cs) (by simp)
      rw [toList_sql_single, readPath_of_read_dot first]
  | cons s qualifiers ih =>
      obtain ⟨start, rest⟩ := (legible_dot s ⟨qualifiers, name⟩).mp legible
      have first := Segment.read_sql start
        ('.' :: ((Ident.mk qualifiers name).sql.toList ++ '.' :: cs)) (by simp)
      rw [show Ident.mk (s :: qualifiers) name = dot ⟨[], s⟩ ⟨qualifiers, name⟩ from rfl,
        toList_sql_dot, List.append_assoc, List.cons_append, readPath_of_read_dot first, ih rest]
      cases readPath cs with
      | error fault => rfl
      | ok path => exact congrArg Except.ok (dot_assoc _ _ path).symm

theorem parse_eq_ok_iff_readPath (s : String) (i : Ident) :
    parse s = .ok i ↔ readPath s.toList = .ok i ∧ '\x00' ∉ s.toList := by
  rw [parse_eq_ok_iff, readPath_eq_ok_iff, String.toList_inj, and_assoc]

theorem parse_dot {i : Ident} (obtained : i.Obtained) (c : String) (whole : Ident) :
    parse (i.sql ++ "." ++ c) = .ok whole ↔ ∃ path, parse c = .ok path ∧ i.dot path = whole := by
  obtain ⟨legible, -, clean⟩ := (parse_eq_ok_iff _ _).mp (parse_sql_of_obtained obtained)
  have chars : (i.sql ++ "." ++ c).toList = i.sql.toList ++ '.' :: c.toList := by simp
  have nul : '\x00' ∉ i.sql.toList ++ '.' :: c.toList ↔ '\x00' ∉ c.toList := by
    simp [clean]
  simp only [parse_eq_ok_iff_readPath, chars, readPath_sql_dot legible, nul]
  cases readPath c.toList with
  | error fault => simp [Except.map]
  | ok path =>
      simp only [Except.map, Except.ok.injEq]
      constructor
      · rintro ⟨joined, fit⟩
        exact ⟨path, ⟨rfl, fit⟩, joined⟩
      · rintro ⟨_, ⟨rfl, fit⟩, joined⟩
        exact ⟨joined, fit⟩

end Ident

structure ColumnRef.WrittenAs (r : ColumnRef) (whole last : String) : Prop where
  expression : r.sql = whole
  name : r.name.sql = last
  excluded : r.excluded.sql = "EXCLUDED." ++ last

structure Expr.WrittenAs (e : Expr) (whole last : String) : Prop where
  expression : ∀ ps, e.write ps = (whole, ps)
  assigned : e.targetText = last
  conflict : ∀ ps, e.writeConflict ps = (last, ps)
  excluded : ∀ ps, e.excluded.write ps = ("EXCLUDED." ++ last, ps)

theorem ColumnRef.writtenAs_path (r : ColumnRef) : r.WrittenAs r.path.sql r.path.name.sql where
  expression := r.sql_path.symm
  name := by rw [r.name_path, name, Ident.sql_unqualified]
  excluded := by
    rw [r.name_path, ← Ident.sql_unqualified]
    rfl

theorem Expr.writtenAs_column (path : Ident) :
    (Expr.column path).WrittenAs path.sql path.name.sql where
  expression _ := rfl
  assigned := rfl
  conflict _ := rfl
  excluded ps := by
    change ((Ident.dot _ path.unqualified).sql, ps) = _
    rw [Ident.sql_dot, Ident.sql_unqualified]
    rfl

theorem Expr.defect?_ofPath_eq_none_iff (read : Except IdentError Ident) :
    (Expr.ofPath read).defect? = none ↔ ∃ path, read = .ok path := by
  cases read with
  | error e => simp [ofPath, defect?]
  | ok path => simp [ofPath, defect?]

theorem Table.field_accepted_iff (t : Table) (c : String) :
    (t.field c).defect? = none ↔ ∃ path, Ident.parse c = .ok path := by
  rw [field, Expr.defect?_ofPath_eq_none_iff]
  cases Ident.parse c with
  | error e => simp [Except.map]
  | ok path => simp [Except.map]

theorem Table.field_qualified (t : Table) (obtained : t.ident.Obtained) (c : String) :
    ((t.field c).defect? = none ↔ (Expr.field (t.sql ++ "." ++ c)).defect? = none) ∧
    ((t.field c).defect? = none → ∃ path whole, Ident.parse c = .ok path ∧
      Ident.parse (t.sql ++ "." ++ c) = .ok whole ∧
      t.field c = .column (ColumnRef.within t path).path ∧
      Expr.field (t.sql ++ "." ++ c) = .column (ColumnRef.ofPath whole).path ∧
      (t.field c).WrittenAs (t.sql ++ "." ++ c) path.name.sql ∧
      (Expr.field (t.sql ++ "." ++ c)).WrittenAs (t.sql ++ "." ++ c) path.name.sql ∧
      (ColumnRef.within t path).WrittenAs (t.sql ++ "." ++ c) path.name.sql ∧
      (ColumnRef.ofPath whole).WrittenAs (t.sql ++ "." ++ c) path.name.sql) ∧
    ∀ s path, Ident.parse s = .ok path → ∀ ps, (Expr.field s).write ps = (s, ps) := by
  have reading := Ident.parse_dot obtained c
  refine ⟨?_, ?_, ?_⟩
  · rw [t.field_accepted_iff, Expr.field, Expr.defect?_ofPath_eq_none_iff]
    constructor
    · rintro ⟨path, read⟩
      exact ⟨_, (reading _).mpr ⟨path, read, rfl⟩⟩
    · rintro ⟨whole, joined⟩
      obtain ⟨path, read, -⟩ := (reading whole).mp joined
      exact ⟨path, read⟩
  · intro accepted
    obtain ⟨path, read⟩ := (t.field_accepted_iff c).mp accepted
    have joined := (reading _).mpr ⟨path, read, rfl⟩
    obtain ⟨-, text, -⟩ := (Ident.parse_eq_ok_iff _ _).mp joined
    have inside : t.field c = .column (t.ident.dot path) := by
      rw [Table.field, read]
      rfl
    have outside : Expr.field (t.sql ++ "." ++ c) = .column (t.ident.dot path) :=
      congrArg Expr.ofPath joined
    have same := ColumnRef.path_ofPath (t.ident.dot path)
    have written := Expr.writtenAs_column (t.ident.dot path)
    have kept := (ColumnRef.within t path).writtenAs_path
    have cut := (ColumnRef.ofPath (t.ident.dot path)).writtenAs_path
    rw [text] at written
    rw [show (ColumnRef.within t path).path = t.ident.dot path from rfl, text] at kept
    rw [same, text] at cut
    refine ⟨path, _, read, joined, inside, ?_, ?_, ?_, kept, cut⟩
    · rw [outside, same]
    · rw [inside]
      exact written
    · rw [outside]
      exact written
  · intro s path read ps
    obtain ⟨-, text, -⟩ := (Ident.parse_eq_ok_iff s path).mp read
    rw [Expr.field, read, ← text]
    rfl

theorem Table.field_qualified_quotedDots :
    Ident.quoted "Order.Lines" = .ok ⟨[], .quoted "Order.Lines"⟩ ∧
    (Expr.field "\"Order.Lines\".a.\"b.\"\"c\"").defect? = none ∧
    ((Table.mk ⟨[], .quoted "Order.Lines"⟩).field "a.\"b.\"\"c\"").WrittenAs
      "\"Order.Lines\".a.\"b.\"\"c\"" "\"b.\"\"c\"" ∧
    (Expr.field "\"Order.Lines\".a.\"b.\"\"c\"").WrittenAs
      "\"Order.Lines\".a.\"b.\"\"c\"" "\"b.\"\"c\"" := by
  let t : Table := ⟨⟨[], .quoted "Order.Lines"⟩⟩
  let column : Ident := ⟨[.bare ⟨'a', [], rfl, by simp⟩], .quoted "b.\"c"⟩
  have made : Ident.quoted "Order.Lines" = .ok t.ident :=
    (Ident.quoted_eq_ok_iff _ _).mpr ⟨rfl, by decide, by decide⟩
  have read : Ident.parse "a.\"b.\"\"c\"" = .ok column := by
    refine (Ident.parse_eq_ok_iff _ _).mpr ⟨?_, by decide +kernel, by decide⟩
    simp [Ident.Legible, Ident.segments, column, Segment.Legible]
  obtain ⟨valid, written, -⟩ := Table.field_qualified t (.inr ⟨_, made⟩) "a.\"b.\"\"c\""
  have accepted := (t.field_accepted_iff _).mpr ⟨column, read⟩
  obtain ⟨path, whole, same, -, -, -, inside, outside, -⟩ := written accepted
  obtain rfl := Except.ok.inj (read.symm.trans same)
  have joined : t.sql ++ "." ++ "a.\"b.\"\"c\"" = "\"Order.Lines\".a.\"b.\"\"c\"" := by
    decide +kernel
  have last : column.name.sql = "\"b.\"\"c\"" := by decide +kernel
  rw [joined, last] at inside outside
  rw [joined] at valid
  exact ⟨made, valid.mp accepted, inside, outside⟩

end SqlBuilder
