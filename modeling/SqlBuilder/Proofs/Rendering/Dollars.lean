import SqlBuilder.Proofs.Rendering.KeptByWriting

namespace SqlBuilder

open Fragment

def Ident.texts (path : Ident) : List String := path.segments.map Segment.text

mutual

def Expr.copiedTexts : Expr → List String
  | .column path => path.texts
  | .verbatim sql => [sql]
  | .literal text => [text]
  | .call _ arguments => Expr.allCopiedTexts arguments
  | .binary left _ right => left.copiedTexts ++ right.copiedTexts
  | .complement operand => operand.copiedTexts
  | .caseOf subject arms => subject.copiedTexts ++ Expr.armCopiedTexts arms
  | .subquery select => select.copiedTexts
  | .quantified _ select => select.copiedTexts
  | .bind _ => []
  | .rejected _ => []

def Expr.allCopiedTexts : List Expr → List String
  | [] => []
  | e :: es => e.copiedTexts ++ Expr.allCopiedTexts es

def Expr.armCopiedTexts : List (Expr × Value) → List String
  | [] => []
  | (key, _) :: arms => key.copiedTexts ++ Expr.armCopiedTexts arms

def Condition.copiedTexts : Condition → List String
  | .neutral => []
  | .constant _ => []
  | .conjunction members => Condition.allCopiedTexts members
  | .disjunction members => Condition.allCopiedTexts members
  | .negation operand => operand.copiedTexts
  | .comparison left _ right => left.copiedTexts ++ right.copiedTexts
  | .pattern subject _ _ sought => subject.copiedTexts ++ sought.copiedTexts
  | .nullCheck operand _ => operand.copiedTexts
  | .inList operand _ values => operand.copiedTexts ++ Expr.allCopiedTexts values
  | .inSelect operand _ select => operand.copiedTexts ++ select.copiedTexts
  | .range operand _ low high => operand.copiedTexts ++ low.copiedTexts ++ high.copiedTexts
  | .existence _ select => select.copiedTexts
  | .truth operand => operand.copiedTexts
  | .template sql _ => [sql]

def Condition.allCopiedTexts : List Condition → List String
  | [] => []
  | c :: cs => c.copiedTexts ++ Condition.allCopiedTexts cs

def Select.copiedTexts : Select → List String
  | ⟨columns, table, condition, orderBy, _⟩ =>
      Expr.allCopiedTexts columns ++ (table.elim [] fun t => t.ident.texts) ++
        condition.copiedTexts ++ Select.orderCopiedTexts orderBy

def Select.orderCopiedTexts : List (Expr × SortOrder) → List String
  | [] => []
  | (key, _) :: items => key.copiedTexts ++ Select.orderCopiedTexts items

end

def Term.copiedTexts : Term → List String
  | .expr e => e.copiedTexts
  | .condition c => c.copiedTexts
  | .select s => s.copiedTexts

def Statement.copiedTexts (s : Statement) : List String :=
  s.table.ident.texts ++ s.terms.flatMap Term.copiedTexts

def Root.copiedTexts : Root → List String
  | .condition c => c.copiedTexts
  | .select s => s.copiedTexts
  | .statement s => s.copiedTexts

theorem Expr.allCopiedTexts_eq_flatMap (es : List Expr) :
    Expr.allCopiedTexts es = es.flatMap Expr.copiedTexts := by
  induction es with
  | nil => rfl
  | cons e es ih => rw [Expr.allCopiedTexts, List.flatMap_cons, ih]

theorem Expr.armCopiedTexts_eq_flatMap (arms : List (Expr × Value)) :
    Expr.armCopiedTexts arms = arms.flatMap fun arm => arm.1.copiedTexts := by
  induction arms with
  | nil => rfl
  | cons arm arms ih => rw [Expr.armCopiedTexts, List.flatMap_cons, ih]

theorem Condition.allCopiedTexts_eq_flatMap (cs : List Condition) :
    Condition.allCopiedTexts cs = cs.flatMap Condition.copiedTexts := by
  induction cs with
  | nil => rfl
  | cons c cs ih => rw [Condition.allCopiedTexts, List.flatMap_cons, ih]

theorem Select.orderCopiedTexts_eq_flatMap (items : List (Expr × SortOrder)) :
    Select.orderCopiedTexts items = items.flatMap fun item => item.1.copiedTexts := by
  induction items with
  | nil => rfl
  | cons item items ih => rw [Select.orderCopiedTexts, List.flatMap_cons, ih]

namespace Term

theorem flatMap_parts_subset_copiedTexts (t : Term) :
    t.parts.flatMap copiedTexts ⊆ t.copiedTexts := by
  cases t with
  | expr e =>
      cases e <;> simp [parts, copiedTexts, Expr.copiedTexts, Expr.allCopiedTexts_eq_flatMap,
        Expr.armCopiedTexts_eq_flatMap, List.flatMap_map]
  | condition c =>
      cases c <;> simp [parts, copiedTexts, Condition.copiedTexts, Expr.allCopiedTexts_eq_flatMap,
        Condition.allCopiedTexts_eq_flatMap, List.flatMap_map]
  | select s =>
      obtain ⟨columns, table, c, orderBy, limit⟩ := s
      have partTexts : (select ⟨columns, table, c, orderBy, limit⟩).parts.flatMap copiedTexts =
          columns.flatMap Expr.copiedTexts ++ c.copiedTexts ++
            orderBy.flatMap fun item => item.1.copiedTexts := by
        simp [parts, copiedTexts, List.flatMap_map]
      rw [partTexts, copiedTexts, Select.copiedTexts, Expr.allCopiedTexts_eq_flatMap,
        Select.orderCopiedTexts_eq_flatMap]
      -- Between the columns and the condition stands the name of the table.
      exact (((List.sublist_append_left _ _).append_right _).append_right _).subset

theorem copiedTexts_subset_of_mem_parts {part whole : Term} (member : part ∈ whole.parts) :
    part.copiedTexts ⊆ whole.copiedTexts := by
  intro s copied
  exact whole.flatMap_parts_subset_copiedTexts (List.mem_flatMap.mpr ⟨part, member, copied⟩)

theorem copiedTexts_subset_of_within {u t : Term} (inside : u.Within t) :
    u.copiedTexts ⊆ t.copiedTexts := by
  induction inside with
  | refl => exact List.Subset.refl _
  | tail inside member ih =>
      exact fun _ copied => copiedTexts_subset_of_mem_parts member (ih copied)

end Term

theorem Root.copiedTexts_subset_of_mem_terms {q : Root} {t : Term} (member : t ∈ q.terms) :
    t.copiedTexts ⊆ q.copiedTexts := by
  cases q with
  | condition c =>
      obtain rfl := List.mem_singleton.mp member
      exact List.Subset.refl _
  | select s =>
      obtain rfl := List.mem_singleton.mp member
      exact List.Subset.refl _
  | statement s =>
      intro copied among
      exact List.mem_append_right _ (List.mem_flatMap.mpr ⟨t, member, among⟩)

def Dollarless (s : String) : Prop := '$' ∉ s.toList

instance (s : String) : Decidable (Dollarless s) := inferInstanceAs (Decidable ('$' ∉ s.toList))

@[simp] theorem dollarless_concat (s t : String) :
    Dollarless (s ++ t) ↔ Dollarless s ∧ Dollarless t := by
  simp [Dollarless]

theorem Word.dollarless {s : String} (word : Word s) : Dollarless s := by
  intro member
  have plain := List.all_eq_true.mp word _ member
  cases plain

theorem dollarless_repr (n : Nat) : Dollarless n.repr := by
  intro member
  exact absurd (isDigit_of_mem_repr member) (by decide)

theorem dollarless_stringConstant {text : String} (dollarless : Dollarless text) :
    Dollarless (stringConstant text) := by
  unfold stringConstant
  rw [dollarless_concat, dollarless_concat]
  refine ⟨⟨by decide, ?_⟩, by decide⟩
  intro member
  simp only [String.toList_ofList, List.mem_flatMap] at member
  obtain ⟨c, among, copied⟩ := member
  split at copied
  · simp_all
  · obtain rfl := List.mem_singleton.mp copied
    exact dollarless among

theorem Segment.dollarless_sql {s : Segment} (dollarless : Dollarless s.text) :
    Dollarless s.sql := by
  cases s with
  | bare name => exact dollarless
  | quoted name =>
      rw [Segment.sql, dollarless_concat, dollarless_concat]
      refine ⟨⟨by decide, ?_⟩, by decide⟩
      intro member
      simp only [String.toList_ofList, Segment.doubleQuotes, List.mem_flatMap] at member
      obtain ⟨c, among, copied⟩ := member
      split at copied
      · simp at copied
      · obtain rfl := List.mem_singleton.mp copied
        exact dollarless among

structure Fragment.Plain (f : Fragment) : Prop where
  dollarless : ∀ s, Piece.text s ∈ f → Dollarless s
  sound : f.defects = []

namespace Fragment

theorem plain_nil : Plain [] := ⟨by simp, rfl⟩

theorem plain_cons_text (s : String) (f : Fragment) :
    Plain (.text s :: f) ↔ Dollarless s ∧ f.Plain := by
  constructor
  · intro plain
    exact ⟨plain.dollarless s List.mem_cons_self,
      fun t member => plain.dollarless t (List.mem_cons_of_mem _ member), plain.sound⟩
  · rintro ⟨first, rest⟩
    refine ⟨?_, rest.sound⟩
    intro t member
    rcases List.mem_cons.mp member with same | member
    · exact (Piece.text.inj same) ▸ first
    · exact rest.dollarless t member

theorem plain_cons_slot (v : Value) (f : Fragment) : Plain (.slot v :: f) ↔ f.Plain := by
  constructor
  · intro plain
    exact ⟨fun t member => plain.dollarless t (List.mem_cons_of_mem _ member), plain.sound⟩
  · intro plain
    exact ⟨fun t member => plain.dollarless t (by simpa using member), plain.sound⟩

theorem plain_text {s : String} (dollarless : Dollarless s) : Plain [.text s] :=
  (plain_cons_text s []).mpr ⟨dollarless, plain_nil⟩

theorem Plain.append {f g : Fragment} (first : f.Plain) (second : g.Plain) : Plain (f ++ g) where
  dollarless := by
    intro s member
    rcases List.mem_append.mp member with inFirst | inSecond
    · exact first.dollarless s inFirst
    · exact second.dollarless s inSecond
  sound := by rw [defects_append, first.sound, second.sound, List.append_nil]

theorem plain_templateFragment (cs : List Char) (vs : List Value) (dollarless : '$' ∉ cs) :
    (templateFragment cs vs).Plain := by
  induction cs generalizing vs with
  | nil => exact plain_nil
  | cons c cs ih =>
      cases vs with
      | nil => exact plain_text (by simpa [Dollarless] using dollarless)
      | cons v vs =>
          obtain ⟨first, rest⟩ := not_or.mp (mt List.mem_cons.mpr dollarless)
          unfold templateFragment
          split
          · exact (plain_cons_slot _ _).mpr (ih vs rest)
          · have char : Dollarless c.toString := by simpa [Dollarless] using first
            exact (plain_cons_text _ _).mpr ⟨char, ih (v :: vs) rest⟩

theorem plain_keptByWriting : KeptByWriting Plain where
  nil := plain_nil
  word word := plain_text word.dollarless
  escape := plain_text (by decide)
  slot v := (plain_cons_slot v []).mpr plain_nil
  concat first second := by
    rw [plain_cons_text] at first second ⊢
    exact ⟨(dollarless_concat _ _).mpr ⟨first.1, second.1⟩, plain_nil⟩
  append := Plain.append
  parenthesized inner :=
    (plain_text (by decide)).append (inner.append (plain_text (by decide)))

end Fragment

theorem Ident.plain_leaves {path : Ident} (copied : ∀ t ∈ path.texts, Dollarless t) :
    ∀ f ∈ path.leaves, f.Plain := by
  rw [texts, List.forall_mem_map] at copied
  rw [leaves, List.forall_mem_map]
  exact fun s member => plain_text (Segment.dollarless_sql (copied s member))

theorem Term.plain_leaves {t : Term} (copied : ∀ s ∈ t.copiedTexts, Dollarless s) :
    ∀ f ∈ t.leaves, f.Plain := by
  unfold Term.leaves
  split
  · exact Ident.plain_leaves copied
  · exact List.forall_mem_singleton.mpr (plain_text (copied _ List.mem_cons_self))
  · exact List.forall_mem_singleton.mpr
      (plain_text (dollarless_stringConstant (copied _ List.mem_cons_self)))
  · exact List.forall_mem_singleton.mpr
      (plain_templateFragment _ _ (copied _ List.mem_cons_self))
  · rename_i table _ _ _
    cases table with
    | none => exact List.forall_mem_nil _
    | some t =>
        refine Ident.plain_leaves fun s member => copied s ?_
        simp [Term.copiedTexts, Select.copiedTexts, member]
  · exact List.forall_mem_nil _

theorem Root.plain_fragment {q : Root} (sound : q.defect? = none)
    (copied : ∀ t ∈ q.copiedTexts, Dollarless t) : q.fragment.Plain := by
  apply q.kept_fragment plain_keptByWriting sound
  · cases q with
    | statement s =>
        refine List.forall_mem_singleton.mpr (Ident.plain_leaves fun t member => copied t ?_)
        exact List.mem_append_left _ member
    | _ => exact List.forall_mem_nil _
  · intro t member u inside
    apply Term.plain_leaves
    intro s among
    exact copied s (copiedTexts_subset_of_mem_terms member
      (Term.copiedTexts_subset_of_within inside among))

end SqlBuilder
