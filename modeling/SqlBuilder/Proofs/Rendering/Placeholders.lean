import SqlBuilder.Proofs.Rendering.Dollars

namespace SqlBuilder

/-- The text before the first placeholder, then every bound value with the text after it. -/
structure Cut where
  lead : String
  tail : List (Value × String)

namespace Cut

def values (c : Cut) : List Value := c.tail.map Prod.fst

def texts (c : Cut) : List String := c.lead :: c.tail.map Prod.snd

def prepend (s : String) (c : Cut) : Cut := ⟨s ++ c.lead, c.tail⟩

def tailFrom : Nat → List (Value × String) → String
  | _, [] => ""
  | next, (_, t) :: tail => placeholder next ++ t ++ tailFrom (next + 1) tail

def textFrom (next : Nat) (c : Cut) : String := c.lead ++ tailFrom next c.tail

/-- What comes after each of the dollar signs, up to the one after it. -/
def numbered : Nat → List (Value × String) → List String
  | _, [] => []
  | next, (_, t) :: tail => (next.repr ++ t) :: numbered (next + 1) tail

theorem textFrom_prepend (next : Nat) (s : String) (c : Cut) :
    (c.prepend s).textFrom next = s ++ c.textFrom next := by
  simp [textFrom, prepend, String.append_assoc]

end Cut

def Fragment.cut : Fragment → Cut
  | [] => ⟨"", []⟩
  | .text s :: f => (cut f).prepend s
  | .defect d :: f => (cut f).prepend d.sql
  | .slot v :: f => ⟨"", (v, (cut f).lead) :: (cut f).tail⟩

namespace Fragment

theorem textFrom_cut (next : Nat) (f : Fragment) : f.cut.textFrom next = f.textFrom next := by
  induction f generalizing next with
  | nil => rfl
  | cons piece f ih =>
      unfold textFrom at ih ⊢
      cases piece with
      | text s => simp [cut, Cut.textFrom_prepend, textsFrom, ih]
      | defect d => simp [cut, Cut.textFrom_prepend, textsFrom, ih]
      | slot v =>
          simp only [textsFrom, String.join_cons, ← ih (next + 1)]
          simp [cut, Cut.textFrom, Cut.tailFrom, String.append_assoc]

theorem values_cut (f : Fragment) : f.cut.values = f.values := by
  induction f with
  | nil => rfl
  | cons piece f ih => cases piece <;> simpa [cut, Cut.values, Cut.prepend] using ih

theorem Plain.dollarless_cut {f : Fragment} (plain : f.Plain) :
    ∀ t ∈ f.cut.texts, Dollarless t := by
  induction f with
  | nil => simp [cut, Cut.texts, Dollarless]
  | cons piece f ih =>
      cases piece with
      | text s =>
          obtain ⟨first, rest⟩ := (plain_cons_text s f).mp plain
          obtain ⟨lead, tail⟩ := List.forall_mem_cons.mp (ih rest)
          exact List.forall_mem_cons.mpr ⟨(dollarless_concat _ _).mpr ⟨first, lead⟩, tail⟩
      | defect d => simpa using plain.sound
      | slot v =>
          have empty : Dollarless "" := by decide
          exact List.forall_mem_cons.mpr ⟨empty, ih ((plain_cons_slot v f).mp plain)⟩

end Fragment

namespace Cut

theorem splitOn_textFrom (next : Nat) (lead : String) (tail : List (Value × String))
    (dollarless : ∀ t ∈ (Cut.mk lead tail).texts, Dollarless t) :
    ((Cut.mk lead tail).textFrom next).toList.splitOn '$' =
      lead.toList :: (numbered next tail).map String.toList := by
  obtain ⟨first, rest⟩ := List.forall_mem_cons.mp dollarless
  -- A number and the text after it are the lead of what follows the dollar sign.
  induction tail generalizing next lead with
  | nil => simpa [textFrom, tailFrom, numbered] using List.splitOn_eq_singleton first
  | cons entry tail ih =>
      obtain ⟨v, t⟩ := entry
      obtain ⟨second, rest⟩ := List.forall_mem_cons.mp rest
      have text : ((Cut.mk lead ((v, t) :: tail)).textFrom next).toList =
          lead.toList ++ '$' :: ((Cut.mk (next.repr ++ t) tail).textFrom (next + 1)).toList := by
        simp [textFrom, tailFrom, placeholder]
      have after : Dollarless (next.repr ++ t) :=
        (dollarless_concat _ _).mpr ⟨dollarless_repr next, second⟩
      rw [text, List.splitOn_append_cons_self_of_not_mem first,
        ih (next + 1) _ (List.forall_mem_cons.mpr ⟨after, rest⟩) after rest]
      rfl

end Cut

def numerals (text : String) : List String :=
  (text.toList.splitOn '$').tail.map fun cs => String.ofList (cs.takeWhile Char.isDigit)

def startsWithDigit (text : String) : Bool := text.toList.head?.any Char.isDigit

theorem takeWhile_isDigit_repr (n : Nat) {text : String} (apart : startsWithDigit text = false) :
    String.ofList ((n.repr ++ text).toList.takeWhile Char.isDigit) = n.repr := by
  have digits : ∀ c ∈ n.repr.toList, c.isDigit = true := fun _ member => isDigit_of_mem_repr member
  have stop : text.toList.takeWhile Char.isDigit = [] := by
    unfold startsWithDigit at apart
    cases chars : text.toList with
    | nil => rfl
    | cons c cs =>
        rw [chars] at apart
        exact List.takeWhile_cons_of_neg (by simpa using apart)
  rw [String.toList_append, List.takeWhile_append_of_pos digits, stop, List.append_nil,
    String.ofList_toList]

theorem Cut.numerals_numbered (next : Nat) (tail : List (Value × String))
    (apart : ∀ entry ∈ tail, startsWithDigit entry.2 = false) :
    (numbered next tail).map (fun t => String.ofList (t.toList.takeWhile Char.isDigit)) =
      (List.range' next tail.length).map Nat.repr := by
  induction tail generalizing next with
  | nil => rfl
  | cons entry tail ih =>
      obtain ⟨v, t⟩ := entry
      obtain ⟨first, rest⟩ := List.forall_mem_cons.mp apart
      rw [numbered, List.map_cons, takeWhile_isDigit_repr next first, ih (next + 1) rest]
      rfl

namespace Root

def cut (q : Root) : Cut := q.fragment.cut

theorem render_eq_cut (q : Root) (ps : Params) :
    Query.render q ps = (q.cut.textFrom (ps.size + 1), ps.append q.cut.values) := by
  rw [cut, Fragment.textFrom_cut, Fragment.values_cut]
  exact Query.render_eq q ps

/-- A digit right after a placeholder lengthens its number. -/
theorem placeholders_numbered (q : Root) :
    (∀ ps, Query.render q ps = (q.cut.textFrom (ps.size + 1), ps.append q.cut.values)) ∧
    (Query.validate q = .ok () → (∀ t ∈ q.copiedTexts, Dollarless t) →
      (∀ t ∈ q.cut.texts, Dollarless t) ∧
      (∀ ps, (Query.render q ps).1.toList.splitOn '$' =
        q.cut.lead.toList :: (Cut.numbered (ps.size + 1) q.cut.tail).map String.toList) ∧
      ((∀ entry ∈ q.cut.tail, startsWithDigit entry.2 = false) →
        ∀ ps, numerals (Query.render q ps).1 =
          (List.range' (ps.size + 1) q.cut.values.length).map Nat.repr)) := by
  refine ⟨q.render_eq_cut, ?_⟩
  intro valid copied
  have plain := plain_fragment ((Defect.check_eq_ok_iff _).mp valid) copied
  have dollarless := plain.dollarless_cut
  have split : ∀ ps, (Query.render q ps).1.toList.splitOn '$' =
      q.cut.lead.toList :: (Cut.numbered (ps.size + 1) q.cut.tail).map String.toList := by
    intro ps
    rw [render_eq_cut]
    exact Cut.splitOn_textFrom _ _ _ dollarless
  refine ⟨dollarless, split, ?_⟩
  intro apart ps
  rw [numerals, split ps, List.tail_cons, List.map_map, Cut.values, List.length_map,
    ← Cut.numerals_numbered (ps.size + 1) _ apart]
  rfl

def lookupUpdate : Root :=
  .statement (.update ⟨⟨⟨[], .quoted "t"⟩⟩,
    .single ⟨.column ⟨[], .quoted "a"⟩, .bind (.int4 1)⟩,
    .inSelect (.column ⟨[], .quoted "b"⟩) false
      ⟨[.column ⟨[], .quoted "c"⟩], none, .template "c = ? OR c = ?" [.int4 2, .int4 3], [], none⟩,
    []⟩)

theorem placeholders_numbered_lookupUpdate :
    (∀ t ∈ lookupUpdate.cut.texts, Dollarless t) ∧
      ∀ ps, numerals (Query.render lookupUpdate ps).1 =
        (List.range' (ps.size + 1) lookupUpdate.cut.values.length).map Nat.repr := by
  obtain ⟨-, numbered⟩ := placeholders_numbered lookupUpdate
  obtain ⟨dollarless, -, numbers⟩ := numbered rfl (by decide)
  exact ⟨dollarless, numbers (by decide)⟩

def digitTemplate : Root := .condition (.template "a = ?1 OR b = ?2" [.int4 2, .int4 3])

theorem placeholders_numbered_digitTemplate :
    Query.validate digitTemplate = .ok () ∧ (∀ t ∈ digitTemplate.copiedTexts, Dollarless t) ∧
      Query.toSql digitTemplate = "a = $11 OR b = $22" ∧
      numerals (Query.toSql digitTemplate) ≠
        (List.range' 1 digitTemplate.cut.values.length).map Nat.repr := by
  have text : Query.toSql digitTemplate = "a = $11 OR b = $22" := by decide +kernel
  have found : numerals "a = $11 OR b = $22" = ["11", "22"] := by decide +kernel
  refine ⟨rfl, by decide, text, ?_⟩
  rw [text, found]
  decide

example : (Query.toSql lookupUpdate) =
    "UPDATE \"t\" SET \"a\" = $1 WHERE \"b\" IN (SELECT \"c\" WHERE c = $2 OR c = $3)" := by
  decide +kernel

end Root
end SqlBuilder
