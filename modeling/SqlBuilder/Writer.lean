import SqlBuilder.Fragment

namespace SqlBuilder

namespace Writer

@[simp] theorem pure_apply {α : Type} (a : α) (ps : Params) :
    (pure a : Writer α) ps = (a, ps) := rfl

@[simp] theorem bind_apply {α β : Type} (w : Writer α) (next : α → Writer β) (ps : Params) :
    (w >>= next) ps = next (w ps).1 (w ps).2 := rfl

@[simp] theorem map_apply {α β : Type} (f : α → β) (w : Writer α) (ps : Params) :
    (f <$> w) ps = (f (w ps).1, (w ps).2) := rfl

def bound (v : Value) : Writer String := do
  let number ← modifyGet (·.push v)
  return placeholder number

@[simp] theorem bound_apply (v : Value) (ps : Params) :
    bound v ps = (placeholder (ps.size + 1), ps.append [v]) := rfl

def parenthesized (w : Writer String) : Writer String := do
  let text ← w
  return "(" ++ text ++ ")"

def separated (separator : String) (w : Writer (List String)) : Writer String := do
  let items ← w
  return separator.intercalate items

def clause (keyword : String) (w : Writer String) : Writer String := do
  let text ← w
  return if text.isEmpty then "" else keyword ++ text

def listClause (keyword : String) (w : Writer (List String)) : Writer String := do
  let items ← w
  return if items.isEmpty then "" else keyword ++ ", ".intercalate items

end Writer

namespace Fragment

theorem render_nil : render [] = pure "" := by
  funext ps
  simp [render, textFrom, textsFrom]

theorem render_text (s : String) (f : Fragment) :
    render (.text s :: f) = (do let rest ← render f; return s ++ rest) := by
  funext ps
  simp [render, textFrom, textsFrom]

theorem render_slot (v : Value) (f : Fragment) :
    render (.slot v :: f) =
      (do let head ← Writer.bound v; let rest ← render f; return head ++ rest) := by
  funext ps
  simp [render, textFrom, textsFrom]

theorem render_defect (d : Defect) (f : Fragment) :
    render (.defect d :: f) = (do let rest ← render f; return d.sql ++ rest) := by
  funext ps
  simp [render, textFrom, textsFrom]

theorem render_append (f g : Fragment) :
    render (f ++ g) = (do let head ← render f; let rest ← render g; return head ++ rest) := by
  funext ps
  simp [render, textFrom_append, Nat.add_right_comm]

theorem render_parenthesized (f : Fragment) :
    render f.parenthesized = Writer.parenthesized (render f) := by
  simp only [parenthesized, Writer.parenthesized, List.cons_append, render_text, render_append,
    render_nil, bind_assoc, pure_bind, String.append_assoc, String.append_empty]

theorem render_join (separator : String) (fragments : List Fragment) :
    render (join separator fragments) = Writer.separated separator (fragments.mapM render) := by
  unfold Writer.separated
  induction fragments with
  | nil => simp [join, render_nil]
  | cons f fragments ih =>
      cases fragments with
      | nil => simp [join]
      | cons g fragments =>
          have step : join separator (f :: g :: fragments) =
              f ++ .text separator :: join separator (g :: fragments) := by
            simp [join, List.intercalate_cons_cons]
          rw [step, render_append, render_text, ih]
          simp [List.mapM_cons, String.intercalate_cons_cons, String.append_assoc]

theorem mapM_render {α : Type} {write : α → Writer String} {fragment : α → Fragment}
    (eq : ∀ x, write x = (fragment x).render) (xs : List α) :
    (xs.map fragment).mapM render = xs.mapM write := by
  rw [List.mapM_map, funext eq]
  rfl

theorem render_of_isBlank {f : Fragment} (blank : f.isBlank = true) : render f = pure "" := by
  induction f with
  | nil => exact render_nil
  | cons piece f ih =>
      cases piece with
      | text s => simp_all [render_text]
      | slot v => simp at blank
      | defect d => simp_all [render_defect]

theorem textFrom_eq_empty_iff (next : Nat) (f : Fragment) :
    f.textFrom next = "" ↔ f.isBlank = true := by
  induction f generalizing next with
  | nil => simp [textFrom, textsFrom]
  | cons piece f ih =>
      unfold textFrom at ih ⊢
      cases piece with
      | text s => simp [textsFrom, ih]
      | slot v => simp [textsFrom, placeholder]
      | defect d => simp [textsFrom, ih]

theorem render_negated (f : Fragment) :
    render (if f.isBlank then f else .text "NOT " :: f.parenthesized) = (do
      let operand ← render f
      return if operand.isEmpty then operand else "NOT (" ++ operand ++ ")") := by
  split
  · rename_i blank
    simp [render_of_isBlank blank]
  · rename_i written
    rw [render_text, render_parenthesized]
    funext ps
    -- The writer looks at the text, which is empty for blank fragments only.
    have text : ¬ f.textFrom (ps.size + 1) = "" := fun empty =>
      written ((textFrom_eq_empty_iff _ f).mp empty)
    simp [Writer.parenthesized, render, text,
      ← String.append_assoc]

theorem render_clause (keyword : String) (f : Fragment) :
    render (clause keyword f) = Writer.clause keyword (render f) := by
  unfold clause Writer.clause
  split
  · rename_i blank
    simp [render_of_isBlank blank, render_nil]
  · rename_i written
    rw [render_text]
    funext ps
    have text : ¬ f.textFrom (ps.size + 1) = "" := fun empty =>
      written ((textFrom_eq_empty_iff _ f).mp empty)
    simp [render, text]

theorem render_listClause (keyword : String) (items : List Fragment) :
    render (listClause keyword items) = Writer.listClause keyword (items.mapM render) := by
  cases items with
  | nil => simp [listClause, Writer.listClause, render_nil]
  | cons f items =>
      simp [listClause, Writer.listClause, render_text, render_join, Writer.separated]

theorem render_unbound (f : Fragment) (ps : Params) :
    render f.unbound ps = ((render f .empty).1, ps) := by
  simp [render, unbound, textFrom, textsFrom_unboundFrom, Params.empty, Params.size]

end Fragment
end SqlBuilder
