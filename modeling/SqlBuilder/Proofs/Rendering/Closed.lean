import SqlBuilder.Proofs.Rendering.KeptByWriting

namespace SqlBuilder

open Fragment

namespace Fragment

def Sealed (f : Fragment) : Prop := ∀ next, Closed (f.textFrom next)

theorem sealed_nil : Sealed [] := fun _ => .of_isPlain rfl

theorem textFrom_cons_text (next : Nat) (s : String) (f : Fragment) :
    textFrom next (.text s :: f) = s ++ textFrom next f := by
  rw [textFrom, textsFrom, String.join_cons]
  rfl

theorem textFrom_cons_slot (next : Nat) (v : Value) (f : Fragment) :
    textFrom next (.slot v :: f) = placeholder next ++ textFrom (next + 1) f := by
  rw [textFrom, textsFrom, String.join_cons]
  rfl

theorem sealed_text {s : String} : Sealed [.text s] ↔ Closed s := by
  simp [Sealed, textFrom, textsFrom]

theorem sealed_slot (v : Value) : Sealed [.slot v] := by
  intro next
  rw [textFrom_cons_slot]
  exact Closed.append (.of_isPlain (Scan.isPlain_placeholder next)) (sealed_nil (next + 1))

namespace Sealed

variable {f g : Fragment}

theorem append (first : f.Sealed) (second : g.Sealed) : Sealed (f ++ g) := by
  intro next
  rw [textFrom_append]
  exact (first next).append (second _)

theorem parenthesized (inner : f.Sealed) : f.parenthesized.Sealed := by
  intro next
  have chars : (f.parenthesized.textFrom next).toList =
      '(' :: (f.textFrom next).toList ++ [')'] := by
    rw [Fragment.parenthesized, textFrom_append, textFrom_cons_text, textFrom_cons_text]
    simp [textFrom, textsFrom]
  rw [closed_iff_balanced, chars]
  exact ((closed_iff_balanced _).mp (inner next)).parenthesized

end Sealed

theorem run?_templateFragment (cs : List Char) (vs : List Value) (next : Nat) (s : Scan) :
    s.run? ((templateFragment cs vs).textFrom next).toList = s.run? cs := by
  induction cs generalizing vs next s with
  | nil => rfl
  | cons c cs ih =>
      cases vs with
      | nil => simp [templateFragment, textFrom, textsFrom]
      | cons v vs =>
          unfold templateFragment
          split
          · rename_i mark
            rw [mark, Scan.run?_cons, Scan.next?_of_isPlain rfl, textFrom_cons_slot,
              String.toList_append, Scan.run?_append,
              Scan.run?_of_isPlain (Scan.isPlain_placeholder next)]
            exact ih vs (next + 1) s
          · have char : c.toString.toList = [c] := by simp
            rw [textFrom_cons_text, String.toList_append, char, List.singleton_append,
              Scan.run?_cons, Scan.run?_cons]
            -- The rest is read from wherever this character leads.
            apply congrArg (Option.bind _)
            funext t
            exact ih (v :: vs) next t

theorem sealed_templateFragment {sql : String} (closed : Closed sql)
    (values : List Value) : (templateFragment sql.toList values).Sealed := by
  intro next
  rw [Closed, run?_templateFragment]
  exact closed

theorem sealed_keptByWriting : KeptByWriting Sealed where
  nil := sealed_nil
  word word := sealed_text.mpr (.of_isPlain word.isPlain)
  escape := sealed_text.mpr (by decide)
  slot := sealed_slot
  concat first second := sealed_text.mpr ((sealed_text.mp first).append (sealed_text.mp second))
  append := Sealed.append
  parenthesized := Sealed.parenthesized

end Fragment

namespace Term

/-- The SQL text that is copied unread. -/
def verbatim : Term → List String
  | .expr (.verbatim sql) => [sql]
  | .condition (.template sql _) => [sql]
  | _ => []

end Term

theorem Ident.sealed_leaves (path : Ident) : ∀ f ∈ path.leaves, f.Sealed := by
  rw [leaves, List.forall_mem_map]
  exact fun s _ => sealed_text.mpr s.closed_sql

theorem Term.sealed_leaves (t : Term) (copied : ∀ sql ∈ t.verbatim, Closed sql) :
    ∀ f ∈ t.leaves, f.Sealed := by
  unfold Term.leaves
  split
  · exact Ident.sealed_leaves _
  · exact List.forall_mem_singleton.mpr (sealed_text.mpr (copied _ List.mem_cons_self))
  · exact List.forall_mem_singleton.mpr (sealed_text.mpr (closed_stringConstant _))
  · exact List.forall_mem_singleton.mpr
      (sealed_templateFragment (copied _ List.mem_cons_self) _)
  · rename_i table _ _ _
    cases table with
    | none => exact List.forall_mem_nil _
    | some t => exact t.ident.sealed_leaves
  · exact List.forall_mem_nil _

theorem Term.eq_of_within {u t : Term} (inside : u.Within t) (single : t.parts = []) : t = u := by
  rcases inside.cases_tail with same | ⟨part, -, member⟩
  · exact same
  · rw [single] at member
    cases member

namespace Root

def Copies (q : Root) (sql : String) : Prop :=
  ∃ t ∈ q.terms, ∃ u : Term, u.Within t ∧ sql ∈ u.verbatim

/-- No name and no bound value opens or closes a quote or a parenthesis around it. -/
theorem closed_render {q : Root} (valid : Query.validate q = .ok ())
    (copied : ∀ sql, q.Copies sql → Closed sql) (ps : Params) : Closed (Query.render q ps).1 := by
  have sound : q.defect? = none := (Defect.check_eq_ok_iff _).mp valid
  have whole : q.fragment.Sealed := by
    apply q.kept_fragment sealed_keptByWriting sound
    · exact fun t _ => t.ident.sealed_leaves
    · intro t member u inside
      exact u.sealed_leaves fun sql among => copied sql ⟨t, member, u, inside, among⟩
  rw [Query.render_eq]
  exact whole (ps.size + 1)

def unevenSelect : Root :=
  .select ⟨[.column ⟨[.quoted "it's"], .quoted "a\"(b"⟩], some ⟨⟨[], .quoted "it's"⟩⟩,
    .template "n = '(' || ?" [.text ")"], [], none⟩

theorem closed_render_unevenSelect : Closed (Query.render unevenSelect .empty).1 := by
  apply closed_render rfl
  rintro sql ⟨t, root, u, inside, among⟩
  obtain rfl := List.mem_singleton.mp root
  rcases inside.cases_tail with rfl | ⟨part, within, member⟩
  · cases among
  · simp only [Term.parts, List.map_cons, List.map_nil, List.singleton_append, List.mem_cons,
      List.not_mem_nil, or_false] at member
    rcases member with rfl | rfl
    · obtain rfl := Term.eq_of_within within rfl
      cases among
    · obtain rfl := Term.eq_of_within within rfl
      obtain rfl := List.mem_singleton.mp among
      decide

end Root
end SqlBuilder
