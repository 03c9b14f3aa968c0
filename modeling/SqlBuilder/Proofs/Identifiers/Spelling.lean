import SqlBuilder.Ident.Basic

namespace SqlBuilder

namespace BareName

theorem text_inj {m n : BareName} : m.text = n.text ↔ m = n := by
  constructor
  · intro same
    have chars : m.chars = n.chars := String.ofList_injective same
    obtain ⟨head, tail⟩ := List.cons_eq_cons.mp chars
    cases m
    cases n
    simp_all
  · rintro rfl
    rfl

theorem text_ne_quote_append (name : BareName) (s : String) : name.text ≠ "\"" ++ s := by
  intro same
  have chars : name.chars = '"' :: s.toList := by
    rw [← String.toList_ofList (l := name.chars)]
    simpa [text] using congrArg String.toList same
  obtain ⟨head, -⟩ := List.cons_eq_cons.mp chars
  have start := name.isStart
  rw [head] at start
  exact absurd start (by decide)

end BareName

namespace Segment

theorem doubleQuotes_inj {cs ds : List Char} : doubleQuotes cs = doubleQuotes ds ↔ cs = ds := by
  constructor
  · intro same
    induction cs generalizing ds with
    | nil =>
        cases ds with
        | nil => rfl
        | cons d ds =>
            rw [doubleQuotes_nil, doubleQuotes_cons] at same
            split at same <;> simp at same
    | cons c cs ih =>
        cases ds with
        | nil =>
            rw [doubleQuotes_nil, doubleQuotes_cons] at same
            split at same <;> simp at same
        | cons d ds =>
            rw [doubleQuotes_cons, doubleQuotes_cons] at same
            split at same
            · rename_i first
              split at same
              · rename_i second
                rw [first, second, ih (List.append_cancel_left same)]
              · rename_i second
                exact absurd (List.cons_eq_cons.mp same).1.symm second
            · rename_i first
              split at same
              · exact absurd (List.cons_eq_cons.mp same).1 first
              · obtain ⟨head, tail⟩ := List.cons_eq_cons.mp same
                rw [head, ih tail]
  · rintro rfl
    rfl

theorem sql_inj {s t : Segment} : s.sql = t.sql ↔ s = t := by
  constructor
  · intro same
    cases s with
    | bare name =>
        cases t with
        | bare other => rw [BareName.text_inj.mp same]
        | quoted other =>
            rw [sql, sql, String.append_assoc] at same
            exact absurd same (name.text_ne_quote_append _)
    | quoted name =>
        cases t with
        | bare other =>
            rw [sql, sql, String.append_assoc] at same
            exact absurd same.symm (other.text_ne_quote_append _)
        | quoted other =>
            have inner : doubleQuotes name.toList = doubleQuotes other.toList := by
              simpa [sql, String.append_assoc] using congrArg String.toList same
            rw [String.toList_injective (doubleQuotes_inj.mp inner)]
  · rintro rfl
    rfl

end Segment
end SqlBuilder
