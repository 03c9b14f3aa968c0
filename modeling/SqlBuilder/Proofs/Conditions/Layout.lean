import SqlBuilder.Proofs.Conditions.Grammar
import SqlBuilder.Proofs.Conditions.WhereClause

namespace SqlBuilder

abbrev Layout := List (Token Condition)

def Token.fragment : Token Condition → Fragment
  | .atom c => c.fragment
  | .and => [.text " AND "]
  | .or => [.text " OR "]
  | .not => [.text "NOT "]
  | .leftParen => [.text "("]
  | .rightParen => [.text ")"]

def Token.enclosed {α : Type} (ts : List (Token α)) : List (Token α) :=
  .leftParen :: ts ++ [.rightParen]

def Layout.fragment (ts : Layout) : Fragment := ts.flatMap Token.fragment

namespace Condition

mutual

def layout : Condition → Layout
  | .neutral => []
  | .conjunction members => [Token.and].intercalate (memberLayouts members)
  | .disjunction members => [Token.or].intercalate (memberLayouts members)
  | .negation operand => .not :: Token.enclosed operand.layout
  | c => [.atom c]

def memberLayouts : List Condition → List Layout
  | [] => []
  | c :: cs =>
      (if c.needsParentheses then Token.enclosed c.layout else c.layout) :: memberLayouts cs

end

theorem layout_of_isLeaf {c : Condition} (isLeaf : c.isLeaf = true) : c.layout = [.atom c] := by
  cases c with
  | neutral => simp [Condition.isLeaf] at isLeaf
  | conjunction members => simp [Condition.isLeaf] at isLeaf
  | disjunction members => simp [Condition.isLeaf] at isLeaf
  | negation operand => simp [Condition.isLeaf] at isLeaf
  | _ => rfl

end Condition

def Condition.memberLayout (c : Condition) : Layout :=
  if c.needsParentheses then Token.enclosed c.layout else c.layout

theorem Condition.memberLayouts_eq_map (cs : List Condition) :
    memberLayouts cs = cs.map memberLayout := by
  induction cs with
  | nil => rfl
  | cons c cs ih => rw [memberLayouts, ih, List.map_cons, memberLayout]

namespace Layout

theorem fragment_append (first second : Layout) :
    fragment (first ++ second) = first.fragment ++ second.fragment :=
  List.flatMap_append

theorem intercalate_cons {α : Type} (word : α) (ts : List α) (members : List (List α)) :
    [word].intercalate (ts :: members) = ts ++ members.flatMap (word :: ·) := by
  induction members generalizing ts with
  | nil => simp
  | cons us members ih =>
      rw [List.intercalate_cons_cons, ih us, List.flatMap_cons, List.append_assoc,
        List.singleton_append, List.cons_append]

theorem fragment_enclosed (ts : Layout) :
    fragment (Token.enclosed ts) = ts.fragment.parenthesized := by
  rw [Token.enclosed, List.cons_append, ← List.singleton_append, fragment_append, fragment_append]
  rfl

theorem fragment_intercalate {word : Token Condition} {separator : String}
    (written : word.fragment = [.text separator]) (members : List Layout) :
    fragment ([word].intercalate members) = Fragment.join separator (members.map fragment) := by
  unfold Fragment.join
  induction members with
  | nil => rfl
  | cons ts members ih =>
      cases members with
      | nil => simp
      | cons us members =>
          have between : fragment [word] = [.text separator] := by simpa [fragment] using written
          rw [List.intercalate_cons_cons, fragment_append, fragment_append, ih, between]
          simp only [List.map_cons, List.intercalate_cons_cons]

end Layout

namespace Condition

variable {P : Condition → Prop}

theorem Reduced.isBlank {c : Condition} (reduced : c.Reduced P)
    (written : ∀ a, P a → a.isEmptyVerbatim = false) : c.fragment.isBlank = false := by
  rw [reduced.isBlank_eq]
  cases reduced with
  | leaf isLeaf holds =>
      rw [isEmptyText_of_isLeaf isLeaf]
      exact written _ holds
  | conjunction => rfl
  | disjunction => rfl
  | negation reduced single =>
      cases reduced with
      | leaf isLeaf holds => exact written _ holds
      | conjunction => rfl
      | disjunction => rfl
      | negation => exact absurd single (by simp [isNegation])

theorem memberFragments_eq {members : List Condition} (reduced : ∀ m ∈ members, m.Reduced P)
    (eq : ∀ m ∈ members, m.fragment = m.layout.fragment) :
    memberFragments members = (memberLayouts members).map Layout.fragment := by
  induction members with
  | nil => rfl
  | cons m members ih =>
      obtain ⟨first, rest⟩ := List.forall_mem_cons.mp eq
      obtain ⟨head, tail⟩ := List.forall_mem_cons.mp reduced
      have absent : ¬ m.isNeutral = true := by simp [head.isNeutral]
      rw [memberFragments, if_neg absent, memberLayouts, List.map_cons, ih tail rest, first]
      split
      · rw [Layout.fragment_enclosed]
      · rfl

theorem Reduced.fragment_eq {c : Condition} (reduced : c.Reduced P)
    (written : ∀ a, P a → a.isEmptyVerbatim = false) : c.fragment = c.layout.fragment := by
  induction reduced with
  | leaf isLeaf _ =>
      rw [layout_of_isLeaf isLeaf]
      exact (List.append_nil _).symm
  | conjunction two reduced flat ih =>
      rw [Condition.fragment, layout, Layout.fragment_intercalate rfl,
        memberFragments_eq reduced ih]
  | disjunction two reduced flat ih =>
      rw [Condition.fragment, layout, Layout.fragment_intercalate rfl,
        memberFragments_eq reduced ih]
  | negation reduced single ih =>
      have inner := reduced.isBlank written
      rw [Condition.fragment, if_neg (by simp [inner]), ih, ← Layout.fragment_enclosed, layout]
      rfl

theorem mem_memberLayout {c a : Condition} (among : .atom a ∈ c.memberLayout) :
    .atom a ∈ c.layout := by
  unfold memberLayout at among
  split at among
  · simpa [Token.enclosed] using among
  · exact among

theorem mem_group {word : Token Condition} {members : List Condition} {a : Condition}
    (apart : word ≠ .atom a) (among : .atom a ∈ [word].intercalate (memberLayouts members)) :
    ∃ m ∈ members, .atom a ∈ m.layout := by
  rw [memberLayouts_eq_map] at among
  cases members with
  | nil => simp at among
  | cons m members =>
      rw [List.map_cons, Layout.intercalate_cons] at among
      rcases List.mem_append.mp among with first | later
      · exact ⟨m, List.mem_cons_self, mem_memberLayout first⟩
      · obtain ⟨ts, there, found⟩ := List.mem_flatMap.mp later
        obtain ⟨n, member, rfl⟩ := List.mem_map.mp there
        rcases List.mem_cons.mp found with same | found
        · exact absurd same.symm apart
        · exact ⟨n, List.mem_cons_of_mem _ member, mem_memberLayout found⟩

theorem Reduced.holds_of_mem_layout {c : Condition} (reduced : c.Reduced P) :
    ∀ a, .atom a ∈ c.layout → P a := by
  induction reduced with
  | leaf isLeaf holds =>
      intro a among
      rw [layout_of_isLeaf isLeaf] at among
      obtain rfl := Token.atom.inj (List.mem_singleton.mp among)
      exact holds
  | conjunction two reduced flat ih =>
      intro a among
      obtain ⟨m, member, found⟩ := mem_group (by simp) among
      exact ih m member a found
  | disjunction two reduced flat ih =>
      intro a among
      obtain ⟨m, member, found⟩ := mem_group (by simp) among
      exact ih m member a found
  | negation reduced single ih =>
      intro a among
      exact ih a (by simpa [layout, Token.enclosed] using among)

end Condition
end SqlBuilder
