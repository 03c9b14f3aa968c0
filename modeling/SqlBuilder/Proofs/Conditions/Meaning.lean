import SqlBuilder.Proofs.Conditions.Layout
import SqlBuilder.Proofs.Conditions.Value

namespace SqlBuilder

def Condition.isVerbatim : Condition → Bool
  | .truth (.verbatim _) => true
  | .template _ _ => true
  | _ => false

/-- Verbatim SQL is read as any boolean expression, with words outside of its parentheses if it
likes. Every other predicate is one atom. -/
structure Reading (α : Type) where
  tokens : Condition → List (Token α)
  tree : Condition → Tree α
  reads : ∀ c, Reads .disjunction (tokens c) (tree c)
  single : ∀ c, c.isVerbatim = false → ∃ a, tokens c = [.atom a]

variable {α : Type}

namespace Reading

def expand (r : Reading α) : Token Condition → List (Token α)
  | .atom c => r.tokens c
  | .and => [.and]
  | .or => [.or]
  | .not => [.not]
  | .leftParen => [.leftParen]
  | .rightParen => [.rightParen]

def ofLayout (r : Reading α) (ts : Layout) : List (Token α) := ts.flatMap r.expand

def value (r : Reading α) (atoms : α → Truth) (c : Condition) : Truth := (r.tree c).eval atoms

theorem ofLayout_append (r : Reading α) (first second : Layout) :
    r.ofLayout (first ++ second) = r.ofLayout first ++ r.ofLayout second :=
  List.flatMap_append

theorem ofLayout_flatMap {β : Type} (r : Reading α) (xs : List β) (f : β → Layout) :
    r.ofLayout (xs.flatMap f) = xs.flatMap fun x => r.ofLayout (f x) :=
  List.flatMap_assoc

theorem ofLayout_enclosed (r : Reading α) (ts : Layout) :
    r.ofLayout (Token.enclosed ts) = Token.enclosed (r.ofLayout ts) := by
  rw [Token.enclosed, List.cons_append, ← List.singleton_append, ofLayout_append, ofLayout_append]
  rfl

theorem tree_of_single (r : Reading α) {c : Condition} (atomic : c.isVerbatim = false) :
    Reads .primary (r.tokens c) (r.tree c) := by
  obtain ⟨a, tokens⟩ := r.single c atomic
  have found := r.reads c
  rw [tokens] at found ⊢
  rw [found.unique (.ofConjunction (.ofNegation (.ofPrimary (.atom a))))]
  exact .atom a

end Reading

/-- The sequence can be read at the level, as a tree whose value follows from the atoms. -/
def Means (level : Level) (ts : List (Token α)) (value : (α → Truth) → Truth) : Prop :=
  ∃ t, Reads level ts t ∧ ∀ atoms, t.eval atoms = value atoms

namespace Connective

def token : Connective → Token α
  | .and => .and
  | .or => .or

def level : Connective → Level
  | .and => .conjunction
  | .or => .disjunction

end Connective

namespace Means

variable {ts us : List (Token α)} {f g : (α → Truth) → Truth}

theorem enclosed (inner : Means .disjunction ts f) : Means .primary (Token.enclosed ts) f := by
  obtain ⟨t, reads, value⟩ := inner
  exact ⟨t, .group reads, value⟩

theorem not (operand : Means .negation ts f) :
    Means .negation (.not :: ts) fun atoms => (f atoms).not := by
  obtain ⟨t, reads, value⟩ := operand
  exact ⟨.not t, .not reads, fun atoms => congrArg Truth.not (value atoms)⟩

theorem ofPrimary (primary : Means .primary ts f) : Means .negation ts f := by
  obtain ⟨t, reads, value⟩ := primary
  exact ⟨t, .ofPrimary reads, value⟩

theorem start (k : Connective) (member : Means .negation ts f) : Means k.level ts f := by
  obtain ⟨t, reads, value⟩ := member
  cases k with
  | and => exact ⟨t, .ofNegation reads, value⟩
  | or => exact ⟨t, .ofConjunction (.ofNegation reads), value⟩

theorem join (k : Connective) (left : Means k.level ts f) (right : Means .negation us g) :
    Means k.level (ts ++ k.token :: us) fun atoms => k.apply (f atoms) (g atoms) := by
  obtain ⟨t, readsLeft, valueLeft⟩ := left
  obtain ⟨u, readsRight, valueRight⟩ := right
  cases k with
  | and =>
      refine ⟨.and t u, .and readsLeft readsRight, fun atoms => ?_⟩
      rw [Tree.eval, valueLeft, valueRight]
      rfl
  | or =>
      refine ⟨.or t u, .or readsLeft (.ofNegation readsRight), fun atoms => ?_⟩
      rw [Tree.eval, valueLeft, valueRight]
      rfl

theorem toDisjunction {level : Level} (inner : Means level ts f) : Means .disjunction ts f := by
  obtain ⟨t, reads, value⟩ := inner
  refine ⟨t, ?_, value⟩
  cases level with
  | primary => exact .ofConjunction (.ofNegation (.ofPrimary reads))
  | negation => exact .ofConjunction (.ofNegation reads)
  | conjunction => exact .ofConjunction reads
  | disjunction => exact reads

end Means

namespace Condition

def level : Condition → Level
  | .conjunction _ => .conjunction
  | .disjunction _ => .disjunction
  | .negation _ => .negation
  | c => if c.isVerbatim then .disjunction else .primary

theorem level_of_needsParentheses {c : Condition} (bare : c.needsParentheses = false) :
    c.level = .primary ∨ c.level = .negation := by
  cases c with
  | conjunction members => simp [needsParentheses] at bare
  | disjunction members => simp [needsParentheses] at bare
  | template sql values => simp [needsParentheses] at bare
  | negation operand => exact .inr rfl
  | truth operand =>
      cases operand with
      | verbatim sql => simp [needsParentheses] at bare
      | _ => exact .inl rfl
  | _ => exact .inl rfl

theorem level_of_isLeaf {c : Condition} (isLeaf : c.isLeaf = true) :
    c.level = if c.isVerbatim then .disjunction else .primary := by
  cases c with
  | neutral => simp [Condition.isLeaf] at isLeaf
  | conjunction members => simp [Condition.isLeaf] at isLeaf
  | disjunction members => simp [Condition.isLeaf] at isLeaf
  | negation operand => simp [Condition.isLeaf] at isLeaf
  | _ => rfl

variable {P : Condition → Prop} (r : Reading α)

theorem means_of_isLeaf {c : Condition} (isLeaf : c.isLeaf = true) :
    Means c.level (r.ofLayout c.layout) fun atoms => c.value (r.value atoms) := by
  have tokens : r.ofLayout c.layout = r.tokens c := by
    rw [layout_of_isLeaf isLeaf]
    exact List.append_nil _
  have reads : Reads c.level (r.tokens c) (r.tree c) := by
    rw [level_of_isLeaf isLeaf]
    cases verbatim : c.isVerbatim with
    | true => exact r.reads c
    | false => exact r.tree_of_single verbatim
  rw [tokens]
  exact ⟨r.tree c, reads, fun atoms => (value_of_isLeaf (r.value atoms) isLeaf).symm⟩

theorem means_member {c : Condition} {f : (α → Truth) → Truth}
    (means : Means c.level (r.ofLayout c.layout) f) :
    Means .negation (r.ofLayout c.memberLayout) f := by
  unfold memberLayout
  split
  · rw [Reading.ofLayout_enclosed]
    exact means.toDisjunction.enclosed.ofPrimary
  · rename_i bare
    rcases level_of_needsParentheses (Bool.eq_false_iff.mpr bare) with primary | negation
    · rw [primary] at means
      exact means.ofPrimary
    · rwa [negation] at means

theorem means_group (k : Connective) {members : List Condition}
    (means : ∀ m ∈ members, Means .negation (r.ofLayout m.memberLayout)
      fun atoms => m.value (r.value atoms))
    {ts : List (Token α)} {f : (α → Truth) → Truth} (first : Means k.level ts f) :
    Means k.level (ts ++ members.flatMap fun m => k.token :: r.ofLayout m.memberLayout)
      fun atoms => k.apply (f atoms) (k.ofList (members.map (value (r.value atoms)))) := by
  induction members generalizing ts f with
  | nil => simpa using first
  | cons m members ih =>
      obtain ⟨next, rest⟩ := List.forall_mem_cons.mp means
      have longer := ih rest (first.join k next)
      simpa [Connective.apply_assoc] using longer

theorem layout_group (k : Connective) (members : List Condition) :
    (k.group members).layout = [k.token].intercalate (memberLayouts members) := by
  cases k <;> rfl

theorem means_members (k : Connective) {members : List Condition} (nonempty : members ≠ [])
    (means : ∀ m ∈ members, Means m.level (r.ofLayout m.layout)
      fun atoms => m.value (r.value atoms)) :
    Means k.level (r.ofLayout (k.group members).layout)
      fun atoms => (k.group members).value (r.value atoms) := by
  cases members with
  | nil => exact absurd rfl nonempty
  | cons m members =>
      have inGroup := fun n member => means_member r (means n member)
      obtain ⟨first, rest⟩ := List.forall_mem_cons.mp inGroup
      have word : ∀ n : Condition, r.ofLayout (k.token :: n.memberLayout) =
          k.token :: r.ofLayout n.memberLayout := by
        intro n
        cases k <;> rfl
      have group := means_group r k rest (first.start k)
      rw [layout_group, memberLayouts_eq_map, List.map_cons, Layout.intercalate_cons,
        Reading.ofLayout_append, List.flatMap_map, Reading.ofLayout_flatMap]
      simpa only [word, value_group, List.map_cons, Connective.ofList_cons] using group

theorem Reduced.means {c : Condition} (reduced : c.Reduced P) :
    Means c.level (r.ofLayout c.layout) fun atoms => c.value (r.value atoms) := by
  -- Each condition is read at the level of its outermost word.
  induction reduced with
  | leaf isLeaf _ => exact means_of_isLeaf r isLeaf
  | conjunction two reduced flat ih =>
      have nonempty := List.ne_nil_of_length_pos (Nat.lt_of_lt_of_le Nat.zero_lt_two two)
      exact means_members r .and nonempty ih
  | disjunction two reduced flat ih =>
      have nonempty := List.ne_nil_of_length_pos (Nat.lt_of_lt_of_le Nat.zero_lt_two two)
      exact means_members r .or nonempty ih
  | @negation operand reduced single ih =>
      have negated := ih.toDisjunction.enclosed.ofPrimary.not
      rw [layout, ← List.singleton_append, Reading.ofLayout_append, Reading.ofLayout_enclosed]
      exact negated

theorem render_of_written {c : Condition} (written : c.isNeutral = false) (ps : Params) :
    Query.render c ps = c.fragment.render ps := by
  rw [Query.render_eq]
  change c.standalone.render ps = _
  rw [standalone, written]
  rfl

end Condition

namespace Recipe

def mixed : Recipe :=
  .any [.all [.leaf (.template "a OR b" []) rfl, .leaf (.constant true) rfl], .neutral,
    .negate (.leaf (.nullCheck (.column ⟨[], .quoted "c"⟩) false) rfl)]

example : Query.toSql mixed.build = "((a OR b) AND 1=1) OR NOT (\"c\" IS NULL)" := by
  decide +kernel

def twoAtoms : Reading (Condition × Bool) where
  tokens c := if c.isVerbatim then [.atom (c, false), .or, .atom (c, true)] else [.atom (c, false)]
  tree c := if c.isVerbatim then .or (.atom (c, false)) (.atom (c, true)) else .atom (c, false)
  reads c := by
    have single : ∀ b : Bool, Reads .conjunction [.atom (c, b)] (.atom (c, b)) :=
      fun b => .ofNegation (.ofPrimary (.atom (c, b)))
    split
    · exact .or (.ofConjunction (single false)) (single true)
    · exact .ofConjunction (single false)
  single c atomic := ⟨(c, false), by rw [atomic]; rfl⟩

end Recipe
end SqlBuilder
