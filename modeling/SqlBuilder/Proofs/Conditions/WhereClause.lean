import SqlBuilder.Proofs.Conditions.Recipe
import SqlBuilder.Select
import SqlBuilder.Statement.Step

namespace SqlBuilder

open Fragment

theorem eq_empty_of_intercalate {separator : String} {texts : List String}
    (empty : separator.intercalate texts = "") : ∀ t ∈ texts, t = "" := by
  induction texts with
  | nil => simp
  | cons t texts ih =>
      cases texts with
      | nil => simpa using empty
      | cons u texts =>
          rw [String.intercalate_cons_cons, String.append_eq_empty_iff,
            String.append_eq_empty_iff] at empty
          exact List.forall_mem_cons.mpr ⟨empty.1.1, ih empty.2⟩

theorem Segment.sql_ne_empty (s : Segment) : s.sql ≠ "" := by
  intro empty
  have chars := congrArg String.toList empty
  cases s with
  | bare name => simp [Segment.sql, BareName.text, BareName.chars] at chars
  | quoted name => simp [Segment.sql] at chars

theorem Ident.sql_ne_empty (path : Ident) : path.sql ≠ "" := by
  intro empty
  apply path.name.sql_ne_empty
  exact eq_empty_of_intercalate empty _ (by simp [Ident.segments])

theorem stringConstant_ne_empty (text : String) : stringConstant text ≠ "" := by
  intro empty
  have chars := congrArg String.toList empty
  simp [stringConstant] at chars

theorem isBlank_templateFragment (cs : List Char) (vs : List Value) :
    (templateFragment cs vs).isBlank = cs.isEmpty := by
  cases cs with
  | nil => rfl
  | cons c cs =>
      cases vs with
      | nil => simp [templateFragment]
      | cons v vs =>
          unfold templateFragment
          split <;> simp

theorem Fragment.isBlank_join_of_two {separator : String} (written : separator ≠ "")
    {fragments : List Fragment} (two : 2 ≤ fragments.length) :
    (join separator fragments).isBlank = false := by
  cases fragments with
  | nil => simp at two
  | cons f fragments =>
      cases fragments with
      | nil => simp at two
      | cons g fragments => simp [join, List.intercalate_cons_cons, written]

namespace Expr

def isEmptyVerbatim : Expr → Bool
  | .verbatim sql => sql.isEmpty
  | _ => false

theorem isBlank_eq (e : Expr) : e.fragment.isBlank = e.isEmptyVerbatim := by
  cases e with
  | column path => simp [Expr.fragment, isEmptyVerbatim, path.sql_ne_empty]
  | literal text => simp [Expr.fragment, isEmptyVerbatim, stringConstant_ne_empty]
  | rejected cause => simp [Expr.fragment, isEmptyVerbatim, Defect.sql]
  | call function arguments => simp [Expr.fragment, isEmptyVerbatim]
  | binary left operator right => simp [Expr.fragment, isEmptyVerbatim]
  | complement operand => simp [Expr.fragment, isEmptyVerbatim]
  | caseOf subject arms => simp [Expr.fragment, isEmptyVerbatim]
  | subquery select => simp [Expr.fragment, isEmptyVerbatim]
  | quantified quantifier select => simp [Expr.fragment, isEmptyVerbatim]
  | bind value => rfl
  | verbatim sql => simp [Expr.fragment, isEmptyVerbatim]

end Expr

namespace Condition

variable {P : Condition → Prop}

def isEmptyVerbatim : Condition → Bool
  | .truth operand => operand.isEmptyVerbatim
  | .template sql _ => sql.isEmpty
  | _ => false

def isEmptyText : Condition → Bool
  | .negation operand => operand.isEmptyVerbatim
  | c => c.isEmptyVerbatim

theorem isBlank_of_isLeaf {c : Condition} (isLeaf : c.isLeaf = true) :
    c.fragment.isBlank = c.isEmptyVerbatim := by
  cases c with
  | neutral => simp [Condition.isLeaf] at isLeaf
  | conjunction members => simp [Condition.isLeaf] at isLeaf
  | disjunction members => simp [Condition.isLeaf] at isLeaf
  | negation operand => simp [Condition.isLeaf] at isLeaf
  | constant value => cases value <;> simp [Condition.fragment, isEmptyVerbatim]
  | comparison left operator right => simp [Condition.fragment, isEmptyVerbatim]
  | pattern subject ignoreCase negated sought => simp [Condition.fragment, isEmptyVerbatim]
  | nullCheck operand negated => cases negated <;> simp [Condition.fragment, isEmptyVerbatim]
  | inList operand negated values => simp [Condition.fragment, isEmptyVerbatim]
  | inSelect operand negated select => simp [Condition.fragment, isEmptyVerbatim]
  | range operand kind low high => simp [Condition.fragment, isEmptyVerbatim]
  | existence negated select => simp [Condition.fragment, isEmptyVerbatim]
  | truth operand => exact operand.isBlank_eq
  | template sql values =>
      rw [Condition.fragment, isBlank_templateFragment, isEmptyVerbatim, Bool.eq_iff_iff]
      simp

theorem isEmptyText_of_isLeaf {c : Condition} (isLeaf : c.isLeaf = true) :
    c.isEmptyText = c.isEmptyVerbatim := by
  cases c with
  | negation operand => simp [Condition.isLeaf] at isLeaf
  | _ => rfl

theorem length_memberFragments {members : List Condition} (reduced : ∀ m ∈ members, m.Reduced P) :
    (memberFragments members).length = members.length := by
  rw [memberFragments_eq_map, List.length_map, filter_of_reduced reduced]

theorem Reduced.isBlank_eq {c : Condition} (reduced : c.Reduced P) :
    c.fragment.isBlank = c.isEmptyText := by
  induction reduced with
  | leaf isLeaf => rw [isBlank_of_isLeaf isLeaf, isEmptyText_of_isLeaf isLeaf]
  -- A group has at least one of its words in the text, whatever its members are.
  | conjunction two reduced _ _ =>
      rw [Condition.fragment]
      exact isBlank_join_of_two (by decide) (by rwa [length_memberFragments reduced])
  | disjunction two reduced _ _ =>
      rw [Condition.fragment]
      exact isBlank_join_of_two (by decide) (by rwa [length_memberFragments reduced])
  | @negation operand reduced single ih =>
      -- NOT is left out before an empty operand, which cannot be negated itself.
      have inner : operand.isEmptyText = operand.isEmptyVerbatim := by
        cases operand with
        | negation operand => exact absurd single (by simp [isNegation])
        | _ => rfl
      rw [isEmptyText, ← inner, ← ih, Condition.fragment]
      split
      · rfl
      · rename_i written
        simpa using written

theorem NeutralOrReduced.isBlank_eq {c : Condition} (normal : c.NeutralOrReduced P) :
    c.fragment.isBlank = (c.isNeutral || c.isEmptyText) := by
  rcases normal with rfl | reduced
  · rfl
  · rw [reduced.isNeutral, reduced.isBlank_eq, Bool.false_or]

def whereClause (c : Condition) : Fragment :=
  if c.isNeutral || c.isEmptyText then [] else .text " WHERE " :: c.fragment

theorem NeutralOrReduced.clause_eq {c : Condition} (normal : c.NeutralOrReduced P) :
    c.fragment.clause " WHERE " = c.whereClause := by
  rw [Fragment.clause, normal.isBlank_eq, whereClause]

end Condition

def Select.beforeWhere (s : Select) : Fragment :=
  .text "SELECT " ::
    (if s.columns.isEmpty then [.defect .selectWithoutColumns] else []) ++
    join ", " (Expr.fragments s.columns) ++
    (match s.table with
      | some t => [.text (" FROM " ++ t.sql)]
      | none => [])

def Select.afterWhere (s : Select) : Fragment :=
  listClause " ORDER BY " (Select.orderFragments s.orderBy) ++
    (match s.limit with
      | some n => [.text (" LIMIT " ++ toString n)]
      | none => [])

theorem Select.fragment_eq (s : Select) :
    s.fragment = s.beforeWhere ++ s.condition.fragment.clause " WHERE " ++ s.afterWhere := by
  obtain ⟨columns, table, condition, orderBy, limit⟩ := s
  cases table <;> cases limit <;>
    simp [Select.fragment, Select.beforeWhere, Select.afterWhere]

def Update.beforeWhere (u : Update) : Fragment :=
  .text ("UPDATE " ++ u.table.sql ++ " SET ") :: u.set.setList

def Upsert.beforeWhere (s : Upsert) : Fragment :=
  .text ("INSERT INTO " ++ s.insert.table.sql) :: Insert.rowsFragment s.insert.rows ++
    .text " ON CONFLICT" :: Conflict.targetFragment ⟨s.target, .doNothing⟩ ++
    .text " DO UPDATE SET " :: s.set.setList

namespace Recipe

/-- A condition that is not neutral loses its WHERE clause when it is empty verbatim SQL. -/
theorem where_omitted_iff (r : Recipe) :
    (∀ ps, (r.build.write ps).1 = "" ↔
      r.build.isNeutral = true ∨ r.build.isEmptyText = true) ∧
    (∀ (s : Select) ps, Query.render (s.filter r.build) ps =
      (s.beforeWhere ++ r.build.whereClause ++ s.afterWhere).render ps) ∧
    (∀ (u : Update) ps, Query.render { u with condition := r.build } ps =
      (u.beforeWhere ++ r.build.whereClause ++ returningClause u.returning).render ps) ∧
    (∀ (s : Upsert) columns ps,
      Query.render { s.statementWhere r.build with returning := columns } ps =
        (s.beforeWhere ++ r.build.whereClause ++ returningClause columns).render ps) := by
  have normal := r.build_neutralOrReduced
  refine ⟨?_, ?_, ?_, ?_⟩
  · intro ps
    rw [r.build.write_eq, ← Bool.or_eq_true, ← normal.isBlank_eq]
    exact textFrom_eq_empty_iff _ _
  · intro s ps
    have text := (s.filter r.build).fragment_eq
    rw [show (s.filter r.build).condition = r.build from rfl, normal.clause_eq] at text
    rw [Query.render_eq]
    change Fragment.render (s.filter r.build).fragment ps = _
    rw [text]
    rfl
  · intro u ps
    rw [Query.render_eq]
    change Fragment.render (Update.fragment { u with condition := r.build }) ps = _
    rw [Update.fragment, normal.clause_eq]
    rfl
  · intro s columns ps
    rw [Query.render_eq]
    change Fragment.render
      (Insert.fragment { s.statementWhere r.build with returning := columns }) ps = _
    rw [Insert.fragment, Upsert.statementWhere, Insert.conflictClause, Conflict.fragment,
      ConflictAction.fragment, normal.clause_eq]
    simp [Upsert.beforeWhere, Conflict.targetFragment]

theorem where_omitted_emptySql :
    (build (.leaf (.template "" []) rfl)).isNeutral = false ∧
      Query.toSql (Update.mk ⟨⟨[], .quoted "t"⟩⟩
        (.single ⟨.column ⟨[], .quoted "a"⟩, .bind (.int4 1)⟩)
        (build (.leaf (.template "" []) rfl)) []) = "UPDATE \"t\" SET \"a\" = $1" := by
  decide +kernel

end Recipe
end SqlBuilder
