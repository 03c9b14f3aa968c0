import SqlBuilder.Term.Basic
import SqlBuilder.Fragment

namespace SqlBuilder

def stringConstant (text : String) : String :=
  "'" ++ String.ofList (text.toList.flatMap fun c => if c = '\'' then [c, c] else [c]) ++ "'"

def templateFragment : List Char → List Value → Fragment
  | [], _ => []
  | c :: cs, [] => [.text (String.ofList (c :: cs))]
  | c :: cs, v :: vs =>
      if c = '?' then .slot v :: templateFragment cs vs
      else .text c.toString :: templateFragment cs (v :: vs)

def Condition.needsParentheses : Condition → Bool
  | .conjunction _ => true
  | .disjunction _ => true
  | .template _ _ => true
  | .truth (.column _) => false
  | .truth (.bind _) => false
  | .truth (.call _ _) => false
  | .truth (.binary _ _ _) => false
  | .truth _ => true
  | _ => false

mutual

def Expr.fragment : Expr → Fragment
  | .column path => [.text path.sql]
  | .bind value => [.slot value]
  | .verbatim sql => [.text sql]
  | .literal text => [.text (stringConstant text)]
  | .call function arguments =>
      .text function.sql :: (Fragment.join ", " (Expr.fragments arguments)).parenthesized
  | .binary left operator right =>
      Fragment.parenthesized
        (left.fragment ++ .text (" " ++ operator.sql ++ " ") :: right.fragment)
  | .complement operand => .text "~" :: operand.fragment
  | .caseOf subject arms =>
      .text "CASE " :: subject.fragment ++ Expr.armFragment arms ++ [.text " END"]
  | .subquery select => select.fragment.parenthesized
  | .quantified quantifier select =>
      .text (quantifier.sql ++ " ") :: select.fragment.parenthesized
  | .rejected cause => [.defect (.rejected cause)]

def Expr.fragments : List Expr → List Fragment
  | [] => []
  | e :: es => e.fragment :: Expr.fragments es

def Expr.armFragment : List (Expr × Value) → Fragment
  | [] => []
  | (key, value) :: arms =>
      .text " WHEN " :: key.fragment ++ .text " THEN " :: .slot value :: Expr.armFragment arms

def Condition.fragment : Condition → Fragment
  | .neutral => []
  | .constant value => [.text (if value then "1=1" else "1=0")]
  | .conjunction members => Fragment.join " AND " (Condition.memberFragments members)
  | .disjunction members => Fragment.join " OR " (Condition.memberFragments members)
  | .negation operand =>
      let inner := operand.fragment
      if inner.isBlank then inner else .text "NOT " :: inner.parenthesized
  | .comparison left operator right =>
      left.fragment ++ .text (" " ++ operator.sql ++ " ") :: right.fragment
  | .pattern subject ignoreCase negated pattern =>
      subject.fragment ++ .text (" " ++ (Comparison.likeWith ignoreCase negated).sql ++ " ") ::
        pattern.fragment ++ [.text " ESCAPE '!'"]
  | .nullCheck operand negated =>
      operand.fragment ++ [.text (if negated then " IS NOT NULL" else " IS NULL")]
  | .inList operand negated values =>
      operand.fragment ++ .text (if negated then " NOT IN " else " IN ") ::
        (Fragment.join ", " (Expr.fragments values)).parenthesized
  | .inSelect operand negated select =>
      operand.fragment ++ .text (if negated then " NOT IN " else " IN ") ::
        select.fragment.parenthesized
  | .range operand kind low high =>
      operand.fragment ++ .text (" " ++ kind.sql ++ " ") :: low.fragment ++
        .text " AND " :: high.fragment
  | .existence negated select =>
      .text (if negated then "NOT EXISTS " else "EXISTS ") :: select.fragment.parenthesized
  | .truth operand => operand.fragment
  | .template sql values => templateFragment sql.toList values

def Condition.memberFragments : List Condition → List Fragment
  | [] => []
  | c :: cs =>
      if c.isNeutral then Condition.memberFragments cs
      else (if c.needsParentheses then c.fragment.parenthesized else c.fragment) ::
        Condition.memberFragments cs

def Select.fragment : Select → Fragment
  | ⟨columns, table, condition, orderBy, limit⟩ =>
      .text "SELECT " ::
        (if columns.isEmpty then [.defect .selectWithoutColumns] else []) ++
        Fragment.join ", " (Expr.fragments columns) ++
        (match table with
          | some t => [.text (" FROM " ++ t.sql)]
          | none => []) ++
        condition.fragment.clause " WHERE " ++
        Fragment.listClause " ORDER BY " (Select.orderFragments orderBy) ++
        (match limit with
          | some n => [.text (" LIMIT " ++ toString n)]
          | none => [])

def Select.orderFragments : List (Expr × SortOrder) → List Fragment
  | [] => []
  | (key, order) :: items =>
      (key.fragment ++ [.text (" " ++ order.sql)]) :: Select.orderFragments items

end

def Condition.standalone (c : Condition) : Fragment :=
  if c.isNeutral then [.text "1=1"] else c.fragment

/-- Assignments and column lists name a column without its table. Anything else is written out
but binds nothing. -/
def Expr.targetFragment (e : Expr) : Fragment :=
  match e.columnName? with
  | some name => [.text name.sql]
  | none => e.fragment.unbound

theorem Expr.targetFragment_of_columnName? {e : Expr} {name : Segment}
    (column : e.columnName? = some name) : e.targetFragment = [.text name.sql] := by
  unfold Expr.targetFragment
  rw [column]

@[simp] theorem Expr.fragments_eq_map (es : List Expr) :
    Expr.fragments es = es.map Expr.fragment := by
  induction es with
  | nil => rfl
  | cons e es ih => simp [Expr.fragments, ih]

theorem Condition.memberFragments_eq_map (cs : List Condition) :
    Condition.memberFragments cs = (cs.filter (!·.isNeutral)).map fun c =>
      if c.needsParentheses then c.fragment.parenthesized else c.fragment := by
  induction cs with
  | nil => rfl
  | cons c cs ih => cases neutral : c.isNeutral <;> simp [Condition.memberFragments, neutral, ih]

end SqlBuilder
