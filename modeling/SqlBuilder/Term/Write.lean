import SqlBuilder.Term.Render
import SqlBuilder.Writer

namespace SqlBuilder

def writeTemplate : List Char → List Value → Writer String
  | [], _ => return ""
  | c :: cs, [] => return String.ofList (c :: cs)
  | c :: cs, v :: vs =>
      if c = '?' then do
        let head ← Writer.bound v
        let rest ← writeTemplate cs vs
        return head ++ rest
      else do
        let rest ← writeTemplate cs (v :: vs)
        return c.toString ++ rest

mutual

def Expr.write : Expr → Writer String
  | .column path => return path.sql
  | .bind value => Writer.bound value
  | .verbatim sql => return sql
  | .literal text => return stringConstant text
  | .call function arguments => do
      let arguments ← Writer.parenthesized (Writer.separated ", " (Expr.writeAll arguments))
      return function.sql ++ arguments
  | .binary left operator right => Writer.parenthesized do
      let left ← left.write
      let right ← right.write
      return left ++ " " ++ operator.sql ++ " " ++ right
  | .complement operand => do
      let operand ← operand.write
      return "~" ++ operand
  | .caseOf subject arms => do
      let subject ← subject.write
      let arms ← Expr.writeArms arms
      return "CASE " ++ subject ++ arms ++ " END"
  | .subquery select => Writer.parenthesized select.write
  | .quantified quantifier select => do
      let select ← Writer.parenthesized select.write
      return quantifier.sql ++ " " ++ select
  | .rejected cause => return (Defect.rejected cause).sql

def Expr.writeAll : List Expr → Writer (List String)
  | [] => return []
  | e :: es => do
      let text ← e.write
      let texts ← Expr.writeAll es
      return text :: texts

def Expr.writeArms : List (Expr × Value) → Writer String
  | [] => return ""
  | (key, value) :: arms => do
      let key ← key.write
      let value ← Writer.bound value
      let arms ← Expr.writeArms arms
      return " WHEN " ++ key ++ " THEN " ++ value ++ arms

def Condition.write : Condition → Writer String
  | .neutral => return ""
  | .constant value => return if value then "1=1" else "1=0"
  | .conjunction members => Writer.separated " AND " (Condition.writeMembers members)
  | .disjunction members => Writer.separated " OR " (Condition.writeMembers members)
  | .negation operand => do
      let operand ← operand.write
      return if operand.isEmpty then operand else "NOT (" ++ operand ++ ")"
  | .comparison left operator right => do
      let left ← left.write
      let right ← right.write
      return left ++ " " ++ operator.sql ++ " " ++ right
  | .pattern subject ignoreCase negated pattern => do
      let subject ← subject.write
      let pattern ← pattern.write
      return subject ++ " " ++ (Comparison.likeWith ignoreCase negated).sql ++ " " ++ pattern ++
        " ESCAPE '!'"
  | .nullCheck operand negated => do
      let operand ← operand.write
      return operand ++ if negated then " IS NOT NULL" else " IS NULL"
  | .inList operand negated values => do
      let operand ← operand.write
      let values ← Writer.parenthesized (Writer.separated ", " (Expr.writeAll values))
      return operand ++ (if negated then " NOT IN " else " IN ") ++ values
  | .inSelect operand negated select => do
      let operand ← operand.write
      let select ← Writer.parenthesized select.write
      return operand ++ (if negated then " NOT IN " else " IN ") ++ select
  | .range operand kind low high => do
      let operand ← operand.write
      let low ← low.write
      let high ← high.write
      return operand ++ " " ++ kind.sql ++ " " ++ low ++ " AND " ++ high
  | .existence negated select => do
      let select ← Writer.parenthesized select.write
      return (if negated then "NOT EXISTS " else "EXISTS ") ++ select
  | .truth operand => operand.write
  | .template sql values => writeTemplate sql.toList values

def Condition.writeMembers : List Condition → Writer (List String)
  | [] => return []
  | c :: cs =>
      if c.isNeutral then Condition.writeMembers cs
      else do
        let text ← if c.needsParentheses then Writer.parenthesized c.write else c.write
        let texts ← Condition.writeMembers cs
        return text :: texts

def Select.write : Select → Writer String
  | ⟨columns, table, condition, orderBy, limit⟩ => do
      let columns ← Writer.separated ", " (Expr.writeAll columns)
      let table := match table with
        | some t => " FROM " ++ t.sql
        | none => ""
      let condition ← Writer.clause " WHERE " condition.write
      let orderBy ← Writer.listClause " ORDER BY " (Select.writeOrder orderBy)
      let limit := match limit with
        | some n => " LIMIT " ++ toString n
        | none => ""
      return "SELECT " ++ columns ++ table ++ condition ++ orderBy ++ limit

def Select.writeOrder : List (Expr × SortOrder) → Writer (List String)
  | [] => return []
  | (key, order) :: items => do
      let key ← key.write
      let items ← Select.writeOrder items
      return (key ++ " " ++ order.sql) :: items

end

theorem writeTemplate_eq (cs : List Char) (vs : List Value) :
    writeTemplate cs vs = (templateFragment cs vs).render := by
  induction cs generalizing vs with
  | nil => simp [writeTemplate, templateFragment, Fragment.render_nil]
  | cons c cs ih =>
      cases vs with
      | nil => simp [writeTemplate, templateFragment, Fragment.render_text, Fragment.render_nil]
      | cons v vs =>
          by_cases mark : c = '?'
          · simp [writeTemplate, templateFragment, mark, Fragment.render_slot, ih]
          · simp [writeTemplate, templateFragment, mark, Fragment.render_text, ih]

mutual

theorem Expr.write_eq : (e : Expr) → e.write = e.fragment.render
  | .column path => by simp [Expr.write, Expr.fragment, Fragment.render_text, Fragment.render_nil]
  | .bind value => by simp [Expr.write, Expr.fragment, Fragment.render_slot, Fragment.render_nil]
  | .verbatim sql => by simp [Expr.write, Expr.fragment, Fragment.render_text, Fragment.render_nil]
  | .literal text => by simp [Expr.write, Expr.fragment, Fragment.render_text, Fragment.render_nil]
  | .call function arguments => by
      rw [Expr.write, Expr.fragment, Expr.writeAll_eq arguments, Fragment.render_text,
        Fragment.render_parenthesized, Fragment.render_join]
  | .binary left operator right => by
      rw [Expr.write, Expr.fragment, Expr.write_eq left, Expr.write_eq right,
        Fragment.render_parenthesized, Fragment.render_append, Fragment.render_text]
      simp [String.append_assoc]
  | .complement operand => by
      rw [Expr.write, Expr.fragment, Expr.write_eq operand, Fragment.render_text]
  | .caseOf subject arms => by
      rw [Expr.write, Expr.fragment, Expr.write_eq subject, Expr.writeArms_eq arms]
      simp [Fragment.render_text, Fragment.render_append, Fragment.render_nil, String.append_assoc]
  | .subquery select => by
      rw [Expr.write, Expr.fragment, Select.write_eq select, Fragment.render_parenthesized]
  | .quantified quantifier select => by
      rw [Expr.write, Expr.fragment, Select.write_eq select, Fragment.render_text,
        Fragment.render_parenthesized]
  | .rejected cause => by
      simp [Expr.write, Expr.fragment, Fragment.render_defect, Fragment.render_nil]

theorem Expr.writeAll_eq : (es : List Expr) →
    Expr.writeAll es = (Expr.fragments es).mapM Fragment.render
  | [] => rfl
  | e :: es => by
      rw [Expr.writeAll, Expr.fragments, List.mapM_cons, Expr.write_eq e, Expr.writeAll_eq es]

theorem Expr.writeArms_eq : (arms : List (Expr × Value)) →
    Expr.writeArms arms = (Expr.armFragment arms).render
  | [] => by rw [Expr.writeArms, Expr.armFragment, Fragment.render_nil]
  | (key, value) :: arms => by
      rw [Expr.writeArms, Expr.armFragment, Expr.write_eq key, Expr.writeArms_eq arms]
      simp [Fragment.render_text, Fragment.render_append, Fragment.render_slot, String.append_assoc]

theorem Condition.write_eq : (c : Condition) → c.write = c.fragment.render
  | .neutral => by rw [Condition.write, Condition.fragment, Fragment.render_nil]
  | .constant value => by
      simp [Condition.write, Condition.fragment, Fragment.render_text, Fragment.render_nil]
  | .conjunction members => by
      rw [Condition.write, Condition.fragment, Condition.writeMembers_eq members,
        Fragment.render_join]
  | .disjunction members => by
      rw [Condition.write, Condition.fragment, Condition.writeMembers_eq members,
        Fragment.render_join]
  | .negation operand => by
      rw [Condition.write, Condition.fragment, Condition.write_eq operand,
        Fragment.render_negated]
  | .comparison left operator right => by
      rw [Condition.write, Condition.fragment, Expr.write_eq left, Expr.write_eq right]
      simp [Fragment.render_text, Fragment.render_append, String.append_assoc]
  | .pattern subject ignoreCase negated pattern => by
      rw [Condition.write, Condition.fragment, Expr.write_eq subject, Expr.write_eq pattern]
      simp [Fragment.render_text, Fragment.render_append, Fragment.render_nil, String.append_assoc]
  | .nullCheck operand negated => by
      rw [Condition.write, Condition.fragment, Expr.write_eq operand]
      simp [Fragment.render_text, Fragment.render_append, Fragment.render_nil]
  | .inList operand negated values => by
      rw [Condition.write, Condition.fragment, Expr.write_eq operand, Expr.writeAll_eq values]
      simp [Fragment.render_text, Fragment.render_append, Fragment.render_parenthesized,
        Fragment.render_join, String.append_assoc]
  | .inSelect operand negated select => by
      rw [Condition.write, Condition.fragment, Expr.write_eq operand, Select.write_eq select]
      simp [Fragment.render_text, Fragment.render_append, Fragment.render_parenthesized,
        String.append_assoc]
  | .range operand kind low high => by
      rw [Condition.write, Condition.fragment, Expr.write_eq operand, Expr.write_eq low,
        Expr.write_eq high]
      simp [Fragment.render_text, Fragment.render_append, String.append_assoc]
  | .existence negated select => by
      rw [Condition.write, Condition.fragment, Select.write_eq select, Fragment.render_text,
        Fragment.render_parenthesized]
  | .truth operand => by rw [Condition.write, Condition.fragment, Expr.write_eq operand]
  | .template sql values => by rw [Condition.write, Condition.fragment, writeTemplate_eq]

theorem Condition.writeMembers_eq : (cs : List Condition) →
    Condition.writeMembers cs = (Condition.memberFragments cs).mapM Fragment.render
  | [] => rfl
  | c :: cs => by
      rw [Condition.writeMembers, Condition.memberFragments, Condition.write_eq c,
        Condition.writeMembers_eq cs]
      split
      · rfl
      · split <;> simp [List.mapM_cons, Fragment.render_parenthesized]

theorem Select.write_eq : (s : Select) → s.write = s.fragment.render
  | ⟨columns, table, condition, orderBy, limit⟩ => by
      unfold Select.write Select.fragment
      rw [Expr.writeAll_eq columns, Condition.write_eq condition, Select.writeOrder_eq orderBy,
        ← Fragment.render_join, ← Fragment.render_clause, ← Fragment.render_listClause]
      cases table <;> cases limit <;> cases columns <;>
        simp [Fragment.render_text, Fragment.render_append, Fragment.render_nil,
          Fragment.render_defect, Defect.sql, String.append_assoc]

theorem Select.writeOrder_eq : (items : List (Expr × SortOrder)) →
    Select.writeOrder items = (Select.orderFragments items).mapM Fragment.render
  | [] => rfl
  | (key, order) :: items => by
      rw [Select.writeOrder, Select.orderFragments, List.mapM_cons, Expr.write_eq key,
        Select.writeOrder_eq items]
      simp [Fragment.render_text, Fragment.render_append, Fragment.render_nil, String.append_assoc]

end

def Condition.writeStandalone (c : Condition) : Writer String :=
  if c.isNeutral then return "1=1" else c.write

def Expr.targetText (e : Expr) : String :=
  match e.columnName? with
  | some name => name.sql
  | none => (e.write .empty).1

theorem Condition.writeStandalone_eq (c : Condition) :
    c.writeStandalone = c.standalone.render := by
  unfold Condition.writeStandalone Condition.standalone
  split
  · simp [Fragment.render_text, Fragment.render_nil]
  · exact c.write_eq

theorem Expr.render_targetFragment (e : Expr) : e.targetFragment.render = pure e.targetText := by
  unfold Expr.targetFragment Expr.targetText
  cases e.columnName? with
  | some name => simp [Fragment.render_text, Fragment.render_nil]
  | none =>
      funext ps
      simp only [Fragment.render_unbound, e.write_eq]
      rfl

end SqlBuilder
