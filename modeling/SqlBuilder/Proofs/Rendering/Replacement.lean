import SqlBuilder.Proofs.Rendering.Defects

namespace SqlBuilder

open Fragment

variable (g : Value → Value)

def Piece.mapValue : Piece → Piece
  | .slot v => .slot (g v)
  | .text s => .text s
  | .defect d => .defect d

def Fragment.mapValues (f : Fragment) : Fragment := f.map (Piece.mapValue g)

namespace Fragment

@[simp] theorem mapValues_nil : mapValues g [] = [] := rfl

@[simp] theorem mapValues_cons_text (s : String) (f : Fragment) :
    mapValues g (.text s :: f) = .text s :: f.mapValues g := rfl

@[simp] theorem mapValues_cons_slot (v : Value) (f : Fragment) :
    mapValues g (.slot v :: f) = .slot (g v) :: f.mapValues g := rfl

@[simp] theorem mapValues_cons_defect (d : Defect) (f : Fragment) :
    mapValues g (.defect d :: f) = .defect d :: f.mapValues g := rfl

@[simp] theorem mapValues_append (f h : Fragment) :
    mapValues g (f ++ h) = f.mapValues g ++ h.mapValues g := List.map_append

@[simp] theorem mapValues_parenthesized (f : Fragment) :
    f.parenthesized.mapValues g = (f.mapValues g).parenthesized := by
  simp [parenthesized]

theorem mapValues_join (separator : String) (fragments : List Fragment) :
    (join separator fragments).mapValues g = join separator (fragments.map (mapValues g)) := by
  unfold join
  induction fragments with
  | nil => rfl
  | cons f fragments ih =>
      cases fragments with
      | nil => simp
      | cons h fragments => simpa [List.intercalate_cons_cons] using ih

@[simp] theorem isBlank_mapValues (f : Fragment) : (f.mapValues g).isBlank = f.isBlank := by
  induction f with
  | nil => rfl
  | cons piece f ih => cases piece <;> simp [ih]

@[simp] theorem defects_mapValues (f : Fragment) : (f.mapValues g).defects = f.defects := by
  induction f with
  | nil => rfl
  | cons piece f ih => cases piece <;> simp [ih]

@[simp] theorem values_mapValues (f : Fragment) : (f.mapValues g).values = f.values.map g := by
  induction f with
  | nil => rfl
  | cons piece f ih => cases piece <;> simp [ih]

theorem textsFrom_mapValues (next : Nat) (f : Fragment) :
    textsFrom next (f.mapValues g) = textsFrom next f := by
  induction f generalizing next with
  | nil => rfl
  | cons piece f ih => cases piece <;> simp [textsFrom, ih]

theorem mapValues_clause (keyword : String) (f : Fragment) :
    (clause keyword f).mapValues g = clause keyword (f.mapValues g) := by
  unfold clause
  rw [isBlank_mapValues]
  split <;> rfl

theorem mapValues_listClause (keyword : String) (items : List Fragment) :
    (listClause keyword items).mapValues g = listClause keyword (items.map (mapValues g)) := by
  cases items with
  | nil => rfl
  | cons f items => simp [listClause, mapValues_join]

theorem mapValues_unboundFrom (next : Nat) (f : Fragment) :
    (f.unboundFrom next).mapValues g = (f.mapValues g).unboundFrom next := by
  induction f generalizing next with
  | nil => rfl
  | cons piece f ih => cases piece <;> simp [unboundFrom, ih]

end Fragment

mutual

def Expr.mapValues : Expr → Expr
  | .column path => .column path
  | .bind value => .bind (g value)
  | .verbatim sql => .verbatim sql
  | .literal text => .literal text
  | .call function arguments => .call function (Expr.mapAll arguments)
  | .binary left operator right => .binary left.mapValues operator right.mapValues
  | .complement operand => .complement operand.mapValues
  | .caseOf subject arms => .caseOf subject.mapValues (Expr.mapArms arms)
  | .subquery select => .subquery select.mapValues
  | .quantified quantifier select => .quantified quantifier select.mapValues
  | .rejected cause => .rejected cause

def Expr.mapAll : List Expr → List Expr
  | [] => []
  | e :: es => e.mapValues :: Expr.mapAll es

def Expr.mapArms : List (Expr × Value) → List (Expr × Value)
  | [] => []
  | (key, value) :: arms => (key.mapValues, g value) :: Expr.mapArms arms

def Condition.mapValues : Condition → Condition
  | .neutral => .neutral
  | .constant value => .constant value
  | .conjunction members => .conjunction (Condition.mapAll members)
  | .disjunction members => .disjunction (Condition.mapAll members)
  | .negation operand => .negation operand.mapValues
  | .comparison left operator right => .comparison left.mapValues operator right.mapValues
  | .pattern subject ignoreCase negated sought =>
      .pattern subject.mapValues ignoreCase negated sought.mapValues
  | .nullCheck operand negated => .nullCheck operand.mapValues negated
  | .inList operand negated values => .inList operand.mapValues negated (Expr.mapAll values)
  | .inSelect operand negated select => .inSelect operand.mapValues negated select.mapValues
  | .range operand kind low high => .range operand.mapValues kind low.mapValues high.mapValues
  | .existence negated select => .existence negated select.mapValues
  | .truth operand => .truth operand.mapValues
  | .template sql values => .template sql (values.map g)

def Condition.mapAll : List Condition → List Condition
  | [] => []
  | c :: cs => c.mapValues :: Condition.mapAll cs

def Select.mapValues : Select → Select
  | ⟨columns, table, condition, orderBy, limit⟩ =>
      ⟨Expr.mapAll columns, table, condition.mapValues, Select.mapOrder orderBy, limit⟩

def Select.mapOrder : List (Expr × SortOrder) → List (Expr × SortOrder)
  | [] => []
  | (key, order) :: items => (key.mapValues, order) :: Select.mapOrder items

end

@[simp] theorem Expr.mapAll_eq_map (es : List Expr) :
    Expr.mapAll g es = es.map (Expr.mapValues g) := by
  induction es with
  | nil => rfl
  | cons e es ih => rw [Expr.mapAll, ih, List.map_cons]

@[simp] theorem Condition.mapAll_eq_map (cs : List Condition) :
    Condition.mapAll g cs = cs.map (Condition.mapValues g) := by
  induction cs with
  | nil => rfl
  | cons c cs ih => rw [Condition.mapAll, ih, List.map_cons]

@[simp] theorem Expr.columnName?_mapValues (e : Expr) :
    (e.mapValues g).columnName? = e.columnName? := by
  cases e <;> rfl

theorem Condition.needsParentheses_mapValues (c : Condition) :
    (c.mapValues g).needsParentheses = c.needsParentheses := by
  cases c with
  | truth operand => cases operand <;> rfl
  | _ => rfl

mutual

theorem Condition.isNeutral_mapValues : (c : Condition) → (c.mapValues g).isNeutral = c.isNeutral
  | .neutral => rfl
  | .conjunction members => Condition.allNeutral_mapAll members
  | .disjunction members => Condition.allNeutral_mapAll members
  | .negation operand => Condition.isNeutral_mapValues operand
  | .constant _ => rfl
  | .comparison _ _ _ => rfl
  | .pattern _ _ _ _ => rfl
  | .nullCheck _ _ => rfl
  | .inList _ _ _ => rfl
  | .inSelect _ _ _ => rfl
  | .range _ _ _ _ => rfl
  | .existence _ _ => rfl
  | .truth _ => rfl
  | .template _ _ => rfl

theorem Condition.allNeutral_mapAll : (cs : List Condition) →
    Condition.allNeutral (Condition.mapAll g cs) = Condition.allNeutral cs
  | [] => rfl
  | c :: cs => by
      rw [Condition.mapAll, Condition.allNeutral, Condition.allNeutral,
        Condition.isNeutral_mapValues c, Condition.allNeutral_mapAll cs]

end

theorem mapValues_templateFragment (cs : List Char) (vs : List Value) :
    (templateFragment cs vs).mapValues g = templateFragment cs (vs.map g) := by
  induction cs generalizing vs with
  | nil => rfl
  | cons c cs ih =>
      cases vs with
      | nil => rfl
      | cons v vs =>
          rw [List.map_cons, templateFragment, templateFragment]
          split
          · rw [mapValues_cons_slot, ih]
          · rw [mapValues_cons_text, ih, List.map_cons]

mutual

theorem Expr.fragment_mapValues : (e : Expr) →
    (e.mapValues g).fragment = e.fragment.mapValues g
  | .column _ => rfl
  | .bind _ => rfl
  | .verbatim _ => rfl
  | .literal _ => rfl
  | .call function arguments => by
      rw [Expr.mapValues, Expr.fragment, Expr.fragment, mapValues_cons_text,
        mapValues_parenthesized, mapValues_join, Expr.fragments_mapAll arguments]
  | .binary left operator right => by
      simp [Expr.mapValues, Expr.fragment, Expr.fragment_mapValues left,
        Expr.fragment_mapValues right]
  | .complement operand => by
      simp [Expr.mapValues, Expr.fragment, Expr.fragment_mapValues operand]
  | .caseOf subject arms => by
      simp [Expr.mapValues, Expr.fragment, Expr.fragment_mapValues subject,
        Expr.armFragment_mapArms arms]
  | .subquery select => by
      simp [Expr.mapValues, Expr.fragment, Select.fragment_mapValues select]
  | .quantified quantifier select => by
      simp [Expr.mapValues, Expr.fragment, Select.fragment_mapValues select]
  | .rejected _ => rfl

theorem Expr.fragments_mapAll : (es : List Expr) →
    Expr.fragments (Expr.mapAll g es) = (Expr.fragments es).map (Fragment.mapValues g)
  | [] => rfl
  | e :: es => by
      rw [Expr.mapAll, Expr.fragments, Expr.fragments, List.map_cons, Expr.fragment_mapValues e,
        Expr.fragments_mapAll es]

theorem Expr.armFragment_mapArms : (arms : List (Expr × Value)) →
    Expr.armFragment (Expr.mapArms g arms) = (Expr.armFragment arms).mapValues g
  | [] => rfl
  | (key, value) :: arms => by
      simp [Expr.mapArms, Expr.armFragment, Expr.fragment_mapValues key,
        Expr.armFragment_mapArms arms]

theorem Condition.fragment_mapValues : (c : Condition) →
    (c.mapValues g).fragment = c.fragment.mapValues g
  | .neutral => rfl
  | .constant _ => rfl
  | .conjunction members => by
      rw [Condition.mapValues, Condition.fragment, Condition.fragment, mapValues_join,
        Condition.memberFragments_mapAll members]
  | .disjunction members => by
      rw [Condition.mapValues, Condition.fragment, Condition.fragment, mapValues_join,
        Condition.memberFragments_mapAll members]
  | .negation operand => by
      rw [Condition.mapValues, Condition.fragment, Condition.fragment,
        Condition.fragment_mapValues operand, isBlank_mapValues]
      split
      · rfl
      · rw [mapValues_cons_text, mapValues_parenthesized]
  | .comparison left operator right => by
      simp [Condition.mapValues, Condition.fragment, Expr.fragment_mapValues left,
        Expr.fragment_mapValues right]
  | .pattern subject ignoreCase negated sought => by
      simp [Condition.mapValues, Condition.fragment, Expr.fragment_mapValues subject,
        Expr.fragment_mapValues sought]
  | .nullCheck operand negated => by
      simp [Condition.mapValues, Condition.fragment, Expr.fragment_mapValues operand]
  | .inList operand negated values => by
      rw [Condition.mapValues, Condition.fragment, Condition.fragment, mapValues_append,
        mapValues_cons_text, mapValues_parenthesized, mapValues_join,
        Expr.fragment_mapValues operand, Expr.fragments_mapAll values]
  | .inSelect operand negated select => by
      simp [Condition.mapValues, Condition.fragment, Expr.fragment_mapValues operand,
        Select.fragment_mapValues select]
  | .range operand kind low high => by
      simp [Condition.mapValues, Condition.fragment, Expr.fragment_mapValues operand,
        Expr.fragment_mapValues low, Expr.fragment_mapValues high]
  | .existence negated select => by
      simp [Condition.mapValues, Condition.fragment, Select.fragment_mapValues select]
  | .truth operand => Expr.fragment_mapValues operand
  | .template sql values => (mapValues_templateFragment g sql.toList values).symm

theorem Condition.memberFragments_mapAll : (cs : List Condition) →
    Condition.memberFragments (Condition.mapAll g cs) =
      (Condition.memberFragments cs).map (Fragment.mapValues g)
  | [] => rfl
  | c :: cs => by
      rw [Condition.mapAll, Condition.memberFragments, Condition.memberFragments,
        Condition.isNeutral_mapValues, Condition.needsParentheses_mapValues,
        Condition.fragment_mapValues c, Condition.memberFragments_mapAll cs]
      split
      · rfl
      · split <;> simp

theorem Select.fragment_mapValues : (s : Select) →
    (s.mapValues g).fragment = s.fragment.mapValues g
  | ⟨columns, table, condition, orderBy, limit⟩ => by
      unfold Select.mapValues Select.fragment
      rw [Expr.fragments_mapAll columns, Condition.fragment_mapValues condition,
        Select.orderFragments_mapOrder orderBy, ← mapValues_join, ← mapValues_clause,
        ← mapValues_listClause]
      cases table <;> cases limit <;> cases columns <;> simp

theorem Select.orderFragments_mapOrder : (items : List (Expr × SortOrder)) →
    Select.orderFragments (Select.mapOrder g items) =
      (Select.orderFragments items).map (Fragment.mapValues g)
  | [] => rfl
  | (key, order) :: items => by
      simp [Select.mapOrder, Select.orderFragments, Expr.fragment_mapValues key,
        Select.orderFragments_mapOrder items]

end

@[simp] theorem Expr.defect?_mapValues (e : Expr) : (e.mapValues g).defect? = e.defect? := by
  rw [← Expr.head?_defects, Expr.fragment_mapValues, defects_mapValues, Expr.head?_defects]

@[simp] theorem Condition.defect?_mapValues (c : Condition) :
    (c.mapValues g).defect? = c.defect? := by
  rw [← Condition.head?_defects, Condition.fragment_mapValues, defects_mapValues,
    Condition.head?_defects]

theorem Select.defect?_mapValues (s : Select) : (s.mapValues g).defect? = s.defect? := by
  rw [← Select.head?_defects, Select.fragment_mapValues, defects_mapValues, Select.head?_defects]

theorem Condition.standalone_mapValues (c : Condition) :
    (c.mapValues g).standalone = c.standalone.mapValues g := by
  unfold Condition.standalone
  rw [Condition.isNeutral_mapValues]
  split
  · rfl
  · exact c.fragment_mapValues g

theorem Expr.targetFragment_mapValues (e : Expr) :
    (e.mapValues g).targetFragment = e.targetFragment.mapValues g := by
  unfold Expr.targetFragment
  rw [Expr.columnName?_mapValues]
  cases e.columnName? with
  | some name => rfl
  | none => rw [Expr.fragment_mapValues, unbound, unbound, mapValues_unboundFrom]

end SqlBuilder
