import SqlBuilder.Proofs.Rendering.FirstDefect
import SqlBuilder.Proofs.Rendering.Scan
import SqlBuilder.Proofs.Statements.Validation
import SqlBuilder.Root

namespace SqlBuilder

open Fragment

def isWordChar (c : Char) : Bool := Scan.isPlain c && c != '$'

def Word (s : String) : Prop := s.toList.all isWordChar = true

namespace Word

theorem append {s t : String} (first : Word s) (second : Word t) : Word (s ++ t) := by
  rw [Word, String.toList_append, List.all_append, Bool.and_eq_true]
  exact ⟨first, second⟩

theorem spaced {s : String} (word : Word s) : Word (" " ++ s ++ " ") := by
  have space : Word " " := rfl
  exact (space.append word).append space

theorem isPlain {s : String} (word : Word s) : s.toList.all Scan.isPlain = true := by
  rw [Word, List.all_eq_true] at word
  rw [List.all_eq_true]
  exact fun c member => (Bool.and_eq_true_iff.mp (word c member)).1

theorem repr (n : Nat) : Word n.repr := by
  rw [Word, List.all_eq_true]
  intro c member
  have digit := isDigit_of_mem_repr member
  rw [isWordChar, Scan.isPlain_of_class rfl digit, Bool.true_and, bne_iff_ne]
  rintro rfl
  cases digit

theorem toString (n : Int) : Word (toString n) := by
  cases n with
  | ofNat n => exact repr n
  | negSucc n =>
      have sign : Word "-" := rfl
      exact sign.append (repr _)

end Word

theorem BinaryOperator.word_sql (operator : BinaryOperator) : Word operator.sql := by
  cases operator <;> rfl

theorem SqlFunction.word_sql (function : SqlFunction) : Word function.sql := by
  cases function <;> rfl

theorem Quantifier.word_sql (quantifier : Quantifier) : Word quantifier.sql := by
  cases quantifier <;> rfl

theorem SortOrder.word_sql (order : SortOrder) : Word order.sql := by
  cases order <;> rfl

theorem Comparison.word_sql (operator : Comparison) : Word operator.sql := by
  cases operator <;> rfl

theorem BetweenKind.word_sql (kind : BetweenKind) : Word kind.sql := by
  obtain ⟨symmetric, negated⟩ := kind
  cases symmetric <;> cases negated <;> rfl

/-- What the library writes of its own never makes `Good` fail. -/
structure KeptByWriting (Good : Fragment → Prop) : Prop where
  nil : Good []
  word {s : String} (word : Word s) : Good [.text s]
  escape : Good [.text " ESCAPE '!'"]
  slot (v : Value) : Good [.slot v]
  concat {s t : String} (first : Good [.text s]) (second : Good [.text t]) : Good [.text (s ++ t)]
  append {f g : Fragment} (first : Good f) (second : Good g) : Good (f ++ g)
  parenthesized {f : Fragment} (inner : Good f) : Good f.parenthesized

def Ident.leaves (path : Ident) : List Fragment := path.segments.map fun s => [.text s.sql]

theorem Ident.name_mem_leaves (path : Ident) : [.text path.name.sql] ∈ path.leaves :=
  List.mem_map.mpr ⟨path.name, by simp [segments], rfl⟩

def Term.leaves : Term → List Fragment
  | .expr (.column path) => path.leaves
  | .expr (.verbatim sql) => [[.text sql]]
  | .expr (.literal text) => [[.text (stringConstant text)]]
  | .condition (.template sql values) => [templateFragment sql.toList values]
  | .select ⟨_, table, _, _, _⟩ => table.elim [] fun t => t.ident.leaves
  | _ => []

theorem Expr.forall_mem_fragments {Good : Fragment → Prop} {es : List Expr}
    (parts : ∀ part ∈ es.map Term.expr, Good part.fragment) : ∀ f ∈ Expr.fragments es, Good f := by
  rw [Expr.fragments_eq_map]
  rw [List.forall_mem_map] at parts ⊢
  exact parts

namespace KeptByWriting

variable {Good : Fragment → Prop} (kept : KeptByWriting Good)
include kept

theorem cons_text {s : String} {f : Fragment} (first : Good [.text s]) (rest : Good f) :
    Good (.text s :: f) :=
  kept.append first rest

theorem cons_word {s : String} {f : Fragment} (word : Word s) (rest : Good f) :
    Good (.text s :: f) :=
  kept.append (kept.word word) rest

theorem join {separator : String} (word : Word separator) {fragments : List Fragment}
    (good : ∀ f ∈ fragments, Good f) : Good (join separator fragments) := by
  unfold Fragment.join
  induction fragments with
  | nil => exact kept.nil
  | cons f fragments ih =>
      obtain ⟨first, rest⟩ := List.forall_mem_cons.mp good
      cases fragments with
      | nil => simpa using first
      | cons g fragments =>
          rw [List.intercalate_cons_cons]
          exact kept.append (kept.append first (kept.word word)) (ih rest)

theorem comma {fragments : List Fragment} (good : ∀ f ∈ fragments, Good f) :
    Good (Fragment.join ", " fragments) := by
  have comma : Word ", " := rfl
  exact kept.join comma good

theorem list {fragments : List Fragment} (good : ∀ f ∈ fragments, Good f) :
    Good (Fragment.join ", " fragments).parenthesized :=
  kept.parenthesized (kept.comma good)

theorem whereClause {f : Fragment} (good : Good f) : Good (f.clause " WHERE ") := by
  unfold Fragment.clause
  split
  · exact kept.nil
  · exact kept.cons_word rfl good

theorem listClause {keyword : String} (word : Word keyword) {items : List Fragment}
    (good : ∀ f ∈ items, Good f) : Good (listClause keyword items) := by
  unfold Fragment.listClause
  split
  · exact kept.nil
  · exact kept.cons_word word (kept.comma good)

theorem path {path : Ident} (leaves : ∀ f ∈ path.leaves, Good f) : Good [.text path.sql] := by
  have intercalate : ∀ names : List Segment, (∀ s ∈ names, Good [.text s.sql]) →
      Good [.text (".".intercalate (names.map Segment.sql))] := by
    intro names good
    induction names with
    | nil => exact kept.word rfl
    | cons s names ih =>
        obtain ⟨first, rest⟩ := List.forall_mem_cons.mp good
        cases names with
        | nil => simpa using first
        | cons t names =>
            rw [List.map_cons, List.map_cons, String.intercalate_cons_cons]
            exact kept.concat (kept.concat first (kept.word rfl)) (ih rest)
  exact intercalate path.segments fun s member => leaves _ (List.mem_map_of_mem member)

theorem armFragment {arms : List (Expr × Value)}
    (parts : ∀ part ∈ arms.map (fun arm => Term.expr arm.1), Good part.fragment) :
    Good (Expr.armFragment arms) := by
  induction arms with
  | nil => exact kept.nil
  | cons arm arms ih =>
      obtain ⟨key, value⟩ := arm
      obtain ⟨first, rest⟩ := List.forall_mem_cons.mp parts
      have answer := kept.append (kept.slot value) (ih rest)
      exact kept.append (kept.cons_word rfl first) (kept.cons_word rfl answer)

theorem memberFragments {members : List Condition}
    (parts : ∀ part ∈ members.map Term.condition, Good part.fragment) :
    ∀ f ∈ Condition.memberFragments members, Good f := by
  rw [Condition.memberFragments_eq_map]
  intro f written
  obtain ⟨c, joined, rfl⟩ := List.mem_map.mp written
  have good : Good c.fragment :=
    parts (.condition c) (List.mem_map_of_mem (List.mem_filter.mp joined).1)
  split
  · exact kept.parenthesized good
  · exact good

theorem orderFragments {items : List (Expr × SortOrder)}
    (parts : ∀ part ∈ items.map (fun item => Term.expr item.1), Good part.fragment) :
    ∀ f ∈ Select.orderFragments items, Good f := by
  induction items with
  | nil => simp [Select.orderFragments]
  | cons item items ih =>
      obtain ⟨key, order⟩ := item
      obtain ⟨first, rest⟩ := List.forall_mem_cons.mp parts
      have space : Word " " := rfl
      rw [Select.orderFragments]
      refine List.forall_mem_cons.mpr ⟨?_, ih rest⟩
      exact kept.append first (kept.word (space.append order.word_sql))

theorem expr {e : Expr} (sound : ¬ (Term.expr e).AtFault)
    (leaves : ∀ f ∈ (Term.expr e).leaves, Good f)
    (parts : ∀ part ∈ (Term.expr e).parts, Good part.fragment) : Good e.fragment := by
  cases e with
  | column path =>
      rw [Expr.fragment]
      exact kept.path leaves
  | bind value =>
      rw [Expr.fragment]
      exact kept.slot value
  | verbatim sql =>
      rw [Expr.fragment]
      exact leaves _ List.mem_cons_self
  | literal text =>
      rw [Expr.fragment]
      exact leaves _ List.mem_cons_self
  | call function arguments =>
      rw [Expr.fragment]
      exact kept.cons_word function.word_sql (kept.list (Expr.forall_mem_fragments parts))
  | binary left operator right =>
      rw [Expr.fragment]
      have first : Good left.fragment := parts (.expr left) List.mem_cons_self
      have second : Good right.fragment := parts (.expr right) (by simp [Term.parts])
      exact kept.parenthesized (kept.append first (kept.cons_word operator.word_sql.spaced second))
  | complement operand =>
      rw [Expr.fragment]
      exact kept.cons_word rfl (parts (.expr operand) List.mem_cons_self)
  | caseOf subject arms =>
      rw [Expr.fragment]
      obtain ⟨first, rest⟩ := List.forall_mem_cons.mp parts
      have subject := kept.cons_word (s := "CASE ") rfl first
      exact kept.append (kept.append subject (kept.armFragment rest)) (kept.word rfl)
  | subquery select =>
      rw [Expr.fragment]
      exact kept.parenthesized (parts (.select select) List.mem_cons_self)
  | quantified quantifier select =>
      rw [Expr.fragment]
      have word : Word (quantifier.sql ++ " ") := quantifier.word_sql.append rfl
      have inner : Good select.fragment := parts (.select select) List.mem_cons_self
      exact kept.cons_word word (kept.parenthesized inner)
  | rejected cause => exact absurd trivial sound

theorem condition {c : Condition} (leaves : ∀ f ∈ (Term.condition c).leaves, Good f)
    (parts : ∀ part ∈ (Term.condition c).parts, Good part.fragment) : Good c.fragment := by
  have membership : ∀ negated : Bool, Word (if negated then " NOT IN " else " IN ") := by
    intro negated
    cases negated <;> rfl
  cases c with
  | neutral =>
      rw [Condition.fragment]
      exact kept.nil
  | constant value =>
      rw [Condition.fragment]
      apply kept.word
      cases value <;> rfl
  | conjunction members =>
      have and : Word " AND " := rfl
      rw [Condition.fragment]
      exact kept.join and (kept.memberFragments parts)
  | disjunction members =>
      have or : Word " OR " := rfl
      rw [Condition.fragment]
      exact kept.join or (kept.memberFragments parts)
  | negation operand =>
      rw [Condition.fragment]
      have inner : Good operand.fragment := parts (.condition operand) List.mem_cons_self
      split
      · exact inner
      · exact kept.cons_word rfl (kept.parenthesized inner)
  | comparison left operator right =>
      rw [Condition.fragment]
      have first : Good left.fragment := parts (.expr left) List.mem_cons_self
      have second : Good right.fragment := parts (.expr right) (by simp [Term.parts])
      exact kept.append first (kept.cons_word operator.word_sql.spaced second)
  | pattern subject ignoreCase negated sought =>
      rw [Condition.fragment]
      have first : Good subject.fragment := parts (.expr subject) List.mem_cons_self
      have second : Good sought.fragment := parts (.expr sought) (by simp [Term.parts])
      have word := (Comparison.likeWith ignoreCase negated).word_sql.spaced
      exact kept.append (kept.append first (kept.cons_word word second)) kept.escape
  | nullCheck operand negated =>
      rw [Condition.fragment]
      have inner : Good operand.fragment := parts (.expr operand) List.mem_cons_self
      apply kept.append inner
      apply kept.word
      cases negated <;> rfl
  | inList operand negated values =>
      rw [Condition.fragment]
      obtain ⟨first, rest⟩ := List.forall_mem_cons.mp parts
      have list := kept.list (Expr.forall_mem_fragments rest)
      exact kept.append first (kept.cons_word (membership negated) list)
  | inSelect operand negated select =>
      rw [Condition.fragment]
      have first : Good operand.fragment := parts (.expr operand) List.mem_cons_self
      have inner : Good select.fragment := parts (.select select) (by simp [Term.parts])
      exact kept.append first (kept.cons_word (membership negated) (kept.parenthesized inner))
  | range operand kind low high =>
      rw [Condition.fragment]
      have first : Good operand.fragment := parts (.expr operand) List.mem_cons_self
      have lowest : Good low.fragment := parts (.expr low) (by simp [Term.parts])
      have highest : Good high.fragment := parts (.expr high) (by simp [Term.parts])
      have between := kept.append first (kept.cons_word kind.word_sql.spaced lowest)
      exact kept.append between (kept.cons_word rfl highest)
  | existence negated select =>
      rw [Condition.fragment]
      have inner : Good select.fragment := parts (.select select) List.mem_cons_self
      refine kept.cons_word ?_ (kept.parenthesized inner)
      cases negated <;> rfl
  | truth operand =>
      rw [Condition.fragment]
      exact parts (.expr operand) List.mem_cons_self
  | template sql values =>
      rw [Condition.fragment]
      exact leaves _ List.mem_cons_self

theorem select {s : Select} (sound : ¬ (Term.select s).AtFault)
    (leaves : ∀ f ∈ (Term.select s).leaves, Good f)
    (parts : ∀ part ∈ (Term.select s).parts, Good part.fragment) : Good s.fragment := by
  obtain ⟨columns, table, condition, orderBy, limit⟩ := s
  obtain ⟨inColumns, others⟩ := List.forall_mem_append.mp parts
  obtain ⟨filter, keys⟩ := List.forall_mem_cons.mp others
  have filled : columns.isEmpty = false := by
    simpa [Term.AtFault] using sound
  have list : Good (Fragment.join ", " (Expr.fragments columns)) :=
    kept.comma (Expr.forall_mem_fragments inColumns)
  have orderBy : Word " ORDER BY " := rfl
  have ordered := kept.listClause orderBy (kept.orderFragments keys)
  have head : Good [.text "SELECT "] := kept.word rfl
  unfold Select.fragment
  rw [filled, if_neg Bool.false_ne_true]
  refine kept.append (kept.append (kept.append (kept.append (kept.append head list) ?_)
    (kept.whereClause filter)) ordered) ?_
  · cases table with
    | none => exact kept.nil
    | some t => exact kept.concat (kept.word rfl) (kept.path leaves)
  · cases limit with
    | none => exact kept.nil
    | some n => exact kept.concat (kept.word rfl) (kept.word (.toString n))

theorem term (t : Term) (faultless : t.Faultless)
    (leaves : ∀ u : Term, u.Within t → ∀ f ∈ u.leaves, Good f) : Good t.fragment := by
  have parts : ∀ part ∈ t.parts, Good part.fragment := by
    intro part member
    apply term part
    · exact fun u inside => faultless u (inside.tail member)
    · exact fun u inside => leaves u (inside.tail member)
  have sound := faultless t .refl
  have own := leaves t .refl
  cases t with
  | expr e => exact kept.expr sound own parts
  | condition c => exact kept.condition own parts
  | select s => exact kept.select sound own parts
termination_by sizeOf t
decreasing_by exact Term.sizeOf_lt_of_mem_parts member

end KeptByWriting

def Assignment.terms (a : Assignment) : List Term := [.expr a.target, .expr a.value]

def Assignments.terms (as : Assignments) : List Term := as.toList.flatMap Assignment.terms

def ConflictAction.terms : ConflictAction → List Term
  | .doNothing => []
  | .doUpdate set condition => set.terms ++ [.condition condition]

def Conflict.terms (c : Conflict) : List Term := c.target.map .expr ++ c.action.terms

def Insert.terms (i : Insert) : List Term :=
  i.rows.flatMap Assignments.terms ++ i.conflict.elim [] Conflict.terms ++ i.returning.map .expr

def Update.terms (u : Update) : List Term :=
  u.set.terms ++ .condition u.condition :: u.returning.map .expr

def Statement.terms : Statement → List Term
  | .insert i => i.terms
  | .update u => u.terms

def Statement.table : Statement → Table
  | .insert i => i.table
  | .update u => u.table

theorem Term.faultless_column (path : Ident) : (Term.expr (.column path)).Faultless := by
  rw [← Term.defect?_eq_none_iff]
  rfl

theorem Assignments.faultless_terms {as : Assignments} (sound : as.Sound) :
    ∀ t ∈ as.terms, t.Faultless := by
  intro t among
  obtain ⟨a, member, written⟩ := List.mem_flatMap.mp among
  obtain ⟨⟨path, column⟩, value⟩ := sound a member
  simp only [Assignment.terms, column, List.mem_cons, List.not_mem_nil, or_false] at written
  rcases written with rfl | rfl
  · exact Term.faultless_column path
  · exact value

theorem Conflict.faultless_terms {c : Conflict} (sound : c.Sound) : ∀ t ∈ c.terms, t.Faultless := by
  rw [Conflict.terms, List.forall_mem_append]
  constructor
  · rw [List.forall_mem_map]
    intro e member
    obtain ⟨path, rfl⟩ := sound.target e member
    exact Term.faultless_column path
  · cases answer : c.action with
    | doNothing => exact List.forall_mem_nil _
    | doUpdate set condition =>
        obtain ⟨-, assigned, filter⟩ := sound.update set condition answer
        rw [ConflictAction.terms, List.forall_mem_append, List.forall_mem_singleton]
        exact ⟨set.faultless_terms assigned, filter⟩

theorem Insert.faultless_terms {i : Insert} (sound : i.Sound) : ∀ t ∈ i.terms, t.Faultless := by
  have rows : ∀ t ∈ i.rows.flatMap Assignments.terms, t.Faultless := by
    intro t among
    obtain ⟨row, member, written⟩ := List.mem_flatMap.mp among
    exact row.faultless_terms (sound.rows row member) t written
  have conflict : ∀ t ∈ i.conflict.elim [] Conflict.terms, t.Faultless := by
    cases answer : i.conflict with
    | none => exact List.forall_mem_nil _
    | some c => exact c.faultless_terms (sound.conflict c answer)
  have returning : ∀ t ∈ i.returning.map Term.expr, t.Faultless :=
    List.forall_mem_map.mpr sound.returning
  exact List.forall_mem_append.mpr ⟨List.forall_mem_append.mpr ⟨rows, conflict⟩, returning⟩

theorem Update.faultless_terms {u : Update} (sound : u.Sound) : ∀ t ∈ u.terms, t.Faultless := by
  have returning : ∀ t ∈ u.returning.map Term.expr, t.Faultless :=
    List.forall_mem_map.mpr sound.returning
  exact List.forall_mem_append.mpr ⟨u.set.faultless_terms sound.set,
    List.forall_mem_cons.mpr ⟨sound.condition, returning⟩⟩

theorem Statement.faultless_terms {s : Statement} (sound : s.Sound) :
    ∀ t ∈ s.terms, t.Faultless := by
  cases s with
  | insert i => exact i.faultless_terms sound
  | update u => exact u.faultless_terms sound

structure Term.Fits (Good : Fragment → Prop) (t : Term) : Prop where
  leaves : ∀ f ∈ t.leaves, Good f
  fragment : Good t.fragment

theorem Assignment.target_fits {Good : Fragment → Prop} {a : Assignment}
    (column : ∃ path, a.target = .column path) (fits : ∀ t ∈ a.terms, t.Fits Good) :
    Good a.target.targetFragment := by
  obtain ⟨path, column⟩ := column
  have leaves := (fits (.expr a.target) List.mem_cons_self).leaves
  rw [column] at leaves ⊢
  exact leaves _ path.name_mem_leaves

theorem Assignment.value_fits {Good : Fragment → Prop} {a : Assignment}
    (fits : ∀ t ∈ a.terms, t.Fits Good) : Good a.value.fragment :=
  (fits (.expr a.value) (by simp [terms])).fragment

theorem Assignments.forall_mem_map {Good : Fragment → Prop} {as : Assignments} (sound : as.Sound)
    (fits : ∀ t ∈ as.terms, t.Fits Good) {write : Assignment → Fragment}
    (good : ∀ a : Assignment, a.Sound → (∀ t ∈ a.terms, t.Fits Good) → Good (write a)) :
    ∀ f ∈ as.toList.map write, Good f := by
  rw [List.forall_mem_map]
  intro a member
  exact good a (sound a member) fun t among => fits t (List.mem_flatMap.mpr ⟨a, member, among⟩)

namespace KeptByWriting

variable {Good : Fragment → Prop} (kept : KeptByWriting Good)
include kept

section Assignments

variable {as : Assignments} (sound : as.Sound) (fits : ∀ t ∈ as.terms, t.Fits Good)
include sound fits

theorem columns : Good as.columns :=
  kept.list (as.forall_mem_map sound fits fun _ sound => Assignment.target_fits sound.target)

theorem tuple : Good as.tuple :=
  kept.list (as.forall_mem_map sound fits fun _ _ => Assignment.value_fits)

theorem setList : Good as.setList := by
  refine kept.comma (as.forall_mem_map sound fits fun a sound fits => ?_)
  exact kept.append (Assignment.target_fits sound.target fits)
    (kept.cons_word rfl (Assignment.value_fits fits))

end Assignments

theorem returningClause {columns : List Expr} (fits : ∀ t ∈ columns.map Term.expr, t.Fits Good) :
    Good (returningClause columns) := by
  have returning : Word " RETURNING " := rfl
  apply kept.listClause returning
  rw [List.forall_mem_map] at fits ⊢
  exact fun e member => (fits e member).fragment

theorem conflict {c : Conflict} (sound : c.Sound) (fits : ∀ t ∈ c.terms, t.Fits Good) :
    Good c.fragment := by
  obtain ⟨inTarget, inAction⟩ := List.forall_mem_append.mp fits
  rw [List.forall_mem_map] at inTarget
  have target : Good c.targetFragment := by
    unfold Conflict.targetFragment
    split
    · exact kept.nil
    · refine kept.cons_word rfl (kept.list ?_)
      rw [List.forall_mem_map]
      intro e member
      have leaves := (inTarget e member).leaves
      obtain ⟨path, rfl⟩ := sound.target e member
      exact leaves _ path.name_mem_leaves
  have action : Good c.action.fragment := by
    cases answer : c.action with
    | doNothing => exact kept.word rfl
    | doUpdate set condition =>
        rw [answer] at inAction
        obtain ⟨inSet, inCondition⟩ := List.forall_mem_append.mp inAction
        obtain ⟨-, assigned, -⟩ := sound.update set condition answer
        have filter : Good condition.fragment :=
          (inCondition (.condition condition) List.mem_cons_self).fragment
        exact kept.append (kept.cons_word rfl (kept.setList assigned inSet))
          (kept.whereClause filter)
  exact kept.append (kept.cons_word rfl target) action

theorem rows {rows : List Assignments} (sound : ∀ row ∈ rows, row.Sound)
    (fits : ∀ t ∈ rows.flatMap Assignments.terms, t.Fits Good) :
    Good (Insert.rowsFragment rows) := by
  have inRow : ∀ row ∈ rows, ∀ t ∈ row.terms, t.Fits Good :=
    fun row member t among => fits t (List.mem_flatMap.mpr ⟨row, member, among⟩)
  cases rows with
  | nil => exact kept.word rfl
  | cons row rows =>
      have columns : Good row.columns :=
        kept.columns (sound row List.mem_cons_self) (inRow row List.mem_cons_self)
      have tuples : ∀ f ∈ (row :: rows).map Assignments.tuple, Good f :=
        List.forall_mem_map.mpr fun other member =>
          kept.tuple (sound other member) (inRow other member)
      exact kept.append (kept.cons_word rfl columns) (kept.cons_word rfl (kept.comma tuples))

theorem insert {i : Insert} (sound : i.Sound) (table : Good [.text i.table.sql])
    (fits : ∀ t ∈ i.terms, t.Fits Good) : Good i.fragment := by
  obtain ⟨others, inReturning⟩ := List.forall_mem_append.mp fits
  obtain ⟨inRows, inConflict⟩ := List.forall_mem_append.mp others
  have head : Good [.text ("INSERT INTO " ++ i.table.sql)] := kept.concat (kept.word rfl) table
  have answer : Good (Insert.conflictClause i.conflict) := by
    cases action : i.conflict with
    | none => exact kept.nil
    | some c =>
        rw [action] at inConflict
        exact kept.conflict (sound.conflict c action) inConflict
  have filled := kept.cons_text head (kept.rows sound.rows inRows)
  exact kept.append (kept.append filled answer) (kept.returningClause inReturning)

theorem update {u : Update} (sound : u.Sound) (table : Good [.text u.table.sql])
    (fits : ∀ t ∈ u.terms, t.Fits Good) : Good u.fragment := by
  obtain ⟨inSet, others⟩ := List.forall_mem_append.mp fits
  obtain ⟨inCondition, inReturning⟩ := List.forall_mem_cons.mp others
  have head : Good [.text ("UPDATE " ++ u.table.sql ++ " SET ")] :=
    kept.concat (kept.concat (kept.word rfl) table) (kept.word rfl)
  have set := kept.cons_text head (kept.setList sound.set inSet)
  have filtered := kept.append set (kept.whereClause inCondition.fragment)
  exact kept.append filtered (kept.returningClause inReturning)

end KeptByWriting

namespace Root

def terms : Root → List Term
  | .condition c => [.condition c]
  | .select s => [.select s]
  | .statement s => s.terms

/-- The table of a select is a leaf of its term. -/
def tables : Root → List Table
  | .statement s => [s.table]
  | _ => []

theorem faultless_terms {q : Root} (sound : q.defect? = none) : ∀ t ∈ q.terms, t.Faultless := by
  cases q with
  | condition c => exact List.forall_mem_singleton.mpr (c.defect?_eq_none_iff.mp sound)
  | select s => exact List.forall_mem_singleton.mpr (s.defect?_eq_none_iff.mp sound)
  | statement s => exact s.faultless_terms (s.defect?_eq_none_iff_sound.mp sound)

theorem kept_fragment {q : Root} {Good : Fragment → Prop} (kept : KeptByWriting Good)
    (sound : q.defect? = none) (tables : ∀ t ∈ q.tables, ∀ f ∈ t.ident.leaves, Good f)
    (leaves : ∀ t ∈ q.terms, ∀ u : Term, u.Within t → ∀ f ∈ u.leaves, Good f) :
    Good q.fragment := by
  have fits : ∀ t ∈ q.terms, t.Fits Good := fun t member =>
    ⟨leaves t member t .refl, kept.term t (faultless_terms sound t member) (leaves t member)⟩
  cases q with
  | condition c =>
      show Good c.standalone
      unfold Condition.standalone
      split
      · exact kept.word rfl
      · exact (fits (.condition c) List.mem_cons_self).fragment
  | select s => exact (fits (.select s) List.mem_cons_self).fragment
  | statement s =>
      have table := kept.path (tables s.table List.mem_cons_self)
      have sound := s.defect?_eq_none_iff_sound.mp sound
      cases s with
      | insert i => exact kept.insert sound table fits
      | update u => exact kept.update sound table fits

end Root
end SqlBuilder
