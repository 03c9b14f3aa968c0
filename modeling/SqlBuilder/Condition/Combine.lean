import SqlBuilder.Term.Basic

namespace SqlBuilder.Condition

def conjuncts : Condition → List Condition
  | .conjunction members => members.filter (!·.isNeutral)
  | c => if c.isNeutral then [] else [c]

def disjuncts : Condition → List Condition
  | .disjunction members => members.filter (!·.isNeutral)
  | c => if c.isNeutral then [] else [c]

def group (kind : List Condition → Condition) : List Condition → Condition
  | [] => .neutral
  | [c] => c
  | cs => kind cs

def all (cs : List Condition) : Condition := group .conjunction (cs.flatMap conjuncts)

def any (cs : List Condition) : Condition := group .disjunction (cs.flatMap disjuncts)

def negate (c : Condition) : Condition :=
  if c.isNeutral then .neutral
  else match c with
    | .negation operand => operand
    | c => .negation c

def ofExists (s : Select) : Condition := .existence false s
def ofNotExists (s : Select) : Condition := .existence true s

def and (a b : Condition) : Condition := all [a, b]
def andNot (a b : Condition) : Condition := all [a, b.negate]
def andExists (a : Condition) (s : Select) : Condition := all [a, ofExists s]
def andNotExists (a : Condition) (s : Select) : Condition := all [a, ofNotExists s]
def or (a b : Condition) : Condition := any [a, b]
def orNot (a b : Condition) : Condition := any [a, b.negate]
def orExists (a : Condition) (s : Select) : Condition := any [a, ofExists s]
def orNotExists (a : Condition) (s : Select) : Condition := any [a, ofNotExists s]

theorem conjuncts_of_isNeutral {c : Condition} (neutral : c.isNeutral = true) :
    conjuncts c = [] := by
  cases c <;> simp_all [conjuncts, isNeutral, allNeutral_eq_all]

theorem disjuncts_of_isNeutral {c : Condition} (neutral : c.isNeutral = true) :
    disjuncts c = [] := by
  cases c <;> simp_all [disjuncts, isNeutral, allNeutral_eq_all]

end SqlBuilder.Condition
