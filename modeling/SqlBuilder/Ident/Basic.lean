namespace SqlBuilder

namespace BareName

def isStartChar (c : Char) : Bool := c = '_' || c.isAlpha

def isRestChar (c : Char) : Bool := c = '_' || c = '$' || c.isAlphanum

end BareName

structure BareName where
  head : Char
  tail : List Char
  isStart : BareName.isStartChar head = true
  isRest : ∀ c ∈ tail, BareName.isRestChar c = true
  deriving DecidableEq, Repr

namespace BareName

def chars (name : BareName) : List Char := name.head :: name.tail

def text (name : BareName) : String := String.ofList name.chars

end BareName

inductive Segment
  | bare (name : BareName)
  | quoted (name : String)
  deriving DecidableEq, Repr

namespace Segment

def text : Segment → String
  | .bare name => name.text
  | .quoted name => name

def doubleQuotes (cs : List Char) : List Char :=
  cs.flatMap fun c => if c = '"' then ['"', '"'] else [c]

def sql : Segment → String
  | .bare name => name.text
  | .quoted name => "\"" ++ String.ofList (doubleQuotes name.toList) ++ "\""

@[simp] theorem doubleQuotes_nil : doubleQuotes [] = [] := rfl

theorem doubleQuotes_cons (c : Char) (cs : List Char) :
    doubleQuotes (c :: cs) = (if c = '"' then ['"', '"'] else [c]) ++ doubleQuotes cs := rfl

end Segment

structure Ident where
  qualifiers : List Segment
  name : Segment
  deriving DecidableEq, Repr

namespace Ident

def segments (i : Ident) : List Segment := i.qualifiers ++ [i.name]

def ofSegments? (segments : List Segment) : Option Ident :=
  segments.getLast?.map fun name => ⟨segments.dropLast, name⟩

def bare (name : BareName) : Ident := ⟨[], .bare name⟩

def qualifier? (i : Ident) : Option Ident := ofSegments? i.qualifiers

def unqualified (i : Ident) : Ident := ⟨[], i.name⟩

def dot (outer inner : Ident) : Ident := ⟨outer.segments ++ inner.qualifiers, inner.name⟩

def sql (i : Ident) : String := ".".intercalate (i.segments.map Segment.sql)

@[simp] theorem segments_dot (outer inner : Ident) :
    (outer.dot inner).segments = outer.segments ++ inner.segments := by
  simp [dot, segments]

end Ident
end SqlBuilder
