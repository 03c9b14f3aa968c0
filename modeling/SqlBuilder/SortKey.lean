import SqlBuilder.Term.Basic

namespace SqlBuilder

abbrev SortKey := Expr × SortOrder

namespace Expr

def sorted (e : Expr) (order : SortOrder) : SortKey := (e, order)

def rankedBy (e : Expr) (ranks : List (Expr × Value)) : Option SortKey :=
  if ranks.isEmpty then none else some (.caseOf e ranks, .asc)

def listedAsc (e : Expr) (listed : List Expr) : Option SortKey :=
  e.rankedBy (listed.zipIdx.map fun (key, i) => (key, .int4 (Int32.ofNat i)))

def listedDesc (e : Expr) (listed : List Expr) : Option SortKey :=
  e.rankedBy (listed.zipIdx.map fun (key, i) => (key, .int4 (-Int32.ofNat i)))

end Expr
end SqlBuilder
