import Mathlib.Algebra.Order.Ring.Int
import SqlBuilder.Proofs.Evaluation.Row
import SqlBuilder.SortKey
import SqlBuilder.Term.Write

namespace SqlBuilder

namespace Server

variable (server : Server)

def place? (listed : List Value) (x : Datum) : Option Nat :=
  listed.findIdx? fun v => server.equal x v.datum = .yes

def mapped (pairs : List (Value × Value)) (x : Datum) : Datum :=
  (pairs.find? fun pair => server.equal x pair.1.datum = .yes).bind fun pair => pair.2.datum

theorem mapped_cons (v w : Value) (pairs : List (Value × Value)) (x : Datum) :
    server.mapped ((v, w) :: pairs) x =
      if server.equal x v.datum = .yes then w.datum else server.mapped pairs x := by
  unfold mapped
  by_cases found : server.equal x v.datum = .yes
  · rw [if_pos found, List.find?_cons_of_pos (by simpa using found), Option.bind_some]
  · rw [if_neg found, List.find?_cons_of_neg (by simpa using found)]

theorem place?_of_listed {listed : List Value} {v : Value}
    (comparable : server.equal v.datum v.datum = .yes) {j : Nat} (found : listed[j]? = some v) :
    ∃ i ≤ j, server.place? listed v.datum = some i := by
  obtain ⟨bound, located⟩ := List.getElem?_eq_some_iff.mp found
  cases place : server.place? listed v.datum with
  | none =>
      have missing := List.findIdx?_eq_none_iff.mp place v (List.mem_of_getElem? found)
      simp [comparable] at missing
  | some i =>
      obtain ⟨_, _, missed⟩ := List.findIdx?_eq_some_iff_getElem.mp place
      refine ⟨i, ?_, rfl⟩
      by_contra later
      exact missed j (Nat.lt_of_not_le later) (by simpa [located] using comparable)

theorem lt_length_of_place? {listed : List Value} {x : Datum} {i : Nat}
    (place : server.place? listed x = some i) : i < listed.length :=
  (List.findIdx?_eq_some_iff_getElem.mp place).1

end Server

def placed (rank : Nat → Int32) (listed : List Value) : List (Value × Value) :=
  listed.zipIdx.map fun (v, i) => (v, .int4 (rank i))

theorem Server.mapped_placed (server : Server) (rank : Nat → Int32) (listed : List Value)
    (x : Datum) : server.mapped (placed rank listed) x =
      (server.place? listed x).map fun i => .int4 (rank i) := by
  suffices shifted : ∀ next,
      server.mapped ((listed.zipIdx next).map fun (v, i) => (v, .int4 (rank i))) x =
        (server.place? listed x).map fun i => .int4 (rank (next + i)) by
    simpa [placed] using shifted 0
  induction listed with
  | nil => exact fun next => rfl
  | cons v listed ih =>
      intro next
      have place : server.place? (v :: listed) x = if server.equal x v.datum = .yes then some 0
          else (server.place? listed x).map (· + 1) := by
        simp [Server.place?, List.findIdx?_cons]
      rw [List.zipIdx_cons, List.map_cons, mapped_cons, ih (next + 1), place]
      split
      · rfl
      · simp [Function.comp_def, Nat.add_assoc, Nat.add_comm 1]

namespace Server

def Ascends (server : Server) : Datum → Datum → Prop
  | some v, some w => server.order? v w = some .lt
  | some _, none => True
  | none, _ => False

theorem ascends_int4 (server : Server) (m n : Int32) :
    server.Ascends (some (.int4 m)) (some (.int4 n)) ↔ m.toInt < n.toInt := by
  rw [Ascends, server.order?_int4, Option.some_inj, Int.compare_eq_lt]

end Server

def SortKey.Before (key : SortKey) (row other : Row) : Prop :=
  match key.2 with
  | .asc => row.server.Ascends (key.1.datum row) (key.1.datum other)
  | .desc => row.server.Ascends (key.1.datum other) (key.1.datum row)

/-- The rank of a place is the key of the rows whose value is listed first at that place. All other
rows have no key. -/
structure Ranks (e : Expr) (listed : List Value) (rank : Nat → Int) (key : Expr) : Prop where
  ranked (row : Row) (i : Nat) (found : row.server.place? listed (e.datum row) = some i) :
    ∃ n : Int32, key.datum row = some (.int4 n) ∧ n.toInt = rank i
  unranked (row : Row) (missing : row.server.place? listed (e.datum row) = none) :
    key.datum row = none

theorem Ranks.before_iff {e : Expr} {listed : List Value} {rank : Nat → Int} {key : Expr}
    (ranks : Ranks e listed rank key) {row other : Row} (same : other.server = row.server) :
    SortKey.Before (key, .asc) row other ↔
      ∃ i, row.server.place? listed (e.datum row) = some i ∧
        ∀ j, row.server.place? listed (e.datum other) = some j → rank i < rank j := by
  rw [SortKey.Before]
  cases place : row.server.place? listed (e.datum row) with
  | none =>
      rw [ranks.unranked row place]
      simp [Server.Ascends]
  | some i =>
      obtain ⟨m, datum, first⟩ := ranks.ranked row i place
      rw [datum]
      cases second : row.server.place? listed (e.datum other) with
      | none =>
          rw [ranks.unranked other (by rw [same, second])]
          simp [Server.Ascends]
      | some j =>
          obtain ⟨n, datum, last⟩ := ranks.ranked other j (by rw [same, second])
          simp [datum, Server.ascends_int4, first, last]

def boundArms (pairs : List (Value × Value)) : List (Expr × Value) :=
  pairs.map fun (v, w) => (.bind v, w)

theorem Expr.armDatum_boundArms (row : Row) (x : Datum) (pairs : List (Value × Value)) :
    Expr.armDatum row x (boundArms pairs) = row.server.mapped pairs x := by
  induction pairs with
  | nil => rfl
  | cons pair pairs ih =>
      obtain ⟨v, w⟩ := pair
      rw [Server.mapped_cons, ← ih]
      rfl

def armsText (next count : Nat) : String :=
  String.join ((List.range count).map fun i =>
    " WHEN " ++ placeholder (next + 2 * i) ++ " THEN " ++ placeholder (next + 2 * i + 1))

theorem armsText_succ (next count : Nat) :
    armsText next (count + 1) = " WHEN " ++ placeholder next ++ " THEN " ++
      placeholder (next + 1) ++ armsText (next + 2) count := by
  rw [armsText, List.range_succ_eq_map, List.map_cons, String.join_cons, List.map_map, armsText]
  simp [Function.comp_def, Nat.mul_add, Nat.add_assoc, Nat.add_comm 2]

theorem Expr.writeArms_boundArms (pairs : List (Value × Value)) (ps : Params) :
    Expr.writeArms (boundArms pairs) ps =
      (armsText (ps.size + 1) pairs.length, ps.append (pairs.flatMap fun (v, w) => [v, w])) := by
  induction pairs generalizing ps with
  | nil => simp [boundArms, Expr.writeArms, armsText]
  | cons pair pairs ih =>
      obtain ⟨v, w⟩ := pair
      have first : boundArms ((v, w) :: pairs) = (.bind v, w) :: boundArms pairs := rfl
      rw [first, Expr.writeArms, List.length_cons, armsText_succ]
      simp [Expr.write, ih, String.append_assoc, Nat.add_assoc]

/-- A sort key that maps the values of an expression. In the text each value stands before the value
it is mapped to, both bound, in the order of the pairs. -/
structure Maps (e : Expr) (pairs : List (Value × Value)) (key : Expr) : Prop where
  datum (row : Row) : key.datum row = row.server.mapped pairs (e.datum row)
  written (ps : Params) : Select.writeOrder [(key, .asc)] ps =
    (["CASE " ++ (e.write ps).1 ++ armsText ((e.write ps).2.size + 1) pairs.length ++ " END ASC"],
      (e.write ps).2.append (pairs.flatMap fun (v, w) => [v, w]))

theorem maps_caseOf (e : Expr) (pairs : List (Value × Value)) :
    Maps e pairs (.caseOf e (boundArms pairs)) where
  datum row := by rw [Expr.datum, Expr.armDatum_boundArms]
  written ps := by
    simp [Select.writeOrder, Expr.write, Expr.writeArms_boundArms, SortOrder.sql,
      String.append_assoc]

theorem Maps.ranks {e key : Expr} {listed : List Value} {place : Nat → Int32} {rank : Nat → Int}
    (maps : Maps e (placed place listed) key)
    (exact : ∀ i < listed.length, (place i).toInt = rank i) : Ranks e listed rank key where
  ranked row i found := by
    refine ⟨place i, ?_, exact i (row.server.lt_length_of_place? found)⟩
    rw [maps.datum, Server.mapped_placed, found, Option.map_some]
  unranked row missing := by rw [maps.datum, Server.mapped_placed, missing, Option.map_none]

theorem toInt_neg_ofNat {i : Nat} (short : i < 2 ^ 31) : (-Int32.ofNat i).toInt = -i := by
  rw [Int32.toInt_neg, Int32.toInt_ofNat_of_lt short, Int.bmod_eq_of_le] <;> omega

namespace Expr

variable (e : Expr)

theorem rankedBy_eq_none_iff (ranks : List (Expr × Value)) :
    e.rankedBy ranks = none ↔ ranks = [] := by
  unfold rankedBy
  split <;> simp_all

theorem rankedBy_of_ne_nil {ranks : List (Expr × Value)} (nonempty : ranks ≠ []) :
    e.rankedBy ranks = some (.caseOf e ranks, .asc) := by
  rw [rankedBy, if_neg (by simpa using nonempty)]

theorem boundArms_placed (rank : Nat → Int32) (listed : List Value) :
    ((listed.map bind).zipIdx.map fun (key, i) => (key, Value.int4 (rank i))) =
      boundArms (placed rank listed) := by
  rw [List.zipIdx_map, List.map_map, boundArms, placed, List.map_map]
  rfl

theorem ranked_by_first_place :
    (∀ ranks, e.rankedBy ranks = none ↔ ranks = []) ∧
    (∀ keys, (e.listedAsc keys = none ↔ keys = []) ∧ (e.listedDesc keys = none ↔ keys = [])) ∧
    (∀ pairs, pairs ≠ [] → ∃ key, e.rankedBy (boundArms pairs) = some (key, .asc) ∧
      Maps e pairs key) ∧
    ∀ listed : List Value, listed ≠ [] → listed.length < 2 ^ 31 → ∃ up down,
      e.listedAsc (listed.map .bind) = some (up, .asc) ∧
      e.listedDesc (listed.map .bind) = some (down, .asc) ∧
      Maps e (placed Int32.ofNat listed) up ∧
      Maps e (placed (fun i => -Int32.ofNat i) listed) down ∧
      Ranks e listed (fun i => i) up ∧ Ranks e listed (fun i => -i) down ∧
      (∀ (server : Server) (v : Value) (j : Nat), v.datum = some v → server.equates v →
        listed[j]? = some v → ∃ i ≤ j, server.place? listed v.datum = some i) ∧
      ∀ row other, other.server = row.server →
        (SortKey.Before (up, .asc) row other ↔
          ∃ i, row.server.place? listed (e.datum row) = some i ∧
            ∀ j, row.server.place? listed (e.datum other) = some j → i < j) ∧
        (SortKey.Before (down, .asc) row other ↔
          ∃ i, row.server.place? listed (e.datum row) = some i ∧
            ∀ j, row.server.place? listed (e.datum other) = some j → j < i) := by
  refine ⟨e.rankedBy_eq_none_iff, ?_, ?_, ?_⟩
  · intro keys
    simp [listedAsc, listedDesc, rankedBy_eq_none_iff]
  · intro pairs nonempty
    exact ⟨_, e.rankedBy_of_ne_nil (by simpa [boundArms] using nonempty), maps_caseOf e pairs⟩
  · intro listed nonempty short
    have some_key (rank : Nat → Int32) : e.rankedBy (boundArms (placed rank listed)) =
        some (.caseOf e (boundArms (placed rank listed)), .asc) :=
      e.rankedBy_of_ne_nil (by simpa [boundArms, placed] using nonempty)
    have maps (rank : Nat → Int32) := maps_caseOf e (placed rank listed)
    have up : Ranks e listed (fun i => i) _ := (maps Int32.ofNat).ranks fun i bound =>
      Int32.toInt_ofNat_of_lt (bound.trans short)
    have down : Ranks e listed (fun i => -i) _ := (maps fun i => -Int32.ofNat i).ranks
      fun i bound => toInt_neg_ofNat (bound.trans short)
    refine ⟨_, _, ?_, ?_, maps _, maps _, up, down, ?_, ?_⟩
    · rw [listedAsc, boundArms_placed, some_key]
    · rw [listedDesc, boundArms_placed (fun i => -Int32.ofNat i), some_key]
    · intro server v j present equated found
      exact server.place?_of_listed (server.equal_self present equated) found
    · intro row other same
      rw [up.before_iff same, down.before_iff same]
      simp

def holding (text : String) : Row := ⟨.ascii, fun _ => some (.text text), fun _ => .unknown⟩

def letter : Expr := .column ⟨[], .quoted "letter"⟩

def letters : List Value := [.text "b", .text "a", .text "b"]

def numberedLetters : List (Value × Value) := [(.text "b", .int4 7), (.text "b", .int4 8)]

theorem ranked_by_first_place_letters :
    (∃ up down, letter.listedAsc (letters.map .bind) = some (up, .asc) ∧
      letter.listedDesc (letters.map .bind) = some (down, .asc) ∧
      SortKey.Before (up, .asc) (holding "b") (holding "a") ∧
      SortKey.Before (down, .asc) (holding "a") (holding "b") ∧
      SortKey.Before (down, .asc) (holding "b") (holding "c") ∧
      down.datum (holding "c") = none) ∧
    (∃ i ≤ 2, Server.ascii.place? letters (some (.text "b")) = some i) ∧
    ∃ key, letter.rankedBy (boundArms numberedLetters) = some (key, .asc) ∧
      key.datum (holding "b") = some (.int4 7) := by
  have b : Server.ascii.place? letters (letter.datum (holding "b")) = some 0 := by decide +kernel
  have a : Server.ascii.place? letters (letter.datum (holding "a")) = some 1 := by decide +kernel
  have c : Server.ascii.place? letters (letter.datum (holding "c")) = none := by decide +kernel
  obtain ⟨-, -, mappings, lists⟩ := ranked_by_first_place letter
  obtain ⟨up, down, ascending, descending, -, -, -, ranks, places, order⟩ :=
    lists letters (by decide) (by decide)
  have comparable : Server.ascii.equates (.text "b") := Server.ascii.equates_of_isComparable _ rfl
  obtain ⟨key, mapped, maps⟩ := mappings numberedLetters (by decide)
  refine ⟨⟨up, down, ascending, descending, ?_, ?_, ?_, ranks.unranked _ c⟩,
    places .ascii (.text "b") 2 rfl comparable rfl, key, mapped, ?_⟩
  · refine (order (holding "b") (holding "a") rfl).1.mpr ⟨0, b, fun j found => ?_⟩
    obtain rfl := Option.some.inj (a.symm.trans found)
    exact Nat.zero_lt_one
  · refine (order (holding "a") (holding "b") rfl).2.mpr ⟨1, a, fun j found => ?_⟩
    obtain rfl := Option.some.inj (b.symm.trans found)
    exact Nat.zero_lt_one
  · refine (order (holding "b") (holding "c") rfl).2.mpr ⟨0, b, fun j found => ?_⟩
    cases c.symm.trans found
  · rw [maps.datum]
    decide +kernel

end Expr
end SqlBuilder
