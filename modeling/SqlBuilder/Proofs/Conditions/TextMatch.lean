import SqlBuilder.Condition.Predicate
import SqlBuilder.Proofs.Evaluation.Row
import SqlBuilder.Query

namespace SqlBuilder

def TextMatch.Occurs : TextMatch → List Char → List Char → Prop
  | .contains, sought, text => sought <:+: text
  | .startsWith, sought, text => sought <+: text
  | .endsWith, sought, text => sought <:+ text

instance (place : TextMatch) (sought text : List Char) : Decidable (place.Occurs sought text) :=
  match place with
  | .contains => inferInstanceAs (Decidable (sought <:+: text))
  | .startsWith => inferInstanceAs (Decidable (sought <+: text))
  | .endsWith => inferInstanceAs (Decidable (sought <:+ text))

namespace TextMatch

def surrounded : TextMatch → List Char → List Char
  | .contains, sought => '%' :: sought ++ ['%']
  | .startsWith, sought => sought ++ ['%']
  | .endsWith, sought => '%' :: sought

def marks : TextMatch → List Char → List Like.Mark
  | .contains, sought => .anySequence :: (sought.map .exactly ++ [.anySequence])
  | .startsWith, sought => sought.map .exactly ++ [.anySequence]
  | .endsWith, sought => .anySequence :: (sought.map .exactly ++ [])

theorem read_surrounded (place : TextMatch) (sought : List Char) :
    Like.read (place.surrounded (Like.escaped sought)) = some (place.marks sought) := by
  have wildcard (cs : List Char) :
      Like.read ('%' :: cs) = (Like.read cs).map (.anySequence :: ·) := by
    rw [Like.read]
  have nothing : Like.read [] = some [] := by rw [Like.read]
  cases place with
  | contains =>
      rw [surrounded, List.cons_append, wildcard, Like.read_escaped, wildcard, nothing]
      rfl
  | startsWith =>
      rw [surrounded, Like.read_escaped, wildcard, nothing]
      rfl
  | endsWith =>
      rw [surrounded, wildcard, ← List.append_nil (Like.escaped sought), Like.read_escaped, nothing]
      rfl

theorem accepts_marks_iff (place : TextMatch) (sought text : List Char) :
    Like.accepts (place.marks sought) text = true ↔ place.Occurs sought text := by
  cases place with
  | contains =>
      rw [marks, Like.accepts_anySequence_iff, Occurs, List.infix_iff_prefix_suffix]
      simp only [Like.accepts_exactly_append_iff, Like.accepts_anything, and_true]
      constructor
      · rintro ⟨suffix, ends, rest, rfl⟩
        exact ⟨_, List.prefix_append sought rest, ends⟩
      · rintro ⟨suffix, ⟨rest, rfl⟩, ends⟩
        exact ⟨_, ends, rest, rfl⟩
  | startsWith =>
      rw [marks, Like.accepts_exactly_append_iff, Occurs]
      constructor
      · rintro ⟨rest, rfl, -⟩
        exact List.prefix_append sought rest
      · rintro ⟨rest, rfl⟩
        exact ⟨rest, rfl, Like.accepts_anything rest⟩
  | endsWith =>
      rw [marks, Like.accepts_anySequence_iff, Occurs]
      simp only [Like.accepts_exactly_append_iff, Like.accepts_nil_iff]
      constructor
      · rintro ⟨suffix, ends, rest, rfl, rfl⟩
        simpa using ends
      · intro ends
        exact ⟨sought, ends, [], by simp, rfl⟩

end TextMatch

variable (row : Row)

theorem Expr.datum_likeEscaped {e : Expr} {sought : String}
    (value : e.datum row = some (.text sought)) :
    e.likeEscaped.datum row = some (.text (String.ofList (Like.escaped sought.toList))) := by
  simp [likeEscaped, likeMarks, datum, data, value, ← Like.replaceAll_marks]

theorem TextMatch.datum_pattern (place : TextMatch) {e : Expr} {sought : String}
    (value : e.datum row = some (.text sought)) :
    (place.pattern e).datum row =
      some (.text (String.ofList (place.surrounded (Like.escaped sought.toList)))) := by
  have escaped := Expr.datum_likeEscaped row value
  cases place <;>
    simp [pattern, surrounded, Expr.datum, Expr.wildcard, escaped, String.append_assoc]

theorem Server.folded_surrounded (server : Server) (ignoreCase : Bool) (place : TextMatch)
    (sought : String) :
    server.folded ignoreCase (String.ofList (place.surrounded (Like.escaped sought.toList))) =
      place.surrounded (Like.escaped (server.folded ignoreCase sought)) := by
  have wildcard : server.fold '%' = '%' := (server.fold_eq_iff '%' rfl '%').mpr rfl
  have escaped := Like.map_escaped server.fold_eq_iff sought.toList
  cases ignoreCase with
  | false => simp [folded]
  | true => cases place <;> simp [folded, TextMatch.surrounded, wildcard, escaped]

def replaceSql (text sought new : String) : String :=
  "replace(" ++ text ++ ", " ++ sought ++ ", " ++ new ++ ")"

def concatSql (left right : String) : String := "(" ++ left ++ " || " ++ right ++ ")"

def escapedSql (sought : String) : String :=
  replaceSql (replaceSql (replaceSql sought "'!'" "'!!'") "'%'" "'!%'") "'_'" "'!_'"

def TextMatch.patternSql : TextMatch → String → String
  | .contains, sought => concatSql (concatSql "'%'" (escapedSql sought)) "'%'"
  | .startsWith, sought => concatSql (escapedSql sought) "'%'"
  | .endsWith, sought => concatSql "'%'" (escapedSql sought)

def likeSql (subject : String) (ignoreCase negated : Bool) (pattern : String) : String :=
  subject ++ " " ++ (Comparison.likeWith ignoreCase negated).sql ++ " " ++ pattern ++ " ESCAPE '!'"

theorem Expr.write_replace (e : Expr) (sought new : String) :
    (Expr.call .replace [e, .literal sought, .literal new]).write =
      (replaceSql · (stringConstant sought) (stringConstant new)) <$> e.write := by
  funext ps
  have word (text : String) : "replace" ++ ("(" ++ text) = "replace(" ++ text := by
    rw [← String.append_assoc]
    rfl
  simp [write, writeAll, Writer.parenthesized, Writer.separated, SqlFunction.sql, replaceSql,
    String.append_assoc, word]

theorem Expr.write_concat (left right : Expr) :
    (Expr.binary left .concat right).write = (do
      let left ← left.write
      let right ← right.write
      return concatSql left right) := by
  funext ps
  simp [write, Writer.parenthesized, BinaryOperator.sql, concatSql, String.append_assoc]

theorem Expr.write_likeEscaped (e : Expr) : e.likeEscaped.write = escapedSql <$> e.write := by
  have nested : e.likeEscaped = .call .replace [.call .replace [.call .replace
      [e, .literal "!", .literal "!!"], .literal "%", .literal "!%"], .literal "_",
      .literal "!_"] :=
    rfl
  rw [nested, write_replace, write_replace, write_replace]
  rfl

theorem TextMatch.write_pattern (place : TextMatch) (e : Expr) :
    (place.pattern e).write = place.patternSql <$> e.write := by
  have wildcard : Expr.wildcard.write = pure "'%'" := rfl
  cases place <;>
    simp only [pattern, Expr.write_concat, Expr.write_likeEscaped, wildcard, pure_bind, bind_assoc,
      map_eq_pure_bind] <;> rfl

theorem Expr.write_matchesText (subject sought : Expr) (place : TextMatch)
    (ignoreCase negated : Bool) :
    Query.write (subject.matchesText place sought ignoreCase negated) = (do
      let text ← subject.write
      let pattern ← sought.write
      return likeSql text ignoreCase negated (place.patternSql pattern)) := by
  have alone : Query.write (subject.matchesText place sought ignoreCase negated) =
      (subject.matchesText place sought ignoreCase negated).write := rfl
  rw [alone, matchesText, Condition.write, place.write_pattern]
  simp only [map_eq_pure_bind, bind_assoc, pure_bind]
  rfl

theorem Server.like_pattern (server : Server) (ignoreCase : Bool) (place : TextMatch)
    (text sought : String) :
    server.like ignoreCase (some (.text text))
        (some (.text (String.ofList (place.surrounded (Like.escaped sought.toList))))) =
      .ofBool (decide
        (place.Occurs (server.folded ignoreCase sought) (server.folded ignoreCase text))) := by
  rw [like, folded_surrounded, place.read_surrounded, Option.elim_some]
  congr 1
  rw [Bool.eq_iff_iff, decide_eq_true_iff]
  exact place.accepts_marks_iff _ _

theorem Expr.matchesText_literal (row : Row) {subject sought : Expr} {text word : String}
    (stored : subject.datum row = some (.text text)) (asked : sought.datum row = some (.text word))
    (place : TextMatch) (ignoreCase negated : Bool) :
    Query.write (subject.matchesText place sought ignoreCase negated) = (do
      let text ← subject.write
      let pattern ← sought.write
      return likeSql text ignoreCase negated (place.patternSql pattern)) ∧
    (∃ pattern, (place.pattern sought).datum row = some (.text pattern) ∧
      (Like.read (row.server.folded ignoreCase pattern)).isSome = true) ∧
    (subject.matchesText place sought ignoreCase negated).holds row =
      .ofBool (decide (place.Occurs (row.server.folded ignoreCase word)
        (row.server.folded ignoreCase text)) != negated) := by
  have pattern := place.datum_pattern row asked
  refine ⟨subject.write_matchesText sought place ignoreCase negated, ⟨_, pattern, ?_⟩, ?_⟩
  · rw [Server.folded_surrounded, place.read_surrounded]
    rfl
  · have answer : (subject.matchesText place sought ignoreCase negated).holds row =
        .notIf negated (row.server.like ignoreCase (subject.datum row)
          ((place.pattern sought).datum row)) := rfl
    rw [answer, stored, pattern, Server.like_pattern, Truth.notIf_ofBool]

def discounted : Row := ⟨.ascii, fun _ => some (.text "50%_OFF!"), fun _ => .unknown⟩

theorem Expr.matchesText_literal_discounted :
    Query.toSql ((column ⟨[], .quoted "label"⟩).matchesText .contains (.bind (.text "%_off")) true
        false) =
      "\"label\" ILIKE (('%' || replace(replace(replace($1, '!', '!!'), '%', '!%'), '_', '!_'))" ++
        " || '%') ESCAPE '!'" ∧
    ((column ⟨[], .quoted "label"⟩).matchesText .contains (.bind (.text "%_off")) true false).holds
      discounted = .yes := by
  have label : (column ⟨[], .quoted "label"⟩).datum discounted = some (.text "50%_OFF!") := rfl
  have asked : (bind (.text "%_off")).datum discounted = some (.text "%_off") := rfl
  obtain ⟨written, -, answer⟩ := matchesText_literal discounted label asked .contains true false
  refine ⟨?_, ?_⟩
  · rw [Query.toSql, Query.render, written]
    decide +kernel
  · rw [answer]
    decide +kernel

end SqlBuilder
