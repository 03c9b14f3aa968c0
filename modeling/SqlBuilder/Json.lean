import SqlBuilder.Text.Quoted
import SqlBuilder.Floating.Shortest

namespace SqlBuilder

inductive JsonNumber
  | integer (n : Int)
  | double (bits : UInt64)
  deriving DecidableEq, Repr

/-- The fields of an object are in the order of their names, each name once. -/
inductive Json
  | null
  | bool (b : Bool)
  | number (n : JsonNumber)
  | string (s : String)
  | array (items : List Json)
  | object (fields : List (String × Json))

inductive JsonError
  | keyNotText
  deriving DecidableEq, Repr

def JsonError.message : JsonError → String
  | .keyNotText => "key must be a string"

def JsonNumber.style : DecimalStyle := ⟨-5, 15, .toEven, true⟩

def JsonNumber.text : JsonNumber → String
  | .integer n => toString n
  | .double bits => style.text .double bits.toNat

example : JsonNumber.text (.double 0x4341c37937e08000) = "1e+16" := by decide +kernel
example : JsonNumber.text (.double 0x3e60000000000000) = "2.9802322387695312e-8" := by
  decide +kernel
example : JsonNumber.text (.double 0x3ee4f8b588e368f1) = "0.00001" := by decide +kernel

namespace Json

/-- Inserts a field at the place of its name, in place of a field of that name. -/
def insertField (name : String) (value : Json) : List (String × Json) → List (String × Json)
  | [] => [(name, value)]
  | (n, v) :: rest =>
      if name < n then (name, value) :: (n, v) :: rest
      else if name = n then (name, value) :: rest
      else (n, v) :: insertField name value rest

def keyText? : Json → Option String
  | .string s => some s
  | .number n => some n.text
  | .bool b => some (if b then "true" else "false")
  | _ => none

def addEntry (fields : List (String × Json)) (entry : Json × Json) :
    Except JsonError (List (String × Json)) :=
  match entry.1.keyText? with
  | some name => .ok (insertField name entry.2 fields)
  | none => .error .keyNotText

def ofPairs (entries : List (Json × Json)) : Except JsonError Json :=
  (entries.foldlM addEntry []).map .object

mutual

def inspect : Json → String
  | .null => "Null"
  | .bool b => "Bool(" ++ (if b then "true" else "false") ++ ")"
  | .number n => "Number(" ++ n.text ++ ")"
  | .string s => "String(" ++ Text.quoted s ++ ")"
  | .array items => "Array [" ++ String.intercalate ", " (inspectItems items) ++ "]"
  | .object fields => "Object \x7b" ++ String.intercalate ", " (inspectFields fields) ++ "\x7d"

def inspectItems : List Json → List String
  | [] => []
  | item :: items => item.inspect :: inspectItems items

def inspectFields : List (String × Json) → List String
  | [] => []
  | (name, value) :: fields =>
      (Text.quoted name ++ ": " ++ value.inspect) :: inspectFields fields

end

mutual

def decEq : (a b : Json) → Decidable (a = b)
  | .null, .null => isTrue rfl
  | .bool a, .bool b => decidable_of_iff (a = b) (by simp)
  | .number a, .number b => decidable_of_iff (a = b) (by simp)
  | .string a, .string b => decidable_of_iff (a = b) (by simp)
  | .array a, .array b =>
      have := decEqItems a b
      decidable_of_iff (a = b) (by simp)
  | .object a, .object b =>
      have := decEqFields a b
      decidable_of_iff (a = b) (by simp)
  | .null, .bool _ | .null, .number _ | .null, .string _ | .null, .array _ | .null, .object _
  | .bool _, .null | .bool _, .number _ | .bool _, .string _ | .bool _, .array _
  | .bool _, .object _ | .number _, .null | .number _, .bool _ | .number _, .string _
  | .number _, .array _ | .number _, .object _ | .string _, .null | .string _, .bool _
  | .string _, .number _ | .string _, .array _ | .string _, .object _ | .array _, .null
  | .array _, .bool _ | .array _, .number _ | .array _, .string _ | .array _, .object _
  | .object _, .null | .object _, .bool _ | .object _, .number _ | .object _, .string _
  | .object _, .array _ => isFalse nofun

def decEqItems : (as bs : List Json) → Decidable (as = bs)
  | [], [] => isTrue rfl
  | [], _ :: _ | _ :: _, [] => isFalse nofun
  | a :: as, b :: bs =>
      have := decEq a b
      have := decEqItems as bs
      decidable_of_iff (a = b ∧ as = bs) (by simp)

def decEqFields : (as bs : List (String × Json)) → Decidable (as = bs)
  | [], [] => isTrue rfl
  | [], _ :: _ | _ :: _, [] => isFalse nofun
  | (m, a) :: as, (n, b) :: bs =>
      have := decEq a b
      have := decEqFields as bs
      decidable_of_iff (m = n ∧ a = b ∧ as = bs) (by simp [and_assoc])

end

instance : DecidableEq Json := decEq

end Json
end SqlBuilder
