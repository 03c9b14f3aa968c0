import SqlBuilder.Json

namespace SqlBuilder

inductive NullType
  | int4
  | text
  deriving DecidableEq, Repr

inductive Value
  | bool (b : Bool)
  | int2 (n : Int16)
  | int4 (n : Int32)
  | int8 (n : Int64)
  | float4 (bits : UInt32)
  | float8 (bits : UInt64)
  | text (s : String)
  | json (document : Json)
  | null (type : NullType)
  | other (type : String) (encoded : List UInt8) (shown : String)
  deriving DecidableEq

namespace Value

def style : DecimalStyle := ⟨-4, 15, .up, false⟩

def inspect : Value → String
  | .bool b => if b then "true" else "false"
  | .int2 n => toString n.toInt
  | .int4 n => toString n.toInt
  | .int8 n => toString n.toInt
  | .float4 bits => style.text .single bits.toNat
  | .float8 bits => style.text .double bits.toNat
  | .text s => Text.quoted s
  | .json document => document.inspect
  | .null _ => "None"
  | .other _ _ shown => shown

def inspectAll (values : List Value) : String :=
  "[" ++ String.intercalate ", " (values.map inspect) ++ "]"

example : inspect (.float8 0x4000000000000000) = "2.0" := by decide +kernel
example : inspect (.float4 0x3dcccccd) = "0.1" := by decide +kernel
example : inspect (.float8 0x4341c37937e08000) = "1e16" := by decide +kernel
example : inspect (.float8 0x3e60000000000000) = "2.9802322387695313e-8" := by decide +kernel

end Value
end SqlBuilder
