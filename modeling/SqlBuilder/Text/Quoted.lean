import SqlBuilder.Text.Unprintable
import SqlBuilder.Text.Combining

namespace SqlBuilder.Text

def isHidden (c : Char) : Bool :=
  isUnprintable c || isCombining c

def codeEscape (c : Char) : String :=
  "\\u\x7b" ++ String.ofList (Nat.toDigits 16 c.toNat) ++ "\x7d"

def escapedChar (c : Char) : String :=
  match c with
  | '"' => "\\\""
  | '\\' => "\\\\"
  | '\x00' => "\\0"
  | '\t' => "\\t"
  | '\r' => "\\r"
  | '\n' => "\\n"
  | c => if isHidden c then codeEscape c else c.toString

def quoted (text : String) : String :=
  "\"" ++ String.join (text.toList.map escapedChar) ++ "\""

example : quoted "a\"b" = "\"a\\\"b\"" := by decide +kernel
example : quoted "e\u0301\u200b" = "\"e\\u\x7b301\x7d\\u\x7b200b\x7d\"" := by decide +kernel

end SqlBuilder.Text
