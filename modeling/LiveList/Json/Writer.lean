import LiveList.Decimal.Layout
import LiveList.Json.Basic

/-!
Writing JSON texts without any blanks. Fields come in the order in which an object holds them.
-/

namespace LiveList.Json

def controlText (code : Nat) : String :=
  (if code < 16 then "\\u000" else "\\u00") ++ String.ofList (Nat.toDigits 16 code)

def escapeChar (c : Char) : String :=
  if c = '"' then "\\\""
  else if c = '\\' then "\\\\"
  else if c = '\n' then "\\n"
  else if c = '\r' then "\\r"
  else if c = '\t' then "\\t"
  else if c.toNat = 8 then "\\b"
  else if c.toNat = 12 then "\\f"
  else if c.toNat < 0x20 then controlText c.toNat
  else c.toString

def writeString (text : String) : String :=
  "\"" ++ String.join (text.toList.map escapeChar) ++ "\""

mutual

def write : Json → String
  | .null => "null"
  | .bool value => if value then "true" else "false"
  | .integer value => toString value
  | .float value => Decimal.tagged value
  | .string value => writeString value
  | .list items => "[" ++ writeItems items ++ "]"
  | .object fields => "\x7b" ++ writeFields fields ++ "\x7d"

def writeItems : List Json → String
  | [] => ""
  | [item] => write item
  | item :: rest => write item ++ "," ++ writeItems rest

def writeFields : List (String × Json) → String
  | [] => ""
  | [(name, value)] => writeString name ++ ":" ++ write value
  | (name, value) :: rest => writeString name ++ ":" ++ write value ++ "," ++ writeFields rest

end

end LiveList.Json
