import ServiceBindings.Json.Basic
import ServiceBindings.Text.Quoted

/-!
The compact written form of JSON values: no blanks, members in their order, and escapes only where JSON demands
them.
-/

namespace ServiceBindings

namespace Number

/-- The written form of a number. -/
def render : Number → String
  | .integer n => toString n
  | .double bits => Decimal.Format.double.json bits
  | .single bits => Decimal.Format.single.json bits

end Number

namespace Json

/-- The escape of a control character that has no short one. -/
def controlEscape (c : Char) : String :=
  "\\u00" ++ (if c.toNat < 16 then "0" else "") ++ Text.hex c.toNat

/-- How a character appears in a JSON string. -/
def renderChar (c : Char) : String :=
  match c with
  | '"' => "\\\""
  | '\\' => "\\\\"
  | '\n' => "\\n"
  | '\r' => "\\r"
  | '\t' => "\\t"
  | '\x08' => "\\b"
  | '\x0c' => "\\f"
  | c => if c.toNat < 32 then controlEscape c else c.toString

/-- The written form of a string. -/
def renderString (s : String) : String :=
  "\"" ++ String.join (s.toList.map renderChar) ++ "\""

mutual

/-- The compact written form of a value. -/
def render : Json → String
  | .null => "null"
  | .bool b => if b then "true" else "false"
  | .number n => n.render
  | .string s => renderString s
  | .array items => "[" ++ ",".intercalate (renderItems items) ++ "]"
  | .object members => "\x7b" ++ ",".intercalate (renderMembers members) ++ "\x7d"

/-- The written forms of the items of an array. -/
def renderItems : List Json → List String
  | [] => []
  | v :: rest => render v :: renderItems rest

/-- The written forms of the members of an object. -/
def renderMembers : List (String × Json) → List String
  | [] => []
  | (k, v) :: rest => (renderString k ++ ":" ++ render v) :: renderMembers rest

end

end Json

end ServiceBindings
