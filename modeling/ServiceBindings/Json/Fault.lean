import ServiceBindings.Json.Basic
import ServiceBindings.Text.Quoted

/-!
Why a JSON text or value could not be read as a value of the expected shape, and the messages that say so.
-/

namespace ServiceBindings

namespace Json

/-- What was found where something else was expected. -/
inductive Found
  | null
  | boolean (value : Bool)
  | integer (value : Int)
  | floating (bits : Nat)
  | string (value : String)
  | sequence
  | map
  | unitVariant
  deriving DecidableEq, Repr

namespace Found

/-- The wording of a finding. -/
def describe : Found → String
  | .null => "null"
  | .boolean b => "boolean " ++ (if b then "`true`" else "`false`")
  | .integer n => "integer `" ++ toString n ++ "`"
  | .floating bits => "floating point `" ++ Decimal.Format.double.json bits ++ "`"
  | .string s => "string " ++ Text.quoted s
  | .sequence => "sequence"
  | .map => "map"
  | .unitVariant => "unit variant"

/-- What a number is found to be. -/
def ofNumber : Number → Found
  | .integer n => .integer n
  | .double bits => .floating bits
  | .single bits => .floating (Decimal.Format.single.convert .double bits)

/-- What a value is found to be. -/
def ofJson : Json → Found
  | .null => .null
  | .bool b => .boolean b
  | .number n => ofNumber n
  | .string s => .string s
  | .array _ => .sequence
  | .object _ => .map

end Found

/-- The three kinds of fault: the text ends too early, it is not JSON, or it is JSON of another shape. -/
inductive Category
  | eof
  | malformed
  | data
  deriving DecidableEq, Repr

/-- The name of a kind of fault. -/
def Category.name : Category → String
  | .eof => "eof"
  | .malformed => "syntax"
  | .data => "data"

/-- Where in a value a text ended. -/
inductive Place
  | list
  | object
  | string
  | value
  deriving DecidableEq, Repr

/-- Why reading failed. -/
inductive Fault
  | ended (place : Place)
  | colon
  | listCommaOrEnd
  | objectCommaOrEnd
  | ident
  | value
  | escape
  | number
  | numberRange
  | codePoint
  | controlCharacter
  | key
  | surrogate
  | trailingComma
  | trailingCharacters
  | hexEscapeEnd
  | tooDeep
  | invalidType (found : Found) (expected : String)
  | invalidValue (found : Found) (expected : String)
  | invalidLength (length : Nat) (expected : String)
  | unknownVariant (name : String) (variants : List String)
  | missingField (name : String)
  | duplicateField (name : String)
  | refused (reason : String)
  deriving DecidableEq, Repr

namespace Fault

/-- The kind of a fault. -/
def category : Fault → Category
  | .ended _ => .eof
  | .invalidType .. | .invalidValue .. | .invalidLength .. | .unknownVariant .. | .missingField _
  | .duplicateField _ | .refused _ => .data
  | _ => .malformed

/-- The alternatives that a message lists. -/
def alternatives : List String → String
  | [] => "there are no variants"
  | [a] => "expected `" ++ a ++ "`"
  | [a, b] => "expected `" ++ a ++ "` or `" ++ b ++ "`"
  | names => "expected one of " ++ ", ".intercalate (names.map fun n => "`" ++ n ++ "`")

/-- The message of a fault. -/
def message : Fault → String
  | .ended .list => "EOF while parsing a list"
  | .ended .object => "EOF while parsing an object"
  | .ended .string => "EOF while parsing a string"
  | .ended .value => "EOF while parsing a value"
  | .colon => "expected `:`"
  | .listCommaOrEnd => "expected `,` or `]`"
  | .objectCommaOrEnd => "expected `,` or `\x7d`"
  | .ident => "expected ident"
  | .value => "expected value"
  | .escape => "invalid escape"
  | .number => "invalid number"
  | .numberRange => "number out of range"
  | .codePoint => "invalid unicode code point"
  | .controlCharacter => "control character (\\u0000-\\u001F) found while parsing a string"
  | .key => "key must be a string"
  | .surrogate => "lone leading surrogate in hex escape"
  | .trailingComma => "trailing comma"
  | .trailingCharacters => "trailing characters"
  | .hexEscapeEnd => "unexpected end of hex escape"
  | .tooDeep => "recursion limit exceeded"
  | .invalidType found expected => "invalid type: " ++ found.describe ++ ", expected " ++ expected
  | .invalidValue found expected => "invalid value: " ++ found.describe ++ ", expected " ++ expected
  | .invalidLength n expected => "invalid length " ++ toString n ++ ", expected " ++ expected
  | .unknownVariant name variants => "unknown variant `" ++ name ++ "`, " ++ alternatives variants
  | .missingField name => "missing field `" ++ name ++ "`"
  | .duplicateField name => "duplicate field `" ++ name ++ "`"
  | .refused reason => reason

end Fault

end Json

end ServiceBindings
