import ServiceBindings.Decimal.Notation

/-!
JSON values. Numbers are integers or binary floating point numbers; `-0` is the floating point zero. The members of
an object keep their order, which is the order of writing.
-/

namespace ServiceBindings

/-- A JSON number. -/
inductive Number
  | integer (value : Int)
  | double (bits : Nat)
  | single (bits : Nat)
  deriving DecidableEq, Repr

/-- A JSON value. -/
inductive Json
  | null
  | bool (value : Bool)
  | number (value : Number)
  | string (value : String)
  | array (items : List Json)
  | object (members : List (String × Json))
  deriving BEq, Repr, Inhabited

namespace Json

/-- An integer as a JSON value. -/
def ofInt (n : Int) : Json :=
  .number (.integer n)

/-- A text, or `null`. -/
def ofText? : Option String → Json
  | some s => .string s
  | none => .null

/-- A list of texts. -/
def ofTexts (ss : List String) : Json :=
  .array (ss.map .string)

/-- The value of an object's member. -/
def get? (key : String) : Json → Option Json
  | .object members => members.lookup key
  | _ => none

/-- The text of a string. -/
def text? : Json → Option String
  | .string s => some s
  | _ => none

/-- The truth value of a boolean. -/
def flag? : Json → Option Bool
  | .bool b => some b
  | _ => none

/-- The items of an array. -/
def items? : Json → Option (List Json)
  | .array items => some items
  | _ => none

/-- The value of an integer. -/
def int? : Json → Option Int
  | .number (.integer n) => some n
  | _ => none

/-- Puts a member into an object whose keys are in increasing order, replacing one of the same key. -/
def insertMember (key : String) (value : Json) : List (String × Json) → List (String × Json)
  | [] => [(key, value)]
  | (k, v) :: rest =>
    if key < k then (key, value) :: (k, v) :: rest
    else if key = k then (key, value) :: rest
    else (k, v) :: insertMember key value rest

end Json

end ServiceBindings
