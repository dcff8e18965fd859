import ServiceBindings.Json.Fault

/-!
Shapes of JSON values. A shape says what a reader expects, what it leaves out of account, and which value it gives:
the normal form, in which every member is present and in its place. Records are known by name, so that a record
may contain itself.
-/

namespace ServiceBindings.Json

/-- The four kinds of integers, by their ranges. -/
inductive IntegerKind
  | i32
  | i64
  | u32
  | u64
  deriving DecidableEq, Repr

namespace IntegerKind

/-- The name of a kind of integers. -/
def name : IntegerKind → String
  | .i32 => "i32"
  | .i64 => "i64"
  | .u32 => "u32"
  | .u64 => "u64"

/-- The smallest integer of a kind. -/
def least : IntegerKind → Int
  | .i32 => -Int.pow 2 31
  | .i64 => -Int.pow 2 63
  | .u32 | .u64 => 0

/-- The largest integer of a kind. -/
def greatest : IntegerKind → Int
  | .i32 => Int.pow 2 31 - 1
  | .i64 => Int.pow 2 63 - 1
  | .u32 => Int.pow 2 32 - 1
  | .u64 => Int.pow 2 64 - 1

/-- Whether an integer is of a kind. -/
def contains (k : IntegerKind) (n : Int) : Bool :=
  k.least ≤ n && n ≤ k.greatest

end IntegerKind

/-- A variant of a choice: a bare name, or a name with a text. -/
structure Variant where
  name : String
  carriesText : Bool := false
  deriving DecidableEq, Repr

/-- What is expected of a value. -/
inductive Shape
  | text
  | flag
  | integer (kind : IntegerKind)
  | double
  | single
  /-- any value; objects come out with their keys in order, the last of equal keys winning -/
  | any
  /-- `null` or a value of another shape -/
  | optional (item : Shape)
  | sequence (item : Shape)
  /-- one of several names, one of which may carry a text -/
  | choice (variants : List Variant)
  /-- a text that is one of a fixed list -/
  | wire (values : List String)
  /-- the record of the given name -/
  | record (name : String)
  deriving DecidableEq, Repr

/-- A member of a record. A member with a default may be absent, and one of an optional shape may be absent from an
object; one that is `omitted` is left out of the normal form when it is `null`. -/
structure Member where
  name : String
  shape : Shape
  default? : Option Json := none
  omitted : Bool := false

/-- The value of a member that an object does not have. -/
def Member.absent? (m : Member) : Option Json :=
  match m.default?, m.shape with
  | some v, _ => some v
  | none, .optional _ => some .null
  | none, _ => none

/-- A record: its name in messages and its members in order. -/
structure Record where
  name : String
  title : String
  members : List Member

namespace Record

/-- The record of a name. -/
def find? (records : List Record) (name : String) : Option Record :=
  records.find? (·.name == name)

/-- What messages call the record where a list of its members falls short. -/
def listTitle (r : Record) : String :=
  "struct " ++ r.title ++ " with " ++ toString r.members.length ++
    (if r.members.length = 1 then " element" else " elements")

/-- A member in the normal form. -/
def place (m : Member) (value : Json) : List (String × Json) :=
  match value with
  | .null => if m.omitted then [] else [(m.name, .null)]
  | v => [(m.name, v)]

/-- The normal form of a record whose members were found in any order. -/
def normal (found : List (String × Json)) : List Member → Except Fault (List (String × Json))
  | [] => .ok []
  | m :: rest =>
    match found.lookup m.name, m.absent? with
    | some v, _ => do .ok (place m v ++ (← normal found rest))
    | none, some v => do .ok (place m v ++ (← normal found rest))
    | none, none => .error (.missingField m.name)

/-- The part of the normal form for members that a list leaves out. -/
def rest (r : Record) (count : Nat) : List Member → Except Fault (List (String × Json))
  | [] => .ok []
  | m :: ms =>
    match m.default? with
    | some v => do .ok (place m v ++ (← rest r (count + 1) ms))
    | none => .error (.invalidLength count r.listTitle)

end Record

namespace Shape

/-- How messages name a shape of which values of another kind were found. -/
def expected (records : List Record) : Shape → String
  | .text | .wire _ => "a string"
  | .flag => "a boolean"
  | .integer k => k.name
  | .double => "f64"
  | .single => "f32"
  | .any => "any valid JSON value"
  | .optional s => s.expected records
  | .sequence _ => "a sequence"
  | .choice _ => "string or map"
  | .record n => "struct " ++ ((Record.find? records n).map (·.title)).getD n

/-- Checks a number against a shape. -/
def ofNumber (records : List Record) (shape : Shape) (n : Number) : Except Fault Json :=
  match shape, n with
  | .integer k, .integer i =>
    if k.contains i then .ok (.number n) else .error (.invalidValue (.integer i) k.name)
  | .double, .integer i =>
    .ok (.number (.double (Decimal.Format.double.withSign (i < 0) (Decimal.Format.double.ofNat i.natAbs))))
  | .double, .double bits => .ok (.number (.double bits))
  | .double, .single bits => .ok (.number (.double (Decimal.Format.single.convert .double bits)))
  | .single, .integer i =>
    .ok (.number (.single (Decimal.Format.single.withSign (i < 0) (Decimal.Format.single.ofNat i.natAbs))))
  | .single, .double bits => .ok (.number (.single (Decimal.Format.double.convert .single bits)))
  | .single, .single bits => .ok (.number (.single bits))
  | s, n => .error (.invalidType (Found.ofNumber n) (s.expected records))

/-- Checks a text against a list of wire values. -/
def ofWire (values : List String) (s : String) : Except Fault Json :=
  if s ∈ values then .ok (.string s) else .error (.refused ("unknown enum value '" ++ s ++ "'"))

/-- The variant of a name. -/
def variant? (variants : List Variant) (name : String) : Except Fault Variant :=
  match variants.find? (·.name == name) with
  | some v => .ok v
  | none => .error (.unknownVariant name (variants.map (·.name)))

end Shape

end ServiceBindings.Json
