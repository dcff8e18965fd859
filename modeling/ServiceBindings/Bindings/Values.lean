import ServiceBindings.Bindings.Types
import ServiceBindings.Call.Exchange

/-!
The values of generated types, the JSON that they are serialised as and the values that JSON is read as. A name stands
for the type that is declared under it, and for a primitive one only where none is; a name that is declared twice
stands for nothing, since such code does not compile. A box does not show.
-/

namespace ServiceBindings.Bindings

open Code

/-- A value of a type in generated code. -/
inductive Value
  | text (s : String)
  | flag (b : Bool)
  | integer (n : Int)
  | double (bits : Nat)
  | single (bits : Nat)
  /-- a constant of an enumeration -/
  | constant (name : Ident)
  | absent
  | present (v : Value)
  | struct (fields : List (Ident × Value))
  deriving Repr

mutual

/-- How deeply the structures of a value stand within each other. -/
def Value.depth : Value → Nat
  | .present v => v.depth
  | .struct fields => Value.depths fields + 1
  | _ => 0

/-- The largest depth of the fields of a structure. -/
def Value.depths : List (Ident × Value) → Nat
  | [] => 0
  | (_, v) :: rest => max v.depth (Value.depths rest)

end

/-- Whether a value is the absence of one. -/
def Value.isAbsent : Value → Bool
  | .absent => true
  | _ => false

/-- What a type is. -/
inductive Meaning
  | text
  | flag
  | integer (kind : Json.IntegerKind)
  | double
  | single
  | enumeration (c : Codec)
  | struct (fields : List FieldDecl)
  | optional (item : Ty)

/-- What a type is that is there without being declared. -/
def primitive? : String → Option Meaning
  | "bool" => some .flag
  | "i32" => some (.integer .i32)
  | "i64" => some (.integer .i64)
  | "u32" => some (.integer .u32)
  | "u64" => some (.integer .u64)
  | "f32" => some .single
  | "f64" => some .double
  | _ => none

/-- Whether an item declares the type of a name. -/
def declares (name : String) (item : Item) : Bool :=
  item.type?.any (·.name == name)

/-- What a name stands for. -/
def named? (items : List Item) (name : String) : Option Meaning :=
  match items.filter (declares name) with
  | [] => primitive? name
  | [.struct _ _ _ (some fields)] => some (.struct fields)
  | [.enumeration _ i _] => (codec? items i).map .enumeration
  | _ => none

/-- What a type is. -/
def meaning? (items : List Item) : Ty → Option Meaning
  | .path false [i] [] [] => named? items i.name
  | .path true [_, _, i] [] args =>
    match i.name, args with
    | "String", [] => some .text
    | "Option", [t] => some (.optional t)
    | "Box", [t] => meaning? items t
    | _, _ => none
  | _ => none

/-! ### Serialisation -/

/-- A field as a member of an object. -/
def entry (f : FieldDecl) (v : Value) (form : Json) : List (String × Json) :=
  if v.isAbsent && isSkipped f then [] else [(key f, form)]

mutual

/-- The JSON that a value is serialised as, if it is a value of the type. -/
def form? (items : List Item) : Value → Meaning → Option Json
  | .text s, .text => some (.string s)
  | .flag b, .flag => some (.bool b)
  | .integer n, .integer k => if k.contains n then some (.number (.integer n)) else none
  | .double bits, .double => some (.number (.double bits))
  | .single bits, .single => some (.number (.single bits))
  | .constant i, .enumeration c => (c.encode? i).map .string
  | .absent, .optional _ => some .null
  | .present v, .optional t => do form? items v (← meaning? items t)
  | .struct values, .struct fields => (members? items values fields).map .object
  | _, _ => none

/-- The members that the fields of a structure are serialised as, in order. -/
def members? (items : List Item) : List (Ident × Value) → List FieldDecl → Option (List (String × Json))
  | [], [] => some []
  | (i, v) :: values, f :: fields => do
    if i ≠ f.name then none
    else
      let form ← form? items v (← meaning? items f.type)
      return entry f v form ++ (← members? items values fields)
  | _, _ => none

end

/-! ### Reading -/

/-- What JSON is read as, given what it is read as where its type is not optional: `null` is the absent value. -/
def orAbsent (items : List Item) (j : Json) (read : Meaning → Option Value) : Meaning → Option Value
  | .optional t =>
    match j with
    | .null => some .absent
    | _ => do return .present (← read (← meaning? items t))
  | m => read m

/-- A field of a structure, given how each member of an object is read. One of an optional type is absent where it has
no member. -/
def fieldValue? (items : List Item) (readings : List (String × (Meaning → Option Value))) (f : FieldDecl) :
    Option (Ident × Value) := do
  match readings.lookup (key f), ← meaning? items f.type with
  | some read, m => return (f.name, ← read m)
  | none, .optional _ => some (f.name, .absent)
  | none, _ => none

mutual

/-- The value that JSON is read as where its type is not optional. -/
def presentValue? (items : List Item) : Json → Meaning → Option Value
  | .string s, .text => some (.text s)
  | .bool b, .flag => some (.flag b)
  | .number (.integer n), .integer k => if k.contains n then some (.integer n) else none
  | .number (.double bits), .double => some (.double bits)
  | .number (.single bits), .single => some (.single bits)
  | .string s, .enumeration c => (c.decode s).toOption.map .constant
  | .object es, .struct fields => (fields.mapM (fieldValue? items (readings items es))).map .struct
  | _, _ => none

/-- How each member of an object is read, by its key. -/
def readings (items : List Item) : List (String × Json) → List (String × (Meaning → Option Value))
  | [] => []
  | (key, j) :: es => (key, orAbsent items j (presentValue? items j)) :: readings items es

end

/-- The value that JSON is read as, if it is that of a value of the type. -/
def value? (items : List Item) (j : Json) : Meaning → Option Value :=
  orAbsent items j (presentValue? items j)

/-- The value of a type that bytes are decoded as. -/
def decoded? (items : List Item) (type : Ty) (bytes : List Nat) : Option Value := do
  let j ← (jsonDecoder (records items) (← shape? items type) bytes).toOption
  value? items j (← meaning? items type)

end ServiceBindings.Bindings
