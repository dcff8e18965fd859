import ServiceBindings.Call.Error
import ServiceBindings.Generate.Crate
import ServiceBindings.Json.Shape

/-!
What generated types mean. The constants of an enumeration stand for the texts that the arms of its `encode` give
them; a structure is a record whose members have the names and the defaults that its attributes say.
-/

namespace ServiceBindings.Bindings

open Code

/-! ### Enumerations -/

/-- The two directions between the constants of an enumeration and texts. -/
structure Codec where
  /-- the constants in order -/
  constants : List Ident
  /-- the text of each -/
  arms : List (Ident × String)
  deriving DecidableEq, Repr

namespace Codec

/-- The text of a constant. -/
def encode? (c : Codec) (constant : Ident) : Option String :=
  c.arms.lookup constant

/-- The first constant whose text is the given one. -/
def decode (c : Codec) (text : String) : Except CallError Ident :=
  match c.constants.find? fun i => c.encode? i == some text with
  | some i => .ok i
  | none => .error (.unknownEnumValue text)

/-- The texts of all constants, in order. -/
def texts (c : Codec) : List String :=
  c.constants.filterMap c.encode?

end Codec

/-- The constant that an expression names. -/
def constantOf? : Expr → Option Ident
  | .path false [_, i] [] => some i
  | _ => none

/-- The constant and the text of an arm. -/
def armOf? : Expr × Expr → Option (Ident × String)
  | (pattern, .text s) => (constantOf? pattern).map fun i => (i, s)
  | _ => none

/-- The constants that a member lists under the name `VALUES`. -/
def constantsOf? : Member → Option (List Ident)
  | .const _ _ name _ (.ref (.array items)) => if name = plain "VALUES" then items.mapM constantOf? else none
  | _ => none

/-- The arms of a member named `encode`. -/
def armsOf? : Member → Option (List (Ident × String))
  | .function _ _ signature ⟨_, .cases _ arms⟩ =>
    if signature.name = plain "encode" then arms.mapM armOf? else none
  | _ => none

/-- The names of a type that is a path without arguments. -/
def names? : Ty → Option (List Ident)
  | .path false names [] [] => some names
  | _ => none

/-- The codec that an item implements for a type. -/
def codecOf? (type : Ident) : Item → Option Codec
  | .implementation _ (some trait) target members =>
    if names? trait = names? Generate.codecTy ∧ names? target = some [type] then do
      return { constants := ← members.findSome? constantsOf?, arms := ← members.findSome? armsOf? }
    else none
  | _ => none

/-- The codec of a type among the items of a file. -/
def codec? (items : List Item) (type : Ident) : Option Codec :=
  items.findSome? (codecOf? type)

/-! ### Structures -/

/-- The shape of a type that is there without being declared. -/
def primitiveShape? : String → Option Json.Shape
  | "bool" => some .flag
  | "i32" => some (.integer .i32)
  | "i64" => some (.integer .i64)
  | "u32" => some (.integer .u32)
  | "u64" => some (.integer .u64)
  | "f32" => some .single
  | "f64" => some .double
  | "str" => some .text
  | _ => none

/-- The type of a name that items declare, if they declare one. -/
def declared? (items : List Item) (name : String) : Option Ident :=
  (items.filterMap Item.type?).find? (·.name == name)

/-- The shape of a type that is a plain name. A type that is declared hides the one that is there without. -/
def namedShape (items : List Item) (type : Ident) : Json.Shape :=
  match declared? items type.name with
  | some i =>
    match codec? items i with
    | some c => .wire c.texts
    | none => .record i.name
  | none => (primitiveShape? type.name).getD (.record type.name)

/-- The shape of the values of a type. A box and a reference do not show. -/
def shape? (items : List Item) : Ty → Option Json.Shape
  | .ref _ _ t => shape? items t
  | .path false [i] [] [] => some (namedShape items i)
  | .path true [_, _, i] [] args =>
    match i.name, args with
    | "String", [] => some .text
    | "Option", [t] => (shape? items t).map .optional
    | "Box", [t] => shape? items t
    | _, _ => none
  | _ => none

/-- The options of serialisation among attributes. -/
def serdeOptions (attrs : List Attribute) : List SerdeOption :=
  attrs.flatMap fun
    | .serde options => options
    | _ => []

/-- The name that options give, if they give one. -/
def renamed? (options : List SerdeOption) : Option String :=
  options.findSome? fun
    | .rename name => some name
    | _ => none

/-- The key of a field: the name that its attributes give, or that of its identifier. -/
def key (f : FieldDecl) : String :=
  (renamed? (serdeOptions f.attrs)).getD f.name.name

/-- Whether a field is left out where it is absent. -/
def isSkipped (f : FieldDecl) : Bool :=
  (serdeOptions f.attrs).any fun
    | .skipSerializingIf _ => true
    | _ => false

/-- The member that a field becomes. -/
def memberOf? (items : List Item) (f : FieldDecl) : Option Json.Member := do
  return {
    name := key f
    shape := ← shape? items f.type
    default? := if SerdeOption.default ∈ serdeOptions f.attrs then some .null else none
    omitted := isSkipped f }

/-- The record that an item declares. -/
def recordOf? (items : List Item) : Item → Option Json.Record
  | .struct _ _ name (some fields) => do
    return { name := name.name, title := name.name, members := ← fields.mapM (memberOf? items) }
  | _ => none

/-- The records among the items of a file. -/
def records (items : List Item) : List Json.Record :=
  items.filterMap (recordOf? items)

end ServiceBindings.Bindings
