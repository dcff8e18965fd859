import ServiceBindings.Code.Ident

/-!
The syntax of generated code: as much of the language as bindings are made of. Documentation and derived traits are
attributes, so that code can be compared with its documentation erased.
-/

namespace ServiceBindings.Code

/-- A type. Arguments stand after the last name of a path. -/
inductive Ty
  | path (rooted : Bool) (names : List Ident) (lifetimes : List String) (args : List Ty)
  | ref (lifetime : Option String) (exclusive : Bool) (target : Ty)
  | slice (item : Ty)
  | unit
  | dyn (bound : Ty)
  deriving BEq, Repr, Inhabited

/-- An expression. -/
inductive Expr
  | path (rooted : Bool) (names : List Ident) (args : List Ty)
  /-- an item of a type as an implementation of a trait -/
  | item (type trait : Ty) (name : Ident)
  | text (value : String)
  | field (base : Expr) (name : Ident)
  | call (function : Expr) (args : List Expr)
  | method (receiver : Expr) (name : Ident) (args : List Expr)
  | ref (target : Expr)
  | deref (target : Expr)
  | paren (inner : Expr)
  /-- the value, or the error at once -/
  | propagate (inner : Expr)
  | record (name : Ident) (fields : List (Ident × Expr))
  | array (items : List Expr)
  | cases (subject : Expr) (arms : List (Expr × Expr))
  deriving BEq, Repr, Inhabited

/-- The body of a function: bindings, then a result. -/
structure Block where
  bindings : List (Ident × Expr) := []
  result : Expr
  deriving BEq, Repr

/-- An option of the serialisation of a field. -/
inductive SerdeOption
  | rename (name : String)
  | default
  | skipSerializingIf (predicate : String)
  deriving DecidableEq, Repr

/-- An attribute. Documentation that is fixed is written as a raw literal. -/
inductive Attribute
  | doc (text : String) (raw : Bool)
  | derive (traits : List Ty)
  | serde (options : List SerdeOption)
  deriving BEq, Repr

/-- Whether an attribute is documentation. -/
def Attribute.isDoc : Attribute → Bool
  | .doc .. => true
  | _ => false

/-- A parameter of a function. -/
inductive Param
  | receiver (byRef : Bool)
  | typed (name : Ident) (type : Ty)
  deriving BEq, Repr

/-- The head of a function. -/
structure Signature where
  name : Ident
  /-- type parameters, each with its bound -/
  generics : List (Ident × Ty) := []
  params : List Param
  output : Ty
  /-- whether a comma follows the last parameter -/
  trailingComma : Bool := false
  deriving BEq, Repr

/-- A member of an implementation. -/
inductive Member
  | const (attrs : List Attribute) (isPub : Bool) (name : Ident) (type : Ty) (value : Expr)
  | alias (name : Ident) (type : Ty)
  | function (attrs : List Attribute) (isPub : Bool) (signature : Signature) (body : Block)
  deriving BEq, Repr

/-- A field of a structure. -/
structure FieldDecl where
  attrs : List Attribute := []
  isPub : Bool
  name : Ident
  type : Ty
  deriving BEq, Repr

/-- A constant of an enumeration. -/
structure VariantDecl where
  attrs : List Attribute := []
  name : Ident
  deriving BEq, Repr

/-- What is imported from a path. -/
inductive Imports
  | all
  | names (names : List Ident)
  deriving BEq, Repr

/-- An item of a file. -/
inductive Item
  | module (name : Ident)
  | imports (isPub : Bool) (path : List Ident) (what : Imports)
  /-- a structure, with fields or with no body at all -/
  | struct (attrs : List Attribute) (isPub : Bool) (name : Ident) (fields : Option (List FieldDecl))
  | enumeration (attrs : List Attribute) (name : Ident) (variants : List VariantDecl)
  | trait (attrs : List Attribute) (name : Ident) (parents : List Ty) (methods : List (List Attribute × Signature))
  | implementation (lifetimes : List String) (trait : Option Ty) (target : Ty) (members : List Member)
  deriving BEq, Repr

/-- The type that an item declares. -/
def Item.type? : Item → Option Ident
  | .struct _ _ name _ | .enumeration _ name _ => some name
  | _ => none

/-- A file: its own documentation, then items. -/
structure File where
  docs : List Attribute := []
  items : List Item
  deriving BEq, Repr

/-! ### Documentation erased -/

/-- The attributes that are no documentation. -/
def undocumented (attrs : List Attribute) : List Attribute :=
  attrs.filter (!·.isDoc)

/-- A member without documentation. -/
def Member.erase : Member → Member
  | .const attrs isPub name type value => .const (undocumented attrs) isPub name type value
  | .alias name type => .alias name type
  | .function attrs isPub signature body => .function (undocumented attrs) isPub signature body

/-- An item without documentation. -/
def Item.erase : Item → Item
  | .struct attrs isPub name fields =>
    .struct (undocumented attrs) isPub name
      (fields.map fun fs => fs.map fun f => { f with attrs := undocumented f.attrs })
  | .enumeration attrs name variants =>
    .enumeration (undocumented attrs) name (variants.map fun v => { v with attrs := undocumented v.attrs })
  | .trait attrs name parents methods =>
    .trait (undocumented attrs) name parents (methods.map fun (a, s) => (undocumented a, s))
  | .implementation lifetimes bound target members =>
    .implementation lifetimes bound target (members.map Member.erase)
  | item => item

/-- A file without documentation. -/
def File.erase (f : File) : File :=
  ⟨[], f.items.map Item.erase⟩

/-! ### Shorthands -/

/-- An identifier that is no keyword. -/
def plain (name : String) : Ident := ⟨name, false⟩

/-- A path of plain names without arguments. -/
def tyPath (names : List String) : Ty :=
  .path false (names.map plain) [] []

/-- A path of plain names from the root, with arguments. -/
def tyRooted (names : List String) (args : List Ty) : Ty :=
  .path true (names.map plain) [] args

/-- A path of plain names as an expression. -/
def exprPath (names : List String) : Expr :=
  .path false (names.map plain) []

end ServiceBindings.Code
