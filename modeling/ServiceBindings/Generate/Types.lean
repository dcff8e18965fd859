import ServiceBindings.Generate.Names
import ServiceBindings.Schema.Validation

/-!
Schema types as types of generated code.
-/

namespace ServiceBindings.Generate

open Code

/-- How an argument is passed. -/
inductive Passing
  /-- texts and messages -/
  | ref
  /-- other scalars and enumerations -/
  | value
  deriving DecidableEq, Repr

/-- The name of a way of passing. -/
def Passing.name : Passing → String
  | .ref => "ref"
  | .value => "value"

/-- The type that owns its value. -/
def valueType : DataType → Except GenerationError Ty
  | .string => .ok (tyRooted ["std", "string", "String"] [])
  | .named n => do return .path false [← typeIdent n] [] []
  | t => .ok (tyPath [t.keyword])

/-- The type of a parameter and how its argument is passed. -/
def argumentType (t : DataType) (d : Definitions) : Except GenerationError (Ty × Passing) :=
  match t with
  | .string => .ok (.ref none false (tyPath ["str"]), .ref)
  | .named n => do
    let owned ← valueType (.named n)
    return if d.isEnum t then (owned, .value) else (.ref none false owned, .ref)
  | t => do return (← valueType t, .value)

/-- An argument as a reference. -/
def referenceTo (name : Ident) : Passing → Expr
  | .ref => .path false [name] []
  | .value => .ref (.path false [name] [])

/-- Puts a name into a list in increasing order, unless it is there already. -/
def insertName (n : String) : List String → List String
  | [] => [n]
  | m :: rest => if n < m then n :: m :: rest else if n = m then m :: rest else m :: insertName n rest

/-- The names that types refer to, in increasing order and each once. -/
def typeNamesIn (types : List DataType) : List String :=
  (types.filterMap DataType.name?).foldr insertName []

end ServiceBindings.Generate
