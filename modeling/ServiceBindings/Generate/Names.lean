import ServiceBindings.Code.Syntax
import ServiceBindings.Generate.Error
import ServiceBindings.Schema.Profile

/-!
The identifiers under which schema names appear in generated code.
-/

namespace ServiceBindings.Generate

open Code

/-- The identifier of a name whose case is already converted. -/
def identOf (name : String) : Except GenerationError Ident :=
  match Ident.ofName? name with
  | some i => .ok i
  | none => .error (.code (.identifier name))

/-- The identifier of a function, field, parameter or module. -/
def memberIdent (name : String) : Except GenerationError Ident :=
  identOf (snakeCase name)

/-- The identifier of a type or constant. -/
def typeIdent (name : String) : Except GenerationError Ident :=
  identOf (pascalCase name)

/-- The identifier of a parameter that is never read. -/
def silentIdent (name : String) : Except GenerationError Ident :=
  identOf ("_" ++ snakeCase name)

/-- The identifier of the client of a service over a profile. -/
def clientTypeIdent (s : Service) (p : Profile) : Except GenerationError Ident :=
  identOf (pascalCase s.name ++ p.clientSuffix)

/-- The identifier of the builder of that client. -/
def builderTypeIdent (s : Service) (p : Profile) : Except GenerationError Ident := do
  let client ← clientTypeIdent s p
  identOf (client.text ++ "Builder")

/-- Documentation: a given description, or a text that stands in for it. -/
def docOf (description : Option String) (substitute : String) : Attribute :=
  .doc (" " ++ description.getD substitute) false

/-- A name between backticks. -/
def ticked (name : String) : String := "`" ++ name ++ "`"

/-- Fixed documentation, a line each. -/
def comment (lines : List String) : List Attribute :=
  lines.map fun l => .doc l true

end ServiceBindings.Generate
