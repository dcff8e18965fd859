import ServiceBindings.Schema.Basic

/-!
What can be wrong with the definitions of a schema.
-/

namespace ServiceBindings

/-- The names among which one occurs twice. -/
inductive Scope
  | type
  | constant (enumeration : String)
  | wireValue (enumeration : String)
  | field (message : String)
  | method (service : String)
  | pathParam (method : String)
  deriving DecidableEq, Repr

/-- The wording of a scope. -/
def Scope.describe : Scope → String
  | .type => "type"
  | .constant e => "constant in enum " ++ e
  | .wireValue e => "wire value in enum " ++ e
  | .field m => "field in message " ++ m
  | .method s => "method in service " ++ s
  | .pathParam m => "path parameter in method " ++ m

/-- The place of a reference to a type. -/
inductive Referrer
  | field (message field : String)
  | request (method : String)
  | response (method : String)
  | pathParam (method param : String)
  deriving DecidableEq, Repr

/-- The wording of a place. -/
def Referrer.describe : Referrer → String
  | .field m f => m ++ "." ++ f
  | .request m => m ++ " request"
  | .response m => m ++ " response"
  | .pathParam m p => m ++ " " ++ p

/-- A demand of a call pattern on the types of a method. -/
inductive PatternRule
  | noResponse
  | needsRequest
  | needsResponse
  deriving DecidableEq, Repr

/-- The wording of a demand. -/
def PatternRule.describe : PatternRule → String
  | .noResponse => "must not declare a response"
  | .needsRequest => "must declare a request"
  | .needsResponse => "must declare a response"

/-- Why definitions are no schema. -/
inductive DefinitionError
  | duplicateName (scope : Scope) (name : String)
  | invalidReference (referrer : Referrer) (name : String)
  | patternMismatch (method : String) (pattern : CallPattern) (rule : PatternRule)
  deriving DecidableEq, Repr

/-- The message of an error. -/
def DefinitionError.message : DefinitionError → String
  | .duplicateName scope name => "duplicate " ++ scope.describe ++ " name '" ++ name ++ "'"
  | .invalidReference referrer name =>
    "'" ++ referrer.describe ++ "' references invalid type '" ++ name ++ "'"
  | .patternMismatch method pattern rule =>
    "method '" ++ method ++ "' declared as " ++ pattern.name ++ ": " ++ rule.describe

end ServiceBindings
