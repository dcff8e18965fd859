import ServiceBindings.Naming
import ServiceBindings.Schema.Error

/-!
Schemas: definitions without a violation. The types of a schema share one space of names, compared as they appear
in generated code; so do the constants of an enumeration, the fields of a message, the methods of a service and
the parameters of a method. References meet an enumeration or message, and only an enumeration from a path.
-/

namespace ServiceBindings

/-- The definitions of a schema, not checked yet. -/
structure Definitions where
  package : String
  services : List Service := []
  enums : List Enumeration := []
  messages : List Message := []
  deriving DecidableEq, Repr

/-- What a name stands for. -/
inductive NameKind
  | enumeration
  | message
  | service
  deriving DecidableEq, Repr

namespace Definitions

/-- The service of a name. -/
def service? (d : Definitions) (name : String) : Option Service :=
  d.services.find? (·.name == name)

/-- The enumeration of a name. -/
def enum? (d : Definitions) (name : String) : Option Enumeration :=
  d.enums.find? (·.name == name)

/-- The message of a name. -/
def message? (d : Definitions) (name : String) : Option Message :=
  d.messages.find? (·.name == name)

/-- Whether a type is an enumeration. -/
def isEnum (d : Definitions) (t : DataType) : Bool :=
  t.name?.any fun n => (d.enum? n).isSome

/-- The names of all types with what they stand for, in the order in which they are checked. -/
def kinds (d : Definitions) : List (String × NameKind) :=
  d.enums.map (fun e => (e.name, .enumeration)) ++ d.messages.map (fun m => (m.name, .message)) ++
    d.services.map (fun s => (s.name, .service))

end Definitions

/-- The first error among items that have a name each: that the name of an item is one of `taken` or that of an item
before it, or what is wrong with the item otherwise. -/
def firstError? {α : Type} (name : α → String) (repeated : α → DefinitionError) (check : α → Option DefinitionError)
    (taken : List String) : List α → Option DefinitionError
  | [] => none
  | a :: rest =>
    if name a ∈ taken then some (repeated a)
    else (check a).or (firstError? name repeated check (name a :: taken) rest)

/-- Constants with the converted names and the values of those before them. -/
def constantsError? (enumeration : String) (names values : List String) : List Constant → Option DefinitionError
  | [] => none
  | c :: rest =>
    if pascalCase c.name ∈ names then some (.duplicateName (.constant enumeration) c.name)
    else if c.value ∈ values then some (.duplicateName (.wireValue enumeration) c.value)
    else constantsError? enumeration (pascalCase c.name :: names) (c.value :: values) rest

/-- The first error of an enumeration. -/
def Enumeration.error? (e : Enumeration) : Option DefinitionError :=
  constantsError? e.name [] [] e.constants

/-- The error of a reference that does not meet a type allowed in its place. -/
def referenceError? (kinds : List (String × NameKind)) (referrer : Referrer) (inPath : Bool) (t : DataType) :
    Option DefinitionError :=
  match t.name? with
  | none => none
  | some n =>
    match kinds.lookup n with
    | some .enumeration => none
    | some .message => if inPath then some (.invalidReference referrer n) else none
    | _ => some (.invalidReference referrer n)

/-- The first error of a message. -/
def Message.error? (kinds : List (String × NameKind)) (m : Message) : Option DefinitionError :=
  firstError? (fun f => snakeCase f.name) (fun f => .duplicateName (.field m.name) f.name)
    (fun f => referenceError? kinds (.field m.name f.name) false f.type) [] m.fields

/-- The parameter name that generated methods use for the request payload. -/
def requestName : String := "request"

/-- The demand of its call pattern that a method does not meet. -/
def Method.brokenRule? (m : Method) : Option PatternRule :=
  match m.pattern with
  | .unary => none
  | .fireAndForget => if m.response.isSome then some .noResponse else none
  | .clientStreaming => if m.request.isNone then some .needsRequest else none
  | .serverStreaming => if m.response.isNone then some .needsResponse else none
  | .bidiStreaming =>
    if m.request.isNone then some .needsRequest
    else if m.response.isNone then some .needsResponse
    else none

/-- The name of a method with the name of its service. -/
def qualifiedName (s : Service) (m : Method) : String :=
  s.name ++ "." ++ m.name

/-- The first error of a method. -/
def Method.error? (kinds : List (String × NameKind)) (s : Service) (m : Method) : Option DefinitionError :=
  let name := qualifiedName s m
  match m.brokenRule? with
  | some rule => some (.patternMismatch name m.pattern rule)
  | none =>
    (m.request.bind (referenceError? kinds (.request name) false)).or <|
      (m.response.bind (referenceError? kinds (.response name) false)).or <|
        firstError? (fun p => snakeCase p.name) (fun p => .duplicateName (.pathParam name) p.name)
          (fun p => referenceError? kinds (.pathParam name p.name) true p.type) [requestName] m.pathParams

/-- The first error of a service. -/
def Service.error? (kinds : List (String × NameKind)) (s : Service) : Option DefinitionError :=
  firstError? (fun m => snakeCase m.name) (fun m => .duplicateName (.method s.name) m.name) (Method.error? kinds s) []
    s.methods

/-- The first error of the names of types. -/
def namesError? (names : List String) : Option DefinitionError :=
  firstError? pascalCase (.duplicateName .type) (fun _ => none) [] names

namespace Definitions

/-- The first error of the definitions: names of types first, then enumerations, messages and services in order. -/
def error? (d : Definitions) : Option DefinitionError :=
  (namesError? (d.kinds.map (·.1))).or <|
    (d.enums.findSome? Enumeration.error?).or <|
      (d.messages.findSome? (Message.error? d.kinds)).or <|
        d.services.findSome? (Service.error? d.kinds)

end Definitions

/-- A schema: definitions without an error. -/
structure Schema extends Definitions where
  valid : toDefinitions.error? = none

namespace Schema

/-- The schema of definitions, or their first error. -/
def ofDefinitions (d : Definitions) : Except DefinitionError Schema :=
  match h : d.error? with
  | none => .ok ⟨d, h⟩
  | some e => .error e

/-- A schema without definitions. -/
def empty (package : String) : Schema :=
  ⟨{ package }, rfl⟩

end Schema

end ServiceBindings
