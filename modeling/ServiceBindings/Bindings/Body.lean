import ServiceBindings.Bindings.Types
import ServiceBindings.Call.Session
import ServiceBindings.Json.Writer

/-!
What the body of a generated method does: it fails at once, or it builds a call step by step and dispatches it.
-/

namespace ServiceBindings.Bindings

open Code

/-- The types that an item brings into its module from the file of types. -/
def importedTypes : Item → List Ident
  | .imports false path (.names names) => if path = [plain "crate", plain "types"] then names else []
  | _ => []

/-- The items of the file of types that a module sees. A type is seen under its name only where it is imported; what
declares no type, such as an implementation, is there everywhere. -/
def visible (module types : List Item) : List Item :=
  types.filter fun item => item.type?.all fun i => (module.flatMap importedTypes).any (·.name == i.name)

/-- What a body sees: the configuration of the client, the name of the profile, the types that its module sees, the
records of the crate, and the arguments by their names. -/
structure Scope where
  config : ClientSettings
  profile : String
  types : List Item
  records : List Json.Record
  arguments : List (Ident × Json)

/-- The value that an argument puts into a path. -/
def pathValue? : Json → Option SegmentValue
  | .string s => some (.text s)
  | .bool b => some (.flag b)
  | .number (.integer n) => some (.integer n)
  | .number (.double bits) => some (.double bits)
  | .number (.single bits) => some (.single bits)
  | _ => none

/-- The argument that an expression passes, by value or by reference. -/
def argument? (s : Scope) : Expr → Option Json
  | .path false [i] [] => s.arguments.lookup i
  | .ref (.path false [i] []) => s.arguments.lookup i
  | _ => none

/-- The verb of a name in code. -/
def verb? (name : Ident) : Option Verb :=
  Verb.all.find? fun v => plain v.constant = name

/-- The pattern of a name in code. -/
def pattern? (name : Ident) : Option CallPattern :=
  CallPattern.all.find? fun p => plain p.constant = name

/-- The call that an expression builds. -/
def call? (s : Scope) : Expr → Option Call
  | .method receiver name args =>
    match name.name, receiver, args with
    | "call", .field _ _, [.text method, .path false [_, _, verb] []] => do
      return s.config.call method (← verb? verb)
    | "segment", receiver, [.text text] => do
      return (← call? s receiver).add (.segment text)
    | "param", receiver, [e] => do
      return (← call? s receiver).add (.param (← pathValue? (← argument? s e)))
    | "json_body", receiver, [e] => do
      return (← call? s receiver).add (.body (.ok (← argument? s e).render))
    | _, _, _ => none
  | _ => none

/-- The decoder that an expression names. -/
def decoder? (s : Scope) : Expr → Option (Decoder Json)
  | .path false [_, name] args =>
    match name.name, args with
    | "decode_json", [t] => (shape? s.types t).map (jsonDecoder s.records)
    | "discard", [] => some emptyDecoder
    | _, _ => none
  | _ => none

/-- What a body comes to. -/
inductive Effect
  | failed (handle : Handle Json)
  | dispatched (call : Call) (decode : Decoder Json)

/-- What the expression of a body does. -/
def effect? (s : Scope) : Expr → Option Effect
  | .call (.path false [_, function] []) (.text method :: args) =>
    match function.name, args with
    | "unavailable", [] => some (.failed (.unavailable method))
    | "unsupported", [.path false [_, _, pattern] [], .path false [_, constant] []] =>
      if constant = plain "PROFILE" then do
        return .failed (.unsupported method (← pattern? pattern) s.profile)
      else none
    | _, _ => none
  | .method receiver name [decode] =>
    if name = plain "dispatch" then do return .dispatched (← call? s receiver) (← decoder? s decode) else none
  | _ => none

/-- Carries out an effect in a session. -/
def Effect.run (session : Session Json) : Effect → Session Json × Handle Json
  | .failed h => (session, h)
  | .dispatched c decode => session.dispatchCall c decode

/-! ### Methods -/

/-- Types of the parameters of a method, the receiver apart. -/
def parameters (signature : Signature) : List (Ident × Ty) :=
  signature.params.filterMap fun
    | .typed name type => some (name, type)
    | .receiver _ => none

/-- The arguments of a function by their names. There are none if two parameters have one name, which makes it no
function, or if there are more or fewer values than parameters. -/
def bind? (signature : Signature) (values : List Json) : Option (List (Ident × Json)) :=
  let names := (parameters signature).map (·.1)
  if (names.map (·.name)).Nodup ∧ names.length = values.length then some (names.zip values) else none

/-- The name of the profile that an item gives a client. -/
def profileOf? (client : Ident) : Item → Option String
  | .implementation _ none t members =>
    if names? t = some [client] then
      members.findSome? fun
        | .const _ _ name _ (.text value) => if name = plain "PROFILE" then some value else none
        | _ => none
    else none
  | _ => none

/-- The method of a name that an item implements for a type. -/
def methodOf? (target : Ident) (name : Ident) : Item → Option (Signature × Block)
  | .implementation _ (some _) t members =>
    if names? t = some [target] then
      members.findSome? fun
        | .function _ _ signature body => if signature.name = name then some (signature, body) else none
        | _ => none
    else none
  | _ => none

end ServiceBindings.Bindings
