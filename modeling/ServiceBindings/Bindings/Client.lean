import ServiceBindings.Bindings.Body
import ServiceBindings.Json.Accept

/-!
Clients of generated crates. A method takes its arguments as JSON values of the types of its parameters, the request
apart from the path parameters, and starts a call in a session.
-/

namespace ServiceBindings.Bindings

open Code Generate

/-- A client: the types of its crate, the items of the module of its service, and its configuration. -/
structure Client where
  types : List Item
  items : List Item
  client : Ident
  profile : String
  config : ClientSettings

/-- The client of a service over a profile. -/
def Client.of? (d : Definitions) (s : Service) (p : Profile) (config : ClientSettings) :
    Except GenerationError (Option Client) := do
  let types := (← typesFile d).items
  let items := (← serviceFile s d { profiles := [p], runtimePath := "" }).items
  let client ← clientTypeIdent s p
  return (items.findSome? (profileOf? client)).map fun profile => { types, items, client, profile, config }

namespace Client

/-- A description of a client. -/
def describe (c : Client) : String :=
  c.client.name ++ " \x7b config: " ++ c.config.describe ++ " \x7d"

/-- The items of the file of types that the methods of the client see. -/
def seen (c : Client) : List Item :=
  visible c.items c.types

/-- What the body of a method of the client sees. -/
def scope (c : Client) (arguments : List (Ident × Json)) : Scope :=
  { config := c.config, profile := c.profile, types := c.seen, records := records c.types, arguments }

/-- Takes values as arguments of the given types. -/
def accept (c : Client) : List Ty → List Json → Except Json.Fault (List Json)
  | t :: ts, v :: vs => do
    let v ← Json.accept (records c.types) ((shape? c.seen t).getD .any) v
    return v :: (← accept c ts vs)
  | _, _ => .ok []

/-- What a method does with a request, if it takes one, and path parameters. -/
def effect? (c : Client) (m : Method) (params : List Json) (request : Json) :
    Except GenerationError (Except Json.Fault (Option Effect)) := do
  let name ← memberIdent m.name
  match c.items.findSome? (methodOf? c.client name) with
  | none => return .ok none
  | some (signature, body) =>
    let ps := parameters signature
    let front := if m.request.isSome then 1 else 0
    return do
      let values ← c.accept ((ps.drop front).map (·.2)) params
      let requests ← c.accept ((ps.take front).map (·.2)) [request]
      return do
        let arguments ← bind? signature (requests ++ values)
        Bindings.effect? (c.scope arguments) body.result

end Client

end ServiceBindings.Bindings
