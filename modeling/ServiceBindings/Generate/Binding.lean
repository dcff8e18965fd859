import ServiceBindings.Generate.Service

/-!
How a method is bound to a transport profile, and the code that binds it. A method that the profile cannot carry
fails when it is called, or stops generation, as the policy of the profile says.
-/

namespace ServiceBindings.Generate

open Code

/-- How a method is bound. -/
inductive Binding
  /-- it fails as unsupported -/
  | unsupported
  /-- it fails as unavailable -/
  | stub
  /-- it sends one request -/
  | bridged
  deriving DecidableEq, Repr

/-- The name of a way of binding. -/
def Binding.name : Binding → String
  | .unsupported => "unsupported"
  | .stub => "stub"
  | .bridged => "bridged"

/-- How a method is bound under a profile. -/
def bindingFor (s : Service) (m : Method) (p : Profile) : Except GenerationError Binding :=
  if p.supports m.pattern then
    match p.dispatch with
    | .stub => .ok .stub
    | .callbackBridge => .ok .bridged
  else
    match p.unsupported with
    | .emitFailing => .ok .unsupported
    | .reject => .error (.unsupported (qualifiedName s m) m.pattern p.name)

/-- The decoder of a response. -/
def decoder : Option DataType → Except GenerationError Expr
  | some t => do return .path false (["clientgen", "decode_json"].map plain) [← valueType t]
  | none => .ok (exprPath ["clientgen", "discard"])

/-- One more call in a chain. -/
def chain (receiver : Expr) (name : String) (args : List Expr) : Expr :=
  .method receiver (plain name) args

/-- The body that sends a request: the call, the segments, the path parameters, the body and the decoder. -/
def sendingBody (m : Method) (p : Profile) (s : MethodSignature) : Except GenerationError Expr := do
  let call :=
    chain (.field (exprPath ["self"]) (plain "config")) "call"
      [.text m.name, exprPath ["clientgen", "HttpVerb", (p.verbFor m).constant]]
  let call := (p.baseSegments ++ [p.pathSegment m]).foldl (fun c s => chain c "segment" [.text s]) call
  let call := s.pathParams.foldl (fun c q => chain c "param" [referenceTo q.name q.pass]) call
  let call := s.request.toList.foldl (fun c r => chain c "json_body" [referenceTo r.name r.pass]) call
  return chain call "dispatch" [← decoder m.response]

/-- The body of a method. -/
def methodBody (m : Method) (p : Profile) (s : MethodSignature) : Binding → Except GenerationError Expr
  | .unsupported =>
    .ok (.call (exprPath ["clientgen", "unsupported"])
      [.text m.name, exprPath ["clientgen", "CallPattern", m.pattern.constant], exprPath ["Self", "PROFILE"]])
  | .stub => .ok (.call (exprPath ["clientgen", "unavailable"]) [.text m.name])
  | .bridged => sendingBody m p s

/-- A method of a client. -/
def methodCode (s : Service) (m : Method) (p : Profile) (d : Definitions) :
    Except GenerationError Member := do
  let binding ← bindingFor s m p
  let signature ← methodSignature m d (binding != .bridged)
  return .function [] false signature.code { result := ← methodBody m p signature binding }

/-- The implementation of a service by the client of a profile. -/
def bindingCode (s : Service) (p : Profile) (d : Definitions) : Except GenerationError Item := do
  let trait ← typeIdent s.name
  let client ← clientTypeIdent s p
  let methods ← s.methods.mapM fun m => methodCode s m p d
  return .implementation [] (some (.path false [trait] [] [])) (.path false [client] [] []) methods

end ServiceBindings.Generate
