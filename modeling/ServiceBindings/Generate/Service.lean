import ServiceBindings.Generate.Types

/-!
The trait of a service, which the clients of all profiles implement.
-/

namespace ServiceBindings.Generate

open Code

/-- A parameter of a method. -/
structure MethodParam where
  name : Ident
  type : Ty
  pass : Passing
  deriving BEq, Repr

/-- The head of a method: the request payload first, then the path parameters. -/
structure MethodSignature where
  name : Ident
  request : Option MethodParam
  pathParams : List MethodParam
  output : Ty
  deriving BEq, Repr

namespace MethodSignature

/-- All parameters in order. -/
def params (s : MethodSignature) : List MethodParam :=
  s.request.toList ++ s.pathParams

/-- The head of a method as code. -/
def code (s : MethodSignature) : Signature where
  name := s.name
  params := .receiver true :: s.params.map fun p => .typed p.name p.type
  output := .path false (["clientgen", "Pending"].map plain) [] [s.output]

end MethodSignature

/-- The identifier of a parameter. One that is never read is marked by an underscore. -/
def paramIdent (unused : Bool) (name : String) : Except GenerationError Ident :=
  if unused then silentIdent name else memberIdent name

/-- A parameter of a method. -/
def methodParam (d : Definitions) (unused : Bool) (name : String) (t : DataType) :
    Except GenerationError MethodParam := do
  let (type, pass) ← argumentType t d
  return ⟨← paramIdent unused name, type, pass⟩

/-- The type that a method yields. -/
def outputType : Option DataType → Except GenerationError Ty
  | some t => valueType t
  | none => .ok .unit

/-- The head of a method, with its parameters marked as unused or not. -/
def methodSignature (m : Method) (d : Definitions) (unused : Bool) : Except GenerationError MethodSignature := do
  let request ← m.request.mapM (methodParam d unused requestName)
  let pathParams ← m.pathParams.mapM fun p => methodParam d unused p.name p.type
  let output ← outputType m.response
  return { name := ← memberIdent m.name, request, pathParams, output }

/-- The documentation of a method. -/
def methodComment (m : Method) : Attribute :=
  match m.description with
  | some description => .doc (" " ++ description ++ " (" ++ ticked m.pattern.name ++ ")") false
  | none => .doc (" " ++ ticked m.name ++ " (" ++ m.pattern.name ++ ").") false

/-- The trait of a service. -/
def traitCode (s : Service) (d : Definitions) : Except GenerationError Item := do
  let name ← typeIdent s.name
  let methods ← s.methods.mapM fun m => do return ([methodComment m], (← methodSignature m d false).code)
  return .trait [docOf s.description (ticked s.name ++ " service.")] name
    [tyRooted ["std", "marker", "Send"] [], tyRooted ["std", "marker", "Sync"] []] methods

end ServiceBindings.Generate
