import ServiceBindings.Naming
import ServiceBindings.Schema.Basic

/-!
Transport profiles. A profile says how clients of one kind reach a service: how the names of methods become path
segments, which call patterns can be carried at all, and what becomes of a method that cannot.
-/

namespace ServiceBindings

/-- The style of path segments made from method names. -/
inductive SegmentStyle
  | kebab
  | snake
  | verbatim
  deriving DecidableEq, Repr

namespace SegmentStyle

/-- All styles, in their order. -/
def all : List SegmentStyle := [.kebab, .snake, .verbatim]

/-- The name of a style. -/
def name : SegmentStyle → String
  | .kebab => "kebab"
  | .snake => "snake"
  | .verbatim => "verbatim"

/-- The style of a name. -/
def ofName? (s : String) : Option SegmentStyle :=
  all.find? (·.name == s)

/-- The segment that a name becomes. -/
def apply : SegmentStyle → String → String
  | .kebab, s => kebabCase s
  | .snake, s => snakeCase s
  | .verbatim, s => s

end SegmentStyle

/-- How a method that the profile can carry is dispatched. -/
inductive DispatchMode
  /-- every call fails at once, without a request -/
  | stub
  /-- one request, whose callback settles the call -/
  | callbackBridge
  deriving DecidableEq, Repr

namespace DispatchMode

/-- All modes, in their order. -/
def all : List DispatchMode := [.stub, .callbackBridge]

/-- The name of a mode. -/
def name : DispatchMode → String
  | .stub => "stub"
  | .callbackBridge => "callback_bridge"

/-- The mode of a name. -/
def ofName? (s : String) : Option DispatchMode :=
  all.find? (·.name == s)

end DispatchMode

/-- What becomes of a method whose pattern the profile cannot carry. -/
inductive RefusalPolicy
  /-- calls of the method fail -/
  | emitFailing
  /-- there are no bindings at all -/
  | reject
  deriving DecidableEq, Repr

namespace RefusalPolicy

/-- All policies, in their order. -/
def all : List RefusalPolicy := [.emitFailing, .reject]

/-- The name of a policy. -/
def name : RefusalPolicy → String
  | .emitFailing => "emit_failing"
  | .reject => "reject"

/-- The policy of a name. -/
def ofName? (s : String) : Option RefusalPolicy :=
  all.find? (·.name == s)

end RefusalPolicy

/-- A transport profile. -/
structure Profile where
  name : String
  description : String
  segmentStyle : SegmentStyle := .kebab
  /-- segments between the base address and the segment of the method -/
  baseSegments : List String := []
  dispatch : DispatchMode
  /-- the patterns that the profile can carry -/
  capabilities : List CallPattern
  unsupported : RefusalPolicy := .emitFailing
  deriving DecidableEq, Repr

namespace Profile

/-- First-generation bindings, which never perform a request. -/
def httpStub : Profile where
  name := "http-stub"
  description := "First-generation HTTP bindings; every endpoint is an unavailable stub"
  dispatch := .stub
  capabilities := [.unary, .fireAndForget]

/-- Second-generation bindings, which turn callbacks into pending results. -/
def httpAsync : Profile where
  name := "http-async"
  description := "Second-generation HTTP bindings bridged from transport callbacks"
  dispatch := .callbackBridge
  capabilities := [.unary, .fireAndForget]

/-- The profiles that are always there, in order. -/
def builtin : List Profile := [httpStub, httpAsync]

/-- The built-in profile of a name. -/
def named? (name : String) : Option Profile :=
  builtin.find? (·.name == name)

/-- Whether the profile can carry a pattern. -/
def supports (p : Profile) (pattern : CallPattern) : Bool :=
  pattern ∈ p.capabilities

/-- The path segment of a method: its own one, or its name in the style of the profile. -/
def pathSegment (p : Profile) (m : Method) : String :=
  m.httpSegment.getD (p.segmentStyle.apply m.name)

/-- The verb of a method: a method with a request payload posts it. -/
def verbFor (_ : Profile) (m : Method) : Verb :=
  if m.request.isSome then .post else .get

/-- What is appended to names of services in names of clients. -/
def clientSuffix (p : Profile) : String :=
  pascalCase p.name

/-- The profile with one more base segment. -/
def addSegment (p : Profile) (segment : String) : Profile :=
  { p with baseSegments := p.baseSegments ++ [segment] }

/-- The profile with another policy. -/
def onUnsupported (p : Profile) (policy : RefusalPolicy) : Profile :=
  { p with unsupported := policy }

end Profile

end ServiceBindings
