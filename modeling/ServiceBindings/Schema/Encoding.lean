import ServiceBindings.Json.Accept
import ServiceBindings.Json.Reader
import ServiceBindings.Schema.BuilderSpec
import ServiceBindings.Schema.Profile
import ServiceBindings.Schema.Validation

/-!
Schemas, definitions and profiles as JSON. Writing gives every member, absent ones as `null`. Reading goes through
the shapes of the records, which say what may be left out, and a schema is read only if its definitions are valid.
-/

namespace ServiceBindings

open Json (Shape Member Record Fault)

/-! ### Writing -/

namespace DataType

/-- A type as JSON: a bare keyword, or an object with the name. -/
def toJson : DataType → Json
  | .named n => .object [("named", .string n)]
  | t => .string t.keyword

/-- A type, or `null`. -/
def toJson? : Option DataType → Json
  | some t => t.toJson
  | none => .null

end DataType

/-- A path parameter as JSON. -/
def PathParameter.toJson (p : PathParameter) : Json :=
  .object [("name", .string p.name), ("ty", p.type.toJson)]

/-- A method as JSON. -/
def Method.toJson (m : Method) : Json :=
  .object [("name", .string m.name), ("pattern", .string m.pattern.name),
    ("request", DataType.toJson? m.request), ("response", DataType.toJson? m.response),
    ("path_params", .array (m.pathParams.map PathParameter.toJson)),
    ("http_segment", Json.ofText? m.httpSegment), ("description", Json.ofText? m.description)]

/-- A service as JSON. -/
def Service.toJson (s : Service) : Json :=
  .object [("name", .string s.name), ("description", Json.ofText? s.description),
    ("methods", .array (s.methods.map Method.toJson))]

/-- A constant as JSON. -/
def Constant.toJson (c : Constant) : Json :=
  .object [("name", .string c.name), ("value", .string c.value)]

/-- An enumeration as JSON. -/
def Enumeration.toJson (e : Enumeration) : Json :=
  .object [("name", .string e.name), ("description", Json.ofText? e.description),
    ("variants", .array (e.constants.map Constant.toJson))]

/-- A field as JSON. -/
def Field.toJson (f : Field) : Json :=
  .object [("name", .string f.name), ("ty", f.type.toJson), ("required", .bool f.required)]

/-- A message as JSON. -/
def Message.toJson (m : Message) : Json :=
  .object [("name", .string m.name), ("description", Json.ofText? m.description),
    ("fields", .array (m.fields.map Field.toJson))]

/-- Definitions as JSON. -/
def Definitions.toJson (d : Definitions) : Json :=
  .object [("package", .string d.package), ("services", .array (d.services.map Service.toJson)),
    ("enums", .array (d.enums.map Enumeration.toJson)), ("messages", .array (d.messages.map Message.toJson))]

/-- A profile as JSON. -/
def Profile.toJson (p : Profile) : Json :=
  .object [("name", .string p.name), ("description", .string p.description),
    ("segment_case", .string p.segmentStyle.name), ("base_segments", Json.ofTexts p.baseSegments),
    ("dispatch", .string p.dispatch.name),
    ("capabilities", Json.ofTexts ((CallPattern.all.filter p.supports).map CallPattern.name)),
    ("unsupported", .string p.unsupported.name)]

/-! ### Shapes -/

/-- A choice among bare names. -/
def namesShape (names : List String) : Shape :=
  .choice (names.map fun n => { name := n })

/-- The shape of types. -/
def typeShape : Shape :=
  .choice (DataType.scalars.map (fun t => { name := t.keyword }) ++ [{ name := "named", carriesText := true }])

/-- A member that may be absent or `null`. -/
def optionalMember (name : String) (shape : Shape) : Member :=
  { name, shape := .optional shape, default? := some .null }

/-- A member that is a list, empty when absent. -/
def listMember (name record : String) : Member :=
  { name, shape := .sequence (.record record), default? := some (.array []) }

/-- The records of schemas, profiles and builder specifications. -/
def schemaRecords : List Record := [
  { name := "PathParameter", title := "PathParam",
    members := [{ name := "name", shape := .text }, { name := "ty", shape := typeShape }] },
  { name := "Method", title := "MethodDef",
    members := [{ name := "name", shape := .text },
      { name := "pattern", shape := namesShape (CallPattern.all.map CallPattern.name) },
      optionalMember "request" typeShape, optionalMember "response" typeShape,
      listMember "path_params" "PathParameter",
      optionalMember "http_segment" .text, optionalMember "description" .text] },
  { name := "Service", title := "ServiceDef",
    members := [{ name := "name", shape := .text }, optionalMember "description" .text,
      { name := "methods", shape := .sequence (.record "Method") }] },
  { name := "Constant", title := "EnumVariant",
    members := [{ name := "name", shape := .text }, { name := "value", shape := .text }] },
  { name := "Enumeration", title := "EnumDef",
    members := [{ name := "name", shape := .text }, optionalMember "description" .text,
      { name := "variants", shape := .sequence (.record "Constant") }] },
  { name := "Field", title := "FieldDef",
    members := [{ name := "name", shape := .text }, { name := "ty", shape := typeShape },
      { name := "required", shape := .flag, default? := some (.bool false) }] },
  { name := "Message", title := "MessageDef",
    members := [{ name := "name", shape := .text }, optionalMember "description" .text,
      listMember "fields" "Field"] },
  { name := "Definitions", title := "SchemaDef",
    members := [{ name := "package", shape := .text }, listMember "services" "Service",
      listMember "enums" "Enumeration", listMember "messages" "Message"] },
  { name := "Profile", title := "TransportProfile",
    members := [{ name := "name", shape := .text }, { name := "description", shape := .text },
      { name := "segment_case", shape := namesShape (SegmentStyle.all.map SegmentStyle.name),
        default? := some (.string SegmentStyle.kebab.name) },
      { name := "base_segments", shape := .sequence .text, default? := some (.array []) },
      { name := "dispatch", shape := namesShape (DispatchMode.all.map DispatchMode.name) },
      { name := "capabilities", shape := .sequence (namesShape (CallPattern.all.map CallPattern.name)) },
      { name := "unsupported", shape := namesShape (RefusalPolicy.all.map RefusalPolicy.name),
        default? := some (.string RefusalPolicy.emitFailing.name) }] },
  { name := "BuilderSetting", title := "BuilderField",
    members := [{ name := "name", shape := .text }, { name := "required", shape := .flag }] },
  { name := "BuilderSpec", title := "ClientBuilderSpec",
    members := [{ name := "fields", shape := .sequence (.record "BuilderSetting") }] }]

/-! ### From the normal form -/

/-- The value of a member. -/
def Json.member? {α : Type} (v : Json) (key : String) (read? : Json → Option α) : Option α :=
  (v.get? key).bind read?

/-- The value of a member that may be `null`. -/
def Json.optional? {α : Type} (read? : Json → Option α) : Json → Option (Option α)
  | .null => some none
  | v => (read? v).map some

/-- The values of a list. -/
def Json.list? {α : Type} (read? : Json → Option α) (v : Json) : Option (List α) :=
  v.items?.bind fun items => items.mapM read?

/-- The type that a normal form stands for. -/
def DataType.ofJson? : Json → Option DataType
  | .string s => DataType.scalars.find? (·.keyword == s)
  | .object [("named", .string n)] => some (.named n)
  | _ => none

/-- The path parameter that a normal form stands for. -/
def PathParameter.ofJson? (v : Json) : Option PathParameter := do
  return ⟨← v.member? "name" Json.text?, ← v.member? "ty" DataType.ofJson?⟩

/-- The method that a normal form stands for. -/
def Method.ofJson? (v : Json) : Option Method := do
  return {
    name := ← v.member? "name" Json.text?
    pattern := ← v.member? "pattern" fun p => p.text?.bind CallPattern.ofName?
    request := ← v.member? "request" (Json.optional? DataType.ofJson?)
    response := ← v.member? "response" (Json.optional? DataType.ofJson?)
    pathParams := ← v.member? "path_params" (Json.list? PathParameter.ofJson?)
    httpSegment := ← v.member? "http_segment" (Json.optional? Json.text?)
    description := ← v.member? "description" (Json.optional? Json.text?) }

/-- The service that a normal form stands for. -/
def Service.ofJson? (v : Json) : Option Service := do
  return {
    name := ← v.member? "name" Json.text?
    description := ← v.member? "description" (Json.optional? Json.text?)
    methods := ← v.member? "methods" (Json.list? Method.ofJson?) }

/-- The constant that a normal form stands for. -/
def Constant.ofJson? (v : Json) : Option Constant := do
  return ⟨← v.member? "name" Json.text?, ← v.member? "value" Json.text?⟩

/-- The enumeration that a normal form stands for. -/
def Enumeration.ofJson? (v : Json) : Option Enumeration := do
  return {
    name := ← v.member? "name" Json.text?
    description := ← v.member? "description" (Json.optional? Json.text?)
    constants := ← v.member? "variants" (Json.list? Constant.ofJson?) }

/-- The field that a normal form stands for. -/
def Field.ofJson? (v : Json) : Option Field := do
  return ⟨← v.member? "name" Json.text?, ← v.member? "ty" DataType.ofJson?, ← v.member? "required" Json.flag?⟩

/-- The message that a normal form stands for. -/
def Message.ofJson? (v : Json) : Option Message := do
  return {
    name := ← v.member? "name" Json.text?
    description := ← v.member? "description" (Json.optional? Json.text?)
    fields := ← v.member? "fields" (Json.list? Field.ofJson?) }

/-- The definitions that a normal form stands for. -/
def Definitions.ofJson? (v : Json) : Option Definitions := do
  return {
    package := ← v.member? "package" Json.text?
    services := ← v.member? "services" (Json.list? Service.ofJson?)
    enums := ← v.member? "enums" (Json.list? Enumeration.ofJson?)
    messages := ← v.member? "messages" (Json.list? Message.ofJson?) }

/-- The profile that a normal form stands for. Its capabilities are a set and come out in the order of patterns. -/
def Profile.ofJson? (v : Json) : Option Profile := do
  let capabilities ← v.member? "capabilities" (Json.list? fun p => p.text?.bind CallPattern.ofName?)
  return {
    name := ← v.member? "name" Json.text?
    description := ← v.member? "description" Json.text?
    segmentStyle := ← v.member? "segment_case" fun c => c.text?.bind SegmentStyle.ofName?
    baseSegments := ← v.member? "base_segments" (Json.list? Json.text?)
    dispatch := ← v.member? "dispatch" fun d => d.text?.bind DispatchMode.ofName?
    capabilities := CallPattern.all.filter (· ∈ capabilities)
    unsupported := ← v.member? "unsupported" fun u => u.text?.bind RefusalPolicy.ofName? }

/-- The builder specification that a normal form stands for. -/
def BuilderSpec.ofJson? (v : Json) : Option BuilderSpec := do
  return ⟨← v.member? "fields" (Json.list? fun f => do
    return ⟨← f.member? "name" Json.text?, ← f.member? "required" Json.flag?⟩)⟩

/-! ### Reading -/

/-- Takes a value as a record of the given name and makes something of its normal form. -/
def acceptRecord {α : Type} (name : String) (ofJson? : Json → Option α) (v : Json) : Except Fault α := do
  match ofJson? (← Shape.accept schemaRecords (.record name) v) with
  | some a => .ok a
  | none => .error .value

/-- Takes a value as a type. -/
def DataType.ofJson (v : Json) : Except Fault DataType := do
  match DataType.ofJson? (← Shape.accept schemaRecords typeShape v) with
  | some t => .ok t
  | none => .error .value

/-- Takes a value as a service. -/
def Service.ofJson : Json → Except Fault Service :=
  acceptRecord "Service" Service.ofJson?

/-- Takes a value as an enumeration. -/
def Enumeration.ofJson : Json → Except Fault Enumeration :=
  acceptRecord "Enumeration" Enumeration.ofJson?

/-- Takes a value as a message. -/
def Message.ofJson : Json → Except Fault Message :=
  acceptRecord "Message" Message.ofJson?

/-- Takes a value as a profile. -/
def Profile.ofJson : Json → Except Fault Profile :=
  acceptRecord "Profile" Profile.ofJson?

/-- Takes a value as a builder specification. -/
def BuilderSpec.ofJson : Json → Except Fault BuilderSpec :=
  acceptRecord "BuilderSpec" BuilderSpec.ofJson?

/-- The schema of a normal form. -/
def Schema.ofNormal (v : Json) : Except Fault Schema :=
  match Definitions.ofJson? v with
  | none => .error .value
  | some d =>
    match Schema.ofDefinitions d with
    | .ok s => .ok s
    | .error e => .error (.refused e.message)

/-- Takes a value as a schema. -/
def Schema.ofJson (v : Json) : Except Fault Schema := do
  Schema.ofNormal (← Shape.accept schemaRecords (.record "Definitions") v)

/-- A schema as JSON. -/
def Schema.toJson (s : Schema) : Json :=
  s.toDefinitions.toJson

/-- Reads a text as a schema. The definitions are checked before the rest of the text is looked at. -/
def Schema.read (text : Text.Glyphs) : Except Fault Schema := do
  let (v, rest) ← Json.readValue schemaRecords (3 * text.length + 8) Json.depthLimit (.record "Definitions") text
  let s ← Schema.ofNormal v
  if Json.skipBlanks rest = [] then .ok s else .error .trailingCharacters

end ServiceBindings
