import ServiceBindings.Code.Printer
import ServiceBindings.Code.Tokens
import ServiceBindings.Files.Path
import ServiceBindings.Generate.Binding
import ServiceBindings.Generate.Client
import ServiceBindings.Generate.Enumeration
import ServiceBindings.Generate.Manifest
import ServiceBindings.Generate.Message
import ServiceBindings.Schema.Builtin

/-!
The generated crate: a manifest, a root that declares the modules, the types of the schema, a module for each
service, and a prelude that exports everything under one roof.
-/

namespace ServiceBindings.Generate

open Code

/-- What to generate for a schema. -/
structure Options where
  profiles : List Profile := Profile.builtin
  builder : BuilderSpec := BuilderSpec.standard
  /-- the name of the crate, where it is not the one that the package yields -/
  crateName : Option String := none
  /-- where the manifest finds the runtime -/
  runtimePath : String
  /-- whether files are printed and not written -/
  dryRun : Bool := false
  deriving DecidableEq, Repr

namespace Options

/-- The name of the crate. -/
def packageName (o : Options) (d : Definitions) : String :=
  o.crateName.getD (kebabCase d.package ++ "-client")

/-- The name of the first profile whose clients would be named as those of one before it. -/
def repeatedProfile? (suffixes : List String) : List Profile → Option String
  | [] => none
  | p :: rest =>
    if p.clientSuffix ∈ suffixes then some p.name else repeatedProfile? (p.clientSuffix :: suffixes) rest

/-- What is wrong with the options, whatever the schema. -/
def fault? (o : Options) : Option ConfigFault :=
  if o.profiles.isEmpty then some .noProfile else (repeatedProfile? [] o.profiles).map .profileTwice

end Options

/-- A generated file. -/
structure CrateFile where
  path : String
  content : String
  deriving DecidableEq, Repr

/-- The name of the module of a service, which is also the stem of its file. -/
def moduleName (s : Service) : String :=
  snakeCase s.name

/-! ### Files -/

/-- The root of the crate. -/
def rootFile (d : Definitions) (o : Options) : Except GenerationError File := do
  let modules ← d.services.mapM fun s => memberIdent (moduleName s)
  let profiles := ", ".intercalate (o.profiles.map fun p => ticked p.name)
  return {
    docs := [.doc (" Client bindings for the " ++ ticked d.package ++ " schema.") false, .doc "" true,
      .doc (" Transport profiles: " ++ profiles ++ ".") false]
    items := .module (plain "prelude") :: .module (plain "types") :: modules.map .module }

/-- The types of the schema: every enumeration, then every message. -/
def typesFile (d : Definitions) : Except GenerationError File := do
  let enums ← d.enums.mapM enumCode
  let messages ← d.messages.mapM fun m => messageCode m d
  return {
    docs := [.doc (" Enums and messages of the " ++ ticked d.package ++ " schema.") false]
    items := enums.flatten ++ messages }

/-- The import of the types that the methods of a service mention, if there are any. -/
def typeImports (s : Service) : Except GenerationError (List Item) := do
  let names ← (typeNamesIn (s.methods.flatMap Method.types)).mapM typeIdent
  return if names.isEmpty then [] else [.imports false [plain "crate", plain "types"] (.names names)]

/-- The clients of a service, one for each profile. -/
def clientItems (s : Service) (d : Definitions) (o : Options) : Except GenerationError (List Item) := do
  let clients ← o.profiles.mapM fun p => do
    let client ← clientCode s p o.builder
    return client ++ [← bindingCode s p d]
  return clients.flatten

/-- The module of a service: its trait, then a client for each profile. -/
def serviceFile (s : Service) (d : Definitions) (o : Options) : Except GenerationError File := do
  let imports ← typeImports s
  let trait ← traitCode s d
  let clients ← clientItems s d o
  return { docs := [.doc (" " ++ ticked s.name ++ " bindings.") false], items := imports ++ [trait] ++ clients }

/-- The names under which a service and its clients are exported. -/
def exportedNames (s : Service) (o : Options) : Except GenerationError (List Ident) := do
  let trait ← typeIdent s.name
  let clients ← o.profiles.mapM fun p => do return [← clientTypeIdent s p, ← builderTypeIdent s p]
  return trait :: clients.flatten

/-- What the prelude exports from the runtime. -/
def runtimeNames : List String := ["BindingError", "Pending", "Transport", "Url"]

/-- The prelude. -/
def preludeFile (d : Definitions) (o : Options) : Except GenerationError File := do
  let types :=
    if d.enums.isEmpty && d.messages.isEmpty then []
    else [Item.imports true [plain "crate", plain "types"] .all]
  let services ← d.services.mapM fun s => do
    let module ← memberIdent (moduleName s)
    return Item.imports true [plain "crate", module] (.names (← exportedNames s o))
  return {
    docs := comment [" Common imports for working with these bindings."]
    items := types ++ services ++ [.imports true [plain "clientgen"] (.names (runtimeNames.map plain))] }

/-! ### Names -/

/-- The modules that no service may take. -/
def takenModules : List String := ["lib", "types", "prelude", "clientgen", "serde", "std", "core"]

/-- The names of types in generated code. -/
def typeNames (d : Definitions) : Except GenerationError (List String) := do
  let enums ← d.enums.mapM fun e => typeIdent e.name
  let messages ← d.messages.mapM fun m => typeIdent m.name
  return (enums ++ messages).map Ident.text

/-- The first of a list of names that is taken, by a name in `taken` or by one before it. -/
def firstTaken? (taken : List String) : List String → Option String
  | [] => none
  | n :: rest => if n ∈ taken then some n else firstTaken? (n :: taken) rest

/-- Checks the modules and exported names of services, given the modules and names that are taken. -/
def checkServiceNames (o : Options) (modules taken : List String) : List Service → Except GenerationError Unit
  | [] => .ok ()
  | s :: rest => do
    let module := moduleName s
    if module ∈ modules then throw (.code (.moduleName s.name module))
    let names := (← exportedNames s o).map Ident.text
    if let some n := firstTaken? taken names then throw (.code (.collision n s.name))
    checkServiceNames o (module :: modules) (names ++ taken) rest

/-- Checks that no two generated items would have one name. -/
def checkNames (d : Definitions) (o : Options) : Except GenerationError Unit := do
  let types ← typeNames d
  checkServiceNames o takenModules (types ++ runtimeNames) d.services

/-! ### The crate -/

/-- The line at the head of every generated file of code. -/
def notice : String :=
  "// This code was automatically generated by clientgen. Do not edit manually."

/-- The text of a file of code. -/
def formatted (f : File) : String :=
  notice ++ "\n\n" ++ f.text

/-- A generated file of code. -/
def codeFile (path : String) (f : File) : CrateFile :=
  ⟨path, formatted f⟩

/-- All files of the crate, in order. -/
def generate (d : Definitions) (o : Options) : Except GenerationError (List CrateFile) := do
  if let some fault := o.fault? then throw (.config fault)
  let crateName := o.packageName d
  checkCrateName crateName
  checkNames d o
  let root ← rootFile d o
  let types ← typesFile d
  let services ← d.services.mapM fun s => do
    return codeFile (Files.join "src" (moduleName s ++ ".rs")) (← serviceFile s d o)
  let prelude ← preludeFile d o
  return [⟨"Cargo.toml", manifest crateName o.runtimePath⟩, codeFile "src/lib.rs" root,
    codeFile "src/types.rs" types] ++ services ++ [codeFile "src/prelude.rs" prelude]

/-! ### Selections -/

/-- The built-in schema of a name. -/
def schemaNamed (name : String) : Except GenerationError Schema :=
  match Builtin.all.lookup name with
  | none => .error (.config (.unknownApi name Builtin.names))
  | some d =>
    match Schema.ofDefinitions d with
    | .ok s => .ok s
    | .error e => .error (.schema e)

/-- The profiles of the given names, or all built-in ones where none is named. -/
def profilesNamed (names : List String) : Except GenerationError (List Profile) :=
  if names.isEmpty then .ok Profile.builtin
  else
    names.mapM fun n =>
      match Profile.named? n with
      | some p => .ok p
      | none => .error (.config (.unknownProfile n (Profile.builtin.map (·.name))))

end ServiceBindings.Generate
