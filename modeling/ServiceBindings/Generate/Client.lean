import ServiceBindings.Generate.Names
import ServiceBindings.Schema.BuilderSpec

/-!
The client of a service over a profile and the builder of the client.
-/

namespace ServiceBindings.Generate

open Code

/-- The settings that builders know. -/
def settableFields : List String := [BuilderSpec.baseUrl]

/-- The first setting that is unknown or was listed before. -/
def fieldFault? (seen : List String) : List BuilderSetting → Option ConfigFault
  | [] => none
  | f :: rest =>
    if f.name ∉ settableFields then some (.unknownBuilderField f.name settableFields)
    else if f.name ∈ seen then some (.duplicateBuilderField f.name)
    else fieldFault? (f.name :: seen) rest

/-- What is wrong with a specification: builders must be able to collect what it lists, and it must list the base
address as required. -/
def specFault? (spec : BuilderSpec) : Option ConfigFault :=
  (fieldFault? [] spec.fields).or <|
    if spec.required.any (·.name == BuilderSpec.baseUrl) then none
    else some (.missingBuilderField BuilderSpec.baseUrl)

/-- The type of a client or builder. -/
def identTy (name : Ident) : Ty := .path false [name] [] []

/-- The structure of a client. -/
def clientItem (s : Service) (p : Profile) (client : Ident) : Item :=
  .struct
    [.doc (" " ++ ticked s.name ++ " client over the " ++ ticked p.name ++ " transport profile.\n\n " ++
        p.description) false,
      .derive (["Debug", "Clone"].map fun t => tyPath [t])]
    true client
    (some [{ isPub := false, name := plain "config", type := tyPath ["clientgen", "ClientConfig"] }])

/-- The functions of a client. -/
def clientFunctions (p : Profile) (client builder : Ident) : Item :=
  .implementation [] none (identTy client) [
    .const (comment [" Transport profile these bindings were generated for."]) true (plain "PROFILE")
      (.ref (some "static") false (tyPath ["str"])) (.text p.name),
    .function (comment [" Starts building a client that issues calls through `transport`."]) true
      { name := plain "builder"
        params := [.typed (plain "transport")
          (tyRooted ["std", "sync", "Arc"] [.dyn (tyPath ["clientgen", "Transport"])])]
        output := identTy builder }
      { result := .record builder
          [(plain "inner", .call (exprPath ["clientgen", "ClientConfig", "builder"]) [exprPath ["transport"]])] },
    .function [] true
      { name := plain "config", params := [.receiver true],
        output := .ref none false (tyPath ["clientgen", "ClientConfig"]) }
      { result := .ref (.field (exprPath ["self"]) (plain "config")) }]

/-- The structure of a builder. -/
def builderItem (client builder : Ident) : Item :=
  .struct
    [.doc (" Builder for [" ++ ticked client.text ++ "].") false, .derive [tyPath ["Debug"]]]
    true builder
    (some [{ isPub := false, name := plain "inner", type := tyPath ["clientgen", "ClientConfigBuilder"] }])

/-- The setting that a builder holds. -/
def innerField : Expr := .field (exprPath ["self"]) (plain "inner")

/-- The function that makes one setting. -/
def setterCode (f : BuilderSetting) : Except GenerationError Member := do
  let setter ← memberIdent f.name
  let doc := " Sets " ++ ticked f.name ++ (if f.required then " (required)." else ".")
  return .function [.doc doc false] true
    { name := setter
      params := [.receiver false, .typed setter (tyPath ["clientgen", "Url"])]
      output := tyPath ["Self"] }
    { result := .record (plain "Self")
        [(plain "inner", .method innerField setter [.path false [setter] []])] }

/-- The function that ends the building. -/
def buildCode (spec : BuilderSpec) (client : Ident) : Member :=
  let required := spec.required.map fun f => " - " ++ ticked (snakeCase f.name)
  .function
    [.doc (" Builds the client.\n\n ## Errors\n\n " ++
      "Returns `BindingError::MissingRequiredField` if any of these was never set:\n\n" ++
      "\n".intercalate required) false]
    true
    { name := plain "build"
      params := [.receiver false]
      output := tyRooted ["std", "result", "Result"] [identTy client, tyPath ["clientgen", "BindingError"]] }
    { result := .call (exprPath ["Ok"])
        [.record client [(plain "config", .propagate (.method innerField (plain "build") []))]] }

/-- The code of a client and its builder. -/
def clientCode (s : Service) (p : Profile) (spec : BuilderSpec) : Except GenerationError (List Item) := do
  if let some fault := specFault? spec then throw (.config fault)
  let client ← clientTypeIdent s p
  let builder ← builderTypeIdent s p
  let setters ← spec.fields.mapM setterCode
  return [clientItem s p client, clientFunctions p client builder, builderItem client builder,
    .implementation [] none (identTy builder) (setters ++ [buildCode spec client])]

end ServiceBindings.Generate
