import ServiceBindings.Files.Error
import ServiceBindings.Json.Fault
import ServiceBindings.Schema.Error

/-!
Why no bindings are generated.
-/

namespace ServiceBindings

/-- What is wrong with what was asked for. -/
inductive ConfigFault
  | unknownApi (name : String) (available : List String)
  | unknownProfile (name : String) (available : List String)
  | noProfile
  | profileTwice (name : String)
  | crateName (name : String)
  | unknownBuilderField (name : String) (available : List String)
  | duplicateBuilderField (name : String)
  | missingBuilderField (name : String)
  deriving DecidableEq, Repr

/-- The wording of a fault. -/
def ConfigFault.reason : ConfigFault → String
  | .unknownApi name available =>
    "Unknown API: '" ++ name ++ "'. Available APIs: " ++ ", ".intercalate available
  | .unknownProfile name available =>
    "Unknown transport profile: '" ++ name ++ "'. Available profiles: " ++ ", ".intercalate available
  | .noProfile => "At least one transport profile is required"
  | .profileTwice name => "Transport profile '" ++ name ++ "' selected more than once"
  | .crateName name => "Invalid crate name: '" ++ name ++ "'"
  | .unknownBuilderField name available =>
    "Unknown builder field: '" ++ name ++ "'. Available fields: " ++ ", ".intercalate available
  | .duplicateBuilderField name => "Duplicate builder field: '" ++ name ++ "'"
  | .missingBuilderField name => "Builder field '" ++ name ++ "' must be listed as required"

/-- What is wrong with names in generated code. -/
inductive CodeFault
  | identifier (name : String)
  | moduleName (service module : String)
  | collision (name service : String)
  deriving DecidableEq, Repr

/-- The wording of a fault. -/
def CodeFault.reason : CodeFault → String
  | .identifier name => "'" ++ name ++ "' is not a valid Rust identifier"
  | .moduleName service module => "Service '" ++ service ++ "' cannot use module name '" ++ module ++ "'"
  | .collision name service =>
    "Generated name '" ++ name ++ "' for service '" ++ service ++ "' collides with another item"

/-- Why no bindings are generated. -/
inductive GenerationError
  | schema (error : DefinitionError)
  | code (fault : CodeFault)
  | read (path : String) (error : FileError)
  | write (path : String) (error : FileError)
  | schemaFile (path : String) (fault : Json.Fault)
  | config (fault : ConfigFault)
  | unsupported (method : String) (pattern : CallPattern) (profile : String)
  deriving DecidableEq, Repr

/-- The description of a schema error. -/
def DefinitionError.describe : DefinitionError → String
  | .duplicateName scope name =>
    "DuplicateName \x7b scope: " ++ Text.quoted scope.describe ++ ", name: " ++ Text.quoted name ++ " \x7d"
  | .invalidReference referrer name =>
    "InvalidReference \x7b referrer: " ++ Text.quoted referrer.describe ++ ", name: " ++ Text.quoted name ++ " \x7d"
  | .patternMismatch method pattern rule =>
    "PatternMismatch \x7b method: " ++ Text.quoted method ++ ", pattern: " ++ pattern.constant ++ ", reason: " ++
      Text.quoted rule.describe ++ " \x7d"

namespace GenerationError

/-- The message of an error. -/
def message : GenerationError → String
  | .schema e => "Invalid schema: " ++ e.message
  | .code f => "Code generation failed: " ++ f.reason
  | .read path e => "Failed to read '" ++ path ++ "': " ++ e.message
  | .write path e => "Failed to write output file '" ++ path ++ "': " ++ e.message
  | .schemaFile path f => "Failed to parse schema file '" ++ path ++ "': " ++ f.message
  | .config f => "Invalid configuration: " ++ f.reason
  | .unsupported method pattern profile =>
    "Method '" ++ method ++ "' uses " ++ pattern.name ++ ", which transport profile '" ++ profile ++
      "' cannot express"

/-- The description of an error. That of a schema file ends before the position in the file. -/
def describe : GenerationError → String
  | .schema e => "Schema(" ++ e.describe ++ ")"
  | .code f => "CodeGenError(" ++ Text.quoted f.reason ++ ")"
  | .read path e => "ReadError \x7b path: " ++ Text.quoted path ++ ", source: " ++ e.describe ++ " \x7d"
  | .write path e => "WriteError \x7b path: " ++ Text.quoted path ++ ", source: " ++ e.describe ++ " \x7d"
  | .schemaFile path f =>
    "SchemaFile \x7b path: " ++ Text.quoted path ++ ", source: Error(" ++ Text.quoted f.message
  | .config f => "ConfigError(" ++ Text.quoted f.reason ++ ")"
  | .unsupported method pattern profile =>
    "Unsupported \x7b method: " ++ Text.quoted method ++ ", pattern: " ++ pattern.constant ++ ", profile: " ++
      Text.quoted profile ++ " \x7d"

end GenerationError

end ServiceBindings
