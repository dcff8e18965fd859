import ServiceBindings.Generate.Error

/-!
The manifest of the generated crate.
-/

namespace ServiceBindings.Generate

/-- Whether a character may begin the name of a crate. -/
def startsCrateName (c : Char) : Bool :=
  c.isAlpha || c = '_'

/-- Whether a character may stand in the name of a crate. -/
def inCrateName (c : Char) : Bool :=
  c.isAlphanum || c = '-' || c = '_'

/-- Whether a text is the name of a crate: letters, digits, hyphens and underscores of ASCII, of which a letter or
an underscore comes first. -/
def isCrateName (name : String) : Bool :=
  name.toList.head?.any startsCrateName && name.toList.all inCrateName

/-- Checks the name of a crate. -/
def checkCrateName (name : String) : Except GenerationError Unit :=
  if isCrateName name then .ok () else .error (.config (.crateName name))

/-- A character in a quoted string of the manifest. -/
def manifestChar (c : Char) : List Char :=
  if c = '\\' then ['\\', '\\'] else if c = '"' then ['\\', '"'] else [c]

/-- A quoted string of the manifest. -/
def manifestString (s : String) : String :=
  "\"" ++ String.ofList (s.toList.flatMap manifestChar) ++ "\""

/-- The lines of the manifest. It declares a workspace of its own, so that the crate builds wherever it stands. -/
def manifestLines (crateName runtimePath : String) : List String := [
  "[package]",
  "name = " ++ manifestString crateName,
  "version = \"0.1.0\"",
  "edition = \"2024\"",
  "publish = false",
  "",
  "[dependencies]",
  "clientgen = \x7b path = " ++ manifestString runtimePath ++ " \x7d",
  "serde = \x7b version = \"1.0\", features = [\"derive\"] \x7d",
  "",
  "[workspace]"]

/-- The manifest of a crate. -/
def manifest (crateName runtimePath : String) : String :=
  String.join ((manifestLines crateName runtimePath).map (· ++ "\n"))

end ServiceBindings.Generate
