import ServiceBindings.Files.Tree
import ServiceBindings.Generate.Crate
import ServiceBindings.Schema.Encoding

/-!
Writing the generated crate. A file is written beside its place first and then moved there, so that its place never
holds half of it.
-/

namespace ServiceBindings.Files

open Generate

/-- Writes a file by way of a temporary one, in folders that are made as needed. -/
def Tree.replaceFile (t : Tree) (path content : String) : Tree × Except GenerationError Unit :=
  let folder := (parent? path).getD ""
  let (t, made) := t.createFolders folder
  match made with
  | .error e => (t, .error (.write folder e))
  | .ok _ =>
    match t.write (temporary path) content with
    | .error e => (t, .error (.write (temporary path) e))
    | .ok t =>
      match t.rename (temporary path) path with
      | .error e => (t, .error (.write path e))
      | .ok t => (t, .ok ())

/-- Writes files below a folder, in order, up to the first that fails. -/
def Tree.writeFiles (t : Tree) (folder : String) : List CrateFile → Tree × Except GenerationError Unit
  | [] => (t, .ok ())
  | f :: rest =>
    match t.replaceFile (join folder f.path) f.content with
    | (t, .ok _) => t.writeFiles folder rest
    | (t, .error e) => (t, .error e)

/-- What is printed in place of writing a file. -/
def printed (f : CrateFile) : String :=
  "=== " ++ f.path ++ " ===\n" ++ f.content ++ "\n\n"

/-- What comes of generating a crate: the tree, what is printed, and the files. -/
structure Outcome where
  tree : Tree
  output : String := ""
  result : Except GenerationError (List CrateFile)

/-- Generates a crate below a folder, or prints it. -/
def generateInto (t : Tree) (d : Definitions) (folder : String) (o : Options) : Outcome :=
  match generate d o with
  | .error e => { tree := t, result := .error e }
  | .ok files =>
    if o.dryRun then { tree := t, output := String.join (files.map printed), result := .ok files }
    else
      match t.writeFiles folder files with
      | (t, .ok _) => { tree := t, result := .ok files }
      | (t, .error e) => { tree := t, result := .error e }

/-- The schema of a file, given its path and what reading it yields. -/
def schemaOfFile (path : String) (content : Except FileError String) : Except GenerationError Schema :=
  match content with
  | .error e => .error (.read path e)
  | .ok text =>
    match Schema.read (Text.Glyphs.ofChars text.toList) with
    | .ok s => .ok s
    | .error f => .error (.schemaFile path f)

/-- The text of a file of the given bytes. -/
def textOfBytes (bytes : List Nat) : Except FileError String :=
  match (Text.decodeUtf8 bytes).chars? with
  | some cs => .ok (String.ofList cs)
  | none => .error .invalidText

end ServiceBindings.Files
