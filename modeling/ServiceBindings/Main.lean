import ServiceBindings.CommandLine.Run

/-!
The command on the files of the system. All decisions are made elsewhere; this module reads the schema file, writes
the generated files, each by way of a temporary one, and prints.
-/

namespace ServiceBindings

open Generate Files CommandLine

/-- The content of a file of the system. -/
def readContent (path : String) : IO (Except FileError String) := do
  try
    return textOfBytes ((← IO.FS.readBinFile path).toList.map UInt8.toNat)
  catch _ => return .error .notFound

/-- Writes a file of the system by way of a temporary one. -/
def writeContent (path content : String) : IO Unit := do
  IO.FS.createDirAll ((parent? path).getD "")
  IO.FS.writeFile (temporary path) content
  IO.FS.rename (temporary path) path

/-- Carries out an invocation on the files of the system. -/
def carryOut (i : Invocation) : IO UInt32 := do
  let content ←
    match i.source with
    | .file path => readContent path
    | .builtin _ => pure (.error .notFound)
  let generated : Except GenerationError (Schema × Options × List CrateFile) := do
    let s ← i.schema fun _ => content
    let o ← i.options
    return (s, o, ← generate s.toDefinitions o)
  match generated with
  | .error e =>
    IO.eprintln ("Error: " ++ e.describe)
    return 1
  | .ok (s, o, files) =>
    if o.dryRun then
      for f in files do IO.print (printed f)
    else
      for f in files do writeContent (join i.output f.path) f.content
      IO.eprint (i.summary files.length s.package o.profiles)
    return 0

end ServiceBindings

/-- The command. -/
def main (args : List String) : IO UInt32 := do
  match ServiceBindings.CommandLine.Invocation.ofArguments args with
  | .ok i => ServiceBindings.carryOut i
  | .error _ =>
    let report := ServiceBindings.CommandLine.run args {}
    IO.print report.output
    IO.eprint report.errors
    return report.exitCode.toUInt32
