import ServiceBindings.CommandLine.Arguments
import ServiceBindings.Files.Output

/-!
What the command does: read the schema, choose the profiles, generate the crate, and report.
-/

namespace ServiceBindings.CommandLine

open Generate Files

/-- The name and the version of the command. -/
def versionLine : String := "clientgen 0.1.0\n"

/-- One line of help. -/
def helpLine (k : Key) : String :=
  let letter :=
    match k.letter? with
    | some c => "-" ++ c.toString ++ ", "
    | none => "    "
  let option := letter ++ "--" ++ k.name ++ (match k.value? with
    | some v => " <" ++ v ++ ">"
    | none => "")
  "  " ++ option ++ String.ofList (List.replicate (33 - option.length) ' ') ++ k.about ++ "\n"

/-- The text of help. -/
def helpText : String :=
  "Code generator for transport-bound clientgen client bindings\n\nUsage: clientgen [OPTIONS]\n\nOptions:\n" ++
    String.join (Key.all.map helpLine)

/-- What the command leaves behind. -/
structure Report where
  exitCode : Nat := 0
  tree : Tree
  output : String := ""
  errors : String := ""

/-- The report of a failure. -/
def Report.failed (t : Tree) (output : String) (e : GenerationError) : Report :=
  { exitCode := 1, tree := t, output, errors := "Error: " ++ e.describe ++ "\n" }

namespace Invocation

/-- The schema that an invocation names, given what its file holds. -/
def schema (i : Invocation) (content : String → Except FileError String) : Except GenerationError Schema :=
  match i.source with
  | .builtin name => schemaNamed name
  | .file path => schemaOfFile path (content path)

/-- The options of an invocation. -/
def options (i : Invocation) : Except GenerationError Options := do
  return {
    profiles := ← profilesNamed i.profiles
    crateName := i.crateName
    runtimePath := i.runtimePath
    dryRun := i.dryRun }

/-- What is reported when files have been written. -/
def summary (i : Invocation) (count : Nat) (package : String) (profiles : List Profile) : String :=
  "Generated " ++ toString count ++ " files for '" ++ package ++ "' (" ++ ", ".intercalate (profiles.map (·.name)) ++
    ") in " ++ i.output ++ "\n"

/-- Carries out an invocation on a tree of files. -/
def run (i : Invocation) (t : Tree) : Report :=
  let prepared : Except GenerationError (Schema × Options) := do return (← i.schema t.read, ← i.options)
  match prepared with
  | .error e => .failed t "" e
  | .ok (s, o) =>
    let outcome := generateInto t s.toDefinitions i.output o
    match outcome.result with
    | .error e => .failed outcome.tree outcome.output e
    | .ok files =>
      { tree := outcome.tree
        output := outcome.output
        errors := if i.dryRun then "" else i.summary files.length s.package o.profiles }

end Invocation

/-- Carries out the command on a tree of files. -/
def run (args : List String) (t : Tree) : Report :=
  match Invocation.ofArguments args with
  | .ok i => i.run t
  | .error .help => { tree := t, output := helpText }
  | .error .version => { tree := t, output := versionLine }
  | .error .misuse =>
    { exitCode := 2, tree := t, errors := "error: invalid usage\n\nFor more information, try '--help'.\n" }

end ServiceBindings.CommandLine
