/-!
The arguments of the command. An option is written with two dashes and its name, or with one dash and its letter;
several letters may share a dash. The value of an option follows it, either in the same argument or in the next one,
which then must not look like an option.
-/

namespace ServiceBindings.CommandLine

/-- The options. -/
inductive Key
  | api
  | schema
  | profile
  | output
  | crateName
  | runtimePath
  | dryRun
  | verbose
  | help
  | version
  deriving DecidableEq, Repr

namespace Key

/-- All options, in the order in which help lists them. -/
def all : List Key :=
  [.api, .schema, .profile, .output, .crateName, .runtimePath, .dryRun, .verbose, .help, .version]

/-- The name of an option. -/
def name : Key → String
  | .api => "api"
  | .schema => "schema"
  | .profile => "profile"
  | .output => "output"
  | .crateName => "crate-name"
  | .runtimePath => "runtime-path"
  | .dryRun => "dry-run"
  | .verbose => "verbose"
  | .help => "help"
  | .version => "version"

/-- The letter of an option. -/
def letter? : Key → Option Char
  | .api => some 'a'
  | .schema => some 's'
  | .profile => some 'p'
  | .output => some 'o'
  | .verbose => some 'v'
  | .help => some 'h'
  | .version => some 'V'
  | .crateName | .runtimePath | .dryRun => none

/-- What help calls the value of an option, if it has one. -/
def value? : Key → Option String
  | .api => some "API"
  | .schema => some "SCHEMA"
  | .profile => some "PROFILES"
  | .output => some "OUTPUT"
  | .crateName => some "CRATE_NAME"
  | .runtimePath => some "RUNTIME_PATH"
  | .dryRun | .verbose | .help | .version => none

/-- What help says of an option. -/
def about : Key → String
  | .api => "Built-in schema to generate bindings for (e.g., \"test\")"
  | .schema => "JSON schema file to generate bindings for"
  | .profile => "Transport profile to generate (repeatable; defaults to every built-in profile)"
  | .output => "Directory of the generated crate [default: generated]"
  | .crateName => "Package name of the generated crate (defaults to \"<package>-client\")"
  | .runtimePath => "Path to the clientgen runtime crate used by the generated manifest"
  | .dryRun => "Print generated code without writing files"
  | .verbose => "Increase verbosity (-v, -vv, -vvv)"
  | .help => "Print help"
  | .version => "Print version"

/-- The option of a name. -/
def ofName? (s : String) : Option Key :=
  all.find? (·.name == s)

/-- The option of a letter. -/
def ofLetter? (c : Char) : Option Key :=
  all.find? (·.letter? == some c)

/-- Whether an option takes a value. -/
def takesValue (k : Key) : Bool :=
  k.value?.isSome

/-- Whether an option may be given more than once. -/
def isRepeatable : Key → Bool
  | .profile | .verbose => true
  | _ => false

/-- Whether the value of an option is a path, which is never empty. -/
def isPath : Key → Bool
  | .schema | .output => true
  | _ => false

end Key

/-- Why reading the arguments ends without anything to do. -/
inductive Stop
  | misuse
  | help
  | version
  deriving DecidableEq, Repr

/-- The options given, with their values, in order. -/
abbrev Settings := List (Key × String)

namespace Settings

/-- The values of an option. -/
def values (s : Settings) (k : Key) : List String :=
  (s.filter (·.1 == k)).map (·.2)

/-- The value of an option that is given at most once. -/
def value? (s : Settings) (k : Key) : Option String :=
  (s.values k).head?

/-- Whether an option is given. -/
def has (s : Settings) (k : Key) : Bool :=
  !(s.values k).isEmpty

/-- Adds an option. -/
def give (s : Settings) (k : Key) (value : String) : Except Stop Settings :=
  match k with
  | .help => .error .help
  | .version => .error .version
  | k =>
    if (s.has k && !k.isRepeatable) || (k.isPath && value.isEmpty) then .error .misuse else .ok (s ++ [(k, value)])

end Settings

/-- What a single argument is. -/
inductive Argument
  /-- two dashes alone, after which no option is read -/
  | separator
  | long (name : String) (value : Option String)
  | letters (cs : List Char)
  | plain (text : String)
  deriving DecidableEq, Repr

/-- Classifies an argument. -/
def Argument.of (arg : String) : Argument :=
  match arg.toList with
  | ['-', '-'] => .separator
  | '-' :: '-' :: cs =>
    match cs.dropWhile (· ≠ '=') with
    | [] => .long (String.ofList cs) none
    | _ :: value => .long (String.ofList (cs.takeWhile (· ≠ '='))) (some (String.ofList value))
  | '-' :: c :: cs => .letters (c :: cs)
  | _ => .plain arg

/-- Reads letters that share a dash. An option that takes a value takes the letters after it, or is left to take the
next argument. -/
def readLetters (s : Settings) : List Char → Except Stop (Settings × Option Key)
  | [] => .ok (s, none)
  | c :: rest =>
    match Key.ofLetter? c with
    | none => .error .misuse
    | some k =>
      if k.takesValue then
        match rest with
        | [] => .ok (s, some k)
        | '=' :: value => do return (← s.give k (String.ofList value), none)
        | value => do return (← s.give k (String.ofList value), none)
      else
        match s.give k "" with
        | .ok s => readLetters s rest
        | .error e => .error e

/-- Reads arguments; `waiting` is an option whose value comes next. -/
def readArguments (s : Settings) : (waiting : Option Key) → List String → Except Stop Settings
  | none, [] => .ok s
  | some _, [] => .error .misuse
  | some k, arg :: rest =>
    match Argument.of arg with
    | .plain value =>
      match s.give k value with
      | .ok s => readArguments s none rest
      | .error e => .error e
    | _ => .error .misuse
  | none, arg :: rest =>
    match Argument.of arg with
    | .separator => if rest.isEmpty then .ok s else .error .misuse
    | .plain _ => .error .misuse
    | .letters cs =>
      match readLetters s cs with
      | .ok (s, waiting) => readArguments s waiting rest
      | .error e => .error e
    | .long name value =>
      match Key.ofName? name with
      | none => .error .misuse
      | some k =>
        match k.takesValue, value with
        | true, none => readArguments s (some k) rest
        | false, some _ => .error .misuse
        | _, value =>
          match s.give k (value.getD "") with
          | .ok s => readArguments s none rest
          | .error e => .error e

/-- Where the schema comes from. -/
inductive SchemaSource
  | builtin (name : String)
  | file (path : String)
  deriving DecidableEq, Repr

/-- What the arguments ask for. -/
structure Invocation where
  source : SchemaSource
  profiles : List String
  output : String
  crateName : Option String
  runtimePath : String
  dryRun : Bool
  deriving DecidableEq, Repr

/-- Reads all arguments. Exactly one source of the schema must be given. -/
def Invocation.ofArguments (args : List String) : Except Stop Invocation := do
  let s ← readArguments [] none args
  let source ←
    match s.value? .api, s.value? .schema with
    | some name, none => .ok (.builtin name)
    | none, some path => .ok (.file path)
    | _, _ => .error .misuse
  return {
    source
    profiles := s.values .profile
    output := (s.value? .output).getD "generated"
    crateName := s.value? .crateName
    runtimePath := (s.value? .runtimePath).getD "../clientgen"
    dryRun := s.has .dryRun }

end ServiceBindings.CommandLine
