import ServiceBindings.Url.Basic

/-!
Reading addresses. The text is read without blanks at its ends and without tabulators and line ends. The scheme
decides about the rest: a special one has an authority after any number of slashes, the one of files has a host
after exactly two, and any other has an authority after two slashes, and otherwise a path, rooted or not.
-/

namespace ServiceBindings.Url

/-- Whether a character may stand in a scheme after its first letter. -/
def inScheme (c : Char) : Bool :=
  c.isAlphanum || c ∈ ['+', '-', '.']

/-- The scheme before the first colon, lowercase, and the rest. -/
def readScheme? (cs : List Char) : Option (String × List Char) :=
  match cs, cs.dropWhile inScheme with
  | c :: _, ':' :: rest =>
    if c.isAlpha then some (String.ofList ((cs.takeWhile inScheme).map Char.toLower), rest) else none
  | _, _ => none

/-- Splits a list before the first item with a property. -/
def splitBefore (p : Char → Bool) (cs : List Char) : List Char × List Char :=
  (cs.takeWhile (!p ·), cs.dropWhile (!p ·))

/-- Splits a text before its last `@`, if it has one. -/
def splitUser (cs : List Char) : Option (List Char × List Char) :=
  match cs.reverse.dropWhile (· ≠ '@') with
  | [] => none
  | _ :: front => some (front.reverse, (cs.reverse.takeWhile (· ≠ '@')).reverse)

/-- Splits an authority before the colon of the port. A colon in brackets belongs to the host. -/
def splitPort : (inBrackets : Bool) → List Char → List Char × List Char
  | _, [] => ([], [])
  | inBrackets, c :: rest =>
    if c = ':' ∧ !inBrackets then ([], c :: rest)
    else
      let (host, port) := splitPort (if c = '[' then true else if c = ']' then false else inBrackets) rest
      (c :: host, port)

/-- Reads a port. The default port of the scheme is left out. -/
def readPort (scheme : String) (ds : List Char) : Except UrlError (Option Nat) :=
  let n := numeral 10 ds
  if !ds.all Char.isDigit ∨ 65535 < n then .error .invalidPort
  else .ok (if ds.isEmpty || defaultPort? scheme == some n then none else some n)

/-- Reads an authority. `more` tells whether anything follows it; the second result is what follows the port. -/
def readAuthority (scheme : String) (cs : List Char) (more : Bool) : Except UrlError (Authority × List Char) := do
  let (userText, place) := (splitUser cs).getD ([], cs)
  if userText.isEmpty && place.isEmpty && !cs.isEmpty && more then throw .emptyHost
  let (user, rest) := splitBefore (· = ':') userText
  let (hostText, port) := splitPort false place
  let special := isSpecialScheme scheme
  if special && hostText.isEmpty then throw .emptyHost
  let host ← if special then readDomain hostText else readName hostText
  let a : Authority :=
    { user := percentEncode userSet user, password := percentEncode userSet rest.tail, host }
  if host.isEmpty && !port.isEmpty then throw .emptyHost
  let (digits, rest) := splitBefore (· = '\\') port.tail
  let a := { a with port := ← readPort scheme digits }
  if host.isEmpty && a.hasUser then throw .emptyHost
  return (a, rest)

/-- The query and the fragment of what follows the path. -/
def readTail (special : Bool) (cs : List Char) : Option (List Char) × Option (List Char) :=
  let (front, back) := splitBefore (· = '#') cs
  let part (set : Char → Bool) : List Char → Option (List Char)
    | [] => none
    | _ :: text => some (percentEncode set text)
  (part (querySet special) front, part fragmentSet back)

/-- Drops the separator that a text begins with. -/
def dropSeparator (rule : PathRule) : List Char → List Char
  | [] => []
  | c :: rest => if isSeparator rule c then rest else c :: rest

/-- The segments of a rooted path, of which there is at least one. -/
abbrev Segments := { segments : List Segment // segments ≠ [] }

/-- The path that a text after the first slash denotes. -/
def readRooted (rule : PathRule) (text : List Char) : Segments :=
  ⟨normalizeFront rule (readSegments rule text), normalizeFront_ne_nil rule (readSegments_ne_nil rule text)⟩

/-- The host and the path of a file. The host `localhost` is left out, and so is any host before a drive. -/
def readFile (rule : PathRule) (body : List Char) : Except UrlError (Host × Segments) := do
  let noHost := Host.name []
  let (host, path) ←
    match body with
    | a :: b :: rest =>
      if isSeparator rule a && isSeparator rule b then do
        let (hostText, path) := splitBefore (isSeparator rule) rest
        if isDrive hostText then pure (noHost, rest)
        else if hostText.isEmpty then pure (noHost, dropSeparator rule path)
        else do
          let host ← readDomain hostText
          pure (if host = .name "localhost".toList then noHost else host, dropSeparator rule path)
      else pure (noHost, dropSeparator rule body)
    | _ => pure (noHost, dropSeparator rule body)
  return (if (readSegments rule path).head?.any isDrive then noHost else host, readRooted rule path)

/-- The authority and the path of another special scheme. -/
def readSpecial (scheme : String) (rule : PathRule) (body : List Char) (more : Bool) :
    Except UrlError (Authority × Segments) := do
  let (front, path) := splitBefore (isSeparator rule) (body.dropWhile (isSeparator rule))
  let (authority, _) ← readAuthority scheme front (more || !path.isEmpty)
  return (authority, readRooted rule (dropSeparator rule path))

/-- The authority and the path of a scheme that is not special. -/
def readOther (scheme : String) (rule : PathRule) (body : List Char) (more : Bool) :
    Except UrlError (Option Authority × Path) :=
  match body with
  | '/' :: '/' :: rest => do
    let (front, path) := splitBefore (isSeparator rule) rest
    let (authority, left) ← readAuthority scheme front (more || !path.isEmpty)
    let path := left ++ path
    let path := if path.isEmpty then Path.rooted [] else .rooted (readRooted rule (dropSeparator rule path)).1
    return (some authority, path)
  | '/' :: rest => .ok (none, .rooted (readRooted rule rest).1)
  | text => .ok (none, .rootless (percentEncode controlSet text))

/-- Reads an address. -/
def parse (s : String) : Except UrlError Url := do
  let isBlank (c : Char) : Bool := c ≤ ' '
  let cs := withoutLineEnds ((s.toList.dropWhile isBlank).reverse.dropWhile isBlank).reverse
  match readScheme? cs with
  | none => throw .relativeWithoutBase
  | some (scheme, rest) =>
    let rule := pathRule scheme
    let (body, tail) := splitBefore (fun c => c = '?' || c = '#') rest
    let (query, fragment) := readTail rule.special tail
    if isFileScheme scheme then
      let (host, segments) ← readFile rule body
      return {
        scheme, query, fragment
        authority := some { host }
        path := .rooted segments.1
        segments_ne_nil := fun _ => segments.2 }
    else if h : isSpecialScheme scheme then
      let (authority, segments) ← readSpecial scheme rule body (!tail.isEmpty)
      return {
        scheme, query, fragment
        authority := some authority
        path := .rooted segments.1
        segments_ne_nil := fun _ => segments.2 }
    else
      let (authority, path) ← readOther scheme rule body (!tail.isEmpty)
      return {
        scheme, authority, path, query, fragment
        guarded := authority.isNone && path.segments.head? = some [] && path.segments.length != 1
        segments_ne_nil := fun hs => absurd hs h }

end ServiceBindings.Url
