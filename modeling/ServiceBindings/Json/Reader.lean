import ServiceBindings.Json.Scan
import ServiceBindings.Json.Shape

/-!
Reading a JSON text as a value of a shape. The text is read from left to right and the first fault ends the
reading, whether the text is not JSON there or is JSON of another shape. The result is the normal form.
-/

namespace ServiceBindings.Json

open Text

/-- The fault of a value that begins with the given character and is of another shape than expected. A value that
is itself malformed is reported as such. -/
def mismatch (expected : String) (gs : Glyphs) : Fault :=
  let report (found : Except Fault Found) : Fault :=
    match found with
    | .ok f => .invalidType f expected
    | .error e => e
  match gs with
  | some 'n' :: rest => report ((scanWord ['u', 'l', 'l'] rest).map fun _ => .null)
  | some 't' :: rest => report ((scanWord ['r', 'u', 'e'] rest).map fun _ => .boolean true)
  | some 'f' :: rest => report ((scanWord ['a', 'l', 's', 'e'] rest).map fun _ => .boolean false)
  | some '-' :: rest => report ((scanNumber true rest).map fun r => Found.ofNumber r.1)
  | some '"' :: rest => report ((scanString rest).map fun r => .string r.1)
  | some '[' :: _ => .invalidType .sequence expected
  | some '\x7b' :: _ => .invalidType .map expected
  | g :: rest =>
    if (digitAt? g).isSome then report ((scanNumber false (g :: rest)).map fun r => Found.ofNumber r.1)
    else .value
  | [] => .value

/-- Whether an item of a list comes next, and the text from the item or the closing bracket on. -/
def beforeItem (first : Bool) (gs : Glyphs) : Except Fault (Bool × Glyphs) :=
  match skipBlanks gs with
  | [] => .error (.ended .list)
  | some ']' :: rest => .ok (false, some ']' :: rest)
  | some ',' :: rest =>
    if first then .ok (true, some ',' :: rest)
    else
      match skipBlanks rest with
      | [] => .error (.ended .value)
      | some ']' :: _ => .error .trailingComma
      | rest => .ok (true, rest)
  | rest => if first then .ok (true, rest) else .error .listCommaOrEnd

/-- The end of a list. -/
def closeList (gs : Glyphs) : Except Fault Glyphs :=
  match skipBlanks gs with
  | [] => .error (.ended .list)
  | some ']' :: rest => .ok rest
  | some ',' :: rest =>
    match skipBlanks rest with
    | some ']' :: _ => .error .trailingComma
    | _ => .error .trailingCharacters
  | _ => .error .trailingCharacters

/-- The key of the next member of an object with the text after its colon, or the text from the closing brace on. -/
def beforeMember (first : Bool) (gs : Glyphs) : Except Fault (Option String × Glyphs) := do
  let rest ←
    match skipBlanks gs with
    | [] => .error (.ended .object)
    | some '\x7d' :: rest => return (none, some '\x7d' :: rest)
    | some ',' :: rest =>
      if first then .error .key
      else
        match skipBlanks rest with
        | [] => .error (.ended .value)
        | some '"' :: rest => .ok rest
        | some '\x7d' :: _ => .error .trailingComma
        | _ => .error .key
    | some '"' :: rest => if first then .ok rest else .error .objectCommaOrEnd
    | _ => if first then .error .key else .error .objectCommaOrEnd
  let (key, rest) ← scanString rest
  return (some key, rest)

/-- The colon after a key. -/
def colon (gs : Glyphs) : Except Fault Glyphs :=
  match skipBlanks gs with
  | [] => .error (.ended .object)
  | some ':' :: rest => .ok rest
  | _ => .error .colon

/-- The end of an object whose members are read. -/
def closeObject (gs : Glyphs) : Except Fault Glyphs :=
  match skipBlanks gs with
  | [] => .error (.ended .object)
  | some '\x7d' :: rest => .ok rest
  | some ',' :: _ => .error .trailingComma
  | _ => .error .trailingCharacters

/-- How many lists and objects may stand within each other. -/
def depthLimit : Nat := 127

/-- The depth that is left within one more list or object. -/
def enter : Nat → Except Fault Nat
  | 0 => .error .tooDeep
  | depth + 1 => .ok depth

/-- The variant that a bare name stands for. -/
def bareVariant (variants : List Variant) (name : String) : Except Fault Json := do
  let v ← Shape.variant? variants name
  if v.carriesText then .error (.invalidType .unitVariant "newtype variant") else .ok (.string name)

/-- A variant that stands as the only member of an object, from the place after the opening brace on. -/
def readVariant (variants : List Variant) (gs : Glyphs) : Except Fault (Json × Glyphs) := do
  let (name, rest) ←
    match skipBlanks gs with
    | [] => .error (.ended .value)
    | some '"' :: rest => scanString rest
    | rest => .error (mismatch "variant identifier" rest)
  let v ← Shape.variant? variants name
  let rest := skipBlanks (← colon rest)
  let (value, rest) ←
    if v.carriesText then
      match rest with
      | [] => .error (.ended .value)
      | some '"' :: rest => do
        let (s, rest) ← scanString rest
        .ok (Json.object [(name, .string s)], rest)
      | rest => .error (mismatch "a string" rest)
    else
      match rest with
      | [] => .error (.ended .value)
      | some 'n' :: rest => do .ok (Json.string name, ← scanWord ['u', 'l', 'l'] rest)
      | rest => .error (mismatch "unit" rest)
  match skipBlanks rest with
  | [] => .error (.ended .object)
  | some '\x7d' :: rest => .ok (value, rest)
  | _ => .error .value

mutual

/-- Reads a value of a shape. The first argument bounds the number of steps, the second the depth. -/
def readValue (records : List Record) : Nat → Nat → Shape → Glyphs → Except Fault (Json × Glyphs)
  | 0, _, _, _ => .error (.ended .value)
  | fuel + 1, depth, shape, gs =>
    match skipBlanks gs with
    | [] => .error (.ended .value)
    | g :: rest =>
      let wrong : Except Fault (Json × Glyphs) := .error (mismatch (shape.expected records) (g :: rest))
      match shape with
      | .optional item =>
        if g = some 'n' then do .ok (.null, ← scanWord ['u', 'l', 'l'] rest)
        else readValue records fuel depth item (g :: rest)
      | .text =>
        if g = some '"' then do
          let (s, rest) ← scanString rest
          .ok (.string s, rest)
        else wrong
      | .wire values =>
        if g = some '"' then do
          let (s, rest) ← scanString rest
          .ok (← Shape.ofWire values s, rest)
        else wrong
      | .flag =>
        if g = some 't' then do .ok (.bool true, ← scanWord ['r', 'u', 'e'] rest)
        else if g = some 'f' then do .ok (.bool false, ← scanWord ['a', 'l', 's', 'e'] rest)
        else wrong
      | .choice variants =>
        if g = some '"' then do
          let (s, rest) ← scanString rest
          .ok (← bareVariant variants s, rest)
        else if g = some '\x7b' then do
          let _ ← enter depth
          readVariant variants rest
        else .error .value
      | .sequence item =>
        if g = some '[' then do
          let (items, rest) ← readItems records fuel (← enter depth) item true rest
          .ok (.array items, ← closeList rest)
        else wrong
      | .record name =>
        match Record.find? records name with
        | none => wrong
        | some r =>
          if g = some '[' then do
            let (members, rest) ← readPlaces records fuel (← enter depth) r r.members 0 rest
            .ok (.object members, ← closeList rest)
          else if g = some '\x7b' then do
            let (found, rest) ← readMembers records fuel (← enter depth) r [] true rest
            .ok (.object (← Record.normal found r.members), ← closeObject rest)
          else wrong
      | .any =>
        if g = some '"' then do
          let (s, rest) ← scanString rest
          .ok (.string s, rest)
        else if g = some 'n' then do .ok (.null, ← scanWord ['u', 'l', 'l'] rest)
        else if g = some 't' then do .ok (.bool true, ← scanWord ['r', 'u', 'e'] rest)
        else if g = some 'f' then do .ok (.bool false, ← scanWord ['a', 'l', 's', 'e'] rest)
        else if g = some '-' then do
          let (n, rest) ← scanNumber true rest
          .ok (.number n, rest)
        else if (digitAt? g).isSome then do
          let (n, rest) ← scanNumber false (g :: rest)
          .ok (.number n, rest)
        else if g = some '[' then do
          let (items, rest) ← readItems records fuel (← enter depth) .any true rest
          .ok (.array items, ← closeList rest)
        else if g = some '\x7b' then do
          let (members, rest) ← readAnyMembers records fuel (← enter depth) [] true rest
          .ok (.object members, ← closeObject rest)
        else .error .value
      | .integer _ | .double | .single =>
        if g = some '-' then do
          let (n, rest) ← scanNumber true rest
          .ok (← shape.ofNumber records n, rest)
        else if (digitAt? g).isSome then do
          let (n, rest) ← scanNumber false (g :: rest)
          .ok (← shape.ofNumber records n, rest)
        else wrong

/-- Reads the items of a list up to its closing bracket. -/
def readItems (records : List Record) :
    Nat → Nat → Shape → (first : Bool) → Glyphs → Except Fault (List Json × Glyphs)
  | 0, _, _, _, _ => .error (.ended .list)
  | fuel + 1, depth, item, first, gs => do
    let (more, rest) ← beforeItem first gs
    if more then
      let (v, rest) ← readValue records fuel depth item rest
      let (vs, rest) ← readItems records fuel depth item false rest
      .ok (v :: vs, rest)
    else .ok ([], rest)

/-- Reads the members of a record that is written as a list. -/
def readPlaces (records : List Record) :
    Nat → Nat → Record → List Member → Nat → Glyphs → Except Fault (List (String × Json) × Glyphs)
  | 0, _, _, _, _, _ => .error (.ended .list)
  | _, _, _, [], _, gs => .ok ([], gs)
  | fuel + 1, depth, r, m :: ms, count, gs => do
    let (more, rest) ← beforeItem (count = 0) gs
    if more then
      let (v, rest) ← readValue records fuel depth m.shape rest
      let (vs, rest) ← readPlaces records fuel depth r ms (count + 1) rest
      .ok (Record.place m v ++ vs, rest)
    else .ok (← r.rest count (m :: ms), rest)

/-- Reads the members of a record that is written as an object, up to its closing brace. Members of other names are
passed over. -/
def readMembers (records : List Record) :
    Nat → Nat → Record → (found : List (String × Json)) → (first : Bool) → Glyphs →
      Except Fault (List (String × Json) × Glyphs)
  | 0, _, _, _, _, _ => .error (.ended .object)
  | fuel + 1, depth, r, found, first, gs => do
    match ← beforeMember first gs with
    | (none, rest) => .ok (found, rest)
    | (some key, rest) =>
      match r.members.find? (·.name == key) with
      | some m =>
        if (found.lookup key).isSome then .error (.duplicateField key)
        else
          let (v, rest) ← readValue records fuel depth m.shape (← colon rest)
          readMembers records fuel depth r ((key, v) :: found) false rest
      | none =>
        let rest ← skipValue (← colon rest)
        readMembers records fuel depth r found false rest

/-- Reads the members of an object of no particular shape, up to its closing brace. -/
def readAnyMembers (records : List Record) :
    Nat → Nat → (found : List (String × Json)) → (first : Bool) → Glyphs →
      Except Fault (List (String × Json) × Glyphs)
  | 0, _, _, _, _ => .error (.ended .object)
  | fuel + 1, depth, found, first, gs => do
    match ← beforeMember first gs with
    | (none, rest) => .ok (found, rest)
    | (some key, rest) =>
      let (v, rest) ← readValue records fuel depth .any (← colon rest)
      readAnyMembers records fuel depth (insertMember key v found) false rest

end

/-- Reads a whole text as a value of a shape. -/
def Shape.read (records : List Record) (shape : Shape) (gs : Glyphs) : Except Fault Json := do
  let (v, rest) ← readValue records (3 * gs.length + 8) depthLimit shape gs
  if skipBlanks rest = [] then .ok v else .error .trailingCharacters

/-- Reads a text as a JSON value. -/
def parse (text : String) : Except Fault Json :=
  Shape.any.read [] (Glyphs.ofChars text.toList)

end ServiceBindings.Json
