import ServiceBindings.Url.Percent

/-!
The part of TOML 1.0 that manifests are written in: tables, pairs, basic strings, booleans, arrays and inline tables.
Comments, numbers, dates, keys that are quoted or dotted, and strings of other kinds are left out; a text with one of
them is not read. A text is scanned into tokens one character at a time, and its lines are read one by one.
-/

namespace ServiceBindings.Toml

/-! ### Tokens -/

/-- A token. A word is a key or a boolean. -/
inductive Token
  | word (letters : List Char)
  | text (chars : List Char)
  | mark (c : Char)
  | newline
  deriving DecidableEq, Repr

/-- Where a scan stands. -/
inductive Mode
  | between
  | word (letters : List Char)
  | text (chars : List Char)
  /-- behind a backslash -/
  | escape (chars : List Char)
  /-- in an escape of so many more hexadecimal digits, with the value of those before -/
  | code (chars : List Char) (left value : Nat)
  deriving DecidableEq, Repr

/-- Whether a character may stand in a word. -/
def inWord (c : Char) : Bool :=
  c.isAlphanum || c = '-' || c = '_'

/-- The characters that are tokens of their own. -/
def marks : List Char := ['=', ',', '[', ']', '\x7b', '\x7d']

/-- Whether a character may stand in a string, where a quotation mark or a backslash has one before it: every character
but the controls, of which only the tabulator may. -/
def inText (c : Char) : Bool :=
  c = '\t' || (' ' ≤ c && c ≠ '\x7f')

/-- The character that an escape of one letter stands for. -/
def escaped? : Char → Option Char
  | 'b' => some '\x08'
  | 't' => some '\t'
  | 'n' => some '\n'
  | 'f' => some '\x0c'
  | 'r' => some '\r'
  | '"' => some '"'
  | '\\' => some '\\'
  | _ => none

/-- The next character where no token has begun. -/
def stepBetween (c : Char) : Option (List Token × Mode) :=
  if c = ' ' ∨ c = '\t' then some ([], .between)
  else if c = '\n' then some ([.newline], .between)
  else if c = '"' then some ([], .text [])
  else if inWord c then some ([], .word [c])
  else if c ∈ marks then some ([.mark c], .between)
  else none

/-- The next character, with the tokens that it ends. -/
def step : Mode → Char → Option (List Token × Mode)
  | .between, c => stepBetween c
  | .word w, c =>
    if inWord c then some ([], .word (w ++ [c])) else (stepBetween c).map fun (ts, m) => (.word w :: ts, m)
  | .text s, c =>
    if c = '"' then some ([.text s], .between)
    else if c = '\\' then some ([], .escape s)
    else if inText c then some ([], .text (s ++ [c]))
    else none
  | .escape s, c =>
    if c = 'u' then some ([], .code s 4 0)
    else if c = 'U' then some ([], .code s 8 0)
    else (escaped? c).map fun d => ([], .text (s ++ [d]))
  | .code s left value, c => do
    let value := 16 * value + (← Url.hexValue? c)
    if 1 < left then return ([], .code s (left - 1) value)
    else if value.isValidChar then return ([], .text (s ++ [Char.ofNat value]))
    else none

/-- Scans characters, up to where no token may go on. -/
def scan (m : Mode) : List Char → Option (List Token × Mode)
  | [] => some ([], m)
  | c :: rest => (step m c).bind fun r => (scan r.2 rest).map fun q => (r.1 ++ q.1, q.2)

/-- The tokens of a text. -/
def tokens? (text : String) : Option (List Token) :=
  match scan .between text.toList with
  | some (ts, .between) => some ts
  | some (ts, .word w) => some (ts ++ [.word w])
  | _ => none

/-! ### Values -/

/-- A value. A table has its members in the order in which they are written. -/
inductive Value
  | text (s : String)
  | flag (b : Bool)
  | array (items : List Value)
  | table (members : List (String × Value))
  deriving Repr

/-- Whether no key is given twice. -/
def keysApart (members : List (String × Value)) : Bool :=
  (members.map (·.1)).Nodup

/-- The boolean that a word stands for. -/
def flag? (letters : List Char) : Option Bool :=
  if letters = "true".toList then some true else if letters = "false".toList then some false else none

mutual

/-- Reads a value, with what comes after it. Each token of the value is read with less fuel than the one before. -/
def value? : Nat → List Token → Option (Value × List Token)
  | _ + 1, .text s :: rest => some (.text (String.ofList s), rest)
  | _ + 1, .word w :: rest => (flag? w).map fun b => (.flag b, rest)
  | fuel + 1, .mark '[' :: rest => (items? fuel rest).map fun (vs, rest) => (.array vs, rest)
  | _ + 1, .mark '\x7b' :: .mark '\x7d' :: rest => some (.table [], rest)
  | fuel + 1, .mark '\x7b' :: rest => do
    let (ms, rest) ← members? fuel rest
    if keysApart ms then return (.table ms, rest) else none
  | _, _ => none

/-- Reads the items of an array up to its end, where a comma may come after the last. -/
def items? : Nat → List Token → Option (List Value × List Token)
  | _ + 1, .mark ']' :: rest => some ([], rest)
  | fuel + 1, ts => do
    match ← value? fuel ts with
    | (v, .mark ',' :: rest) => do
      let (vs, rest) ← items? fuel rest
      return (v :: vs, rest)
    | (v, .mark ']' :: rest) => return ([v], rest)
    | _ => none
  | 0, _ => none

/-- Reads the members of an inline table up to its end, where no comma may come after the last. -/
def members? : Nat → List Token → Option (List (String × Value) × List Token)
  | fuel + 1, .word key :: .mark '=' :: ts => do
    match ← value? fuel ts with
    | (v, .mark ',' :: rest) => do
      let (ms, rest) ← members? fuel rest
      return ((String.ofList key, v) :: ms, rest)
    | (v, .mark '\x7d' :: rest) => return ([(String.ofList key, v)], rest)
    | _ => none
  | _, _ => none

end

/-- What a table leads to by some keys, one after the other. -/
def Value.find? : Value → List String → Option Value
  | v, [] => some v
  | .table members, key :: keys => (members.lookup key).bind fun v => v.find? keys
  | _, _ :: _ => none

/-! ### Documents -/

/-- A line of a document. -/
inductive Line
  | blank
  | header (name : String)
  | pair (key : String) (v : Value)
  deriving Repr

/-- The tokens of each line. -/
def lines : List Token → List (List Token)
  | [] => [[]]
  | .newline :: rest => [] :: lines rest
  | t :: rest =>
    match lines rest with
    | [] => [[t]]
    | l :: ls => (t :: l) :: ls

/-- Reads the tokens of a line. A value has no more parts than tokens. -/
def line? : List Token → Option Line
  | [] => some .blank
  | [.mark '[', .word name, .mark ']'] => some (.header (String.ofList name))
  | .word key :: .mark '=' :: rest =>
    match value? rest.length rest with
    | some (v, []) => some (.pair (String.ofList key) v)
    | _ => none
  | _ => none

/-- The pairs that come before the first header, and the tables of the headers. -/
def sections : List Line → List (String × Value) × List (String × List (String × Value))
  | [] => ([], [])
  | .blank :: rest => sections rest
  | .pair key v :: rest => ((key, v) :: (sections rest).1, (sections rest).2)
  | .header name :: rest => ([], (name, (sections rest).1) :: (sections rest).2)

/-- Reads a text as a table. -/
def read? (text : String) : Option Value := do
  let (pairs, tables) := sections (← (lines (← tokens? text)).mapM line?)
  let members := pairs ++ tables.map fun (name, ms) => (name, .table ms)
  if keysApart members && tables.all fun t => keysApart t.2 then return .table members else none

end ServiceBindings.Toml
