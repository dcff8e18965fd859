import ServiceBindings.Naming
import ServiceBindings.Text.Identifier

/-!
Identifiers of generated code. A name that is a keyword is escaped: by the raw form where there is one, otherwise by
an underscore after it. Any other name has to read as exactly one identifier, with blanks and comments around it
left out of account.
-/

namespace ServiceBindings.Code

open Text

/-- An identifier, in raw form or not. -/
structure Ident where
  name : String
  raw : Bool := false
  deriving DecidableEq, Repr

/-- The written form of an identifier. -/
def Ident.text (i : Ident) : String :=
  if i.raw then "r#" ++ i.name else i.name

/-- Keywords that have a raw form. -/
def escapableKeywords : List String := [
  "abstract", "as", "async", "await", "become", "box", "break", "const", "continue", "do", "dyn", "else", "enum",
  "extern", "false", "final", "fn", "for", "gen", "if", "impl", "in", "let", "loop", "macro", "match", "mod", "move",
  "mut", "override", "priv", "pub", "ref", "return", "static", "struct", "trait", "true", "try", "type", "typeof",
  "unsafe", "unsized", "use", "virtual", "where", "while", "yield"]

/-- Keywords that have none. -/
def pathKeywords : List String := ["crate", "self", "Self", "super"]

/-- Whether a word is no identifier although its characters are those of one. `gen` is reserved only as a whole
name. -/
def isReserved (word : String) : Bool :=
  word = "_" || word ∈ pathKeywords || (word ∈ escapableKeywords && word != "gen")

/-! ### Blanks and comments -/

/-- Whether a character may stand between tokens: a blank or one of the two marks of direction. -/
def isTokenBlank (c : Char) : Bool :=
  isBlank c || c = '\u200e' || c = '\u200f'

/-- Drops a line comment, up to the end of its line. -/
def skipLine : List Char → List Char
  | [] => []
  | '\n' :: rest => '\n' :: rest
  | _ :: rest => skipLine rest

/-- The text after a block comment, at a depth of open comments, or `none` if it does not end. -/
def skipBlock? : (depth : Nat) → List Char → Option (List Char)
  | depth, '/' :: '*' :: rest => skipBlock? (depth + 1) rest
  | depth, '*' :: '/' :: rest => if depth ≤ 1 then some rest else skipBlock? (depth - 1) rest
  | depth, _ :: rest => skipBlock? depth rest
  | _, [] => none

/-- The text after a comment in front, or `none` if there is no comment. Comments that document what follows are
tokens and not comments. -/
def skipComment? (cs : List Char) : Option (List Char) :=
  if ['/', '/'].isPrefixOf cs then
    if (['/', '/', '/'].isPrefixOf cs && !(['/', '/', '/', '/'].isPrefixOf cs)) || ['/', '/', '!'].isPrefixOf cs then
      none
    else some (skipLine cs)
  else if ['/', '*', '*', '/'].isPrefixOf cs then some (cs.drop 4)
  else if ['/', '*'].isPrefixOf cs then
    if (['/', '*', '*'].isPrefixOf cs && !(['/', '*', '*', '*'].isPrefixOf cs)) || ['/', '*', '!'].isPrefixOf cs then
      none
    else skipBlock? 0 cs
  else none

/-- Drops blanks and comments in front; the bound is on their number. -/
def skipSpace : Nat → List Char → List Char
  | 0, cs => cs
  | fuel + 1, cs =>
    match skipComment? cs with
    | some rest => skipSpace fuel rest
    | none =>
      match cs with
      | c :: rest => if isTokenBlank c then skipSpace fuel rest else cs
      | [] => []

/-- Drops blanks and comments in front. -/
def dropSpace (cs : List Char) : List Char :=
  skipSpace cs.length cs

/-! ### Reading -/

/-- The identifier characters in front, if the first one may begin an identifier, and the rest. -/
def takeWord? : List Char → Option (List Char × List Char)
  | [] => none
  | c :: rest =>
    if startsIdentifier c then
      some (c :: rest.takeWhile continuesIdentifier, rest.dropWhile continuesIdentifier)
    else none

/-- The identifier or keyword in front, and the rest. -/
def takeIdent? (cs : List Char) : Option (Ident × List Char) :=
  match cs with
  | 'r' :: '#' :: rest =>
    (takeWord? rest).bind fun (w, rest) =>
      let word := String.ofList w
      if word = "_" ∨ word ∈ pathKeywords then none else some (⟨word, true⟩, rest)
  | cs => (takeWord? cs).map fun (w, rest) => (⟨String.ofList w, false⟩, rest)

/-- The mark that some editors put at the beginning of a text. -/
def byteOrderMark : Char := '\ufeff'

/-- Drops a byte order mark in front. -/
def dropMark : List Char → List Char
  | c :: rest => if c = byteOrderMark then rest else c :: rest
  | [] => []

/-- The identifier that a text consists of, if it consists of one. -/
def readIdent? (cs : List Char) : Option Ident :=
  match takeIdent? (dropSpace (dropMark cs)) with
  | none => none
  | some (i, rest) =>
    if dropSpace rest ≠ [] then none
    else if !i.raw && isReserved i.name then none
    else some i

namespace Ident

/-- The identifier of a name whose case is already converted. -/
def ofName? (name : String) : Option Ident :=
  if name ∈ pathKeywords then some ⟨name ++ "_", false⟩
  else if name ∈ escapableKeywords then some ⟨name, true⟩
  else readIdent? name.toList

end Ident

end ServiceBindings.Code
