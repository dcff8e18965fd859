import ServiceBindings.Code.Syntax

/-!
Reading declarations of structures, the part of the language that data consists of: with named fields, or with no
body. Each reader gives what it read and the rest of the text.
-/

namespace ServiceBindings.Code

/-- The rest after a mark, which blanks and comments may precede. -/
def afterMark? (mark : String) (cs : List Char) : Option (List Char) :=
  let cs := dropSpace cs
  if mark.toList.isPrefixOf cs then some (cs.drop mark.length) else none

/-- The word in front, which blanks and comments may precede. -/
def word? (cs : List Char) : Option (Ident × List Char) :=
  takeIdent? (dropSpace cs)

/-- The rest after a keyword. -/
def afterKeyword? (keyword : String) (cs : List Char) : Option (List Char) :=
  match word? cs with
  | some (i, rest) => if i = plain keyword then some rest else none
  | none => none

/-- The name in front, which is no keyword. -/
def name? (cs : List Char) : Option (Ident × List Char) :=
  (word? cs).filter fun (i, _) => i.raw || !isReserved i.name

/-- The name of a path in front, which may be one of those that begin paths. -/
def pathName? (cs : List Char) : Option (Ident × List Char) :=
  (word? cs).filter fun (i, _) => i.raw || i.name ∈ pathKeywords || !isReserved i.name

/-- The names of a path in front, at most as many as the bound says. -/
def pathNames? : (bound : Nat) → List Char → Option (List Ident × List Char)
  | 0, _ => none
  | bound + 1, cs => do
    let (i, rest) ← pathName? cs
    match afterMark? "::" rest with
    | some rest => do
      let (is, rest) ← pathNames? bound rest
      return (i :: is, rest)
    | none => return ([i], rest)

/-- Items with commas between them up to a closing mark, which a comma may precede. -/
def separated? {α : Type} (item : List Char → Option (α × List Char)) (close : String) :
    (bound : Nat) → List Char → Option (List α × List Char)
  | 0, _ => none
  | bound + 1, cs =>
    match afterMark? close cs with
    | some rest => some ([], rest)
    | none => do
      let (a, rest) ← item cs
      match afterMark? "," rest with
      | some rest => do
        let (as, rest) ← separated? item close bound rest
        return (a :: as, rest)
      | none => return ([a], ← afterMark? close rest)

/-- A type, nested at most as deeply as the bound says. -/
def type? : (bound : Nat) → List Char → Option (Ty × List Char)
  | 0, _ => none
  | bound + 1, cs =>
    match dropSpace cs with
    | '&' :: rest => do
      let (exclusive, rest) := ((afterKeyword? "mut" rest).map ((true, ·))).getD (false, rest)
      let (target, rest) ← type? bound rest
      return (.ref none exclusive target, rest)
    | '[' :: rest => do
      let (item, rest) ← type? bound rest
      return (.slice item, ← afterMark? "]" rest)
    | '(' :: rest => do return (.unit, ← afterMark? ")" rest)
    | cs => do
      let (rooted, cs) := ((afterMark? "::" cs).map ((true, ·))).getD (false, cs)
      let (names, rest) ← pathNames? cs.length cs
      match afterMark? "<" rest with
      | some rest => do
        let (args, rest) ← separated? (type? bound) ">" rest.length rest
        return (.path rooted names [] args, rest)
      | none => return (.path rooted names [] [], rest)

/-- Whether the word that makes an item public is in front, and the rest. -/
def readVisibility (cs : List Char) : Bool × List Char :=
  ((afterKeyword? "pub" cs).map ((true, ·))).getD (false, cs)

/-- A field. -/
def field? (cs : List Char) : Option (FieldDecl × List Char) := do
  let (isPub, rest) := readVisibility cs
  let (name, rest) ← name? rest
  let rest ← afterMark? ":" rest
  let (type, rest) ← type? rest.length rest
  return ({ isPub, name, type }, rest)

/-- A structure. -/
def struct? (cs : List Char) : Option (Item × List Char) := do
  let (isPub, rest) := readVisibility cs
  let (name, rest) ← name? (← afterKeyword? "struct" rest)
  match afterMark? ";" rest with
  | some rest => return (.struct [] isPub name none, rest)
  | none => do
    let rest ← afterMark? "\x7b" rest
    let (fields, rest) ← separated? field? "\x7d" rest.length rest
    return (.struct [] isPub name (some fields), rest)

/-- Structures up to the end of a text, at most as many as the bound says. -/
def structs? : (bound : Nat) → List Char → Option (List Item)
  | bound, cs =>
    if dropSpace cs = [] then some []
    else
      match bound with
      | 0 => none
      | bound + 1 => do
        let (item, rest) ← struct? cs
        return item :: (← structs? bound rest)

/-- The file that a text denotes, if it consists of structures. -/
def File.ofText? (text : String) : Option File :=
  let cs := dropMark text.toList
  (structs? cs.length cs).map fun items => { items }

end ServiceBindings.Code
