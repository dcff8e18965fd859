import ServiceBindings.Text.CaseTable
import ServiceBindings.Text.LetterTable

/-!
Letter case. `upper` and `lower` are the full Unicode mappings of one character, which may yield several;
`lowerWord` is the mapping of a whole text, where a capital sigma that ends a word takes its final form.
-/

namespace ServiceBindings.Text

/-- Whether a character has the property Lowercase. -/
def isLower (c : Char) : Bool :=
  memRuns lowercaseLetters c.toNat

/-- Whether a character has the property Uppercase. -/
def isUpper (c : Char) : Bool :=
  memRuns uppercaseLetters c.toNat

/-- The image of a character under a case mapping given by its shifts and its expansions. -/
def mapCase (shifts : List Shift) (expansions : List (Nat × List Nat)) (c : Char) : List Char :=
  match expansions.lookup c.toNat with
  | some ns => ns.map Char.ofNat
  | none => [Char.ofNat (shiftBy shifts c.toNat)]

/-- The lowercase form of a character. -/
def lower (c : Char) : List Char :=
  mapCase lowerShifts lowerExpansions c

/-- The uppercase form of a character. -/
def upper (c : Char) : List Char :=
  mapCase upperShifts upperExpansions c

/-- Whether the first character that does not ignore case is a cased letter. -/
def reachesCased (cs : List Char) : Bool :=
  match cs.dropWhile fun c => memRuns caseIgnorable c.toNat with
  | [] => false
  | c :: _ => memRuns casedLetters c.toNat

/-- Capital sigma, the one letter whose lowercase form depends on what stands around it. -/
def capitalSigma : Char := 'Σ'

/-- Lowercases the rest of a text whose beginning, last character first, is `before`. -/
def lowerAfter (before : List Char) : List Char → List Char
  | [] => []
  | c :: rest =>
    let image :=
      if c = capitalSigma then
        [if reachesCased before && !reachesCased rest then 'ς' else 'σ']
      else lower c
    image ++ lowerAfter (c :: before) rest

/-- Lowercases a text. A capital sigma becomes `ς` when a cased letter comes before it and none after it, leaving
out of account the characters that ignore case. -/
def lowerWord (cs : List Char) : List Char :=
  lowerAfter [] cs

end ServiceBindings.Text
