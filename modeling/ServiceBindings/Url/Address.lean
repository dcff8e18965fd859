import ServiceBindings.Text.Quoted
import ServiceBindings.Url.Percent

/-!
Numeric host addresses. A host whose last label is a number is an address of four bytes, whose parts may be
decimal, octal or hexadecimal and whose last part fills the bytes that are left; a host in brackets is an address of
eight pieces, of which a run of zeros may be left out once.
-/

namespace ServiceBindings.Url

/-- The labels of a domain. -/
def labels (cs : List Char) : List (List Char) :=
  cs.splitOn '.'

/-- The number that digits of a base denote. -/
def numeral (base : Nat) (ds : List Char) : Nat :=
  ds.foldl (fun n c => base * n + (hexValue? c).getD 0) 0

/-- Digits of a base, of which there may be none. -/
def numeralOf? (base : Nat) (ds : List Char) : Option Nat :=
  if ds.all fun c => (hexValue? c).any (· < base) then some (numeral base ds) else none

/-- One part of an address of four bytes, in the base that its beginning tells. -/
def addressPart? : List Char → Option Nat
  | [] => none
  | '0' :: 'x' :: ds => numeralOf? 16 ds
  | '0' :: 'X' :: ds => numeralOf? 16 ds
  | ['0'] => some 0
  | '0' :: ds => numeralOf? 8 ds
  | ds => numeralOf? 10 ds

/-- The labels that count: all but an empty one at the end. -/
def addressLabels (cs : List Char) : List (List Char) :=
  let ls := labels cs
  if ls.getLast? = some [] then ls.dropLast else ls

/-- Whether a domain must be read as an address of four bytes. -/
def endsInNumber (cs : List Char) : Bool :=
  match (addressLabels cs).getLast? with
  | some l => (!l.isEmpty && l.all Char.isDigit) || (addressPart? l).isSome
  | none => false

/-- Reads an address of four bytes. -/
def address4? (cs : List Char) : Option Nat := do
  let parts ← (addressLabels cs).mapM addressPart?
  let last ← parts.getLast?
  let front := parts.dropLast
  if 3 < front.length ∨ front.any (255 < ·) ∨ Nat.pow 256 (4 - front.length) ≤ last then none
  else some (front.foldr (fun b n => b * Nat.pow 256 3 + n / 256) 0 + last)

/-- An address of four bytes, each in decimal. -/
def address4Text (n : Nat) : List Char :=
  (".".intercalate ([Nat.pow 256 3, Nat.pow 256 2, 256, 1].map fun unit => toString (n / unit % 256))).toList

/-- One to four hexadecimal digits. -/
def piece? (ds : List Char) : Option Nat :=
  if 1 ≤ ds.length ∧ ds.length ≤ 4 then numeralOf? 16 ds else none

/-- A byte in decimal, without leading zeros. -/
def byte? (ds : List Char) : Option Nat :=
  match ds with
  | [] => none
  | ['0'] => some 0
  | '0' :: _ => none
  | ds => (numeralOf? 10 ds).filter (· ≤ 255)

/-- The two pieces that four bytes with points between them make. -/
def bytePieces? (cs : List Char) : Option (List Nat) :=
  match (labels cs).mapM byte? with
  | some [a, b, c, d] => some [256 * a + b, 256 * c + d]
  | _ => none

/-- Pieces with colons between them; the last two may be written as four bytes where the address ends. -/
def pieces? (final : Bool) (cs : List Char) : Option (List Nat) :=
  if cs.isEmpty then some [] else
    let parts := cs.splitOn ':'
    match parts.getLast? with
    | some l =>
      if final && l.contains '.' then do
        return (← parts.dropLast.mapM piece?) ++ (← bytePieces? l)
      else parts.mapM piece?
    | none => none

/-- What stands before and after the first pair of colons. -/
def splitPair : List Char → Option (List Char × List Char)
  | [] => none
  | ':' :: ':' :: rest => some ([], rest)
  | c :: rest => (splitPair rest).map fun (a, b) => (c :: a, b)

/-- Reads an address of eight pieces. A pair of colons stands for one or more pieces of zero. -/
def address6? (cs : List Char) : Option (List Nat) :=
  match splitPair cs with
  | none => (pieces? true cs).filter (·.length = 8)
  | some (a, b) => do
    let front ← pieces? false a
    let back ← pieces? true b
    if 7 < front.length + back.length then none
    else some (front ++ List.replicate (8 - front.length - back.length) 0 ++ back)

/-- How many zeros a list of pieces begins with. -/
def zeroRun (ps : List Nat) : Nat :=
  (ps.takeWhile (· = 0)).length

/-- The longest run of zeros, the first of several: where it begins and how long it is. -/
def longestZeroRun (ps : List Nat) : Nat × Nat :=
  (List.range ps.length).foldl (fun best i =>
    let n := zeroRun (ps.drop i)
    if best.2 < n then (i, n) else best) (0, 0)

/-- Pieces with colons between them. -/
def piecesText (ps : List Nat) : String :=
  ":".intercalate (ps.map Text.hex)

/-- An address of eight pieces between brackets, the longest run of at least two zeros left out. -/
def address6Text (ps : List Nat) : List Char :=
  let (start, length) := longestZeroRun ps
  let text :=
    if length < 2 then piecesText ps
    else piecesText (ps.take start) ++ "::" ++ piecesText (ps.drop (start + length))
  ("[" ++ text ++ "]").toList

end ServiceBindings.Url
