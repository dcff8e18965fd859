import ServiceBindings.Text.Utf8

/-!
Percent encoding. Each part of an address has the set of characters that it must not hold; such a character is
written as the bytes of its UTF-8 form, each after a percent sign. Everything outside ASCII is in every set.
-/

namespace ServiceBindings.Url

open Text

/-- An uppercase hexadecimal digit. -/
def hexDigit (n : Nat) : Char :=
  (Nat.digitChar n).toUpper

/-- The value of a hexadecimal digit of either case. -/
def hexValue? (c : Char) : Option Nat :=
  if c.isDigit then some (c.toNat - '0'.toNat)
  else if 'a' ≤ c ∧ c ≤ 'f' then some (c.toNat - 'a'.toNat + 10)
  else if 'A' ≤ c ∧ c ≤ 'F' then some (c.toNat - 'A'.toNat + 10)
  else none

/-- A byte as a percent sign and two digits. -/
def percentByte (b : Nat) : List Char :=
  ['%', hexDigit (b / 16), hexDigit (b % 16)]

/-- Encodes the characters of a set and leaves the others. -/
def percentEncode (set : Char → Bool) (cs : List Char) : List Char :=
  cs.flatMap fun c => if set c then (encodeChar c).flatMap percentByte else [c]

/-- The bytes that a text stands for. A percent sign that two digits do not follow stands for itself. -/
def percentDecode : List Char → List Nat
  | '%' :: a :: b :: rest =>
    match hexValue? a, hexValue? b with
    | some x, some y => (16 * x + y) :: percentDecode rest
    | _, _ => encodeChar '%' ++ percentDecode (a :: b :: rest)
  | c :: rest => encodeChar c ++ percentDecode rest
  | [] => []

/-- Controls, and everything outside ASCII. -/
def controlSet (c : Char) : Bool :=
  c.toNat < 0x20 || 0x7F ≤ c.toNat

/-- What a query encodes. An apostrophe belongs to it in the special schemes alone. -/
def querySet (special : Bool) (c : Char) : Bool :=
  controlSet c || c ∈ [' ', '"', '#', '<', '>'] || (special && c = '\x27')

/-- What a fragment encodes. -/
def fragmentSet (c : Char) : Bool :=
  controlSet c || c ∈ [' ', '"', '<', '>', '\x60']

/-- What a path encodes. -/
def pathSet (c : Char) : Bool :=
  fragmentSet c || c ∈ ['#', '?', '{', '}']

/-- What a single segment encodes: beyond the set of paths the percent sign, and what would end the segment. -/
def segmentSet (special : Bool) (c : Char) : Bool :=
  pathSet c || c ∈ ['/', '%'] || (special && c = '\\')

/-- What a user name or a password encodes. -/
def userSet (c : Char) : Bool :=
  pathSet c || c ∈ ['/', ':', ';', '=', '@', '[', '\\', ']', '^', '|']

end ServiceBindings.Url
