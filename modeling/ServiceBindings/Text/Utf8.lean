/-!
UTF-8. Texts that come as bytes may be ill-formed, so decoding yields a list in which each byte that is no part of
a well-formed sequence has a place of its own.
-/

namespace ServiceBindings.Text

/-- A text as it comes from bytes: a character, or `none` for a byte that belongs to none. -/
abbrev Glyphs := List (Option Char)

/-- The text of a list of characters. -/
def Glyphs.ofChars (cs : List Char) : Glyphs :=
  cs.map some

/-- The characters of a text, if it is well-formed. -/
def Glyphs.chars? : Glyphs → Option (List Char)
  | [] => some []
  | none :: _ => none
  | some c :: rest => (chars? rest).map (c :: ·)

/-- How many bytes a place of a text stands for. -/
def glyphSize : Option Char → Nat
  | some c => c.utf8Size
  | none => 1

/-- Whether a byte continues a sequence. -/
def isContinuation (b : Nat) : Bool :=
  0x80 ≤ b && b < 0xC0

/-- The character of a sequence of bytes with the given payload, if it is neither a surrogate nor too large nor
has a shorter form. -/
def character? (payload least : Nat) : Option Char :=
  if h : payload.isValidChar then
    if least ≤ payload then some ⟨payload.toUInt32, by
      rcases h with h | h
      · left; simp only [Nat.toUInt32, UInt32.toNat_ofNat']; omega
      · right; simp only [Nat.toUInt32, UInt32.toNat_ofNat']; omega⟩ else none
  else none

/-- The first character of a byte sequence and the number of bytes after the first that belong to it. -/
def firstCharacter? : List Nat → Option (Char × Nat)
  | [] => none
  | b :: rest =>
    if b < 0x80 then (character? b 0).map (·, 0)
    else if 0xC2 ≤ b ∧ b < 0xE0 then
      match rest with
      | c :: _ => if isContinuation c then (character? (b % 32 * 64 + c % 64) 0x80).map (·, 1) else none
      | _ => none
    else if 0xE0 ≤ b ∧ b < 0xF0 then
      match rest with
      | c :: d :: _ =>
        if isContinuation c && isContinuation d then
          (character? (b % 16 * 4096 + c % 64 * 64 + d % 64) 0x800).map (·, 2)
        else none
      | _ => none
    else if 0xF0 ≤ b ∧ b < 0xF5 then
      match rest with
      | c :: d :: e :: _ =>
        if isContinuation c && isContinuation d && isContinuation e then
          (character? (b % 8 * 262144 + c % 64 * 4096 + d % 64 * 64 + e % 64) 0x10000).map (·, 3)
        else none
      | _ => none
    else none

/-- Decodes bytes, passing over those that belong to the character before them. -/
def decodeAfter : (skip : Nat) → List Nat → Glyphs
  | _, [] => []
  | skip + 1, _ :: rest => decodeAfter skip rest
  | 0, b :: rest =>
    match firstCharacter? (b :: rest) with
    | some (c, n) => some c :: decodeAfter n rest
    | none => none :: decodeAfter 0 rest

/-- Decodes bytes. -/
def decodeUtf8 (bytes : List Nat) : Glyphs :=
  decodeAfter 0 bytes

/-- The bytes of a character. -/
def encodeChar (c : Char) : List Nat :=
  let n := c.toNat
  if n < 0x80 then [n]
  else if n < 0x800 then [0xC0 + n / 64, 0x80 + n % 64]
  else if n < 0x10000 then [0xE0 + n / 4096, 0x80 + n / 64 % 64, 0x80 + n % 64]
  else [0xF0 + n / 262144, 0x80 + n / 4096 % 64, 0x80 + n / 64 % 64, 0x80 + n % 64]

/-- The bytes of a text. -/
def encodeUtf8 (cs : List Char) : List Nat :=
  cs.flatMap encodeChar

end ServiceBindings.Text
