import ServiceBindings.Json.Fault
import ServiceBindings.Text.Utf8

/-!
The smallest parts of a JSON text: blanks, words, strings and numbers. Each reader takes the rest of the text and
gives back what it read with what is left. The `skip` readers pass over a part without looking at its meaning, and
so accept some texts that the others refuse.
-/

namespace ServiceBindings.Json

open Text Decimal

/-- Whether a character may stand between the parts of a JSON text. -/
def isJsonBlank (c : Char) : Bool :=
  c = ' ' || c = '\n' || c = '\t' || c = '\r'

/-- Drops the blanks in front. -/
def skipBlanks : Glyphs → Glyphs
  | some c :: rest => if isJsonBlank c then skipBlanks rest else some c :: rest
  | gs => gs

/-- The rest of a word of which the first letter is read. -/
def scanWord : List Char → Glyphs → Except Fault Glyphs
  | [], rest => .ok rest
  | _ :: _, [] => .error (.ended .value)
  | w :: ws, g :: rest => if g = some w then scanWord ws rest else .error .ident

/-- Whether a place of a text is a decimal digit. -/
def digitAt? : Option Char → Option Nat
  | some c => if c.isDigit then some (c.toNat - '0'.toNat) else none
  | none => none

/-! ### Strings -/

/-- The value of a hexadecimal digit. -/
def hexValue? (c : Char) : Option Nat :=
  if '0' ≤ c ∧ c ≤ '9' then some (c.toNat - '0'.toNat)
  else if 'a' ≤ c ∧ c ≤ 'f' then some (c.toNat - 'a'.toNat + 10)
  else if 'A' ≤ c ∧ c ≤ 'F' then some (c.toNat - 'A'.toNat + 10)
  else none

/-- The number of bytes of a text. -/
def byteCount (gs : Glyphs) : Nat :=
  gs.foldr (fun g n => glyphSize g + n) 0

/-- The value of an escape of four hexadecimal digits. -/
def scanHex (gs : Glyphs) : Except Fault (Nat × Glyphs) :=
  if byteCount (gs.take 4) < 4 then .error (.ended .string)
  else
    match gs with
    | some a :: some b :: some c :: some d :: rest =>
      match hexValue? a, hexValue? b, hexValue? c, hexValue? d with
      | some a, some b, some c, some d => .ok (((a * 16 + b) * 16 + c) * 16 + d, rest)
      | _, _, _, _ => .error .escape
    | _ => .error .escape

/-- The character that a short escape stands for. -/
def shortEscape? : Char → Option Char
  | '"' => some '"'
  | '\\' => some '\\'
  | '/' => some '/'
  | 'b' => some '\x08'
  | 'f' => some '\x0c'
  | 'n' => some '\n'
  | 'r' => some '\r'
  | 't' => some '\t'
  | _ => none

/-- The character of an escape with a code unit: one unit, or two that form a surrogate pair. -/
def scanUnit (gs : Glyphs) : Except Fault (Char × Glyphs) := do
  let (n, rest) ← scanHex gs
  if 0xDC00 ≤ n ∧ n ≤ 0xDFFF then .error .surrogate
  else if n < 0xD800 ∨ 0xDBFF < n then .ok (Char.ofNat n, rest)
  else
    match rest with
    | [] => .error (.ended .string)
    | some '\\' :: [] => .error (.ended .string)
    | some '\\' :: some 'u' :: rest =>
      let (m, rest) ← scanHex rest
      if m < 0xDC00 ∨ 0xDFFF < m then .error .surrogate
      else .ok (Char.ofNat (0x10000 + (n - 0xD800) * 0x400 + (m - 0xDC00)), rest)
    | _ => .error .hexEscapeEnd

/-- The rest of a string whose opening quote is read; `done` holds what came so far, last first. The first argument
bounds the number of steps. -/
def scanStringAfter : Nat → (done : Glyphs) → Glyphs → Except Fault (String × Glyphs)
  | 0, _, _ => .error (.ended .string)
  | _, _, [] => .error (.ended .string)
  | fuel + 1, done, g :: rest =>
    match g with
    | some '"' =>
      match Glyphs.chars? done.reverse with
      | some cs => .ok (String.ofList cs, rest)
      | none => .error .codePoint
    | some '\\' =>
      match rest with
      | [] => .error (.ended .string)
      | some 'u' :: rest => do
        let (c, rest) ← scanUnit rest
        scanStringAfter fuel (some c :: done) rest
      | some e :: rest =>
        match shortEscape? e with
        | some c => scanStringAfter fuel (some c :: done) rest
        | none => .error .escape
      | none :: _ => .error .escape
    | some c => if c.toNat < 32 then .error .controlCharacter else scanStringAfter fuel (some c :: done) rest
    | none => scanStringAfter fuel (none :: done) rest

/-- The rest of a string whose opening quote is read. -/
def scanString (gs : Glyphs) : Except Fault (String × Glyphs) :=
  scanStringAfter gs.length [] gs

/-- Passes over the rest of a string. -/
def skipStringAfter : Nat → Glyphs → Except Fault Glyphs
  | 0, _ => .error (.ended .string)
  | _, [] => .error (.ended .string)
  | fuel + 1, g :: rest =>
    match g with
    | some '"' => .ok rest
    | some '\\' =>
      match rest with
      | [] => .error (.ended .string)
      | some 'u' :: rest => do
        let (_, rest) ← scanHex rest
        skipStringAfter fuel rest
      | some e :: rest => if (shortEscape? e).isSome then skipStringAfter fuel rest else .error .escape
      | none :: _ => .error .escape
    | some c => if c.toNat < 32 then .error .controlCharacter else skipStringAfter fuel rest
    | none => skipStringAfter fuel rest

/-- Passes over the rest of a string whose opening quote is read. -/
def skipString (gs : Glyphs) : Except Fault Glyphs :=
  skipStringAfter gs.length gs

/-! ### Numbers -/

/-- The largest integer that keeps its value; longer digit runs become floating point numbers. -/
def largestInteger : Nat := Nat.pow 2 64 - 1

/-- The largest exponent that is read in full. -/
def largestExponent : Nat := Nat.pow 2 31 - 1

/-- Drops the digits in front. -/
def skipDigits : Glyphs → Glyphs
  | [] => []
  | g :: rest => if (digitAt? g).isSome then skipDigits rest else g :: rest

/-- How many digits are in front. -/
def leadingDigits (gs : Glyphs) : Nat :=
  gs.length - (skipDigits gs).length

/-- Reads digits into a number as long as it stays within a limit: the number, how many digits were taken, and the
rest, which begins with a digit exactly when the limit was met. -/
def takeDigits (limit : Nat) : Nat → Glyphs → Nat × Nat × Glyphs
  | n, [] => (n, 0, [])
  | n, g :: rest =>
    match digitAt? g with
    | none => (n, 0, g :: rest)
    | some d =>
      if limit < n * 10 + d then (n, 0, g :: rest)
      else
        let (m, count, rest) := takeDigits limit (n * 10 + d) rest
        (m, count + 1, rest)

/-- The pattern of a power of ten, for exponents up to 308. -/
def powerOfTen (e : Nat) : Nat :=
  Format.double.ofNat (Nat.pow 10 e)

/-- Divides by ten as often as the exponent says, in steps of at most 308 places, each rounded. -/
def divideByPower : Nat → Nat → Nat → Nat
  | 0, bits, e => Format.double.div bits (powerOfTen (min e 308))
  | fuel + 1, bits, e =>
    if e ≤ 308 then Format.double.div bits (powerOfTen e)
    else if bits = 0 then 0
    else divideByPower fuel (Format.double.div bits (powerOfTen 308)) (e - 308)

/-- The floating point number `significand * 10 ^ exponent`: the significand is rounded first, then the power, then
their product or quotient. -/
def floating (negative : Bool) (significand : Nat) (exponent : Int) : Except Fault Number :=
  let bits := Format.double.ofNat significand
  let signed (size : Nat) : Number := .double (Format.double.withSign negative size)
  match exponent with
  | .ofNat e =>
    if e ≤ 308 then
      let product := Format.double.mul bits (powerOfTen e)
      if product = Format.double.infinity then .error .numberRange else .ok (signed product)
    else if bits = 0 then .ok (signed 0)
    else .error .numberRange
  | .negSucc e => .ok (signed (divideByPower 4 bits (e + 1)))

/-- The end of a number from its exponent mark on, which is not read yet. -/
def scanExponent (negative : Bool) (significand : Nat) (start : Int) (gs : Glyphs) : Except Fault (Number × Glyphs) :=
  let gs := gs.drop 1
  let (below, gs) :=
    match gs with
    | some '+' :: rest => (false, rest)
    | some '-' :: rest => (true, rest)
    | rest => (false, rest)
  match gs with
  | [] => .error (.ended .value)
  | g :: _ =>
    if (digitAt? g).isNone then .error .number
    else
      let (e, _, rest) := takeDigits largestExponent 0 gs
      if (rest.head?.bind digitAt?).isSome then
        if significand ≠ 0 ∧ !below then .error .numberRange
        else .ok (.double (Format.double.withSign negative 0), skipDigits rest)
      else do
        let n ← floating negative significand (if below then start - e else start + e)
        .ok (n, rest)

/-- Whether a text goes on with the mark of an exponent. -/
def atExponent : Glyphs → Bool
  | some 'e' :: _ => true
  | some 'E' :: _ => true
  | _ => false

/-- A number from its exponent on, or its end where it has none. -/
def finishFloating (negative : Bool) (significand : Nat) (exponent : Int) (gs : Glyphs) :
    Except Fault (Number × Glyphs) :=
  if atExponent gs then scanExponent negative significand exponent gs
  else do
    let n ← floating negative significand exponent
    .ok (n, gs)

/-- A number from its decimal point on, which is not read yet. -/
def scanDecimals (negative : Bool) (significand : Nat) (start : Int) (gs : Glyphs) : Except Fault (Number × Glyphs) :=
  let gs := gs.drop 1
  let (n, count, rest) := takeDigits largestInteger significand gs
  if (rest.head?.bind digitAt?).isSome then finishFloating negative n (start - count) (skipDigits rest)
  else if count = 0 then
    match rest with
    | [] => .error (.ended .value)
    | _ :: _ => .error .number
  else finishFloating negative n (start - count) rest

/-- The number that an integer text stands for. A negative number out of the range of 64 bits, and minus zero, are
floating point numbers. -/
def integral (negative : Bool) (n : Nat) : Number :=
  if !negative then .integer n
  else if n = 0 ∨ Nat.pow 2 63 < n then .double (Format.double.withSign true (Format.double.ofNat n))
  else .integer (-n)

/-- A number from the place after its integer digits on. -/
def finishNumber (negative : Bool) (n : Nat) (gs : Glyphs) : Except Fault (Number × Glyphs) :=
  match gs with
  | some '.' :: _ => scanDecimals negative n 0 gs
  | _ => if atExponent gs then scanExponent negative n 0 gs else .ok (integral negative n, gs)

/-- A number from its first digit on. -/
def scanNumber (negative : Bool) (gs : Glyphs) : Except Fault (Number × Glyphs) :=
  match gs with
  | [] => .error (.ended .value)
  | some '0' :: rest =>
    if (rest.head?.bind digitAt?).isSome then .error .number else finishNumber negative 0 rest
  | g :: _ =>
    if (digitAt? g).isNone then .error .number
    else
      let (n, _, rest) := takeDigits largestInteger 0 gs
      let more := leadingDigits rest
      if more = 0 then finishNumber negative n rest
      else
        match rest.drop more with
        | some '.' :: rest => scanDecimals negative n more (some '.' :: rest)
        | rest => finishFloating negative n more rest

/-- Passes over the decimals and the exponent of a number. -/
def skipFraction (gs : Glyphs) : Except Fault Glyphs := do
  let rest ←
    match gs with
    | some '.' :: rest => if leadingDigits rest = 0 then .error .number else .ok (skipDigits rest)
    | rest => .ok rest
  if atExponent rest then
    let rest :=
      match rest.drop 1 with
      | some '+' :: rest => rest
      | some '-' :: rest => rest
      | rest => rest
    if leadingDigits rest = 0 then .error .number else .ok (skipDigits rest)
  else .ok rest

/-- Passes over a number from its first digit on. -/
def skipNumber (gs : Glyphs) : Except Fault Glyphs :=
  match gs with
  | some '0' :: rest => if leadingDigits rest = 0 then skipFraction rest else .error .number
  | _ => if leadingDigits gs = 0 then .error .number else skipFraction (skipDigits gs)

/-! ### Values that nothing is made of -/

/-- An array or object that is not closed yet. -/
inductive Frame
  | list
  | object
  deriving DecidableEq, Repr

/-- What comes next while a value is passed over. -/
inductive SkipState
  /-- a value -/
  | value
  /-- the first item or key of a frame, or its end -/
  | opened (frame : Frame)
  /-- a comma or the end of the innermost frame -/
  | after
  /-- a key -/
  | key

/-- The fault of a text that ends within a frame. -/
def Frame.ended : Frame → Fault
  | .list => .ended .list
  | .object => .ended .object

/-- Passes over a value, given the frames around the current place, innermost first. -/
def skipFrames : Nat → List Frame → SkipState → Glyphs → Except Fault Glyphs
  | 0, _, _, _ => .error (.ended .value)
  | fuel + 1, frames, .value, gs =>
    match skipBlanks gs with
    | [] => .error (.ended .value)
    | g :: rest =>
      match g with
      | some 'n' => do skipFrames fuel frames .after (← scanWord ['u', 'l', 'l'] rest)
      | some 't' => do skipFrames fuel frames .after (← scanWord ['r', 'u', 'e'] rest)
      | some 'f' => do skipFrames fuel frames .after (← scanWord ['a', 'l', 's', 'e'] rest)
      | some '-' => do skipFrames fuel frames .after (← skipNumber rest)
      | some '"' => do skipFrames fuel frames .after (← skipString rest)
      | some '[' => skipFrames fuel (.list :: frames) (.opened .list) rest
      | some '\x7b' => skipFrames fuel (.object :: frames) (.opened .object) rest
      | g => do
        if (digitAt? g).isSome then skipFrames fuel frames .after (← skipNumber (g :: rest))
        else .error .value
  | fuel + 1, frames, .opened frame, gs =>
    match skipBlanks gs with
    | [] => .error frame.ended
    | g :: rest =>
      match frame, g with
      | .list, some ']' => skipFrames fuel (frames.drop 1) .after rest
      | .object, some '\x7d' => skipFrames fuel (frames.drop 1) .after rest
      | .list, _ => skipFrames fuel frames .value (g :: rest)
      | .object, _ => skipFrames fuel frames .key (g :: rest)
  | _ + 1, [], .after, gs => .ok gs
  | fuel + 1, frame :: frames, .after, gs =>
    match skipBlanks gs with
    | [] => .error frame.ended
    | g :: rest =>
      match frame, g with
      | .list, some ']' => skipFrames fuel frames .after rest
      | .object, some '\x7d' => skipFrames fuel frames .after rest
      | .list, some ',' => skipFrames fuel (frame :: frames) .value rest
      | .object, some ',' => skipFrames fuel (frame :: frames) .key rest
      | .list, _ => .error .listCommaOrEnd
      | .object, _ => .error .objectCommaOrEnd
  | fuel + 1, frames, .key, gs =>
    match skipBlanks gs with
    | [] => .error (.ended .object)
    | some '"' :: rest => do
      let rest ← skipString rest
      match skipBlanks rest with
      | [] => .error (.ended .object)
      | some ':' :: rest => skipFrames fuel frames .value rest
      | _ => .error .colon
    | _ => .error .key

/-- Passes over a value. -/
def skipValue (gs : Glyphs) : Except Fault Glyphs :=
  skipFrames (2 * gs.length + 2) [] .value gs

end ServiceBindings.Json
