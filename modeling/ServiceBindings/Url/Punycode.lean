/-!
Punycode, the form in which a domain label outside ASCII is written with letters, digits and hyphens. The ASCII
characters come first; the others follow as distances between positions in the order of insertion, each a number
in base 36 whose digits have thresholds that follow the size of the numbers before.
-/

namespace ServiceBindings.Url.Punycode

/-- The digit of a value below 36: a letter, then the ten digits. -/
def digit (n : Nat) : Char :=
  if n < 26 then Char.ofNat ('a'.toNat + n) else Char.ofNat ('0'.toNat + (n - 26))

/-- The value of a digit of either case. -/
def digitValue? (c : Char) : Option Nat :=
  if 'a' ≤ c ∧ c ≤ 'z' then some (c.toNat - 'a'.toNat)
  else if 'A' ≤ c ∧ c ≤ 'Z' then some (c.toNat - 'A'.toNat)
  else if c.isDigit then some (c.toNat - '0'.toNat + 26)
  else none

/-- The threshold of the digit at a position, counted in steps of 36 from 36. A digit below it is the last one. -/
def threshold (bias position : Nat) : Nat :=
  if position ≤ bias then 1 else if bias + 26 ≤ position then 26 else position - bias

theorem one_le_threshold (bias position : Nat) : 1 ≤ threshold bias position := by
  unfold threshold
  split
  · omega
  · split <;> omega

/-- Divides a large distance until it is small, counting the positions that it took. -/
def settle (distance positions : Nat) : Nat × Nat :=
  if 455 < distance then settle (distance / 35) (positions + 36) else (distance, positions)
termination_by distance
decreasing_by omega

/-- The bias after a distance was written, when `count` characters stand in the label. -/
def adapt (distance count : Nat) (first : Bool) : Nat :=
  let d := if first then distance / 700 else distance / 2
  let (d, positions) := settle (d + d / count) 0
  positions + 36 * d / (d + 38)

/-- The digits of a number, lowest first. -/
def digits (bias position n : Nat) : List Char :=
  let t := threshold bias position
  if n < t then [digit n]
  else digit (t + (n - t) % (36 - t)) :: digits bias (position + 36) ((n - t) / (36 - t))
termination_by n
decreasing_by
  have := one_le_threshold bias position
  exact Nat.lt_of_le_of_lt (Nat.div_le_self _ _) (by omega)

/-- What has been written so far: the output, the distance since the last character, the bias, and how many
characters have their place. -/
structure Writing where
  output : List Char
  distance : Nat
  bias : Nat
  placed : Nat

/-- Passes one character of the label while the characters with code `code` are inserted. -/
def Writing.pass (code basic : Nat) (w : Writing) (c : Char) : Writing :=
  if c.toNat < code then { w with distance := w.distance + 1 }
  else if c.toNat = code then
    { output := w.output ++ digits w.bias 36 w.distance
      distance := 0
      bias := adapt w.distance (w.placed + 1) (w.placed == basic)
      placed := w.placed + 1 }
  else w

/-- Inserts the characters of the given codes, which increase, into the label. -/
def Writing.insertAll (label : List Char) (basic : Nat) : (next : Nat) → List Nat → Writing → Writing
  | _, [], w => w
  | next, code :: codes, w =>
    let w := { w with distance := w.distance + (code - next) * (w.placed + 1) }
    let w := label.foldl (Writing.pass code basic) w
    insertAll label basic (code + 1) codes { w with distance := w.distance + 1 }

/-- Writes a label. -/
def encode (label : List Char) : List Char :=
  let basic := label.filter fun c => c.toNat < 0x80
  let codes := ((label.map Char.toNat).filter (0x80 ≤ ·)).mergeSort.eraseDups
  let start := if basic.isEmpty then [] else basic ++ ['-']
  (Writing.insertAll label basic.length 0x80 codes ⟨start, 0, 72, basic.length⟩).output

/-- Reads a number: its value added to `sum`, and what follows. -/
def readNumber (bias : Nat) : (position weight sum : Nat) → List Char → Option (Nat × List Char)
  | _, _, _, [] => none
  | position, weight, sum, c :: rest =>
    match digitValue? c with
    | none => none
    | some d =>
      let t := threshold bias position
      if d < t then some (sum + d * weight, rest)
      else readNumber bias (position + 36) (weight * (36 - t)) (sum + d * weight) rest

/-- Reads the insertions into a label. Each takes at least one character, so that the length of the text bounds
their number. -/
def readInsertions : (bound bias code position : Nat) → (label text : List Char) → Option (List Char)
  | _, _, _, _, label, [] => some label
  | 0, _, _, _, _, _ :: _ => none
  | bound + 1, bias, code, position, label, text =>
    match readNumber bias 36 1 position text with
    | none => none
    | some (sum, rest) =>
      let count := label.length + 1
      let code := code + sum / count
      let place := sum % count
      if code.isValidChar then
        readInsertions bound (adapt (sum - position) count (position == 0)) code (place + 1)
          (label.take place ++ Char.ofNat code :: label.drop place) rest
      else none

/-- Reads a label. -/
def decode? (text : List Char) : Option (List Char) :=
  let tail := (text.reverse.takeWhile (· ≠ '-')).reverse
  let basic := text.take (text.length - tail.length - 1)
  readInsertions tail.length 72 0x80 0 basic tail

end ServiceBindings.Url.Punycode
