/-!
Binary floating point numbers as bit patterns. A pattern is decoded into an integer times a power of two, and
a quotient of two integers is rounded to the nearest pattern, the even one of two that are equally near. All
arithmetic is exact arithmetic on natural numbers followed by one rounding.
-/

namespace ServiceBindings.Decimal

/-- A binary format: how many bits hold the fraction and how many the exponent. -/
structure Format where
  fractionBits : Nat
  exponentBits : Nat
  deriving DecidableEq, Repr

namespace Format

/-- The format of 64 bits. -/
def double : Format := ⟨52, 11⟩

/-- The format of 32 bits. -/
def single : Format := ⟨23, 8⟩

/-- The exponent of two that belongs to the last bit of the smallest numbers. -/
def leastExponent (f : Format) : Int :=
  2 - (Nat.pow 2 (f.exponentBits - 1) : Nat) - f.fractionBits

/-- The pattern of positive infinity, which is above the pattern of every finite number. -/
def infinity (f : Format) : Nat :=
  (Nat.pow 2 f.exponentBits - 1) * Nat.pow 2 f.fractionBits

/-- The bit that is set in negative numbers. -/
def signBit (f : Format) : Nat :=
  Nat.pow 2 (f.fractionBits + f.exponentBits)

end Format

/-- What the pattern of a number without its sign stands for. -/
inductive Magnitude
  /-- `significand * 2 ^ exponent` -/
  | finite (significand : Nat) (exponent : Int)
  | infinite
  | notANumber
  deriving DecidableEq, Repr

namespace Format

/-- Decodes a pattern whose sign bit is not set. -/
def magnitude (f : Format) (bits : Nat) : Magnitude :=
  if f.infinity < bits then .notANumber
  else if bits = f.infinity then .infinite
  else
    let fraction := bits % Nat.pow 2 f.fractionBits
    match bits / Nat.pow 2 f.fractionBits with
    | 0 => .finite fraction f.leastExponent
    | e + 1 => .finite (Nat.pow 2 f.fractionBits + fraction) (f.leastExponent + e)

/-- Whether the sign bit of a pattern is set, and the pattern without it. -/
def split (f : Format) (bits : Nat) : Bool × Nat :=
  (f.signBit ≤ bits, bits % f.signBit)

/-- A pattern with the given sign. -/
def withSign (f : Format) (negative : Bool) (bits : Nat) : Nat :=
  if negative then f.signBit + bits else bits

end Format

/-- The quotient nearest to `num / den`, the even one of two that are equally near. -/
def roundDiv (num den : Nat) : Nat :=
  let q := num / den
  let r := num % den
  if den < 2 * r || (2 * r = den && q % 2 = 1) then q + 1 else q

/-- The quotient `num * 2 ^ -e / den` as a fraction of natural numbers. -/
def scaleDown (num den : Nat) (e : Int) : Nat × Nat :=
  match e with
  | .ofNat k => (num, den * Nat.pow 2 k)
  | .negSucc k => (num * Nat.pow 2 (k + 1), den)

/-- The pattern nearest to `num / den`; infinity for a quotient too large for the format. -/
def Format.ofRatio (f : Format) (num den : Nat) : Nat :=
  if num = 0 then 0
  else
    let p := f.fractionBits + 1
    let guess : Int := (Nat.log2 num : Int) - Nat.log2 den - p
    let low := max guess f.leastExponent
    let (a, b) := scaleDown num den low
    let e := if Nat.pow 2 p ≤ a / b then low + 1 else low
    let (a, b) := scaleDown num den e
    let m := roundDiv a b
    let bits :=
      if m < Nat.pow 2 f.fractionBits then m
      else (e - f.leastExponent).toNat * Nat.pow 2 f.fractionBits + m
    min bits f.infinity

/-- The pattern of a natural number. -/
def Format.ofNat (f : Format) (n : Nat) : Nat :=
  f.ofRatio n 1

/-- A finite magnitude as a fraction of natural numbers. -/
def fraction (significand : Nat) (exponent : Int) : Nat × Nat :=
  match exponent with
  | .ofNat k => (significand * Nat.pow 2 k, 1)
  | .negSucc k => (significand, Nat.pow 2 (k + 1))

/-- The product of two patterns without sign. -/
def Format.mul (f : Format) (x y : Nat) : Nat :=
  match f.magnitude x, f.magnitude y with
  | .finite m q, .finite n r =>
    let (a, b) := fraction (m * n) (q + r)
    f.ofRatio a b
  | _, _ => f.infinity

/-- The quotient of two patterns without sign, where the second one is not zero. -/
def Format.div (f : Format) (x y : Nat) : Nat :=
  match f.magnitude x, f.magnitude y with
  | .finite m q, .finite n r =>
    let (a, b) := fraction m (q - r)
    f.ofRatio a (b * n)
  | _, _ => f.infinity

/-- The pattern of another format nearest to the number of a pattern, sign included. -/
def Format.convert (source target : Format) (bits : Nat) : Nat :=
  let (negative, size) := source.split bits
  target.withSign negative <|
    match source.magnitude size with
    | .finite m q =>
      let (a, b) := fraction m q
      target.ofRatio a b
    | .infinite => target.infinity
    | .notANumber => target.infinity + Nat.pow 2 (target.fractionBits - 1)

end ServiceBindings.Decimal
