import ServiceBindings.Decimal.Binary

/-!
The shortest decimal that reads back. Of the decimals with one digit, two digits and so on, the first that rounds
to the number is taken; where two of one length do, the nearer one. Where they are equally near, documents take the
even one, and the positional form takes the larger one.
-/

namespace ServiceBindings.Decimal

/-- The decimal number `digits * 10 ^ exponent`. -/
structure Scientific where
  digits : Nat
  exponent : Int
  deriving DecidableEq, Repr

/-- How many decimal digits a positive number has. -/
def digitCount (n : Nat) : Nat :=
  (Nat.toDigits 10 n).length

/-- The exponent of the first decimal digit of `num / den`. -/
def leadingExponent (num den : Nat) : Int :=
  if den ≤ num then (digitCount (num / den) : Int) - 1
  else -(digitCount ((den - 1) / num) : Int)

/-- The numbers that round to one pattern, as multiples of a quarter of the last bit: from `low` to `high` around
`centre`, ends included when the pattern is even. -/
structure Interval where
  low : Nat
  centre : Nat
  high : Nat
  closed : Bool
  deriving DecidableEq, Repr

/-- The interval of a significand. Below a power of two the patterns are twice as dense, save at the bottom of the
range. -/
def Format.interval (f : Format) (significand : Nat) (exponent : Int) : Interval :=
  let dense := significand = Nat.pow 2 f.fractionBits && exponent != f.leastExponent
  ⟨4 * significand - (if dense then 1 else 2), 4 * significand, 4 * significand + 2, significand % 2 = 0⟩

/-- Whether the decimal `d * 10 ^ e` lies in an interval whose unit is `num / den`. -/
def Interval.contains (i : Interval) (num den d : Nat) (e : Int) : Bool :=
  let (a, b) :=
    match e with
    | .ofNat k => (d * Nat.pow 10 k * den, num)
    | .negSucc k => (d * den, num * Nat.pow 10 (k + 1))
  if i.closed then i.low * b ≤ a && a ≤ i.high * b else i.low * b < a && a < i.high * b

/-- Which of two decimals is taken that are equally near. -/
inductive Ties
  | toEven
  | up
  deriving DecidableEq, Repr

/-- Whether the integer above `a / b` is taken and not the one below, if both may be. -/
def Ties.above (ties : Ties) (a b : Nat) : Bool :=
  match ties with
  | .toEven => roundDiv a b ≠ a / b
  | .up => b ≤ 2 * (a % b)

/-- The decimals next to `num / den` with last digit at `10 ^ e`: the digits of the one below, and whether the one
above is preferred. -/
def neighbours (ties : Ties) (num den : Nat) (e : Int) : Nat × Bool :=
  let (a, b) :=
    match e with
    | .ofNat k => (num, den * Nat.pow 10 k)
    | .negSucc k => (num * Nat.pow 10 (k + 1), den)
  (a / b, ties.above a b)

/-- Removes the zeros at the end of the digits; the bound is on their count. -/
def Scientific.trim : Nat → Scientific → Scientific
  | 0, s => s
  | n + 1, s =>
    if s.digits ≠ 0 ∧ s.digits % 10 = 0 then trim n ⟨s.digits / 10, s.exponent + 1⟩ else s

/-- Tries decimals with `n`, `n + 1`, … digits. -/
def search (ties : Ties) (i : Interval) (num den : Nat) (lead : Int) : (attempts n : Nat) → Scientific
  | 0, n => ⟨(neighbours ties (i.centre * num) den (lead - n + 1)).1, lead - n + 1⟩
  | attempts + 1, n =>
    let e := lead - n + 1
    let (below, up) := neighbours ties (i.centre * num) den e
    let hitBelow := i.contains num den below e
    let hitAbove := i.contains num den (below + 1) e
    if hitBelow && hitAbove then ⟨if up then below + 1 else below, e⟩
    else if hitBelow then ⟨below, e⟩
    else if hitAbove then ⟨below + 1, e⟩
    else search ties i num den lead attempts (n + 1)

/-- The shortest decimal that rounds to a finite positive number of the format. -/
def Format.shortest (f : Format) (ties : Ties) (significand : Nat) (exponent : Int) : Scientific :=
  if significand = 0 then ⟨0, 0⟩
  else
    let i := f.interval significand exponent
    let (num, den) :=
      match exponent with
      | .ofNat k => (Nat.pow 2 k, 4)
      | .negSucc k => (1, 4 * Nat.pow 2 (k + 1))
    (search ties i num den (leadingExponent (i.centre * num) den) 17 1).trim 18

end ServiceBindings.Decimal
