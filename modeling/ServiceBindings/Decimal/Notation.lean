import ServiceBindings.Decimal.Shortest

/-!
Two ways to write a number: positional, which never has an exponent, for path segments; and the one of JSON
documents, which turns to an exponent for very large and very small numbers.
-/

namespace ServiceBindings.Decimal

/-- A run of zeros. -/
def zeros (n : Nat) : String :=
  String.ofList (List.replicate n '0')

/-- The digits of a decimal with the point in its place, and no point after an integer. -/
def Scientific.positional (s : Scientific) : String :=
  match s.exponent with
  | .ofNat k => if s.digits = 0 then "0" else toString s.digits ++ zeros k
  | .negSucc k =>
    let ds := Nat.toDigits 10 s.digits
    let places := k + 1
    if places < ds.length then
      String.ofList (ds.take (ds.length - places)) ++ "." ++ String.ofList (ds.drop (ds.length - places))
    else "0." ++ zeros (places - ds.length) ++ String.ofList ds

/-- The exponent of the first digit. -/
def Scientific.leading (s : Scientific) : Int :=
  s.exponent + digitCount s.digits - 1

/-- An exponent with its sign and at least two digits. -/
def exponentText (e : Int) : String :=
  let ds := toString e.natAbs
  (if e < 0 then "-" else "+") ++ (if e.natAbs < 10 then "0" ++ ds else ds)

/-- The form for JSON documents: positional with at least one decimal place when the first digit is between `1e-5`
and `1e15`, otherwise one digit before the point and an exponent. -/
def Scientific.document (s : Scientific) : String :=
  if -5 ≤ s.leading ∧ s.leading ≤ 15 then
    if 0 ≤ s.exponent then s.positional ++ ".0" else s.positional
  else
    let mantissa :=
      match Nat.toDigits 10 s.digits with
      | [] => ""
      | [d] => d.toString
      | d :: ds => d.toString ++ "." ++ String.ofList ds
    mantissa ++ "e" ++ exponentText s.leading

/-- The sign of a number in front of its text. -/
def signed (negative : Bool) (text : String) : String :=
  if negative then "-" ++ text else text

/-- A number in positional form, in full length however large or small it is. -/
def Format.display (f : Format) (bits : Nat) : String :=
  let (negative, size) := f.split bits
  match f.magnitude size with
  | .notANumber => "NaN"
  | .infinite => signed negative "inf"
  | .finite m q => signed negative (f.shortest .up m q).positional

/-- A number as it stands in a JSON document, which has no text for infinity and what is not a number. -/
def Format.json (f : Format) (bits : Nat) : String :=
  let (negative, size) := f.split bits
  match f.magnitude size with
  | .notANumber | .infinite => "null"
  | .finite m q => signed negative (f.shortest .toEven m q).document

end ServiceBindings.Decimal
