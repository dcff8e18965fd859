import ServiceBindings.Decimal.Notation

/-!
Values that become segments of a path.
-/

namespace ServiceBindings

/-- A value in a path. Floating point numbers are given by their bits. -/
inductive SegmentValue
  | text (value : String)
  | flag (value : Bool)
  | integer (value : Int)
  | double (bits : Nat)
  | single (bits : Nat)
  deriving DecidableEq, Repr

/-- The segment that a value becomes. No number has an exponent. -/
def SegmentValue.segment : SegmentValue → String
  | .text s => s
  | .flag b => if b then "true" else "false"
  | .integer n => toString n
  | .double bits => Decimal.Format.double.display bits
  | .single bits => Decimal.Format.single.display bits

end ServiceBindings
