import ServiceBindings.Decimal.Notation
import ServiceBindings.Proofs.Decimal.Shortest

/-!
How floating point numbers are written in paths: without an exponent, with the shortest digits that are read as the
number again.
-/

namespace ServiceBindings.Decimal

/-! ### Numerals -/

/-- The other bits of a floating point number. -/
def Format.pattern (f : Format) (bits : Nat) : Nat :=
  bits % 2 ^ (f.fractionBits + f.exponentBits)

end ServiceBindings.Decimal
