import NetImport.Number.Binary

/-!
# Decimal numbers

A decimal is a sign, a whole number of digits and a power of ten. It denotes the double-precision
number nearest to it. Powers of ten far outside the range of the format are settled by the count of
digits alone.
-/

namespace NetImport

/-- The decimal `± digits * 10 ^ exponent`. -/
structure Decimal where
  negative : Bool
  digits : Nat
  exponent : Int
  deriving DecidableEq, Repr

namespace Decimal

/-- The number of decimal digits of a natural number; zero has one. -/
def digitCount (number : Nat) : Nat := (Nat.toDigits 10 number).length

/--
The magnitude nearest to `digits * 10 ^ exponent` in a format that is no wider than double
precision.
-/
def magnitudeIn (format : Format) (digits : Nat) (exponent : Int) : Nat :=
  let order := exponent + digitCount digits
  if digits = 0 ∨ order < -330 then 0
  else if 311 < order then format.infinity
  else format.round (digits * Nat.pow 10 exponent.toNat) (Nat.pow 10 (-exponent).toNat)

/-- The double-precision number nearest to a decimal. -/
def toBinary64 (decimal : Decimal) : Binary64 :=
  .ofMagnitude decimal.negative (magnitudeIn .double decimal.digits decimal.exponent)

end Decimal

end NetImport
