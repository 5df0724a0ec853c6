import NetImport.Number.Format

/-!
# Numbers of single, double and extended precision

Numbers of each precision are held by their bit patterns, so that every pattern survives storage and
equality is equality of patterns. Narrowing rounds to nearest with ties to even; widening is exact.
-/

namespace NetImport

/-- A single-precision number, by its bits. -/
structure Binary32 where
  bits : UInt32
  deriving DecidableEq, Repr, Inhabited

/-- A double-precision number, by its bits. -/
structure Binary64 where
  bits : UInt64
  deriving DecidableEq, Repr, Inhabited

/-- A number of extended precision, by its bits without the leading one of the significand. -/
structure Extended where
  bits : BitVec 79
  deriving DecidableEq, Repr

namespace Binary32

/-- The leading bit, which holds the sign. -/
def signBit : Nat := 0x80000000

/-- A number is negative when its leading bit is set; this includes negative zero. -/
def isNegative (number : Binary32) : Bool := signBit ≤ number.bits.toNat

def magnitude (number : Binary32) : Nat := number.bits.toNat % signBit

/-- The number with a given sign and magnitude. -/
def ofMagnitude (negative : Bool) (magnitude : Nat) : Binary32 :=
  ⟨UInt32.ofNat ((if negative then signBit else 0) + magnitude)⟩

/-- The single-precision number nearest to an integer. -/
def ofInt (integer : Int) : Binary32 :=
  .ofMagnitude (integer < 0) (Format.single.round integer.natAbs 1)

def zero : Binary32 := ⟨0⟩

def one : Binary32 := ⟨0x3f800000⟩

end Binary32

namespace Binary64

/-- The leading bit, which holds the sign. -/
def signBit : Nat := 0x8000000000000000

/-- A number is negative when its leading bit is set; this includes negative zero. -/
def isNegative (number : Binary64) : Bool := signBit ≤ number.bits.toNat

def magnitude (number : Binary64) : Nat := number.bits.toNat % signBit

/-- The number with a given sign and magnitude. -/
def ofMagnitude (negative : Bool) (magnitude : Nat) : Binary64 :=
  ⟨UInt64.ofNat ((if negative then signBit else 0) + magnitude)⟩

/-- A number is finite when it is neither infinite nor a pattern that is not a number. -/
def isFinite (number : Binary64) : Bool := number.magnitude < Format.double.infinity

/-- The single-precision number nearest to a double-precision one. -/
def narrow (number : Binary64) : Binary32 :=
  .ofMagnitude number.isNegative (Format.double.convert Format.single number.magnitude)

/-- The double-precision number nearest to an integer. -/
def ofInt (integer : Int) : Binary64 :=
  .ofMagnitude (integer < 0) (Format.double.round integer.natAbs 1)

/-- The whole part of a finite number, cut toward zero. -/
def truncate (number : Binary64) : Int :=
  let (numerator, denominator) := Format.double.quotient number.magnitude
  let whole : Nat := numerator / denominator
  if number.isNegative then -whole else whole

end Binary64

namespace Extended

/-- The leading bit, which holds the sign. -/
def signBit : Nat := 0x40000000000000000000

/-- A number is negative when its leading bit is set; this includes negative zero. -/
def isNegative (number : Extended) : Bool := signBit ≤ number.bits.toNat

def magnitude (number : Extended) : Nat := number.bits.toNat % signBit

/-- The number with a given sign and magnitude. -/
def ofMagnitude (negative : Bool) (magnitude : Nat) : Extended :=
  ⟨.ofNat 79 ((if negative then signBit else 0) + magnitude)⟩

def isFinite (number : Extended) : Bool := number.magnitude < Format.extended.infinity

/-- The number of extended precision that is nearest to an integer. -/
def ofInt (integer : Int) : Extended :=
  .ofMagnitude (integer < 0) (Format.extended.round integer.natAbs 1)

/-- The single-precision number nearest to one of extended precision. -/
def toSingle (number : Extended) : Binary32 :=
  .ofMagnitude number.isNegative (Format.extended.convert Format.single number.magnitude)

/-- The double-precision number nearest to one of extended precision. -/
def toDouble (number : Extended) : Binary64 :=
  .ofMagnitude number.isNegative (Format.extended.convert Format.double number.magnitude)

/-- The whole part of a finite number, cut toward zero. -/
def truncate (number : Extended) : Int :=
  let (numerator, denominator) := Format.extended.quotient number.magnitude
  let whole : Nat := numerator / denominator
  if number.isNegative then -whole else whole

end Extended

/-- The number of extended precision that is equal to a double-precision one. -/
def Binary64.extend (number : Binary64) : Extended :=
  .ofMagnitude number.isNegative (Format.double.convert Format.extended number.magnitude)

/-- The double-precision number equal to a single-precision one. -/
def Binary32.widen (number : Binary32) : Binary64 :=
  .ofMagnitude number.isNegative (Format.single.convert Format.double number.magnitude)

end NetImport
