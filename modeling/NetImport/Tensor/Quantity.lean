import NetImport.Number.Binary

/-!
# Quantities

A quantity is a number as it is handed over for storage: a number of double or of extended
precision, or an integer of any size. It can be rounded to each precision, in one step, and cut to
its whole part.
-/

namespace NetImport

/-- A number of some precision, or an integer. -/
inductive Quantity where
  | double (number : Binary64)
  | extended (number : Extended)
  | whole (value : Int)
  deriving DecidableEq, Repr

namespace Quantity

/-- The single-precision number nearest to a quantity. -/
def toSingle : Quantity → Binary32
  | double number => number.narrow
  | extended number => number.toSingle
  | whole value => .ofInt value

/-- The double-precision number nearest to a quantity. -/
def toDouble : Quantity → Binary64
  | double number => number
  | extended number => number.toDouble
  | whole value => .ofInt value

/-- The number of extended precision that is nearest to a quantity. -/
def toExtended : Quantity → Extended
  | double number => number.extend
  | extended number => number
  | whole value => .ofInt value

/-- The whole part of a quantity, cut toward zero, if it is finite. -/
def whole? : Quantity → Option Int
  | double number => if number.isFinite then some number.truncate else none
  | extended number => if number.isFinite then some number.truncate else none
  | whole value => some value

def isZero : Quantity → Bool
  | double number => number.magnitude = 0
  | extended number => number.magnitude = 0
  | whole value => value = 0

/-- Whether a quantity has a bit that is set, as negative zero has. -/
def hasBit : Quantity → Bool
  | double number => number.bits ≠ 0
  | extended number => number.bits ≠ 0
  | whole value => value ≠ 0

end Quantity

end NetImport
