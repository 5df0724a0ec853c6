import NetImport.Number.Decimal

/-!
# Shortest decimal text

A double-precision number is written with the fewest decimal digits that read back to it, the
nearest such decimal when there are several. A single-precision number is first put on the coarsest
decimal grid, from six significant digits on, whose nearest point still narrows to it. The layout
record says where positional notation ends and how exponents and special values are spelled.
-/

namespace NetImport

structure Layout where
  /-- Numbers below ten to this power are written with an exponent. -/
  leastPositional : Int
  /-- Numbers from ten to this power on are written with an exponent. -/
  firstScientific : Int
  /-- The least number of digits of an exponent. -/
  exponentWidth : Nat
  infinity : String
  notANumber : String

/-- Descriptors write `0.0001` and `1e-05`, `1000000000000000.0` and `1e+16`, `inf` and `nan`. -/
def Layout.descriptor : Layout := ⟨-4, 16, 2, "inf", "nan"⟩

namespace Shortest

/--
The number of digits in front of the point: `10 ^ (order - 1) ≤ numerator / denominator < 10 ^
order`.
-/
def decimalOrder (numerator denominator : Nat) : Int :=
  let guess : Int := (Decimal.digitCount numerator : Int) - Decimal.digitCount denominator
  if denominator * Nat.pow 10 guess.toNat ≤ numerator * Nat.pow 10 (-guess).toNat then guess + 1
  else guess

/-- A point of a decimal grid. -/
structure GridPoint where
  digits : Nat
  exponent : Int
  deriving DecidableEq, Repr

/-- A quotient measured in units of a power of ten. -/
def inUnits (numerator denominator : Nat) (exponent : Int) : Nat × Nat :=
  (numerator * Nat.pow 10 (-exponent).toNat, denominator * Nat.pow 10 exponent.toNat)

/-- The point nearest to a quotient on the grid of a number of significant digits, ties to even. -/
def nearestPoint (numerator denominator significant : Nat) : GridPoint :=
  let exponent := decimalOrder numerator denominator - significant
  let (scaled, unit) := inUnits numerator denominator exponent
  ⟨nearestEven scaled unit, exponent⟩

/-- The points just below and just above a quotient on a grid, the nearer one first. -/
def neighbours (numerator denominator significant : Nat) : List GridPoint :=
  let exponent := decimalOrder numerator denominator - significant
  let (scaled, unit) := inUnits numerator denominator exponent
  let below := scaled / unit
  let nearest := nearestEven scaled unit
  let other := if nearest = below then below + 1 else below
  [⟨nearest, exponent⟩, ⟨other, exponent⟩]

/-- The shortest decimal that reads back to a finite positive magnitude of a format. -/
def shortestPoint (format : Format) (magnitude : Nat) : GridPoint :=
  let (numerator, denominator) := format.quotient magnitude
  let readsBack (point : GridPoint) : Bool :=
    Decimal.magnitudeIn format point.digits point.exponent = magnitude
  let found := (List.range 17).findSome? fun fewer =>
    (neighbours numerator denominator (fewer + 1)).find? readsBack
  found.getD (nearestPoint numerator denominator 17)

/-- Drops the zeros at the end of a list of digits. -/
def trimZeros (digits : List Char) : List Char :=
  (digits.reverse.dropWhile (· = '0')).reverse

/-- An exponent with its sign, padded to a width. -/
def exponentText (layout : Layout) (exponent : Int) : List Char :=
  let digits := Nat.toDigits 10 exponent.natAbs
  let sign := if exponent < 0 then '-' else '+'
  'e' :: sign :: (List.replicate (layout.exponentWidth - digits.length) '0' ++ digits)

/-- Lays out digits with the point after the given number of them. -/
def layOut (layout : Layout) (digits : List Char) (order : Int) : List Char :=
  if order ≤ layout.leastPositional ∨ layout.firstScientific < order then
    let head := digits.take 1
    let tail := digits.drop 1
    head ++ (if tail = [] then [] else '.' :: tail) ++ exponentText layout (order - 1)
  else if order ≤ 0 then
    '0' :: '.' :: (List.replicate (-order).toNat '0' ++ digits)
  else
    let whole := order.toNat
    let tail := digits.drop whole
    digits.take whole ++ List.replicate (whole - digits.length) '0' ++
      '.' :: (if tail = [] then ['0'] else tail)

def pointText (layout : Layout) (point : GridPoint) : List Char :=
  let digits := Nat.toDigits 10 point.digits
  layOut layout (trimZeros digits) (point.exponent + digits.length)

end Shortest

namespace Binary64

def text (number : Binary64) (layout : Layout) : List Char :=
  let sign := if number.isNegative then ['-'] else []
  if Format.double.infinity < number.magnitude then layout.notANumber.toList
  else if number.magnitude = Format.double.infinity then sign ++ layout.infinity.toList
  else if number.magnitude = 0 then sign ++ ['0', '.', '0']
  else sign ++ Shortest.pointText layout (Shortest.shortestPoint .double number.magnitude)

/--
The number that the shortest text of a number reads as, when that text is chosen for a narrower
format in which the number has a place.
-/
def respelled (number : Binary64) (format : Format) : Binary64 :=
  let magnitude := Format.double.convert format number.magnitude
  if magnitude = 0 ∨ format.infinity ≤ magnitude then number
  else
    let point := Shortest.shortestPoint format magnitude
    (Decimal.mk number.isNegative point.digits point.exponent).toBinary64

end Binary64

namespace Binary32

/-- The double-precision number whose text stands for a single-precision one. -/
def representative (number : Binary32) : Binary64 :=
  if number.magnitude = 0 ∨ Format.single.infinity ≤ number.magnitude then number.widen
  else
    let (numerator, denominator) := Format.single.quotient number.magnitude
    let candidates := [6, 7, 8, 9].map fun significant =>
      let point := Shortest.nearestPoint numerator denominator significant
      (Decimal.mk number.isNegative point.digits point.exponent).toBinary64
    (candidates.find? fun candidate => candidate.narrow = number).getD number.widen

def text (number : Binary32) (layout : Layout) : List Char := number.representative.text layout

end Binary32

end NetImport
