/-!
# Binary floating-point formats

A format fixes how many bits a significand has, which power of two divides every finite number, and
where the infinite magnitudes begin. A magnitude is the bit pattern without its sign. Magnitudes are
ordered as the numbers they stand for, so that one exact rounding of a quotient of naturals serves
every format, subnormal and overflowing results included.
-/

namespace NetImport

/--
The power of two in which a positive quotient lies: `2 ^ e ≤ numerator / denominator < 2 ^ (e +
1)`.
-/
def binaryExponent (numerator denominator : Nat) : Int :=
  let guess : Int := (numerator.log2 : Int) - denominator.log2
  if denominator <<< guess.toNat ≤ numerator <<< (-guess).toNat then guess else guess - 1

/-- The whole number nearest to a quotient, a half going to the even neighbour. -/
def nearestEven (numerator denominator : Nat) : Nat :=
  let below := numerator / denominator
  let twice := 2 * (numerator % denominator)
  if twice < denominator then below
  else if denominator < twice then below + 1
  else below + below % 2

structure Format where
  /-- The number of significant bits of a normal number. -/
  precision : Nat
  /-- Every finite number is a multiple of two to this power. -/
  leastExponent : Int
  /-- The magnitude of infinity; larger magnitudes are not numbers. -/
  infinity : Nat
  deriving DecidableEq, Repr

namespace Format

/-- Half precision: sixteen bits. -/
def half : Format := ⟨11, -24, 0x7c00⟩

/-- Single precision: thirty-two bits. -/
def single : Format := ⟨24, -149, 0x7f800000⟩

/-- Double precision: sixty-four bits. -/
def double : Format := ⟨53, -1074, 0x7ff0000000000000⟩

/-- Extended precision: seventy-nine bits, and the leading bit of the significand besides. -/
def extended : Format := ⟨64, -16445, 0x3fff8000000000000000⟩

/-- The magnitude nearest to a quotient, a half going to the even neighbour. -/
def round (format : Format) (numerator denominator : Nat) : Nat :=
  if numerator = 0 then 0
  else
    let exponent :=
      max format.leastExponent (binaryExponent numerator denominator - (format.precision - 1 : Nat))
    let significand :=
      nearestEven (numerator <<< (-exponent).toNat) (denominator <<< exponent.toNat)
    let steps := (exponent - format.leastExponent).toNat
    min ((steps <<< (format.precision - 1)) + significand) format.infinity

/-- The whole significand and the power of two of a finite magnitude. -/
def decode (format : Format) (magnitude : Nat) : Nat × Int :=
  let hidden : Nat := 1 <<< (format.precision - 1)
  let steps := magnitude / hidden
  if steps = 0 then (magnitude, format.leastExponent)
  else (hidden + magnitude % hidden, format.leastExponent + (steps - 1 : Nat))

/-- A finite magnitude as a quotient of naturals. -/
def quotient (format : Format) (magnitude : Nat) : Nat × Nat :=
  let (significand, exponent) := format.decode magnitude
  (significand <<< exponent.toNat, 1 <<< (-exponent).toNat)

/--
The magnitude of another format that is nearest to a given one. Infinity stays infinite. What is not
a number stays so: it becomes quiet and keeps the leading bits of its payload.
-/
def convert (source target : Format) (magnitude : Nat) : Nat :=
  if magnitude < source.infinity then
    let (numerator, denominator) := source.quotient magnitude
    target.round numerator denominator
  else if magnitude = source.infinity then target.infinity
  else
    let payload := magnitude - source.infinity
    let moved :=
      (payload <<< (target.precision - source.precision)) >>> (source.precision - target.precision)
    let quiet : Nat := 1 <<< (target.precision - 2)
    target.infinity + quiet + moved % quiet

end Format

end NetImport
