import NetImport.Number.Numeral
import NetImport.Number.Word

/-!
# Numerals of the text format

Integers are written in decimal, or with a letter after a leading zero in bases sixteen, eight and
two; a single underscore may stand between digits. A decimal numeral has no leading zero unless it
is zero, nor more digits than decimal integers may have, but an integer field also reads a zero
followed by digits as base eight, however many. Floating-point numerals are decimal, with an
optional fraction, exponent and trailing letter `f`, or name infinity or what is not a number.
-/

namespace NetImport.Descriptor.Numeral

open NetImport.Text NetImport.Numeral

/-- The values of digits of a base, where a single underscore may stand between two digits. -/
def digits? (base : Nat) : List Char → Option (List Nat)
  | [] => none
  | [only] => do return [← digitValue? base only]
  | character :: '_' :: rest => do return (← digitValue? base character) :: (← digits? base rest)
  | character :: rest => do return (← digitValue? base character) :: (← digits? base rest)

/-- The natural number of a numeral without a sign. -/
def natural? (characters : List Char) : Option Nat :=
  let inBase (base : Nat) (digits : List Char) : Option Nat :=
    (digits? base (if digits.head? = some '_' then digits.drop 1 else digits)).map (ofDigits base)
  match characters with
  | '0' :: 'x' :: rest | '0' :: 'X' :: rest => inBase 16 rest
  | '0' :: 'o' :: rest | '0' :: 'O' :: rest => inBase 8 rest
  | '0' :: 'b' :: rest | '0' :: 'B' :: rest => inBase 2 rest
  | characters => do
    let digits ← digits? 10 characters
    if maximalDigits < digits.length ∨ digits.head? = some 0 ∧ digits.any (· ≠ 0) then none
    else return ofDigits 10 digits

/-- The integer of a numeral with an optional sign. -/
def signed? (characters : List Char) : Option Int := do
  let (negative, rest) := splitSign characters
  let number ← natural? rest
  return if negative then -number else number

def splitMinus : List Char → Bool × List Char
  | '-' :: rest => (true, rest)
  | characters => (false, characters)

/--
The integer of a numeral in an integer field: without a plus sign, a zero that digits follow is read
in base eight.
-/
def integer? (characters : List Char) : Option Int :=
  match splitMinus characters with
  | (negative, '0' :: digit :: digits) =>
    if (digit :: digits).all Char.isDigit then do
      let values ← (digit :: digits).mapM (digitValue? 8)
      let number : Int := ofDigits 8 values
      return if negative then -number else number
    else signed? characters
  | _ => signed? characters

/-- A numeral that starts with a zero before another digit, with no sign but a minus. -/
def hasLeadingZero (characters : List Char) : Bool :=
  match (splitMinus characters).2 with
  | '0' :: digit :: _ => digit.isDigit
  | _ => false

/-- Drops every letter `f` at the end. -/
def dropTrailingF (characters : List Char) : List Char :=
  (characters.reverse.dropWhile fun character => character = 'f' || character = 'F').reverse

/-- The number of a numeral in a floating-point field. -/
def float? (characters : List Char) : Option Binary64 :=
  if hasLeadingZero characters then none
  else
    match plainFloat? characters with
    | some number => some number
    | none =>
      let (negative, rest) := splitMinus characters
      let word := lower rest
      if word = "inff".toList ∨ word = "infinityf".toList then some (infinity negative)
      else if !negative ∧ word = "nanf".toList then some (notANumber false)
      else plainFloat? (dropTrailingF characters)

end NetImport.Descriptor.Numeral
