import NetImport.Number.Decimal
import NetImport.Text.Blank
import NetImport.Text.Digit

/-!
# Decimal numerals

A numeral is written in decimal digits with an optional sign, fraction and exponent, or it names
infinity or what is not a number; single underscores may stand between digits. Numerals that are
values of their own may have padding around them and digits of any script.
-/

namespace NetImport.Numeral

open NetImport.Text

/-- Splits a sign from a numeral; the flag says whether it is a minus. -/
def splitSign : List Char → Bool × List Char
  | '-' :: rest => (true, rest)
  | '+' :: rest => (false, rest)
  | characters => (false, characters)

/-- Removes underscores, each of which must stand between two decimal digits. -/
def dropUnderscores : List Char → Option (List Char)
  | [] => some []
  | '_' :: _ => none
  | character :: '_' :: digit :: rest =>
    if character.isDigit && digit.isDigit then
      (dropUnderscores (digit :: rest)).map (character :: ·)
    else none
  | character :: rest => (dropUnderscores rest).map (character :: ·)

/-- The value of an exponent part, which may be missing altogether. -/
def exponent? : List Char → Option Int
  | [] => some 0
  | letter :: rest =>
    if letter = 'e' ∨ letter = 'E' then do
      let (negative, digits) := splitSign rest
      if digits = [] then none
      else
        let number : Int := ofDigits 10 (← digits.mapM (digitValue? 10))
        return if negative then -number else number
    else none

/-- The decimal of a numeral without a sign: digits with a point among them, then an exponent. -/
def decimal? (negative : Bool) (characters : List Char) : Option Decimal :=
  let whole := characters.takeWhile Char.isDigit
  let behind := characters.dropWhile Char.isDigit
  let (fraction, rest) :=
    match behind with
    | '.' :: tail => (tail.takeWhile Char.isDigit, tail.dropWhile Char.isDigit)
    | _ => ([], behind)
  if whole ++ fraction = [] then none
  else do
    let exponent ← exponent? rest
    let digits ← (whole ++ fraction).mapM (digitValue? 10)
    return ⟨negative, ofDigits 10 digits, exponent - fraction.length⟩

def infinity (negative : Bool) : Binary64 := .ofMagnitude negative Format.double.infinity

/-- What is not a number, with a sign. -/
def notANumber (negative : Bool) : Binary64 :=
  .ofMagnitude negative (Format.double.infinity + 0x8000000000000)

/-- Lower case for the letters of ASCII. -/
def lower (characters : List Char) : List Char := characters.map Char.toLower

/-- The number of a numeral without a trailing letter. -/
def plainFloat? (characters : List Char) : Option Binary64 :=
  let (negative, rest) := splitSign characters
  let word := lower rest
  if word = "inf".toList ∨ word = "infinity".toList then some (infinity negative)
  else if word = "nan".toList then some (notANumber negative)
  else do
    let decimal ← decimal? negative (← dropUnderscores rest)
    return decimal.toBinary64

/-- Whether a character may stand around a numeral: any blank but the separators of ASCII. -/
def isPadding (character : Char) : Bool :=
  isBlank character && !(0x1c ≤ character.toNat && character.toNat ≤ 0x1f)

/-- The number of a text that is a numeral with padding, in digits of any script. -/
def ofText? (characters : List Char) : Option Binary64 :=
  let trimmed := ((characters.dropWhile isPadding).reverse.dropWhile isPadding).reverse
  plainFloat? (trimmed.map asciiDigit)

def isAscii (bytes : List UInt8) : Bool := bytes.all fun byte => byte.toNat < 0x80

/-- The number of a numeral with padding that is given as bytes. -/
def ofBytes? (bytes : List UInt8) : Option Binary64 :=
  if isAscii bytes then ofText? (bytes.map fun byte => Char.ofNat byte.toNat) else none

end NetImport.Numeral
