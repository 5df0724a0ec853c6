/-!
# Digits

The value of a character as a digit: in a base up to sixteen with letters of either case, and as a
decimal digit of any script. The decimal digits of a script are ten consecutive characters, so that
the table lists the zeros; it is the one of Unicode 14.
-/

namespace NetImport.Text

/-- The value of an ASCII digit or letter in a base up to sixteen. -/
def digitValue? (base : Nat) (character : Char) : Option Nat :=
  let value? :=
    if '0' ≤ character ∧ character ≤ '9' then some (character.toNat - '0'.toNat)
    else if 'a' ≤ character ∧ character ≤ 'f' then some (character.toNat - 'a'.toNat + 10)
    else if 'A' ≤ character ∧ character ≤ 'F' then some (character.toNat - 'A'.toNat + 10)
    else none
  value?.filter (· < base)

/-- Whether a character is a digit in a base up to sixteen. -/
def isDigitIn (base : Nat) (character : Char) : Bool := (digitValue? base character).isSome

/-- The number written by digits of a base, the first one being the most significant. -/
def ofDigits (base : Nat) (digits : List Nat) : Nat :=
  digits.foldl (fun number digit => base * number + digit) 0

/-- The bytes written by pairs of hexadecimal digits; a single digit at the end is dropped. -/
def hexBytes : List Char → List UInt8
  | high :: low :: rest =>
    .ofNat (ofDigits 16 ([high, low].filterMap (digitValue? 16))) :: hexBytes rest
  | _ => []

/-- Whether a character may stand in front of an integer: the blanks of ASCII but its separators. -/
def isLeadingBlank (character : Char) : Bool :=
  character = ' ' || (0x9 ≤ character.toNat && character.toNat ≤ 0xd)

/--
The integer at the start of a text, behind blanks and an optional sign, with what follows it; there
must be at least one digit.
-/
def leadingInteger? (characters : List Char) : Option (Int × List Char) :=
  let trimmed := characters.dropWhile isLeadingBlank
  let (sign, rest) : Int × List Char :=
    match trimmed with
    | '-' :: rest => (-1, rest)
    | '+' :: rest => (1, rest)
    | rest => (1, rest)
  match (rest.takeWhile Char.isDigit).filterMap (digitValue? 10) with
  | [] => none
  | digits => some (sign * ofDigits 10 digits, rest.dropWhile Char.isDigit)

/-- The digit zero of every script that has decimal digits. -/
def decimalZeros : List Nat :=
  [0x30, 0x660, 0x6f0, 0x7c0, 0x966, 0x9e6, 0xa66, 0xae6, 0xb66, 0xbe6, 0xc66, 0xce6, 0xd66, 0xde6,
    0xe50, 0xed0, 0xf20, 0x1040, 0x1090, 0x17e0, 0x1810, 0x1946, 0x19d0, 0x1a80, 0x1a90, 0x1b50,
    0x1bb0, 0x1c40, 0x1c50, 0xa620, 0xa8d0, 0xa900, 0xa9d0, 0xa9f0, 0xaa50, 0xabf0, 0xff10, 0x104a0,
    0x10d30, 0x11066, 0x110f0, 0x11136, 0x111d0, 0x112f0, 0x11450, 0x114d0, 0x11650, 0x116c0,
    0x11730, 0x118e0, 0x11950, 0x11c50, 0x11d50, 0x11da0, 0x16a60, 0x16ac0, 0x16b50, 0x1d7ce,
    0x1d7d8, 0x1d7e2, 0x1d7ec, 0x1d7f6, 0x1e140, 0x1e2f0, 0x1e950, 0x1fbf0]

/-- The value of a decimal digit of any script. -/
def decimalValue? (character : Char) : Option Nat :=
  decimalZeros.findSome? fun first =>
    if first ≤ character.toNat ∧ character.toNat < first + 10 then some (character.toNat - first)
    else none

/-- A decimal digit of any script as the ASCII digit of its value; other characters stay. -/
def asciiDigit (character : Char) : Char :=
  match decimalValue? character with
  | some value => Nat.digitChar value
  | none => character

end NetImport.Text
