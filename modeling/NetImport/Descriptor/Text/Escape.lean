import NetImport.Text.CharacterName
import NetImport.Text.Digit
import NetImport.Text.Quoted
import NetImport.Text.Utf8

/-!
# Escapes in quoted text

Strings and bytes stand between double quotation marks. When written, the usual control characters
and both marks have short escapes and every other byte outside the printable ASCII range is written
by three octal digits; text keeps its characters beyond ASCII, and a byte in it that is not part of
a character is written by octal digits too. When read, an escape may also give a byte by hexadecimal
digits or by the name of a character, or a character by its number, and an escape without a meaning
stands for itself.

Reading works in three passes. The first completes hexadecimal escapes of one digit; the second
resolves character numbers, taking backslashes in pairs from the left; the third resolves the
remaining escapes over the UTF-8 bytes of the result, where a number above 255 does not fit.
-/

namespace NetImport.Descriptor

open NetImport.Text

/-! ## Writing -/

/-- A byte by three octal digits. -/
def octalEscape (byte : Nat) : List Char :=
  ['\\', Nat.digitChar (byte / 64), Nat.digitChar (byte / 8 % 8), Nat.digitChar (byte % 8)]

/-- The written form of a character or byte of the ASCII range, given its number. -/
def escapeAscii (number : Nat) : List Char :=
  if number = 10 then ['\\', 'n']
  else if number = 13 then ['\\', 'r']
  else if number = 9 then ['\\', 't']
  else if number = 34 then ['\\', '"']
  else if number = 39 then ['\\', '\'']
  else if number = 92 then ['\\', '\\']
  else if number < 32 ∨ number = 127 then octalEscape number
  else [Char.ofNat number]

/-- The written form of one character of a string. -/
def escapeChar (character : Char) : List Char :=
  if character.toNat < 128 then escapeAscii character.toNat else [character]

def escapeByte (byte : UInt8) : List Char :=
  if byte.toNat < 128 then escapeAscii byte.toNat else octalEscape byte.toNat

def quoteText (text : String) : List Char := '"' :: text.toList.flatMap escapeChar ++ ['"']

def quoteBytes (bytes : List UInt8) : List Char := '"' :: bytes.flatMap escapeByte ++ ['"']

/-- The character at the front of some bytes and the number of bytes that it takes. -/
def leadingChar? (bytes : List UInt8) : Option (Char × Nat) :=
  [1, 2, 3, 4].findSome? fun width =>
    match (decodeUtf8? (bytes.take width)).map String.toList with
    | some [character] => some (character, width)
    | _ => none

/-- The written form of bytes of which some may not be part of a character. -/
def escapeMixed : List UInt8 → List Char
  | [] => []
  | byte :: rest =>
    match leadingChar? (byte :: rest) with
    | some (character, width) => escapeChar character ++ escapeMixed (rest.drop (width - 1))
    | none => escapeByte byte ++ escapeMixed rest
termination_by bytes => bytes.length
decreasing_by
  all_goals simp only [List.length_cons, List.length_drop]
  all_goals omega

/-- Bytes of which some may not be part of a character, between quotation marks. -/
def quoteMixed (bytes : List UInt8) : List Char := '"' :: escapeMixed bytes ++ ['"']

/-! ## Reading -/

/-- Whether a text begins with one hexadecimal digit that no other one follows. -/
def startsSingleHex : List Char → Bool
  | first :: second :: _ => isDigitIn 16 first && !isDigitIn 16 second
  | [only] => isDigitIn 16 only
  | [] => false

/--
Completes hexadecimal escapes of one digit by a zero. The flag says whether an odd number of
backslashes stands directly in front, so that the next character is escaped.
-/
def completeHex : Bool → List Char → List Char
  | _, [] => []
  | escaped, character :: rest =>
    if character = '\\' then '\\' :: completeHex (!escaped) rest
    else if escaped && character = 'x' && startsSingleHex rest then
      'x' :: '0' :: completeHex false rest
    else character :: completeHex false rest

/-- The character numbered by some hexadecimal digits, if they all are digits and it exists. -/
def characterOfHex? (digits : List Char) : Option Char := do
  let number := ofDigits 16 (← digits.mapM (digitValue? 16))
  if number < 0xd800 ∨ (0xdfff < number ∧ number < 0x110000) then some (Char.ofNat number) else none

/--
Resolves characters given by four or eight digits. A backslash in front of a character beyond the
first 256 does not belong to an escape: the pair stands for a backslash and the number escape of
that character, letter by letter.
-/
def resolveNumbers : List Char → Option (List Char)
  | '\\' :: 'u' :: a :: b :: c :: d :: rest => do
    return (← characterOfHex? [a, b, c, d]) :: (← resolveNumbers rest)
  | '\\' :: 'U' :: a :: b :: c :: d :: e :: f :: g :: h :: rest => do
    return (← characterOfHex? [a, b, c, d, e, f, g, h]) :: (← resolveNumbers rest)
  | '\\' :: character :: rest =>
    if character = 'u' ∨ character = 'U' then none
    else do
      let others ← resolveNumbers rest
      if character.toNat < 256 then return '\\' :: character :: others
      else return '\\' :: numberEscape character ++ others
  | character :: rest => do return character :: (← resolveNumbers rest)
  | [] => some []

/-- The byte that a character stands for after a backslash, for the escapes of one character. -/
def simpleEscape? (byte : UInt8) : Option UInt8 :=
  [('\\', 92), ('\'', 39), ('"', 34), ('a', 7), ('b', 8), ('f', 12), ('n', 10), ('r', 13), ('t', 9),
    ('v', 11)].lookup (Char.ofNat byte.toNat)

/-- The hexadecimal number in the first bytes, if there are enough of them and all are digits. -/
def hexNumber? (count : Nat) (bytes : List UInt8) : Option Nat := do
  let digits := (bytes.take count).map fun byte => Char.ofNat byte.toNat
  if digits.length < count then none
  else return ofDigits 16 (← digits.mapM (digitValue? 16))

/-- The octal digits at the front, at most three of them. -/
def octalDigits (bytes : List UInt8) : List Nat :=
  ((bytes.take 3).map fun byte => digitValue? 8 (Char.ofNat byte.toNat)).takeWhile Option.isSome
    |>.filterMap id

/--
The byte that an escape by name denotes, given the bytes behind its letter, and the number of bytes
that the escape takes. The name stands between braces.
-/
def namedEscape? : List UInt8 → Option (List UInt8 × Nat)
  | 0x7b :: rest => do
    let name := rest.takeWhile (· ≠ 0x7d)
    if name.length = rest.length then none
    else
      let number ← codePointNamed? (name.map fun byte => Char.ofNat byte.toNat)
      return ([UInt8.ofNat number], name.length + 3)
  | _ => none

/--
What an escape denotes, given the bytes behind its backslash: the denoted bytes and the number of
bytes that the escape takes.
-/
def escapeAt? (bytes : List UInt8) : Option (List UInt8 × Nat) :=
  match bytes with
  | [] => none
  | byte :: rest =>
    let character := Char.ofNat byte.toNat
    let numbered (count : Nat) : Option (List UInt8 × Nat) := do
      let number ← hexNumber? count rest
      if number < 256 then return ([UInt8.ofNat number], count + 1) else none
    if character = '\n' then some ([], 1)
    else if character = 'x' then numbered 2
    else if character = 'u' then numbered 4
    else if character = 'U' then numbered 8
    else if character = 'N' then namedEscape? rest
    else if isDigitIn 8 character then
      let digits := octalDigits bytes
      let number := ofDigits 8 digits
      if number < 256 then some ([UInt8.ofNat number], digits.length) else none
    else
      match simpleEscape? byte with
      | some denoted => some ([denoted], 1)
      | none => some ([92, byte], 1)

def resolveEscapes : List UInt8 → Option (List UInt8)
  | [] => some []
  | byte :: rest =>
    if byte = 92 then
      match escapeAt? rest with
      | none => none
      | some (denoted, taken) => (resolveEscapes (rest.drop taken)).map (denoted ++ ·)
    else (resolveEscapes rest).map (byte :: ·)
termination_by bytes => bytes.length
decreasing_by
  all_goals simp only [List.length_cons, List.length_drop]
  all_goals omega

/-- The bytes that the inside of a quoted token denotes. -/
def unescape (characters : List Char) : Option (List UInt8) := do
  let resolved ← resolveNumbers (completeHex false characters)
  resolveEscapes (encodeUtf8 (String.ofList resolved))

end NetImport.Descriptor
