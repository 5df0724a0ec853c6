import NetImport.Text.Printable

/-!
# Quoted names

Names appear in messages between quotation marks. The single mark is the default; a name that holds
a single mark and no double one is put between double marks. The backslash, the chosen mark, line
feed, carriage return and tab have short escapes; any other unprintable character is written by its
number in two, four or eight hexadecimal digits.

Raw bytes are quoted the same way behind the letter `b`, each byte outside the printable ASCII range
being written by its number.
-/

namespace NetImport.Text

/-- The lower-case hexadecimal digits of a number, with zeros in front up to a width. -/
def hexadecimal (width number : Nat) : List Char :=
  let digits := Nat.toDigits 16 number
  List.replicate (width - digits.length) '0' ++ digits

/-- The number escape of a character takes the shortest of the three widths that holds it. -/
def numberEscape (character : Char) : List Char :=
  let number := character.toNat
  if number < 0x100 then '\\' :: 'x' :: hexadecimal 2 number
  else if number < 0x10000 then '\\' :: 'u' :: hexadecimal 4 number
  else '\\' :: 'U' :: hexadecimal 8 number

/-- One character of a quoted name, given the mark that delimits it. -/
def quoteChar (delimiter character : Char) : List Char :=
  if character = delimiter ∨ character = '\\' then ['\\', character]
  else if character = '\n' then ['\\', 'n']
  else if character = '\r' then ['\\', 'r']
  else if character = '\t' then ['\\', 't']
  else if isPrintable character then [character]
  else numberEscape character

def quoteByte (delimiter : Char) (byte : UInt8) : List Char :=
  if byte.toNat < 0x80 then quoteChar delimiter (Char.ofNat byte.toNat)
  else '\\' :: 'x' :: hexadecimal 2 byte.toNat

/-- The mark around a name is single unless the name holds a single mark and no double one. -/
def delimiter (name : List Char) : Char :=
  if '\'' ∈ name ∧ '"' ∉ name then '"' else '\''

def quote (name : String) : String :=
  let characters := name.toList
  let mark := delimiter characters
  String.ofList (mark :: characters.flatMap (quoteChar mark) ++ [mark])

def quoteRaw (bytes : List UInt8) : String :=
  let mark := delimiter (bytes.map fun byte => Char.ofNat byte.toNat)
  String.ofList ('b' :: mark :: bytes.flatMap (quoteByte mark) ++ [mark])

end NetImport.Text
