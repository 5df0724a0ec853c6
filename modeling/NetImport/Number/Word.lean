/-!
# Machine words

Descriptors and storage count in words of 64 bits, and in places of 32 bits. Half of the words stand
for themselves as signed integers; the other half stands for the negative ones. Integers that are
read or written in decimal are unbounded, but have a limited number of digits.
-/

namespace NetImport

def shortWordCount : Nat := 0x100000000

def wordCount : Nat := 0x10000000000000000

/-- The integer that a word denotes in two's complement, given how many words there are. -/
def signedOfWord (count word : Nat) : Int :=
  let low := word % count
  if 2 * low < count then low else (low : Int) - count

/-- A word of some bytes with its bytes in the reversed order. -/
def reverseBytes (byteCount word : Nat) : Nat :=
  (List.range byteCount).foldl (fun reversed place => reversed * 256 + (word >>> (8 * place)) % 256)
    0

/-- Whether an integer fits a signed word, given how many words there are. -/
def fitsSignedWord (count : Nat) (value : Int) : Bool := -count ≤ 2 * value && 2 * value < count

/-- Whether an integer fits a signed word of 64 bits. -/
def fitsSigned (value : Int) : Bool := fitsSignedWord wordCount value

/-- Whether an integer fits an unsigned word of 64 bits but no signed one. -/
def fitsUnsignedOnly (value : Int) : Bool := wordCount ≤ 2 * value && value < wordCount

/-- The greatest number of digits of a decimal integer that is read or written. -/
def maximalDigits : Nat := 4300

/-- Whether a text is a decimal integer that has too many digits to be read. -/
def isOverlong (text : String) : Bool :=
  maximalDigits < (text.toList.filter Char.isDigit).length &&
    text.toList.all fun character => character.isDigit || character = '-'

/-- Whether an integer can be written in decimal. -/
def isWritable (value : Int) : Bool := value.natAbs < Nat.pow 10 maximalDigits

end NetImport
