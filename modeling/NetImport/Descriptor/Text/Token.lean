import NetImport.Text.Blank

/-!
# Tokens of the text format

The text of a descriptor is a sequence of tokens between blanks and comments. A comment runs from a
number sign to the end of its line. A word starts with a letter or an underscore and a number with a
digit, a sign, or a point and a digit; a quoted token ends at the next unescaped mark of its own
kind, or at the end of the line; any other character is a token by itself.
-/

namespace NetImport.Descriptor

/-- A token: the characters of a word or number, a quoted token with its marks, or a character. -/
inductive Token where
  | word (characters : List Char)
  | quoted (characters : List Char)
  | symbol (character : Char)
  deriving DecidableEq, Repr

namespace Token

def isWordStart (character : Char) : Bool := character.isAlpha || character = '_'

def isWordPart (character : Char) : Bool :=
  character.isAlphanum || character = '_' || character = '+' || character = '-'

/-- Whether a number starts with a character, given what follows. -/
def isNumberStart (character : Char) (rest : List Char) : Bool :=
  character.isDigit || character = '+' || character = '-' ||
    (character = '.' && (rest.head?.map Char.isDigit).getD false)

def isNumberPart (character : Char) : Bool := isWordPart character || character = '.'

/-- Splits a text after the mark that closes a quoted token, or in front of the end of the line. -/
def splitQuoted (mark : Char) : List Char → List Char × List Char
  | [] => ([], [])
  | character :: rest =>
    if character = '\n' then ([], character :: rest)
    else if character = mark then ([character], rest)
    else if character = '\\' then
      match rest with
      | [] => (['\\'], [])
      | escaped :: rest =>
        if escaped = '\n' then (['\\'], escaped :: rest)
        else
          let (inside, outside) := splitQuoted mark rest
          ('\\' :: escaped :: inside, outside)
    else
      let (inside, outside) := splitQuoted mark rest
      (character :: inside, outside)

theorem length_splitQuoted_le (mark : Char) (characters : List Char) :
    (splitQuoted mark characters).2.length ≤ characters.length := by
  fun_induction splitQuoted mark characters <;> simp_all <;> omega

theorem length_dropWhile_le (part : Char → Bool) (characters : List Char) :
    (characters.dropWhile part).length ≤ characters.length :=
  (List.dropWhile_sublist part).length_le

def ofChars : List Char → List Token
  | [] => []
  | character :: rest =>
    if Text.isBlank character then ofChars rest
    else if character = '#' then ofChars (rest.dropWhile (· ≠ '\n'))
    else if isWordStart character then
      .word (character :: rest.takeWhile isWordPart) :: ofChars (rest.dropWhile isWordPart)
    else if isNumberStart character rest then
      .word (character :: rest.takeWhile isNumberPart) :: ofChars (rest.dropWhile isNumberPart)
    else if character = '"' ∨ character = '\'' then
      .quoted (character :: (splitQuoted character rest).1) ::
        ofChars (splitQuoted character rest).2
    else .symbol character :: ofChars rest
termination_by characters => characters.length
decreasing_by
  all_goals simp only [List.length_cons]
  · omega
  · exact Nat.lt_succ_of_le (length_dropWhile_le _ _)
  · exact Nat.lt_succ_of_le (length_dropWhile_le _ _)
  · exact Nat.lt_succ_of_le (length_dropWhile_le _ _)
  · exact Nat.lt_succ_of_le (length_splitQuoted_le _ _)
  · omega

end Token

end NetImport.Descriptor
