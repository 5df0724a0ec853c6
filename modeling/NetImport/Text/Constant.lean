/-!
# Names of constants

A constant is named by a word in capitals, in which a bar stands wherever a new word starts.
-/

namespace NetImport.Text

/-- Capitals for the letters of a word, with a bar behind each small one before a great one. -/
def capitals : List Char → List Char
  | first :: second :: rest =>
    let others := capitals (second :: rest)
    first.toUpper :: (if first.isLower && second.isUpper then '_' :: others else others)
  | short => short.map Char.toUpper

/-- The name of the constant for a word. -/
def constantName (word : String) : String := String.ofList (capitals word.toList)

end NetImport.Text
