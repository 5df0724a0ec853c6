import NetImport.Tensor.ElementType
import NetImport.Text.Digit

/-!
# Names of single values

A single value is named by a word such as `float32`, by a letter such as `f`, by a letter with a
number of bytes such as `f4`, or by a number of its own. A mark in front of it gives the order of
its bytes: `>` reverses it, and `<`, `=` and `|` leave it as usual. Types of times may name a step
in brackets.
-/

namespace NetImport.ElementName

open ElementType NetImport.Text

/-! ## Letters and words -/

/-- The element types with a letter of their own, in the order of their numbers. -/
def numbered : List (Char × ElementType) :=
  [('?', .bool), ('b', signed 8), ('B', unsigned 8), ('h', signed 16), ('H', unsigned 16),
    ('i', signed 32), ('I', unsigned 32), ('l', signed 64), ('L', unsigned 64), ('q', signed 64),
    ('Q', unsigned 64), ('f', single), ('d', double), ('g', extended), ('F', complex 64),
    ('D', complex 128), ('G', complex 256), ('O', object), ('S', bytes 0), ('U', text 0),
    ('V', record 0), ('M', time none), ('m', span none), ('e', half)]

/-- The further letters of element types. -/
def otherLetters : List (Char × ElementType) :=
  [('p', signed 64), ('P', unsigned 64), ('n', signed 64), ('N', unsigned 64), ('c', bytes 1),
    ('T', anyText)]

/-- The element types with a word of their own. -/
def words : List (String × ElementType) :=
  [("bool", .bool), ("bool_", .bool), ("int8", signed 8), ("int16", signed 16),
    ("int32", signed 32), ("int64", signed 64), ("uint8", unsigned 8), ("uint16", unsigned 16),
    ("uint32", unsigned 32), ("uint64", unsigned 64), ("byte", signed 8), ("ubyte", unsigned 8),
    ("short", signed 16), ("ushort", unsigned 16), ("intc", signed 32), ("uintc", unsigned 32),
    ("int", signed 64), ("int_", signed 64), ("intp", signed 64), ("long", signed 64),
    ("longlong", signed 64), ("uint", unsigned 64), ("uintp", unsigned 64), ("ulong", unsigned 64),
    ("ulonglong", unsigned 64), ("float16", half), ("half", half), ("float32", single),
    ("single", single), ("float64", double), ("double", double), ("float", double),
    ("float128", extended), ("longdouble", extended), ("complex64", complex 64),
    ("csingle", complex 64), ("complex128", complex 128), ("cdouble", complex 128),
    ("complex", complex 128), ("complex256", complex 256), ("clongdouble", complex 256),
    ("object", object), ("object_", object), ("bytes", bytes 0), ("bytes_", bytes 0),
    ("a", bytes 0), ("str", text 0), ("str_", text 0), ("unicode", text 0), ("void", record 0)]

/-- The greatest number of bytes of an element type, and of cells of a block. -/
def sizeLimit : Nat := 0x7fffffff

/-- The element type of a letter with a number of bytes, or of characters for texts. -/
def sized? (letter : Char) (size : Nat) : Option ElementType :=
  if letter = 'S' ∨ letter = 'a' then some (bytes size)
  else if letter = 'U' then if 4 * size ≤ sizeLimit then some (text size) else none
  else if letter = 'V' then some (record size)
  else if letter = 'b' ∧ size = 1 then some .bool
  else if letter = 'i' ∧ size ∈ [1, 2, 4, 8] then some (signed (8 * size))
  else if letter = 'u' ∧ size ∈ [1, 2, 4, 8] then some (unsigned (8 * size))
  else if letter = 'f' then [(2, half), (4, single), (8, double), (16, extended)].lookup size
  else if letter = 'c' ∧ size ∈ [8, 16, 32] then some (complex (8 * size))
  else if letter = 'O' ∧ size ∈ [4, 8] then some object
  else if letter = 'M' ∧ size = 8 then some (time none)
  else if letter = 'm' ∧ size = 8 then some (span none)
  else none

/-- The element type of a letter or number, or of a letter with a size. -/
def short? (characters : List Char) : Option ElementType :=
  match characters with
  | [] => none
  | [letter] =>
    (numbered ++ otherLetters).lookup letter <|> (numbered[letter.toNat]?).map Prod.snd
  | letter :: rest =>
    match leadingInteger? rest with
    | some (size, []) =>
      if 0 ≤ size ∧ size ≤ sizeLimit then sized? letter size.toNat else none
    | _ => none

/-! ## Times -/

/-- The unit of a symbol, if it is one; microseconds have a second symbol. -/
def unit? (symbol : List Char) : Option TimeUnit :=
  if symbol = ['μ', 's'] then some .micro
  else TimeUnit.all.find? fun unit => unit.symbol.toList = symbol

/-- The divisor of a step: the nearest signed word, cut down to one of half the width. -/
def divisor? (characters : List Char) : Option Int :=
  match leadingInteger? characters with
  | some (number, []) =>
    let half : Int := (wordCount / 2 : Nat)
    some ((max (-half) (min number (half - 1))).bmod shortWordCount)
  | _ => none

/-- The step that characters in brackets describe: a factor, a unit, and a divisor behind a bar. -/
def step (characters : List Char) : Except Error (Option TimeStep) :=
  let (factor, rest) := (leadingInteger? characters).getD (1, characters)
  let symbol := rest.takeWhile (· ≠ '/')
  let divisor :=
    match rest.dropWhile (· ≠ '/') with
    | [] => some 1
    | _ :: digits => divisor? digits
  match unit? symbol, divisor with
  | _, none => .error .rejectedType
  | none, some divisor =>
    if symbol ≠ "generic".toList ∨ factor < 0 ∨ sizeLimit < factor then .error .rejectedType
    else if divisor ≠ 1 then .error .rejectedValue
    else .ok none
  | some unit, some divisor =>
    if factor < 0 ∨ sizeLimit < factor then .error .rejectedType
    else if divisor = 1 then .ok (some ⟨unit, factor⟩)
    else some <$> TimeStep.divided ⟨unit, factor⟩ divisor

/-- The step at the end of a type of times, which may be missing; nothing follows its brackets. -/
def bracketed (characters : List Char) : Except Error (Option TimeStep) :=
  match characters with
  | [] => .ok none
  | '[' :: rest =>
    match rest.dropWhile (· ≠ ']') with
    | [] => .error .rejectedType
    | _ :: behind => do
      let described ← step (rest.takeWhile (· ≠ ']'))
      if behind = [] then .ok described else .error .rejectedType
  | _ => .error .rejectedType

/-- What follows a word at the start of a text. -/
def behind? (word : String) (characters : List Char) : Option (List Char) :=
  if word.toList.isPrefixOf characters then some (characters.drop word.length) else none

/-- The type of times that characters name, if they start with one of the words for times. -/
def time? (characters : List Char) : Option (Except Error ElementType) :=
  match behind? "M8" characters <|> behind? "datetime64" characters,
    behind? "m8" characters <|> behind? "timedelta64" characters with
  | some rest, _ => some (time <$> bracketed rest)
  | none, some rest => some (span <$> bracketed rest)
  | none, none => none

/-! ## Marks of order -/

/-- The marks that give the order of bytes. -/
def orderMarks : List Char := ['>', '<', '=', '|']

def splitMark (characters : List Char) : Option Char × List Char :=
  match characters with
  | first :: rest => if first ∈ orderMarks then (some first, rest) else (none, characters)
  | [] => (none, [])

/-- The element type of a name of one value. -/
def ofSingle (characters : List Char) : Except Error ElementSpec :=
  let (mark, rest) := splitMark characters
  let made (type : ElementType) : ElementSpec :=
    .one ⟨type, mark = some '>' && type.orderedName?.isSome, []⟩
  match time? rest with
  | some type => made <$> type
  | none =>
    match short? rest <|> words.lookup (String.ofList characters) with
    | some type => .ok (made type)
    | none => .error .rejectedType

end NetImport.ElementName
