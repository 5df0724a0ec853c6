import NetImport.Tensor.Basic
import NetImport.Tensor.ElementName
import NetImport.Text.Blank

/-!
# Names of element types

The name of an element type that starts with a number or with parentheses, or that has a comma,
lists fields; any other name is that of a single value. In the list each type may have a repetition
in front of it, such as `2` or `(2,3)`, which makes a block of it or gives it a length. Fields are
separated by commas, and a list with a comma makes a group.
-/

namespace NetImport

namespace FieldList

open NetImport.Text ElementName

/-! ## Repetitions -/

/-- How often something is repeated: a number of times, or in a block of a shape. -/
inductive Repetition where
  | count (number : Nat)
  | block (shape : List Nat)
  deriving DecidableEq, Repr

namespace Repetition

/-- The number of decimal digits, which have no leading zero unless all are zero. -/
def number? (digits : List Char) : Option Nat :=
  if digits = [] ∨ digits.any (!·.isDigit) ∨ maximalDigits < digits.length then none
  else if digits.head? = some '0' ∧ digits.any (· ≠ '0') then none
  else some (ofDigits 10 (digits.filterMap (digitValue? 10)))

def trim (characters : List Char) : List Char :=
  ((characters.dropWhile (· = ' ')).reverse.dropWhile (· = ' ')).reverse

/-- The repetition that numbers between commas describe; one number without a comma is a count. -/
def ofNumbers? (characters : List Char) : Option Repetition :=
  match (characters.splitOnP (· = ',')).map trim with
  | [only] => (number? only).map count
  | parts =>
    let listed := if parts.getLast? = some [] then parts.dropLast else parts
    (listed.mapM number?).map block

/-- The repetition that characters describe, which may be in parentheses. -/
def ofChars? (characters : List Char) : Option Repetition :=
  match trim characters with
  | '(' :: rest =>
    if rest.getLast? ≠ some ')' then none
    else if trim rest.dropLast = [] then some (block [])
    else ofNumbers? rest.dropLast
  | characters => ofNumbers? characters

/-- The shape of the block that a repetition makes. -/
def shape : Repetition → List Nat
  | count number => [number]
  | block shape => shape

/-- A block of a field, whose size is limited; a block without axes is the field itself. -/
def blockOf (shape : List Nat) (field : CellType) : Except Error CellType :=
  let cells := cellCount shape
  if shape = [] then .ok field
  else if shape.length ≤ maximalRank ∧ shape.all (· ≤ sizeLimit) ∧ cells ≤ sizeLimit ∧
      cells * field.size ≤ sizeLimit then
    .ok { field with blocks := shape.map Int.ofNat :: field.blocks }
  else .error .rejectedValue

/-- A type of a length that is given by a repetition; only a number of times is a length. -/
def withLength (repetition : Repetition) (type : ElementType) : Except Error ElementType :=
  match repetition with
  | block _ => .error .rejectedValue
  | count length =>
    match type.withLength? length with
    | some type => if type.size ≤ sizeLimit then .ok type else .error .rejectedValue
    | none => .error .rejectedValue

/--
Repeats a field. Where its length is not fixed yet, the repetition gives its length; blocks without
any cells take a length as well, but keep their shape.
-/
def apply (repetition : Repetition) (field : CellType) : Except Error CellType :=
  if field.size ≠ 0 then blockOf repetition.shape field
  else if field.blocks = [] then do
    return { field with type := ← repetition.withLength field.type }
  else
    match repetition with
    | count length => if length ≤ sizeLimit then .ok field else .error .rejectedValue
    | block _ => .error .rejectedValue

end Repetition

/-! ## Entries -/

/-- An entry of a list: the name of a type, and how often the type is repeated. -/
structure Entry where
  repetition : Option Repetition
  type : List Char
  deriving DecidableEq, Repr

/-- Splits the characters of a kind from the start of a text. -/
def splitWhile (isKind : Char → Bool) (characters : List Char) : List Char × List Char :=
  (characters.takeWhile isKind, characters.dropWhile isKind)

/-- Splits a character from a text, if the text starts with it. -/
def splitOne (first : Char) (characters : List Char) : List Char × List Char :=
  if characters.head? = some first then ([first], characters.drop 1) else ([], characters)

/-- Splits from a text what may be a repetition: numbers, spaces and commas, parentheses. -/
def splitRepetition (characters : List Char) : List Char × List Char :=
  let (spaces, rest) := splitWhile (· = ' ') characters
  let (opening, rest) := splitOne '(' rest
  let (numbers, rest) := splitWhile (fun next => next.isDigit || next = ' ' || next = ',') rest
  let (closing, rest) := splitOne ')' rest
  let (padding, rest) := splitWhile (· = ' ') rest
  (spaces ++ opening ++ numbers ++ closing ++ padding, rest)

/-- Splits from a text the name of a type: letters, digits, points, question marks, brackets. -/
def splitType (characters : List Char) : List Char × List Char :=
  let isInner (next : Char) : Bool := next.isAlphanum || next = '.'
  let (word, rest) := splitWhile (fun next => isInner next || next = '?') characters
  match rest with
  | '[' :: inner =>
    let (inside, behind) := splitWhile (fun next => isInner next || next = ',') inner
    if inside ≠ [] ∧ behind.head? = some ']' then (word ++ '[' :: inside ++ [']'], behind.drop 1)
    else (word, rest)
  | _ => (word, rest)

/-- The mark of order of an entry, which may be given on either side of its repetition. -/
def joinMarks : Option Char → Option Char → Except Error (List Char)
  | none, none => .ok []
  | some mark, none | none, some mark => .ok (if mark = '>' then ['>'] else [])
  | some left, some right =>
    let usual (mark : Char) : Char := if mark = '=' then '<' else mark
    if usual left = usual right then .ok (if left = '>' then ['>'] else [])
    else .error .rejectedValue

/-- What follows a comma that only blanks precede, and whether there is a comma. -/
def splitComma (characters : List Char) : Except Error (List Char × Bool) :=
  match characters.dropWhile isBlank with
  | [] => .ok ([], false)
  | ',' :: rest => .ok (rest.dropWhile isBlank, true)
  | _ => .error .rejectedValue

/-- The repetition of an entry, if there is one. -/
def readRepetition (characters : List Char) : Except Error (Option Repetition) :=
  if characters = [] then .ok none
  else
    match Repetition.ofChars? characters with
    | some repetition => .ok (some repetition)
    | none => .error .rejectedSyntax

/--
The entries of a list of at most some number of entries, and whether it has a comma. There are no
more entries than characters.
-/
def entries : Nat → List Char → Except Error (List Entry × Bool)
  | 0, _ | _, [] => .ok ([], false)
  | limit + 1, characters => do
    let (left, rest) := splitMark characters
    let (repetition, rest) := splitRepetition rest
    let (right, rest) := splitMark rest
    let (type, rest) := splitType rest
    let (rest, hasComma) ← splitComma rest
    let marked := (← joinMarks left right) ++ type
    let entry : Entry := ⟨← readRepetition repetition, marked⟩
    let (others, hasLaterComma) ← entries limit rest
    return (entry :: others, hasComma || hasLaterComma)

/-! ## Names -/

/-- Whether a comma lies outside all brackets, given how many are open. -/
def hasComma (isOpen : Int) : List Char → Bool
  | [] => false
  | ',' :: rest => isOpen = 0 || hasComma isOpen rest
  | '[' :: rest => hasComma (isOpen + 1) rest
  | ']' :: rest => hasComma (isOpen - 1) rest
  | _ :: rest => hasComma isOpen rest

/-- Whether a name starts with a repetition. -/
def startsRepeated : List Char → Bool
  | '(' :: ')' :: _ => true
  | first :: _ => first.isDigit
  | [] => false

/-- Whether a name lists fields. -/
def isList (name : List Char) : Bool :=
  startsRepeated name || startsRepeated (splitMark name).2 || hasComma 0 name

/-- The field of an entry, given how the name of its type is read. -/
def Entry.field (read : List Char → Except Error ElementSpec) (entry : Entry) :
    Except Error CellType := do
  match ← read entry.type, entry.repetition with
  | .one field, some repetition => repetition.apply field
  | .one field, none => .ok field
  | .group _, _ => .error .rejectedType

/-- The element type that the entries of a list make; an empty last entry of a group is dropped. -/
def combine (read : List Char → Except Error ElementSpec) (entries : List Entry)
    (hasComma : Bool) : Except Error ElementSpec :=
  if hasComma then
    let fields := if entries.getLast? = some ⟨none, []⟩ then entries.dropLast else entries
    if fields = [] then .error .rejectedValue else .group <$> fields.mapM (Entry.field read)
  else
    match entries with
    | [⟨some repetition, type⟩] => .one <$> Entry.field read ⟨some repetition, type⟩
    | _ => .error .unforeseenForm

/-- The element type of a name; the types in a list may be lists themselves, to a given depth. -/
def ofChars : Nat → List Char → Except Error ElementSpec
  | 0, _ => .error .rejectedType
  | depth + 1, name =>
    if isList name then do
      let (listed, hasComma) ← entries name.length name
      combine (ofChars depth) listed hasComma
    else ofSingle name

end FieldList

/-- The element type of a name. Every type in a list has a shorter name than the list. -/
def ElementSpec.ofName (name : String) : Except Error ElementSpec :=
  FieldList.ofChars (name.length + 1) name.toList

end NetImport
