import NetImport.Tensor.NumericArray

/-!
# Single values of lists

The values of a list are read as values of a common type: as they are, as numbers, or after they
have been written as texts. This file defines these ways of reading a single value.
-/

namespace NetImport.Descriptor

/-- A single value inside a list; a cell comes from an array, and is whole if that has no axes. -/
inductive Leaf where
  | item (value : Item)
  | cell (value : Cell) (isWhole : Bool)
  deriving DecidableEq, Repr

namespace Leaf

def toItem : Leaf → Item
  | item value => value
  | cell value _ => value.item

/-- Whether a value kept as it is counts as an integer; a whole array does not. -/
def isInteger : Leaf → Bool
  | cell _ true => false
  | leaf => leaf.toItem.integer?.isSome

/-- The number that a value denotes by itself. -/
def toBinary64 (leaf : Leaf) : Except Error Binary64 := leaf.toItem.toBinary64

/-- The number that a value denotes among numbers; of a complex number it is the real part. -/
def toReal : Leaf → Except Error Binary64
  | cell ⟨.one field, number⟩ _ => .ok (field.type.store number).toDouble
  | leaf => leaf.toBinary64

/-- Drops zero bytes or characters at the end. -/
def dropZeros {α : Type} (isZero : α → Bool) (values : List α) : List α :=
  (values.reverse.dropWhile isZero).reverse

/--
The number that a value denotes after it has been written as a text, in which zeros at the end are
lost. The word for a truth value and the pair for a complex number are no numerals.
-/
def toBinary64AsText : Leaf → Except Error Binary64
  | item (.flag _) => .error .rejectedValue
  | item (.text value) =>
    Numeral.require (Numeral.ofText? (dropZeros (· = '\x00') value.toList))
  | item (.bytes value) => Numeral.require (Numeral.ofBytes? (dropZeros (· = 0) value))
  | cell ⟨.one field, number⟩ _ =>
    match field.type with
    | .half => .ok ((field.type.store number).toDouble.respelled .half)
    | .single => .ok ((field.type.store number).toDouble.respelled .single)
    | .bool | .complex _ => .error .rejectedValue
    | type => (type.item number).toBinary64
  | leaf => leaf.toBinary64

/-- Accepts a value that can be a text among texts; bytes have to be ASCII characters. -/
def checkText : Leaf → Except Error Unit
  | item (.bytes value) => if Numeral.isAscii value then .ok () else .error .malformedText
  | _ => .ok ()

/--
A value as a text of any length, all of which is kept. Bytes must encode a text. Integers and texts
of cells are taken in the usual order of bytes, in which reversed texts have no meaning.
-/
def toAnyText : Leaf → Except Error Leaf
  | item (.bytes value) =>
    match Text.decodeUtf8? value with
    | some content => .ok (item (.text content))
    | none => .error .malformedText
  | leaf@(cell ⟨.one ⟨type, true, _⟩, number⟩ _) =>
    match type with
    | .text _ => .error .rejectedType
    | .signed _ | .unsigned _ => .ok (item (.int (type.reversedInteger number)))
    | _ => .ok leaf
  | leaf => .ok leaf

/-- The number that a value denotes after it has been written as a text of any length. -/
def toBinary64AsAnyText : Leaf → Except Error Binary64
  | item (.text value) => Numeral.require (Numeral.ofText? value.toList)
  | leaf => leaf.toBinary64AsText

end Leaf

end NetImport.Descriptor
