import NetImport.Number.Shortest
import NetImport.Tensor.ElementType
import NetImport.Tensor.Item
import NetImport.Tensor.Quantity
import NetImport.Text.Utf8

/-!
# Cells of arrays

A cell is made by storing a quantity with an element type. Quantities are rounded or cut to what
their type can hold, and objects keep them as they are. Texts hold as much as fits of the shortest
text of the double-precision number, records hold its bytes, and times count whole steps. A cell can
be read back as an item, or narrowed to a single-precision number: texts and records are read as
numerals, objects by themselves, and all other cells are rounded in one step.
-/

namespace NetImport

namespace ElementType

/-! ## Storing -/

/-- The signed word that the whole part of a quantity becomes; the lowest one if it fits none. -/
def wholeWord (count : Nat) (number : Quantity) : Int :=
  (number.whole?.filter (fitsSignedWord count)).getD (-(count / 2 : Nat))

/-- The integer that remains of a quantity stored with a type of integers. -/
def integer (type : ElementType) (number : Quantity) : Int :=
  match type with
  | signed width =>
    (wholeWord (if width = 64 then wordCount else shortWordCount) number).bmod (1 <<< width)
  | unsigned width =>
    match number.whole?.filter fun value => width = 64 ∧ fitsUnsignedOnly value with
    | some value => value
    | none =>
      wholeWord (if width < 32 then shortWordCount else wordCount) number % (1 <<< width : Nat)
  | _ => if number.isZero then 0 else 1

/-- The quantity that remains of one that is stored with a type of numbers. -/
def store (type : ElementType) (number : Quantity) : Quantity :=
  match type with
  | half =>
    let magnitude := Format.double.convert Format.half number.toDouble.magnitude
    .double (.ofMagnitude number.toDouble.isNegative (Format.half.convert Format.double magnitude))
  | single | complex 64 => .double number.toSingle.widen
  | double | complex 128 => .double number.toDouble
  | extended | complex 256 => .extended number.toExtended
  | signed _ | unsigned _ | bool => .whole (type.integer number)
  | _ => number

/-- The text that remains of the shortest text of a number. -/
def spell (type : ElementType) (number : Quantity) : List Char :=
  let characters := number.toDouble.text Layout.descriptor
  match type with
  | bytes length | text length => characters.take length
  | _ => characters

/-- The bytes of a number, the least significant one first, cut or filled up to a length. -/
def rawBytes (length : Nat) (number : Quantity) : List UInt8 :=
  (List.range length).map fun place => UInt8.ofNat (number.toDouble.bits.toNat >>> (8 * place))

/-- The whole steps that a quantity counts. -/
def steps (number : Quantity) : Int := wholeWord wordCount number

/-! ## Reading -/

/-- The item of a time: a count of short steps, unless it is a date with a time of day. -/
def timeItem (step : Option TimeStep) (count : Int) : Item :=
  match step with
  | some step =>
    if count = TimeStep.noTime then .nothing
    else if TimeUnit.micro.rank < step.unit.rank || !step.hasDate count then .int count
    else .nothing
  | none => .nothing

/-- The item of a span: a count of steps that are short or have no fixed length, else of days. -/
def spanItem (step : Option TimeStep) (count : Int) : Item :=
  if count = TimeStep.noTime then .nothing
  else
    match step with
    | some step =>
      if TimeUnit.micro.rank < step.unit.rank || step.unit.isCalendar || !step.hasDays count then
        .int count
      else .nothing
    | none => .int count

/-- The integer of a quantity stored with a type, but read in the reversed order of bytes. -/
def reversedInteger (type : ElementType) (number : Quantity) : Int :=
  let count := 1 <<< (8 * type.size)
  let word := reverseBytes type.size (type.integer number % (count : Nat)).toNat
  match type with
  | signed _ => signedOfWord count word
  | _ => word

/-- The item of a quantity that is kept as it is. -/
def objectItem : Quantity → Item
  | .whole value => .int value
  | number => .float number.toDouble

/-- The item of a quantity stored with a type; only the widest complex numbers are real numbers. -/
def item (type : ElementType) (number : Quantity) : Item :=
  match type with
  | bool => .flag (!number.isZero)
  | signed _ | unsigned _ => .int (type.integer number)
  | half | single | double | extended | complex 256 => .float (type.store number).toDouble
  | object => objectItem number
  | complex _ => .nothing
  | bytes _ => .bytes (Text.encodeUtf8 (String.ofList (type.spell number)))
  | text _ | anyText => .text (String.ofList (type.spell number))
  | record length => .bytes (rawBytes length number)
  | time step => timeItem step (steps number)
  | span step => spanItem step (steps number)

/-- The single-precision number of a quantity stored with a type. -/
def narrow (type : ElementType) (number : Quantity) : Except Error Binary32 :=
  match type with
  | bytes _ | text _ | anyText | record _ | object =>
    Binary64.narrow <$> (type.item number).toBinary64
  | time _ | span _ => .ok (.ofInt (steps number))
  | _ => .ok (type.store number).toSingle

/-- Whether a quantity stored with a type has a byte that is not zero; references are not zero. -/
def hasByte (type : ElementType) (number : Quantity) : Bool :=
  match type with
  | object | bytes _ | text _ | anyText => true
  | record length => (rawBytes length number).any (· ≠ 0)
  | time _ | span _ => steps number ≠ 0
  | _ => (type.store number).hasBit

/-- Whether a quantity stored with a type counts as present. -/
def isPresent (type : ElementType) (number : Quantity) : Bool :=
  match type with
  | bytes _ | text _ | anyText => type.spell number ≠ []
  | record length => (rawBytes length number).any (· ≠ 0)
  | time _ | span _ => steps number ≠ 0
  | _ => !(type.store number).isZero

end ElementType

/-- A cell of an array: an element type with the quantity that is stored in each of its fields. -/
structure Cell where
  element : ElementSpec
  number : Quantity
  deriving DecidableEq, Repr

namespace Cell

/-- The item of a cell; a group denotes no single value. -/
def item (cell : Cell) : Item :=
  match cell.element with
  | .one field => field.type.item cell.number
  | .group _ => .nothing

/--
The single-precision number of a cell, which must have one field. It is the first number of a block,
or zero if that has no cells.
-/
def narrow (cell : Cell) : Except Error Binary32 :=
  match cell.element with
  | .one field | .group [field] =>
    if field.hasCells then field.type.narrow cell.number else .ok .zero
  | .group _ => .error .rejectedType

/-- Whether a cell counts as present: one of its fields does, a block as soon as it has a byte. -/
def isPresent (cell : Cell) : Bool :=
  match cell.element with
  | .one field => field.type.isPresent cell.number
  | .group fields =>
    fields.any fun field =>
      if field.blocks = [] then field.type.isPresent cell.number
      else field.hasCells && field.type.hasByte cell.number

end Cell

end NetImport
