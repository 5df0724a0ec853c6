import NetImport.Descriptor.Wire.Varint
import NetImport.Number.Word

/-!
# Fields of the binary format

A binary message is a sequence of fields. A field is a tag, which joins its number and the form of
its payload, and the payload: a number in base 128, a fixed-width number, a block of bytes preceded
by its length, or a group of fields up to a matching end tag. A field has a positive number, except
inside a group. Fields keep the bytes that they were read from, so that a field the schema does not
know can be written again as it was.
-/

namespace NetImport.Descriptor.Wire

inductive Payload where
  | varint (number : Nat)
  | fixed64 (bits : Nat)
  | block (bytes : List UInt8)
  | group
  | fixed32 (bits : Nat)
  deriving DecidableEq, Repr

/-- A field with the bytes from its tag on and the bytes behind it. -/
structure RawField where
  number : Nat
  payload : Payload
  start : List UInt8
  behind : List UInt8
  deriving DecidableEq, Repr

/-- The bytes that a field was read from. -/
def RawField.source (field : RawField) : List UInt8 :=
  field.start.take (field.start.length - field.behind.length)

/-- The tag of a field number and a payload form. -/
def tag (number form : Nat) : List UInt8 := varint (8 * number + form)

/-- Reads a tag: the field number, the form of the payload and what follows. -/
def readTag (bytes : List UInt8) : Option (Nat × Nat × List UInt8) := do
  let (joined, rest) ← readVarint 5 bytes
  if shortWordCount ≤ joined then none else return (joined / 8, joined % 8, rest)

/-- Reads a payload of a form, given what skips the fields of a group up to its end tag. -/
def readPayload (skipGroup : Nat → List UInt8 → Option (List UInt8)) (number form : Nat)
    (bytes : List UInt8) : Option (Payload × List UInt8) :=
  match form with
  | 0 => do
    let (number, rest) ← readVarint 10 bytes
    return (.varint (number % wordCount), rest)
  | 1 => do
    let (block, rest) ← readBlock 8 bytes
    return (.fixed64 (ofLittleEndian block), rest)
  | 2 => do
    let (length, rest) ← readVarint 5 bytes
    let (block, rest) ← readBlock length rest
    return (.block block, rest)
  | 3 => (skipGroup number bytes).map (.group, ·)
  | 5 => do
    let (block, rest) ← readBlock 4 bytes
    return (.fixed32 (ofLittleEndian block), rest)
  | _ => none

/-- Skips the fields of a group up to the end tag of its number; every field takes fuel. -/
def skipGroup : Nat → Nat → List UInt8 → Option (List UInt8)
  | 0, _, _ => none
  | fuel + 1, number, bytes => do
    let (inner, form, rest) ← readTag bytes
    if form = 4 then
      if inner = number then return rest else none
    else
      let (_, rest) ← readPayload (skipGroup fuel) inner form rest
      skipGroup fuel number rest

/--
Reads the field at the front of some bytes; the fuel is at least the number of bytes behind its
tag.
-/
def readField (fuel : Nat) (bytes : List UInt8) : Option (RawField × List UInt8) := do
  let (number, form, content) ← readTag bytes
  if number = 0 then none
  else
    let (payload, rest) ← readPayload (skipGroup fuel) number form content
    return (⟨number, payload, bytes, rest⟩, rest)

/-- Reads fields to the end of some bytes; the fuel is at least the number of bytes. -/
def readFieldsWithin : Nat → List UInt8 → Option (List RawField)
  | _, [] => some []
  | 0, _ => none
  | fuel + 1, bytes => do
    let (field, rest) ← readField fuel bytes
    return field :: (← readFieldsWithin fuel rest)

def splitFields (bytes : List UInt8) : Option (List RawField) :=
  readFieldsWithin bytes.length bytes

end NetImport.Descriptor.Wire
