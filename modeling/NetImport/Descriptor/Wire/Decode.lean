import NetImport.Descriptor.Message
import NetImport.Descriptor.Wire.Field
import NetImport.Text.Utf8

/-!
# Reading the binary format

The fields of a message may come in any order. Of several values of a scalar field that is not
repeated the last one counts, and several submessages of such a field are read as one, their
fields one after the other. Numbers of a repeated field may also be packed into one block. Fields
of unknown number or unexpected form, and element types that are not listed, are kept as unknown
bytes.
-/

namespace NetImport.Descriptor

open NetImport.Text

/-- The text of bytes, or the bytes themselves when they are not valid text. -/
def Scalar.ofTextBytes (bytes : List UInt8) : Scalar :=
  match decodeUtf8? bytes with
  | some decoded => .text decoded
  | none => .bytes bytes

/-- The scalar of a type that a payload denotes, if the payload has the form of that type. -/
def ScalarType.ofPayload? (type : ScalarType) (payload : Wire.Payload) : Option Scalar :=
  match type, payload with
  | .int32, .varint word => some (.integer (signedOfWord shortWordCount word))
  | .int64, .varint word => some (.integer (signedOfWord wordCount word))
  | .uint32, .varint word => some (.integer (word % shortWordCount : Nat))
  | .bool, .varint word => some (.flag (word ≠ 0))
  | .elementType, .varint word =>
    let number := signedOfWord shortWordCount word
    if isElementType number then some (.integer number) else none
  | .float, .fixed32 bits => some (.single ⟨UInt32.ofNat bits⟩)
  | .double, .fixed64 bits => some (.double ⟨UInt64.ofNat bits⟩)
  | .string, .block content => some (.ofTextBytes content)
  | .bytes, .block content => some (.bytes content)
  | _, _ => none

/-- The payload at the front of a packed block, for a type of numbers. -/
def ScalarType.readPacked (type : ScalarType) (bytes : List UInt8) :
    Option (Wire.Payload × List UInt8) :=
  let form :=
    match type with
    | .float => 5
    | .double => 1
    | _ => 0
  Wire.readPayload (fun _ _ => none) 0 form bytes

/-- The numbers of a packed block; every number takes fuel. -/
def ScalarType.unpackWithin (type : ScalarType) : Nat → List UInt8 → Option (List Scalar)
  | _, [] => some []
  | 0, _ => none
  | fuel + 1, packed => do
    let (payload, rest) ← type.readPacked packed
    return (← type.ofPayload? payload) :: (← type.unpackWithin fuel rest)

/-- Whether the values of a type are numbers, which can be packed. -/
def ScalarType.isNumeric : ScalarType → Bool
  | .string | .bytes => false
  | _ => true

/-- What a field of the binary format means for a message type. -/
inductive Reading where
  | scalars (values : List Scalar)
  | submessage (bytes : List UInt8)
  | unknown (bytes : List UInt8)
  deriving DecidableEq, Repr

/-- What a field means for a message type; only a malformed packed block has no meaning. -/
def Wire.RawField.read (field : Wire.RawField) (type : MessageType) : Option Reading :=
  match type.field? field.number with
  | none => some (.unknown field.source)
  | some spec =>
    match spec.type, field.payload with
    | .message _, .block bytes => some (.submessage bytes)
    | .message _, _ => some (.unknown field.source)
    | .scalar scalarType, payload =>
      match scalarType.ofPayload? payload with
      | some value => some (.scalars [value])
      | none =>
        match payload with
        | .block bytes =>
          if scalarType.isNumeric ∧ spec.cardinality = .repeated then
            (scalarType.unpackWithin bytes.length bytes).map .scalars
          else some (.unknown field.source)
        | _ => some (.unknown field.source)

/-- The scalars among the readings of a field. -/
def scalarsOfReadings (number : Nat) (readings : List (Nat × Reading)) : List Scalar :=
  readings.flatMap fun
    | (other, .scalars values) => if other = number then values else []
    | _ => []

/-- The submessages among the readings of a field, as bytes. -/
def submessagesOfReadings (number : Nat) (readings : List (Nat × Reading)) : List (List UInt8) :=
  readings.filterMap fun
    | (other, .submessage bytes) => if other = number then some bytes else none
    | _ => none

def unknownOfReadings (readings : List (Nat × Reading)) : List UInt8 :=
  readings.flatMap fun
    | (_, .unknown bytes) => bytes
    | _ => []

/-- The message of a type that has the given fields; every level of submessages takes fuel. -/
def Message.ofRawFields : Nat → MessageType → List Wire.RawField → Option Message
  | 0, _, _ => none
  | fuel + 1, type, rawFields => do
    let readings ← rawFields.mapM fun field => (field.read type).map (field.number, ·)
    let values ← type.fields.mapM fun field =>
      match field.type with
      | .scalar _ =>
        let values := scalarsOfReadings field.number readings
        let counted := if field.cardinality = .repeated then values else values.getLast?.toList
        some (field.number, FieldValues.scalars counted)
      | .message inner => do
        let parts ← (submessagesOfReadings field.number readings).mapM Wire.splitFields
        let whole :=
          if field.cardinality = .repeated then parts
          else if parts = [] then [] else [parts.flatten]
        return (field.number, .messages (← whole.mapM (Message.ofRawFields fuel inner)))
    return .ofFields values (unknownOfReadings readings)

/-- The message of a type that some bytes encode. -/
def Message.ofBytes? (type : MessageType) (bytes : List UInt8) : Option Message := do
  let rawFields ← Wire.splitFields bytes
  Message.ofRawFields (bytes.length + 1) type rawFields

end NetImport.Descriptor
