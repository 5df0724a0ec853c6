import NetImport.Descriptor.Message
import NetImport.Descriptor.Wire.Field
import NetImport.Error
import NetImport.Text.Utf8

/-!
# Writing the binary format

The fields of a message are written by ascending number, every value of a repeated field with a tag
of its own, and the unknown bytes at the end. Integers are written as 64-bit words, so that a
negative one takes ten bytes. A message that lacks a required field is not written.
-/

namespace NetImport.Descriptor

/-- The bytes of a block: its length and its content. -/
def Wire.block (content : List UInt8) : List UInt8 := varint content.length ++ content

def wordOfInt (number : Int) : Nat := (number % wordCount).toNat

/-- The bytes of a scalar with its tag. -/
def Scalar.encode (number : Nat) : Scalar → List UInt8
  | .integer value => Wire.tag number 0 ++ Wire.varint (wordOfInt value)
  | .flag value => Wire.tag number 0 ++ Wire.varint value.toNat
  | .single value => Wire.tag number 5 ++ Wire.littleEndian 4 value.bits.toNat
  | .double value => Wire.tag number 1 ++ Wire.littleEndian 8 value.bits.toNat
  | .text value => Wire.tag number 2 ++ Wire.block (Text.encodeUtf8 value)
  | .bytes value => Wire.tag number 2 ++ Wire.block value

def Message.encode : Message → List UInt8
  | .done unknown => unknown
  | .scalars number values rest => values.flatMap (Scalar.encode number) ++ rest.encode
  | .nested number value rest => Wire.tag number 2 ++ Wire.block value.encode ++ rest.encode

/-- The bytes of a message of a type, if all required fields are present. -/
def Message.toBytes (type : MessageType) (message : Message) : Except Error (List UInt8) :=
  if message.isComplete type then .ok message.encode else .error .missingRequiredField

end NetImport.Descriptor
