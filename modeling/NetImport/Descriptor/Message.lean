import NetImport.Descriptor.Schema
import NetImport.Number.Binary
import NetImport.Number.Word

/-!
# Messages

A message lists its present fields by ascending number: all the values of a scalar field together,
then each submessage by itself. The list ends in the bytes of the fields that the schema does not
know, in the order in which they were read. A string field whose bytes are not valid text keeps them
as bytes.
-/

namespace NetImport.Descriptor

inductive Scalar where
  | integer (value : Int)
  | flag (value : Bool)
  | single (value : Binary32)
  | double (value : Binary64)
  | text (value : String)
  | bytes (value : List UInt8)
  deriving DecidableEq, Repr

/-- A message: its present fields by ascending number, then the unknown bytes. -/
inductive Message where
  | done (unknown : List UInt8)
  | scalars (number : Nat) (values : List Scalar) (rest : Message)
  | nested (number : Nat) (value rest : Message)
  deriving DecidableEq, Repr

inductive FieldValues where
  | scalars (values : List Scalar)
  | messages (values : List Message)
  deriving DecidableEq, Repr

/-- A field is absent when it has no values. -/
def FieldValues.isEmpty : FieldValues → Bool
  | scalars values => values.isEmpty
  | messages values => values.isEmpty

namespace Message

def empty : Message := .done []

instance : Inhabited Message := ⟨empty⟩

/-- Puts the values of a field in front of the fields of higher numbers. -/
def attach (number : Nat) (values : FieldValues) (rest : Message) : Message :=
  match values with
  | .scalars [] => rest
  | .scalars values => .scalars number values rest
  | .messages values => values.foldr (.nested number) rest

/-- The message of numbered field values, listed by ascending number, and some unknown bytes. -/
def ofFields (fields : List (Nat × FieldValues)) (unknown : List UInt8) : Message :=
  fields.foldr (fun field rest => attach field.1 field.2 rest) (.done unknown)

def scalarsAt (number : Nat) : Message → List Scalar
  | .done _ => []
  | .scalars other values rest => if other = number then values else rest.scalarsAt number
  | .nested _ _ rest => rest.scalarsAt number

def messagesAt (number : Nat) : Message → List Message
  | .done _ => []
  | .scalars _ _ rest => rest.messagesAt number
  | .nested other value rest =>
    if other = number then value :: rest.messagesAt number else rest.messagesAt number

/-- The bytes of the fields that the schema does not know. -/
def unknown : Message → List UInt8
  | .done bytes => bytes
  | .scalars _ _ rest => rest.unknown
  | .nested _ _ rest => rest.unknown

def has (number : Nat) : Message → Bool
  | .done _ => false
  | .scalars other _ rest => other = number || rest.has number
  | .nested other _ rest => other = number || rest.has number

/-- Whether the required fields of a type are all present at the top of a message. -/
def hasRequired (type : MessageType) (message : Message) : Bool :=
  type.fields.all fun field => field.cardinality ≠ .required || message.has field.number

/-- Whether every submessage of a message of a type has its required fields. -/
def submessagesComplete (type : MessageType) : Message → Bool
  | .done _ => true
  | .scalars _ _ rest => rest.submessagesComplete type
  | .nested number value rest =>
    rest.submessagesComplete type &&
      match type.field? number with
      | some ⟨_, _, _, .message inner⟩ => value.hasRequired inner && value.submessagesComplete inner
      | _ => true

/-- Whether a message of a type and all its submessages have their required fields. -/
def isComplete (type : MessageType) (message : Message) : Bool :=
  message.hasRequired type && message.submessagesComplete type

end Message

/-- Whether an integer is a value of a type of scalars. -/
def ScalarType.holds : ScalarType → Int → Bool
  | .int32, value => fitsSignedWord shortWordCount value
  | .int64, value => fitsSigned value
  | .uint32, value => 0 ≤ value && value < shortWordCount
  | .elementType, value => isElementType value
  | _, _ => true

/-- Whether a scalar is a value of a type; only integers can fail to be one. -/
def Scalar.fits (type : ScalarType) : Scalar → Bool
  | .integer value => type.holds value
  | _ => true

/-- Whether every scalar of a message of a type, at any depth, is a value of its field. -/
def Message.fits (type : MessageType) : Message → Bool
  | .done _ => true
  | .scalars number values rest =>
    rest.fits type &&
      match type.field? number with
      | some ⟨_, _, _, .scalar scalarType⟩ => values.all (Scalar.fits scalarType)
      | _ => true
  | .nested number value rest =>
    rest.fits type &&
      match type.field? number with
      | some ⟨_, _, _, .message inner⟩ => value.fits inner
      | _ => true

def Scalar.isNaN : Scalar → Bool
  | .single number => Format.single.infinity < number.magnitude
  | .double number => Format.double.infinity < number.magnitude
  | _ => false

/-- Scalars agree when they are equal or neither is a number. -/
def Scalar.agrees (left right : Scalar) : Bool :=
  left = right || (left.isNaN && right.isNaN)

/-- Lists of scalars agree when they have the same length and agree place by place. -/
def Scalar.agreeAll : List Scalar → List Scalar → Bool
  | [], [] => true
  | left :: lefts, right :: rights => left.agrees right && agreeAll lefts rights
  | _, _ => false

/-- Messages agree when they are equal up to values that are not numbers. -/
def Message.agrees : Message → Message → Bool
  | .done left, .done right => left = right
  | .scalars number values rest, .scalars other others tail =>
    number = other && Scalar.agreeAll values others && rest.agrees tail
  | .nested number value rest, .nested other inner tail =>
    number = other && value.agrees inner && rest.agrees tail
  | _, _ => false

end NetImport.Descriptor
