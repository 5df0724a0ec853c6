/-!
# The descriptor schema

A network descriptor is a tree of messages. Each type of message has fields with a name, a number, a
cardinality and a type; a field holds scalars or messages of one type. This file tabulates the
message types and the numbers by which the element types of stored tensors are listed.
-/

namespace NetImport.Descriptor

/-- The types of message that occur in a descriptor. -/
inductive MessageType where
  | device
  | tensor
  | segment
  | argument
  | operator
  | partition
  | net
  deriving DecidableEq, Repr

/-- The types of scalar; the last one is the enumeration of tensor element types. -/
inductive ScalarType where
  | int32
  | int64
  | uint32
  | bool
  | float
  | double
  | string
  | bytes
  | elementType
  deriving DecidableEq, Repr

/-- What a field holds. -/
inductive FieldType where
  | scalar (type : ScalarType)
  | message (type : MessageType)
  deriving DecidableEq, Repr

/-- How many values a field may and must have. -/
inductive Cardinality where
  | optional
  | required
  | repeated
  deriving DecidableEq, Repr

structure FieldSpec where
  name : String
  number : Nat
  cardinality : Cardinality
  type : FieldType
  deriving DecidableEq, Repr

/-- A field that holds at most one scalar. -/
def one (name : String) (number : Nat) (type : ScalarType) : FieldSpec :=
  ⟨name, number, .optional, .scalar type⟩

/-- A field that must hold a scalar. -/
def exactlyOne (name : String) (number : Nat) (type : ScalarType) : FieldSpec :=
  ⟨name, number, .required, .scalar type⟩

/-- A field that holds any number of scalars. -/
def many (name : String) (number : Nat) (type : ScalarType) : FieldSpec :=
  ⟨name, number, .repeated, .scalar type⟩

/-- A field that holds at most one message. -/
def oneMessage (name : String) (number : Nat) (type : MessageType) : FieldSpec :=
  ⟨name, number, .optional, .message type⟩

/-- A field that holds any number of messages. -/
def manyMessages (name : String) (number : Nat) (type : MessageType) : FieldSpec :=
  ⟨name, number, .repeated, .message type⟩

namespace MessageType

/-- The fields of a message type, by ascending number. -/
def fields : MessageType → List FieldSpec
  | device =>
    [one "device_type" 1 .int32,
      one "device_id" 2 .int32,
      one "random_seed" 3 .uint32,
      one "node_name" 4 .string,
      one "numa_node_id" 5 .int32,
      many "extra_info" 6 .string]
  | tensor =>
    [many "dims" 1 .int64,
      one "data_type" 2 .elementType,
      many "float_data" 3 .float,
      many "int32_data" 4 .int32,
      one "byte_data" 5 .bytes,
      many "string_data" 6 .bytes,
      one "name" 7 .string,
      oneMessage "device_detail" 8 .device,
      many "double_data" 9 .double,
      many "int64_data" 10 .int64,
      oneMessage "segment" 11 .segment,
      one "raw_data" 13 .bytes]
  | segment =>
    [exactlyOne "begin" 1 .int64,
      exactlyOne "end" 2 .int64]
  | argument =>
    [one "name" 1 .string,
      one "f" 2 .float,
      one "i" 3 .int64,
      one "s" 4 .bytes,
      many "floats" 5 .float,
      many "ints" 6 .int64,
      many "strings" 7 .bytes,
      oneMessage "n" 8 .net,
      manyMessages "nets" 9 .net,
      oneMessage "t" 10 .tensor,
      manyMessages "tensors" 11 .tensor]
  | operator =>
    [many "input" 1 .string,
      many "output" 2 .string,
      one "name" 3 .string,
      one "type" 4 .string,
      manyMessages "arg" 5 .argument,
      oneMessage "device_option" 6 .device,
      one "engine" 7 .string,
      many "control_input" 8 .string,
      one "is_gradient_op" 9 .bool,
      one "debug_info" 10 .string,
      one "domain" 11 .string,
      one "op_version" 12 .int64]
  | partition =>
    [one "name" 1 .string,
      many "device_id" 2 .int32,
      one "extra_info" 3 .string]
  | net =>
    [one "name" 1 .string,
      manyMessages "op" 2 .operator,
      one "type" 3 .string,
      one "num_workers" 4 .int32,
      oneMessage "device_option" 5 .device,
      manyMessages "arg" 6 .argument,
      many "external_input" 7 .string,
      many "external_output" 8 .string,
      manyMessages "partition_info" 9 .partition]

/-- The name of a message type in the descriptor format. -/
def name : MessageType → String
  | device => "DeviceOption"
  | tensor => "TensorProto"
  | segment => "TensorProto.Segment"
  | argument => "Argument"
  | operator => "OperatorDef"
  | partition => "PartitionInfo"
  | net => "NetDef"

def all : List MessageType := [device, tensor, segment, argument, operator, partition, net]

def ofName? (name : String) : Option MessageType := all.find? (·.name = name)

def field? (type : MessageType) (number : Nat) : Option FieldSpec :=
  type.fields.find? (·.number = number)

def fieldNamed? (type : MessageType) (name : String) : Option FieldSpec :=
  type.fields.find? (·.name = name)

end MessageType

/-- The element types of stored tensors, by name and number; number eleven is not in use. -/
def elementTypes : List (String × Int) :=
  [("UNDEFINED", 0), ("FLOAT", 1), ("INT32", 2), ("BYTE", 3), ("STRING", 4), ("BOOL", 5),
    ("UINT8", 6), ("INT8", 7), ("UINT16", 8), ("INT16", 9), ("INT64", 10), ("FLOAT16", 12),
    ("DOUBLE", 13), ("ZERO_COLLISION_HASH", 14), ("REBATCHING_BUFFER", 15)]

/-- Whether a number is listed among the element types. -/
def isElementType (number : Int) : Bool := elementTypes.any (·.2 = number)

def elementTypeName? (number : Int) : Option String :=
  (elementTypes.find? (·.2 = number)).map Prod.fst

def elementTypeNumber? (name : String) : Option Int := elementTypes.lookup name

/-- The number of a field type in the format's description of itself. -/
def FieldType.code : FieldType → Nat
  | scalar .double => 1
  | scalar .float => 2
  | scalar .int64 => 3
  | scalar .int32 => 5
  | scalar .bool => 8
  | scalar .string => 9
  | message _ => 11
  | scalar .bytes => 12
  | scalar .uint32 => 13
  | scalar .elementType => 14

/-- The name of the message type or enumeration of a field, within the format's package. -/
def FieldType.typeName? : FieldType → Option String
  | message type => some ("caffe2." ++ type.name)
  | scalar .elementType => some ("caffe2." ++ MessageType.tensor.name ++ ".DataType")
  | scalar _ => none

/-- The word for a cardinality in the format's description of itself. -/
def Cardinality.text : Cardinality → String
  | optional => "optional"
  | required => "required"
  | repeated => "repeated"

def MessageType.enumerations : MessageType → List (String × List (String × Int))
  | tensor => [("DataType", elementTypes)]
  | _ => []

end NetImport.Descriptor
