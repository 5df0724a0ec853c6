import NetImport.Descriptor.Message
import NetImport.Error

/-!
# Networks, operators and arguments

This file reads a message as the thing it describes: an argument, an operator, a network. Names and
types are labels, because a binary descriptor may give any bytes for them. An operator keeps the
message that it was read from, which is what a message about it shows.
-/

namespace NetImport.Descriptor

def Scalar.label : Scalar → Label
  | .text content => .text content
  | .bytes content => .raw content
  | _ => .text ""

def Scalar.integer? : Scalar → Option Int
  | .integer value => some value
  | _ => none

def Scalar.single? : Scalar → Option Binary32
  | .single value => some value
  | _ => none

def Scalar.bytes? : Scalar → Option (List UInt8)
  | .bytes value => some value
  | _ => none

namespace Message

/-- The label in a field that holds at most one; an absent one is empty. -/
def labelAt (number : Nat) (message : Message) : Label :=
  (((message.scalarsAt number).head?).map Scalar.label).getD (.text "")

def labelsAt (number : Nat) (message : Message) : List Label :=
  (message.scalarsAt number).map Scalar.label

end Message

/-- An argument: its name and the values that it may hold. -/
structure Argument where
  name : Label
  float? : Option Binary32
  int? : Option Int
  bytes? : Option (List UInt8)
  floats : List Binary32
  ints : List Int
  strings : List (List UInt8)
  net? : Option Message
  nets : List Message
  tensor? : Option Message
  tensors : List Message
  deriving DecidableEq, Repr

def Argument.ofMessage (message : Message) : Argument where
  name := message.labelAt 1
  float? := (message.scalarsAt 2).head?.bind Scalar.single?
  int? := (message.scalarsAt 3).head?.bind Scalar.integer?
  bytes? := (message.scalarsAt 4).head?.bind Scalar.bytes?
  floats := (message.scalarsAt 5).filterMap Scalar.single?
  ints := (message.scalarsAt 6).filterMap Scalar.integer?
  strings := (message.scalarsAt 7).filterMap Scalar.bytes?
  net? := (message.messagesAt 8).head?
  nets := message.messagesAt 9
  tensor? := (message.messagesAt 10).head?
  tensors := message.messagesAt 11

/-- An operator: its type, its name, the names of what it reads and writes, and its arguments. -/
structure Operator where
  type : Label
  name : Label
  inputs : List Label
  outputs : List Label
  arguments : List Argument
  source : Message
  deriving DecidableEq, Repr

namespace Operator

def ofMessage (message : Message) : Operator where
  type := message.labelAt 4
  name := message.labelAt 3
  inputs := message.labelsAt 1
  outputs := message.labelsAt 2
  arguments := (message.messagesAt 5).map Argument.ofMessage
  source := message

/-- The name of an operator: its own if it has one, else its first output, else its type. -/
def title (operator : Operator) : Label :=
  if operator.name = .text "" then operator.outputs.headD operator.type else operator.name

def input (operator : Operator) (slot : Nat) : Except Error Label :=
  match operator.inputs[slot]? with
  | some name => .ok name
  | none => .error (.missingInput operator.type operator.title slot operator.inputs.length)

/--
The name bound to an input slot, where a negative slot counts from behind the last one, as far as
words count.
-/
def inputAt (operator : Operator) (slot : Int) : Except Error Label :=
  if 0 ≤ slot then operator.input slot.toNat
  else if !fitsSigned slot then .error .rejectedType
  else if -slot ≤ operator.inputs.length then operator.input (operator.inputs.length + slot).toNat
  else .error .positionOutOfRange

end Operator

/-- A network: its operators in order and the names of its results. -/
structure Network where
  operators : List Operator
  externalOutputs : List Label
  deriving DecidableEq, Repr

def Network.ofMessage (message : Message) : Network where
  operators := (message.messagesAt 2).map Operator.ofMessage
  externalOutputs := message.labelsAt 8

end NetImport.Descriptor
