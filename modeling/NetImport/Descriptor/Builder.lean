import NetImport.Descriptor.Literal
import NetImport.Descriptor.Message
import NetImport.Registry

/-!
# Building descriptors

Arguments, operators, weight directives and networks are made from plain values. A single value
makes an argument of one value and a list one of integers or of numbers; the arguments of an
operator are put in the order of their names.
-/

namespace NetImport.Descriptor.Builder

open NetImport.Text

/-- The values of a string field that is present. -/
def text (value : String) : FieldValues := .scalars [.text value]

def texts (values : List String) : FieldValues := .scalars (values.map .text)

/-- The values of a string field that is absent when the text is empty. -/
def textUnlessEmpty (value : String) : FieldValues :=
  if value = "" then .scalars [] else text value

def singles (values : List Binary32) : FieldValues := .scalars (values.map .single)

/-- The message of an argument with a name and some values. -/
def namedArgument (name : String) (values : List (Nat × FieldValues)) : Message :=
  .ofFields ((1, text name) :: values) []

/-- The values that a literal gives to the argument of a name. -/
def argumentValues (name : String) : Literal → Except Error (List (Nat × FieldValues))
  | .item (.int value) =>
    if fitsSigned value then .ok [(3, .scalars [.integer value])] else .error .rejectedValue
  | .item (.flag value) => .ok [(3, .scalars [.integer value.toNat])]
  | .item (.float value) => .ok [(2, .scalars [.single value.narrow])]
  | .item (.text value) => .ok [(4, .scalars [.bytes (encodeUtf8 value)])]
  | .item (.bytes value) => .ok [(4, .scalars [.bytes value])]
  | .item .nothing => .error (.unsupportedArgument "NoneType" name)
  | literal => do
    match ← NumberList.ofPieces (← literal.pieces) with
    | .ints values => return [(6, .scalars (values.map .integer))]
    | .floats values => return [(5, singles values)]

def argument (name : String) (value : Literal) : Except Error Message :=
  (argumentValues name value).map (namedArgument name)

/-- The message of an operator with the given arguments. -/
def operatorOf (type : String) (inputs outputs : List String) (name : String)
    (arguments : List Message) : Message :=
  .ofFields [(1, texts inputs), (2, texts outputs), (3, textUnlessEmpty name), (4, text type),
    (5, .messages arguments)] []

/-- Named literals, of which the last one of a name counts. -/
def distinct (arguments : List (String × Literal)) : List (String × Literal) :=
  let table : Registry String Literal :=
    arguments.foldl (fun table entry => table.bind entry.1 entry.2) .empty
  table.entries

/-- Named literals in the order of their names. -/
def sortArguments (arguments : List (String × Literal)) : List (String × Literal) :=
  arguments.mergeSort fun left right => left.1 ≤ right.1

/-- The names that an argument of an operator cannot have, because they stand for other parts. -/
def reservedNames : List String := ["op_type", "inputs", "outputs"]

/-- The name by which a literal, given among the arguments, names the operator itself. -/
def operatorName (value : Literal) : Except Error String := do
  if ← value.isPresent then value.asText else return ""

/--
An operator whose arguments are made from literals. If it is given no name, the literal of the
argument called `name` gives it one.
-/
def operator (type : String) (inputs outputs : List String) (name? : Option String)
    (arguments : List (String × Literal)) : Except Error Message := do
  let (naming, others) := (distinct arguments).partition fun entry => entry.1 = "name"
  if others.any fun entry => entry.1 ∈ reservedNames then .error .rejectedType
  else
    let name ←
      match name?, naming with
      | some _, _ :: _ => .error .rejectedType
      | some name, [] => .ok name
      | none, entry :: _ => operatorName entry.2
      | none, [] => .ok ""
    let made ← (sortArguments others).mapM fun entry => argument entry.1 entry.2
    return operatorOf type inputs outputs name made

/-- A directive that lists the values of a tensor for all its outputs. -/
def listedTensor (outputs : List String) (value : Literal) : Except Error Message := do
  let tensor ← value.toTensor
  let shapeArgument := namedArgument "shape" [(6, .scalars (tensor.shape.map .integer))]
  let valuesArgument := namedArgument "values" [(5, singles tensor.data.toList)]
  return operatorOf "GivenTensorFill" [] outputs "" [shapeArgument, valuesArgument]

/-- A directive that provides a tensor of zeros. -/
def constantTensor (output : String) (shape : Shape) : Except Error Message :=
  let extents := shape.map fun extent => Literal.item (.int extent)
  operator "ConstantFill" [] [output] none [("shape", .list extents)]

/-- A message put together by hand, whose integers must be values of their fields. -/
def checked (type : MessageType) (message : Message) : Except Error Message :=
  if message.fits type then .ok message else .error .rejectedValue

def network (operators : List Message) (name : String)
    (externalInputs externalOutputs : List String) : Message :=
  .ofFields [(1, textUnlessEmpty name), (2, .messages operators), (7, texts externalInputs),
    (8, texts externalOutputs)] []

end NetImport.Descriptor.Builder
