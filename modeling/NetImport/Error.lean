import NetImport.Label
import NetImport.Number.Word
import NetImport.Shape

/-!
# Failures

Every failure has a cause, which carries what its message mentions. Causes fall into categories; the
categories that concern the model being imported have a kind with a short tag, and all kinds but one
are the model's own fault. Failures of the underlying storage and text services carry no message.
-/

namespace NetImport

/-- The classification of import failures. -/
inductive ErrorKind where
  | io
  | parse
  | missingAttribute
  | attributeType
  | valueCountMismatch
  | unsupportedKind
  | danglingReference
  | unsupportedConfiguration
  | missingOutput
  deriving DecidableEq, Repr

namespace ErrorKind

/-- All kinds, in the order in which they are documented. -/
def all : List ErrorKind :=
  [io, parse, missingAttribute, attributeType, valueCountMismatch, unsupportedKind,
    danglingReference, unsupportedConfiguration, missingOutput]

def tag : ErrorKind → String
  | io => "io"
  | parse => "parse"
  | missingAttribute => "missing_attribute"
  | attributeType => "attribute_type"
  | valueCountMismatch => "value_count_mismatch"
  | unsupportedKind => "unsupported_kind"
  | danglingReference => "dangling_reference"
  | unsupportedConfiguration => "unsupported_configuration"
  | missingOutput => "missing_output"

/-- The model is at fault, unless an attribute was read with the wrong variant. -/
def isInputError (kind : ErrorKind) : Bool := kind != attributeType

end ErrorKind

/-- Why a path does not lead to a file. -/
inductive PathFault where
  | absent
  | directory
  | notDirectory
  | nameTooLong
  deriving DecidableEq, Repr

/-- The reason that a storage service gives, with its number. -/
def PathFault.reason : PathFault → String
  | absent => "[Errno 2] No such file or directory: "
  | directory => "[Errno 21] Is a directory: "
  | notDirectory => "[Errno 20] Not a directory: "
  | nameTooLong => "[Errno 36] File name too long: "

/-- The classes into which failures fall for a caller that handles them. -/
inductive Category where
  | file
  | format
  | missingAttribute
  | attributeVariant
  | valueCount
  | unsupportedOperator
  | unsupportedDirective
  | danglingReference
  | unsupportedConfiguration
  | missingOutput
  | invalidValue
  | invalidIndex
  | invalidAxis
  | invalidText
  | invalidSyntax
  | invalidType
  | unforeseen
  | unexplained
  | missingPart
  | overflow
  | exhausted
  | unencodable
  | storage (fault : PathFault)
  deriving DecidableEq, Repr

namespace Category

/-- The kind of an import failure; the remaining categories have none. -/
def kind? : Category → Option ErrorKind
  | file => some .io
  | format => some .parse
  | missingAttribute => some .missingAttribute
  | attributeVariant => some .attributeType
  | valueCount => some .valueCountMismatch
  | unsupportedOperator => some .unsupportedKind
  | unsupportedDirective => some .unsupportedKind
  | danglingReference => some .danglingReference
  | unsupportedConfiguration => some .unsupportedConfiguration
  | missingOutput => some .missingOutput
  | _ => none

/-- The categories of the failures of an import, which have a kind. -/
def importing : List Category :=
  [file, format, missingAttribute, attributeVariant, valueCount, unsupportedOperator,
    unsupportedDirective, danglingReference, unsupportedConfiguration, missingOutput]

/-- The text of a failure raised with some details: the first detail, else the tag of its kind. -/
def describe (category : Category) : List String → String
  | detail :: _ => detail
  | [] => (category.kind?.map ErrorKind.tag).getD ""

end Category

/-- The value that an argument was expected to hold. -/
inductive Variant where
  | int
  | float
  | str
  | ints
  | floats
  deriving DecidableEq, Repr

def Variant.text : Variant → String
  | int => "int"
  | float => "float"
  | str => "str"
  | ints => "ints"
  | floats => "floats"

/-- What went wrong. -/
inductive Error where
  | unreadableFile (path : String) (fault : PathFault)
  | unopenableFile (fault : PathFault)
  | oversizedDescriptor (path : String) (size limit : Int)
  | malformedDescriptor (path : String)
  | missingArgument (operatorType name : String)
  | wrongVariant (operatorType name : String) (variant : Variant)
  | unknownOrder (order operatorType : String)
  | sidePadding (arguments : List String) (operatorType : String)
  | unknownBroadcast (operatorType : String) (value : Int)
  | nonSquareGlobalPooling (height width : Int)
  | valueCountMismatch (count : Nat) (shape : Shape)
  | unsupportedOperator (operatorType : Label) (dump : String)
  | unsupportedDirective (directiveType : Label) (dump : String)
  | unknownTensor (name : Label)
  | unknownNode (name : Label)
  | missingInput (operatorType operatorName : Label) (slot bound : Nat)
  | sumWithoutInputs (operatorName : Label)
  | noExternalOutput
  | invalidHandle (handle : Int)
  | invalid (fault : ShapeFault)
  | unsupportedArgument (valueType name : String)
  | rejectedValue
  | rejectedType
  | rejectedSyntax
  | unforeseenForm
  | unexplained
  | numberTooLarge
  | storageExhausted
  | axisOutOfRange
  | positionOutOfRange
  | malformedText
  | partNotPresent
  | missingRequiredField
  deriving DecidableEq, Repr

namespace Error

def category : Error → Category
  | unreadableFile .. => .file
  | unopenableFile fault => .storage fault
  | oversizedDescriptor .. => .format
  | malformedDescriptor .. => .format
  | missingArgument .. => .missingAttribute
  | wrongVariant .. => .attributeVariant
  | unknownOrder .. => .unsupportedConfiguration
  | sidePadding .. => .unsupportedConfiguration
  | unknownBroadcast .. => .unsupportedConfiguration
  | nonSquareGlobalPooling .. => .unsupportedConfiguration
  | valueCountMismatch .. => .valueCount
  | unsupportedOperator .. => .unsupportedOperator
  | unsupportedDirective .. => .unsupportedDirective
  | unknownTensor .. => .danglingReference
  | unknownNode .. => .danglingReference
  | missingInput .. => .danglingReference
  | sumWithoutInputs .. => .danglingReference
  | noExternalOutput => .missingOutput
  | invalidHandle .. => .invalidIndex
  | invalid .. => .invalidValue
  | unsupportedArgument .. => .invalidType
  | rejectedValue => .invalidValue
  | rejectedType => .invalidType
  | rejectedSyntax => .invalidSyntax
  | unforeseenForm => .unforeseen
  | unexplained => .unexplained
  | numberTooLarge => .overflow
  | storageExhausted => .exhausted
  | axisOutOfRange => .invalidAxis
  | positionOutOfRange => .invalidIndex
  | malformedText => .invalidText
  | partNotPresent => .missingPart
  | missingRequiredField => .unencodable

/--
The message of a failure; failures of storage and text services have none, nor has one that would
show an integer with too many digits.
-/
def message? : Error → Option String
  | unreadableFile path fault =>
      some (s!"Can't find the model or network file {path}: " ++ fault.reason ++ Text.quote path)
  | oversizedDescriptor path size limit =>
      some s!"Descriptor {path} is {size} bytes, exceeding the limit of {limit} bytes"
  | malformedDescriptor path => some s!"Failed to parse the network descriptor {path}"
  | missingArgument operatorType name => some s!"{operatorType} requires argument '{name}'"
  | wrongVariant operatorType name variant =>
      some (s!"{operatorType} argument '{name}' has no " ++ variant.text ++ " value")
  | unknownOrder order operatorType => some s!"Invalid order field '{order}' on {operatorType}"
  | sidePadding arguments operatorType =>
      some ("Use of " ++ ", ".intercalate arguments ++
        s!" on {operatorType} is currently unsupported")
  | unknownBroadcast operatorType value =>
      some s!"{operatorType} broadcast={value} is not supported"
  | nonSquareGlobalPooling height width =>
      some s!"Global pooling over a non-square {height}x{width} input is unsupported"
  | valueCountMismatch count shape =>
      some (s!"The number of serialized values ({count}) does not match the size of the tensor " ++
        shape.parenText ++ " (" ++ toString shape.size ++ ")")
  | unsupportedOperator operatorType dump =>
      some s!"Unsupported operator '{operatorType.shown}'\n{dump}"
  | unsupportedDirective directiveType dump =>
      some s!"Unsupported weight kind '{directiveType.shown}'\n{dump}"
  | unknownTensor name => some s!"There is no tensor registered with the name '{name.shown}'"
  | unknownNode name => some s!"Could not find a node with the name '{name.shown}'"
  | missingInput operatorType operatorName slot bound =>
      some (s!"{operatorType.shown} '{operatorName.shown}' expects input #{slot}, " ++
        s!"but only {bound} are bound")
  | sumWithoutInputs operatorName => some s!"Sum '{operatorName.shown}' has no inputs"
  | noExternalOutput => some "Network needs external outputs defined"
  | invalidHandle handle => some s!"Invalid tensor handle {handle}"
  | invalid fault => if fault.integers.all isWritable then some fault.message else none
  | unsupportedArgument valueType name =>
      some s!"Unsupported argument value type {valueType} for {name}"
  | rejectedValue | rejectedType | rejectedSyntax | unforeseenForm | unexplained | numberTooLarge
  | storageExhausted | axisOutOfRange | positionOutOfRange | malformedText | partNotPresent
  | missingRequiredField | unopenableFile _ => none

end Error

/-- Lets shape arithmetic run among operations that can fail for other causes. -/
def ofShapeResult {α : Type} : Except ShapeFault α → Except Error α
  | .ok value => .ok value
  | .error fault => .error (.invalid fault)

end NetImport
