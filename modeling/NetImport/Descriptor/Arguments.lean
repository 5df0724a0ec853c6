import NetImport.Descriptor.Operator
import NetImport.Registry
import NetImport.Text.Utf8

/-!
# Arguments by name

The arguments of an operator are looked up by name; of several arguments of one name the last one
counts. Each way of reading asks for one variant of value. An absent argument is an error unless
there is a default, and an argument that holds another variant is an error in any case. A list is
read as such when the argument holds no single value and no list of another type, so that an
argument without any value is read as an empty list.
-/

namespace NetImport.Descriptor

/-- The arguments of an operator of some type, by name. -/
structure Arguments where
  operatorType : String
  table : Registry Label Argument
  deriving DecidableEq, Repr

namespace Arguments

/-- The arguments of an operator; the last one of a name replaces the earlier ones. -/
def ofList (operatorType : String) (arguments : List Argument) : Arguments where
  operatorType
  table := arguments.foldl (fun table argument => table.bind argument.name argument) .empty

def contains (arguments : Arguments) (name : String) : Bool := arguments.table.contains (.text name)

def size (arguments : Arguments) : Nat := arguments.table.size

/-- Reads an argument if it is present, else takes the default if there is one. -/
def read {α : Type} (arguments : Arguments) (name : String) (default? : Option α)
    (extract : Argument → Except Error α) : Except Error α :=
  match arguments.table.get? (.text name), default? with
  | some argument, _ => extract argument
  | none, some value => .ok value
  | none, none => .error (.missingArgument arguments.operatorType name)

/-- A value that is present, or the error that the argument holds another variant. -/
def expect {α : Type} (arguments : Arguments) (name : String) (variant : Variant) :
    Option α → Except Error α
  | some value => .ok value
  | none => .error (.wrongVariant arguments.operatorType name variant)

def int (arguments : Arguments) (name : String) (default? : Option Int) : Except Error Int :=
  arguments.read name default? fun argument => arguments.expect name .int argument.int?

/-- A single number, widened to double precision. -/
def float (arguments : Arguments) (name : String) (default? : Option Binary64) :
    Except Error Binary64 :=
  arguments.read name default? fun argument =>
    (arguments.expect name .float argument.float?).map Binary32.widen

def str (arguments : Arguments) (name : String) (default? : Option String) : Except Error String :=
  arguments.read name default? fun argument => do
    let bytes ← arguments.expect name .str argument.bytes?
    match Text.decodeUtf8? bytes with
    | some text => .ok text
    | none => .error .malformedText

/-- Whether an argument holds a single number or text. -/
def isSingle (argument : Argument) : Bool :=
  argument.int?.isSome || argument.float?.isSome || argument.bytes?.isSome

def ints (arguments : Arguments) (name : String) (default? : Option (List Int)) :
    Except Error (List Int) :=
  arguments.read name default? fun argument =>
    if argument.floats ≠ [] ∨ argument.strings ≠ [] ∨ isSingle argument then
      .error (.wrongVariant arguments.operatorType name .ints)
    else .ok argument.ints

def floats (arguments : Arguments) (name : String) (default? : Option (List Binary32)) :
    Except Error (List Binary32) :=
  arguments.read name default? fun argument =>
    if argument.ints ≠ [] ∨ argument.strings ≠ [] ∨ isSingle argument then
      .error (.wrongVariant arguments.operatorType name .floats)
    else .ok argument.floats

/-- The order of axes that an operator assumes when it has no argument for it. -/
def defaultOrder : String := "NCHW"

/-- The axis of the channels: the second one in the default order, the last one in the other. -/
def channelAxis (arguments : Arguments) : Except Error Int := do
  let order ← arguments.str "order" (some defaultOrder)
  if order = "NCHW" then return 1
  else if order = "NHWC" then return 3
  else .error (.unknownOrder order arguments.operatorType)

end Arguments

end NetImport.Descriptor
