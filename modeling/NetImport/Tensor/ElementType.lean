import NetImport.Tensor.TimeStep

/-!
# Element types

The cells of an array have an element type. Most element types describe a single value, which may
lie in blocks: a block holds several cells of what it is made of. A group has several fields in each
cell. Tensors of a graph hold single-precision numbers in the usual byte order; all other element
types are named when they are refused.
-/

namespace NetImport

/--
The types of single values; widths are in bits, lengths in characters or bytes. A length of zero is
not fixed yet.
-/
inductive ElementType where
  | bool
  | signed (width : Nat)
  | unsigned (width : Nat)
  | half
  | single
  | double
  | extended
  | complex (width : Nat)
  | object
  | bytes (length : Nat)
  | text (length : Nat)
  | anyText
  | record (length : Nat)
  | time (step : Option TimeStep)
  | span (step : Option TimeStep)
  deriving DecidableEq, Repr

namespace ElementType

/-- The text of a step that may be missing. -/
def stepText (step : Option TimeStep) : String := (step.map TimeStep.text).getD ""

/-- The name of an element type in the usual byte order. -/
def name : ElementType → String
  | bool => "bool"
  | signed width => s!"int{width}"
  | unsigned width => s!"uint{width}"
  | half => "float16"
  | single => "float32"
  | double => "float64"
  | extended => "float128"
  | complex width => s!"complex{width}"
  | object => "object"
  | bytes length => s!"|S{length}"
  | text length => s!"<U{length}"
  | anyText => "StringDType()"
  | record length => s!"|V{length}"
  | time step => "datetime64" ++ stepText step
  | span step => "timedelta64" ++ stepText step

/-- The short name of an element type whose bytes have an order; the others have none. -/
def orderedName? : ElementType → Option String
  | signed width => if width = 8 then none else some s!"i{width / 8}"
  | unsigned width => if width = 8 then none else some s!"u{width / 8}"
  | half => some "f2"
  | single => some "f4"
  | double => some "f8"
  | extended => some "f16"
  | complex width => some s!"c{width / 8}"
  | text length => some s!"U{length}"
  | time step => some ("M8" ++ stepText step)
  | span step => some ("m8" ++ stepText step)
  | bool | object | bytes _ | anyText | record _ => none

def size : ElementType → Nat
  | bool => 1
  | signed width | unsigned width | complex width => width / 8
  | half => 2
  | single => 4
  | double | object | time _ | span _ => 8
  | extended | anyText => 16
  | bytes length | record length => length
  | text length => 4 * length

/-- An element type with its length fixed; without a length it has none. -/
def withLength? (length : Nat) : ElementType → Option ElementType
  | bytes 0 => some (bytes length)
  | text 0 => some (text length)
  | record 0 => some (record length)
  | _ => none

/-- An element type whose length, if it is not fixed yet, is what any number fits. -/
def settled : ElementType → ElementType
  | bytes 0 => bytes 32
  | text 0 => text 32
  | record 0 => record 8
  | type => type

end ElementType

/-- The type of a field: a single value with the order of its bytes and the blocks around it. -/
structure CellType where
  type : ElementType
  isReversed : Bool
  blocks : List Shape
  deriving DecidableEq, Repr

namespace CellType

def size (field : CellType) : Nat :=
  field.blocks.foldl (fun size block => size * block.size.toNat) field.type.size

/-- Whether the blocks of a field have any cells. -/
def hasCells (field : CellType) : Bool := field.blocks.all (·.size ≠ 0)

/-- The short name of the type of a field without its blocks, between quotation marks. -/
def shortName (field : CellType) : String :=
  let mark := if field.isReversed then ">" else "<"
  let sized (letter : String) (length : Nat) := if length = 0 then letter else s!"{letter}{length}"
  let name :=
    match field.type with
    | .bool => "?"
    | .signed 8 => "i1"
    | .unsigned 8 => "u1"
    | .object => "O"
    | .anyText => "T"
    | .bytes length => sized "S" length
    | .record length => sized "V" length
    | .text length => mark ++ sized "U" length
    | type => mark ++ type.orderedName?.getD ""
  "'" ++ name ++ "'"

/-- The short name of the type of a field and the shape of a block around it, with a comma. -/
def blockText (inner : String) (block : Shape) : String := inner ++ ", " ++ block.parenText

/-- The name of the type of a field within some blocks, the outermost one first. -/
def nestedName (field : CellType) : List Shape → String
  | [] => field.shortName
  | block :: inner => "(" ++ blockText (field.nestedName inner) block ++ ")"

/-- The name of the type of a field that stands alone. -/
def name (field : CellType) : String :=
  match field.blocks, field.type.orderedName? with
  | [], some short => if field.isReversed then ">" ++ short else field.type.name
  | [], none => field.type.name
  | blocks, _ => field.nestedName blocks

/-- The name of a field of a group, in which fields are numbered. -/
def numberedName (index : Nat) : String := s!"'f{index}'"

/-- The entry of a field in the name of a group. -/
def entryText (field : CellType) (index : Nat) : String :=
  let described :=
    match field.blocks with
    | [] => field.shortName
    | block :: inner => blockText (field.nestedName inner) block
  "(" ++ numberedName index ++ ", " ++ described ++ ")"

def sizeOf (fields : List CellType) : Nat := (fields.map size).foldr (· + ·) 0

/-- The number of bytes of some fields as it is counted in short words. -/
def shortSize (fields : List CellType) : Int := (sizeOf fields : Int).bmod shortWordCount

/-- Some texts between brackets. -/
def listed (texts : List String) : String := "[" ++ ", ".intercalate texts ++ "]"

/-- The name of a group of fields, whose places are told if short words do not count its bytes. -/
def groupName (fields : List CellType) : String :=
  if shortSize fields = sizeOf fields then
    listed (fields.zipIdx.map fun (field, index) => field.entryText index)
  else
    let places := List.range fields.length
    let offset (place : Nat) : String := toString (shortSize (fields.take place))
    "\x7b'names': " ++ listed (places.map numberedName) ++
      ", 'formats': " ++ listed (fields.map fun field => field.nestedName field.blocks) ++
      ", 'offsets': " ++ listed (places.map offset) ++
      ", 'itemsize': " ++ toString (shortSize fields) ++ "\x7d"

end CellType

/-- The type of the cells of an array: one field, or a group of fields. -/
inductive ElementSpec where
  | one (field : CellType)
  | group (fields : List CellType)
  deriving DecidableEq, Repr

namespace ElementSpec

/-- A single value in the usual byte order. -/
def ofType (type : ElementType) : ElementSpec := .one ⟨type, false, []⟩

/-- The element type of the tensors of a graph. -/
def graph : ElementSpec := .ofType .single

def name : ElementSpec → String
  | one field => field.name
  | group fields => CellType.groupName fields

def size : ElementSpec → Nat
  | one field => field.size
  | group fields => CellType.sizeOf fields

/-- Whether short words count the bytes of a cell as a negative number, which storage never has. -/
def isOversized : ElementSpec → Bool
  | one _ => false
  | group fields => CellType.shortSize fields < 0

/-- Whether the cells of an element type have just one field. -/
def hasOneField : ElementSpec → Bool
  | one _ | group [_] => true
  | group _ => false

/--
An element type with its length fixed. Blocks without any cells have no length either, and become a
record.
-/
def settled : ElementSpec → ElementSpec
  | one field =>
    if field.hasCells then .one { field with type := field.type.settled }
    else .ofType (ElementType.record 0).settled
  | group fields => .group fields

/-- Accepts an element type when tensors of a graph can have it. -/
def check (spec : ElementSpec) : Except Error Unit :=
  if spec = graph then .ok () else .error (.invalid (.unsupportedElement spec.name))

end ElementSpec

end NetImport
