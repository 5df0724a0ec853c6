import NetImport.Tensor.ElementType
import NetImport.Tensor.Item

/-!
# Common element types

Values of different element types are put side by side as values of their common type. Of two types
of numbers it is a type that holds the numbers of both, as far as there is one; next to texts
numbers become texts; times and spans are counted in a common step. Groups have a common type if
their fields have, one by one. What has nothing in common is kept as it is, as objects.
-/

namespace NetImport

namespace ElementType

/-- The number of bits of a real number that stands for a number of a type; flags need none. -/
def precision : ElementType → Nat
  | signed width | unsigned width => min (2 * width) 64
  | half => 16
  | single => 32
  | double => 64
  | extended => 128
  | complex width => width / 2
  | _ => 0

/-- The narrowest type of real or complex numbers with some bits for each real number. -/
def ofPrecision (isComplex : Bool) (bits : Nat) : ElementType :=
  if isComplex then complex (2 * max bits 32)
  else if bits ≤ 16 then half
  else if bits ≤ 32 then single
  else if bits ≤ 64 then double
  else extended

/-- Whether a type is one of complex numbers. -/
def isComplex : ElementType → Bool
  | complex _ => true
  | _ => false

/-- Whether a type is one of numbers. -/
def isNumber : ElementType → Bool
  | bool => true
  | type => type.precision ≠ 0

/-- The common type of a signed and an unsigned type; only real numbers may stand for the widest. -/
def joinSigns (signedWidth unsignedWidth : Nat) : ElementType :=
  if unsignedWidth < signedWidth then signed signedWidth
  else if unsignedWidth < 64 then signed (2 * unsignedWidth)
  else double

/-- The common type of two types of numbers. -/
def joinNumbers : ElementType → ElementType → ElementType
  | bool, other | other, bool => other
  | signed left, signed right => signed (max left right)
  | unsigned left, unsigned right => unsigned (max left right)
  | signed left, unsigned right => joinSigns left right
  | unsigned left, signed right => joinSigns right left
  | left, right =>
    ofPrecision (left.isComplex || right.isComplex) (max left.precision right.precision)

/-- The greatest length of the texts of a type; truth values have words as texts. -/
def textLength : ElementType → Nat
  | bool => 5
  | unsigned width => (toString ((1 <<< width : Nat) - 1)).length
  | signed width => (toString ((1 <<< width : Nat) - 1)).length + 1
  | half | single | double => 32
  | extended => 48
  | complex width => if width = 256 then 96 else 64
  | bytes length | text length => length
  | _ => 0

/-- Whether a value of a type can be a count of steps of a span. -/
def isCount : ElementType → Bool
  | bool | signed _ => true
  | unsigned width => width ≠ 64
  | _ => false

/-- The type of values in the common step of two steps, each of which may be missing. -/
def joinSteps? (type : Option TimeStep → ElementType) (areSpans : Bool) :
    Option TimeStep → Option TimeStep → Option ElementType
  | some left, some right => (left.common? right areSpans).map fun step => type step
  | left, right => some (type (left <|> right))

def join? (left right : ElementType) : Option ElementType :=
  match left, right with
  | object, _ | _, object => some object
  | span left, span right => joinSteps? span true left right
  | time left, time right | span left, time right | time left, span right =>
    joinSteps? time false left right
  | span step, other | other, span step => if other.isCount then some (span step) else none
  | anyText, text _ | text _, anyText => some anyText
  | text length, other | other, text length =>
    match other with
    | bytes _ | text _ => some (text (max length other.textLength))
    | _ => if other.isNumber then some (text (max length other.textLength)) else none
  | bytes left, bytes right => some (bytes (max left right))
  | bytes length, other | other, bytes length =>
    if other.isNumber then some (bytes (max length other.textLength)) else none
  | left, right =>
    if left = right then some left
    else if left.isNumber && right.isNumber then some (left.joinNumbers right)
    else none

end ElementType

/-- The element type of an item, which is kept as an object if no word or text holds it. -/
def Item.elementType : Item → ElementType
  | int value =>
    if fitsSigned value then .signed 64
    else if fitsUnsignedOnly value then .unsigned 64
    else .object
  | float _ => .double
  | flag _ => .bool
  | text value => .text value.length
  | bytes value => .bytes value.length
  | nothing => .object

/-- The common type of two fields, whose blocks must be the same; it has the usual byte order. -/
def CellType.join? (left right : CellType) : Option CellType :=
  if left.blocks = right.blocks then
    (left.type.join? right.type).map fun type => ⟨type, false, left.blocks⟩
  else none

namespace ElementSpec

def join? : ElementSpec → ElementSpec → Option ElementSpec
  | one left, one right => (left.join? right).map one
  | group lefts, group rights =>
    if lefts.length = rights.length then
      ((lefts.zip rights).mapM fun pair => CellType.join? pair.1 pair.2).map group
    else none
  | _, _ => none

/-- The common type of two element types, which is that of objects if there is no other. -/
def join (left right : ElementSpec) : ElementSpec := (left.join? right).getD (.ofType .object)

/-- The type of the values of an element type; groups are objects. -/
def valueType : ElementSpec → ElementType
  | one field => field.type
  | group _ => .object

end ElementSpec

end NetImport
