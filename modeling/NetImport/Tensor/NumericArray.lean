import NetImport.Tensor.Basic
import NetImport.Tensor.Cell
import NetImport.Tensor.Description

/-!
# Arrays of numbers

A caller may hand over numbers that are stored with any element type. When an array is made of
listed numbers, a block is filled with one number and its axes become the last axes of the array;
then the cells are given the shape of the array, in which one extent may be left open by a negative
number. Arrays can be cast to tensors; where the element type has to match, only that of tensors is
accepted.
-/

namespace NetImport

/--
An array of quantities that are stored with an element type. Of complex numbers these are the real
parts, which are all that a cast reads.
-/
structure NumericArray where
  element : ElementSpec
  extents : List Nat
  values : Array Quantity
  size_values : values.size = cellCount extents

namespace NumericArray

/-- The shape of an array; its extents are natural numbers. -/
def shape (array : NumericArray) : Shape := array.extents.map Int.ofNat

/-- The cells of an array in row-major order. -/
def cells (array : NumericArray) : List Cell :=
  array.values.toList.map fun number => ⟨array.element, number⟩

/--
The extents of a shape for a number of cells; an open extent is what the others leave. Every extent
must be a word.
-/
def closeShape (count : Nat) (shape : Shape) : Option (List Nat) :=
  let closed := (shape.filter (0 ≤ ·)).map Int.toNat
  if shape.any (!fitsSigned ·) then none
  else if shape.length = closed.length then some closed
  else if shape.length = closed.length + 1 ∧ cellCount closed ≠ 0 then
    some (shape.map fun extent => if extent < 0 then count / cellCount closed else extent.toNat)
  else none

/-- An array with cells of one field or group, in row-major order. -/
def ofCells (element : ElementSpec) (shape : Shape) (values : Array Quantity) :
    Except Error NumericArray :=
  match closeShape values.size shape with
  | none => .error .rejectedValue
  | some extents =>
    if size_values : values.size = cellCount extents then
      if FitsStorage element.size extents then .ok ⟨element, extents, values, size_values⟩
      else .error .rejectedValue
    else .error .rejectedValue

/-- An array of listed quantities, each of which fills a cell or a block of cells. -/
def ofValues (element : ElementSpec) (shape : Shape) (values : Array Quantity) :
    Except Error NumericArray :=
  match element.settled with
  | .one field =>
    let count := (field.blocks.map Shape.size).foldr (· * ·) 1
    let filled := values.toList.flatMap fun number => List.replicate count.toNat number
    ofCells (.one { field with blocks := [] }) shape filled.toArray
  | group =>
    if values.size ≠ 0 ∧ group.isOversized then .error .storageExhausted
    else ofCells group shape values

/-- The cells narrowed to single precision; even without cells, they must have just one field. -/
def numbers (array : NumericArray) : Except Error (List Binary32) :=
  if array.element.hasOneField then array.cells.mapM Cell.narrow else .error .rejectedType

/-- The array as a tensor, each cell narrowed to single precision. -/
def cast (array : NumericArray) : Except Error Tensor := do
  Tensor.ofValues array.shape (← array.numbers).toArray

/-- The array as it is seen through a description of its bytes. -/
def shared (array : NumericArray) : Except Error NumericArray := do
  return { array with element := ← array.element.described array.extents }

/-- The array as a tensor, if its element type is that of tensors. -/
def toTensor (array : NumericArray) : Except Error Tensor := do
  array.element.check
  array.cast

end NumericArray

end NetImport
