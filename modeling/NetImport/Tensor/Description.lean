import NetImport.Tensor.ElementType
import NetImport.Tensor.Index

/-!
# Descriptions of bytes

Whoever shares the bytes of an array reads them through a description of its cells, which lists
their fields one after the other. A field that lies at multiples of its alignment is described as
aligned. From there on a reader puts each field at such a multiple and fills up the cell at its end,
until a field is described as packed. A description is valid if its reader finds as many bytes as
there are.
-/

namespace NetImport

/-- The number of bytes at multiples of which an element type is kept. -/
def ElementType.alignment : ElementType → Nat
  | bool | bytes _ | record _ => 1
  | signed width | unsigned width => width / 8
  | half => 2
  | single | text _ | complex 64 => 4
  | double | object | anyText | time _ | span _ | complex 128 => 8
  | extended | complex _ => 16

/--
Whether the bytes of a field can be described at all. Times and texts of any length cannot, nor can
the widest numbers in the reversed order.
-/
def CellType.isDescribable (field : CellType) : Bool :=
  match field.type with
  | .time _ | .span _ | .anyText => false
  | .extended | .complex 256 => !field.isReversed
  | _ => true

/--
How far the fields of a cell are laid out: where the next one lies, where the reader of the
description puts it, whether that is in the aligned form, and the multiple that the reader keeps.
-/
structure Placement where
  offset : Nat
  position : Nat
  isAligned : Bool
  alignment : Nat
  deriving DecidableEq, Repr

namespace Placement

/-- The first multiple of a number that is not below another number. -/
def roundUp (number multiple : Nat) : Nat := (number + multiple - 1) / multiple * multiple

/-- The placement at the start of a cell. -/
def start : Placement := ⟨0, 0, true, 1⟩

/--
The placement behind a field, given how many bytes lie between neighbouring cells along each axis. A
field whose bytes have no order is described in the form of the field before it.
-/
def place (strides : List Nat) (placement : Placement) (field : CellType) : Placement :=
  let alignment := field.type.alignment
  let isPlaced := (placement.offset :: strides).all (· % alignment = 0)
  let isAligned :=
    if field.type.orderedName?.isSome then isPlaced && !field.isReversed else placement.isAligned
  if isAligned then
    ⟨placement.offset + field.size, roundUp placement.position alignment + field.size, true,
      Nat.lcm placement.alignment alignment⟩
  else ⟨placement.offset + field.size, placement.position + field.size, false, placement.alignment⟩

/-- Whether the reader of the description of a whole cell finds as many bytes as there are. -/
def isComplete (placement : Placement) : Bool :=
  let multiple := if placement.isAligned then placement.alignment else 1
  roundUp placement.position multiple = placement.offset

end Placement

namespace ElementSpec

/-- The bytes between neighbouring cells along each axis that has some. -/
def strides (cellSize : Nat) : List Nat → List Nat
  | [] => []
  | extent :: extents =>
    let inner := cellCount (extents.filter (· ≠ 0))
    if 1 < extent then cellSize * inner :: strides cellSize extents else strides cellSize extents

/--
The element type by which the bytes of an array of some extents are described; a record has no
fields.
-/
def described (spec : ElementSpec) (extents : List Nat) : Except Error ElementSpec :=
  match spec with
  | one ⟨.record _, _, _⟩ => .ok (.group [])
  | one field => if field.isDescribable then .ok spec else .error .rejectedValue
  | group fields =>
    let placement := fields.foldl (Placement.place (strides spec.size extents)) .start
    if !fields.all (·.isDescribable) then .error .rejectedValue
    else if placement.isComplete then .ok spec
    else .error .unforeseenForm

end ElementSpec

end NetImport
