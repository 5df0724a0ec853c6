import NetImport.Number.Word
import NetImport.Tensor.Basic

/-!
# Transposition of tensors

Transposition reorders the axes of a tensor and moves its numbers accordingly: the cell of the
result at a multi-index is the cell of the source whose position on the axis listed `i`-th is the
`i`-th position. Axes may be counted from the end by negative numbers. A list of axes of the wrong
length, or one that holds an integer beyond the signed words, is refused before any single axis is
looked at. A single axis is cut down to a signed word of half that width.
-/

namespace NetImport.Tensor

/-- Resolves axes that may count from the end, refusing axes outside the rank and repeated ones. -/
def resolveAxes (rank : Nat) : List Int → List Nat → Except Error (List Nat)
  | [], resolved => .ok resolved.reverse
  | axis :: axes, resolved =>
    let short := axis.bmod shortWordCount
    let counted := if short < 0 then short + rank else short
    if counted < 0 ∨ rank ≤ counted then .error .axisOutOfRange
    else if counted.toNat ∈ resolved then .error .rejectedValue
    else resolveAxes rank axes (counted.toNat :: resolved)

/-- The position on each axis of the source, given the positions on the listed axes. -/
def sourceIndex (axes : List Nat) (index : List Nat) : List Nat :=
  (List.range axes.length).map fun axis => index.getD (axes.idxOf axis) 0

/-- Reorders resolved axes. -/
def permuteAxes (tensor : Tensor) (axes : List Nat) : Except Error Tensor :=
  ofCells (axes.map fun axis => tensor.extents.getD axis 1)
    fun index => tensor.get (sourceIndex axes index)

/--
Reorders the axes of a tensor. The result of reordering no axes at all is kept as one row of one
number.
-/
def transpose (tensor : Tensor) (permutation : List Int) : Except Error Tensor :=
  if permutation.length ≠ tensor.extents.length ∨ !permutation.all fitsSigned then
    .error .rejectedValue
  else if permutation = [] then ofCells [1] fun _ => tensor.get []
  else do
    let axes ← resolveAxes tensor.extents.length permutation []
    tensor.permuteAxes axes

end NetImport.Tensor
