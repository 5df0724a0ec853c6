import NetImport.Descriptor.Leaf
import NetImport.Tensor.CommonType

/-!
# Pieces of lists

A list is put together from pieces: items, and whole arrays of numbers. The element type of a list
is joined from the types of its pieces, from the first one on; an array has one even if it has no
cells.
-/

namespace NetImport.Descriptor

inductive Piece where
  | item (value : Item)
  | array (value : NumericArray)

namespace Piece

/-- The element type of the values of a piece. -/
def element : Piece → ElementSpec
  | item value => .ofType value.elementType
  | array value => value.element

def shape : Piece → Shape
  | item _ => []
  | array value => value.shape

/-- The values of a piece in row-major order. -/
def leaves : Piece → List Leaf
  | item value => [.item value]
  | array value => value.cells.map fun cell => .cell cell (value.extents = [])

/-- The single-precision numbers of a piece; nothing denotes what is not a number. -/
def numbers : Piece → Except Error (List Binary32)
  | item .nothing => .ok [(Numeral.notANumber false).narrow]
  | item value => do return [(← value.toBinary64).narrow]
  | array value => value.numbers

/--
The counts of a piece among times or spans that are counted in a step. Spans among times keep their
own counts.
-/
def countsIn (step : Option TimeStep) (areSpans : Bool) (piece : Piece) :
    Except Error (List Int) :=
  let converted (source : Option TimeStep) (value : NumericArray) : Except Error (List Int) := do
    let convert ← TimeStep.converter source step areSpans
    (value.values.toList.map ElementType.steps).mapM convert
  match piece with
  | item value => .ok [value.integer?.getD 0]
  | array value =>
    match value.element with
    | .one ⟨.time source, _, _⟩ => converted source value
    | .one ⟨.span source, _, _⟩ => converted (if areSpans then source else step) value
    | _ => .ok (value.cells.map fun cell => cell.item.integer?.getD 0)

/-- The common element type of some pieces; there is no need of one if there are none. -/
def commonElement : List Piece → ElementSpec
  | [] => .ofType .double
  | piece :: pieces => pieces.foldl (fun spec piece => spec.join piece.element) piece.element

end Piece

end NetImport.Descriptor
