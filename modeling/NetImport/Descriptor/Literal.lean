import NetImport.Descriptor.NumberList
import NetImport.Text.Utf8

/-!
# Literals

A literal is a value from which an argument is made: an item, an array of numbers, or a list of
literals. Lists may be nested, up to as many levels as an array may have axes. A list takes its
shape from its first elements, into which the later ones have to fit; its pieces are taken in
row-major order. An empty list has no axes below its own and fits wherever there are no elements,
but then an array before it has too many axes for the list.
-/

namespace NetImport.Descriptor

/-- A value from which an argument is made. -/
inductive Literal where
  | item (value : Item)
  | array (value : NumericArray)
  | list (values : List Literal)

instance : Inhabited Literal := ⟨.item .nothing⟩

/-- A piece of a literal, with the number of lists that it lies in. -/
structure PlacedPiece where
  piece : Piece
  depth : Nat

/-- Whether a piece has the shape of its place in a literal of a shape. -/
def PlacedPiece.fits (placed : PlacedPiece) (shape : Shape) : Bool :=
  placed.piece.shape = shape.drop placed.depth

/-- A shape and the pieces that it was found from. -/
abbrev Unfolded := Shape × List PlacedPiece

/-- Accepts a shape where one is expected, unless it has too many axes below some lists. -/
def acceptShape (depth : Nat) (expected? : Option Shape) (shape : Shape) : Except Error Unit :=
  if depth + shape.length ≤ maximalRank ∧ expected?.all (· = shape) then .ok ()
  else .error .rejectedValue

/-- The shape that the elements of a list should have, if its length is the expected one. -/
def elementShape? (expected? : Option Shape) (length : Nat) : Except Error (Option Shape) :=
  match expected? with
  | none => .ok none
  | some [] => .error .rejectedValue
  | some (extent :: shape) => if extent = length then .ok (some shape) else .error .rejectedValue

mutual

/--
The pieces of a literal inside some lists, in row-major order, with the shape that the literals
after it should have.
-/
def Literal.unfold (depth : Nat) (expected? : Option Shape) : Literal → Except Error Unfolded
  | .item value => do
    acceptShape depth expected? []
    return ([], [⟨.item value, depth⟩])
  | .array value => do
    acceptShape depth expected? value.shape
    return (value.shape, [⟨.array value, depth⟩])
  | .list values => do
    if maximalRank ≤ depth then throw .rejectedValue
    let shape? ← elementShape? expected? values.length
    if values.isEmpty then return ([0], [])
    let (shape, pieces) ← unfoldAll (depth + 1) shape? values
    return ((values.length : Int) :: shape, pieces)

/-- The pieces of the elements of a list, with the shape that later elements should have. -/
def unfoldAll (depth : Nat) (expected? : Option Shape) : List Literal → Except Error Unfolded
  | [] => .ok (expected?.getD [], [])
  | value :: values => do
    let (shape, pieces) ← value.unfold depth expected?
    let (shape, others) ← unfoldAll depth (some shape) values
    return (shape, pieces ++ others)

end

/--
The pieces of a literal in row-major order. Storage must have room for all of them as values of
their common type, and each must have the shape of its place.
-/
def Literal.pieces (literal : Literal) : Except Error (List Piece) := do
  let (shape, placed) ← literal.unfold 0 none
  let pieces := placed.map PlacedPiece.piece
  if FitsStorage (Piece.commonElement pieces).size (shape.map Int.toNat) then
    if placed.all (·.fits shape) then return pieces
  throw .rejectedValue

/--
Whether a literal counts as present where an empty or zero one counts as absent. An array of several
numbers, or of none, is neither.
-/
def Literal.isPresent : Literal → Except Error Bool
  | .item value => .ok value.isPresent
  | .array value =>
    match value.cells with
    | [cell] => .ok cell.isPresent
    | _ => .error .rejectedValue
  | .list values => .ok (!values.isEmpty)

/-- The text of a literal that is a text, or bytes that encode one. -/
def Literal.asText : Literal → Except Error String
  | .item (.text value) => .ok value
  | .item (.bytes value) =>
    match Text.decodeUtf8? value with
    | some content => .ok content
    | none => .error .malformedText
  | _ => .error .rejectedType

/--
The tensor of a literal, each value narrowed to single precision. Storage must have room for the
tensor of a list before its pieces are looked at, and what a piece holds is looked at before its
shape.
-/
def Literal.toTensor : Literal → Except Error Tensor
  | .array value => value.cast
  | literal => do
    let (shape, placed) ← literal.unfold 0 none
    let _ ← Tensor.allocate shape
    let numbers ← placed.mapM fun placed => do
      let numbers ← placed.piece.numbers
      if placed.fits shape then return numbers else .error .rejectedValue
    Tensor.ofValues shape numbers.flatten.toArray

end NetImport.Descriptor
