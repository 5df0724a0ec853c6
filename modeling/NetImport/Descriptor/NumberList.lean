import NetImport.Descriptor.Piece

/-!
# List arguments

The values of a list make an argument of integers or of numbers. Only integers make integers; mixed
values are integers if each of them is, but truth values alone or kept as they are make neither.
-/

namespace NetImport.Descriptor

inductive NumberList where
  | ints (values : List Int)
  | floats (values : List Binary32)
  deriving DecidableEq, Repr

namespace NumberList

/-- Integers as a list argument, which holds signed words. -/
def ofIntegers (values : List Int) : Except Error NumberList :=
  if values.all fitsSigned then .ok (ints values) else .error .rejectedValue

/-- The values that a way of reading finds, as numbers. -/
def ofReadings (read : Leaf → Except Error Binary64) (leaves : List Leaf) :
    Except Error NumberList :=
  (leaves.mapM read).map fun numbers => floats (numbers.map Binary64.narrow)

/-- A value kept as it is, where only integers are expected; a truth value is not one. -/
def keptInteger (leaf : Leaf) : Except Error Int :=
  match leaf.toItem with
  | .int value => if fitsSigned value then .ok value else .error .rejectedValue
  | _ => .error .rejectedType

/-- Times or spans, which are integers only if none of them is a date or a span of days. -/
def ofCounts (item : Int → Item) (counts : List Int) : Except Error NumberList :=
  match counts.mapM fun count => (item count).integer? with
  | some values => ofIntegers values
  | none => .error .rejectedType

/-- The values of a list argument with the given pieces. -/
def ofPieces (pieces : List Piece) : Except Error NumberList := do
  let leaves := pieces.flatMap Piece.leaves
  match (Piece.commonElement pieces).valueType with
  | .object | .record _ =>
    if leaves.all Leaf.isInteger then (leaves.mapM keptInteger).map ints
    else ofReadings Leaf.toBinary64 leaves
  | .text _ =>
    leaves.forM Leaf.checkText
    ofReadings Leaf.toBinary64AsText leaves
  | .anyText => ofReadings Leaf.toBinary64AsAnyText (← leaves.mapM Leaf.toAnyText)
  | .bytes _ => ofReadings Leaf.toBinary64AsText leaves
  | .half | .single | .double | .extended | .complex 256 => ofReadings Leaf.toReal leaves
  | .complex _ | .bool => if leaves = [] then return ints [] else .error .rejectedType
  | .signed _ | .unsigned _ => ofIntegers (leaves.filterMap fun leaf => leaf.toItem.integer?)
  | .time step =>
    ofCounts (ElementType.timeItem step) (← pieces.mapM (Piece.countsIn step false)).flatten
  | .span step =>
    ofCounts (ElementType.spanItem step) (← pieces.mapM (Piece.countsIn step true)).flatten

end NumberList

end NetImport.Descriptor
