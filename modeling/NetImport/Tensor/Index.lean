/-!
# Row-major positions

The elements of a tensor lie in one row, the innermost axis varying fastest. A multi-index lists one
position per axis; `flatIndex` gives its place in the row and `unflatten` gives the multi-index of a
place.
-/

namespace NetImport

/-- The number of cells of a box with the given extents. -/
def cellCount (extents : List Nat) : Nat := extents.foldr (· * ·) 1

@[simp] theorem cellCount_nil : cellCount [] = 1 := rfl

@[simp] theorem cellCount_cons (extent : Nat) (rest : List Nat) :
    cellCount (extent :: rest) = extent * cellCount rest := rfl

/-- The place in the row of a multi-index. -/
def flatIndex : List Nat → List Nat → Nat
  | _ :: rest, position :: positions => position * cellCount rest + flatIndex rest positions
  | _, _ => 0

/-- The multi-index of a place in the row. -/
def unflatten : List Nat → Nat → List Nat
  | [], _ => []
  | _ :: rest, place => place / cellCount rest :: unflatten rest (place % cellCount rest)

@[simp] theorem length_unflatten (extents : List Nat) (place : Nat) :
    (unflatten extents place).length = extents.length := by
  induction extents generalizing place with
  | nil => rfl
  | cons extent rest hypothesis => simp [unflatten, hypothesis]

end NetImport
