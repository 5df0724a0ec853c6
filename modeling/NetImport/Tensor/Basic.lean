import NetImport.Error
import NetImport.Number.Binary
import NetImport.Number.Word
import NetImport.Tensor.Index

/-!
# Tensors

A tensor is a shape that storage can hold together with one single-precision number per cell, in
row-major order. Tensors are built from listed values, filled with one value, or computed cell by
cell; a shape with a negative extent, too many axes or too many bytes is rejected.
-/

namespace NetImport

def maximalRank : Nat := 64

/--
Storage holds a limited number of axes, and its nonempty axes span at most as many bytes, given how
many each cell has, as a signed word can count.
-/
def FitsStorage (cellSize : Nat) (extents : List Nat) : Prop :=
  extents.length ≤ maximalRank ∧ 2 * (cellSize * cellCount (extents.filter (· ≠ 0))) < wordCount

instance (cellSize : Nat) (extents : List Nat) : Decidable (FitsStorage cellSize extents) :=
  inferInstanceAs (Decidable (_ ∧ _))

/-- The number of bytes of a single-precision number. -/
def singleSize : Nat := 4

/-- Whether storage can hold a tensor of some extents. -/
def Storable (extents : List Nat) : Prop := FitsStorage singleSize extents

instance (extents : List Nat) : Decidable (Storable extents) :=
  inferInstanceAs (Decidable (FitsStorage singleSize extents))

/-- A row-major array of single-precision numbers. -/
structure Tensor where
  extents : List Nat
  data : Array Binary32
  storable : Storable extents
  size_data : data.size = cellCount extents

namespace Tensor

/-- The shape of a tensor; its extents are natural numbers. -/
def shape (tensor : Tensor) : Shape := tensor.extents.map Int.ofNat

/-- The number at a multi-index; outside the tensor it is zero. -/
def get (tensor : Tensor) (index : List Nat) : Binary32 :=
  tensor.data.getD (flatIndex tensor.extents index) .zero

/-- The extents of a shape that storage can hold; a negative extent has none. -/
def allocate (shape : Shape) :
    Except Error { extents : List Nat // Storable extents ∧ extents.map Int.ofNat = shape } :=
  let extents := shape.map Int.toNat
  if valid : Storable extents ∧ extents.map Int.ofNat = shape then .ok ⟨extents, valid⟩
  else .error .rejectedValue

/-- A tensor whose cells all hold one number. -/
def filled (shape : Shape) (value : Binary32) : Except Error Tensor := do
  let ⟨extents, valid⟩ ← allocate shape
  return ⟨extents, .replicate (cellCount extents) value, valid.1, by simp⟩

def zeros (shape : Shape) : Except Error Tensor := filled shape .zero

/-- A tensor whose cell at each multi-index is computed from it. -/
def ofCells (extents : List Nat) (cell : List Nat → Binary32) : Except Error Tensor :=
  if storable : Storable extents then
    .ok ⟨extents, .ofFn fun place : Fin (cellCount extents) => cell (unflatten extents place),
      storable, by simp⟩
  else .error .rejectedValue

/-- The element count of a shape of natural extents is the count of its cells. -/
theorem size_map_ofNat (extents : List Nat) :
    Shape.size (extents.map Int.ofNat) = cellCount extents := by
  induction extents with
  | nil => rfl
  | cons extent rest hypothesis => simp [hypothesis]

/--
A tensor of listed numbers in row-major order. The count of the numbers is compared with the product
of the extents before the shape itself is looked at; a mismatch is described if the product can be
written.
-/
def ofValues (shape : Shape) (values : Array Binary32) : Except Error Tensor :=
  if count : (values.size : Int) = shape.size then do
    let ⟨extents, valid⟩ ← allocate shape
    return ⟨extents, values, valid.1, by
      rw [← valid.2, size_map_ofNat] at count
      exact Int.ofNat_inj.mp count⟩
  else if isWritable shape.size then .error (.valueCountMismatch values.size shape)
  else .error .rejectedValue

end Tensor

end NetImport
