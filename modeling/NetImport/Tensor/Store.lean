import NetImport.Registry
import NetImport.Tensor.Basic

/-!
# Tensor stores

A store keeps tensors in the order in which they were added and never drops one; the position of a
tensor is its handle. Names are bound to handles, so that several names can share a tensor and a
name can be bound again while the old tensor stays reachable through the other names.
-/

namespace NetImport

/-- Tensors by handle, and names by the handles they are bound to. -/
structure TensorStore where
  tensors : Array Tensor
  handles : Registry Label Nat

namespace TensorStore

def empty : TensorStore := ⟨#[], .empty⟩

/-- Takes a tensor into the store and returns its handle. -/
def add (store : TensorStore) (tensor : Tensor) : TensorStore × Nat :=
  ({ store with tensors := store.tensors.push tensor }, store.tensors.size)

/-- Binds a name to a handle that the store has given out. -/
def bind (store : TensorStore) (name : Label) (handle : Int) : Except Error TensorStore :=
  if 0 ≤ handle ∧ handle < store.tensors.size then
    .ok { store with handles := store.handles.bind name handle.toNat }
  else
    .error (.invalidHandle handle)

/-- Takes a tensor into the store and binds a name to it. -/
def register (store : TensorStore) (name : Label) (tensor : Tensor) : TensorStore × Nat :=
  let (extended, handle) := store.add tensor
  ({ extended with handles := extended.handles.bind name handle }, handle)

def contains (store : TensorStore) (name : Label) : Bool := store.handles.contains name

/-- The handle that a name is bound to. -/
def handle (store : TensorStore) (name : Label) : Except Error Nat :=
  match store.handles.get? name with
  | some handle => .ok handle
  | none => .error (.unknownTensor name)

/-- The tensor that a name is bound to. -/
def get (store : TensorStore) (name : Label) : Except Error Tensor := do
  let handle ← store.handle name
  match store.tensors[handle]? with
  | some tensor => .ok tensor
  | none => .error .positionOutOfRange

end TensorStore

end NetImport
