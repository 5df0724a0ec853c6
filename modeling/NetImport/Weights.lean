import NetImport.Descriptor.Arguments
import NetImport.Descriptor.Text.Printer
import NetImport.Notice
import NetImport.Tensor.Store

/-!
# Weights

A weights descriptor is a network whose operators are directives to fill tensors. One kind of
directive lists the values of a tensor and binds all its outputs to it, replacing older bindings.
The other kind provides a tensor of zeros for its first output, unless that name is bound already.
The directives are carried out in order; the work of those before a failing one stays.
-/

namespace NetImport

open Descriptor

/-- The tensors filled so far and the notices about it. -/
structure Filling where
  store : TensorStore
  notices : List Notice

/-- Steps that fill tensors or fail. -/
abbrev Fill := EStateM Error Filling

namespace Fill

/-- Lets an operation that does not touch the tensors be a step. -/
def ofResult {α : Type} : Except Error α → Fill α
  | .ok value => pure value
  | .error error => throw error

def note (notice : Notice) : Fill Unit :=
  modify fun filling => { filling with notices := filling.notices ++ [notice] }

/-- Binds names, one after the other, to a handle. -/
def bindAll (handle : Nat) (names : List Label) : Fill Unit :=
  names.forM fun name => do
    let store ← ofResult ((← get).store.bind name handle)
    modify fun filling => { filling with store }

/-- Fills a tensor with listed values and binds every output to it. -/
def listed (operator : Operator) (arguments : Arguments) : Fill Unit := do
  let shape ← ofResult (arguments.ints "shape" none)
  let values ← ofResult (arguments.floats "values" none)
  let tensor ← ofResult (Tensor.ofValues shape values.toArray)
  let handle ← modifyGet fun filling =>
    let (store, handle) := filling.store.add tensor
    (handle, { filling with store })
  bindAll handle operator.outputs

/-- Provides zeros for the first output unless that name is bound. -/
def constant (operator : Operator) (arguments : Arguments) : Fill Unit := do
  match operator.outputs with
  | [] => throw .positionOutOfRange
  | name :: _ =>
    if (← get).store.contains name then
      note (.tensorKept name)
    else
      let shape ← ofResult (arguments.ints "shape" none)
      let tensor ← ofResult (Tensor.zeros shape)
      modify fun filling => { filling with store := (filling.store.register name tensor).1 }

/-- The types of directive with what they do. -/
def directives : List (String × (Operator → Arguments → Fill Unit)) :=
  [("GivenTensorFill", listed), ("ConstantFill", constant)]

/-- Carries out one directive. -/
def directive (operator : Operator) : Fill Unit := do
  match directives.find? fun known => operator.type = .text known.1 with
  | none =>
    let dump := operator.source.toText .operator
    note (.unsupportedDirective dump)
    throw (.unsupportedDirective operator.type dump)
  | some (type, fill) =>
    fill operator (Arguments.ofList type operator.arguments)
    note (.materialized type operator.outputs)

/-- Carries out the directives of a weights descriptor in order. -/
def network (weights : Network) : Fill Unit := weights.operators.forM directive

end Fill

end NetImport
