import NetImport.Proofs.Import.Stages

/-!
# How far an import gets

An import that fails does so at one stage: with one of its inputs, directives or operators, or while
a descriptor is loaded or the result saved. Here the steps of an import are marked with their
stages; what is left when the marks are erased is the import itself.
-/

namespace NetImport

open Descriptor

namespace Lower

variable {α β : Type}

/-- Lets a step that fills tensors be a step of the session. -/
def onFilling (fill : Fill α) : Lower α := fun session =>
  match fill ⟨session.tensors, session.notices⟩ with
  | .ok value filling =>
    .ok value { session with tensors := filling.store, notices := filling.notices }
  | .error error filling =>
    .error error { session with tensors := filling.store, notices := filling.notices }

theorem onFilling_bind (fill : Fill α) (next : α → Fill β) :
    onFilling (fill >>= next) = onFilling fill >>= fun value => onFilling (next value) := by
  funext session
  change onFilling (EStateM.bind fill next) session = EStateM.bind (onFilling fill) _ session
  simp only [onFilling, EStateM.bind]
  cases fill ⟨session.tensors, session.notices⟩ with
  | ok value filling => rfl
  | error error filling => rfl

theorem onFilling_forM {Item : Type} (items : List Item) (step : Item → Fill Unit) :
    onFilling (items.forM step) = items.forM fun item => onFilling (step item) := by
  induction items with
  | nil => rfl
  | cons item items hypothesis =>
      change onFilling (step item >>= fun _ => items.forM step) = _
      rw [onFilling_bind, hypothesis]
      rfl

end Lower

namespace Import

open Lower (note ofResult onFilling)

/-- Where an import can fail; inputs, directives and operators are told apart by their places. -/
inductive Stage where
  | counting
  | registering (place : Nat)
  | loadingNetwork
  | loadingWeights
  | filling (place : Nat)
  | lowering (place : Nat)
  | saving
  deriving DecidableEq, Repr

/-- Steps of an import that fail at a stage. -/
abbrev Staged := EStateM (Stage × Error) Session

section Staged

variable {α β Item : Type}

/-- Marks the failure of a step with its stage. -/
def during (stage : Stage) (step : Lower α) : Staged α := fun session =>
  match step session with
  | .ok value after => .ok value after
  | .error error after => .error (stage, error) after

/-- Does a step for every item, each at the stage of its place. -/
def duringEach (stage : Nat → Stage) (items : List Item) (step : Item → Lower Unit) :
    Staged Unit :=
  items.zipIdx.forM fun (item, place) => during (stage place) (step item)

/-- Forgets at which stage a step fails. -/
def erase (step : Staged α) : Lower α := fun session =>
  match step session with
  | .ok value after => .ok value after
  | .error failure after => .error failure.2 after

@[simp]
theorem erase_during (stage : Stage) (step : Lower α) : erase (during stage step) = step := by
  funext session
  simp only [erase, during]
  cases step session with
  | ok value after => rfl
  | error error after => rfl

@[simp]
theorem erase_bind (step : Staged α) (next : α → Staged β) :
    erase (step >>= next) = erase step >>= fun value => erase (next value) := by
  funext session
  change erase (EStateM.bind step next) session = EStateM.bind (erase step) _ session
  simp only [erase, EStateM.bind]
  cases step session with
  | ok value after => rfl
  | error failure after => rfl

@[simp]
theorem erase_duringEach (stage : Nat → Stage) (items : List Item) (step : Item → Lower Unit) :
    erase (duringEach stage items step) = items.forM step := by
  unfold duringEach
  generalize 0 = start
  induction items generalizing start with
  | nil => rfl
  | cons item items hypothesis =>
      change erase (during (stage start) (step item) >>= fun _ => _) = step item >>= fun _ => _
      rw [erase_bind, erase_during, hypothesis]

end Staged

/-! ## The stages of an import -/

/-- Compares the number of names with that of inputs. -/
def countInputs (request : ImportRequest) : Lower Unit := do
  if request.names.length ≠ request.inputs.length then
    throw (.invalid (.inputCount request.names.length request.inputs.length))

/-- The network that a file describes. -/
def networkAt (files : FileTree) (path : String) (limit : Int) : Except Error Network :=
  (loadNet files path limit).map Network.ofMessage

/-- Loads a network from a file and takes note of it. -/
def loadNetwork (files : FileTree) (path : String) (limit : Int) : Lower Network := do
  return Network.ofMessage (← load files path limit)

theorem loadNetwork_eq (files : FileTree) (path : String) (limit : Int) :
    loadNetwork files path limit = (do
      let network ← ofResult (networkAt files path limit)
      note (.loaded (Path.ofString path).toString network.operators.length)
      return network) := by
  unfold loadNetwork load networkAt
  cases loadNet files path limit with
  | ok net => rfl
  | error error => rfl

/-- Saves the result of a network that has been lowered and sums the import up. -/
def conclude (function : Nat) (request : ImportRequest) (network : Network) : Lower Ref := do
  let root ← Lower.finalize ⟨function, request.labels⟩ network.externalOutputs
  let session ← get
  let nodes := session.graph.nodeCount function
  note (.imported network.operators.length nodes session.tensors.handles.size)
  if request.verbose then
    note (.summary request.netPath network.operators.length)
    note (.nodeSummary nodes)
  return root

/-- An import with its steps marked. -/
def staged (files : FileTree) (function : Nat) (request : ImportRequest) : Staged Ref := do
  during .counting (countInputs request)
  duringEach .registering (request.names.zip request.inputs) fun (name, input) =>
    registerInput name input
  let network ← during .loadingNetwork do
    note (.importing request.netPath request.weightsPath)
    loadNetwork files request.netPath request.sizeLimit
  let weights ← during .loadingWeights
    (loadNetwork files request.weightsPath request.sizeLimit)
  duringEach .filling weights.operators fun directive => onFilling (Fill.directive directive)
  duringEach .lowering network.operators fun operator => do
    let _ ← Lower.lowerOperator ⟨function, request.labels⟩ operator
  during .saving (conclude function request network)

theorem fillWeights_eq_forM (weights : Network) :
    fillWeights weights =
      weights.operators.forM fun directive => onFilling (Fill.directive directive) := by
  rw [← Lower.onFilling_forM]
  funext session
  simp only [fillWeights, onFilling, Fill.network]
  cases weights.operators.forM Fill.directive ⟨session.tensors, session.notices⟩ with
  | ok value filling => rfl
  | error error filling => rfl

/-- An import is what is left of its marked steps. -/
theorem erase_staged (files : FileTree) (function : Nat) (request : ImportRequest) :
    erase (staged files function request) = run files function request := by
  unfold staged run countInputs loadNetwork conclude
  simp only [erase_bind, erase_during, erase_duringEach, ← fillWeights_eq_forM, bind_assoc]
  by_cases differ : request.names.length ≠ request.inputs.length
  · simp only [if_pos differ, pure_bind]
    rfl
  · simp only [if_neg differ, pure_bind]
    rfl

/-- The stage at which an import fails, if it does. -/
def failureStage? (files : FileTree) (function : Nat) (request : ImportRequest)
    (session : Session) : Option Stage :=
  match staged files function request session with
  | .ok _ _ => none
  | .error failure _ => some failure.1

/-- An import succeeds if it fails at no stage. -/
theorem failureStage?_eq_none {files : FileTree} {function : Nat} {request : ImportRequest}
    {session : Session} :
    failureStage? files function request session = none ↔
      ∃ root after, run files function request session = .ok root after := by
  rw [← erase_staged]
  unfold failureStage? erase
  cases staged files function request session with
  | ok root after => simp
  | error failure after => simp

end Import

end NetImport
