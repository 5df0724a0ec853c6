import NetImport.Proofs.Import.Stages
import NetImport.Proofs.Lowering.Faults

/-!
# How imports fail

An import fails in a foreseen way, with two exceptions. An input that is an array may not be
castable to a tensor, which fails as the cast does. And a directive that provides zeros for its
first output looks that output up without checking that there is one.
-/

namespace NetImport

open Descriptor
open Steps (Guards guards_bind guards_bind_of_yields guards_forM guards_get guards_iff guards_pure
  guards_throw)

namespace TensorStore

variable {store : TensorStore} {tensor : Tensor} {names : List Label}

theorem sound_empty : empty.Sound := by
  intro name handle bound
  simp [empty, TensorStore.handle, Registry.empty, Registry.get?] at bound

theorem Sound.withTensor (sound : store.Sound) : (store.withTensor tensor names).Sound := by
  intro name handle bound
  simp only [TensorStore.withTensor, Array.size_push]
  by_cases listed : name ∈ names
  · rw [handle_withTensor_of_mem listed] at bound
    have same := Except.ok.inj bound
    omega
  · rw [handle_withTensor_of_not_mem listed] at bound
    exact Nat.lt_succ_of_lt (sound name handle bound)

end TensorStore

namespace Fill

variable {filling after : Filling} {operator : Operator} {arguments : Arguments} {error : Error}

theorem Carries.sound {store next : TensorStore} (carries : Carries operator store next)
    (sound : store.Sound) : next.Sound := by
  cases carries with
  | listed _ _ => exact sound.withTensor
  | kept _ _ => exact sound
  | provided _ _ _ => exact sound.withTensor

theorem foresees_ofValues (shape : Shape) (values : Array Binary32) :
    Foresees (Tensor.ofValues shape values) := by
  unfold Tensor.ofValues
  split
  · exact foresees_bind (foresees_allocate shape) fun _ _ => foresees_ok _
  · split
    · exact foresees_error (Error.foreseen_of_kind rfl)
    · exact foresees_error Error.foreseen_rejectedValue

theorem foreseen_of_listed (fails : listed operator arguments filling = .error error after) :
    error.Foreseen := by
  simp only [listed, Steps.bind_eq_error, ofResult_eq_error, ofResult_eq_ok,
    Steps.modifyGet_ne_error, Steps.modifyGet_eq_ok, false_or] at fails
  rcases fails with ⟨shapeFails, _⟩ | ⟨shape, _, ⟨_, rfl⟩, rest⟩
  · exact foresees_ints _ _ _ _ shapeFails
  rcases rest with ⟨valuesFail, _⟩ | ⟨values, _, ⟨_, rfl⟩, rest⟩
  · exact foresees_floats _ _ _ _ valuesFail
  rcases rest with ⟨tensorFails, _⟩ | ⟨tensor, _, ⟨_, rfl⟩, handle, _, ⟨rfl, rfl⟩, bindFails⟩
  · exact foresees_ofValues _ _ _ tensorFails
  -- the handle has just been given out, so that binding names to it cannot fail
  rw [bindAll_eq (by simp [TensorStore.add])] at bindFails
  cases bindFails

/-- A directive that provides zeros for its first output although it has none. -/
def LacksOutput (directive : Operator) : Prop :=
  directive.type = "ConstantFill" ∧ directive.outputs = []

theorem foreseen_of_constant (fails : constant operator arguments filling = .error error after) :
    error.Foreseen ∨ error = .positionOutOfRange ∧ operator.outputs = [] := by
  unfold constant at fails
  cases outputs : operator.outputs with
  | nil =>
      rw [outputs] at fails
      exact .inr ⟨(Steps.throw_eq_error.mp fails).1, rfl⟩
  | cons name others =>
      left
      rw [outputs] at fails
      cases held : filling.store.contains name with
      | true => simp [held] at fails
      | false =>
          simp only [Steps.get_bind, held, Bool.false_eq_true, if_false] at fails
          rcases Steps.bind_eq_error.mp fails with shapeFails | ⟨shape, _, shape_eq, rest⟩
          · exact foresees_ints _ _ _ _ (ofResult_eq_error.mp shapeFails).1
          rcases Steps.bind_eq_error.mp rest with zerosFail | ⟨zeros, _, _, registerFails⟩
          · exact foresees_filled _ _ _ (ofResult_eq_error.mp zerosFail).1
          · exact absurd registerFails Steps.modify_ne_error

theorem foreseen_of_directive (fails : directive operator filling = .error error after) :
    error.Foreseen ∨ error = .positionOutOfRange ∧ LacksOutput operator := by
  by_cases isListed : operator.type = "GivenTensorFill"
  · rw [directive_of_listed isListed] at fails
    rcases Steps.bind_eq_error.mp fails with listedFails | ⟨_, _, _, noteFails⟩
    · exact .inl (foreseen_of_listed listedFails)
    · exact absurd noteFails note_ne_error
  by_cases isConstant : operator.type = "ConstantFill"
  · rw [directive_of_constant isConstant] at fails
    rcases Steps.bind_eq_error.mp fails with constantFails | ⟨_, _, _, noteFails⟩
    · rcases foreseen_of_constant constantFails with foreseen | ⟨position, none⟩
      · exact .inl foreseen
      · exact .inr ⟨position, isConstant, none⟩
    · exact absurd noteFails note_ne_error
  · rw [directive_of_unknown isListed isConstant] at fails
    rcases Steps.bind_eq_error.mp fails with noteFails | ⟨_, mid, _, thrown⟩
    · exact absurd noteFails note_ne_error
    · rw [(Steps.throw_eq_error.mp thrown).1]
      exact .inl (Error.foreseen_of_kind rfl)

theorem guards_network (weights : Network) :
    Guards (fun filling => filling.store.Sound)
      (fun error => error.Foreseen ∨ error = .positionOutOfRange ∧
        ∃ directive ∈ weights.operators, LacksOutput directive)
      (network weights) := by
  refine guards_forM fun operator member => ?_
  refine guards_iff.mpr ⟨?_, ?_⟩
  · intro filling value after sound runs
    exact (directive_carries runs).sound sound
  · intro filling error after sound fails
    refine ⟨directive_restores fails ▸ sound, ?_⟩
    rcases foreseen_of_directive fails with foreseen | ⟨position, lacks⟩
    · exact .inl foreseen
    · exact .inr ⟨position, operator, member, lacks⟩

end Fill

namespace Import

open Lower (Ample Behaves)

variable {files : FileTree} {request : ImportRequest} {function : Nat}

/--
A failure that is foreseen, or that of an array that cannot be cast to a tensor, or that of a
directive that provides zeros for its first output although it has none.
-/
def Accounts (files : FileTree) (request : ImportRequest) (error : Error) : Prop :=
  error.Foreseen ∨ (∃ input ∈ request.inputs, input.toTensor = .error error) ∨
    error = .positionOutOfRange ∧
      ∃ weights, loadNet files request.weightsPath request.sizeLimit = .ok weights ∧
        ∃ directive ∈ (Network.ofMessage weights).operators, Fill.LacksOutput directive

theorem guards_behaves {α : Type} {step : Lower α} (behaves : Behaves 0 step) :
    Guards (Ample 0) (Accounts files request) step := by
  rw [Behaves, guards_iff] at behaves
  refine guards_iff.mpr ⟨behaves.1, ?_⟩
  intro session error after ample fails
  have ⟨kept, foreseen⟩ := behaves.2 _ _ _ ample fails
  exact ⟨kept, .inl foreseen⟩

theorem guards_registerAll :
    Guards (Ample 0) (Accounts files request)
      (registerAll (request.names.zip request.inputs)) := by
  refine guards_forM fun pair member => ?_
  refine guards_iff.mpr ⟨?_, ?_⟩
  · intro session value after ample registered
    rcases registerInput_eq_ok.mp registered with ⟨tensor, _, rfl⟩
    have sound : (session.tensors.withTensor tensor [.text pair.1]).Sound :=
      ample.tensors.withTensor
    exact ⟨sound, Nat.zero_le _⟩
  · intro session error after ample fails
    rcases registerInput_eq_error.mp fails with ⟨castFails, rfl⟩
    exact ⟨ample, .inr (.inl ⟨pair.2, (List.of_mem_zip member).2, castFails⟩)⟩

theorem foresees_readFile (path : Path) (limit : Int) : Foresees (readFile files path limit) := by
  unfold readFile
  dsimp only
  split
  · exact foresees_error Error.foreseen_rejectedValue
  · split
    · split
      · exact foresees_error (Error.foreseen_of_kind rfl)
      · exact foresees_ok _
    · split
      · exact foresees_error (Error.foreseen_of_kind rfl)
      · exact foresees_error (Error.foreseen_of_kind rfl)
    · exact foresees_error (Error.foreseen_of_kind rfl)

theorem foresees_loadNet (path : String) (limit : Int) : Foresees (loadNet files path limit) := by
  refine foresees_bind (foresees_readFile _ _) fun content _ => ?_
  split
  · exact foresees_ok _
  · exact foresees_error (Error.foreseen_of_kind rfl)

theorem guards_load (path : String) (limit : Int) :
    Guards (Ample 0) (Accounts files request) (load files path limit) := by
  refine guards_iff.mpr ⟨?_, ?_⟩
  · intro session net after ample loaded
    rcases load_eq_ok.mp loaded with ⟨_, rfl⟩
    exact ⟨ample.tensors, ample.vars⟩
  · intro session error after ample fails
    rcases load_eq_error.mp fails with ⟨loadFails, rfl⟩
    exact ⟨ample, .inl (foresees_loadNet path limit error loadFails)⟩

theorem guards_fillWeights {weights : Message}
    (loaded : loadNet files request.weightsPath request.sizeLimit = .ok weights) :
    Guards (Ample 0) (Accounts files request) (fillWeights (Network.ofMessage weights)) := by
  have network := guards_iff.mp (Fill.guards_network (Network.ofMessage weights))
  refine guards_iff.mpr ⟨?_, ?_⟩
  · intro session value after ample filled
    rcases fillWeights_eq_ok.mp filled with ⟨filling, runs, rfl⟩
    exact ⟨network.1 _ _ _ ample.tensors runs, Nat.zero_le _⟩
  · intro session error after ample fails
    rcases fillWeights_eq_error.mp fails with ⟨filling, runs, rfl⟩
    have ⟨sound, explained⟩ := network.2 _ _ _ ample.tensors runs
    refine ⟨⟨sound, Nat.zero_le _⟩, ?_⟩
    rcases explained with foreseen | ⟨position, lacking⟩
    · exact .inl foreseen
    · exact .inr (.inr ⟨position, weights, loaded, lacking⟩)

theorem guards_prepare :
    Guards (Ample 0) (Accounts files request) (prepare files request) := by
  have rest : Guards (Ample 0) (Accounts files request) (do
      registerAll (request.names.zip request.inputs)
      Lower.note (.importing request.netPath request.weightsPath)
      let network := Network.ofMessage (← load files request.netPath request.sizeLimit)
      let weights := Network.ofMessage (← load files request.weightsPath request.sizeLimit)
      fillWeights weights
      return network) := by
    refine guards_bind guards_registerAll fun _ => ?_
    refine guards_bind (guards_behaves (Lower.behaves_note _)) fun _ => ?_
    refine guards_bind (guards_load _ _) fun net => ?_
    refine guards_bind_of_yields (guards_load _ _) fun session weights after loaded => ?_
    exact guards_bind (guards_fillWeights (load_eq_ok.mp loaded).1) fun _ => guards_pure _
  unfold prepare
  split
  · exact guards_bind (guards_throw (.inl (Error.foreseen_invalid _))) fun _ => rest
  · exact rest

theorem behaves_complete (network : Network) : Behaves 0 (complete function request network) := by
  refine guards_bind (Lower.behaves_lowerNetwork _ _) fun _ => ?_
  refine guards_bind (Lower.behaves_finalize _ _) fun root => ?_
  refine guards_bind guards_get fun session => ?_
  refine guards_bind (Lower.behaves_note _) fun _ => ?_
  dsimp only
  split
  · refine guards_bind (Lower.behaves_note _) fun _ => ?_
    exact guards_bind (Lower.behaves_note _) fun _ => guards_pure _
  · exact guards_pure _

/--
Whatever the files, the inputs and the options are, an import fails because the caller's request,
the descriptors or the shapes are not in order, by a failure that has a kind or refuses a value, or
for one of two other reasons: an input is an array that cannot be cast to a tensor, or a directive
of the weights provides zeros for its first output and has none.
-/
theorem failures_are_foreseen (files : FileTree) (function : Nat) (request : ImportRequest)
    (graph : Graph) (error : Error) (after : Session)
    (fails : run files function request (start graph) = .error error after) :
    error.category.kind?.isSome ∨ (∃ fault, error = .invalid fault) ∨ error = .rejectedValue ∨
      error = .malformedText ∨ (∃ input ∈ request.inputs, input.toTensor = .error error) ∨
      error = .positionOutOfRange ∧
        ∃ weights, loadNet files request.weightsPath request.sizeLimit = .ok weights ∧
          ∃ directive ∈ (Network.ofMessage weights).operators,
            directive.type = "ConstantFill" ∧ directive.outputs = [] := by
  have guards : Guards (Ample 0) (Accounts files request) (run files function request) := by
    rw [run_eq_prepare_complete]
    exact guards_bind guards_prepare fun network => guards_behaves (behaves_complete network)
  have ample : Ample 0 (start graph) := ⟨TensorStore.sound_empty, Nat.zero_le _⟩
  rcases (guards (start graph) ample).2 error after fails with
    (kind | fault | value | text) | cast | lacking
  · exact .inl kind
  · exact .inr (.inl fault)
  · exact .inr (.inr (.inl value))
  · exact .inr (.inr (.inr (.inl text)))
  · exact .inr (.inr (.inr (.inr (.inl cast))))
  · exact .inr (.inr (.inr (.inr (.inr lacking))))

end Import

namespace Sample

/-- Provides zeros for its first output, and has none. -/
def bareWeights : Message :=
  .nested 2
    (.scalars 4 [.text "ConstantFill"]
      (.nested 5 (.scalars 1 [.text "shape"] (.scalars 6 [.integer 1] (.done []))) (.done [])))
    (.done [])

def bareFolder : FileTree :=
  folderOf [(["net.pb"], rectifierNet.encode), (["weights.pb"], bareWeights.encode)]

/-- The error of an import that fails. -/
def failure? (outcome : EStateM.Result Error Session Ref) : Option Error :=
  match outcome with
  | .ok _ _ => none
  | .error error _ => some error

end Sample

namespace Import

theorem fails_of_failure? {outcome : EStateM.Result Error Session Ref} {error : Error}
    (fails : Sample.failure? outcome = some error) : ∃ after, outcome = .error error after := by
  cases outcome with
  | ok root after => cases fails
  | error raised after =>
      rcases fails with ⟨⟩
      exact ⟨after, rfl⟩

theorem failures_are_foreseen_sample :
    ∃ error after, run Sample.bareFolder 0 Sample.request (start Sample.ground) =
        .error error after ∧
      (error.category.kind?.isSome ∨ (∃ fault, error = .invalid fault) ∨ error = .rejectedValue ∨
        error = .malformedText ∨
        (∃ input ∈ Sample.request.inputs, input.toTensor = .error error) ∨
        error = .positionOutOfRange ∧
          ∃ weights, loadNet Sample.bareFolder "weights.pb" defaultSizeLimit = .ok weights ∧
            ∃ directive ∈ (Network.ofMessage weights).operators,
              directive.type = "ConstantFill" ∧ directive.outputs = []) := by
  have fails : Sample.failure? (run Sample.bareFolder 0 Sample.request (start Sample.ground)) =
      some .positionOutOfRange := by
    decide +kernel
  rcases fails_of_failure? fails with ⟨after, failed⟩
  exact ⟨_, after, failed, failures_are_foreseen _ _ _ _ _ _ failed⟩

/-- Looking up the first output of a directive that has none fails like any other position. -/
theorem fails_without_kind :
    ∃ after, run Sample.bareFolder 0 { Sample.request with names := [], inputs := [] }
        (start Sample.ground) = .error .positionOutOfRange after ∧
      Error.positionOutOfRange.category = .invalidIndex ∧
      Error.positionOutOfRange.category.kind? = none := by
  have fails : Sample.failure? (run Sample.bareFolder 0
      { Sample.request with names := [], inputs := [] } (start Sample.ground)) =
        some .positionOutOfRange := by
    decide +kernel
  rcases fails_of_failure? fails with ⟨after, failed⟩
  exact ⟨after, failed, rfl, rfl⟩

end Import

end NetImport
