import NetImport.Proofs.Import.Stages
import NetImport.Proofs.Lowering.Parameters

/-!
# Inputs before lowering

An input is registered twice, as a variable that is published under its name and as a tensor stored
under it. Both agree, also when a name is given several times, since the last input of a name
replaces the older ones in both places. The weights change the stored tensors only: directives that
provide zeros respect what is there, while a directive that lists values for the name of an input
replaces its tensor, and the variable keeps what the caller gave.
-/

namespace NetImport

open Descriptor

namespace ImportRequest

/-- The tensor of the last input of a name. -/
def Gives (request : ImportRequest) (name : Label) (tensor : Tensor) : Prop :=
  ∃ before text input rest, request.names.zip request.inputs = before ++ (text, input) :: rest ∧
    name = .text text ∧ (∀ later ∈ rest, later.1 ≠ text) ∧ input.toTensor = .ok tensor

end ImportRequest

namespace Session

/--
A name that is published as an external variable with some tensor, which is also stored under it.
-/
def Holds (session : Session) (name : Label) (tensor : Tensor) : Prop :=
  ∃ index owned, session.names.get? name = some (.var index) ∧
    session.graph.vars[index]? = some owned ∧ owned.visibility = .external ∧
    owned.payload = tensor ∧ session.tensors.get name = .ok tensor

end Session

namespace Import

variable {session after : Session} {name : String} {input : Input} {label : Label}
  {tensor : Tensor} {inputs : List (String × Input)} {value : Unit}

theorem register_eq_withTensor (store : TensorStore) (label : Label) (tensor : Tensor) :
    (store.register label tensor).1 = store.withTensor tensor [label] := rfl

theorem get_register_self (store : TensorStore) (label : Label) (tensor : Tensor) :
    (store.register label tensor).1.get label = .ok tensor := by
  rw [register_eq_withTensor, TensorStore.get_eq_ok]
  exact ⟨_, TensorStore.handle_withTensor_of_mem List.mem_cons_self, by
    simp [TensorStore.withTensor]⟩

theorem get_register_of_ne {store : TensorStore} {other : Label} {given : Tensor}
    (differs : label ≠ other) (stored : store.get label = .ok tensor) :
    (store.register other given).1.get label = .ok tensor := by
  rcases TensorStore.get_eq_ok.mp stored with ⟨handle, bound, found⟩
  have kept : (store.withTensor given [other]).handle label = .ok handle :=
    (TensorStore.handle_withTensor_of_not_mem (by simpa using differs)).trans bound
  exact Fill.get_of_prefix (by simp [register_eq_withTensor, TensorStore.withTensor]) kept found

theorem registerInput_holds (registered : registerInput name input session = .ok value after) :
    ∃ tensor, input.toTensor = .ok tensor ∧ after.Holds name tensor := by
  rcases registerInput_eq_ok.mp registered with ⟨tensor, given, rfl⟩
  refine ⟨tensor, given, _, _, ?_, List.getElem?_concat_length, rfl, rfl, get_register_self _ _ _⟩
  simp

theorem registerInput_keeps (registered : registerInput name input session = .ok value after)
    (differs : label ≠ name) (holds : session.Holds label tensor) : after.Holds label tensor := by
  rcases registerInput_eq_ok.mp registered with ⟨given, _, rfl⟩
  rcases holds with ⟨index, owned, published, found, external, rfl, stored⟩
  have inside := (List.getElem?_eq_some_iff.mp found).1
  refine ⟨index, owned, ?_, ?_, external, rfl, get_register_of_ne differs stored⟩
  · simpa [differs] using published
  · exact ((Graph.growsTo_withVar session.graph _).var_get inside).trans found

theorem registerAll_append {others : List (String × Input)} :
    registerAll (inputs ++ others) = registerAll inputs >>= fun _ => registerAll others := by
  simp only [registerAll, List.forM_eq_forM, List.forM_append]

theorem registerAll_cons :
    registerAll ((name, input) :: inputs) = registerInput name input >>= fun _ =>
      registerAll inputs := by
  simp only [registerAll, List.forM_eq_forM, List.forM_cons]

/-- What is published after inputs have been registered is the last input of a name. -/
theorem registerAll_published {graph : Graph} {ref : Ref}
    (registered : registerAll inputs (start graph) = .ok value after)
    (published : after.names.get? label = some ref) :
    ∃ before text input rest tensor, inputs = before ++ (text, input) :: rest ∧ label = .text text ∧
      (∀ later ∈ rest, later.1 ≠ text) ∧ input.toTensor = .ok tensor ∧
      after.Holds label tensor := by
  induction inputs using List.reverseRecOn generalizing after with
  | nil =>
      rcases Steps.pure_eq_ok.mp registered with ⟨_, rfl⟩
      simp [start, Registry.empty, Registry.get?] at published
  | append_singleton inputs last hypothesis =>
      rw [registerAll_append] at registered
      rcases Steps.bind_eq_ok.mp registered with ⟨_, mid, older, one⟩
      rw [registerAll_cons] at one
      rcases Steps.bind_eq_ok.mp one with ⟨_, _, one, done⟩
      rcases Steps.pure_eq_ok.mp done with ⟨_, rfl⟩
      by_cases same : label = .text last.1
      · rcases registerInput_holds one with ⟨tensor, given, holds⟩
        exact ⟨inputs, last.1, last.2, [], tensor, rfl, same, by simp, given, same ▸ holds⟩
      · have earlier : mid.names.get? label = some ref := by
          rcases registerInput_eq_ok.mp one with ⟨tensor, _, rfl⟩
          simpa [same] using published
        rcases hypothesis older earlier with
          ⟨before, text, input, rest, tensor, rfl, rfl, noLater, given, holds⟩
        refine ⟨before, text, input, rest ++ [last], tensor, by simp, rfl, ?_, given,
          registerInput_keeps one same holds⟩
        intro later member
        rcases List.mem_append.mp member with among | isLast
        · exact noLater later among
        · rcases List.mem_singleton.mp isLast with rfl
          intro equal
          exact same (congrArg Label.text equal.symm)

/-- Every input is published under its name. -/
theorem published_registerAll (registered : registerAll inputs session = .ok value after) :
    (∀ pair ∈ inputs, (after.names.get? (.text pair.1)).isSome) ∧
      ∀ label, (session.names.get? label).isSome → (after.names.get? label).isSome := by
  induction inputs generalizing session with
  | nil =>
      rcases Steps.pure_eq_ok.mp registered with ⟨_, rfl⟩
      exact ⟨by simp, fun _ published => published⟩
  | cons first inputs hypothesis =>
      rw [registerAll_cons] at registered
      rcases Steps.bind_eq_ok.mp registered with ⟨_, mid, one, rest⟩
      rcases registerInput_eq_ok.mp one with ⟨tensor, _, rfl⟩
      rcases hypothesis rest with ⟨others, kept⟩
      constructor
      · intro pair member
        rcases List.mem_cons.mp member with rfl | later
        · exact kept _ (by simp)
        · exact others pair later
      · intro label published
        refine kept label ?_
        rw [Registry.get?_bind]
        split
        · rfl
        · exact published

variable {files : FileTree} {request : ImportRequest} {network : Network} {graph : Graph}

/-- A prepared import has registered its inputs, and then filled the weights that it has loaded. -/
theorem of_prepare (prepared : prepare files request session = .ok network after) :
    request.names.length = request.inputs.length ∧
      ∃ registered weights notices filling,
        registerAll (request.names.zip request.inputs) session = .ok () registered ∧
        loadNet files request.weightsPath request.sizeLimit = .ok weights ∧
        Fill.network (Network.ofMessage weights) ⟨registered.tensors, notices⟩ = .ok () filling ∧
        after = { registered with tensors := filling.store, notices := filling.notices } := by
  unfold prepare at prepared
  split at prepared
  · simp at prepared
  · rename_i same
    rcases Steps.bind_eq_ok.mp prepared with ⟨_, registered, inputs, rest⟩
    rcases Steps.bind_eq_ok.mp rest with ⟨_, _, noted, rest⟩
    rcases Lower.note_eq_ok.mp noted with rfl
    rcases Steps.bind_eq_ok.mp rest with ⟨net, _, netLoaded, rest⟩
    rcases load_eq_ok.mp netLoaded with ⟨_, rfl⟩
    rcases Steps.bind_eq_ok.mp rest with ⟨weights, _, weightsLoaded, rest⟩
    rcases load_eq_ok.mp weightsLoaded with ⟨loaded, rfl⟩
    rcases Steps.bind_eq_ok.mp rest with ⟨_, _, filled, done⟩
    rcases fillWeights_eq_ok.mp filled with ⟨filling, runs, rfl⟩
    rcases Steps.pure_eq_ok.mp done with ⟨_, rfl⟩
    exact ⟨not_not.mp same, registered, weights, _, filling, inputs, loaded, runs, rfl⟩

/--
Before the first operator is lowered, every name of an input is published, and every published name
is that of an input: it denotes an external variable with the last tensor that was handed over under
the name. The same tensor is stored under the name unless some directive lists values for it; if one
does, the last such directive determines the stored tensor, and the variable keeps the tensor of the
input.
-/
theorem inputs_agree_unless_listed (files : FileTree) (request : ImportRequest) (graph : Graph)
    (network : Network) (after : Session)
    (prepared : prepare files request (start graph) = .ok network after) :
    (∀ name ∈ request.names, ∃ ref, after.names.get? (.text name) = some ref) ∧
      ∃ weights, loadNet files request.weightsPath request.sizeLimit = .ok weights ∧
        ∀ label ref, after.names.get? label = some ref →
          ∃ index owned, ref = .var index ∧ after.graph.vars[index]? = some owned ∧
            owned.visibility = .external ∧ request.Gives label owned.payload ∧
            ((∀ directive ∈ (Network.ofMessage weights).operators,
                ¬Fill.ListsFor directive label) →
              after.tensors.get label = .ok owned.payload) ∧
            ∀ earlier directive later,
              (Network.ofMessage weights).operators = earlier ++ directive :: later →
              Fill.ListsFor directive label →
              (∀ other ∈ later, ¬Fill.ListsFor other label) →
                ∃ tensor, after.tensors.get label = .ok tensor ∧ Fill.Lists directive tensor := by
  rcases of_prepare prepared with
    ⟨sameLength, registered, weights, notices, filling, inputs, loaded, runs, rfl⟩
  have materializes := (Fill.network_materializes _ _).1 _ runs
  refine ⟨?_, weights, loaded, ?_⟩
  · intro name member
    have given : ∃ pair ∈ request.names.zip request.inputs, pair.1 = name := by
      rw [← List.map_fst_zip (Nat.le_of_eq sameLength)] at member
      simpa using member
    rcases given with ⟨pair, among, same⟩
    have published := (published_registerAll inputs).1 pair among
    rw [same] at published
    exact Option.isSome_iff_exists.mp published
  · intro label ref published
    rcases registerAll_published inputs published with
      ⟨before, text, input, rest, tensor, split, same, noLater, given, index, owned, bound, found,
        external, rfl, stored⟩
    rcases Option.some.inj (bound.symm.trans published) with rfl
    refine ⟨index, owned, rfl, found, external,
      ⟨before, text, input, rest, split, same, noLater, given⟩, ?_, ?_⟩
    · intro notListed
      rcases TensorStore.get_eq_ok.mp stored with ⟨handle, held, _⟩
      exact (materializes.kept label handle notListed held).2 _ stored
    · intro earlier directive later splits lists noneLater
      rcases materializes.listed with ⟨handleOf, listed⟩
      exact (listed label earlier directive later splits lists noneLater).2

end Import

namespace Sample

/-- Hands over a five as `x` and as `v`; the weights list a seven for `x`. -/
def pairRequest : ImportRequest :=
  { request with names := ["x", "v"], inputs := [.tensor five, .tensor five] }

def prepared : Session :=
  Steps.stateOf (Import.prepare folder pairRequest (Import.start ground))

end Sample

namespace Import

theorem prepare_sample :
    ∃ network, prepare Sample.folder Sample.pairRequest (start Sample.ground) =
      .ok network Sample.prepared := by
  unfold Sample.prepared
  have succeeds : (match prepare Sample.folder Sample.pairRequest (start Sample.ground) with
      | .ok _ _ => true
      | .error _ _ => false) = true := by decide +kernel
  cases outcome : prepare Sample.folder Sample.pairRequest (start Sample.ground) with
  | ok network after => exact ⟨network, rfl⟩
  | error error after => simp [outcome] at succeeds

theorem inputs_agree_unless_listed_sample :
    ∃ network, prepare Sample.folder Sample.pairRequest (start Sample.ground) =
        .ok network Sample.prepared ∧
      ∃ owned, Sample.prepared.graph.vars[1]? = some owned ∧ owned.visibility = .external ∧
        Sample.pairRequest.Gives "v" owned.payload ∧
        Sample.prepared.tensors.get "v" = .ok owned.payload := by
  rcases prepare_sample with ⟨network, prepared⟩
  have loaded : loadNet Sample.folder "weights.pb" defaultSizeLimit = .ok Sample.sevenWeights := by
    decide +kernel
  have published : Sample.prepared.names.get? "v" = some (.var 1) := by decide +kernel
  have notListed : ∀ directive ∈ (Network.ofMessage Sample.sevenWeights).operators,
      ¬(directive.type = "GivenTensorFill" ∧ (.text "v" : Label) ∈ directive.outputs) := by
    decide +kernel
  rcases (inputs_agree_unless_listed _ _ _ _ _ prepared).2 with ⟨weights, loads, agree⟩
  rcases Except.ok.inj (loaded.symm.trans loads) with rfl
  rcases agree "v" (.var 1) published with ⟨index, owned, ⟨⟩, found, external, given, kept, _⟩
  exact ⟨network, prepared, owned, found, external, given, kept notListed⟩

/-- The variable that is published as `x` holds the five, and the tensor stored as `x` the seven. -/
theorem listed_input_differs :
    ∃ network, prepare Sample.folder Sample.pairRequest (start Sample.ground) =
        .ok network Sample.prepared ∧
      Sample.prepared.names.get? "x" = some (.var 0) ∧
      Sample.prepared.graph.vars[0]?.map (fun owned => owned.payload.data) =
        some #[⟨0x40a00000⟩] ∧
      (Sample.prepared.tensors.get "x").map Tensor.data = .ok #[⟨0x40e00000⟩] ∧
      ¬Sample.prepared.Agrees "x" := by
  rcases prepare_sample with ⟨network, prepared⟩
  have published : Sample.prepared.names.get? "x" = some (.var 0) := by decide +kernel
  have given : Sample.prepared.graph.vars[0]?.map (fun owned => owned.payload.data) =
      some #[⟨0x40a00000⟩] := by decide +kernel
  have listed : (Sample.prepared.tensors.get "x").map Tensor.data = .ok #[⟨0x40e00000⟩] := by
    decide +kernel
  refine ⟨network, prepared, published, given, listed, ?_⟩
  intro agrees
  rcases agrees (.var 0) published with ⟨index, owned, ⟨⟩, found, stored⟩
  rw [found] at given
  rw [stored, Except.map] at listed
  have same := (Option.some.inj given).symm.trans (Except.ok.inj listed)
  exact absurd same (by decide)

end Import
end NetImport
