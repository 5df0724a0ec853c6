import NetImport.Proofs.Import.Progress
import NetImport.Proofs.Likeness.Lowering

/-!
# Imports side by side

Filling a tensor looks at how many numbers are listed for it, but not at the numbers, and at names
only to see whether they are bound. So two imports of inputs, weights and networks that are alike
get equally far: both succeed, or both fail at the same stage with failures of the same class.
-/

namespace NetImport.Likeness

open Descriptor Import
open Lower (ofResult onFilling onGraph)
open Steps (Alike Parallel parallel_bind parallel_bind_eq parallel_forM parallel_get parallel_modify
  parallel_modifyGet parallel_pure parallel_throw)

variable {α : Type} (likeness : Likeness)

/-! ## Filling -/

/-- Steps that fill tensors and do the same to stores that are alike. -/
def Fills (values : α → α → Prop) (step other : Fill α) : Prop :=
  Parallel SameCategory (fun filling otherFilling =>
    likeness.Stores filling.store otherFilling.store) values step other

variable {likeness} {directive other : Operator} {arguments otherArguments : Arguments}

theorem fills_ofResult {values : α → α → Prop} {outcome other : Except Error α}
    (alike : AlikeResults values outcome other) :
    likeness.Fills values (Fill.ofResult outcome) (Fill.ofResult other) := by
  cases alike with
  | ok alike => exact parallel_pure alike
  | error same => exact parallel_throw same

theorem fills_note (notice other : Notice) :
    likeness.Fills Eq (Fill.note notice) (Fill.note other) :=
  parallel_modify fun _ _ stores => stores

theorem fills_bindAll (handle : Nat) (names : List Label) :
    likeness.Fills Eq (Fill.bindAll handle names)
      (Fill.bindAll handle (names.map likeness.rename)) := by
  have renamed : List.Forall₂ (fun name other => other = likeness.rename name) names
      (names.map likeness.rename) :=
    map_eq_iff_forall₂.mp (List.map_id _)
  refine parallel_forM renamed fun name otherName same => ?_
  subst same
  refine parallel_bind parallel_get fun filling otherFilling stores => ?_
  exact parallel_bind (fills_ofResult (stores.bind name handle)) fun store otherStore bound =>
    parallel_modify fun _ _ _ => bound

theorem fills_listed (directives : likeness.Directives directive other)
    (tables : likeness.Tables arguments otherArguments) :
    likeness.Fills Eq (Fill.listed directive arguments) (Fill.listed other otherArguments) := by
  unfold Fill.listed
  rw [directives.outputs]
  refine parallel_bind_eq (fills_ofResult (tables.ints "shape" none)) fun shape => ?_
  refine parallel_bind (fills_ofResult (tables.floats "values")) fun values otherValues listed => ?_
  refine parallel_bind (fills_ofResult (alike_ofValues shape listed))
    fun tensor otherTensor tensors => ?_
  have adds : likeness.Fills Eq
      (modifyGet fun filling => ((filling.store.add tensor).2,
        { filling with store := (filling.store.add tensor).1 }))
      (modifyGet fun filling => ((filling.store.add otherTensor).2,
        { filling with store := (filling.store.add otherTensor).1 })) :=
    parallel_modifyGet fun filling otherFilling stores =>
      ⟨(stores.add tensors).1.symm, (stores.add tensors).2⟩
  exact parallel_bind_eq adds fun handle => fills_bindAll handle directive.outputs

theorem fills_constant (directives : likeness.Directives directive other)
    (tables : likeness.Tables arguments otherArguments) :
    likeness.Fills Eq (Fill.constant directive arguments) (Fill.constant other otherArguments) := by
  unfold Fill.constant
  rw [directives.outputs]
  cases directive.outputs with
  | nil => exact parallel_throw rfl
  | cons name others =>
      refine parallel_bind parallel_get fun filling otherFilling stores => ?_
      rw [stores.contains]
      split
      · exact fills_note _ _
      · refine parallel_bind_eq (fills_ofResult (tables.ints "shape" none)) fun shape => ?_
        refine parallel_bind_eq (fills_ofResult (alikeResults_refl Eq.refl _)) fun tensor => ?_
        exact parallel_modify fun _ _ stores => stores.register (tensors_refl tensor) name

theorem fills_directive (directives : likeness.Directives directive other) :
    likeness.Fills Eq (Fill.directive directive) (Fill.directive other) := by
  unfold Fill.directive
  rw [directives.type, directives.outputs]
  cases found : Fill.directives.find? fun known => directive.type = .text known.1 with
  | none => exact parallel_bind_eq (fills_note _ _) fun _ => parallel_throw rfl
  | some known =>
      have tables := tables_ofList known.1 directives.arguments
      have fills : likeness.Fills Eq
          (known.2 directive (Arguments.ofList known.1 directive.arguments))
          (known.2 other (Arguments.ofList known.1 other.arguments)) := by
        have member := List.mem_of_find?_eq_some found
        simp only [Fill.directives, List.mem_cons, List.not_mem_nil, or_false] at member
        rcases member with rfl | rfl
        · exact fills_listed directives tables
        · exact fills_constant directives tables
      exact parallel_bind_eq fills fun _ => fills_note _ _

theorem lowers_onFilling {values : α → α → Prop} {fill other : Fill α}
    (fills : likeness.Fills values fill other) :
    likeness.Lowers values (onFilling fill) (onFilling other) := by
  intro session otherSession alike
  have outcomes := fills ⟨session.tensors, session.notices⟩
    ⟨otherSession.tensors, otherSession.notices⟩ alike.tensors
  unfold onFilling
  generalize fill _ = one, other _ = two at outcomes ⊢
  cases outcomes with
  | ok value stores => exact .ok value ⟨alike.graph, alike.names, stores⟩
  | error same stores => exact .error same ⟨alike.graph, alike.names, stores⟩

/-! ## Stages -/

variable (likeness)

/-- Marked steps that do the same to sessions that are alike, or fail at the same stage. -/
def Reaches (values : α → α → Prop) (step other : Staged α) : Prop :=
  Parallel (fun failure otherFailure =>
    otherFailure.1 = failure.1 ∧ SameCategory failure.2 otherFailure.2) likeness.Sessions values
    step other

variable {likeness}

theorem reaches_during {values : α → α → Prop} {step other : Lower α} (stage : Stage)
    (lowers : likeness.Lowers values step other) :
    likeness.Reaches values (during stage step) (during stage other) := by
  intro session otherSession alike
  have outcomes := lowers session otherSession alike
  unfold during
  generalize step session = one, other otherSession = two at outcomes ⊢
  cases outcomes with
  | ok value sessions => exact .ok value sessions
  | error same sessions => exact .error ⟨rfl, same⟩ sessions

/-- Items that are alike one by one are at the same places. -/
theorem reaches_duringEach {Item : Type} {items : Item → Item → Prop} {list others : List Item}
    {step otherStep : Item → Lower Unit} (stage : Nat → Stage)
    (alike : List.Forall₂ items list others)
    (each : ∀ item other, items item other → likeness.Lowers Eq (step item) (otherStep other)) :
    likeness.Reaches Eq (duringEach stage list step) (duringEach stage others otherStep) := by
  refine parallel_forM (forall₂_zipIdx alike 0) ?_
  rintro ⟨item, place⟩ ⟨other, otherPlace⟩ ⟨items, same⟩
  dsimp only at same ⊢
  subst same
  exact reaches_during (stage place) (each item other items)

variable (likeness)

/-- Imports of inputs, weights and networks that are alike, wherever the latter come from. -/
structure Imports (files : FileTree) (request : ImportRequest) (otherFiles : FileTree)
    (other : ImportRequest) : Prop where
  names : other.names.map Label.text = request.names.map fun name => likeness.rename (.text name)
  inputs : List.Forall₂ (fun input otherInput =>
    AlikeResults likeness.Tensors input.toTensor otherInput.toTensor) request.inputs other.inputs
  labels : Label.text other.labels = likeness.rename (.text request.labels)
  verbose : other.verbose = request.verbose
  network : AlikeResults likeness.Networks (networkAt files request.netPath request.sizeLimit)
    (networkAt otherFiles other.netPath other.sizeLimit)
  weights : AlikeResults (fun weights otherWeights =>
      List.Forall₂ likeness.Directives weights.operators otherWeights.operators)
    (networkAt files request.weightsPath request.sizeLimit)
    (networkAt otherFiles other.weightsPath other.sizeLimit)

variable {likeness} {files otherFiles : FileTree} {request otherRequest : ImportRequest}

theorem Imports.listed (imports : likeness.Imports files request otherFiles otherRequest) :
    List.Forall₂ (fun name otherName => Label.text otherName = likeness.rename (.text name))
      request.names otherRequest.names :=
  map_eq_iff_forall₂.mp imports.names

theorem lowers_countInputs (imports : likeness.Imports files request otherFiles otherRequest) :
    likeness.Lowers Eq (countInputs request) (countInputs otherRequest) := by
  unfold countInputs
  rw [← imports.listed.length_eq, ← imports.inputs.length_eq]
  split
  · exact parallel_throw rfl
  · exact parallel_pure rfl

theorem lowers_registerInput {name otherName : String} {input otherInput : Input}
    (renamed : Label.text otherName = likeness.rename (.text name))
    (alike : AlikeResults likeness.Tensors input.toTensor otherInput.toTensor) :
    likeness.Lowers Eq (registerInput name input) (registerInput otherName otherInput) := by
  unfold registerInput
  rw [renamed]
  refine parallel_bind (lowers_ofResult alike) fun tensor otherTensor tensors => ?_
  refine parallel_bind_eq
    (lowers_onGraph (builds_addVariable (likeness.titles_rename _) tensors)) fun index => ?_
  refine parallel_bind_eq (lowers_publish _ _) fun _ => ?_
  exact parallel_modify fun session otherSession alike =>
    ⟨alike.graph, alike.names, alike.tensors.register tensors _⟩

theorem lowers_loadNetwork {values : Network → Network → Prop} {path otherPath : String}
    {limit otherLimit : Int}
    (alike : AlikeResults values (networkAt files path limit)
      (networkAt otherFiles otherPath otherLimit)) :
    likeness.Lowers values (loadNetwork files path limit)
      (loadNetwork otherFiles otherPath otherLimit) := by
  rw [loadNetwork_eq, loadNetwork_eq]
  refine parallel_bind (lowers_ofResult alike) fun network otherNetwork networks => ?_
  exact parallel_bind_eq (lowers_note _ _) fun _ => parallel_pure networks

theorem lowers_conclude {function : Nat} {network otherNetwork : Network}
    (imports : likeness.Imports files request otherFiles otherRequest)
    (networks : likeness.Networks network otherNetwork) :
    likeness.Lowers Eq (conclude function request network)
      (conclude function otherRequest otherNetwork) := by
  have settings : likeness.Settings ⟨function, request.labels⟩ ⟨function, otherRequest.labels⟩ :=
    ⟨rfl, imports.labels⟩
  unfold conclude
  rw [networks.externalOutputs, imports.verbose]
  refine parallel_bind_eq (lowers_finalize settings network.externalOutputs) fun root => ?_
  refine parallel_bind parallel_get fun session otherSession alike => ?_
  refine parallel_bind_eq (lowers_note _ _) fun _ => ?_
  dsimp only
  split
  · refine parallel_bind_eq (lowers_note _ _) fun _ => ?_
    exact parallel_bind_eq (lowers_note _ _) fun _ => parallel_pure rfl
  · exact parallel_pure rfl

/-- Marked step by marked step, imports that are alike do the same. -/
theorem reaches_staged (function : Nat)
    (imports : likeness.Imports files request otherFiles otherRequest) :
    likeness.Reaches Eq (staged files function request)
      (staged otherFiles function otherRequest) := by
  have settings : likeness.Settings ⟨function, request.labels⟩ ⟨function, otherRequest.labels⟩ :=
    ⟨rfl, imports.labels⟩
  unfold staged
  refine parallel_bind_eq (reaches_during _ (lowers_countInputs imports)) fun _ => ?_
  refine parallel_bind_eq (reaches_duringEach _ (forall₂_zip imports.listed imports.inputs)
    fun named otherNamed alike => lowers_registerInput alike.1 alike.2) fun _ => ?_
  refine parallel_bind (reaches_during _ (parallel_bind_eq (lowers_note _ _) fun _ =>
    lowers_loadNetwork imports.network)) fun network otherNetwork networks => ?_
  refine parallel_bind (reaches_during _ (lowers_loadNetwork imports.weights))
    fun weights otherWeights alike => ?_
  refine parallel_bind_eq (reaches_duringEach _ alike fun directive other directives =>
    lowers_onFilling (fills_directive directives)) fun _ => ?_
  refine parallel_bind_eq (reaches_duringEach _ networks.operators fun operator other operators =>
    parallel_bind_eq (lowers_lowerOperator settings operators) fun _ => parallel_pure rfl)
    fun _ => ?_
  exact reaches_during _ (lowers_conclude imports networks)

theorem sessions_start (graph : Graph) : likeness.Sessions (start graph) (start graph) :=
  ⟨graphs_refl graph, rfl, .nil, rfl⟩

/--
Imports that are alike fail at the same stage, if they fail, and their outcomes are alike: both
succeed with the same root, or both fail with failures of the same class.
-/
theorem Imports.alike (imports : likeness.Imports files request otherFiles otherRequest)
    (function : Nat) (graph : Graph) :
    failureStage? otherFiles function otherRequest (start graph) =
        failureStage? files function request (start graph) ∧
      Alike SameCategory likeness.Sessions Eq (run files function request (start graph))
        (run otherFiles function otherRequest (start graph)) := by
  have outcomes := reaches_staged function imports _ _ (sessions_start graph)
  rw [← erase_staged, ← erase_staged]
  unfold failureStage? erase
  generalize staged files function request (start graph) = one,
    staged otherFiles function otherRequest (start graph) = two at outcomes ⊢
  cases outcomes with
  | ok value sessions => exact ⟨rfl, .ok value sessions⟩
  | error same sessions => exact ⟨congrArg some same.1, .error same.2 sessions⟩

end NetImport.Likeness
