import NetImport.Proofs.Import.Failures
import NetImport.Proofs.Likeness.Import
import NetImport.Proofs.Tensor.Casting

/-!
# Imports with other numbers

The numbers that weights list and inputs hold are stored, but nothing is decided by them: an import
gets as far with other numbers, and all that it builds is the same up to the numbers of tensors. The
one place where contents matter is the cast of an array that a caller hands over, as the cells of
some element types are read as items: a text may be no numeral, and an object too large an integer.
-/

namespace NetImport

/-! ## What is the same up to numbers -/

namespace Descriptor

/-- The argument with the numbers that it lists blanked, so that only their count remains. -/
def Argument.counted (argument : Argument) : Argument :=
  { argument with floats := argument.floats.map fun _ => .zero }

/-- The directive without the numbers that it lists and without the message it was read from. -/
def Operator.skeleton (directive : Operator) : Operator :=
  { directive with
    arguments := directive.arguments.map Argument.counted
    source := .done [] }

end Descriptor

open Descriptor

/-- All of a variable but the numbers of its payload. -/
def Variable.outline (owned : Variable) : Label × Visibility × TrainKind × List Nat :=
  (owned.name, owned.visibility, owned.train, owned.payload.extents)

/-- The same nodes, the same variables up to their numbers, and the same names for them. -/
structure Session.SameOutline (session other : Session) : Prop where
  vars : other.graph.vars.map Variable.outline = session.graph.vars.map Variable.outline
  nodes : other.graph.nodes = session.graph.nodes
  functions : other.graph.functions = session.graph.functions
  names : other.names = session.names
  tensors : other.tensors.tensors.toList.map Tensor.extents =
    session.tensors.tensors.toList.map Tensor.extents
  handles : other.tensors.handles = session.tensors.handles

/-- The extents of an input, which it keeps when it is cast to a tensor. -/
def Input.extents : Input → List Nat
  | tensor value => value.extents
  | array value => value.extents

/-- Inputs of the same extents that are both cast to tensors, or both refused in the same way. -/
structure Input.CastsAlike (input other : Input) : Prop where
  extents : other.extents = input.extents
  cast : AlikeResults (fun _ _ => True) input.toTensor other.toTensor

namespace Import

/-- The other import is the first one with other numbers in its weights and inputs. -/
structure DiffersInNumbers (files : FileTree) (request : ImportRequest) (otherFiles : FileTree)
    (other : ImportRequest) : Prop where
  names : other.names = request.names
  inputs : List.Forall₂ Input.CastsAlike request.inputs other.inputs
  labels : other.labels = request.labels
  verbose : other.verbose = request.verbose
  network : networkAt otherFiles other.netPath other.sizeLimit =
    networkAt files request.netPath request.sizeLimit
  weights : AlikeResults (fun weights otherWeights =>
      otherWeights.operators.map Operator.skeleton = weights.operators.map Operator.skeleton)
    (networkAt files request.weightsPath request.sizeLimit)
    (networkAt otherFiles other.weightsPath other.sizeLimit)

end Import

/-! ## Casting -/

/-- All numbers may stand for each other, while names and titles stay the same. -/
def Likeness.upToNumbers : Likeness where
  rename := id
  injective := Function.injective_id
  numbers _ _ := True
  numbers_refl _ := trivial
  titles := Eq
  titles_refl := Eq.refl
  titles_rename _ := rfl
  titles_part _ _ suffix same := congrArg (Label.part · suffix) same

theorem Input.extents_of_toTensor {input : Input} {tensor : Tensor}
    (casts : input.toTensor = .ok tensor) : tensor.extents = input.extents := by
  cases input with
  | tensor value =>
      rcases Except.ok.inj casts with rfl
      rfl
  | array value =>
      rcases except_bind_eq_ok.mp casts with ⟨numbers, _, built⟩
      have ⟨shape, _⟩ := Tensor.shape_and_data_of_ofValues built
      exact List.map_injective_iff.mpr Int.ofNat_injective shape

/-- Arrays of the same extents and one plain element type are cast alike, whatever they hold. -/
theorem castsAlike_of_plain {array other : NumericArray} (element : other.element = array.element)
    (extents : other.extents = array.extents) (plain : array.element.readsItem = false) :
    (Input.array array).CastsAlike (.array other) := by
  refine ⟨extents, ?_⟩
  simp only [Input.toTensor, NumericArray.cast]
  by_cases single : array.element.hasOneField
  · rcases NumericArray.exists_numbers plain single with ⟨numbers, narrowed, count⟩
    rcases NumericArray.exists_numbers (element ▸ plain) (element ▸ single) with
      ⟨otherNumbers, otherNarrowed, otherCount⟩
    have counts : numbers.length = otherNumbers.length := by
      rw [count, otherCount, array.size_values, other.size_values, extents]
    have listed : List.Forall₂ Likeness.upToNumbers.numbers numbers otherNumbers :=
      List.forall₂_iff_zip.mpr ⟨counts, fun _ => trivial⟩
    rw [narrowed, otherNarrowed, NumericArray.shape, NumericArray.shape, extents]
    exact (Likeness.alike_ofValues _ listed).imp fun _ _ _ => trivial
  · have refused (refusing : NumericArray) (same : refusing.element = array.element) :
        refusing.numbers = .error .rejectedType := by
      rw [NumericArray.numbers, same, if_neg single]
    rw [refused array rfl, refused other element]
    exact .error rfl

/-! ## Alike imports -/

namespace Likeness

open Import

theorem tensors_of_castsAlike {input other : Input} (alike : input.CastsAlike other) :
    AlikeResults upToNumbers.Tensors input.toTensor other.toTensor := by
  have ⟨extents, cast⟩ := alike
  generalize first : input.toTensor = one, second : other.toTensor = two at cast
  cases cast with
  | ok _ =>
      refine .ok ⟨?_, fun _ => trivial⟩
      rw [Input.extents_of_toTensor first, Input.extents_of_toTensor second, extents]
  | error same => exact .error same

theorem listings_of_counted {argument other : Argument} (same : other.counted = argument.counted) :
    upToNumbers.Listings argument other := by
  simp only [Argument.counted, Argument.mk.injEq] at same
  have ⟨name, float?, int?, bytes?, floats, ints, strings, _⟩ := same
  exact ⟨name, float?, int?, bytes?, (map_eq_iff_forall₂.mp floats).imp fun _ _ _ => trivial, ints,
    strings⟩

theorem directives_of_skeleton {directive other : Operator}
    (same : other.skeleton = directive.skeleton) : upToNumbers.Directives directive other := by
  simp only [Operator.skeleton, Operator.mk.injEq] at same
  have ⟨type, _, _, outputs, arguments, _⟩ := same
  refine ⟨type, ?_, (map_eq_iff_forall₂.mp arguments).imp fun _ _ => listings_of_counted⟩
  exact outputs.trans (List.map_id _).symm

theorem networks_refl (network : Network) : upToNumbers.Networks network network where
  operators := List.forall₂_same.mpr fun _ _ => {
    type := rfl
    outputs := (List.map_id _).symm
    arguments := List.forall₂_same.mpr fun argument _ => listings_refl argument
    name := rfl
    inputs := (List.map_id _).symm }
  externalOutputs := (List.map_id _).symm

theorem imports_of_differsInNumbers {files otherFiles : FileTree} {request other : ImportRequest}
    (differs : DiffersInNumbers files request otherFiles other) :
    upToNumbers.Imports files request otherFiles other where
  names := congrArg (List.map Label.text) differs.names
  inputs := differs.inputs.imp fun _ _ => tensors_of_castsAlike
  labels := congrArg Label.text differs.labels
  verbose := differs.verbose
  network := by
    rw [differs.network]
    exact alikeResults_refl networks_refl _
  weights := differs.weights.imp fun _ _ same =>
    (map_eq_iff_forall₂.mp same).imp fun _ _ => directives_of_skeleton

/-- Nodes hold no numbers of tensors. -/
theorem Nodes.eq {node other : Node} (alike : upToNumbers.Nodes node other) : other = node := by
  cases node
  cases other
  rw [Node.mk.injEq]
  exact ⟨alike.function, Eq.symm alike.name, alike.operation, alike.operands, alike.shape⟩

theorem Sessions.sameOutline {session other : Session}
    (alike : upToNumbers.Sessions session other) : session.SameOutline other where
  vars := map_eq_iff_forall₂.mpr (alike.graph.vars.imp fun owned otherOwned vars => by
    have name : owned.name = otherOwned.name := vars.name
    rw [Variable.outline, Variable.outline, name, vars.visibility, vars.train,
      vars.payload.extents])
  nodes := eq_of_forall₂ (alike.graph.nodes.imp fun _ _ => Nodes.eq)
  functions := alike.graph.functions
  names := alike.names.trans Registry.renamed_id
  tensors := map_eq_iff_forall₂.mpr (alike.tensors.tensors.imp fun _ _ tensors => tensors.extents)
  handles := alike.tensors.handles.trans Registry.renamed_id

end Likeness

namespace Import

open Steps (Alike)

/--
No number that is stored decides anything. With other numbers in its weights and inputs, an import
succeeds as before or fails at the same stage with a failure of the same class. Either way it leaves
the same nodes, and the same variables up to the numbers in their payloads.
-/
theorem outline_independent_of_numbers {files otherFiles : FileTree}
    {request other : ImportRequest} (differs : DiffersInNumbers files request otherFiles other)
    (function : Nat) (graph : Graph) :
    failureStage? otherFiles function other (start graph) =
        failureStage? files function request (start graph) ∧
      Alike SameCategory Session.SameOutline Eq (run files function request (start graph))
        (run otherFiles function other (start graph)) := by
  have imports := Likeness.imports_of_differsInNumbers differs
  have ⟨stage, alike⟩ := imports.alike function graph
  exact ⟨stage, alike.imp fun _ _ => Likeness.Sessions.sameOutline⟩

end Import

namespace Sample

/-- An array with one cell, which holds a number. -/
def measured (number : Binary64) : NumericArray := ⟨.ofType .double, [1], #[.double number], rfl⟩

def measuredRequest (number : Binary64) : ImportRequest :=
  { request with inputs := [.array (measured number)] }

/-- Values that are not numbers. -/
def notANumber : Binary64 := ⟨0x7ff8000000000000⟩

def oddFolder : FileTree :=
  folderOf [(["net.pb"], rectifierNet.encode),
    (["weights.pb"], (listing "x" notANumber.narrow).encode)]

end Sample

namespace Import

theorem outline_independent_of_numbers_sample :
    ∃ root after otherAfter,
      run Sample.folder 0 (Sample.measuredRequest (.ofInt 5)) (start Sample.ground) =
          .ok root after ∧
        run Sample.oddFolder 0 (Sample.measuredRequest Sample.notANumber) (start Sample.ground) =
          .ok root otherAfter ∧
        after.SameOutline otherAfter := by
  have differs : DiffersInNumbers Sample.folder (Sample.measuredRequest (.ofInt 5))
      Sample.oddFolder (Sample.measuredRequest Sample.notANumber) := by
    have inputs : (Input.array (Sample.measured (.ofInt 5))).CastsAlike
        (.array (Sample.measured Sample.notANumber)) := castsAlike_of_plain rfl rfl rfl
    have network : networkAt Sample.oddFolder "net.pb" defaultSizeLimit =
        networkAt Sample.folder "net.pb" defaultSizeLimit := by decide +kernel
    have weights : networkAt Sample.folder "weights.pb" defaultSizeLimit =
        .ok (Network.ofMessage Sample.sevenWeights) := by decide +kernel
    have otherWeights : networkAt Sample.oddFolder "weights.pb" defaultSizeLimit =
        .ok (Network.ofMessage (Sample.listing "x" Sample.notANumber.narrow)) := by decide +kernel
    refine ⟨rfl, .cons inputs .nil, rfl, rfl, network, ?_⟩
    exact weights ▸ otherWeights ▸ .ok (by decide +kernel)
  have succeeds : failureStage? Sample.folder 0 (Sample.measuredRequest (.ofInt 5))
      (start Sample.ground) = none := by
    decide +kernel
  rcases failureStage?_eq_none.mp succeeds with ⟨root, after, first⟩
  have alike := (outline_independent_of_numbers differs 0 Sample.ground).2
  rcases (first ▸ alike).of_ok with ⟨_, otherAfter, second, rfl, sessions⟩
  exact ⟨root, after, otherAfter, first, second, sessions⟩

end Import

namespace Sample

/-- An array with one cell, which holds the first character of the text of a number. -/
def character (number : Int) : Input :=
  .array ⟨.ofType (.text 1), [1], #[.double (.ofInt number)], rfl⟩

def characterRequest (number : Int) : ImportRequest :=
  { request with inputs := [character number] }

end Sample

namespace Import

/-- Of two arrays of the same shape and element type one is cast, and the other is refused. -/
theorem contents_can_stop_an_import :
    (Sample.character (-5)).extents = (Sample.character 5).extents ∧
      (∃ root after, run Sample.folder 0 (Sample.characterRequest 5) (start Sample.ground) =
        .ok root after) ∧
      (∃ after, run Sample.folder 0 (Sample.characterRequest (-5)) (start Sample.ground) =
        .error .rejectedValue after) ∧
      failureStage? Sample.folder 0 (Sample.characterRequest (-5)) (start Sample.ground) =
        some (.registering 0) := by
  have succeeds : failureStage? Sample.folder 0 (Sample.characterRequest 5)
      (start Sample.ground) = none := by
    decide +kernel
  have fails : Sample.failure? (run Sample.folder 0 (Sample.characterRequest (-5))
      (start Sample.ground)) = some .rejectedValue := by
    decide +kernel
  exact ⟨rfl, failureStage?_eq_none.mp succeeds, fails_of_failure? fails, by decide +kernel⟩

end Import

end NetImport
