import NetImport.Proofs.Graph.Growth
import NetImport.Proofs.Steps

/-!
# What factories build

For every factory this file says when it succeeds and what the graph is afterwards, and that a
factory which fails has left the graph as it was. The equations for success are the only place where
the bodies of the factories are opened.
-/

namespace NetImport

namespace Build

open Steps (Leaves leaves_bind leaves_iff)

variable {α β : Type}

/-- A build that fails leaves the graph as it was. -/
def AllOrNothing (build : Build α) : Prop :=
  ∀ graph error after, build graph = .error error after → after = graph

/-- A check is a build that leaves the graph as it was, whether it succeeds or fails. -/
theorem leaves_eq_iff {check : Build α} :
    Leaves Eq check ↔
      (∀ graph value after, check graph = .ok value after → after = graph) ∧
        ∀ graph error after, check graph = .error error after → after = graph := by
  simp only [leaves_iff, eq_comm]

/-- Checks that come before a build do not spoil that a failure leaves the graph as it was. -/
theorem allOrNothing_bind {check : Build α} {next : α → Build β} (checks : Leaves Eq check)
    (rest : ∀ value, AllOrNothing (next value)) : AllOrNothing (check >>= next) := by
  intro graph error after fails
  rw [leaves_eq_iff] at checks
  rcases Steps.bind_eq_error.mp fails with checkFails | ⟨value, mid, checked, restFails⟩
  · exact checks.2 _ _ _ checkFails
  · rw [rest value _ _ _ restFails, checks.1 _ _ _ checked]

theorem leaves_ofResult (outcome : Except Error α) : Leaves Eq (ofResult outcome) := by
  rw [leaves_eq_iff]
  simp +contextual

theorem leaves_fault (fault : ShapeFault) : Leaves Eq (Build.fault fault : Build α) := by
  rw [leaves_eq_iff]
  simp +contextual

theorem leaves_require (condition : Prop) [Decidable condition] (fault : ShapeFault) :
    Leaves Eq (require condition fault) := by
  rw [leaves_eq_iff]
  simp +contextual

/-- What grows the graph when it succeeds and is all or nothing grows it in any case. -/
theorem leaves_growsTo {build : Build α} (whole : AllOrNothing build)
    (grows : ∀ {graph value after}, build graph = .ok value after → graph.GrowsTo after) :
    Leaves Graph.GrowsTo build := by
  rw [leaves_iff]
  refine ⟨fun _ _ _ succeeds => grows succeeds, ?_⟩
  intro graph error after fails
  rw [whole _ _ _ fails]
  exact graph.growsTo_refl

/-- All or nothing, where all is one node at the end of the graph, which belongs to a function. -/
def AddsNode (function : Nat) (build : Build Ref) : Prop :=
  AllOrNothing build ∧
    ∀ graph ref after, build graph = .ok ref after →
      ref = .node graph.nodes.length ∧
        ∃ node : Node, node.function = function ∧ after = graph.withNode node

theorem addsNode_bind {function : Nat} {check : Build α} {next : α → Build Ref}
    (checks : Leaves Eq check) (rest : ∀ value, AddsNode function (next value)) :
    AddsNode function (check >>= next) := by
  refine ⟨allOrNothing_bind checks fun value => (rest value).1, ?_⟩
  intro graph ref after succeeds
  rcases Steps.bind_eq_ok.mp succeeds with ⟨value, mid, checked, added⟩
  rw [(leaves_eq_iff.mp checks).1 _ _ _ checked] at added
  exact (rest value).2 _ _ _ added

theorem addsNode_throw {function : Nat} {error : Error} : AddsNode function (throw error) := by
  refine ⟨?_, ?_⟩
  · intro graph raised after fails
    exact (Steps.throw_eq_error.mp fails).2
  · intro graph ref after succeeds
    simp at succeeds

theorem addsNode_fault {function : Nat} {fault : ShapeFault} :
    AddsNode function (Build.fault fault) :=
  addsNode_throw

theorem AddsNode.grows {function : Nat} {build : Build Ref} (adds : AddsNode function build) :
    Leaves Graph.GrowsTo build := by
  refine leaves_growsTo adds.1 ?_
  intro graph ref after added
  rcases adds.2 _ _ _ added with ⟨_, node, _, rfl⟩
  exact Graph.growsTo_withNode _ _

end Build

namespace Graph

open Build
open Steps (Leaves leaves_bind leaves_iff leaves_get leaves_pure)

variable {graph after : Graph} {function : Nat} {name : Label} {ref : Ref}

/-! ## Reading and checking -/

@[simp]
theorem shape_eq_ok {found : Shape} :
    shape ref graph = .ok found after ↔ found = graph.shapeOf ref ∧ after = graph := by
  simp [shape, and_comm, eq_comm (a := found)]

/-- A build that first reads a shape is the build for that shape. -/
@[simp]
theorem shape_bind {β : Type} {next : Shape → Build β} :
    (shape ref >>= next) graph = next (graph.shapeOf ref) graph := rfl

theorem leaves_shape (ref : Ref) : Leaves Eq (shape ref) := by
  rw [leaves_eq_iff]
  simp +contextual [shape]

@[simp]
theorem requireRankFour_eq_ok {operation : String} {operand : Shape}
    {extents : Int × Int × Int × Int} :
    requireRankFour operation operand graph = .ok extents after ↔
      operand = [extents.1, extents.2.1, extents.2.2.1, extents.2.2.2] ∧ after = graph := by
  rcases extents with ⟨batch, height, width, channels⟩
  unfold requireRankFour
  split
  · simp [eq_comm, and_assoc]
  · rename_i shape different
    simp only [fault_ne_ok, false_iff, not_and]
    intro same
    exact absurd same (different _ _ _ _)

theorem leaves_requireRankFour (operation : String) (operand : Shape) :
    Leaves Eq (requireRankFour operation operand) := by
  unfold requireRankFour
  split
  · exact leaves_pure _
  · exact leaves_fault _

@[simp]
theorem windowExtents_eq_ok {window : Window} {height width : Int} {extents : Int × Int} :
    windowExtents window height width graph = .ok extents after ↔
      Shape.windowOutput height width window.kernel window.stride window.pad = .ok extents ∧
        after = graph := by
  simp [windowExtents]

theorem leaves_windowExtents (window : Window) (height width : Int) :
    Leaves Eq (windowExtents window height width) :=
  leaves_ofResult _

/-! ## Variables -/

@[simp]
theorem addVariable_eq_ok {payload : Tensor} {visibility : Visibility} {train : TrainKind}
    {index : Nat} :
    addVariable name payload visibility train graph = .ok index after ↔
      index = graph.vars.length ∧ after = graph.withVar ⟨name, visibility, train, payload⟩ := by
  simp [addVariable, withVar]

theorem addVariable_grows (name : Label) (payload : Tensor) (visibility : Visibility)
    (train : TrainKind) : Leaves GrowsTo (addVariable name payload visibility train) := by
  intro graph
  exact growsTo_withVar graph ⟨name, visibility, train, payload⟩

@[simp]
theorem createFilled_eq_ok {shape : Shape} {value : Binary32} {visibility : Visibility}
    {train : TrainKind} {index : Nat} :
    createFilled name shape value visibility train graph = .ok index after ↔
      ∃ payload, Tensor.filled shape value = .ok payload ∧ index = graph.vars.length ∧
        after = graph.withVar ⟨name, visibility, train, payload⟩ := by
  simp [createFilled, and_assoc]

theorem createFilled_allOrNothing {shape : Shape} {value : Binary32}
    {visibility : Visibility} {train : TrainKind} :
    AllOrNothing (createFilled name shape value visibility train) := by
  refine allOrNothing_bind (leaves_ofResult _) fun payload => ?_
  intro graph error after fails
  simp [addVariable] at fails

theorem createFilled_grows (name : Label) (shape : Shape) (value : Binary32)
    (visibility : Visibility) (train : TrainKind) :
    Leaves GrowsTo (createFilled name shape value visibility train) := by
  refine leaves_growsTo createFilled_allOrNothing ?_
  intro graph index after created
  rcases createFilled_eq_ok.mp created with ⟨payload, _, _, rfl⟩
  exact growsTo_withVar _ _

@[simp]
theorem copyTarget_eq_ok {index : Nat} {source : Shape} {target : Variable} :
    copyTarget index source graph = .ok target after ↔
      graph.vars[index]? = some target ∧ source = target.shape ∧ after = graph := by
  simp only [copyTarget, Steps.get_bind]
  cases graph.vars[index]? with
  | none => simp
  | some held =>
      simp only [Steps.bind_eq_ok, require_eq_ok, Steps.pure_eq_ok, Option.some.injEq]
      constructor
      · rintro ⟨_, _, ⟨same, rfl⟩, rfl, rfl⟩
        exact ⟨rfl, same, rfl⟩
      · rintro ⟨rfl, same, rfl⟩
        exact ⟨(), after, ⟨same, rfl⟩, rfl, rfl⟩

theorem leaves_copyTarget (index : Nat) (source : Shape) : Leaves Eq (copyTarget index source) := by
  refine leaves_bind leaves_get fun graph => ?_
  split
  · exact Steps.leaves_throw _
  · exact leaves_bind (leaves_require _ _) fun _ => leaves_pure _

@[simp]
theorem copyFrom_eq_ok {index : Nat} {source : Tensor} {value : Unit} :
    copyFrom index source graph = .ok value after ↔
      ∃ target, graph.vars[index]? = some target ∧ source.shape = target.shape ∧
        after = { graph with vars := graph.vars.set index { target with payload := source } } := by
  simp [copyFrom, and_assoc]

theorem copyFrom_allOrNothing {index : Nat} {source : Tensor} :
    AllOrNothing (copyFrom index source) := by
  refine allOrNothing_bind (leaves_copyTarget _ _) fun target => ?_
  intro graph error after fails
  simp at fails

/-! ## Nodes -/

@[simp]
theorem addNode_eq_ok {operation : Operation} {operands : List Ref} {shape : Shape} :
    addNode function name operation operands shape graph = .ok ref after ↔
      ref = .node graph.nodes.length ∧
        after = graph.withNode ⟨function, name, operation, operands, shape⟩ := by
  simp [addNode, withNode]

theorem addNode_addsNode {operation : Operation} {operands : List Ref} {shape : Shape} :
    AddsNode function (addNode function name operation operands shape) := by
  constructor
  · intro graph error after fails
    simp [addNode] at fails
  · intro graph ref after added
    rcases addNode_eq_ok.mp added with ⟨rfl, rfl⟩
    exact ⟨rfl, _, rfl, rfl⟩

@[simp]
theorem createElementwise_eq_ok {operation : Operation} {input : Ref} :
    createElementwise function name operation input graph = .ok ref after ↔
      ref = .node graph.nodes.length ∧
        after =
          graph.withNode ⟨function, name, operation, [input], graph.shapeOf input⟩ := by
  simp [createElementwise]

theorem createElementwise_addsNode {operation : Operation}
    {input : Ref} : AddsNode function (createElementwise function name operation input) :=
  addsNode_bind (leaves_shape _) fun _ => addNode_addsNode

theorem permute_eq_ok {shape permuted : Shape} {permutation : List Int} :
    shape.permute permutation = .ok permuted ↔
      Shape.IsAxisPermutation permutation shape.length ∧
        permuted = permutation.map shape.extentAt := by
  unfold Shape.permute
  split
  · simp [*, eq_comm]
  · simp [*]

@[simp]
theorem createTranspose_eq_ok {input : Ref} {permutation : List Int} :
    createTranspose function name input permutation graph = .ok ref after ↔
      Shape.IsAxisPermutation permutation (graph.shapeOf input).length ∧
        ref = .node graph.nodes.length ∧
        after =
          graph.withNode ⟨function, name, .transpose permutation, [input],
            permutation.map (graph.shapeOf input).extentAt⟩ := by
  simp [createTranspose, permute_eq_ok, and_assoc]

theorem createTranspose_addsNode {input : Ref}
    {permutation : List Int} :
    AddsNode function (createTranspose function name input permutation) :=
  addsNode_bind (leaves_shape _) fun _ =>
    addsNode_bind (leaves_ofResult _) fun _ => addNode_addsNode

@[simp]
theorem createConvolution_eq_ok {input filter bias : Ref} {output : Shape} {window : Window}
    {group : Int} :
    createConvolution function name input filter bias output window group graph = .ok ref after ↔
      ∃ batch height width channels depth outHeight outWidth,
        graph.shapeOf input = [batch, height, width, channels] ∧
        0 < group ∧ channels % group = 0 ∧ depth % group = 0 ∧
        graph.shapeOf filter = [depth, window.kernel, window.kernel, channels / group] ∧
        graph.shapeOf bias = [depth] ∧
        Shape.windowOutput height width window.kernel window.stride window.pad =
          .ok (outHeight, outWidth) ∧
        output = [batch, outHeight, outWidth, depth] ∧
        ref = .node graph.nodes.length ∧
        after =
          graph.withNode ⟨function, name, .convolution window group, [input, filter, bias],
            output⟩ := by
  constructor
  · intro created
    simp only [createConvolution, Steps.bind_eq_ok, shape_eq_ok, requireRankFour_eq_ok,
      require_eq_ok] at created
    rcases created with
      ⟨_, _, ⟨rfl, rfl⟩, ⟨batch, height, width, channels⟩, _, ⟨input4, rfl⟩, _, _,
        ⟨⟨positive, divides⟩, rfl⟩, rest⟩
    cases third : output[3]? with
    | none => simp [third] at rest
    | some depth =>
        simp only [third, Steps.bind_eq_ok, require_eq_ok, shape_bind, windowExtents_eq_ok,
          addNode_eq_ok, ↓existsAndEq, and_true, exists_const, Prod.exists] at rest
        rcases rest with
          ⟨depthDivides, filterShape, biasShape, outHeight, outWidth, fits, rfl, rfl, rfl⟩
        exact ⟨batch, height, width, channels, depth, outHeight, outWidth, input4, positive,
          divides, depthDivides, filterShape, biasShape, fits, rfl, rfl, rfl⟩
  · rintro ⟨batch, height, width, channels, depth, outHeight, outWidth, input4, positive, divides,
      depthDivides, filterShape, biasShape, fits, rfl, rfl, rfl⟩
    have third : [batch, outHeight, outWidth, depth][3]? = some depth := rfl
    simp only [createConvolution, third, shape_bind, input4, Steps.bind_eq_ok,
      requireRankFour_eq_ok, List.cons.injEq, and_true, positive, true_and, require_eq_ok,
      depthDivides, windowExtents_eq_ok, addNode_eq_ok, ↓existsAndEq, exists_const, Prod.exists,
      exists_eq_left, filterShape, biasShape, and_self, divides, fits, exists_eq']

theorem createConvolution_addsNode {input filter bias : Ref}
    {output : Shape} {window : Window} {group : Int} :
    AddsNode function (createConvolution function name input filter bias output window group) := by
  refine addsNode_bind (leaves_shape _) fun _ => ?_
  refine addsNode_bind (leaves_requireRankFour _ _) fun ⟨batch, height, width, channels⟩ => ?_
  refine addsNode_bind (leaves_require _ _) fun _ => ?_
  cases output[3]? with
  | none => exact addsNode_throw
  | some depth =>
      refine addsNode_bind (leaves_require _ _) fun _ => ?_
      refine addsNode_bind (leaves_shape _) fun _ => ?_
      refine addsNode_bind (leaves_shape _) fun _ => ?_
      refine addsNode_bind (leaves_require _ _) fun _ => ?_
      refine addsNode_bind (leaves_shape _) fun _ => ?_
      refine addsNode_bind (leaves_shape _) fun _ => ?_
      refine addsNode_bind (leaves_require _ _) fun _ => ?_
      refine addsNode_bind (leaves_windowExtents _ _ _) fun _ => ?_
      exact addsNode_bind (leaves_require _ _) fun _ => addNode_addsNode

@[simp]
theorem createPool_eq_ok {operation : Operation} {window : Window} {input : Ref} :
    createPool function name operation window input graph = .ok ref after ↔
      ∃ batch height width channels outHeight outWidth,
        graph.shapeOf input = [batch, height, width, channels] ∧
        Shape.windowOutput height width window.kernel window.stride window.pad =
          .ok (outHeight, outWidth) ∧
        ref = .node graph.nodes.length ∧
        after =
          graph.withNode ⟨function, name, operation, [input],
            [batch, outHeight, outWidth, channels]⟩ := by
  simp [createPool, and_assoc]

theorem createPool_addsNode {operation : Operation}
    {window : Window} {input : Ref} :
    AddsNode function (createPool function name operation window input) := by
  refine addsNode_bind (leaves_shape _) fun _ => ?_
  refine addsNode_bind (leaves_requireRankFour _ _) fun ⟨batch, height, width, channels⟩ => ?_
  exact addsNode_bind (leaves_windowExtents _ _ _) fun ⟨_, _⟩ => addNode_addsNode

/-- Filling succeeds or fails by the shape alone. -/
theorem filled_eq_error {shape : Shape} {value : Binary32} {error : Error} :
    Tensor.filled shape value = .error error ↔ Tensor.allocate shape = .error error := by
  unfold Tensor.filled
  cases Tensor.allocate shape with
  | ok extents => simp [bind, Except.bind, pure, Except.pure]
  | error raised => simp [bind, Except.bind]

@[simp]
theorem createBatchNormalization_eq_ok {input : Ref} {channel : Int} {epsilon momentum : Binary64} :
    createBatchNormalization function name input channel epsilon momentum graph = .ok ref after ↔
      ∃ ones zeros, (0 ≤ channel ∧ channel < (graph.shapeOf input).length) ∧
        Tensor.filled [(graph.shapeOf input).extentAt channel] .one = .ok ones ∧
        Tensor.filled [(graph.shapeOf input).extentAt channel] .zero = .ok zeros ∧
        ref = .node graph.nodes.length ∧
        after =
          ((((graph.withVar ⟨name.part ".scale", .internal, .broadcast, ones⟩).withVar
            ⟨name.part ".bias", .internal, .broadcast, zeros⟩).withVar
            ⟨name.part ".mean", .internal, .broadcast, zeros⟩).withVar
            ⟨name.part ".var", .internal, .broadcast, ones⟩).withNode
            ⟨function, name, .batchNormalization channel epsilon momentum,
              [input, .var graph.vars.length, .var (graph.vars.length + 1),
                .var (graph.vars.length + 2), .var (graph.vars.length + 3)],
              graph.shapeOf input⟩ := by
  constructor
  · intro created
    simp only [createBatchNormalization, Steps.bind_eq_ok, shape_eq_ok, require_eq_ok,
      createFilled_eq_ok, addNode_eq_ok] at created
    rcases created with
      ⟨_, _, ⟨rfl, rfl⟩, _, _, ⟨inRange, rfl⟩, _, _, ⟨ones, isOnes, rfl, rfl⟩, _, _,
        ⟨zeros, isZeros, rfl, rfl⟩, _, _, ⟨means, isMeans, rfl, rfl⟩, _, _,
        ⟨variances, isVariances, rfl, rfl⟩, rfl, rfl⟩
    rw [isZeros, Except.ok.injEq] at isMeans
    rw [isOnes, Except.ok.injEq] at isVariances
    subst means variances
    exact ⟨ones, zeros, inRange, isOnes, isZeros, by simp, by simp⟩
  · rintro ⟨ones, zeros, inRange, isOnes, isZeros, rfl, rfl⟩
    simp [createBatchNormalization, inRange, isOnes, isZeros]

theorem createBatchNormalization_allOrNothing {input : Ref} {channel : Int}
    {epsilon momentum : Binary64} :
    AllOrNothing (createBatchNormalization function name input channel epsilon momentum) := by
  refine allOrNothing_bind (leaves_shape _) fun operand => ?_
  refine allOrNothing_bind (leaves_require _ _) fun _ => ?_
  intro graph error after fails
  -- Once the first variable is there, its shape has been accepted, and the others have the same.
  rcases Steps.bind_eq_error.mp fails with firstFails | ⟨scale, withScale, created, restFails⟩
  · exact createFilled_allOrNothing _ _ _ firstFails
  · rcases createFilled_eq_ok.mp created with ⟨payload, filled, _, _⟩
    have accepted : ∀ raised, Tensor.allocate [operand.extentAt channel] ≠ .error raised := by
      intro raised refused
      rw [filled_eq_error.mpr refused] at filled
      cases filled
    simp [createFilled, addVariable, addNode, filled_eq_error, accepted] at restFails

/-- The parameters of a new batch normalisation are the variables made for it. -/
theorem operandsOf_createBatchNormalization {input : Ref} {channel : Int}
    {epsilon momentum : Binary64}
    (created :
      createBatchNormalization function name input channel epsilon momentum graph = .ok ref after) :
    after.operandsOf ref =
      [input, .var graph.vars.length, .var (graph.vars.length + 1), .var (graph.vars.length + 2),
        .var (graph.vars.length + 3)] := by
  rcases createBatchNormalization_eq_ok.mp created with ⟨ones, zeros, _, _, _, rfl, rfl⟩
  exact operandsOf_withNode_new

theorem createBatchNormalization_grows {input : Ref} {channel : Int} {epsilon momentum : Binary64} :
    Leaves GrowsTo
      (createBatchNormalization function name input channel epsilon momentum) := by
  refine leaves_growsTo createBatchNormalization_allOrNothing ?_
  intro graph ref after created
  rcases createBatchNormalization_eq_ok.mp created with ⟨ones, zeros, _, _, _, _, rfl⟩
  exact graph.growsTo_refl.withVar.withVar.withVar.withVar.withNode

@[simp]
theorem createConcat_eq_ok {inputs : List Ref} {dimension : Int} :
    createConcat function name inputs dimension graph = .ok ref after ↔
      ∃ first others, inputs.map graph.shapeOf = first :: others ∧
        (0 ≤ dimension ∧ dimension < first.length) ∧
        (∀ other ∈ others, agreeBeside dimension.toNat first other) ∧
        ref = .node graph.nodes.length ∧
        after =
          graph.withNode ⟨function, name, .concat dimension, inputs,
            first.set dimension.toNat
              (((first :: others).map fun shape => shape.extentAt dimension).foldr (· + ·) 0)⟩ := by
  simp only [createConcat, Steps.get_bind]
  cases inputs.map graph.shapeOf with
  | nil => simp
  | cons first others =>
      cases found : others.find? fun other => !agreeBeside dimension.toNat first other with
      | none =>
          have agree := found
          simp only [List.find?_eq_none, Bool.not_eq_true, Bool.not_eq_false'] at agree
          simpa [and_assoc, found] using fun _ _ _ _ => agree
      | some other =>
          have differs := List.find?_some found
          have member := List.mem_of_find?_eq_some found
          simp only [Bool.not_eq_true'] at differs
          simp only [Steps.bind_eq_ok, require_eq_ok, found, fault_ne_ok, and_false, exists_false,
            List.cons.injEq, false_iff]
          rintro ⟨_, _, ⟨rfl, rfl⟩, _, agree, _⟩
          rw [agree other member] at differs
          cases differs

theorem createConcat_addsNode {inputs : List Ref} {dimension : Int} :
    AddsNode function (createConcat function name inputs dimension) := by
  refine addsNode_bind leaves_get fun current => ?_
  split
  · exact addsNode_fault
  · refine addsNode_bind (leaves_require _ _) fun _ => ?_
    split
    · exact addsNode_fault
    · exact addNode_addsNode

@[simp]
theorem createPairwise_eq_ok {operation : Operation} {left right : Ref} :
    createPairwise function name operation left right graph = .ok ref after ↔
      graph.shapeOf left = graph.shapeOf right ∧ ref = .node graph.nodes.length ∧
        after =
          graph.withNode ⟨function, name, operation, [left, right], graph.shapeOf left⟩ := by
  simp [createPairwise]

theorem createPairwise_addsNode {operation : Operation} {left right : Ref} :
    AddsNode function (createPairwise function name operation left right) := by
  refine addsNode_bind (leaves_shape _) fun _ => ?_
  refine addsNode_bind (leaves_shape _) fun _ => ?_
  exact addsNode_bind (leaves_require _ _) fun _ => addNode_addsNode

@[simp]
theorem createBroadcast_eq_ok {input : Ref} {target : Shape} {axis : Int} :
    createBroadcast function name input target axis graph = .ok ref after ↔
      broadcastable (graph.shapeOf input) target axis ∧ ref = .node graph.nodes.length ∧
        after = graph.withNode ⟨function, name, .broadcast axis, [input], target⟩ := by
  simp [createBroadcast]

theorem createBroadcast_addsNode {input : Ref} {target : Shape} {axis : Int} :
    AddsNode function (createBroadcast function name input target axis) :=
  addsNode_bind (leaves_shape _) fun _ =>
    addsNode_bind (leaves_require _ _) fun _ => addNode_addsNode

@[simp]
theorem createSoftmax_eq_ok {input selected : Ref} :
    createSoftmax function name input selected graph = .ok ref after ↔
      ref = .node graph.nodes.length ∧
        after =
          graph.withNode ⟨function, name, .softmax, [input, selected], graph.shapeOf input⟩ := by
  simp [createSoftmax]

theorem createSoftmax_addsNode {input selected : Ref} :
    AddsNode function (createSoftmax function name input selected) :=
  addsNode_bind (leaves_shape _) fun _ => addNode_addsNode

@[simp]
theorem createReshape_eq_ok {input : Ref} {target : Shape} :
    createReshape function name input target graph = .ok ref after ↔
      target.size = (graph.shapeOf input).size ∧ ref = .node graph.nodes.length ∧
        after = graph.withNode ⟨function, name, .reshape target, [input], target⟩ := by
  simp [createReshape]

theorem createReshape_addsNode {input : Ref} {target : Shape} :
    AddsNode function (createReshape function name input target) :=
  addsNode_bind (leaves_shape _) fun _ =>
    addsNode_bind (leaves_require _ _) fun _ => addNode_addsNode

theorem flattenRest_eq_ok {shape : Shape} {batch features : Int} :
    shape.flattenRest = .ok (batch, features) ↔
      ∃ rest : Shape, shape = batch :: rest ∧ features = rest.size := by
  cases shape with
  | nil => simp [Shape.flattenRest]
  | cons extent rest => simp [Shape.flattenRest, eq_comm, and_comm]

@[simp]
theorem createFullyConnected_eq_ok {input weights bias : Ref} :
    createFullyConnected function name input weights bias graph = .ok ref after ↔
      ∃ batch features depth, (graph.shapeOf input).flattenRest = .ok (batch, features) ∧
        graph.shapeOf weights = [features, depth] ∧ graph.shapeOf bias = [depth] ∧
        ref = .node graph.nodes.length ∧
        after =
          graph.withNode ⟨function, name, .fullyConnected, [input, weights, bias],
            [batch, depth]⟩ := by
  constructor
  · intro created
    simp only [createFullyConnected, shape_bind, Steps.bind_eq_ok, ofResult_eq_ok,
      ofShapeResult_eq_ok] at created
    rcases created with ⟨⟨batch, features⟩, mid, ⟨flat, same⟩, rest⟩
    subst mid
    rcases weightsShape : graph.shapeOf weights with _ | ⟨rows, _ | ⟨depth, _ | ⟨third, others⟩⟩⟩
    · simp [weightsShape] at rest
    · simp [weightsShape] at rest
    · simp only [weightsShape, Steps.bind_eq_ok, require_eq_ok, shape_bind, addNode_eq_ok,
        ↓existsAndEq, and_true, exists_const] at rest
      rcases rest with ⟨rfl, biasShape, rfl, rfl⟩
      exact ⟨batch, rows, depth, flat, rfl, biasShape, rfl, rfl⟩
    · simp [weightsShape] at rest
  · rintro ⟨batch, features, depth, flat, weightsShape, biasShape, rfl, rfl⟩
    simp [createFullyConnected, flat, weightsShape, biasShape]

theorem createFullyConnected_addsNode {input weights bias : Ref} :
    AddsNode function (createFullyConnected function name input weights bias) := by
  refine addsNode_bind (leaves_shape _) fun _ => ?_
  refine addsNode_bind (leaves_ofResult _) fun ⟨batch, features⟩ => ?_
  refine addsNode_bind (leaves_shape _) fun found => ?_
  split
  · refine addsNode_bind (leaves_require _ _) fun _ => ?_
    refine addsNode_bind (leaves_shape _) fun _ => ?_
    refine addsNode_bind (leaves_shape _) fun _ => ?_
    exact addsNode_bind (leaves_require _ _) fun _ => addNode_addsNode
  · exact addsNode_fault

@[simp]
theorem createLocalResponseNormalization_eq_ok {input : Ref} {halfWindow : Int}
    {alpha beta bias : Binary64} :
    createLocalResponseNormalization function name input halfWindow alpha beta bias graph =
        .ok ref after ↔
      ∃ batch height width channels,
        graph.shapeOf input = [batch, height, width, channels] ∧
        ref = .node graph.nodes.length ∧
        after =
          graph.withNode ⟨function, name,
            .localResponseNormalization halfWindow alpha beta bias, [input],
            [batch, height, width, channels]⟩ := by
  simp only [createLocalResponseNormalization, Steps.bind_eq_ok, shape_eq_ok,
    requireRankFour_eq_ok, addNode_eq_ok]
  constructor
  · rintro ⟨_, _, ⟨rfl, rfl⟩, ⟨batch, height, width, channels⟩, _, ⟨rank4, rfl⟩, rfl, rfl⟩
    exact ⟨batch, height, width, channels, rank4, rfl, by rw [rank4]⟩
  · rintro ⟨batch, height, width, channels, rank4, rfl, rfl⟩
    exact ⟨_, _, ⟨rfl, rfl⟩, (batch, height, width, channels), _, ⟨rank4, rfl⟩, rfl, by rw [rank4]⟩

theorem createLocalResponseNormalization_addsNode {input : Ref} {halfWindow : Int}
    {alpha beta bias : Binary64} :
    AddsNode function
      (createLocalResponseNormalization function name input halfWindow alpha beta bias) :=
  addsNode_bind (leaves_shape _) fun _ =>
    addsNode_bind (leaves_requireRankFour _ _) fun _ => addNode_addsNode

@[simp]
theorem createChannelShuffle_eq_ok {input : Ref} {group axis : Int} :
    createChannelShuffle function name input group axis graph = .ok ref after ↔
      (0 ≤ axis ∧ axis < (graph.shapeOf input).length) ∧
        (0 < group ∧ (graph.shapeOf input).extentAt axis % group = 0) ∧
        ref = .node graph.nodes.length ∧
        after =
          graph.withNode ⟨function, name, .channelShuffle group axis, [input],
            graph.shapeOf input⟩ := by
  simp [createChannelShuffle]

theorem createChannelShuffle_addsNode {input : Ref} {group axis : Int} :
    AddsNode function (createChannelShuffle function name input group axis) := by
  refine addsNode_bind (leaves_shape _) fun _ => ?_
  refine addsNode_bind (leaves_require _ _) fun _ => ?_
  exact addsNode_bind (leaves_require _ _) fun _ => addNode_addsNode

@[simp]
theorem createSqueeze_eq_ok {input : Ref} {axes : List Int} :
    createSqueeze function name input axes graph = .ok ref after ↔
      (∀ axis ∈ sortedAxes axes, squeezable (graph.shapeOf input) axis) ∧
        ref = .node graph.nodes.length ∧
        after =
          graph.withNode ⟨function, name, .squeeze (sortedAxes axes), [input],
            dropAxes (graph.shapeOf input) (sortedAxes axes)⟩ := by
  simp only [createSqueeze, shape_bind]
  cases found : (sortedAxes axes).find? fun axis => !squeezable (graph.shapeOf input) axis with
  | none =>
      have single := found
      simp only [List.find?_eq_none, Bool.not_eq_true, Bool.not_eq_false'] at single
      simpa using fun _ _ => single
  | some axis =>
      have wrong := List.find?_some found
      have member := List.mem_of_find?_eq_some found
      simp only [Bool.not_eq_true'] at wrong
      simp only [fault_ne_ok, false_iff]
      rintro ⟨single, _⟩
      rw [single axis member] at wrong
      cases wrong

theorem createSqueeze_addsNode {input : Ref} {axes : List Int} :
    AddsNode function (createSqueeze function name input axes) := by
  refine addsNode_bind (leaves_shape _) fun _ => ?_
  dsimp only
  split
  · exact addsNode_fault
  · exact addNode_addsNode

@[simp]
theorem createSave_eq_ok {input : Ref} :
    createSave function name input graph = .ok ref after ↔
      ∃ zeros, Tensor.filled (graph.shapeOf input) .zero = .ok zeros ∧
        ref = .node graph.nodes.length ∧
        after =
          (graph.withVar ⟨name.part ".var", .external, .none, zeros⟩).withNode
            ⟨function, name, .save graph.vars.length, [input], graph.shapeOf input⟩ := by
  simp [createSave, createVariable, and_assoc]

theorem createSave_allOrNothing {input : Ref} :
    AllOrNothing (createSave function name input) := by
  refine allOrNothing_bind (leaves_shape _) fun operand => ?_
  intro graph error after fails
  rcases Steps.bind_eq_error.mp fails with variableFails | ⟨output, withOutput, _, nodeFails⟩
  · exact createFilled_allOrNothing _ _ _ variableFails
  · simp [addNode] at nodeFails

end Graph

end NetImport
