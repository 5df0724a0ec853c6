import NetImport.Proofs.Graph.Construction
import NetImport.Proofs.Shape

/-!
# Negative extents in graphs

The shape of a node is real if none of its extents is negative. Almost every factory makes a real
shape out of real ones, whatever integers it is given. Two factories take the shape of their result
from the caller: an expansion compares it with the operand on the operand's axes only, where an
operand of extent one matches anything, and a reshaping compares no more than the product of the
extents. A graph that was made by requests is therefore real exactly if neither factory has accepted
a shape with a negative extent.
-/

namespace NetImport.Graph

open Steps (stateOf)

variable {graph after : Graph} {function : Nat} {name : Label} {ref : Ref}

/-- No variable and no node has a negative extent. -/
structure Real (graph : Graph) : Prop where
  vars : ∀ owned ∈ graph.vars, owned.shape.NonNegative
  nodes : ∀ node ∈ graph.nodes, node.shape.NonNegative

/-- The extents of a variable are those of a tensor. -/
theorem real_iff : graph.Real ↔ ∀ node ∈ graph.nodes, node.shape.NonNegative := by
  constructor
  · intro real
    exact real.nodes
  · intro nodes
    exact ⟨fun owned _ => Shape.nonNegative_tensor owned.payload, nodes⟩

theorem real_empty : empty.Real := by
  rw [real_iff]
  intro node member
  cases member

@[simp]
theorem real_withVar {owned : Variable} : (graph.withVar owned).Real ↔ graph.Real := by
  simp [real_iff]

@[simp]
theorem real_withNode {node : Node} :
    (graph.withNode node).Real ↔ graph.Real ∧ node.shape.NonNegative := by
  simp only [real_iff, nodes_withNode, List.mem_append, List.mem_singleton]
  constructor
  · intro each
    exact ⟨fun old member => each old (.inl member), each node (.inr rfl)⟩
  · rintro ⟨old, new⟩ other (member | rfl)
    · exact old other member
    · exact new

theorem Real.shapeOf (real : graph.Real) (ref : Ref) : (graph.shapeOf ref).NonNegative := by
  cases ref with
  | var index =>
      cases found : graph.vars[index]? with
      | none => simp [Graph.shapeOf, found]
      | some owned => simpa [Graph.shapeOf, found] using real.vars owned (List.mem_of_getElem? found)
  | node index =>
      cases found : graph.nodes[index]? with
      | none => simp [Graph.shapeOf, found]
      | some node => simpa [Graph.shapeOf, found] using real.nodes node (List.mem_of_getElem? found)

/-! ## One request -/

namespace NodeRequest

/-- A request for a node with a negative extent that is accepted all the same. -/
def Distorts (graph : Graph) : NodeRequest → Prop
  | broadcast input target axis =>
      ¬target.NonNegative ∧ broadcastable (graph.shapeOf input) target axis
  | reshape input target => ¬target.NonNegative ∧ target.size = (graph.shapeOf input).size
  | _ => False

variable {request : NodeRequest}

/-- Nothing else is asked of the shapes that distort a graph. -/
theorem exists_build_of_distorts (distorts : request.Distorts graph) (function : Nat)
    (name : Label) : ∃ ref after, request.build function name graph = .ok ref after := by
  cases request with
  | broadcast input target axis =>
      exact ⟨_, _, createBroadcast_eq_ok.mpr ⟨distorts.2, rfl, rfl⟩⟩
  | reshape input target =>
      exact ⟨_, _, createReshape_eq_ok.mpr ⟨distorts.2, rfl, rfl⟩⟩
  | _ => cases distorts

theorem real_of_build_iff (real : graph.Real)
    (built : request.build function name graph = .ok ref after) :
    after.Real ↔ ¬request.Distorts graph := by
  cases request with
  | relu input | sigmoid input | tanh input =>
      rcases createElementwise_eq_ok.mp built with ⟨_, rfl⟩
      simp [Distorts, real, real.shapeOf input]
  | transpose input permutation =>
      rcases createTranspose_eq_ok.mp built with ⟨_, _, rfl⟩
      have permuted : Shape.NonNegative (permutation.map (graph.shapeOf input).extentAt) := by
        intro extent member
        rcases List.mem_map.mp member with ⟨axis, _, rfl⟩
        exact (real.shapeOf input).extentAt axis
      simp [Distorts, real, permuted]
  | convolution input filter bias output window group =>
      rcases createConvolution_eq_ok.mp built with
        ⟨batch, height, width, channels, depth, outHeight, outWidth, input_eq, _, _, _, _, bias_eq,
          fits, rfl, _, rfl⟩
      have inputReal := real.shapeOf input
      have biasReal := real.shapeOf bias
      simp only [input_eq, bias_eq, Shape.nonNegative_cons] at inputReal biasReal
      have outputReal := Shape.nonNegative_windowOutput inputReal.1 biasReal.1 fits
      simp [Distorts, real, outputReal]
  | poolMax input window | poolAvg input window =>
      rcases createPool_eq_ok.mp built with
        ⟨batch, height, width, channels, outHeight, outWidth, input_eq, fits, _, rfl⟩
      have inputReal := real.shapeOf input
      simp only [input_eq, Shape.nonNegative_cons] at inputReal
      have ⟨batch_nonneg, _, _, channels_nonneg, _⟩ := inputReal
      have outputReal := Shape.nonNegative_windowOutput batch_nonneg channels_nonneg fits
      simp [Distorts, real, outputReal]
  | batchNormalization input channel epsilon momentum =>
      rcases createBatchNormalization_eq_ok.mp built with ⟨_, _, _, _, _, _, rfl⟩
      simp [Distorts, real, real.shapeOf input]
  | concat inputs dimension =>
      rcases createConcat_eq_ok.mp built with ⟨first, others, inputs_eq, _, _, _, rfl⟩
      have inputsReal : ∀ shape ∈ first :: others, shape.NonNegative := by
        rw [← inputs_eq]
        intro shape member
        rcases List.mem_map.mp member with ⟨input, _, rfl⟩
        exact real.shapeOf input
      simpa [Distorts, real] using Shape.nonNegative_joined inputsReal
  | add left right | mul left right =>
      rcases createPairwise_eq_ok.mp built with ⟨_, _, rfl⟩
      simp [Distorts, real, real.shapeOf left]
  | broadcast input target axis =>
      rcases createBroadcast_eq_ok.mp built with ⟨accepted, _, rfl⟩
      simp [Distorts, real, accepted]
  | softmax input selected =>
      rcases createSoftmax_eq_ok.mp built with ⟨_, rfl⟩
      simp [Distorts, real, real.shapeOf input]
  | reshape input target =>
      rcases createReshape_eq_ok.mp built with ⟨accepted, _, rfl⟩
      simp [Distorts, real, accepted]
  | fullyConnected input weights bias =>
      rcases createFullyConnected_eq_ok.mp built with
        ⟨batch, features, depth, flat, _, bias_eq, _, rfl⟩
      rcases flattenRest_eq_ok.mp flat with ⟨rest, input_eq, _⟩
      have inputReal := real.shapeOf input
      have biasReal := real.shapeOf bias
      simp only [input_eq, bias_eq, Shape.nonNegative_cons] at inputReal biasReal
      simp [Distorts, real, Shape.nonNegative_cons, inputReal.1, biasReal.1]
  | localResponseNormalization input halfWindow alpha beta bias =>
      rcases createLocalResponseNormalization_eq_ok.mp built with
        ⟨batch, height, width, channels, input_eq, _, rfl⟩
      have inputReal := real.shapeOf input
      rw [input_eq] at inputReal
      simp [Distorts, real, inputReal]
  | channelShuffle input group axis =>
      rcases createChannelShuffle_eq_ok.mp built with ⟨_, _, _, rfl⟩
      simp [Distorts, real, real.shapeOf input]
  | squeeze input axes =>
      rcases createSqueeze_eq_ok.mp built with ⟨_, _, rfl⟩
      simp [Distorts, real, dropAxes_nonNegative (real.shapeOf input)]
  | save input =>
      rcases createSave_eq_ok.mp built with ⟨_, _, _, rfl⟩
      simp [Distorts, real, real.shapeOf input]

end NodeRequest

namespace Request

/-- A request for a node that distorts a graph; there is no such request for anything else. -/
def Distorts (graph : Graph) : Request → Prop
  | .node _ _ request => request.Distorts graph
  | _ => False

variable {request : Request} {made : Product} {error : Error}

theorem real_of_build_iff (real : graph.Real) (built : request.build graph = .ok made after) :
    after.Real ↔ ¬request.Distorts graph := by
  cases request with
  | function name =>
      rcases appends_of_build built with ⟨_, rfl, _⟩
      simpa [Distorts, real_iff] using real.nodes
  | zeros name shape visibility train =>
      rcases appends_of_build built with ⟨_, owned, _, rfl⟩
      simpa [Distorts, real_iff] using real.nodes
  | array name array visibility =>
      rcases appends_of_build built with ⟨_, payload, _, _, rfl⟩
      simpa [Distorts, real_iff] using real.nodes
  | node function name request =>
      rcases Steps.map_eq_ok.mp built with ⟨ref, nodeBuilt, _⟩
      exact NodeRequest.real_of_build_iff real nodeBuilt

theorem not_distorts_of_error (fails : request.build graph = .error error after) :
    ¬request.Distorts graph := by
  intro distorts
  cases request with
  | node function name request =>
      rcases NodeRequest.exists_build_of_distorts distorts function name with ⟨ref, mid, built⟩
      have nodeFails := Steps.map_eq_error.mp fails
      rw [built] at nodeFails
      cases nodeFails
  | _ => cases distorts

theorem nodes_prefix_of_build (built : request.build graph = .ok made after) :
    graph.nodes <+: after.nodes := by
  cases request with
  | function name =>
      rcases appends_of_build built with ⟨_, rfl, _⟩
      exact List.prefix_refl _
  | zeros name shape visibility train =>
      rcases appends_of_build built with ⟨_, owned, _, rfl⟩
      exact List.prefix_refl _
  | array name array visibility =>
      rcases appends_of_build built with ⟨_, payload, _, _, rfl⟩
      exact List.prefix_refl _
  | node function name request =>
      rcases appends_of_build built with ⟨ref, _, _, companions, shape, _, rfl⟩
      exact List.prefix_append _ _

/-- The graph that a request leaves, whether it succeeds or fails. -/
def carryOut (graph : Graph) (request : Request) : Graph := stateOf (request.build graph)

theorem real_carryOut_iff (real : graph.Real) :
    (carryOut graph request).Real ↔ ¬request.Distorts graph := by
  unfold carryOut
  cases outcome : request.build graph with
  | ok made after => exact real_of_build_iff real outcome
  | error error after =>
      have same := build_allOrNothing graph error after outcome
      simp [stateOf, same, real, not_distorts_of_error outcome]

/-- What has once been appended with a negative extent stays there. -/
theorem real_of_real_carryOut (real : (carryOut graph request).Real) : graph.Real := by
  unfold carryOut at real
  cases outcome : request.build graph with
  | ok made after =>
      rw [outcome] at real
      rw [real_iff]
      intro node member
      apply real.nodes
      exact (nodes_prefix_of_build outcome).mem member
  | error error after =>
      have same := build_allOrNothing graph error after outcome
      simpa [outcome, stateOf, same] using real

end Request

/-! ## All requests -/

/-- The graph after some requests, one after the other, whichever of them fail. -/
def carryOutAll (requests : List Request) (graph : Graph) : Graph :=
  requests.foldl Request.carryOut graph

@[simp]
theorem carryOutAll_cons {request : Request} {requests : List Request} :
    carryOutAll (request :: requests) graph = carryOutAll requests (Request.carryOut graph request) :=
  rfl

theorem real_of_real_carryOutAll {requests : List Request}
    (real : (carryOutAll requests graph).Real) : graph.Real := by
  induction requests generalizing graph with
  | nil => exact real
  | cons request requests hypothesis => exact Request.real_of_real_carryOut (hypothesis real)

/-- Requests keep a graph real exactly if none of them distorts the graph that it comes upon. -/
theorem real_carryOutAll_iff (real : graph.Real) (requests : List Request) :
    (carryOutAll requests graph).Real ↔
      ∀ done request rest, requests = done ++ request :: rest →
        ¬request.Distorts (carryOutAll done graph) := by
  induction requests generalizing graph with
  | nil => simp [carryOutAll, real]
  | cons first requests hypothesis =>
      constructor
      · intro kept done request rest split
        have firstReal : (Request.carryOut graph first).Real := real_of_real_carryOutAll kept
        cases done with
        | nil =>
            rcases List.cons.inj split with ⟨rfl, rfl⟩
            exact (Request.real_carryOut_iff real).mp firstReal
        | cons earlier done =>
            rcases List.cons.inj split with ⟨rfl, restSplit⟩
            exact (hypothesis firstReal).mp kept done request rest restSplit
      · intro undistorted
        have firstReal := (Request.real_carryOut_iff real).mpr (undistorted [] first requests rfl)
        apply (hypothesis firstReal).mpr
        intro done request rest split
        exact undistorted (first :: done) request rest (congrArg (first :: ·) split)

/--
What requests make is real exactly if no operand is expanded or reshaped to a shape with a negative
extent. Both are accepted where the other extents fit.
-/
theorem real_iff_undistorted (requests : List Request) :
    (carryOutAll requests empty).Real ↔
      ∀ done request rest, requests = done ++ request :: rest →
        ¬request.Distorts (carryOutAll done empty) :=
  real_carryOutAll_iff real_empty requests

/-- One number can be expanded to fewer than no numbers, and can be arranged in negative rows. -/
theorem negative_expansion_and_arrangement :
    ¬(carryOutAll [.function "main", .zeros (.text "x") [1] .external .none,
        .node 0 (.text "y") (.broadcast (.var 0) [-3] 0)] empty).Real ∧
      ¬(carryOutAll [.function "main", .zeros (.text "x") [1] .external .none,
        .node 0 (.text "y") (.reshape (.var 0) [-1, -1])] empty).Real := by
  constructor
  · intro real
    have expanded := real.nodes ⟨0, .text "y", .broadcast 0, [.var 0], [-3]⟩ (.head _)
    exact absurd (expanded (-3) (.head _)) (by decide)
  · intro real
    have arranged := real.nodes ⟨0, .text "y", .reshape [-1, -1], [.var 0], [-1, -1]⟩ (.head _)
    exact absurd (arranged (-1) (.head _)) (by decide)

end NetImport.Graph
