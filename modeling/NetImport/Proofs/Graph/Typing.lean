import NetImport.Proofs.Graph.Closure
import NetImport.Proofs.Shape

/-!
# Typing of nodes

The type of a node is the shape of its result. Every operation has a rule that relates the shapes of
its operands, its parameters and the shape of its result. A function is well typed when each of its
nodes follows the rule of its operation, has no negative extent, and writes a variable of its own
shape if it writes one. Nodes that are admitted one after the other keep a function closed and well
typed, since the operands of older nodes keep their shapes while a graph grows.
-/

namespace NetImport

/-- The shapes that the operands and the result of an operation may have. -/
inductive Typing : Operation → List Shape → Shape → Prop where
  | relu {operand : Shape} : Typing .relu [operand] operand
  | sigmoid {operand : Shape} : Typing .sigmoid [operand] operand
  | tanh {operand : Shape} : Typing .tanh [operand] operand
  | transpose {permutation : List Int} {operand : Shape}
      (permutes : Shape.IsAxisPermutation permutation operand.length) :
      Typing (.transpose permutation) [operand] (permutation.map operand.extentAt)
  | convolution {window : Window} {group : Int}
      {batch height width channels outHeight outWidth depth : Int}
      (group_pos : 0 < group) (channels_dvd : group ∣ channels) (depth_dvd : group ∣ depth)
      (fits : Shape.windowOutput height width window.kernel window.stride window.pad =
        .ok (outHeight, outWidth)) :
      Typing (.convolution window group)
        [[batch, height, width, channels],
          [depth, window.kernel, window.kernel, channels / group], [depth]]
        [batch, outHeight, outWidth, depth]
  | poolMax {window : Window} {batch height width channels outHeight outWidth : Int}
      (fits : Shape.windowOutput height width window.kernel window.stride window.pad =
        .ok (outHeight, outWidth)) :
      Typing (.poolMax window) [[batch, height, width, channels]]
        [batch, outHeight, outWidth, channels]
  | poolAvg {window : Window} {batch height width channels outHeight outWidth : Int}
      (fits : Shape.windowOutput height width window.kernel window.stride window.pad =
        .ok (outHeight, outWidth)) :
      Typing (.poolAvg window) [[batch, height, width, channels]]
        [batch, outHeight, outWidth, channels]
  | batchNormalization {channel : Int} {epsilon momentum : Binary64} {operand : Shape}
      (inRange : 0 ≤ channel ∧ channel < operand.length) :
      Typing (.batchNormalization channel epsilon momentum)
        [operand, [operand.extentAt channel], [operand.extentAt channel],
          [operand.extentAt channel], [operand.extentAt channel]] operand
  | concat {dimension : Int} {operands : List Shape} {result : Shape} (nonempty : operands ≠ [])
      (inRange : 0 ≤ dimension ∧ dimension < result.length)
      (agree : ∀ operand ∈ operands, operand.length = result.length ∧
        ∀ axis : Nat, (axis : Int) ≠ dimension → operand.extentAt axis = result.extentAt axis)
      (joined : result.extentAt dimension =
        (operands.map fun operand => operand.extentAt dimension).foldr (· + ·) 0) :
      Typing (.concat dimension) operands result
  | add {operand : Shape} : Typing .add [operand, operand] operand
  | mul {operand : Shape} : Typing .mul [operand, operand] operand
  | broadcast {axis : Int} {operand result : Shape}
      (inRange : 0 ≤ axis ∧ axis + operand.length ≤ result.length)
      (extends_to : ∀ position < operand.length, operand.extentAt position = 1 ∨
        operand.extentAt position = result.extentAt (axis + position)) :
      Typing (.broadcast axis) [operand] result
  | softmax {operand selected : Shape} : Typing .softmax [operand, selected] operand
  | reshape {operand target : Shape} (same_size : target.size = operand.size) :
      Typing (.reshape target) [operand] target
  | fullyConnected {batch depth : Int} {rest : Shape} :
      Typing .fullyConnected [batch :: rest, [rest.size, depth], [depth]] [batch, depth]
  | localResponseNormalization {halfWindow : Int} {alpha beta bias : Binary64}
      {batch height width channels : Int} :
      Typing (.localResponseNormalization halfWindow alpha beta bias)
        [[batch, height, width, channels]] [batch, height, width, channels]
  | channelShuffle {group axis : Int} {operand : Shape}
      (inRange : 0 ≤ axis ∧ axis < operand.length) (group_pos : 0 < group)
      (divides : group ∣ operand.extentAt axis) :
      Typing (.channelShuffle group axis) [operand] operand
  | squeeze {axes : List Int} {operand : Shape} (rising : axes.Pairwise (· < ·))
      (single : ∀ axis ∈ axes,
        (0 ≤ axis ∧ axis < operand.length) ∧ operand.extentAt axis = 1)
      (same_size : (Graph.dropAxes operand axes).size = operand.size) :
      Typing (.squeeze axes) [operand] (Graph.dropAxes operand axes)
  | save {output : Nat} {operand : Shape} : Typing (.save output) [operand] operand

namespace Graph

variable {base mid graph : Graph} {function position : Nat} {owned : Variable} {node : Node}

/-- A node follows the rule of its operation, and the variable that it writes has its shape. -/
structure Types (graph : Graph) (node : Node) : Prop where
  typing : Typing node.operation (node.operands.map graph.shapeOf) node.shape
  output : ∀ output, node.operation.output? = some output →
    graph.shapeOf (.var output) = node.shape

/-- The nodes of a function have types, without negative extents. -/
def WellTyped (graph : Graph) (function : Nat) : Prop :=
  ∀ (position : Nat) (node : Node), graph.nodes[position]? = some node →
    node.function = function → graph.Types node ∧ node.shape.NonNegative

/-- The variables of a graph and the nodes of a function have no negative extent. -/
def NonNegative (graph : Graph) (function : Nat) : Prop :=
  ∀ ref, graph.Linked function ref → (graph.shapeOf ref).NonNegative

theorem NonNegative.of_grows (grows : base.GrowsTo graph)
    (nonNegative : graph.NonNegative function) : base.NonNegative function := by
  intro ref linked
  rw [← grows.shapeOf_eq linked.holds]
  exact nonNegative ref (linked.grows grows)

/-- What a node has to satisfy in order to be appended to a function. -/
structure Admits (graph : Graph) (function : Nat) (node : Node) : Prop where
  owner : node.function = function
  reaches : graph.Reaches function graph.nodes.length node
  types : graph.Types node
  nonNegative : graph.NonNegative function → node.shape.NonNegative

/-- A graph has been built from another one by appending variables and admitted nodes. -/
inductive Builds (function : Nat) (base : Graph) : Graph → Prop where
  | done : Builds function base base
  | withVar {graph : Graph} {owned : Variable} (built : Builds function base graph) :
      Builds function base (graph.withVar owned)
  | withNode {graph : Graph} {node : Node} (built : Builds function base graph)
      (admitted : graph.Admits function node) : Builds function base (graph.withNode node)

/-- A graph has been built from another one, and a reference is to something in it. -/
structure Yields (function : Nat) (base graph : Graph) (ref : Ref) : Prop where
  built : Builds function base graph
  linked : graph.Linked function ref

theorem Builds.trans (first : Builds function base mid) (second : Builds function mid graph) :
    Builds function base graph := by
  induction second with
  | done => exact first
  | withVar _ hypothesis => exact hypothesis.withVar
  | withNode _ admitted hypothesis => exact hypothesis.withNode admitted

theorem Builds.grows (built : Builds function base graph) : base.GrowsTo graph := by
  induction built with
  | done => exact base.growsTo_refl
  | withVar _ hypothesis => exact hypothesis.withVar
  | withNode _ _ hypothesis => exact hypothesis.withNode

theorem Builds.closed (built : Builds function base graph) (closed : base.Closed function) :
    graph.Closed function := by
  induction built with
  | done => exact closed
  | withVar _ hypothesis => exact closed_withVar hypothesis
  | withNode _ admitted hypothesis => exact closed_withNode hypothesis admitted.reaches

theorem Types.grows (grows : base.GrowsTo graph) (reaches : base.Reaches function position node)
    (types : base.Types node) : graph.Types node := by
  constructor
  · have shapes : node.operands.map graph.shapeOf = node.operands.map base.shapeOf := by
      refine List.map_congr_left ?_
      intro operand member
      exact grows.shapeOf_eq (reaches.operands operand member).linked.holds
    rw [shapes]
    exact types.typing
  · intro output writes
    have written : base.Linked function (.var output) := reaches.output output writes
    rw [grows.shapeOf_eq written.holds]
    exact types.output output writes

theorem nonNegative_of_wellTyped (typed : graph.WellTyped function) :
    graph.NonNegative function := by
  intro ref linked
  cases ref with
  | var index =>
      have inside : index < graph.vars.length := linked
      simp only [shapeOf, List.getElem?_eq_getElem inside]
      exact Shape.nonNegative_tensor _
  | node index =>
      rcases linked with ⟨_, node, found, owner⟩
      simp only [shapeOf, found]
      exact (typed index node found owner).2

theorem wellTyped_grows (grows : base.GrowsTo graph) (closed : base.Closed function)
    (typed : base.WellTyped function) :
    ∀ (position : Nat) (node : Node), base.nodes[position]? = some node →
      node.function = function → graph.Types node ∧ node.shape.NonNegative := by
  intro position node found owner
  have ⟨types, nonNegative⟩ := typed position node found owner
  exact ⟨types.grows grows (closed position node found owner), nonNegative⟩

/-- Admitted nodes keep a closed function well typed. -/
theorem Builds.wellTyped (built : Builds function base graph) (closed : base.Closed function)
    (typed : base.WellTyped function) : graph.WellTyped function := by
  induction built with
  | done => exact typed
  | @withVar graph owned built hypothesis =>
      intro position node found owner
      exact wellTyped_grows (growsTo_withVar graph owned) (built.closed closed) hypothesis
        position node found owner
  | @withNode graph node built admitted hypothesis =>
      intro position other found owner
      rcases Nat.lt_or_ge position graph.nodes.length with old | new
      · rw [(growsTo_withNode graph node).node_get old] at found
        exact wellTyped_grows (growsTo_withNode _ _) (built.closed closed) hypothesis
          position other found owner
      · have inside := (List.getElem?_eq_some_iff.mp found).1
        rw [length_nodes_withNode] at inside
        have last : position = graph.nodes.length := by omega
        subst last
        simp only [nodes_withNode, List.getElem?_concat_length, Option.some.injEq] at found
        subst other
        exact ⟨admitted.types.grows (growsTo_withNode graph node) admitted.reaches,
          admitted.nonNegative (nonNegative_of_wellTyped hypothesis)⟩

end Graph

end NetImport
