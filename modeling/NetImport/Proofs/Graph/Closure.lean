import Mathlib.Data.List.Nodup
import Mathlib.Data.List.Range
import NetImport.Proofs.Graph.Growth

/-!
# Closed functions

A function of a graph is closed when its nodes read variables of the graph and earlier nodes of the
same function only, and write variables of the graph only. Since nodes and variables are only ever
appended, a node that reads and writes what is there keeps a function closed. The last part says the
same of the list of the nodes of a function, in which a node comes behind all nodes that it reads.
-/

namespace NetImport.Graph

variable {base graph : Graph} {function position : Nat} {owned : Variable} {node : Node} {ref : Ref}

/-- A variable, or a node of a function in front of a position. -/
def Before (graph : Graph) (function position : Nat) : Ref → Prop
  | .var index => index < graph.vars.length
  | .node index =>
      index < position ∧ ∃ node, graph.nodes[index]? = some node ∧ node.function = function

/-- A variable, or a node of a function. -/
def Linked (graph : Graph) (function : Nat) (ref : Ref) : Prop :=
  graph.Before function graph.nodes.length ref

/-- What a node reads and writes is there, and lies in front of the node. -/
structure Reaches (graph : Graph) (function position : Nat) (node : Node) : Prop where
  operands : ∀ operand ∈ node.operands, graph.Before function position operand
  output : ∀ output, node.operation.output? = some output → output < graph.vars.length

/-- The nodes of a function read and write what is there, and lies in front of them. -/
def Closed (graph : Graph) (function : Nat) : Prop :=
  ∀ position node, graph.nodes[position]? = some node → node.function = function →
    graph.Reaches function position node

theorem Before.mono {later : Nat} (grows : base.GrowsTo graph) (further : position ≤ later)
    (before : base.Before function position ref) : graph.Before function later ref := by
  cases ref with
  | var index => exact Nat.lt_of_lt_of_le before grows.vars.length_le
  | node index =>
      rcases before with ⟨inFront, node, found, owner⟩
      refine ⟨Nat.lt_of_lt_of_le inFront further, node, ?_, owner⟩
      have inBase : index < base.nodes.length := (List.getElem?_eq_some_iff.mp found).1
      rw [grows.node_get inBase, found]

theorem Linked.grows (grows : base.GrowsTo graph) (linked : base.Linked function ref) :
    graph.Linked function ref :=
  Before.mono grows grows.nodes.length_le linked

theorem Before.linked (before : graph.Before function position ref) :
    graph.Linked function ref := by
  cases ref with
  | var index => exact before
  | node index =>
      rcases before with ⟨_, node, found, owner⟩
      exact ⟨(List.getElem?_eq_some_iff.mp found).1, node, found, owner⟩

theorem Linked.holds (linked : graph.Linked function ref) : graph.holds ref := by
  cases ref with
  | var index => exact decide_eq_true linked
  | node index => exact decide_eq_true linked.1

theorem linked_withVar_new : (graph.withVar owned).Linked function (.var graph.vars.length) := by
  simp [Linked, Before]

theorem linked_withNode_new (owner : node.function = function) :
    (graph.withNode node).Linked function (.node graph.nodes.length) := by
  simp [Linked, Before, owner]

theorem Reaches.grows (grows : base.GrowsTo graph)
    (reaches : base.Reaches function position node) : graph.Reaches function position node where
  operands := fun operand member => (reaches.operands operand member).mono grows (Nat.le_refl _)
  output := fun output writes =>
    Nat.lt_of_lt_of_le (reaches.output output writes) grows.vars.length_le

theorem closed_withVar (closed : graph.Closed function) :
    (graph.withVar owned).Closed function := by
  intro position node found owner
  exact (closed position node found owner).grows (growsTo_withVar graph owned)

/-- A node that reads and writes what is there keeps a function closed. -/
theorem closed_withNode (closed : graph.Closed function)
    (reaches : graph.Reaches function graph.nodes.length node) :
    (graph.withNode node).Closed function := by
  intro position other found owner
  rcases Nat.lt_or_ge position graph.nodes.length with old | new
  · rw [(growsTo_withNode graph node).node_get old] at found
    exact (closed position other found owner).grows (growsTo_withNode graph node)
  · have inside := (List.getElem?_eq_some_iff.mp found).1
    rw [length_nodes_withNode] at inside
    have last : position = graph.nodes.length := by omega
    subst last
    simp only [nodes_withNode, List.getElem?_concat_length, Option.some.injEq] at found
    subst other
    exact reaches.grows (growsTo_withNode graph node)

/-! ## Lists of variables and of nodes -/

/-- The variables of a graph. -/
def variableRefs (graph : Graph) : List Ref := (List.range graph.vars.length).map .var

/-- The nodes of a function, in the order of their creation. -/
def nodeRefs (graph : Graph) (function : Nat) : List Ref :=
  ((List.range graph.nodes.length).filter fun index =>
    (graph.nodes[index]?).any fun node => node.function = function).map .node

theorem nodup_variableRefs (graph : Graph) : graph.variableRefs.Nodup :=
  List.Nodup.map (fun _ _ => Ref.var.inj) List.nodup_range

theorem nodup_nodeRefs (graph : Graph) (function : Nat) : (graph.nodeRefs function).Nodup :=
  List.Nodup.map (fun _ _ => Ref.node.inj) (List.nodup_range.filter _)

theorem mem_variableRefs :
    ref ∈ graph.variableRefs ↔ ∃ index < graph.vars.length, ref = .var index := by
  simp [variableRefs, eq_comm (a := ref)]

theorem mem_nodeRefs :
    ref ∈ graph.nodeRefs function ↔
      ∃ index node, graph.nodes[index]? = some node ∧ node.function = function ∧
        ref = .node index := by
  simp only [nodeRefs, List.mem_map, List.mem_filter, List.mem_range, Option.any_eq_true,
    decide_eq_true_eq]
  constructor
  · rintro ⟨index, ⟨_, node, found, owner⟩, rfl⟩
    exact ⟨index, node, found, owner, rfl⟩
  · rintro ⟨index, node, found, owner, rfl⟩
    exact ⟨index, ⟨(List.getElem?_eq_some_iff.mp found).1, node, found, owner⟩, rfl⟩

theorem linked_iff :
    graph.Linked function ref ↔ ref ∈ graph.variableRefs ∨ ref ∈ graph.nodeRefs function := by
  rw [mem_variableRefs, mem_nodeRefs]
  cases ref with
  | var index => simp [Linked, Before]
  | node index =>
      simp only [Linked, Before, reduceCtorEq, and_false, exists_false, false_or, Ref.node.injEq]
      constructor
      · rintro ⟨_, node, found, owner⟩
        exact ⟨index, node, found, owner, rfl⟩
      · rintro ⟨_, node, found, owner, rfl⟩
        exact ⟨(List.getElem?_eq_some_iff.mp found).1, node, found, owner⟩

/-- The nodes of a function are listed by rising position. -/
theorem rising_nodeRefs (graph : Graph) (function : Nat) :
    (graph.nodeRefs function).Pairwise fun first second =>
      ∀ left right, first = .node left → second = .node right → left < right := by
  simp only [nodeRefs, List.pairwise_map, Ref.node.injEq]
  refine (List.pairwise_lt_range.filter _).imp ?_
  rintro first second less left right rfl rfl
  exact less

/-- A node comes behind the nodes of its function that it reads. -/
theorem Closed.operand_mem (closed : graph.Closed function) {earlier later : List Ref}
    (split : graph.nodeRefs function = earlier ++ ref :: later) {operand : Ref}
    (reads : operand ∈ graph.operandsOf ref) :
    operand ∈ graph.variableRefs ∨ operand ∈ earlier := by
  have member : ref ∈ graph.nodeRefs function := by simp [split]
  rcases mem_nodeRefs.mp member with ⟨position, node, found, owner, rfl⟩
  have readsNode : operand ∈ node.operands := by simpa [operandsOf, found] using reads
  have before := (closed position node found owner).operands operand readsNode
  rcases linked_iff.mp before.linked with inVariables | inNodes
  · exact .inl inVariables
  · right
    -- The nodes are listed by rising position, and the operand has a lower one.
    have rising := graph.rising_nodeRefs function
    rw [split, List.pairwise_append] at rising
    rw [split, List.mem_append] at inNodes
    rcases inNodes with inEarlier | inLater
    · exact inEarlier
    · rcases mem_nodeRefs.mp (split ▸ List.mem_append_right earlier inLater) with
        ⟨index, _, _, _, rfl⟩
      have inFront : index < position := before.1
      rcases List.mem_cons.mp inLater with same | behind
      · rcases same with ⟨⟩
        omega
      · have := (List.pairwise_cons.mp rising.2.1).1 _ behind position index rfl rfl
        omega

theorem Closed.output_mem (closed : graph.Closed function)
    (member : ref ∈ graph.nodeRefs function) {output : Nat}
    (writes : graph.outputOf? ref = some output) : .var output ∈ graph.variableRefs := by
  rcases mem_nodeRefs.mp member with ⟨position, node, found, owner, rfl⟩
  have writesNode : node.operation.output? = some output := by
    simpa [outputOf?, found] using writes
  have inside := (closed position node found owner).output output writesNode
  exact mem_variableRefs.mpr ⟨output, inside, rfl⟩

/-- If every node comes behind the nodes that it reads, the function is closed. -/
theorem closed_of_lists
    (operands : ∀ earlier ref later, graph.nodeRefs function = earlier ++ ref :: later →
      ∀ operand ∈ graph.operandsOf ref, operand ∈ graph.variableRefs ∨ operand ∈ earlier)
    (outputs : ∀ ref ∈ graph.nodeRefs function, ∀ output, graph.outputOf? ref = some output →
      .var output ∈ graph.variableRefs) : graph.Closed function := by
  intro position node found owner
  have member : .node position ∈ graph.nodeRefs function :=
    mem_nodeRefs.mpr ⟨position, node, found, owner, rfl⟩
  rcases List.append_of_mem member with ⟨earlier, later, split⟩
  constructor
  · intro operand reads
    have readsRef : operand ∈ graph.operandsOf (.node position) := by simpa [operandsOf, found]
    rcases operands earlier _ later split operand readsRef with inVariables | inEarlier
    · rcases mem_variableRefs.mp inVariables with ⟨index, inside, rfl⟩
      exact inside
    · have inNodes : operand ∈ graph.nodeRefs function := by simp [split, inEarlier]
      rcases mem_nodeRefs.mp inNodes with ⟨index, held, heldFound, heldOwner, rfl⟩
      have rising := graph.rising_nodeRefs function
      rw [split, List.pairwise_append] at rising
      have inFront := rising.2.2 _ inEarlier _ (List.mem_cons_self ..) index position rfl rfl
      exact ⟨inFront, held, heldFound, heldOwner⟩
  · intro output writes
    have writesRef : graph.outputOf? (.node position) = some output := by
      simpa [outputOf?, found] using writes
    rcases mem_variableRefs.mp (outputs _ member output writesRef) with ⟨index, inside, same⟩
    exact Ref.var.inj same ▸ inside

end NetImport.Graph
