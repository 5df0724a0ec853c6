import Mathlib.Tactic.Common
import Mathlib.Order.Defs.Unbundled
import NetImport.Graph.Basic

/-!
# Growing graphs

Lowering only ever appends variables and nodes to a graph. A graph has grown from another one when
the variables and nodes of the older graph are the first ones of the younger graph, and both have
the same functions; a reference that the older graph holds then denotes the same thing in both. A
reference that it does not hold may come to denote something later, so that every statement about a
reference asks that it is held.
-/

namespace NetImport.Graph

/-- A graph with one more variable. -/
def withVar (graph : Graph) (owned : Variable) : Graph :=
  { graph with vars := graph.vars ++ [owned] }

/-- A graph with one more node. -/
def withNode (graph : Graph) (node : Node) : Graph :=
  { graph with nodes := graph.nodes ++ [node] }

variable {base mid graph : Graph} {owned : Variable} {node : Node} {ref : Ref}

@[simp]
theorem vars_withVar : (graph.withVar owned).vars = graph.vars ++ [owned] := rfl

@[simp]
theorem nodes_withVar : (graph.withVar owned).nodes = graph.nodes := rfl

@[simp]
theorem functions_withVar : (graph.withVar owned).functions = graph.functions := rfl

@[simp]
theorem vars_withNode : (graph.withNode node).vars = graph.vars := rfl

@[simp]
theorem nodes_withNode : (graph.withNode node).nodes = graph.nodes ++ [node] := rfl

@[simp]
theorem functions_withNode : (graph.withNode node).functions = graph.functions := rfl

theorem length_nodes_withNode : (graph.withNode node).nodes.length = graph.nodes.length + 1 := by
  simp

@[simp]
theorem operandsOf_withNode_new :
    (graph.withNode node).operandsOf (.node graph.nodes.length) = node.operands := by
  simp [operandsOf]

@[simp]
theorem shapeOf_withNode_new :
    (graph.withNode node).shapeOf (.node graph.nodes.length) = node.shape := by
  simp [shapeOf]

@[simp]
theorem shapeOf_withVar_new :
    (graph.withVar owned).shapeOf (.var graph.vars.length) = owned.shape := by
  simp [shapeOf]

@[simp]
theorem shapeOf_withVar_node {index : Nat} :
    (graph.withVar owned).shapeOf (.node index) = graph.shapeOf (.node index) := rfl

@[simp]
theorem shapeOf_withNode_var {index : Nat} :
    (graph.withNode node).shapeOf (.var index) = graph.shapeOf (.var index) := rfl

/-- The older graph is the beginning of the younger one. -/
structure GrowsTo (base graph : Graph) : Prop where
  vars : base.vars <+: graph.vars
  nodes : base.nodes <+: graph.nodes
  functions : graph.functions = base.functions

theorem growsTo_refl (graph : Graph) : graph.GrowsTo graph :=
  ⟨List.prefix_refl _, List.prefix_refl _, rfl⟩

theorem growsTo_trans (first : base.GrowsTo mid) (second : mid.GrowsTo graph) :
    base.GrowsTo graph :=
  ⟨first.vars.trans second.vars, first.nodes.trans second.nodes,
    second.functions.trans first.functions⟩

instance : IsPreorder Graph GrowsTo where
  refl := growsTo_refl
  trans _ _ _ := growsTo_trans

theorem growsTo_withVar (graph : Graph) (owned : Variable) : graph.GrowsTo (graph.withVar owned) :=
  ⟨List.prefix_append _ _, List.prefix_refl _, rfl⟩

theorem growsTo_withNode (graph : Graph) (node : Node) : graph.GrowsTo (graph.withNode node) :=
  ⟨List.prefix_refl _, List.prefix_append _ _, rfl⟩

theorem GrowsTo.withVar (grows : base.GrowsTo graph) : base.GrowsTo (graph.withVar owned) :=
  growsTo_trans grows (growsTo_withVar graph owned)

theorem GrowsTo.withNode (grows : base.GrowsTo graph) : base.GrowsTo (graph.withNode node) :=
  growsTo_trans grows (growsTo_withNode graph node)

/-- Replacing a variable that came after the older graph leaves that graph as it is. -/
theorem GrowsTo.set_var (grows : base.GrowsTo graph) {index : Nat}
    (later : base.vars.length ≤ index) :
    base.GrowsTo { graph with vars := graph.vars.set index owned } := by
  refine ⟨?_, grows.nodes, grows.functions⟩
  rw [List.prefix_iff_getElem?]
  intro position inBase
  have unchanged : (graph.vars.set index owned)[position]? = graph.vars[position]? := by
    rw [List.getElem?_set_ne (by omega)]
  rw [unchanged]
  exact List.prefix_iff_getElem?.mp grows.vars position inBase

theorem GrowsTo.var_get (grows : base.GrowsTo graph) {index : Nat}
    (held : index < base.vars.length) : graph.vars[index]? = base.vars[index]? := by
  rw [List.prefix_iff_getElem?.mp grows.vars index held, List.getElem?_eq_getElem held]

theorem GrowsTo.node_get (grows : base.GrowsTo graph) {index : Nat}
    (held : index < base.nodes.length) : graph.nodes[index]? = base.nodes[index]? := by
  rw [List.prefix_iff_getElem?.mp grows.nodes index held, List.getElem?_eq_getElem held]

theorem GrowsTo.holds (grows : base.GrowsTo graph) (held : base.holds ref) : graph.holds ref := by
  cases ref with
  | var index =>
      simp only [Graph.holds, decide_eq_true_eq] at held ⊢
      exact Nat.lt_of_lt_of_le held grows.vars.length_le
  | node index =>
      simp only [Graph.holds, decide_eq_true_eq] at held ⊢
      exact Nat.lt_of_lt_of_le held grows.nodes.length_le

theorem GrowsTo.shapeOf_eq (grows : base.GrowsTo graph) (held : base.holds ref) :
    graph.shapeOf ref = base.shapeOf ref := by
  cases ref with
  | var index =>
      simp only [Graph.holds, decide_eq_true_eq] at held
      simp only [shapeOf, grows.var_get held]
  | node index =>
      simp only [Graph.holds, decide_eq_true_eq] at held
      simp only [shapeOf, grows.node_get held]

theorem shapeOf_withVar (held : graph.holds ref) :
    (graph.withVar owned).shapeOf ref = graph.shapeOf ref :=
  (growsTo_withVar graph owned).shapeOf_eq held

theorem shapeOf_withNode (held : graph.holds ref) :
    (graph.withNode node).shapeOf ref = graph.shapeOf ref :=
  (growsTo_withNode graph node).shapeOf_eq held

theorem holds_withVar (held : graph.holds ref) : (graph.withVar owned).holds ref :=
  (growsTo_withVar graph owned).holds held

theorem holds_withNode (held : graph.holds ref) : (graph.withNode node).holds ref :=
  (growsTo_withNode graph node).holds held

end NetImport.Graph
