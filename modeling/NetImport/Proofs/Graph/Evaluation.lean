import Mathlib.Data.List.Forall2
import NetImport.Proofs.Graph.Closure
import NetImport.Proofs.Steps

/-!
# Evaluating graphs

An interpretation says what tensors, variables of the caller and operations mean, in any domain of
values. It gives a value to every variable and to every node whose operands, directly and
indirectly, are in the graph. What a graph evaluates to stays the same while it grows, so that a new
node means its operation applied to what its operands mean.
-/

namespace NetImport

/-- What the parts of a graph mean. -/
structure Meaning (Value : Type) where
  /-- The value of a tensor. -/
  held : Tensor → Value
  /-- The value that the caller chooses for a variable that it sees. -/
  given : Nat → Value
  /-- The value of an operation, from the values of its operands and the shape of its result. -/
  apply : Operation → List Value → Shape → Value

/-- A value of a shape. -/
structure Sense (Value : Type) where
  value : Value
  shape : Shape

variable {Value : Type}

namespace Meaning

/-- A variable means the tensor that it holds, unless the caller chooses its value. -/
def ofVariable (meaning : Meaning Value) (index : Nat) (owned : Variable) : Value :=
  match owned.visibility with
  | .external => meaning.given index
  | .internal => meaning.held owned.payload

def stored (meaning : Meaning Value) (tensor : Tensor) : Sense Value :=
  ⟨meaning.held tensor, tensor.shape⟩

def applied (meaning : Meaning Value) (operation : Operation)
    (operands : List (Sense Value)) (shape : Shape) : Sense Value :=
  ⟨meaning.apply operation (operands.map Sense.value) shape, shape⟩

end Meaning

namespace Graph

/-- The value of a reference, unless something that it depends on is missing or lies too deep. -/
def valueWithin (meaning : Meaning Value) (graph : Graph) : Nat → Ref → Option Value
  | 0, _ => none
  | _ + 1, .var index => (graph.vars[index]?).map (meaning.ofVariable index)
  | depth + 1, .node index =>
    (graph.nodes[index]?).bind fun node =>
      (node.operands.mapM (valueWithin meaning graph depth)).map fun values =>
        meaning.apply node.operation values node.shape

/-- What a reference means; without cycles, nothing lies deeper than there are nodes. -/
def sense? (meaning : Meaning Value) (graph : Graph) (ref : Ref) :
    Option (Sense Value) :=
  (graph.valueWithin meaning (graph.nodes.length + 1) ref).map fun value =>
    ⟨value, graph.shapeOf ref⟩

def Denotes (meaning : Meaning Value) (graph : Graph) (ref : Ref)
    (sense : Sense Value) : Prop :=
  graph.sense? meaning ref = some sense

/-- A reference is to a variable, or to a node that only depends on what lies in front of it. -/
inductive Belongs (graph : Graph) : Ref → Prop where
  | var {index : Nat} (inside : index < graph.vars.length) : Belongs graph (.var index)
  | node {index : Nat} {node : Node} (found : graph.nodes[index]? = some node)
      (inFront : ∀ position, .node position ∈ node.operands → position < index)
      (operands : ∀ operand ∈ node.operands, Belongs graph operand) : Belongs graph (.node index)

variable {meaning : Meaning Value} {base graph : Graph} {ref : Ref} {node : Node}
  {sense : Sense Value} {senses : List (Sense Value)}

/-- What has a value keeps it while the graph grows, and at any greater depth. -/
theorem valueWithin_grows {depth deeper : Nat} {value : Value} (grows : base.GrowsTo graph)
    (further : depth ≤ deeper) (found : base.valueWithin meaning depth ref = some value) :
    graph.valueWithin meaning deeper ref = some value := by
  induction depth generalizing deeper ref value with
  | zero => simp [valueWithin] at found
  | succ depth hypothesis =>
      obtain ⟨deeper, rfl⟩ : ∃ less, deeper = less + 1 := ⟨deeper - 1, by omega⟩
      cases ref with
      | var index =>
          rcases Option.map_eq_some_iff.mp found with ⟨owned, held, rfl⟩
          have inside := (List.getElem?_eq_some_iff.mp held).1
          simp only [valueWithin, grows.var_get inside, held, Option.map_some]
      | node index =>
          simp only [valueWithin, Option.bind_eq_some_iff, Option.map_eq_some_iff,
            mapM_eq_some] at found ⊢
          rcases found with ⟨node, held, values, operands, rfl⟩
          have inside := (List.getElem?_eq_some_iff.mp held).1
          refine ⟨node, (grows.node_get inside).trans held, values, ?_, rfl⟩
          exact operands.imp fun operand value => hypothesis (Nat.le_of_succ_le_succ further)

theorem denotes_iff :
    graph.Denotes meaning ref sense ↔
      graph.valueWithin meaning (graph.nodes.length + 1) ref = some sense.value ∧
        graph.shapeOf ref = sense.shape := by
  simp only [Denotes, sense?, Option.map_eq_some_iff]
  constructor
  · rintro ⟨value, found, rfl⟩
    exact ⟨found, rfl⟩
  · rintro ⟨found, shape⟩
    exact ⟨sense.value, found, by rw [shape]⟩

theorem Denotes.shape_eq (denotes : graph.Denotes meaning ref sense) :
    sense.shape = graph.shapeOf ref :=
  (denotes_iff.mp denotes).2.symm

theorem Denotes.holds (denotes : graph.Denotes meaning ref sense) : graph.holds ref := by
  have found := (denotes_iff.mp denotes).1
  cases ref with
  | var index =>
      rcases Option.map_eq_some_iff.mp found with ⟨owned, held, _⟩
      exact decide_eq_true (List.getElem?_eq_some_iff.mp held).1
  | node index =>
      rcases Option.bind_eq_some_iff.mp found with ⟨node, held, _⟩
      exact decide_eq_true (List.getElem?_eq_some_iff.mp held).1

theorem Denotes.grows (grows : base.GrowsTo graph) (denotes : base.Denotes meaning ref sense) :
    graph.Denotes meaning ref sense := by
  have shape := grows.shapeOf_eq denotes.holds
  rw [denotes_iff] at denotes ⊢
  have longer := grows.nodes.length_le
  refine ⟨valueWithin_grows grows ?_ denotes.1, shape.trans denotes.2⟩
  omega

theorem Denotes.withVar {owned : Variable} (denotes : graph.Denotes meaning ref sense) :
    (graph.withVar owned).Denotes meaning ref sense :=
  denotes.grows (growsTo_withVar graph owned)

/-- A new variable of the graph means the tensor that it holds. -/
theorem denotes_withVar {index : Nat} {name : Label} {train : TrainKind} {payload : Tensor}
    (last : index = graph.vars.length) :
    (graph.withVar ⟨name, .internal, train, payload⟩).Denotes meaning (.var index)
      (meaning.stored payload) := by
  subst last
  rw [denotes_iff]
  refine ⟨?_, shapeOf_withVar_new⟩
  simp [valueWithin, Meaning.ofVariable, Meaning.stored]

/-- A new node means its operation applied to what its operands mean. -/
theorem denotes_withNode {index function : Nat} {name : Label} {operation : Operation}
    {operands : List Ref} {shape : Shape} (last : index = graph.nodes.length)
    (operandsDenote : List.Forall₂ (graph.Denotes meaning) operands senses) :
    (graph.withNode ⟨function, name, operation, operands, shape⟩).Denotes meaning (.node index)
      (meaning.applied operation senses shape) := by
  subst last
  rw [denotes_iff]
  refine ⟨?_, shapeOf_withNode_new⟩
  have grows := growsTo_withNode graph ⟨function, name, operation, operands, shape⟩
  have values : operands.mapM (valueWithin meaning
      (graph.withNode ⟨function, name, operation, operands, shape⟩) (graph.nodes.length + 1)) =
        some (senses.map Sense.value) := by
    rw [mapM_eq_some, List.forall₂_map_right_iff]
    refine operandsDenote.imp ?_
    intro operand sense denotes
    exact valueWithin_grows grows (Nat.le_refl _) (denotes_iff.mp denotes).1
  simp only [valueWithin, nodes_withNode, List.length_append, List.length_singleton,
    List.getElem?_concat_length, Option.bind_some, values, Option.map_some, Meaning.applied]

/-- The depth within which a reference has a value, if nodes read what lies in front of them. -/
def depthOf : Ref → Nat
  | .var _ => 1
  | .node index => index + 2

theorem Belongs.value (meaning : Meaning Value) (belongs : graph.Belongs ref) :
    ∃ value, graph.valueWithin meaning (depthOf ref) ref = some value := by
  induction belongs with
  | var inside => simp [depthOf, valueWithin, List.getElem?_eq_getElem inside]
  | @node index node found inFront operands hypothesis =>
      have each : ∀ operand ∈ node.operands, ∃ value,
          graph.valueWithin meaning (index + 1) operand = some value := by
        intro operand member
        have ⟨value, shallow⟩ := hypothesis operand member
        refine ⟨value, valueWithin_grows graph.growsTo_refl ?_ shallow⟩
        cases operand with
        | var other => simp [depthOf]
        | node position =>
            have lower := inFront position member
            simp only [depthOf]
            omega
      have ⟨values, evaluated⟩ := exists_mapM each
      refine ⟨meaning.apply node.operation values node.shape, ?_⟩
      simp [depthOf, valueWithin, found, evaluated]

/-- What belongs to a graph means something. -/
theorem Belongs.denotes (meaning : Meaning Value) (belongs : graph.Belongs ref) :
    ∃ sense, graph.Denotes meaning ref sense := by
  have ⟨value, shallow⟩ := belongs.value meaning
  refine ⟨⟨value, graph.shapeOf ref⟩, denotes_iff.mpr ⟨?_, rfl⟩⟩
  apply valueWithin_grows graph.growsTo_refl _ shallow
  cases belongs with
  | var inside => simp [depthOf]
  | node found _ _ =>
      have inside := (List.getElem?_eq_some_iff.mp found).1
      simp only [depthOf]
      omega

/-- In a closed function, what is linked belongs to the graph. -/
theorem Linked.belongs {function : Nat} (closed : graph.Closed function)
    (linked : graph.Linked function ref) : graph.Belongs ref := by
  cases ref with
  | var index => exact .var linked
  | node index =>
      induction index using Nat.strong_induction_on with
      | _ index hypothesis =>
          rcases linked with ⟨_, node, found, owner⟩
          have reaches := closed index node found owner
          refine .node found ?_ ?_
          · intro position member
            exact (reaches.operands _ member).1
          · intro operand member
            have before := reaches.operands operand member
            cases operand with
            | var other => exact .var before
            | node position => exact hypothesis position before.1 before.linked

end Graph

end NetImport
