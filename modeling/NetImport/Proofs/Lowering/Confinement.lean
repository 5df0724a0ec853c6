import NetImport.Proofs.Lowering.Calls

/-!
# Confined growth

What a graph gains after some moment can refer to what was there before. It does not when operators
are lowered by a session that published nothing before that moment: names resolve to what the
session itself has added, and a rule reads only its inputs and what it adds. The graph then grows
apart, by variables and by nodes that read and write nothing older.
-/

namespace NetImport

open Descriptor
open Steps (Leaves leaves_bind leaves_forM leaves_iff leaves_pure)

namespace Graph

variable {function : Nat} {base mid graph grown : Graph} {owned : Variable} {node : Node}
  {ref : Ref}

/-- A reference that a graph holds and that an older one did not hold. -/
def Gained (base graph : Graph) (ref : Ref) : Prop := graph.holds ref ∧ ¬base.holds ref

instance (base graph : Graph) (ref : Ref) : Decidable (base.Gained graph ref) :=
  inferInstanceAs (Decidable (_ ∧ _))

@[simp]
theorem gained_var {index : Nat} :
    base.Gained graph (.var index) ↔ base.vars.length ≤ index ∧ index < graph.vars.length := by
  simp [Gained, holds, and_comm]

@[simp]
theorem gained_node {index : Nat} :
    base.Gained graph (.node index) ↔ base.nodes.length ≤ index ∧ index < graph.nodes.length := by
  simp [Gained, holds, and_comm]

theorem Gained.grows (grows : graph.GrowsTo grown) (gained : base.Gained graph ref) :
    base.Gained grown ref :=
  ⟨grows.holds gained.1, gained.2⟩

theorem Gained.withVar (gained : base.Gained graph ref) : base.Gained (graph.withVar owned) ref :=
  gained.grows (growsTo_withVar graph owned)

theorem Gained.withNode (gained : base.Gained graph ref) : base.Gained (graph.withNode node) ref :=
  gained.grows (growsTo_withNode graph node)

/-- A node of a function that reads and writes only what a graph has gained. -/
structure Confines (function : Nat) (base graph : Graph) (node : Node) : Prop where
  owner : node.function = function
  operands : ∀ operand ∈ node.operands, base.Gained graph operand
  output : ∀ output, node.operation.output? = some output → base.Gained graph (.var output)

theorem Confines.grows (grows : graph.GrowsTo grown)
    (confined : Confines function base graph node) : Confines function base grown node where
  owner := confined.owner
  operands := fun operand reads => (confined.operands operand reads).grows grows
  output := fun output writes => (confined.output output writes).grows grows

/-- A graph that has grown by variables and by nodes that reach back to nothing older. -/
structure GrowsApart (function : Nat) (base graph : Graph) : Prop where
  grows : base.GrowsTo graph
  confined : ∀ index node, base.nodes.length ≤ index → graph.nodes[index]? = some node →
    Confines function base graph node

theorem growsApart_refl (function : Nat) (graph : Graph) : GrowsApart function graph graph := by
  refine ⟨graph.growsTo_refl, ?_⟩
  intro index node beyond found
  have inside := (List.getElem?_eq_some_iff.mp found).1
  omega

theorem GrowsApart.withVar (apart : GrowsApart function base graph) :
    GrowsApart function base (graph.withVar owned) := by
  refine ⟨apart.grows.withVar, ?_⟩
  intro index node later found
  exact (apart.confined index node later found).grows (growsTo_withVar graph owned)

theorem GrowsApart.withNode (apart : GrowsApart function base graph)
    (confined : Confines function base graph node) :
    GrowsApart function base (graph.withNode node) := by
  refine ⟨apart.grows.withNode, ?_⟩
  intro index other later found
  have grows := growsTo_withNode graph node
  rcases Nat.lt_or_ge index graph.nodes.length with old | new
  · rw [grows.node_get old] at found
    exact (apart.confined index other later found).grows grows
  · have inside := (List.getElem?_eq_some_iff.mp found).1
    rw [length_nodes_withNode] at inside
    have last : index = graph.nodes.length := by omega
    subst last
    simp only [nodes_withNode, List.getElem?_concat_length, Option.some.injEq] at found
    subst other
    exact confined.grows grows

/-- A node that computes from what has been gained can be added. -/
theorem GrowsApart.withComputed (apart : GrowsApart function base graph)
    (owner : node.function = function) (computes : node.operation.output? = none)
    (gained : ∀ operand ∈ node.operands, base.Gained graph operand) :
    GrowsApart function base (graph.withNode node) :=
  apart.withNode ⟨owner, gained, by simp [computes]⟩

end Graph

namespace Lower

open NetImport.Graph (GrowsApart)

variable {setting : Setting} {operator : Operator} {arguments : Arguments} {tensors : TensorStore}
  {base graph grown : Graph} {kind : OperatorKind} {inputs : List Ref} {ref : Ref} {function : Nat}

theorem withSpatial_apart {name : Label} {input : Ref} {operation : Operation}
    {parameters : List Ref} {batch height width channels outHeight outWidth depth : Int}
    (apart : GrowsApart function base graph) (computes : operation.output? = none)
    (inputGained : base.Gained graph input)
    (gained : ∀ parameter ∈ parameters, base.Gained graph parameter) :
    GrowsApart function base (graph.withSpatial function name input operation parameters
      batch height width channels outHeight outWidth depth) := by
  have nodes := apart.grows.nodes.length_le
  refine ((apart.withComputed rfl rfl ?_).withComputed rfl computes ?_).withComputed rfl rfl ?_
  · simpa using inputGained
  · intro operand reads
    rcases List.mem_cons.mp reads with rfl | parameter
    · simpa using nodes
    · exact (gained operand parameter).withNode
  · simp
    omega

theorem gained_withSpatial {name : Label} {input : Ref} {operation : Operation}
    {parameters : List Ref} {batch height width channels outHeight outWidth depth : Int}
    (older : base.nodes.length ≤ graph.nodes.length) :
    base.Gained (graph.withSpatial function name input operation parameters
      batch height width channels outHeight outWidth depth) (.node (graph.nodes.length + 2)) := by
  simp [Graph.withSpatial]
  omega

theorem withSum_apart {name : Label} {total : Ref} {refs : List Ref}
    (apart : GrowsApart function base graph) (totalGained : base.Gained graph total)
    (gained : ∀ ref ∈ refs, base.Gained graph ref) :
    GrowsApart function base (Graph.withSum function name graph total refs).2 ∧
      base.Gained (Graph.withSum function name graph total refs).2
        (Graph.withSum function name graph total refs).1 := by
  induction refs generalizing graph total with
  | nil => exact ⟨apart, totalGained⟩
  | cons ref refs hypothesis =>
      have nodes := apart.grows.nodes.length_le
      refine hypothesis (apart.withComputed rfl rfl ?_) ?_ ?_
      · simpa using ⟨totalGained, gained ref (by simp)⟩
      · simpa using nodes
      · intro other member
        exact (gained other (by simp [member])).withNode

theorem computes_of_elementwise? {operation : Operation}
    (applies : kind.elementwise? = some operation) : operation.output? = none := by
  cases kind <;> cases applies <;> rfl

theorem computes_of_pooling? {operation : Window → Operation} (window : Window)
    (pools : kind.pooling? = some operation) : (operation window).output? = none := by
  cases kind <;> cases pools <;> rfl

theorem computes_of_pairwise? {operation : Operation}
    (combines : kind.pairwise? = some operation) : operation.output? = none := by
  cases kind <;> cases combines <;> rfl

/-- What an operator emits reads its inputs and what it emits itself. -/
theorem emits_apart
    (emits : Emits setting tensors operator arguments graph kind inputs ref grown)
    (apart : GrowsApart setting.function base graph)
    (gained : ∀ input ∈ inputs, base.Gained graph input) :
    GrowsApart setting.function base grown ∧ base.Gained grown ref := by
  have vars := apart.grows.vars.length_le
  have nodes := apart.grows.nodes.length_le
  cases emits with
  | dropout => exact ⟨apart, gained ref (by simp)⟩
  | elementwise applies =>
      exact ⟨apart.withComputed rfl (computes_of_elementwise? applies) gained, by simpa using nodes⟩
  | convolution =>
      have inputGained := gained _ List.mem_cons_self
      refine ⟨withSpatial_apart apart.withVar.withVar rfl inputGained.withVar.withVar ?_, ?_⟩
      · simp
        omega
      · exact gained_withSpatial nodes
  | pooling pools =>
      exact ⟨withSpatial_apart apart (computes_of_pooling? _ pools) (gained _ List.mem_cons_self)
        (by simp), gained_withSpatial nodes⟩
  | localResponseNormalization =>
      exact ⟨withSpatial_apart apart rfl (gained _ List.mem_cons_self) (by simp),
        gained_withSpatial nodes⟩
  | batchNormalization =>
      have inputGained := gained _ List.mem_cons_self
      refine ⟨apart.withVar.withVar.withVar.withVar.withComputed rfl rfl ?_, by simpa using nodes⟩
      intro operand reads
      rcases List.mem_cons.mp reads with rfl | parameter
      · exact inputGained.withVar.withVar.withVar.withVar
      · simp only [List.mem_cons, List.not_mem_nil, or_false] at parameter
        rcases parameter with rfl | rfl | rfl | rfl
        all_goals
          simp
          omega
  | concatenation => exact ⟨apart.withComputed rfl rfl gained, by simpa using nodes⟩
  | arithmetic combines =>
      exact ⟨apart.withComputed rfl (computes_of_pairwise? combines) gained, by simpa using nodes⟩
  | broadcastArithmetic combines =>
      refine ⟨(apart.withComputed rfl rfl ?_).withComputed rfl (computes_of_pairwise? combines) ?_,
        ?_⟩
      · intro operand reads
        exact gained operand (List.mem_cons_of_mem _ reads)
      · intro operand reads
        rcases List.mem_cons.mp reads with rfl | expanded
        · exact (gained operand List.mem_cons_self).withNode
        · rcases List.mem_singleton.mp expanded with rfl
          simpa using nodes
      · simp
        omega
  | sum =>
      exact withSum_apart apart (gained _ List.mem_cons_self) fun other member =>
        gained other (List.mem_cons_of_mem _ member)
  | softmax =>
      refine ⟨(apart.withComputed rfl rfl ?_).withComputed rfl rfl ?_, ?_⟩
      · intro operand reads
        exact gained operand (List.mem_cons_of_mem _ reads)
      · intro operand reads
        rcases List.mem_cons.mp reads with rfl | selected
        · simpa using nodes
        · rcases List.mem_singleton.mp selected with rfl
          exact (gained operand List.mem_cons_self).withNode
      · simp
        omega
  | fullyConnected =>
      refine ⟨apart.withVar.withVar.withComputed rfl rfl ?_, by simpa using nodes⟩
      intro operand reads
      rcases List.mem_cons.mp reads with rfl | parameter
      · exact (gained operand List.mem_cons_self).withVar.withVar
      · simp only [List.mem_cons, List.not_mem_nil, or_false] at parameter
        rcases parameter with rfl | rfl
        all_goals
          simp
          omega
  | channelShuffle => exact ⟨apart.withComputed rfl rfl gained, by simpa using nodes⟩
  | squeeze => exact ⟨apart.withComputed rfl rfl gained, by simpa using nodes⟩

end Lower

/-! ## Sessions -/

namespace Session

variable {function : Nat} {base : Graph} {session after : Session} {name : Label} {ref : Ref}

/-- A session on a graph that has grown apart, which publishes only what it has added. -/
structure Apart (function : Nat) (base : Graph) (session : Session) : Prop where
  graph : Graph.GrowsApart function base session.graph
  names : ∀ name ref, session.names.get? name = some ref → base.Gained session.graph ref

theorem Apart.valid (apart : session.Apart function base) : session.Valid :=
  fun name ref published => (apart.names name ref published).1

/-- Names may be bound to whatever is gained when the graph grows further apart. -/
theorem Apart.bindAll {graph : Graph} {tensors : TensorStore} {notices : List Notice}
    (apart : session.Apart function base) (names : List Label)
    (grows : session.graph.GrowsTo graph) (further : Graph.GrowsApart function base graph)
    (gained : base.Gained graph ref) :
    Apart function base ⟨graph, session.names.bindAll names ref, tensors, notices⟩ := by
  refine ⟨further, ?_⟩
  intro name other published
  rcases Registry.get?_bindAll_eq_some.mp published with ⟨_, rfl⟩ | ⟨_, older⟩
  · exact gained
  · exact (apart.names name other older).grows grows

theorem Apart.promote {payload : Tensor} (apart : session.Apart function base) :
    (session.promote name payload).Apart function base ∧
      base.Gained (session.promote name payload).graph (.var session.graph.vars.length) := by
  have vars := apart.graph.grows.vars.length_le
  have gained :
      base.Gained (session.promote name payload).graph (.var session.graph.vars.length) := by
    simpa [Session.promote] using vars
  exact ⟨apart.bindAll [name] (Graph.growsTo_withVar _ _) apart.graph.withVar gained, gained⟩

theorem Apart.withNotices (apart : session.Apart function base)
    (same : after = { session with notices := after.notices }) : after.Apart function base := by
  rw [same]
  exact ⟨apart.graph, apart.names⟩

/-- A session that was apart still is. -/
def StaysApart (function : Nat) (base : Graph) (before after : Session) : Prop :=
  before.Apart function base → after.Apart function base

instance (function : Nat) (base : Graph) : IsPreorder Session (StaysApart function base) where
  refl _ := id
  trans _ _ _ first second := second ∘ first

end Session

namespace Lower

variable {setting : Setting} {operator : Operator} {base : Graph} {session after : Session}
  {name : Label} {ref : Ref} {function : Nat}

theorem resolve_apart (apart : session.Apart function base)
    (resolved : resolve name session = .ok ref after) :
    after.Apart function base ∧ base.Gained after.graph ref := by
  rcases resolve_eq_ok.mp resolved with ⟨published, rfl⟩ | ⟨_, payload, _, rfl, rfl⟩
  · exact ⟨apart, apart.names name ref published⟩
  · exact apart.promote

theorem resolveAll_apart {names : List Label} {refs : List Ref}
    (apart : session.Apart function base) (resolved : resolveAll names session = .ok refs after) :
    after.Apart function base ∧ ∀ ref ∈ refs, base.Gained after.graph ref := by
  have ⟨afterApart, each⟩ := resolveAll_induction (fun _ _ _ _ apart one => resolve_apart apart one)
    (fun _ _ _ _ grown gained => gained.grows grown.graph) apart resolved
  exact ⟨afterApart, forall_mem_of_forall₂ each⟩

/-- An operator that is lowered adds nodes that reach back to nothing older than the session. -/
theorem lowerOperator_apart (apart : session.Apart setting.function base)
    (lowered : lowerOperator setting operator session = .ok ref after) :
    after.Apart setting.function base := by
  rcases lowerOperator_eq_ok.mp lowered with ⟨kind, mid, _, ruleSucceeds, rfl⟩
  rcases rule_lowered apart.valid ruleSucceeds with ⟨resolved, emits, rfl⟩
  have ⟨resolvedApart, inputsGained⟩ := resolveAll_apart apart resolved
  have ⟨emittedApart, refGained⟩ := emits_apart emits resolvedApart.graph inputsGained
  exact resolvedApart.bindAll operator.outputs (emits_grows emits) emittedApart refGained

theorem finalize_apart {externalOutputs : List Label} (apart : session.Apart setting.function base)
    (saved : finalize setting externalOutputs session = .ok ref after) :
    after.Apart setting.function base := by
  rcases finalize_eq_ok.mp saved with
    ⟨name, others, result, zeros, rfl, published, filled, rfl, rfl⟩
  have resultGained := apart.names name result published
  have vars := apart.graph.grows.vars.length_le
  refine ⟨apart.graph.withVar.withNode ⟨rfl, ?_, ?_⟩, ?_⟩
  · intro operand reads
    rcases List.mem_singleton.mp reads with rfl
    exact resultGained.withVar
  · rintro output ⟨⟩
    simpa using vars
  · intro other ref published
    exact (apart.names other ref published).withVar.withNode

theorem lowerOperator_staysApart (setting : Setting) (operator : Operator) (base : Graph) :
    Leaves (Session.StaysApart setting.function base) (lowerOperator setting operator) :=
  leaves_iff.mpr
    ⟨fun _ _ _ lowered apart => lowerOperator_apart apart lowered,
      fun _ _ _ fails apart => apart.withNotices (lowerOperator_restores fails)⟩

theorem lowerNetwork_staysApart (setting : Setting) (network : Network) (base : Graph) :
    Leaves (Session.StaysApart setting.function base) (lowerNetwork setting network) :=
  leaves_forM fun operator =>
    leaves_bind (lowerOperator_staysApart setting operator base) fun _ => leaves_pure _

theorem finalize_staysApart (setting : Setting) (externalOutputs : List Label) (base : Graph) :
    Leaves (Session.StaysApart setting.function base) (finalize setting externalOutputs) :=
  leaves_iff.mpr
    ⟨fun _ _ _ saved apart => finalize_apart apart saved,
      fun _ _ _ fails apart => apart.withNotices (finalize_restores fails)⟩

end Lower

end NetImport
