import Mathlib.Data.List.Forall2
import NetImport.Proofs.Graph.Factory

/-!
# Growing sessions

Until an operator is lowered and its result published, everything that a session does appends: to
the graph, and to the names, since only a name that is not published is ever promoted. The stored
tensors stay the same. Every rule leaves a session that has grown in this sense, whether it succeeds
or fails.
-/

namespace NetImport

open Steps (Leaves leaves_bind leaves_iff leaves_get leaves_pure leaves_throw)

namespace Session

/-- The session after a stored tensor became a variable that is published under its name. -/
def promote (session : Session) (name : Label) (payload : Tensor) : Session :=
  { session with
    graph := session.graph.withVar ⟨name, .internal, .broadcast, payload⟩
    names := session.names.bind name (.var session.graph.vars.length) }

variable {base mid session : Session}

/-- The graph has grown, names have been added behind the older ones, no tensor has been stored. -/
structure GrowsTo (base session : Session) : Prop where
  graph : base.graph.GrowsTo session.graph
  names : base.names.entries <+: session.names.entries
  tensors : session.tensors = base.tensors

theorem growsTo_refl (session : Session) : session.GrowsTo session :=
  ⟨session.graph.growsTo_refl, List.prefix_refl _, rfl⟩

theorem growsTo_trans (first : base.GrowsTo mid) (second : mid.GrowsTo session) :
    base.GrowsTo session :=
  ⟨Graph.growsTo_trans first.graph second.graph, first.names.trans second.names,
    second.tensors.trans first.tensors⟩

instance : IsPreorder Session GrowsTo where
  refl := growsTo_refl
  trans _ _ _ := growsTo_trans

theorem growsTo_promote {name : Label} {payload : Tensor}
    (unpublished : session.names.get? name = none) :
    session.GrowsTo (session.promote name payload) := by
  refine ⟨Graph.growsTo_withVar _ _, ?_, rfl⟩
  simp only [promote, Registry.bind, Registry.put_of_lookup_eq_none unpublished]
  exact List.prefix_append _ _

theorem growsTo_withGraph {graph : Graph} (grows : session.graph.GrowsTo graph) :
    session.GrowsTo { session with graph } :=
  ⟨grows, List.prefix_refl _, rfl⟩

/-- Every published reference is held by the graph. -/
def Valid (session : Session) : Prop :=
  ∀ name ref, session.names.get? name = some ref → session.graph.holds ref

theorem valid_promote {name : Label} {payload : Tensor} (valid : session.Valid) :
    (session.promote name payload).Valid := by
  intro other ref published
  rcases Registry.get?_bind_eq_some.mp published with ⟨_, rfl⟩ | ⟨_, older⟩
  · simp [promote, Graph.holds]
  · exact Graph.holds_withVar (valid other ref older)

end Session

namespace Lower

variable {α : Type} {session after : Session} {name : Label} {ref : Ref}

/-- A name resolves to what is published under it, or to the promotion of its stored tensor. -/
theorem resolve_eq_ok :
    resolve name session = .ok ref after ↔
      (session.names.get? name = some ref ∧ after = session) ∨
        session.names.get? name = none ∧
          ∃ payload, session.tensors.get name = .ok payload ∧
            ref = .var session.graph.vars.length ∧ after = session.promote name payload := by
  simp only [resolve, Steps.get_bind]
  cases session.names.get? name with
  | some held => simp [eq_comm]
  | none => simp [publish, Session.promote, and_comm, eq_comm (a := ref)]

/-- A name does not resolve when neither something published nor a stored tensor has it. -/
theorem resolve_eq_error {error : Error} :
    resolve name session = .error error after ↔
      session.names.get? name = none ∧ session.tensors.get name = .error error ∧
        after = session := by
  simp only [resolve, Steps.get_bind]
  cases session.names.get? name with
  | some held => simp
  | none => simp [publish, Graph.addVariable]

theorem resolve_grows (name : Label) : Leaves Session.GrowsTo (resolve name) := by
  rw [leaves_iff]
  constructor
  · intro session ref after resolved
    rcases resolve_eq_ok.mp resolved with ⟨_, rfl⟩ | ⟨unpublished, payload, _, _, rfl⟩
    · exact after.growsTo_refl
    · exact Session.growsTo_promote unpublished
  · intro session error after fails
    rcases resolve_eq_error.mp fails with ⟨_, _, rfl⟩
    exact after.growsTo_refl

@[simp]
theorem resolveAll_nil_eq_ok {refs : List Ref} :
    resolveAll [] session = .ok refs after ↔ refs = [] ∧ after = session := by
  simp [resolveAll]

@[simp]
theorem resolveAll_cons_eq_ok {names : List Label} {refs : List Ref} :
    resolveAll (name :: names) session = .ok refs after ↔
      ∃ first mid others, resolve name session = .ok first mid ∧
        resolveAll names mid = .ok others after ∧ refs = first :: others := by
  simp only [resolveAll, Steps.bind_eq_ok, Steps.pure_eq_ok]
  constructor
  · rintro ⟨first, mid, resolved, others, _, rest, rfl, rfl⟩
    exact ⟨first, mid, others, resolved, rest, rfl⟩
  · rintro ⟨first, mid, others, resolved, rest, rfl⟩
    exact ⟨first, mid, resolved, others, _, rest, rfl, rfl⟩

@[simp]
theorem input_eq_ok {operator : Descriptor.Operator} {slot : Nat} :
    operator.input slot = .ok name ↔ operator.inputs[slot]? = some name := by
  unfold Descriptor.Operator.input
  cases operator.inputs[slot]? with
  | none => simp
  | some held => simp

theorem resolveInput_eq_ok {operator : Descriptor.Operator} {slot : Nat} :
    resolveInput operator slot session = .ok ref after ↔
      ∃ name, operator.inputs[slot]? = some name ∧ resolve name session = .ok ref after := by
  simp only [resolveInput, Steps.bind_eq_ok, ofResult_eq_ok, input_eq_ok]
  constructor
  · rintro ⟨name, _, ⟨named, rfl⟩, resolved⟩
    exact ⟨name, named, resolved⟩
  · rintro ⟨name, named, resolved⟩
    exact ⟨name, session, ⟨named, rfl⟩, resolved⟩

/-- The stored tensor that an input slot names. -/
def storedInput (tensors : TensorStore) (operator : Descriptor.Operator) (slot : Nat) :
    Except Error Tensor := do
  tensors.get (← operator.input slot)

theorem storedInput_eq_ok {tensors : TensorStore} {operator : Descriptor.Operator} {slot : Nat}
    {tensor : Tensor} :
    storedInput tensors operator slot = .ok tensor ↔
      ∃ name, operator.inputs[slot]? = some name ∧ tensors.get name = .ok tensor := by
  simp only [storedInput, ← input_eq_ok]
  cases operator.input slot with
  | error error => simp [bind, Except.bind]
  | ok name => simp [bind, Except.bind]

@[simp]
theorem inputTensor_eq_ok {operator : Descriptor.Operator} {slot : Nat} {tensor : Tensor} :
    inputTensor operator slot session = .ok tensor after ↔
      storedInput session.tensors operator slot = .ok tensor ∧ after = session := by
  simp only [inputTensor, Steps.bind_eq_ok, ofResult_eq_ok, tensor_eq_ok, storedInput_eq_ok,
    input_eq_ok]
  constructor
  · rintro ⟨name, _, ⟨named, rfl⟩, held, rfl⟩
    exact ⟨⟨name, named, held⟩, rfl⟩
  · rintro ⟨⟨name, named, held⟩, rfl⟩
    exact ⟨name, _, ⟨named, rfl⟩, held, rfl⟩

theorem inputTensor_bind_eq_ok {β : Type} {operator : Descriptor.Operator} {slot : Nat}
    {next : Tensor → Lower β} {result : β} :
    (inputTensor operator slot >>= next) session = .ok result after ↔
      ∃ tensor, storedInput session.tensors operator slot = .ok tensor ∧
        next tensor session = .ok result after := by
  simp [and_assoc]

theorem resolveAll_grows (names : List Label) : Leaves Session.GrowsTo (resolveAll names) := by
  induction names with
  | nil => exact leaves_pure _
  | cons name names hypothesis =>
      refine leaves_bind (resolve_grows name) fun ref => ?_
      exact leaves_bind hypothesis fun refs => leaves_pure _

theorem resolve_valid (valid : session.Valid) (resolved : resolve name session = .ok ref after) :
    after.graph.holds ref ∧ after.Valid := by
  rcases resolve_eq_ok.mp resolved with ⟨published, rfl⟩ | ⟨_, payload, _, rfl, rfl⟩
  · exact ⟨valid name ref published, valid⟩
  · exact ⟨by simp [Session.promote, Graph.holds], Session.valid_promote valid⟩

theorem resolve_growsTo (resolved : resolve name session = .ok ref after) :
    session.GrowsTo after :=
  (leaves_iff.mp (resolve_grows name)).1 _ _ _ resolved

theorem resolveAll_growsTo {names : List Label} {refs : List Ref}
    (resolved : resolveAll names session = .ok refs after) : session.GrowsTo after :=
  (leaves_iff.mp (resolveAll_grows names)).1 _ _ _ resolved

/--
An invariant of resolving single names is kept while several names are resolved, and what relates
each name to what it resolved to still relates them in the end if growing sessions keep it.
-/
theorem resolveAll_induction {Invariant : Session → Prop} {Relates : Session → Label → Ref → Prop}
    (step : ∀ session name ref after, Invariant session → resolve name session = .ok ref after →
      Invariant after ∧ Relates after name ref)
    (stable : ∀ session after name ref, session.GrowsTo after → Relates session name ref →
      Relates after name ref)
    {names : List Label} {refs : List Ref} (invariant : Invariant session)
    (resolved : resolveAll names session = .ok refs after) :
    Invariant after ∧ List.Forall₂ (Relates after) names refs := by
  induction names generalizing session refs with
  | nil =>
      rcases resolveAll_nil_eq_ok.mp resolved with ⟨rfl, rfl⟩
      exact ⟨invariant, .nil⟩
  | cons name names hypothesis =>
      rcases resolveAll_cons_eq_ok.mp resolved with ⟨first, mid, others, one, rest, rfl⟩
      have ⟨midInvariant, relates⟩ := step _ _ _ _ invariant one
      have ⟨afterInvariant, othersRelate⟩ := hypothesis midInvariant rest
      have grown := resolveAll_growsTo rest
      exact ⟨afterInvariant, .cons (stable _ _ _ _ grown relates) othersRelate⟩

theorem forall_mem_of_forall₂ {names : List Label} {refs : List Ref} {Holds : Ref → Prop}
    (each : List.Forall₂ (fun _ ref => Holds ref) names refs) : ∀ ref ∈ refs, Holds ref := by
  induction each with
  | nil => simp
  | cons first _ hypothesis => simpa using ⟨first, hypothesis⟩

/-- The references that names resolve to are held by the graph in the end. -/
theorem resolveAll_valid {names : List Label} {refs : List Ref} (valid : session.Valid)
    (resolved : resolveAll names session = .ok refs after) :
    (∀ ref ∈ refs, after.graph.holds ref) ∧ after.Valid := by
  have ⟨afterValid, each⟩ := resolveAll_induction
    (fun _ _ _ _ valid one => (resolve_valid valid one).symm)
    (fun _ _ _ _ grown held => grown.graph.holds held) valid resolved
  exact ⟨forall_mem_of_forall₂ each, afterValid⟩

theorem ofResult_grows (outcome : Except Error α) :
    Leaves Session.GrowsTo (ofResult outcome) := by
  cases outcome with
  | ok value => exact leaves_pure _
  | error error => exact leaves_throw _

theorem tensor_grows (name : Label) : Leaves Session.GrowsTo (tensor name) :=
  leaves_bind leaves_get fun _ => ofResult_grows _

theorem resolveInput_grows (operator : Descriptor.Operator) (slot : Nat) :
    Leaves Session.GrowsTo (resolveInput operator slot) :=
  leaves_bind (ofResult_grows _) fun name => resolve_grows name

theorem inputTensor_grows (operator : Descriptor.Operator) (slot : Nat) :
    Leaves Session.GrowsTo (inputTensor operator slot) :=
  leaves_bind (ofResult_grows _) fun name => tensor_grows name

theorem shape_grows (ref : Ref) : Leaves Session.GrowsTo (shape ref) :=
  leaves_bind leaves_get fun _ => leaves_pure _

theorem extents_grows (ref : Ref) : Leaves Session.GrowsTo (extents ref) :=
  leaves_bind (shape_grows ref) fun _ => leaves_pure _

theorem refuseSidePads_grows (arguments : Descriptor.Arguments) :
    Leaves Session.GrowsTo (refuseSidePads arguments) := by
  unfold refuseSidePads
  dsimp only
  split
  · exact leaves_pure _
  · exact leaves_throw _

/-- A step that grows the graph grows the session. -/
theorem onGraph_grows {build : Build α} (grows : Leaves Graph.GrowsTo build) :
    Leaves Session.GrowsTo (onGraph build) := by
  rw [leaves_iff] at grows ⊢
  constructor
  · intro session value after succeeds
    rcases onGraph_eq_ok.mp succeeds with ⟨graph, built, rfl⟩
    exact Session.growsTo_withGraph (grows.1 _ _ _ built)
  · intro session error after fails
    rcases onGraph_eq_error.mp fails with ⟨graph, built, rfl⟩
    exact Session.growsTo_withGraph (grows.2 _ _ _ built)

theorem windowExtents_grows (window : Window) (height width : Int) :
    Leaves Session.GrowsTo (onGraph (Graph.windowExtents window height width)) := by
  refine onGraph_grows ?_
  intro graph
  rw [← Graph.leaves_windowExtents window height width graph]
  exact graph.growsTo_refl

end Lower

end NetImport
