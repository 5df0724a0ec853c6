import Mathlib.Data.List.Forall2
import Mathlib.Tactic.Common
import NetImport.Lowering.Network

/-!
# Outcomes of steps

A step that carries a state on or fails has one of two outcomes. This file says when a step made of
smaller ones succeeds, and when it fails, in terms of the outcomes of its parts: first for steps
over any state, then for the primitive steps of building a graph and of lowering.

The state that a failing step leaves is not the one that it started from, so the equations for
failure name it as well.
-/

namespace NetImport

universe u

namespace Steps

variable {Failure State Value Result : Type u} {state after : State} {failure : Failure}

@[simp]
theorem bind_eq_ok {step : EStateM Failure State Value}
    {next : Value → EStateM Failure State Result} {result : Result} :
    (step >>= next) state = .ok result after ↔
      ∃ value mid, step state = .ok value mid ∧ next value mid = .ok result after := by
  change EStateM.bind step next state = _ ↔ _
  unfold EStateM.bind
  cases step state with
  | ok value mid => simp
  | error raised mid => simp

@[simp]
theorem bind_eq_error {step : EStateM Failure State Value}
    {next : Value → EStateM Failure State Result} :
    (step >>= next) state = .error failure after ↔
      step state = .error failure after ∨
        ∃ value mid, step state = .ok value mid ∧ next value mid = .error failure after := by
  change EStateM.bind step next state = _ ↔ _
  unfold EStateM.bind
  cases step state with
  | ok value mid => simp
  | error raised mid => simp

@[simp]
theorem map_eq_ok {step : EStateM Failure State Value} {convert : Value → Result}
    {result : Result} :
    (convert <$> step) state = .ok result after ↔
      ∃ value, step state = .ok value after ∧ convert value = result := by
  change EStateM.map convert step state = _ ↔ _
  unfold EStateM.map
  cases step state with
  | ok value mid => simp [and_comm]
  | error raised mid => simp

@[simp]
theorem map_eq_error {step : EStateM Failure State Value} {convert : Value → Result} :
    (convert <$> step) state = .error failure after ↔ step state = .error failure after := by
  change EStateM.map convert step state = _ ↔ _
  unfold EStateM.map
  cases step state with
  | ok value mid => simp
  | error raised mid => simp

@[simp]
theorem pure_eq_ok {value result : Value} :
    (pure value : EStateM Failure State Value) state = .ok result after ↔
      result = value ∧ after = state := by
  change EStateM.Result.ok value state = _ ↔ _
  simp [eq_comm]

@[simp]
theorem pure_ne_error {value : Value} :
    (pure value : EStateM Failure State Value) state ≠ .error failure after := by
  change EStateM.Result.ok value state ≠ _
  simp

@[simp]
theorem throw_ne_ok {raised : Failure} {result : Value} :
    (throw raised : EStateM Failure State Value) state ≠ .ok result after := by
  change EStateM.Result.error raised state ≠ _
  simp

@[simp]
theorem throw_eq_error {raised : Failure} :
    (throw raised : EStateM Failure State Value) state = .error failure after ↔
      failure = raised ∧ after = state := by
  change EStateM.Result.error raised state = _ ↔ _
  simp [eq_comm]

@[simp]
theorem get_eq_ok {result : State} :
    (get : EStateM Failure State State) state = .ok result after ↔
      result = state ∧ after = state := by
  change EStateM.Result.ok state state = _ ↔ _
  simp [eq_comm]

/-- A step that first reads the state is the step for the state it starts from. -/
@[simp]
theorem get_bind {next : State → EStateM Failure State Result} :
    ((get : EStateM Failure State State) >>= next) state = next state state := rfl

@[simp]
theorem get_ne_error : (get : EStateM Failure State State) state ≠ .error failure after := by
  change EStateM.Result.ok state state ≠ _
  simp

@[simp]
theorem modifyGet_eq_ok {change : State → Value × State} {result : Value} :
    (modifyGet change : EStateM Failure State Value) state = .ok result after ↔
      result = (change state).1 ∧ after = (change state).2 := by
  change EStateM.Result.ok (change state).1 (change state).2 = _ ↔ _
  simp [eq_comm]

@[simp]
theorem modifyGet_ne_error {change : State → Value × State} :
    (modifyGet change : EStateM Failure State Value) state ≠ .error failure after := by
  change EStateM.Result.ok (change state).1 (change state).2 ≠ _
  simp

@[simp]
theorem modify_eq_ok {change : State → State} {result : PUnit} :
    (modify change : EStateM Failure State PUnit) state = .ok result after ↔
      after = change state := by
  simp [modify]

@[simp]
theorem modify_ne_error {change : State → State} :
    (modify change : EStateM Failure State PUnit) state ≠ .error failure after := by
  simp [modify]

@[simp]
theorem tryCatch_eq_ok {step : EStateM Failure State Value}
    {handle : Failure → EStateM Failure State Value} {result : Value} :
    (tryCatch step handle) state = .ok result after ↔
      step state = .ok result after ∨
        ∃ raised mid, step state = .error raised mid ∧ handle raised mid = .ok result after := by
  change EStateM.tryCatch step handle state = _ ↔ _
  unfold EStateM.tryCatch
  cases step state with
  | ok value mid => simp
  | error raised mid => simp [EStateM.Backtrackable.restore, EStateM.dummyRestore]

@[simp]
theorem tryCatch_eq_error {step : EStateM Failure State Value}
    {handle : Failure → EStateM Failure State Value} :
    (tryCatch step handle) state = .error failure after ↔
      ∃ raised mid, step state = .error raised mid ∧ handle raised mid = .error failure after := by
  change EStateM.tryCatch step handle state = _ ↔ _
  unfold EStateM.tryCatch
  cases step state with
  | ok value mid => simp
  | error raised mid => simp [EStateM.Backtrackable.restore, EStateM.dummyRestore]

/-! ## What every outcome leaves -/

/-- The state that an outcome leaves, be it a success or a failure. -/
def stateOf : EStateM.Result Failure State Value → State
  | .ok _ left => left
  | .error _ left => left

/-- Whether it succeeds or fails, a step leaves a state related to the one it started from. -/
def Leaves (relation : State → State → Prop) (step : EStateM Failure State Value) : Prop :=
  ∀ state, relation state (stateOf (step state))

variable {relation : State → State → Prop}

theorem leaves_iff {step : EStateM Failure State Value} :
    Leaves relation step ↔
      (∀ state value after, step state = .ok value after → relation state after) ∧
        ∀ state failure after, step state = .error failure after → relation state after := by
  constructor
  · intro leaves
    constructor
    · intro state value after succeeds
      simpa [succeeds, stateOf] using leaves state
    · intro state failure after fails
      simpa [fails, stateOf] using leaves state
  · rintro ⟨onSuccess, onFailure⟩ state
    cases outcome : step state with
    | ok value after => exact onSuccess state value after outcome
    | error failure after => exact onFailure state failure after outcome

section Preorder

variable [IsPreorder State relation]

theorem leaves_pure (value : Value) :
    Leaves relation (pure value : EStateM Failure State Value) :=
  fun state => refl_of relation state

theorem leaves_throw (failure : Failure) :
    Leaves relation (throw failure : EStateM Failure State Value) :=
  fun state => refl_of relation state

theorem leaves_get : Leaves relation (get : EStateM Failure State State) :=
  fun state => refl_of relation state

theorem leaves_bind {step : EStateM Failure State Value}
    {next : Value → EStateM Failure State Result} (first : Leaves relation step)
    (second : ∀ value, Leaves relation (next value)) : Leaves relation (step >>= next) := by
  rw [leaves_iff] at first ⊢
  constructor
  · intro state result after succeeds
    rcases bind_eq_ok.mp succeeds with ⟨value, mid, stepped, rest⟩
    exact trans_of relation (first.1 _ _ _ stepped) ((leaves_iff.mp (second value)).1 _ _ _ rest)
  · intro state failure after fails
    rcases bind_eq_error.mp fails with stepFails | ⟨value, mid, stepped, rest⟩
    · exact first.2 _ _ _ stepFails
    · exact trans_of relation (first.1 _ _ _ stepped) ((leaves_iff.mp (second value)).2 _ _ _ rest)

theorem leaves_forM {Item : Type u} {items : List Item}
    {step : Item → EStateM Failure State PUnit} (each : ∀ item, Leaves relation (step item)) :
    Leaves relation (items.forM step) := by
  induction items with
  | nil => exact leaves_pure _
  | cons item items hypothesis => exact leaves_bind (each item) fun _ => hypothesis

end Preorder

/-- The second of two steps may use what the first one did. -/
theorem leaves_bind_of_ok {step : EStateM Failure State Value}
    {next : Value → EStateM Failure State Result} (first : Leaves relation step)
    (second : ∀ state value mid, step state = .ok value mid →
      relation state (stateOf (next value mid))) : Leaves relation (step >>= next) := by
  rw [leaves_iff] at first ⊢
  constructor
  · intro state result after succeeds
    rcases bind_eq_ok.mp succeeds with ⟨value, mid, stepped, rest⟩
    simpa [rest, stateOf] using second _ _ _ stepped
  · intro state failure after fails
    rcases bind_eq_error.mp fails with stepFails | ⟨value, mid, stepped, rest⟩
    · exact first.2 _ _ _ stepFails
    · simpa [rest, stateOf] using second _ _ _ stepped

/-! ## Invariants and failures -/

/-- A step that keeps an invariant and that, where the invariant holds, fails in allowed ways only. -/
def Guards (invariant : State → Prop) (allowed : Failure → Prop)
    (step : EStateM Failure State Value) : Prop :=
  ∀ state, invariant state → invariant (stateOf (step state)) ∧
    ∀ failure after, step state = .error failure after → allowed failure

variable {invariant : State → Prop} {allowed : Failure → Prop}

theorem guards_iff {step : EStateM Failure State Value} :
    Guards invariant allowed step ↔
      (∀ state value after, invariant state → step state = .ok value after → invariant after) ∧
        ∀ state failure after, invariant state → step state = .error failure after →
          invariant after ∧ allowed failure := by
  constructor
  · intro guards
    constructor
    · intro state value after holds succeeds
      simpa [succeeds, stateOf] using (guards state holds).1
    · intro state failure after holds fails
      exact ⟨by simpa [fails, stateOf] using (guards state holds).1,
        (guards state holds).2 failure after fails⟩
  · rintro ⟨onSuccess, onFailure⟩ state holds
    cases outcome : step state with
    | ok value after => exact ⟨onSuccess state value after holds outcome, by simp⟩
    | error failure after =>
        have ⟨kept, raises⟩ := onFailure state failure after holds outcome
        refine ⟨kept, ?_⟩
        rintro _ _ ⟨⟩
        exact raises

/-- An invariant is kept by steps that leave states related by something that respects it. -/
theorem guards_of_leaves {step : EStateM Failure State Value} (leaves : Leaves relation step)
    (respects : ∀ before after, relation before after → invariant before → invariant after)
    (raises : ∀ state failure after, invariant state → step state = .error failure after →
      allowed failure) : Guards invariant allowed step :=
  fun state holds => ⟨respects _ _ (leaves state) holds,
    fun failure after fails => raises state failure after holds fails⟩

theorem guards_pure (value : Value) :
    Guards invariant allowed (pure value : EStateM Failure State Value) :=
  fun _ holds => ⟨holds, by simp⟩

theorem guards_throw {failure : Failure} (raises : allowed failure) :
    Guards invariant allowed (throw failure : EStateM Failure State Value) := by
  refine fun state holds => ⟨holds, ?_⟩
  intro raised after fails
  rcases throw_eq_error.mp fails with ⟨rfl, _⟩
  exact raises

theorem guards_get : Guards invariant allowed (get : EStateM Failure State State) :=
  fun _ holds => ⟨holds, by simp⟩

/-- The second of two steps may use that its argument is what the first one yields. -/
theorem guards_bind_of_yields {step : EStateM Failure State Value}
    {next : Value → EStateM Failure State Result} (first : Guards invariant allowed step)
    (second : ∀ state value after, step state = .ok value after →
      Guards invariant allowed (next value)) : Guards invariant allowed (step >>= next) := by
  rw [guards_iff] at first ⊢
  constructor
  · intro state result after holds succeeds
    rcases bind_eq_ok.mp succeeds with ⟨value, mid, stepped, rest⟩
    have kept := first.1 _ _ _ holds stepped
    exact (guards_iff.mp (second _ _ _ stepped)).1 _ _ _ kept rest
  · intro state failure after holds fails
    rcases bind_eq_error.mp fails with stepFails | ⟨value, mid, stepped, rest⟩
    · exact first.2 _ _ _ holds stepFails
    · have kept := first.1 _ _ _ holds stepped
      exact (guards_iff.mp (second _ _ _ stepped)).2 _ _ _ kept rest

theorem guards_bind {step : EStateM Failure State Value}
    {next : Value → EStateM Failure State Result} (first : Guards invariant allowed step)
    (second : ∀ value, Guards invariant allowed (next value)) :
    Guards invariant allowed (step >>= next) :=
  guards_bind_of_yields first fun _ value _ _ => second value

theorem guards_forM {Item : Type u} {items : List Item}
    {step : Item → EStateM Failure State PUnit}
    (each : ∀ item ∈ items, Guards invariant allowed (step item)) :
    Guards invariant allowed (items.forM step) := by
  induction items with
  | nil => exact guards_pure _
  | cons item items hypothesis =>
      rw [List.forall_mem_cons] at each
      exact guards_bind each.1 fun _ => hypothesis each.2

end Steps

namespace Build

variable {α : Type} {graph after : Graph} {error : Error}

@[simp]
theorem ofResult_eq_ok {outcome : Except Error α} {value : α} :
    ofResult outcome graph = .ok value after ↔ outcome = .ok value ∧ after = graph := by
  cases outcome with
  | ok held => simp [ofResult, eq_comm]
  | error raised => simp [ofResult]

@[simp]
theorem ofResult_eq_error {outcome : Except Error α} :
    ofResult outcome graph = .error error after ↔ outcome = .error error ∧ after = graph := by
  cases outcome with
  | ok held => simp [ofResult]
  | error raised => simp [ofResult, eq_comm]

@[simp]
theorem fault_ne_ok {fault : ShapeFault} {value : α} :
    (Build.fault fault : Build α) graph ≠ .ok value after := by
  simp [Build.fault]

@[simp]
theorem fault_eq_error {fault : ShapeFault} :
    (Build.fault fault : Build α) graph = .error error after ↔
      error = .invalid fault ∧ after = graph := by
  simp [Build.fault]

@[simp]
theorem require_eq_ok {condition : Prop} [Decidable condition] {fault : ShapeFault} {value : Unit} :
    require condition fault graph = .ok value after ↔ condition ∧ after = graph := by
  unfold require
  split <;> simp [*]

@[simp]
theorem require_eq_error {condition : Prop} [Decidable condition] {fault : ShapeFault} :
    require condition fault graph = .error error after ↔
      ¬condition ∧ error = .invalid fault ∧ after = graph := by
  unfold require
  split <;> simp [*]

end Build

theorem except_bind_eq_ok {Failure : Type u} {Value Result : Type} {outcome : Except Failure Value}
    {next : Value → Except Failure Result} {result : Result} :
    (outcome >>= next) = .ok result ↔ ∃ value, outcome = .ok value ∧ next value = .ok result := by
  cases outcome with
  | ok value => simp [bind, Except.bind]
  | error raised => simp [bind, Except.bind]

section Mapping

variable {Input Output : Type} {step : Input → Option Output} {inputs others : List Input}
  {outputs otherOutputs : List Output}

theorem mapM_eq_some :
    inputs.mapM step = some outputs ↔
      List.Forall₂ (fun input output => step input = some output) inputs outputs := by
  induction inputs generalizing outputs with
  | nil => simp
  | cons input inputs hypothesis =>
      simp only [List.mapM_cons, Option.bind_eq_bind, Option.bind_eq_some_iff, Option.pure_def,
        hypothesis, Option.some.injEq, List.forall₂_cons_left_iff]
      constructor
      · rintro ⟨output, first, rest, others, rfl⟩
        exact ⟨output, rest, first, others, rfl⟩
      · rintro ⟨output, rest, first, others, rfl⟩
        exact ⟨output, first, rest, others, rfl⟩

theorem exists_mapM (each : ∀ input ∈ inputs, ∃ output, step input = some output) :
    ∃ outputs, inputs.mapM step = some outputs := by
  induction inputs with
  | nil => exact ⟨[], rfl⟩
  | cons input inputs hypothesis =>
      have ⟨output, first⟩ := each input (by simp)
      have ⟨others, rest⟩ := hypothesis fun other member => each other (by simp [member])
      exact ⟨output :: others, by simp [first, rest]⟩

theorem mapM_of_forall {convert : Input → Output}
    (each : ∀ input ∈ inputs, step input = some (convert input)) :
    inputs.mapM step = some (inputs.map convert) := by
  rw [mapM_eq_some, List.forall₂_map_right_iff, List.forall₂_same]
  exact each

theorem mapM_append_of_eq_some (first : inputs.mapM step = some outputs)
    (second : others.mapM step = some otherOutputs) :
    (inputs ++ others).mapM step = some (outputs ++ otherOutputs) := by
  simp only [List.mapM_append, first, second, Option.bind_eq_bind, Option.bind_some, Option.pure_def]

theorem exists_of_mem_mapM {output : Output} (succeeds : inputs.mapM step = some outputs)
    (member : output ∈ outputs) : ∃ input ∈ inputs, step input = some output := by
  rw [mapM_eq_some] at succeeds
  induction succeeds with
  | nil => cases member
  | cons first _ hypothesis =>
      rcases List.mem_cons.mp member with rfl | later
      · exact ⟨_, List.mem_cons_self, first⟩
      · rcases hypothesis later with ⟨input, listed, found⟩
        exact ⟨input, List.mem_cons_of_mem _ listed, found⟩

theorem except_mapM_of_forall {Failure : Type} {step : Input → Except Failure Output}
    {convert : Input → Output} (each : ∀ input ∈ inputs, step input = .ok (convert input)) :
    inputs.mapM step = .ok (inputs.map convert) := by
  induction inputs with
  | nil => rfl
  | cons input inputs hypothesis =>
      rw [List.forall_mem_cons] at each
      simp [List.mapM_cons, each.1, hypothesis each.2, bind, Except.bind, pure, Except.pure]

/-- Steps that all refuse for one reason are refused together as soon as one of them is. -/
theorem except_mapM_eq_ite {Failure : Type} {step : Input → Except Failure Output}
    {accepts : Input → Bool} {convert : Input → Output} {failure : Failure}
    (each : ∀ input ∈ inputs,
      step input = if accepts input then .ok (convert input) else .error failure) :
    inputs.mapM step =
      if inputs.all accepts then .ok (inputs.map convert) else .error failure := by
  induction inputs with
  | nil => rfl
  | cons input inputs hypothesis =>
      rw [List.forall_mem_cons] at each
      rw [List.mapM_cons, each.1, hypothesis each.2]
      by_cases first : accepts input
      · by_cases others : inputs.all accepts
        · simp [first, others, bind, Except.bind, pure, Except.pure]
        · simp [first, others, bind, Except.bind]
      · simp [first, bind, Except.bind]

end Mapping

@[simp]
theorem ofShapeResult_eq_ok {α : Type} {outcome : Except ShapeFault α} {value : α} :
    ofShapeResult outcome = .ok value ↔ outcome = .ok value := by
  cases outcome with
  | ok held => simp [ofShapeResult]
  | error fault => simp [ofShapeResult]

namespace Lower

variable {α : Type} {session after : Session} {error : Error}

@[simp]
theorem ofResult_eq_ok {outcome : Except Error α} {value : α} :
    ofResult outcome session = .ok value after ↔ outcome = .ok value ∧ after = session := by
  cases outcome with
  | ok held => simp [ofResult, eq_comm]
  | error raised => simp [ofResult]

@[simp]
theorem ofResult_eq_error {outcome : Except Error α} :
    ofResult outcome session = .error error after ↔ outcome = .error error ∧ after = session := by
  cases outcome with
  | ok held => simp [ofResult]
  | error raised => simp [ofResult, eq_comm]

@[simp]
theorem onGraph_eq_ok {build : Build α} {value : α} :
    onGraph build session = .ok value after ↔
      ∃ graph, build session.graph = .ok value graph ∧ after = { session with graph } := by
  unfold onGraph
  cases build session.graph with
  | ok held graph => simp [and_assoc, eq_comm]
  | error raised graph => simp

@[simp]
theorem onGraph_eq_error {build : Build α} :
    onGraph build session = .error error after ↔
      ∃ graph, build session.graph = .error error graph ∧ after = { session with graph } := by
  unfold onGraph
  cases build session.graph with
  | ok held graph => simp
  | error raised graph => simp [and_assoc, eq_comm]

@[simp]
theorem note_eq_ok {notice : Notice} {value : Unit} :
    note notice session = .ok value after ↔
      after = { session with notices := session.notices ++ [notice] } := by
  simp [note]

@[simp]
theorem note_ne_error {notice : Notice} : note notice session ≠ .error error after := by
  simp [note]

@[simp]
theorem shape_eq_ok {ref : Ref} {found : Shape} :
    shape ref session = .ok found after ↔
      found = session.graph.shapeOf ref ∧ after = session := by
  simp [shape, and_comm, eq_comm (a := found)]

@[simp]
theorem shape_ne_error {ref : Ref} : shape ref session ≠ .error error after := by
  simp [shape]

@[simp]
theorem tensor_eq_ok {name : Label} {found : Tensor} :
    tensor name session = .ok found after ↔
      session.tensors.get name = .ok found ∧ after = session := by
  simp [tensor, and_comm]

@[simp]
theorem tensor_eq_error {name : Label} :
    tensor name session = .error error after ↔
      session.tensors.get name = .error error ∧ after = session := by
  simp [tensor, and_comm]

/-! ### A primitive step followed by others -/

section Binds

variable {β : Type} {next : α → Lower β} {result : β}

theorem ofResult_bind_eq_ok {outcome : Except Error α} :
    (ofResult outcome >>= next) session = .ok result after ↔
      ∃ value, outcome = .ok value ∧ next value session = .ok result after := by
  simp [and_assoc]

theorem onGraph_bind_eq_ok {build : Build α} :
    (onGraph build >>= next) session = .ok result after ↔
      ∃ value graph, build session.graph = .ok value graph ∧
        next value { session with graph } = .ok result after := by
  simp only [Steps.bind_eq_ok, onGraph_eq_ok]
  constructor
  · rintro ⟨value, _, ⟨graph, built, rfl⟩, rest⟩
    exact ⟨value, graph, built, rest⟩
  · rintro ⟨value, graph, built, rest⟩
    exact ⟨value, _, ⟨graph, built, rfl⟩, rest⟩

@[simp]
theorem shape_bind {ref : Ref} {next : Shape → Lower β} :
    (shape ref >>= next) session = next (session.graph.shapeOf ref) session := rfl

end Binds

end Lower

end NetImport
