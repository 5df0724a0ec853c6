import NetImport.Proofs.Lowering.Session

/-!
# Outcomes of operators and networks

When an operator, a network and the saving of a result succeed or fail, in terms of the rule of the
operator, of the operators of the network, and of the names published before.
-/

namespace NetImport

namespace Lower

open Descriptor

variable {α : Type} {setting : Setting} {operator : Operator} {session after : Session}
  {error : Error} {ref : Ref}

/-! ## Operators -/

@[simp]
theorem publishAll_eq_ok {names : List Label} {value : Unit} :
    publishAll ref names session = .ok value after ↔
      after = { session with names := session.names.bindAll names ref } := by
  simp [publishAll]

@[simp]
theorem publishAll_ne_error {names : List Label} :
    publishAll ref names session ≠ .error error after := by
  simp [publishAll]

theorem atomically_eq_ok {step : Lower α} {value : α} :
    atomically step session = .ok value after ↔ step session = .ok value after := by
  simp [atomically]

/-- A step that fails atomically has failed, and what lay behind the former lengths is cut off. -/
theorem atomically_eq_error {step : Lower α} :
    atomically step session = .error error after ↔
      ∃ mid, step session = .error error mid ∧
        after =
          { mid with
            graph :=
              { mid.graph with
                vars := mid.graph.vars.take session.graph.vars.length
                nodes := mid.graph.nodes.take session.graph.nodes.length }
            names := mid.names.truncate session.names.size } := by
  simp only [atomically, Steps.get_bind, Steps.tryCatch_eq_error, Steps.bind_eq_error,
    Steps.modify_ne_error, Steps.modify_eq_ok, Steps.throw_eq_error, false_or]
  constructor
  · rintro ⟨_, mid, fails, _, _, rfl, rfl, rfl⟩
    exact ⟨mid, fails, rfl⟩
  · rintro ⟨mid, fails, rfl⟩
    exact ⟨error, mid, fails, (), _, rfl, rfl, rfl⟩

/-- An operator is lowered by the rule of its kind, and its result is published and reported. -/
theorem lowerOperator_eq_ok :
    lowerOperator setting operator session = .ok ref after ↔
      ∃ kind mid, OperatorKind.ofLabel? operator.type = some kind ∧
        rule setting operator (Arguments.ofList kind.type operator.arguments) kind session =
          .ok ref mid ∧
        after =
          { mid with
            names := mid.names.bindAll operator.outputs ref
            notices :=
              mid.notices ++ [.lowered kind.type operator.title (mid.graph.shapeOf ref)] } := by
  unfold lowerOperator
  cases OperatorKind.ofLabel? operator.type with
  | none => simp
  | some kind =>
      simp only [Steps.bind_eq_ok, atomically_eq_ok, publishAll_eq_ok, shape_eq_ok, note_eq_ok,
        Steps.pure_eq_ok, Option.some.injEq]
      constructor
      · rintro ⟨result, mid, lowered, _, _, rfl, _, _, ⟨rfl, rfl⟩, _, _, rfl, rfl, rfl⟩
        exact ⟨kind, mid, rfl, lowered, rfl⟩
      · rintro ⟨_, mid, rfl, lowered, rfl⟩
        exact ⟨ref, mid, lowered, (), _, rfl, _, _, ⟨rfl, rfl⟩, (), _, rfl, rfl, rfl⟩

/-- An operator fails because there is no rule for its type, or because its rule fails. -/
theorem lowerOperator_eq_error :
    lowerOperator setting operator session = .error error after ↔
      (OperatorKind.ofLabel? operator.type = none ∧
        error = .unsupportedOperator operator.type (operator.source.toText .operator) ∧
        after =
          { session with
            notices :=
              session.notices ++ [.unsupportedOperator (operator.source.toText .operator)] }) ∨
      ∃ kind, OperatorKind.ofLabel? operator.type = some kind ∧
        atomically (rule setting operator (Arguments.ofList kind.type operator.arguments) kind)
          session = .error error after := by
  unfold lowerOperator
  cases OperatorKind.ofLabel? operator.type with
  | none => simp
  | some kind => simp

/-! ## Networks -/

/-- Lowers operators in order. -/
def lowerAll (setting : Setting) (operators : List Operator) : Lower Unit :=
  operators.forM fun operator => do let _ ← lowerOperator setting operator

theorem lowerNetwork_eq_lowerAll {network : Network} :
    lowerNetwork setting network = lowerAll setting network.operators := rfl

@[simp]
theorem lowerAll_nil_eq_ok {value : Unit} :
    lowerAll setting [] session = .ok value after ↔ after = session := by
  simp [lowerAll]

theorem lowerAll_nil_ne_error : lowerAll setting [] session ≠ .error error after := by
  simp [lowerAll]

@[simp]
theorem lowerAll_cons_eq_ok {operators : List Operator} {value : Unit} :
    lowerAll setting (operator :: operators) session = .ok value after ↔
      ∃ ref mid, lowerOperator setting operator session = .ok ref mid ∧
        lowerAll setting operators mid = .ok () after := by
  simp [lowerAll]

theorem lowerAll_cons_eq_error {operators : List Operator} :
    lowerAll setting (operator :: operators) session = .error error after ↔
      lowerOperator setting operator session = .error error after ∨
        ∃ ref mid, lowerOperator setting operator session = .ok ref mid ∧
          lowerAll setting operators mid = .error error after := by
  simp [lowerAll]

/-- Lowering stops at the first operator that fails, having lowered the operators before it. -/
theorem lowerAll_eq_error {operators : List Operator} :
    lowerAll setting operators session = .error error after ↔
      ∃ done operator rest mid, operators = done ++ operator :: rest ∧
        lowerAll setting done session = .ok () mid ∧
        lowerOperator setting operator mid = .error error after := by
  induction operators generalizing session with
  | nil => simp [lowerAll_nil_ne_error]
  | cons first operators hypothesis =>
      rw [lowerAll_cons_eq_error]
      constructor
      · rintro (firstFails | ⟨ref, next, lowered, restFails⟩)
        · exact ⟨[], first, operators, session, rfl, by simp, firstFails⟩
        · rcases hypothesis.mp restFails with ⟨done, operator, rest, mid, rfl, before, fails⟩
          exact ⟨first :: done, operator, rest, mid, rfl,
            lowerAll_cons_eq_ok.mpr ⟨ref, next, lowered, before⟩, fails⟩
      · rintro ⟨done, operator, rest, mid, split, before, fails⟩
        cases done with
        | nil =>
            rcases split with ⟨⟩
            rw [lowerAll_nil_eq_ok] at before
            subst mid
            exact .inl fails
        | cons head done =>
            rcases split with ⟨⟩
            rcases lowerAll_cons_eq_ok.mp before with ⟨ref, next, lowered, before⟩
            exact .inr ⟨ref, next, lowered,
              hypothesis.mpr ⟨done, operator, rest, mid, rfl, before, fails⟩⟩

/-! ## Saving -/

@[simp]
theorem published_eq_ok {name : Label} :
    published name session = .ok ref after ↔
      session.names.get? name = some ref ∧ after = session := by
  simp only [published, Steps.get_bind]
  cases session.names.get? name with
  | none => simp
  | some held => simp [eq_comm]

/-- Saving appends a variable that the caller sees and a node that saves the first result. -/
theorem finalize_eq_ok {externalOutputs : List Label} :
    finalize setting externalOutputs session = .ok ref after ↔
      ∃ name others result zeros, externalOutputs = name :: others ∧
        session.names.get? name = some result ∧
        Tensor.filled (session.graph.shapeOf result) .zero = .ok zeros ∧
        ref = .node session.graph.nodes.length ∧
        after =
          { session with
            graph :=
              (session.graph.withVar
                ⟨Label.part "output" ".var", .external, .none, zeros⟩).withNode
                ⟨setting.function, "output", .save session.graph.vars.length, [result],
                  session.graph.shapeOf result⟩
            notices :=
              if others = [] then session.notices
              else session.notices ++ [.extraOutputs externalOutputs.length name] } := by
  cases externalOutputs with
  | nil => simp [finalize]
  | cons name others =>
      by_cases single : others = []
      · simp [finalize, single, and_assoc]
      · simp [finalize, single, and_assoc]

@[simp]
theorem published_eq_error {name : Label} :
    published name session = .error error after ↔
      session.names.get? name = none ∧ error = .unknownNode name ∧ after = session := by
  simp only [published, Steps.get_bind]
  cases session.names.get? name with
  | none => simp
  | some held => simp

theorem savePublished_restores {name : Label}
    (fails : (published name >>= fun result =>
      onGraph (Graph.createSave setting.function "output" result)) session = .error error after) :
    after = session := by
  rcases Steps.bind_eq_error.mp fails with missing | ⟨result, mid, found, saveFails⟩
  · exact (published_eq_error.mp missing).2.2
  · rcases published_eq_ok.mp found with ⟨_, rfl⟩
    rcases onGraph_eq_error.mp saveFails with ⟨graph, refused, rfl⟩
    rw [Graph.createSave_allOrNothing _ _ _ refused]

/-- If the result cannot be saved, nothing has happened but that a notice may have been given. -/
theorem finalize_restores {externalOutputs : List Label}
    (fails : finalize setting externalOutputs session = .error error after) :
    after = { session with notices := after.notices } := by
  cases externalOutputs with
  | nil =>
      rcases Steps.throw_eq_error.mp fails with ⟨_, rfl⟩
      rfl
  | cons name others =>
      by_cases single : others = []
      · simp only [finalize, single] at fails
        rw [savePublished_restores fails]
      · have noted : finalize setting (name :: others) =
            (note (.extraOutputs (name :: others).length name) >>= fun _ => published name >>=
              fun result => onGraph (Graph.createSave setting.function "output" result)) := by
          simp [finalize, single]
        rw [noted] at fails
        rcases Steps.bind_eq_error.mp fails with noteFails | ⟨_, mid, given, saveFails⟩
        · exact absurd noteFails note_ne_error
        · rcases note_eq_ok.mp given with rfl
          rw [savePublished_restores saveFails]

end Lower

/-! ## A small network -/

namespace Sample

open Descriptor

def setting : Setting := ⟨0, Setting.defaultLabels⟩

def pair : Tensor := ⟨[1, 2], #[.one, .one], by decide, rfl⟩

def triple : Tensor := ⟨[3], #[.one, .one, .one], by decide, rfl⟩

/-- An input `x` and two stored weights, of which only `w` has the shape of the input. -/
def session : Session where
  graph := ⟨[⟨"x", .external, .none, pair⟩], [], ["main"]⟩
  names := ⟨[("x", .var 0)]⟩
  tensors := ⟨#[pair, triple], ⟨[("w", 0), ("v", 1)]⟩⟩
  notices := []

theorem published_session {name : Label} {ref : Ref}
    (published : session.names.get? name = some ref) : name = "x" ∧ ref = .var 0 := by
  simp only [session, Registry.get?, List.lookup_cons] at published
  split at published
  · rename_i same
    exact ⟨beq_iff_eq.mp same, (Option.some.inj published).symm⟩
  · simp at published

/-- Rectifies the input in place. -/
def rectify : Operator := ⟨"Relu", "", ["x"], ["x"], [], .done []⟩

/-- Adds a weight to the input. -/
def total : Operator := ⟨"Sum", "", ["x", "w"], ["y", "z"], [], .done []⟩

/-- Adds a weight of another shape to the double of the input. -/
def clash : Operator := ⟨"Sum", "", ["x", "x", "v"], ["y"], [], .done []⟩

/-- Saves what the input and a weight add up to, and nothing else. -/
def network : Network := ⟨[rectify, total], ["z"]⟩

def lowered : Session := Steps.stateOf (Lower.lowerNetwork setting network session)

def saved : Session := Steps.stateOf (Lower.finalize setting network.externalOutputs lowered)

end Sample

end NetImport
