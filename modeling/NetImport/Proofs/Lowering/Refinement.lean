import NetImport.Proofs.Lowering.Interpretation

/-!
# Lowering preserves meaning

A network means what its operators compute one after the other over an environment, in which every
operator binds its result to all its outputs and a name without a binding stands for the stored
tensor of that name. A session simulates an environment when every published name denotes in the
graph what it reads as in the environment. Promotions do not touch the environment, since a promoted
tensor is what the name stood for already; operators extend both sides alike.
-/

namespace NetImport

open Descriptor

variable {Value : Type}

/-- What names are bound to while a network is run. -/
abbrev Environment (Value : Type) := Label → Option (Sense Value)

namespace Environment

/-- What a name is bound to, or else the stored tensor of that name. -/
def read (meaning : Meaning Value) (tensors : TensorStore) (environment : Environment Value)
    (name : Label) : Except Error (Sense Value) :=
  match environment name with
  | some sense => .ok sense
  | none => (tensors.get name).map meaning.stored

/-- Binds several names to one sense. -/
def bindAll (environment : Environment Value) (names : List Label)
    (sense : Sense Value) : Environment Value :=
  fun name => if name ∈ names then some sense else environment name

end Environment

namespace Meaning

variable (meaning : Meaning Value) (setting : Setting)

/-- Runs an operator: reads its inputs, computes its result and binds its outputs. -/
def runOperator (tensors : TensorStore) (environment : Environment Value) (operator : Operator) :
    Except Error (Environment Value) := do
  match OperatorKind.ofLabel? operator.type with
  | none => .error (.unsupportedOperator operator.type (operator.source.toText .operator))
  | some kind =>
    let inputs ← (kind.activations setting operator).mapM (environment.read meaning tensors)
    let result ← meaning.compute tensors operator (Arguments.ofList kind.type operator.arguments)
      kind inputs
    return environment.bindAll operator.outputs result

/-- Runs operators in order. -/
def runAll (tensors : TensorStore) (environment : Environment Value) (operators : List Operator) :
    Except Error (Environment Value) :=
  operators.foldlM (meaning.runOperator setting tensors) environment

/-- The environment in which published names are bound to what they denote in the graph. -/
def environmentOf (session : Session) : Environment Value :=
  fun name => (session.names.get? name).bind (session.graph.sense? meaning)

/-- What the first declared result of a network is bound to after its operators have been run. -/
def runNetwork (session : Session) (network : Network) : Except Error (Sense Value) := do
  match network.externalOutputs with
  | [] => .error .noExternalOutput
  | name :: _ =>
    let final ←
      meaning.runAll setting session.tensors (meaning.environmentOf session) network.operators
    final.read meaning session.tensors name

end Meaning

/-- Published names denote what they read as; only published names have bindings. -/
structure Session.Simulates (meaning : Meaning Value) (session : Session)
    (environment : Environment Value) : Prop where
  published : ∀ name ref, session.names.get? name = some ref → ∃ sense,
    environment.read meaning session.tensors name = .ok sense ∧
      session.graph.Denotes meaning ref sense
  unpublished : ∀ name, session.names.get? name = none → environment name = none

variable {meaning : Meaning Value} {session after : Session} {environment : Environment Value}

theorem Session.simulates_environmentOf
    (belongs : ∀ name ref, session.names.get? name = some ref → session.graph.Belongs ref) :
    session.Simulates meaning (meaning.environmentOf session) := by
  constructor
  · intro name ref published
    have ⟨sense, denotes⟩ := (belongs name ref published).denotes meaning
    have bound : meaning.environmentOf session name = some sense := by
      rw [Meaning.environmentOf, published]
      exact denotes
    exact ⟨sense, by simp only [Environment.read, bound], denotes⟩
  · intro name unpublished
    rw [Meaning.environmentOf, unpublished]
    rfl

theorem Session.Simulates.valid (simulates : session.Simulates meaning environment) :
    session.Valid := by
  intro name ref published
  have ⟨_, _, denotes⟩ := simulates.published name ref published
  exact denotes.holds

/-- A promoted tensor is what its name stood for already. -/
theorem Session.simulates_promote {name : Label} {payload : Tensor}
    (simulates : session.Simulates meaning environment)
    (unpublished : session.names.get? name = none)
    (stored : session.tensors.get name = .ok payload) :
    environment.read meaning session.tensors name = .ok (meaning.stored payload) ∧
      (session.promote name payload).Simulates meaning environment := by
  have reads : environment.read meaning session.tensors name = .ok (meaning.stored payload) := by
    simp only [Environment.read, simulates.unpublished name unpublished, stored, Except.map]
  refine ⟨reads, ?_, ?_⟩
  · intro other ref published
    rcases Registry.get?_bind_eq_some.mp published with ⟨rfl, rfl⟩ | ⟨_, older⟩
    · exact ⟨meaning.stored payload, reads, Graph.denotes_withVar rfl⟩
    · rcases simulates.published other ref older with ⟨sense, otherReads, denotes⟩
      exact ⟨sense, otherReads, denotes.withVar⟩
  · intro other absent
    exact simulates.unpublished other (Registry.get?_bind_eq_none.mp absent).2

/-- Names may be bound on both sides, to a reference and to what it denotes. -/
theorem Session.Simulates.bindAll {graph : Graph} {ref : Ref} {sense : Sense Value}
    (simulates : session.Simulates meaning environment) (names : List Label)
    (notices : List Notice) (grows : session.graph.GrowsTo graph)
    (denotes : graph.Denotes meaning ref sense) :
    Session.Simulates meaning ⟨graph, session.names.bindAll names ref, session.tensors, notices⟩
      (environment.bindAll names sense) := by
  constructor
  · intro name other published
    simp only [Environment.read, Environment.bindAll]
    rcases Registry.get?_bindAll_eq_some.mp published with ⟨output, rfl⟩ | ⟨notOutput, older⟩
    · exact ⟨sense, by rw [if_pos output], denotes⟩
    · rcases simulates.published name other older with ⟨held, reads, heldDenotes⟩
      refine ⟨held, ?_, heldDenotes.grows grows⟩
      rw [if_neg notOutput]
      exact reads
  · intro name absent
    have ⟨notOutput, unpublished⟩ := Registry.get?_bindAll_eq_none.mp absent
    simp only [Environment.bindAll, if_neg notOutput]
    exact simulates.unpublished name unpublished

namespace Lower

variable {setting : Setting} {operator : Operator} {name : Label} {ref : Ref}

/-- What a name resolves to denotes what the name reads as. -/
theorem resolve_denotes (simulates : session.Simulates meaning environment)
    (resolved : resolve name session = .ok ref after) :
    ∃ sense, environment.read meaning session.tensors name = .ok sense ∧
      after.graph.Denotes meaning ref sense ∧ after.Simulates meaning environment := by
  rcases resolve_eq_ok.mp resolved with ⟨published, rfl⟩ | ⟨unpublished, payload, stored, rfl, rfl⟩
  · have ⟨sense, reads, denotes⟩ := simulates.published name ref published
    exact ⟨sense, reads, denotes, simulates⟩
  · have ⟨reads, promoted⟩ := Session.simulates_promote simulates unpublished stored
    exact ⟨_, reads, Graph.denotes_withVar rfl, promoted⟩

theorem readAll_of_forall₂ {tensors : TensorStore} {graph : Graph} {names : List Label}
    {refs : List Ref}
    (each : List.Forall₂ (fun name ref => ∃ sense,
      environment.read meaning tensors name = .ok sense ∧ graph.Denotes meaning ref sense)
      names refs) :
    ∃ senses, names.mapM (environment.read meaning tensors) = .ok senses ∧
      List.Forall₂ (graph.Denotes meaning) refs senses := by
  induction each with
  | nil => exact ⟨[], rfl, .nil⟩
  | @cons name ref names refs first _ hypothesis =>
      have ⟨sense, reads, denotes⟩ := first
      have ⟨senses, restReads, restDenote⟩ := hypothesis
      refine ⟨sense :: senses, ?_, .cons denotes restDenote⟩
      simp only [List.mapM_cons, reads, restReads]
      rfl

/-- What names resolve to denotes what the names read as. -/
theorem resolveAll_denotes {names : List Label} {refs : List Ref}
    (simulates : session.Simulates meaning environment)
    (resolved : resolveAll names session = .ok refs after) :
    ∃ senses, names.mapM (environment.read meaning session.tensors) = .ok senses ∧
      List.Forall₂ (after.graph.Denotes meaning) refs senses ∧
      after.Simulates meaning environment ∧ after.tensors = session.tensors := by
  let Invariant (mid : Session) : Prop :=
    mid.Simulates meaning environment ∧ mid.tensors = session.tensors
  let Relates (mid : Session) (name : Label) (ref : Ref) : Prop :=
    ∃ sense, environment.read meaning session.tensors name = .ok sense ∧
      mid.graph.Denotes meaning ref sense
  have step : ∀ mid name ref next, Invariant mid → resolve name mid = .ok ref next →
      Invariant next ∧ Relates next name ref := by
    rintro mid name ref next ⟨midSimulates, same⟩ one
    have ⟨sense, reads, denotes, nextSimulates⟩ := resolve_denotes midSimulates one
    exact ⟨⟨nextSimulates, (resolve_growsTo one).tensors.trans same⟩, sense, same ▸ reads, denotes⟩
  have stable : ∀ mid next name ref, mid.GrowsTo next → Relates mid name ref →
      Relates next name ref := by
    rintro mid next name ref grown ⟨sense, reads, denotes⟩
    exact ⟨sense, reads, denotes.grows grown.graph⟩
  have ⟨⟨afterSimulates, same⟩, each⟩ := resolveAll_induction step stable ⟨simulates, rfl⟩ resolved
  have ⟨senses, reads, denote⟩ := readAll_of_forall₂ each
  exact ⟨senses, reads, denote, afterSimulates, same⟩

/-- An operator that is lowered binds in the environment what it publishes in the session. -/
theorem lowerOperator_simulates (simulates : session.Simulates meaning environment)
    (lowered : lowerOperator setting operator session = .ok ref after) :
    ∃ next, meaning.runOperator setting session.tensors environment operator = .ok next ∧
      after.Simulates meaning next ∧ after.tensors = session.tensors := by
  rcases lowerOperator_eq_ok.mp lowered with ⟨kind, _, known, ruleSucceeds, rfl⟩
  rcases rule_lowered simulates.valid ruleSucceeds with ⟨resolved, emits, rfl⟩
  rcases resolveAll_denotes simulates resolved with
    ⟨senses, reads, inputsDenote, midSimulates, tensors⟩
  rcases emits_denotes emits inputsDenote with ⟨sense, computes, denotes⟩
  rw [tensors] at computes
  refine ⟨environment.bindAll operator.outputs sense, ?_, ?_, tensors⟩
  · simp only [Meaning.runOperator, known, reads, computes, bind, Except.bind]
    rfl
  · exact midSimulates.bindAll operator.outputs _ (emits_grows emits) denotes

theorem lowerAll_simulates {operators : List Operator}
    (simulates : session.Simulates meaning environment)
    (lowered : lowerAll setting operators session = .ok () after) :
    ∃ final, meaning.runAll setting session.tensors environment operators = .ok final ∧
      after.Simulates meaning final ∧ after.tensors = session.tensors := by
  induction operators generalizing session environment with
  | nil =>
      rcases lowerAll_nil_eq_ok.mp lowered with rfl
      exact ⟨environment, rfl, simulates, rfl⟩
  | cons operator operators hypothesis =>
      rcases lowerAll_cons_eq_ok.mp lowered with ⟨ref, mid, one, rest⟩
      have ⟨next, runs, midSimulates, same⟩ := lowerOperator_simulates simulates one
      have ⟨final, restRuns, afterSimulates, tensors⟩ := hypothesis midSimulates rest
      refine ⟨final, ?_, afterSimulates, tensors.trans same⟩
      rw [same] at restRuns
      simp only [Meaning.runAll, List.foldlM_cons, runs, bind, Except.bind]
      exact restRuns

/--
Whatever the parts of a graph mean, if a network is lowered and saved, then the operand of the node
that saves denotes what running the operators binds the first declared result of the network to.
-/
theorem lowering_preserves_meaning (meaning : Meaning Value) (setting : Setting)
    (network : Network) (session after saved : Session) (root : Ref)
    (belongs : ∀ name ref, session.names.get? name = some ref → session.graph.Belongs ref)
    (lowered : lowerNetwork setting network session = .ok () after)
    (finalized : finalize setting network.externalOutputs after = .ok root saved) :
    ∃ result sense, saved.graph.kindOf root = .save ∧ saved.graph.operandsOf root = [result] ∧
      meaning.runNetwork setting session network = .ok sense ∧
      saved.graph.sense? meaning result = some sense := by
  have initial : session.Simulates meaning (meaning.environmentOf session) :=
    Session.simulates_environmentOf belongs
  have ⟨final, runs, simulates, tensors⟩ := lowerAll_simulates initial lowered
  rcases finalize_eq_ok.mp finalized with
    ⟨name, others, result, zeros, declared, published, _, rfl, rfl⟩
  have ⟨sense, reads, denotes⟩ := simulates.published name result published
  refine ⟨result, sense, ?_, Graph.operandsOf_withNode_new, ?_, ?_⟩
  · simp [Graph.kindOf, Operation.kind]
  · rw [tensors] at reads
    simp only [Meaning.runNetwork, declared, runs, bind, Except.bind]
    exact reads
  · exact denotes.withVar.grows (Graph.growsTo_withNode _ _)

/-- Everything means the kinds of what it is computed from, in prefix order. -/
def kindsInPrefixOrder : Meaning (List NodeKind) where
  held _ := [.var]
  given _ := [.var]
  apply operation values _ := operation.kind :: values.flatten

theorem lowering_preserves_meaning_sample :
    lowerNetwork Sample.setting Sample.network Sample.session = .ok () Sample.lowered ∧
      finalize Sample.setting ["z"] Sample.lowered = .ok (.node 2) Sample.saved ∧
      ∃ result sense, Sample.saved.graph.kindOf (.node 2) = .save ∧
        Sample.saved.graph.operandsOf (.node 2) = [result] ∧
        kindsInPrefixOrder.runNetwork Sample.setting Sample.session Sample.network =
          .ok sense ∧
        Sample.saved.graph.sense? kindsInPrefixOrder result = some sense ∧
        sense.value = [.add, .relu, .var, .var] := by
  have belongs : ∀ name ref, Sample.session.names.get? name = some ref →
      Sample.session.graph.Belongs ref := by
    intro name ref published
    rcases Sample.published_session published with ⟨_, rfl⟩
    exact .var Nat.zero_lt_one
  have lowered : lowerNetwork Sample.setting Sample.network Sample.session =
      .ok () Sample.lowered := rfl
  have finalized : finalize Sample.setting Sample.network.externalOutputs Sample.lowered =
      .ok (.node 2) Sample.saved := rfl
  have ⟨result, sense, saves, operands, runs, denotes⟩ :=
    lowering_preserves_meaning kindsInPrefixOrder Sample.setting Sample.network Sample.session
      Sample.lowered Sample.saved (.node 2) belongs lowered finalized
  have computed : kindsInPrefixOrder.runNetwork Sample.setting Sample.session Sample.network =
      .ok ⟨[.add, .relu, .var, .var], [1, 2]⟩ := rfl
  rcases Except.ok.inj (runs.symm.trans computed) with rfl
  exact ⟨lowered, finalized, result, _, saves, operands, runs, denotes, rfl⟩

end Lower

end NetImport
