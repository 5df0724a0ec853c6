import NetImport.Proofs.Lowering.Soundness
import NetImport.Proofs.Tensor

/-!
# Parameters of operators

Convolutions, fully connected layers and batch normalisations copy stored tensors into variables of
their own. They look a weight up among the stored tensors and nowhere else, while an input that is
computed is looked up among the published names. A name can be on both sides. The two agree about it
as long as it has only been promoted: what is published is then a variable that holds the stored
tensor. They may differ once an operator has bound the name to its result; then the stored tensor is
copied all the same.
-/

namespace NetImport

open Descriptor

namespace OperatorKind

/-- The input slots whose tensors an operator copies. -/
def weightSlots : OperatorKind → List Nat
  | conv | fc => [1, 2]
  | spatialBN => [1, 2, 3, 4]
  | _ => []

/-- How an operator arranges the axes of the tensor of a slot that it copies. -/
def arrange : OperatorKind → Nat → Tensor → Except Error Tensor
  | conv, 1, stored => stored.transpose Lower.filterChannelsLast
  | fc, 1, stored => stored.transpose [1, 0]
  | _, _, stored => .ok stored

end OperatorKind

namespace Graph

/-- The node that has the parameters of an operator; that of a convolution lies behind its result. -/
def parameterized (graph : Graph) (kind : OperatorKind) (result : Ref) : Ref :=
  if kind = .conv then (graph.operandsOf result).headD result else result

/-- The variable into which an operator has copied the tensor of a slot. -/
def parameter? (graph : Graph) (kind : OperatorKind) (result : Ref) (slot : Nat) :
    Option Variable :=
  match (graph.operandsOf (graph.parameterized kind result))[slot]? with
  | some (.var index) => graph.vars[index]?
  | _ => none

end Graph

namespace Session

/-- A name that is published at all is that of a variable with the stored tensor of the name. -/
def Agrees (session : Session) (name : Label) : Prop :=
  ∀ ref, session.names.get? name = some ref → ∃ index owned, ref = .var index ∧
    session.graph.vars[index]? = some owned ∧ session.tensors.get name = .ok owned.payload

/-- The names that a call binds to the result of an operator. -/
def resultNames (setting : Setting) (session : Session) : Call → List Label
  | .lower operator =>
    match Lower.lowerOperator setting operator session with
    | .ok _ _ => operator.outputs
    | .error _ _ => []
  | _ => []

/-- The names that calls bind to results of operators. -/
def allResultNames (setting : Setting) : Session → List Call → List Label
  | _, [] => []
  | session, call :: calls =>
    session.resultNames setting call ++ allResultNames setting (call.perform setting session) calls

variable {setting : Setting} {session after base : Session} {name : Label} {graph : Graph}

theorem Agrees.grows (agrees : session.Agrees name) (grows : session.graph.GrowsTo graph)
    (notices : List Notice) :
    Session.Agrees ⟨graph, session.names, session.tensors, notices⟩ name := by
  intro ref published
  rcases agrees ref published with ⟨index, owned, rfl, held, stored⟩
  have inside := (List.getElem?_eq_some_iff.mp held).1
  exact ⟨index, owned, rfl, (grows.var_get inside).trans held, stored⟩

theorem agrees_promote {other : Label} {payload : Tensor} (agrees : session.Agrees name)
    (stored : session.tensors.get other = .ok payload) :
    (session.promote other payload).Agrees name := by
  intro ref published
  rcases Registry.get?_bind_eq_some.mp published with ⟨rfl, rfl⟩ | ⟨_, older⟩
  · exact ⟨_, _, rfl, List.getElem?_concat_length, stored⟩
  · exact agrees.grows (Graph.growsTo_withVar _ _) session.notices ref older

/-- Names may be bound to anything as long as the name in question is not among them. -/
theorem Agrees.bindAll {names : List Label} {ref : Ref} (agrees : session.Agrees name)
    (other : name ∉ names) :
    Session.Agrees { session with names := session.names.bindAll names ref } name := by
  intro found published
  rcases Registry.get?_bindAll_eq_some.mp published with ⟨member, _⟩ | ⟨_, older⟩
  · exact absurd member other
  · exact agrees found older

end Session

namespace Lower

variable {setting : Setting} {operator : Operator} {session after : Session} {name : Label}
  {ref : Ref}

theorem resolve_agrees {other : Label} (agrees : session.Agrees name)
    (resolved : resolve other session = .ok ref after) : after.Agrees name := by
  rcases resolve_eq_ok.mp resolved with ⟨_, rfl⟩ | ⟨_, payload, stored, _, rfl⟩
  · exact agrees
  · exact Session.agrees_promote agrees stored

theorem resolveAll_agrees {names : List Label} {refs : List Ref} (agrees : session.Agrees name)
    (resolved : resolveAll names session = .ok refs after) : after.Agrees name := by
  have step : ∀ mid other ref next, Session.Agrees mid name → resolve other mid = .ok ref next →
      Session.Agrees next name ∧ True :=
    fun _ _ _ _ midAgrees one => ⟨resolve_agrees midAgrees one, trivial⟩
  exact (resolveAll_induction step (fun _ _ _ _ _ related => related) agrees resolved).1

/-- An operator that is lowered only touches what names agree about by binding its outputs. -/
theorem lowerOperator_agrees (linked : session.Linked setting.function)
    (agrees : session.Agrees name) (other : name ∉ operator.outputs)
    (lowered : lowerOperator setting operator session = .ok ref after) : after.Agrees name := by
  rcases lowerOperator_eq_ok.mp lowered with ⟨kind, _, _, ruleSucceeds, rfl⟩
  rcases rule_lowered linked.valid ruleSucceeds with ⟨resolved, emits, rfl⟩
  have midAgrees := resolveAll_agrees agrees resolved
  exact (midAgrees.grows (emits_grows emits) _).bindAll other

theorem finalize_agrees {externalOutputs : List Label} (agrees : session.Agrees name)
    (saved : finalize setting externalOutputs session = .ok ref after) : after.Agrees name := by
  rcases finalize_eq_ok.mp saved with ⟨_, _, result, zeros, _, _, _, _, rfl⟩
  have grows : session.graph.GrowsTo ((session.graph.withVar
      ⟨Label.part "output" ".var", .external, .none, zeros⟩).withNode
      ⟨setting.function, "output", .save session.graph.vars.length, [result],
        session.graph.shapeOf result⟩) :=
    session.graph.growsTo_refl.withVar.withNode
  exact agrees.grows grows _

end Lower

/-! ## Along calls -/

namespace Session

variable {setting : Setting} {session after : Session} {name : Label}

theorem Agrees.withNotices (agrees : session.Agrees name)
    (same : after = { session with notices := after.notices }) : after.Agrees name := by
  rw [same]
  exact agrees.grows session.graph.growsTo_refl after.notices

theorem Agrees.perform (linked : session.Linked setting.function) (agrees : session.Agrees name)
    (call : Call) (other : name ∉ session.resultNames setting call) :
    (call.perform setting session).Agrees name := by
  cases call with
  | resolve resolved =>
      simp only [Call.perform]
      cases outcome : Lower.resolve resolved session with
      | ok ref after => exact Lower.resolve_agrees agrees outcome
      | error error after =>
          rcases Lower.resolve_eq_error.mp outcome with ⟨_, _, rfl⟩
          exact agrees
  | lower operator =>
      simp only [resultNames] at other
      simp only [Call.perform]
      cases outcome : Lower.lowerOperator setting operator session with
      | ok ref after =>
          rw [outcome] at other
          exact Lower.lowerOperator_agrees linked agrees other outcome
      | error error after => exact agrees.withNotices (Lower.lowerOperator_restores outcome)
  | finalize externalOutputs =>
      simp only [Call.perform]
      cases outcome : Lower.finalize setting externalOutputs session with
      | ok ref after => exact Lower.finalize_agrees agrees outcome
      | error error after => exact agrees.withNotices (Lower.finalize_restores outcome)

/-- Both sides go on agreeing about a name that calls bind to no result. -/
theorem Agrees.performAll {calls : List Call} (linked : session.Linked setting.function)
    (agrees : session.Agrees name) (other : name ∉ session.allResultNames setting calls) :
    (session.performAll setting calls).Agrees name := by
  induction calls generalizing session with
  | nil => exact agrees
  | cons call calls hypothesis =>
      simp only [allResultNames, List.mem_append, not_or] at other
      have next := agrees.perform linked call other.1
      exact hypothesis (call.perform_builds linked).linked next other.2

end Session

/-! ## What operators copy -/

/-- What an operator copies for a slot: an arranged stored tensor, or the zeros of a bias. -/
inductive OperatorKind.Copies (kind : OperatorKind) (slot : Nat) (tensors : TensorStore)
    (name : Label) (payload : Tensor) : Prop where
  | stored {stored : Tensor} (found : tensors.get name = .ok stored)
      (arranged : kind.arrange slot stored = .ok payload)
  | zeros (convolution : kind = .conv) (bias : slot = 2) (absent : tensors.contains name = false)
      (zeros : Tensor.zeros payload.shape = .ok payload)

namespace Lower

variable {setting : Setting} {tensors : TensorStore} {operator : Operator} {arguments : Arguments}
  {graph grown : Graph} {inputs : List Ref} {ref : Ref} {slot : Nat} {name : Label}
  {kind : OperatorKind} {session after : Session}

theorem get_of_storedInput {tensor : Tensor}
    (found : storedInput tensors operator slot = .ok tensor)
    (named : operator.inputs[slot]? = some name) : tensors.get name = .ok tensor := by
  rcases storedInput_eq_ok.mp found with ⟨other, otherNamed, held⟩
  rcases Option.some.inj (named.symm.trans otherNamed) with rfl
  exact held

/-- The bias of a convolution is the stored tensor of the third input if there is one. -/
theorem eq_of_storedBias {bias stored : Tensor} {depth : Int}
    (bias_eq : storedBias tensors operator depth = .ok bias)
    (named : operator.inputs[2]? = some name) (found : tensors.get name = .ok stored) :
    bias = stored := by
  have third : operator.inputs[2]?.filter tensors.contains = some name := by
    simp [named, TensorStore.contains_of_get found]
  rw [storedBias, third] at bias_eq
  exact Except.ok.inj (bias_eq.symm.trans found)

theorem convolution_copies
    (emits : Emits setting tensors operator arguments graph .conv inputs ref grown)
    (weight : slot ∈ OperatorKind.conv.weightSlots) (named : operator.inputs[slot]? = some name) :
    ∃ own, grown.parameter? .conv ref slot = some own ∧
      OperatorKind.conv.Copies slot tensors name own.payload := by
  cases emits with
  | elementwise applies => cases applies
  | pooling pools => cases pools
  | arithmetic combines => cases combines
  | broadcastArithmetic combines => cases combines
  | @convolution input stored weights bias _ _ _ _ _ _ _ _ _ _ depth _ _ _ _ _ stored_eq
      weights_eq bias_eq _ _ bias_shape =>
      rcases List.mem_pair.mp weight with rfl | rfl
      · refine ⟨⟨operator.title.part ".filter", .internal, .broadcast, weights⟩, ?_, ?_⟩
        · simp [Graph.parameter?, Graph.parameterized, Graph.operandsOf, Graph.withSpatial]
        · exact .stored (get_of_storedInput stored_eq named) weights_eq
      · refine ⟨⟨operator.title.part ".bias", .internal, .broadcast, bias⟩, ?_, ?_⟩
        · simp [Graph.parameter?, Graph.parameterized, Graph.operandsOf, Graph.withSpatial]
        · simp only [storedBias, named, Option.filter_some] at bias_eq
          cases present : tensors.contains name with
          | true =>
              simp only [present, if_true] at bias_eq
              exact .stored bias_eq rfl
          | false =>
              simp only [present, if_false, Bool.false_eq_true] at bias_eq
              exact .zeros rfl rfl present (bias_shape ▸ bias_eq)

theorem fullyConnected_copies
    (emits : Emits setting tensors operator arguments graph .fc inputs ref grown)
    (weight : slot ∈ OperatorKind.fc.weightSlots) (named : operator.inputs[slot]? = some name) :
    ∃ own, grown.parameter? .fc ref slot = some own ∧
      OperatorKind.fc.Copies slot tensors name own.payload := by
  cases emits with
  | elementwise applies => cases applies
  | pooling pools => cases pools
  | arithmetic combines => cases combines
  | broadcastArithmetic combines => cases combines
  | @fullyConnected input stored weights bias _ _ _ stored_eq weights_eq bias_eq _ _ _ =>
      rcases List.mem_pair.mp weight with rfl | rfl
      · refine ⟨⟨operator.title.part ".weights", .internal, .broadcast, weights⟩, ?_, ?_⟩
        · simp [Graph.parameter?, Graph.parameterized, Graph.operandsOf]
        · exact .stored (get_of_storedInput stored_eq named) weights_eq
      · refine ⟨⟨operator.title.part ".biases", .internal, .broadcast, bias⟩, ?_, ?_⟩
        · simp [Graph.parameter?, Graph.parameterized, Graph.operandsOf]
        · exact .stored (get_of_storedInput bias_eq named) rfl

theorem batchNormalization_copies
    (emits : Emits setting tensors operator arguments graph .spatialBN inputs ref grown)
    (weight : slot ∈ OperatorKind.spatialBN.weightSlots)
    (named : operator.inputs[slot]? = some name) :
    ∃ own, grown.parameter? .spatialBN ref slot = some own ∧
      OperatorKind.spatialBN.Copies slot tensors name own.payload := by
  cases emits with
  | elementwise applies => cases applies
  | pooling pools => cases pools
  | arithmetic combines => cases combines
  | broadcastArithmetic combines => cases combines
  | @batchNormalization input scale bias mean variance _ _ scale_eq bias_eq mean_eq variance_eq =>
      simp only [OperatorKind.weightSlots, List.mem_cons, List.not_mem_nil, or_false] at weight
      rcases weight with rfl | rfl | rfl | rfl
      · refine ⟨⟨operator.title.part ".scale", .internal, .broadcast, scale⟩, ?_, ?_⟩
        · simp [Graph.parameter?, Graph.parameterized, Graph.operandsOf]
        · exact .stored (get_of_storedInput scale_eq named) rfl
      · refine ⟨⟨operator.title.part ".bias", .internal, .broadcast, bias⟩, ?_, ?_⟩
        · simp [Graph.parameter?, Graph.parameterized, Graph.operandsOf]
        · exact .stored (get_of_storedInput bias_eq named) rfl
      · refine ⟨⟨operator.title.part ".mean", .internal, .broadcast, mean⟩, ?_, ?_⟩
        · simp [Graph.parameter?, Graph.parameterized, Graph.operandsOf]
        · exact .stored (get_of_storedInput mean_eq named) rfl
      · refine ⟨⟨operator.title.part ".var", .internal, .broadcast, variance⟩, ?_, ?_⟩
        · simp [Graph.parameter?, Graph.parameterized, Graph.operandsOf]
        · exact .stored (get_of_storedInput variance_eq named) rfl

/-- What is emitted has a variable of its own for every slot whose tensor is copied. -/
theorem emits_copies
    (emits : Emits setting tensors operator arguments graph kind inputs ref grown)
    (weight : slot ∈ kind.weightSlots) (named : operator.inputs[slot]? = some name) :
    ∃ own, grown.parameter? kind ref slot = some own ∧
      kind.Copies slot tensors name own.payload := by
  cases kind with
  | conv => exact convolution_copies emits weight named
  | fc => exact fullyConnected_copies emits weight named
  | spatialBN => exact batchNormalization_copies emits weight named
  | _ => cases weight

theorem lowerOperator_copies (valid : session.Valid)
    (known : OperatorKind.ofLabel? operator.type = some kind)
    (lowered : lowerOperator setting operator session = .ok ref after)
    (weight : slot ∈ kind.weightSlots) (named : operator.inputs[slot]? = some name) :
    ∃ own, after.graph.parameter? kind ref slot = some own ∧
      kind.Copies slot session.tensors name own.payload := by
  rcases lowerOperator_emits valid known lowered with ⟨_, _, grown, _, emits, graph_eq⟩
  rw [graph_eq]
  exact emits_copies emits weight named

end Lower

/--
What is published under a name, if anything, is a variable that holds what an operator has copied,
but for the arrangement of its axes.
-/
def Session.Matches (session : Session) (name : Label) (kind : OperatorKind) (slot : Nat)
    (own : Variable) : Prop :=
  ∀ ref, session.names.get? name = some ref → ∃ index owned, ref = .var index ∧
    session.graph.vars[index]? = some owned ∧ kind.arrange slot owned.payload = .ok own.payload

theorem Session.Agrees.matches {session : Session} {name : Label} {kind : OperatorKind} {slot : Nat}
    {own : Variable} (agrees : session.Agrees name)
    (copies : kind.Copies slot session.tensors name own.payload) :
    session.Matches name kind slot own := by
  intro ref published
  rcases agrees ref published with ⟨index, owned, rfl, held, stored⟩
  refine ⟨index, owned, rfl, held, ?_⟩
  cases copies with
  | stored found arranged =>
      rcases Except.ok.inj (stored.symm.trans found) with same
      rwa [same]
  | zeros _ _ absent _ =>
      rw [TensorStore.contains_of_get stored] at absent
      cases absent

namespace Lower

/--
After any calls, an operator that is lowered holds what it copies in variables of its own: for each
of its weights the stored tensor of that name, or zeros for the bias of a convolution that is not
stored. If the name is published at that time, and no call has bound it to a result of an operator,
then what is published is a variable with the same numbers.
-/
theorem parameters_are_stored (setting : Setting) (session after : Session) (calls : List Call)
    (operator : Operator) (kind : OperatorKind) (ref : Ref) (slot : Nat) (name : Label)
    (linked : session.Linked setting.function)
    (known : OperatorKind.ofLabel? operator.type = some kind)
    (lowered : lowerOperator setting operator (session.performAll setting calls) = .ok ref after)
    (weight : slot ∈ kind.weightSlots) (named : operator.inputs[slot]? = some name) :
    ∃ own, after.graph.parameter? kind ref slot = some own ∧
      kind.Copies slot (session.performAll setting calls).tensors name own.payload ∧
      (session.Agrees name → name ∉ session.allResultNames setting calls →
        (session.performAll setting calls).Matches name kind slot own) := by
  have reached := Session.performAll_builds linked calls
  rcases lowerOperator_copies reached.linked.valid known lowered weight named with
    ⟨own, holds, copies⟩
  refine ⟨own, holds, copies, ?_⟩
  intro agrees other
  exact (agrees.performAll linked other).matches copies

end Lower

/-! ## Names that are bound to results -/

namespace Sample

def minusOne : Tensor := ⟨[1, 1], #[⟨0xbf800000⟩], by decide, rfl⟩

/-- An input `x` of one number and two stored weights, neither of which has been promoted. -/
def scalarSession : Session where
  graph := ⟨[⟨"x", .external, .none, ⟨[1, 1], #[.zero], by decide, rfl⟩⟩], [], ["main"]⟩
  names := ⟨[("x", .var 0)]⟩
  tensors := ⟨#[minusOne, .single .one], ⟨[("w", 0), ("b", 1)]⟩⟩
  notices := []

/-- Rectifies a weight in place. -/
def rectifyWeight : Operator := ⟨"Relu", "", ["w"], ["w"], [], .done []⟩

def connect : Operator := ⟨"FC", "", ["x", "w", "b"], ["y"], [], .done []⟩

/-- Doubles a weight without binding its name. -/
def useWeight : Operator := ⟨"Sum", "", ["w", "w"], ["z"], [], .done []⟩

end Sample

namespace Lower

theorem linked_scalarSession : Sample.scalarSession.Linked 0 := by
  intro name ref published
  simp only [Sample.scalarSession, Registry.get?, List.lookup_cons] at published
  split at published
  · rcases published with ⟨⟩
    exact Nat.zero_lt_one
  · cases published

theorem agrees_scalarSession : Sample.scalarSession.Agrees "w" := by
  intro ref published
  have absent : Sample.scalarSession.names.get? "w" = none := by decide
  rw [absent] at published
  cases published

/-- A weight that another operator has used before is the tensor that the layer copies. -/
theorem parameters_are_stored_sample :
    ∃ ref after own, lowerOperator Sample.setting Sample.connect
        (Sample.scalarSession.performAll Sample.setting [.lower Sample.useWeight]) =
          .ok ref after ∧
      (Sample.scalarSession.performAll Sample.setting [.lower Sample.useWeight]).names.get? "w" =
        some (.var 1) ∧
      after.graph.parameter? .fc ref 1 = some own ∧
      (Sample.scalarSession.performAll Sample.setting [.lower Sample.useWeight]).Matches
        "w" .fc 1 own := by
  rcases parameters_are_stored Sample.setting Sample.scalarSession _ [.lower Sample.useWeight]
    Sample.connect .fc _ 1 "w" linked_scalarSession (by decide) rfl (by decide) rfl with
    ⟨own, holds, _, agree⟩
  exact ⟨_, _, own, rfl, rfl, holds, agree agrees_scalarSession (by decide)⟩

/-- A rectified weight is published as a node, and the layer copies the stored tensor all the same. -/
theorem copies_stored_tensor_of_rectified_weight :
    ∃ ref after own, lowerOperator Sample.setting Sample.connect
        (Sample.scalarSession.performAll Sample.setting [.lower Sample.rectifyWeight]) =
          .ok ref after ∧
      after.graph.parameter? .fc ref 1 = some own ∧
      ¬(Sample.scalarSession.performAll Sample.setting [.lower Sample.rectifyWeight]).Matches
        "w" .fc 1 own := by
  refine ⟨_, _, _, rfl, rfl, ?_⟩
  intro same
  rcases same (.node 0) rfl with ⟨_, _, isVariable, _⟩
  cases isVariable

end Lower

end NetImport
