import NetImport.Proofs.Lowering.Parameters
import NetImport.Proofs.Lowering.Promotion

/-!
# Weights in the graph

An operator that is lowered leaves variables in the graph: one for every stored tensor that it is
the first to use as an input, and its own parameters, which are made first and filled afterwards.
This file says what these variables hold, number by number, in terms of the tensors that were stored
when the operator was lowered. None of it changes later, whatever calls follow, whether they succeed
or fail, and even if the tensors and their names are replaced between the calls.
-/

namespace NetImport

open Descriptor

namespace OperatorKind

/-- A bias of a convolution holds the stored tensor of the third input, or else only zeros. -/
def TakesBias (tensors : TensorStore) (operator : Operator) (bias : Tensor) : Prop :=
  (∀ name stored, operator.inputs[2]? = some name → tensors.get name = .ok stored →
      bias = stored) ∧
    ((∀ name, operator.inputs[2]? = some name → tensors.contains name = false) →
      ∀ index, bias.get index = .zero)

/-- What the parameters that an operator has created hold of the stored tensors. -/
def Takes (tensors : TensorStore) (operator : Operator) : OperatorKind → List Variable → Prop
  | conv, [filter, bias] =>
    (∃ stored depth channels height width, Lower.storedInput tensors operator 1 = .ok stored ∧
      stored.extents = [depth, channels, height, width] ∧
      filter.payload.extents = [depth, height, width, channels] ∧
      ∀ k r s c, k < depth → r < height → s < width → c < channels →
        filter.payload.get [k, r, s, c] = stored.get [k, c, r, s]) ∧
    TakesBias tensors operator bias.payload
  | fc, [weights, bias] =>
    (∃ stored outputs features, Lower.storedInput tensors operator 1 = .ok stored ∧
      stored.extents = [outputs, features] ∧ weights.payload.extents = [features, outputs] ∧
      ∀ f m, f < features → m < outputs → weights.payload.get [f, m] = stored.get [m, f]) ∧
    Lower.storedInput tensors operator 2 = .ok bias.payload
  | spatialBN, [scale, bias, mean, variance] =>
    Lower.storedInput tensors operator 1 = .ok scale.payload ∧
      Lower.storedInput tensors operator 2 = .ok bias.payload ∧
      Lower.storedInput tensors operator 3 = .ok mean.payload ∧
      Lower.storedInput tensors operator 4 = .ok variance.payload
  | conv, _ | fc, _ | spatialBN, _ => False
  | _, own => own = []

end OperatorKind

/-! ## Transposed weights -/

namespace Tensor

variable {stored moved : Tensor}

theorem get_of_transpose_filter
    (transposed : stored.transpose Lower.filterChannelsLast = .ok moved) :
    ∃ depth channels height width, stored.extents = [depth, channels, height, width] ∧
      moved.extents = [depth, height, width, channels] ∧
      ∀ k r s c, k < depth → r < height → s < width → c < channels →
        moved.get [k, r, s, c] = stored.get [k, c, r, s] := by
  have resolved : resolveAxes Lower.filterChannelsLast.length Lower.filterChannelsLast [] =
      .ok [0, 2, 3, 1] := rfl
  have ⟨rank, extents_eq, cells⟩ := get_of_transpose transposed (by decide) resolved
  match extents : stored.extents, rank with
  | [depth, channels, height, width], _ =>
      simp only [extents] at extents_eq
      refine ⟨depth, channels, height, width, rfl, extents_eq, ?_⟩
      intro k r s c kInside rInside sInside cInside
      have within : Within moved.extents [k, r, s, c] := by
        rw [extents_eq]
        exact .cons kInside (.cons rInside (.cons sInside (.cons cInside .nil)))
      exact cells _ within

theorem get_of_transpose_matrix (transposed : stored.transpose [1, 0] = .ok moved) :
    ∃ rows columns, stored.extents = [rows, columns] ∧ moved.extents = [columns, rows] ∧
      ∀ column row, column < columns → row < rows →
        moved.get [column, row] = stored.get [row, column] := by
  have resolved : resolveAxes ([1, 0] : List Int).length [1, 0] [] = .ok [1, 0] := rfl
  have ⟨rank, extents_eq, cells⟩ := get_of_transpose transposed (by decide) resolved
  match extents : stored.extents, rank with
  | [rows, columns], _ =>
      simp only [extents] at extents_eq
      refine ⟨rows, columns, rfl, extents_eq, ?_⟩
      intro column row columnInside rowInside
      have within : Within moved.extents [column, row] := by
        rw [extents_eq]
        exact .cons columnInside (.cons rowInside .nil)
      exact cells _ within

end Tensor

namespace Lower

variable {setting : Setting} {tensors : TensorStore} {operator : Operator} {arguments : Arguments}
  {graph grown : Graph} {inputs : List Ref} {ref : Ref} {kind : OperatorKind}
  {session after : Session}

theorem takesBias_of_storedBias {bias : Tensor} {depth : Int}
    (bias_eq : storedBias tensors operator depth = .ok bias) :
    OperatorKind.TakesBias tensors operator bias := by
  refine ⟨fun _ _ named found => eq_of_storedBias bias_eq named found, ?_⟩
  intro absent index
  have third : operator.inputs[2]?.filter tensors.contains = none := by
    rw [Option.filter_eq_none_iff]
    intro name named
    simp [absent name named]
  rw [storedBias, third] at bias_eq
  exact Tensor.get_of_zeros bias_eq index

theorem takes_nothing (noWeights : kind.weightSlots = []) : kind.Takes tensors operator [] := by
  cases kind with
  | conv => cases noWeights
  | fc => cases noWeights
  | spatialBN => cases noWeights
  | _ => rfl

/-- An operator without weights appends no parameters. -/
theorem takes_of_noWeights (noWeights : kind.weightSlots = []) (same : grown.vars = graph.vars) :
    ∃ own : List Variable, grown.vars = graph.vars ++ own ∧ kind.Takes tensors operator own ∧
      List.Forall₂ (fun slot parameter => grown.parameter? kind ref slot = some parameter)
        kind.weightSlots own := by
  exact ⟨[], by rw [same, List.append_nil], takes_nothing noWeights, noWeights ▸ .nil⟩

/-- An operator appends its parameters to the variables in the order of the slots they are for. -/
theorem emits_takes (emits : Emits setting tensors operator arguments graph kind inputs ref grown) :
    ∃ own : List Variable, grown.vars = graph.vars ++ own ∧ kind.Takes tensors operator own ∧
      List.Forall₂ (fun slot parameter => grown.parameter? kind ref slot = some parameter)
        kind.weightSlots own := by
  cases emits with
  | elementwise applies =>
      exact takes_of_noWeights (by cases kind <;> first | rfl | cases applies) rfl
  | pooling pools => exact takes_of_noWeights (by cases kind <;> first | rfl | cases pools) rfl
  | arithmetic combines =>
      exact takes_of_noWeights (by cases kind <;> first | rfl | cases combines) rfl
  | broadcastArithmetic combines =>
      exact takes_of_noWeights (by cases kind <;> first | rfl | cases combines) rfl
  | sum => exact takes_of_noWeights rfl (vars_withSum _ _ _ _ _)
  | @convolution input stored weights bias _ _ _ _ _ _ _ _ _ _ depth _ _ _ _ _ stored_eq
      weights_eq bias_eq =>
      rcases Tensor.get_of_transpose_filter weights_eq with
        ⟨filters, channels, height, width, stored_extents, weights_extents, cells⟩
      have taken := takesBias_of_storedBias bias_eq
      refine ⟨[⟨operator.title.part ".filter", .internal, .broadcast, weights⟩,
        ⟨operator.title.part ".bias", .internal, .broadcast, bias⟩], ?_, ⟨⟨stored, filters, channels,
          height, width, stored_eq, stored_extents, weights_extents, cells⟩, taken⟩, ?_⟩
      · simp [Graph.withSpatial]
      · refine .cons ?_ (.cons ?_ .nil)
        all_goals simp [Graph.parameter?, Graph.parameterized, Graph.operandsOf, Graph.withSpatial]
  | @fullyConnected input stored weights bias _ _ _ stored_eq weights_eq bias_eq =>
      rcases Tensor.get_of_transpose_matrix weights_eq with
        ⟨outputs, features, stored_extents, weights_extents, cells⟩
      refine ⟨[⟨operator.title.part ".weights", .internal, .broadcast, weights⟩,
        ⟨operator.title.part ".biases", .internal, .broadcast, bias⟩], by simp,
        ⟨⟨stored, outputs, features, stored_eq, stored_extents, weights_extents, cells⟩, bias_eq⟩,
        ?_⟩
      refine .cons ?_ (.cons ?_ .nil)
      all_goals simp [Graph.parameter?, Graph.parameterized, Graph.operandsOf]
  | @batchNormalization input scale bias mean variance _ _ scale_eq bias_eq mean_eq variance_eq =>
      refine ⟨[⟨operator.title.part ".scale", .internal, .broadcast, scale⟩,
        ⟨operator.title.part ".bias", .internal, .broadcast, bias⟩,
        ⟨operator.title.part ".mean", .internal, .broadcast, mean⟩,
        ⟨operator.title.part ".var", .internal, .broadcast, variance⟩], by simp,
        ⟨scale_eq, bias_eq, mean_eq, variance_eq⟩, ?_⟩
      refine .cons ?_ (.cons ?_ (.cons ?_ (.cons ?_ .nil)))
      all_goals simp [Graph.parameter?, Graph.parameterized, Graph.operandsOf]
  | _ => exact takes_of_noWeights rfl rfl

/-- The variables of an operator are the promoted ones and behind them its own. -/
theorem lowerOperator_takes (valid : session.Valid)
    (lowered : lowerOperator setting operator session = .ok ref after) :
    ∃ (kind : OperatorKind) (promoted own : List Variable),
      OperatorKind.ofLabel? operator.type = some kind ∧
      after.graph.vars = session.graph.vars ++ promoted ++ own ∧
      (∀ owned ∈ promoted, session.tensors.get owned.name = .ok owned.payload) ∧
      kind.Takes session.tensors operator own ∧
      List.Forall₂ (fun slot parameter => after.graph.parameter? kind ref slot = some parameter)
        kind.weightSlots own := by
  rcases lowerOperator_eq_ok.mp lowered with ⟨kind, _, known, _⟩
  rcases lowerOperator_emits valid known lowered with ⟨inputs, mid, grown, resolved, emits, rfl⟩
  rcases resolveAll_promotes resolved with ⟨promoted, promoted_eq, promotedHold⟩
  rcases emits_takes emits with ⟨own, own_eq, takes, slots⟩
  exact ⟨kind, promoted, own, known, by rw [own_eq, promoted_eq], promotedHold, takes, slots⟩

end Lower

/-! ## Whatever happens later -/

/-- A call, or a change of the stored tensors and of their names between calls. -/
inductive Action where
  | call (call : Call)
  | restock (tensors : TensorStore)

/-- The session that an action leads to, whether it succeeds or fails. -/
def Action.perform (setting : Setting) (session : Session) : Action → Session
  | call asked => asked.perform setting session
  | restock tensors => { session with tensors }

namespace Session

/-- The session that actions lead to, one after the other. -/
def performActions (setting : Setting) (session : Session) (actions : List Action) : Session :=
  actions.foldl (Action.perform setting) session

variable {setting : Setting} {session : Session}

theorem perform_action_builds (linked : session.Linked setting.function) (action : Action) :
    session.Builds setting.function (action.perform setting session) := by
  cases action with
  | call asked => exact asked.perform_builds linked
  | restock tensors => exact ⟨.done, linked⟩

/-- Whatever happens, variables and nodes are only added. -/
theorem performActions_builds (linked : session.Linked setting.function) (actions : List Action) :
    session.Builds setting.function (session.performActions setting actions) := by
  induction actions generalizing session with
  | nil => exact linked.builds
  | cons action actions hypothesis =>
      have first := perform_action_builds linked action
      exact first.trans (hypothesis first.linked)

end Session

namespace Graph

variable {graph grown : Graph} {ref found : Ref} {slot : Nat} {kind : OperatorKind}
  {own : Variable}

theorem GrowsTo.operandsOf_eq (grows : graph.GrowsTo grown) (held : graph.holds ref) :
    grown.operandsOf ref = graph.operandsOf ref := by
  cases ref with
  | var index => rfl
  | node index => simp only [operandsOf, grows.node_get (of_decide_eq_true held)]

theorem holds_of_operandsOf (operand : (graph.operandsOf ref)[slot]? = some found) :
    graph.holds ref := by
  cases ref with
  | var index => cases operand
  | node index =>
      simp only [operandsOf] at operand
      cases isNode : graph.nodes[index]? with
      | none => simp [isNode] at operand
      | some node => exact decide_eq_true (List.getElem?_eq_some_iff.mp isNode).1

theorem holds_of_parameter? (isParameter : graph.parameter? kind ref slot = some own) :
    graph.holds ref := by
  simp only [parameter?] at isParameter
  split at isParameter
  · rename_i index operand
    by_cases convolution : kind = .conv
    · simp only [parameterized, convolution, if_true] at operand
      cases operands : graph.operandsOf ref with
      | nil =>
          rw [operands] at operand
          exact holds_of_operandsOf operand
      | cons first others =>
          have head : (graph.operandsOf ref)[0]? = some first := by rw [operands]; rfl
          exact holds_of_operandsOf head
    · simp only [parameterized, convolution, if_false] at operand
      exact holds_of_operandsOf operand
  · cases isParameter

/-- The parameters of an operator stay where they are. -/
theorem GrowsTo.parameter?_eq (grows : graph.GrowsTo grown)
    (isParameter : graph.parameter? kind ref slot = some own) :
    grown.parameter? kind ref slot = some own := by
  have same : grown.parameterized kind ref = graph.parameterized kind ref := by
    simp only [parameterized, grows.operandsOf_eq (holds_of_parameter? isParameter)]
  simp only [parameter?, same] at isParameter ⊢
  split at isParameter
  · rename_i index operand
    have inside := (List.getElem?_eq_some_iff.mp isParameter).1
    rw [grows.operandsOf_eq (holds_of_operandsOf operand), operand]
    exact (grows.var_get inside).trans isParameter
  · cases isParameter

end Graph

namespace Session

/--
What an operator has put into the graph stays there, whatever happens before and after it. Its
promoted variables hold the tensors that were stored under their names when it was lowered, and its
parameters, found at their places among the operands of its node, hold what it took from its weights
at that time; the variables that were in the graph before, those of the caller among them, are still
the first ones and hold what they held.
-/
theorem payloads_persist (setting : Setting) (session : Session) (before later : List Action)
    (operator : Operator) (ref : Ref) (after : Session) (linked : session.Linked setting.function)
    (lowered : Lower.lowerOperator setting operator (session.performActions setting before) =
      .ok ref after) :
    let start := session.performActions setting before
    let final := after.performActions setting later
    session.graph.vars <+: start.graph.vars ∧
      ∃ (kind : OperatorKind) (promoted own : List Variable),
        OperatorKind.ofLabel? operator.type = some kind ∧
        after.graph.vars = start.graph.vars ++ promoted ++ own ∧
        start.graph.vars ++ promoted ++ own <+: final.graph.vars ∧
        (∀ owned ∈ promoted, start.tensors.get owned.name = .ok owned.payload) ∧
        kind.Takes start.tensors operator own ∧
        List.Forall₂ (fun slot parameter => final.graph.parameter? kind ref slot = some parameter)
          kind.weightSlots own := by
  intro start final
  have reached : session.Builds setting.function start := performActions_builds linked before
  have startLinked : start.Linked setting.function := reached.linked
  have grown := (performActions_builds (Lower.lowerOperator_builds startLinked lowered).linked
    later).graph.grows
  rcases Lower.lowerOperator_takes startLinked.valid lowered with
    ⟨kind, promoted, own, known, vars_eq, promotedHold, takes, slots⟩
  exact ⟨reached.graph.grows.vars, kind, promoted, own, known, vars_eq, vars_eq ▸ grown.vars,
    promotedHold, takes, slots.imp fun _ _ isParameter => grown.parameter?_eq isParameter⟩

/-- A layer keeps its weights when the stored tensors are dropped and the next operator fails. -/
theorem payloads_persist_sample :
    ∃ ref after own, Lower.lowerOperator Sample.setting Sample.connect
        (Sample.scalarSession.performActions Sample.setting [.call (.lower Sample.useWeight)]) =
          .ok ref after ∧
      OperatorKind.fc.Takes Sample.scalarSession.tensors Sample.connect own ∧
      List.Forall₂
        (fun slot parameter =>
          (after.performActions Sample.setting
            [.restock .empty, .call (.lower Sample.connect)]).graph.parameter? .fc ref slot =
              some parameter) [1, 2] own := by
  have persists := payloads_persist Sample.setting Sample.scalarSession
    [.call (.lower Sample.useWeight)] [.restock .empty, .call (.lower Sample.connect)]
    Sample.connect _ _ Lower.linked_scalarSession rfl
  rcases persists with ⟨_, kind, promoted, own, ⟨⟩, _, _, _, takes, slots⟩
  exact ⟨_, _, own, rfl, takes, slots⟩

end Session

end NetImport
