import NetImport.Proofs.Graph.Typing
import NetImport.Proofs.Lowering.Emission

/-!
# What operators emit is admitted

Whatever an operator emits when its inputs are variables or nodes of the function is admitted node
by node: it reads what is there, follows the typing rule of its operation and has no negative extent
unless something that it was computed from has one. There is one case for every kind of operator.
-/

namespace NetImport

open Descriptor

namespace Graph

variable {graph : Graph} {function : Nat} {name : Label} {operation : Operation}
  {operands : List Ref} {shape : Shape}

/-- A node that writes no variable is admitted if it reads what is there and has a type. -/
theorem admits_of_typing (linked : ∀ operand ∈ operands, graph.Linked function operand)
    (silent : operation.output? = none)
    (typing : Typing operation (operands.map graph.shapeOf) shape)
    (nonNegative : graph.NonNegative function → shape.NonNegative) :
    graph.Admits function ⟨function, name, operation, operands, shape⟩ where
  owner := rfl
  reaches := ⟨linked, fun output writes => by simp [silent] at writes⟩
  types := ⟨typing, fun output writes => by simp [silent] at writes⟩
  nonNegative := nonNegative

theorem yields_withNode {base : Graph} {node : Node} (built : Builds function base graph)
    (admitted : graph.Admits function node) :
    Yields function base (graph.withNode node) (.node graph.nodes.length) :=
  ⟨built.withNode admitted, linked_withNode_new admitted.owner⟩

theorem yields_withNode_withNode {first second : Node} (firstAdmitted : graph.Admits function first)
    (secondAdmitted : (graph.withNode first).Admits function second) :
    Yields function graph ((graph.withNode first).withNode second)
      (.node (graph.nodes.length + 1)) := by
  have next : (graph.withNode first).nodes.length = graph.nodes.length + 1 :=
    length_nodes_withNode
  rw [← next]
  exact yields_withNode (Builds.done.withNode firstAdmitted) secondAdmitted

theorem typing_channelsLast {batch channels height width : Int} :
    Typing (.transpose Lower.channelsLast) [[batch, channels, height, width]]
      [batch, height, width, channels] := by
  have permutes : Shape.IsAxisPermutation Lower.channelsLast 4 := by decide
  exact .transpose permutes

theorem typing_channelsFirst {batch height width channels : Int} :
    Typing (.transpose Lower.channelsFirst) [[batch, height, width, channels]]
      [batch, channels, height, width] := by
  have permutes : Shape.IsAxisPermutation Lower.channelsFirst 4 := by decide
  exact .transpose permutes

/-- A spatial node is admitted together with the transpositions around it. -/
theorem yields_withSpatial {base : Graph} {input : Ref} {parameters : List Ref}
    {batch height width channels outHeight outWidth depth : Int}
    (built : Builds function base graph) (inputLinked : graph.Linked function input)
    (input_shape : graph.shapeOf input = [batch, channels, height, width])
    (parametersLinked : ∀ parameter ∈ parameters, graph.Linked function parameter)
    (silent : operation.output? = none)
    (typing : Typing operation ([batch, height, width, channels] :: parameters.map graph.shapeOf)
      [batch, outHeight, outWidth, depth])
    (nonNegative : graph.NonNegative function → 0 ≤ outHeight ∧ 0 ≤ outWidth ∧ 0 ≤ depth) :
    Yields function base
      (graph.withSpatial function name input operation parameters
        batch height width channels outHeight outWidth depth)
      (.node (graph.nodes.length + 2)) := by
  let moved : Node := ⟨function, name, .transpose Lower.channelsLast, [input],
    [batch, height, width, channels]⟩
  let computed : Node := ⟨function, name, operation, .node graph.nodes.length :: parameters,
    [batch, outHeight, outWidth, depth]⟩
  let back : Node := ⟨function, name, .transpose Lower.channelsFirst,
    [.node (graph.nodes.length + 1)], [batch, depth, outHeight, outWidth]⟩
  have movedAdmitted : graph.Admits function moved := by
    refine admits_of_typing (by simpa using inputLinked) rfl ?_ ?_
    · simpa [input_shape] using typing_channelsLast
    · intro nonNegative
      have inputNonNegative := nonNegative input inputLinked
      simp only [input_shape, Shape.nonNegative_cons] at inputNonNegative ⊢
      tauto
  have computedAdmitted : (graph.withNode moved).Admits function computed := by
    have grows := growsTo_withNode graph moved
    refine admits_of_typing ?_ silent ?_ ?_
    · intro operand member
      rcases List.mem_cons.mp member with rfl | member
      · exact linked_withNode_new rfl
      · exact (parametersLinked operand member).grows grows
    · have shapes : parameters.map (graph.withNode moved).shapeOf = parameters.map graph.shapeOf :=
        List.map_congr_left fun parameter member =>
          grows.shapeOf_eq (parametersLinked parameter member).holds
      simpa [shapes] using typing
    · intro grownNonNegative
      have movedNonNegative := grownNonNegative (.node graph.nodes.length) (linked_withNode_new rfl)
      have outNonNegative := nonNegative (grownNonNegative.of_grows grows)
      simp only [shapeOf_withNode_new, moved, Shape.nonNegative_cons] at movedNonNegative ⊢
      simp only [Shape.nonNegative_nil]
      tauto
  have second : (graph.withNode moved).nodes.length = graph.nodes.length + 1 :=
    length_nodes_withNode
  have computedLinked : ((graph.withNode moved).withNode computed).Linked function
      (.node (graph.nodes.length + 1)) := by
    rw [← second]
    exact linked_withNode_new rfl
  have computed_shape : ((graph.withNode moved).withNode computed).shapeOf
      (.node (graph.nodes.length + 1)) = [batch, outHeight, outWidth, depth] := by
    rw [← second]
    exact shapeOf_withNode_new
  have backAdmitted : ((graph.withNode moved).withNode computed).Admits function back := by
    refine admits_of_typing (by simpa using computedLinked) rfl ?_ ?_
    · simpa [computed_shape] using typing_channelsFirst
    · intro grownNonNegative
      have computedNonNegative := grownNonNegative _ computedLinked
      simp only [computed_shape, Shape.nonNegative_cons] at computedNonNegative ⊢
      tauto
  have third : ((graph.withNode moved).withNode computed).nodes.length =
      graph.nodes.length + 2 := by
    simp
  rw [← third]
  exact yields_withNode ((built.withNode movedAdmitted).withNode computedAdmitted) backAdmitted

/-- A sum of references of one shape is admitted, one node for each reference after the first. -/
theorem yields_withSum {total : Ref} {refs : List Ref} (totalLinked : graph.Linked function total)
    (refsLinked : ∀ ref ∈ refs, graph.Linked function ref)
    (same_shape : ∀ ref ∈ refs, graph.shapeOf ref = graph.shapeOf total) :
    Yields function graph (withSum function name graph total refs).2
      (withSum function name graph total refs).1 := by
  induction refs generalizing graph total with
  | nil => exact ⟨.done, totalLinked⟩
  | cons first others hypothesis =>
      let sum : Node := ⟨function, name, .add, [total, first], graph.shapeOf total⟩
      have firstLinked := refsLinked first List.mem_cons_self
      have sumAdmitted : graph.Admits function sum := by
        refine admits_of_typing ?_ rfl ?_ fun nonNegative => nonNegative total totalLinked
        · simpa using ⟨totalLinked, firstLinked⟩
        · simpa [same_shape first List.mem_cons_self] using Typing.add
      have grows := growsTo_withNode graph sum
      have othersLinked : ∀ ref ∈ others, graph.Linked function ref :=
        fun ref later => refsLinked ref (List.mem_cons_of_mem _ later)
      have sumLinked : (graph.withNode sum).Linked function (.node graph.nodes.length) :=
        linked_withNode_new rfl
      have rest := hypothesis sumLinked (fun ref later => (othersLinked ref later).grows grows)
        (fun ref later => by
          rw [grows.shapeOf_eq (othersLinked ref later).holds, shapeOf_withNode_new]
          exact same_shape ref (List.mem_cons_of_mem _ later))
      exact ⟨(Builds.done.withNode sumAdmitted).trans rest.built, rest.linked⟩

end Graph

namespace Lower

variable {setting : Setting} {tensors : TensorStore} {operator : Operator} {arguments : Arguments}
  {graph grown : Graph} {kind : OperatorKind} {inputs : List Ref} {ref : Ref}

/-! ## Rules of families of operations -/

theorem typing_elementwise {operation : Operation} (operand : Shape)
    (applies : kind.elementwise? = some operation) :
    Typing operation [operand] operand ∧ operation.output? = none := by
  cases kind with
  | relu =>
      rcases applies with ⟨⟩
      exact ⟨.relu, rfl⟩
  | sigmoid =>
      rcases applies with ⟨⟩
      exact ⟨.sigmoid, rfl⟩
  | tanh =>
      rcases applies with ⟨⟩
      exact ⟨.tanh, rfl⟩
  | _ => rcases applies with ⟨⟩

theorem typing_pooling {operation : Window → Operation} (window : Window)
    (batch channels : Int) {height width outHeight outWidth : Int}
    (pools : kind.pooling? = some operation)
    (fits : Shape.windowOutput height width window.kernel window.stride window.pad =
      .ok (outHeight, outWidth)) :
    Typing (operation window) [[batch, height, width, channels]]
      [batch, outHeight, outWidth, channels] ∧ (operation window).output? = none := by
  cases kind with
  | maxPool =>
      rcases pools with ⟨⟩
      exact ⟨.poolMax fits, rfl⟩
  | averagePool =>
      rcases pools with ⟨⟩
      exact ⟨.poolAvg fits, rfl⟩
  | _ => rcases pools with ⟨⟩

theorem typing_pairwise {operation : Operation} (operand : Shape)
    (combines : kind.pairwise? = some operation) :
    Typing operation [operand, operand] operand ∧ operation.output? = none := by
  cases kind with
  | mul =>
      rcases combines with ⟨⟩
      exact ⟨.mul, rfl⟩
  | add =>
      rcases combines with ⟨⟩
      exact ⟨.add, rfl⟩
  | _ => rcases combines with ⟨⟩

theorem typing_concat {channel : Int} {first : Shape} {others : List Shape}
    (inRange : 0 ≤ channel ∧ channel < first.length)
    (agree : ∀ other ∈ others, Graph.agreeBeside channel.toNat first other) :
    Typing (.concat channel) (first :: others)
      (first.set channel.toNat
        (((first :: others).map fun shape => shape.extentAt channel).foldr (· + ·) 0)) := by
  have axisEq : ((channel.toNat : Nat) : Int) = channel := Int.toNat_of_nonneg inRange.1
  refine .concat (by simp) (by simpa using inRange) ?_ ?_
  · intro operand member
    rcases List.mem_cons.mp member with rfl | later
    · refine ⟨by simp, ?_⟩
      intro axis differ
      rw [Graph.extentAt_set_ne _ (by omega)]
    · have ⟨sameLength, sameExtents⟩ := Graph.extents_of_agreeBeside (agree operand later)
      refine ⟨by simpa using sameLength, ?_⟩
      intro axis differ
      rw [Graph.extentAt_set_ne _ (by omega)]
      exact sameExtents axis (by omega)
  · have inside : channel.toNat < first.length := by omega
    have joined := Graph.extentAt_set_self
      (((first :: others).map fun shape => shape.extentAt channel).foldr (· + ·) 0) inside
    rw [axisEq] at joined
    exact joined

/-! ## Every kind of operator -/

theorem admits_concat {channel : Int} {first : Shape} {others : List Shape}
    (linked : ∀ input ∈ inputs, graph.Linked setting.function input)
    (shapes_eq : inputs.map graph.shapeOf = first :: others)
    (inRange : 0 ≤ channel ∧ channel < first.length)
    (agree : ∀ other ∈ others, Graph.agreeBeside channel.toNat first other) :
    graph.Admits setting.function ⟨setting.function, operator.title, .concat channel, inputs,
      first.set channel.toNat
        (((first :: others).map fun shape => shape.extentAt channel).foldr (· + ·) 0)⟩ := by
  refine Graph.admits_of_typing linked rfl (shapes_eq ▸ typing_concat inRange agree) ?_
  intro nonNegative
  have shapesNonNegative : ∀ shape ∈ first :: others, shape.NonNegative := by
    rw [← shapes_eq]
    intro shape member
    rcases List.mem_map.mp member with ⟨input, inInputs, rfl⟩
    exact nonNegative input (linked input inInputs)
  exact Shape.nonNegative_joined shapesNonNegative

/-- After an operand has been expanded to the shape of another one, the two are combined. -/
theorem admits_combined {operation : Operation} {left : Ref} {expanded : Node}
    (leftLinked : graph.Linked setting.function left) (owner : expanded.function = setting.function)
    (same_shape : expanded.shape = graph.shapeOf left)
    (combines : kind.pairwise? = some operation) :
    (graph.withNode expanded).Admits setting.function
      ⟨setting.function, operator.title, operation, [left, .node graph.nodes.length],
        graph.shapeOf left⟩ := by
  have grows := Graph.growsTo_withNode graph expanded
  have ⟨typing, silent⟩ := typing_pairwise (graph.shapeOf left) combines
  refine Graph.admits_of_typing ?_ silent ?_ ?_
  · simpa using ⟨leftLinked.grows grows, Graph.linked_withNode_new owner⟩
  · simpa [grows.shapeOf_eq leftLinked.holds, same_shape] using typing
  · exact fun nonNegative => nonNegative.of_grows grows left leftLinked

/-- After its input has been flattened, normalised exponentials are admitted. -/
theorem admits_softmax {selected : Ref} {flat : Node}
    (selectedLinked : graph.Linked setting.function selected)
    (owner : flat.function = setting.function) :
    (graph.withNode flat).Admits setting.function
      ⟨setting.function, operator.title, .softmax, [.node graph.nodes.length, selected],
        flat.shape⟩ := by
  have grows := Graph.growsTo_withNode graph flat
  have flatLinked : (graph.withNode flat).Linked setting.function (.node graph.nodes.length) :=
    Graph.linked_withNode_new owner
  refine Graph.admits_of_typing ?_ rfl ?_ ?_
  · simpa using ⟨flatLinked, selectedLinked.grows grows⟩
  · simpa using Typing.softmax
  · intro nonNegative
    simpa using nonNegative _ flatLinked

/-- Once its weights and its bias are variables, a fully connected layer is admitted. -/
theorem admits_fullyConnected {input : Ref} {weights bias : Variable} {batch depth : Int}
    {rest : Shape} (inputLinked : graph.Linked setting.function input)
    (input_shape : graph.shapeOf input = batch :: rest)
    (weights_shape : weights.shape = [rest.size, depth]) (bias_shape : bias.shape = [depth]) :
    ((graph.withVar weights).withVar bias).Admits setting.function
      ⟨setting.function, operator.title, .fullyConnected,
        [input, .var graph.vars.length, .var (graph.vars.length + 1)], [batch, depth]⟩ := by
  have grows : graph.GrowsTo ((graph.withVar weights).withVar bias) :=
    Graph.growsTo_trans (Graph.growsTo_withVar _ _) (Graph.growsTo_withVar _ _)
  have weights_at : ((graph.withVar weights).withVar bias).shapeOf (.var graph.vars.length) =
      [rest.size, depth] := by
    simp [Graph.shapeOf, weights_shape]
  have bias_at : ((graph.withVar weights).withVar bias).shapeOf (.var (graph.vars.length + 1)) =
      [depth] := by
    simp [Graph.shapeOf, bias_shape]
  have biasLinked : ((graph.withVar weights).withVar bias).Linked setting.function
      (.var (graph.vars.length + 1)) := by
    simp [Graph.Linked, Graph.Before]
  refine Graph.admits_of_typing ?_ rfl ?_ ?_
  · simpa [Graph.Linked, Graph.Before] using inputLinked.grows grows
  · simpa [grows.shapeOf_eq inputLinked.holds, input_shape, weights_at, bias_at] using
      Typing.fullyConnected
  · intro nonNegative
    have inputNonNegative := nonNegative.of_grows grows input inputLinked
    have biasNonNegative := nonNegative _ biasLinked
    rw [input_shape, Shape.nonNegative_cons] at inputNonNegative
    rw [bias_at, Shape.nonNegative_cons] at biasNonNegative
    simpa [Shape.nonNegative_cons] using ⟨inputNonNegative.1, biasNonNegative.1⟩

/-- Once its parameters are variables, a batch normalisation is admitted. -/
theorem admits_batchNormalization {input : Ref} {scale bias mean variance : Variable}
    {channel : Int} {epsilon momentum : Binary64}
    (inputLinked : graph.Linked setting.function input)
    (inRange : 0 ≤ channel ∧ channel < (graph.shapeOf input).length)
    (parameter_shape : ∀ parameter ∈ [scale, bias, mean, variance],
      parameter.shape = [(graph.shapeOf input).extentAt channel]) :
    ((((graph.withVar scale).withVar bias).withVar mean).withVar variance).Admits setting.function
      ⟨setting.function, operator.title, .batchNormalization channel epsilon momentum,
        [input, .var graph.vars.length, .var (graph.vars.length + 1),
          .var (graph.vars.length + 2), .var (graph.vars.length + 3)], graph.shapeOf input⟩ := by
  have grows : graph.GrowsTo
      ((((graph.withVar scale).withVar bias).withVar mean).withVar variance) :=
    Graph.growsTo_trans (Graph.growsTo_trans (Graph.growsTo_withVar _ _)
      (Graph.growsTo_withVar _ _))
      (Graph.growsTo_trans (Graph.growsTo_withVar _ _) (Graph.growsTo_withVar _ _))
  simp only [List.forall_mem_cons] at parameter_shape
  rcases parameter_shape with ⟨scale_shape, bias_shape, mean_shape, variance_shape, _⟩
  refine Graph.admits_of_typing ?_ rfl ?_ ?_
  · simpa [Graph.Linked, Graph.Before] using inputLinked.grows grows
  · have input_shape := grows.shapeOf_eq inputLinked.holds
    simp only [List.map_cons, List.map_nil, input_shape]
    simpa [Graph.shapeOf, scale_shape, bias_shape, mean_shape, variance_shape] using
      Typing.batchNormalization inRange
  · exact fun nonNegative => nonNegative.of_grows grows input inputLinked

/-- Once its filter and its bias are variables, a convolution is admitted. -/
theorem yields_convolution {input : Ref} {filter bias : Variable} {window : Window} {group : Int}
    {batch height width channels outHeight outWidth depth : Int}
    (inputLinked : graph.Linked setting.function input)
    (input_shape : graph.shapeOf input = [batch, channels, height, width])
    (filter_shape : filter.shape = [depth, window.kernel, window.kernel, channels / group])
    (bias_shape : bias.shape = [depth])
    (group_pos : 0 < group) (channels_dvd : group ∣ channels) (depth_dvd : group ∣ depth)
    (fits : Shape.windowOutput height width window.kernel window.stride window.pad =
      .ok (outHeight, outWidth)) :
    Graph.Yields setting.function graph
      (((graph.withVar filter).withVar bias).withSpatial setting.function operator.title input
        (.convolution window group) [.var graph.vars.length, .var (graph.vars.length + 1)]
        batch height width channels outHeight outWidth depth)
      (.node (graph.nodes.length + 2)) := by
  have grows : graph.GrowsTo ((graph.withVar filter).withVar bias) :=
    Graph.growsTo_trans (Graph.growsTo_withVar _ _) (Graph.growsTo_withVar _ _)
  have filter_at : ((graph.withVar filter).withVar bias).shapeOf (.var graph.vars.length) =
      [depth, window.kernel, window.kernel, channels / group] := by
    simp [Graph.shapeOf, filter_shape]
  have bias_at : ((graph.withVar filter).withVar bias).shapeOf (.var (graph.vars.length + 1)) =
      [depth] := by
    simp [Graph.shapeOf, bias_shape]
  have biasLinked : ((graph.withVar filter).withVar bias).Linked setting.function
      (.var (graph.vars.length + 1)) := by
    simp [Graph.Linked, Graph.Before]
  refine Graph.yields_withSpatial Graph.Builds.done.withVar.withVar (inputLinked.grows grows)
    ((grows.shapeOf_eq inputLinked.holds).trans input_shape) ?_ rfl ?_ ?_
  · simp [Graph.Linked, Graph.Before]
  · simpa [filter_at, bias_at] using Typing.convolution group_pos channels_dvd depth_dvd fits
  · intro nonNegative
    have biasNonNegative := nonNegative _ biasLinked
    rw [bias_at, Shape.nonNegative_cons] at biasNonNegative
    have positions := Shape.windowOutput_pos fits
    omega

/-- What an operator emits is admitted, and its result is linked. -/
theorem emits_yields
    (emits : Emits setting tensors operator arguments graph kind inputs ref grown)
    (linked : ∀ input ∈ inputs, graph.Linked setting.function input) :
    Graph.Yields setting.function graph grown ref := by
  cases emits with
  | @elementwise _ operation input applies =>
      have ⟨typing, silent⟩ := typing_elementwise (graph.shapeOf input) applies
      exact Graph.yields_withNode .done (Graph.admits_of_typing linked silent typing
        fun nonNegative => nonNegative input (linked input (by simp)))
  | dropout => exact ⟨.done, linked ref (by simp)⟩
  | @convolution input stored weights bias stride pad kernel group batch channels height width
      outHeight outWidth depth _ _ _ _ _ _ _ _ input_shape weights_shape bias_shape group_pos
      channels_mod depth_mod fits =>
      exact yields_convolution (linked input (by simp)) input_shape weights_shape bias_shape
        group_pos (Int.dvd_of_emod_eq_zero channels_mod) (Int.dvd_of_emod_eq_zero depth_mod) fits
  | @pooling _ operation input stride pad kernel isGlobal batch channels height width outHeight
      outWidth pools _ _ _ _ _ _ input_shape fits =>
      have ⟨typing, silent⟩ := typing_pooling
        ⟨if isGlobal ≠ 0 then height else kernel, stride, pad⟩ batch channels pools fits
      refine Graph.yields_withSpatial .done (linked input (by simp)) input_shape (by simp) silent
        typing ?_
      intro nonNegative
      have inputNonNegative := nonNegative input (linked input (by simp))
      simp only [input_shape, Shape.nonNegative_cons] at inputNonNegative
      have positions := Shape.windowOutput_pos fits
      omega
  | @localResponseNormalization input size alpha beta bias batch channels height width _ _ _ _
      input_shape =>
      refine Graph.yields_withSpatial .done (linked input (by simp)) input_shape (by simp) rfl
        .localResponseNormalization ?_
      intro nonNegative
      have inputNonNegative := nonNegative input (linked input (by simp))
      simp only [input_shape, Shape.nonNegative_cons] at inputNonNegative
      omega
  | @batchNormalization input scale bias mean variance epsilon channel _ _ _ _ _ _ inRange
      parameter_shape =>
      refine Graph.yields_withNode Graph.Builds.done.withVar.withVar.withVar.withVar ?_
      refine admits_batchNormalization (linked input (by simp)) inRange ?_
      simpa [Variable.shape] using parameter_shape
  | concatenation channel_eq shapes_eq inRange agree =>
      exact Graph.yields_withNode .done (admits_concat linked shapes_eq inRange agree)
  | @arithmetic _ operation left right combines broadcast_eq same_shape =>
      have ⟨typing, silent⟩ := typing_pairwise (graph.shapeOf left) combines
      refine Graph.yields_withNode .done (Graph.admits_of_typing linked silent ?_
        fun nonNegative => nonNegative left (linked left (by simp)))
      simpa [same_shape] using typing
  | @broadcastArithmetic _ operation left right axis aligned combines _ _ _ extends_to =>
      have leftLinked := linked left (by simp)
      have ⟨inRange, each⟩ := Graph.extents_of_broadcastable extends_to
      refine Graph.yields_withNode_withNode ?_ (admits_combined leftLinked rfl rfl combines)
      exact Graph.admits_of_typing (by simpa using linked right (by simp)) rfl
        (.broadcast inRange each) fun nonNegative => nonNegative left leftLinked
  | @sum first others same_shape =>
      exact Graph.yields_withSum (linked first (by simp))
        (fun ref later => linked ref (List.mem_cons_of_mem _ later)) same_shape
  | @softmax selected input batch rest input_shape =>
      have inputLinked := linked input (by simp)
      refine Graph.yields_withNode_withNode ?_ (admits_softmax (linked selected (by simp)) rfl)
      refine Graph.admits_of_typing (by simpa using inputLinked) rfl ?_ ?_
      · exact .reshape (by simp [input_shape])
      · intro nonNegative
        have inputNonNegative := nonNegative input inputLinked
        rw [input_shape, Shape.nonNegative_cons] at inputNonNegative
        simpa [Shape.nonNegative_cons] using ⟨inputNonNegative.1, inputNonNegative.2.size⟩
  | @fullyConnected input stored weights bias batch depth rest _ _ _ input_shape weights_shape
      bias_shape =>
      refine Graph.yields_withNode Graph.Builds.done.withVar.withVar ?_
      exact admits_fullyConnected (linked input (by simp)) input_shape weights_shape bias_shape
  | @channelShuffle input group axis group_eq axis_eq inRange divides =>
      exact Graph.yields_withNode .done (Graph.admits_of_typing linked rfl
        (.channelShuffle inRange divides.1 (Int.dvd_of_emod_eq_zero divides.2))
        fun nonNegative => nonNegative input (linked input (by simp)))
  | @squeeze input axes axes_eq single =>
      exact Graph.yields_withNode .done (Graph.admits_of_typing linked rfl
        (.squeeze (Graph.pairwise_sortedAxes axes)
          (fun axis member => Graph.squeezable_iff.mp (single axis member))
          (Graph.size_dropAxes single))
        fun nonNegative =>
          Graph.dropAxes_nonNegative (nonNegative input (linked input (by simp))))

end Lower

end NetImport
