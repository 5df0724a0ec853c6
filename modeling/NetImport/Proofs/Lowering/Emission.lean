import NetImport.Proofs.Lowering.Network

/-!
# What operators emit

An operator first resolves some of its inputs. What it then appends to the graph depends on the
references found, on their shapes, on the arguments and on the stored tensors, and is listed here
for every kind of operator, together with the conditions under which it is appended. The main
statement is that a rule which succeeds has resolved the inputs of its kind and emitted what is
listed. It asks that published references are held by the graph, since another one could come to
denote what the operator itself appends.
-/

namespace NetImport

open Descriptor

namespace OperatorKind

/-- The operation of an operator that works on every number of its input. -/
def elementwise? : OperatorKind → Option Operation
  | relu => some .relu
  | sigmoid => some .sigmoid
  | tanh => some .tanh
  | _ => none

/-- The operation of an operator that pools. -/
def pooling? : OperatorKind → Option (Window → Operation)
  | maxPool => some .poolMax
  | averagePool => some .poolAvg
  | _ => none

/-- The operation of an operator that combines two inputs. -/
def pairwise? : OperatorKind → Option Operation
  | mul => some .mul
  | add => some .add
  | _ => none

/-- The names that an operator resolves, in this order. -/
def activations (setting : Setting) (operator : Operator) : OperatorKind → List Label
  | concat | sum => operator.inputs
  | mul | add => operator.inputs.take 2
  | softmax => setting.labels :: operator.inputs.take 1
  | _ => operator.inputs.take 1

end OperatorKind

namespace Graph

/-- A spatial node between the transpositions that move the channels last and back again. -/
def withSpatial (graph : Graph) (function : Nat) (name : Label) (input : Ref)
    (operation : Operation) (parameters : List Ref)
    (batch height width channels outHeight outWidth depth : Int) : Graph :=
  ((graph.withNode
      ⟨function, name, .transpose Lower.channelsLast, [input],
        [batch, height, width, channels]⟩).withNode
      ⟨function, name, operation, .node graph.nodes.length :: parameters,
        [batch, outHeight, outWidth, depth]⟩).withNode
      ⟨function, name, .transpose Lower.channelsFirst, [.node (graph.nodes.length + 1)],
        [batch, depth, outHeight, outWidth]⟩

/-- The sum of references, added from the left, and the graph with the nodes that compute it. -/
def withSum (function : Nat) (name : Label) : Graph → Ref → List Ref → Ref × Graph
  | graph, total, [] => (total, graph)
  | graph, total, ref :: refs =>
    withSum function name
      (graph.withNode ⟨function, name, .add, [total, ref], graph.shapeOf total⟩)
      (.node graph.nodes.length) refs

end Graph

namespace Lower

/-- The bias of a convolution: the stored tensor that the third input names, or else zeros. -/
def storedBias (tensors : TensorStore) (operator : Operator) (depth : Int) : Except Error Tensor :=
  match operator.inputs[2]?.filter tensors.contains with
  | none => Tensor.zeros [depth]
  | some name => tensors.get name

/-- Given resolved inputs, what an operator appends to a graph, and the reference to its result. -/
inductive Emits (setting : Setting) (tensors : TensorStore) (operator : Operator)
    (arguments : Arguments) (graph : Graph) : OperatorKind → List Ref → Ref → Graph → Prop where
  | elementwise {kind : OperatorKind} {operation : Operation} {input : Ref}
      (applies : kind.elementwise? = some operation) :
      Emits setting tensors operator arguments graph kind [input] (.node graph.nodes.length)
        (graph.withNode
          ⟨setting.function, operator.title, operation, [input], graph.shapeOf input⟩)
  | dropout {input : Ref} :
      Emits setting tensors operator arguments graph .dropout [input] input graph
  | convolution {input : Ref} {stored weights bias : Tensor} {stride pad kernel group : Int}
      {batch channels height width outHeight outWidth depth : Int}
      (stride_eq : arguments.int "stride" (some 1) = .ok stride)
      (pad_eq : arguments.int "pad" (some 0) = .ok pad)
      (kernel_eq : arguments.int "kernel" none = .ok kernel)
      (group_eq : arguments.int "group" (some 1) = .ok group)
      (noSidePads : sidePads.filter arguments.contains = [])
      (stored_eq : storedInput tensors operator 1 = .ok stored)
      (weights_eq : stored.transpose filterChannelsLast = .ok weights)
      (bias_eq : storedBias tensors operator depth = .ok bias)
      (input_shape : graph.shapeOf input = [batch, channels, height, width])
      (weights_shape : weights.shape = [depth, kernel, kernel, channels / group])
      (bias_shape : bias.shape = [depth])
      (group_pos : 0 < group) (channels_mod : channels % group = 0) (depth_mod : depth % group = 0)
      (fits : Shape.windowOutput height width kernel stride pad = .ok (outHeight, outWidth)) :
      Emits setting tensors operator arguments graph .conv [input] (.node (graph.nodes.length + 2))
        (((graph.withVar
            ⟨operator.title.part ".filter", .internal, .broadcast, weights⟩).withVar
            ⟨operator.title.part ".bias", .internal, .broadcast, bias⟩).withSpatial
          setting.function operator.title input (.convolution ⟨kernel, stride, pad⟩ group)
          [.var graph.vars.length, .var (graph.vars.length + 1)]
          batch height width channels outHeight outWidth depth)
  | pooling {kind : OperatorKind} {operation : Window → Operation} {input : Ref}
      {stride pad kernel isGlobal : Int} {batch channels height width outHeight outWidth : Int}
      (pools : kind.pooling? = some operation)
      (stride_eq : arguments.int "stride" none = .ok stride)
      (kernel_eq : arguments.int "kernel" none = .ok kernel)
      (pad_eq : arguments.int "pad" (some 0) = .ok pad)
      (noSidePads : sidePads.filter arguments.contains = [])
      (global_eq : arguments.int "global_pooling" (some 0) = .ok isGlobal)
      (square : isGlobal ≠ 0 → height = width)
      (input_shape : graph.shapeOf input = [batch, channels, height, width])
      (fits : Shape.windowOutput height width (if isGlobal ≠ 0 then height else kernel) stride pad =
        .ok (outHeight, outWidth)) :
      Emits setting tensors operator arguments graph kind [input] (.node (graph.nodes.length + 2))
        (graph.withSpatial setting.function operator.title input
          (operation ⟨if isGlobal ≠ 0 then height else kernel, stride, pad⟩) []
          batch height width channels outHeight outWidth channels)
  | localResponseNormalization {input : Ref} {size : Int} {alpha beta bias : Binary64}
      {batch channels height width : Int}
      (size_eq : arguments.int "size" none = .ok size)
      (alpha_eq : arguments.float "alpha" none = .ok alpha)
      (beta_eq : arguments.float "beta" none = .ok beta)
      (bias_eq : arguments.float "bias" none = .ok bias)
      (input_shape : graph.shapeOf input = [batch, channels, height, width]) :
      Emits setting tensors operator arguments graph .lrn [input] (.node (graph.nodes.length + 2))
        (graph.withSpatial setting.function operator.title input
          (.localResponseNormalization (Int.fdiv size 2) alpha beta bias) []
          batch height width channels height width channels)
  | batchNormalization {input : Ref} {scale bias mean variance : Tensor} {epsilon : Binary64}
      {channel : Int}
      (scale_eq : storedInput tensors operator 1 = .ok scale)
      (bias_eq : storedInput tensors operator 2 = .ok bias)
      (mean_eq : storedInput tensors operator 3 = .ok mean)
      (variance_eq : storedInput tensors operator 4 = .ok variance)
      (epsilon_eq : arguments.float "epsilon" (some defaultEpsilon) = .ok epsilon)
      (channel_eq : arguments.channelAxis = .ok channel)
      (inRange : 0 ≤ channel ∧ channel < (graph.shapeOf input).length)
      (parameter_shape : ∀ parameter ∈ [scale, bias, mean, variance],
        parameter.shape = [(graph.shapeOf input).extentAt channel]) :
      Emits setting tensors operator arguments graph .spatialBN [input] (.node graph.nodes.length)
        (((((graph.withVar ⟨operator.title.part ".scale", .internal, .broadcast, scale⟩).withVar
          ⟨operator.title.part ".bias", .internal, .broadcast, bias⟩).withVar
          ⟨operator.title.part ".mean", .internal, .broadcast, mean⟩).withVar
          ⟨operator.title.part ".var", .internal, .broadcast, variance⟩).withNode
          ⟨setting.function, operator.title,
            .batchNormalization channel epsilon Graph.defaultMomentum,
            [input, .var graph.vars.length, .var (graph.vars.length + 1),
              .var (graph.vars.length + 2), .var (graph.vars.length + 3)],
            graph.shapeOf input⟩)
  | concatenation {inputs : List Ref} {channel : Int} {first : Shape} {others : List Shape}
      (channel_eq : arguments.channelAxis = .ok channel)
      (shapes_eq : inputs.map graph.shapeOf = first :: others)
      (inRange : 0 ≤ channel ∧ channel < first.length)
      (agree : ∀ other ∈ others, Graph.agreeBeside channel.toNat first other) :
      Emits setting tensors operator arguments graph .concat inputs (.node graph.nodes.length)
        (graph.withNode ⟨setting.function, operator.title, .concat channel, inputs,
          first.set channel.toNat
            (((first :: others).map fun shape => shape.extentAt channel).foldr (· + ·) 0)⟩)
  | arithmetic {kind : OperatorKind} {operation : Operation} {left right : Ref}
      (combines : kind.pairwise? = some operation)
      (broadcast_eq : arguments.int "broadcast" none = .ok 0)
      (same_shape : graph.shapeOf left = graph.shapeOf right) :
      Emits setting tensors operator arguments graph kind [left, right] (.node graph.nodes.length)
        (graph.withNode
          ⟨setting.function, operator.title, operation, [left, right], graph.shapeOf left⟩)
  | broadcastArithmetic {kind : OperatorKind} {operation : Operation} {left right : Ref}
      {axis aligned : Int}
      (combines : kind.pairwise? = some operation)
      (broadcast_eq : arguments.int "broadcast" none = .ok 1)
      (axis_eq : arguments.int "axis" none = .ok axis)
      (aligned_eq : aligned = Shape.broadcastAxis axis (graph.shapeOf left).length
        (graph.shapeOf right).length)
      (extends_to : Graph.broadcastable (graph.shapeOf right) (graph.shapeOf left) aligned) :
      Emits setting tensors operator arguments graph kind [left, right]
        (.node (graph.nodes.length + 1))
        ((graph.withNode
          ⟨setting.function, operator.title, .broadcast aligned, [right],
            graph.shapeOf left⟩).withNode
          ⟨setting.function, operator.title, operation, [left, .node graph.nodes.length],
            graph.shapeOf left⟩)
  | sum {first : Ref} {others : List Ref}
      (same_shape : ∀ other ∈ others, graph.shapeOf other = graph.shapeOf first) :
      Emits setting tensors operator arguments graph .sum (first :: others)
        (Graph.withSum setting.function operator.title graph first others).1
        (Graph.withSum setting.function operator.title graph first others).2
  | softmax {selected input : Ref} {batch : Int} {rest : Shape}
      (input_shape : graph.shapeOf input = batch :: rest) :
      Emits setting tensors operator arguments graph .softmax [selected, input]
        (.node (graph.nodes.length + 1))
        ((graph.withNode
          ⟨setting.function, operator.title.part ".reshape", .reshape [batch, rest.size], [input],
            [batch, rest.size]⟩).withNode
          ⟨setting.function, operator.title, .softmax, [.node graph.nodes.length, selected],
            [batch, rest.size]⟩)
  | fullyConnected {input : Ref} {stored weights bias : Tensor} {batch depth : Int} {rest : Shape}
      (stored_eq : storedInput tensors operator 1 = .ok stored)
      (weights_eq : stored.transpose [1, 0] = .ok weights)
      (bias_eq : storedInput tensors operator 2 = .ok bias)
      (input_shape : graph.shapeOf input = batch :: rest)
      (weights_shape : weights.shape = [rest.size, depth])
      (bias_shape : bias.shape = [depth]) :
      Emits setting tensors operator arguments graph .fc [input] (.node graph.nodes.length)
        (((graph.withVar ⟨operator.title.part ".weights", .internal, .broadcast, weights⟩).withVar
          ⟨operator.title.part ".biases", .internal, .broadcast, bias⟩).withNode
          ⟨setting.function, operator.title, .fullyConnected,
            [input, .var graph.vars.length, .var (graph.vars.length + 1)], [batch, depth]⟩)
  | channelShuffle {input : Ref} {group axis : Int}
      (group_eq : arguments.int "group" none = .ok group)
      (axis_eq : arguments.int "kernel" none = .ok axis)
      (inRange : 0 ≤ axis ∧ axis < (graph.shapeOf input).length)
      (divides : 0 < group ∧ (graph.shapeOf input).extentAt axis % group = 0) :
      Emits setting tensors operator arguments graph .channelShuffle [input]
        (.node graph.nodes.length)
        (graph.withNode ⟨setting.function, operator.title, .channelShuffle group axis, [input],
          graph.shapeOf input⟩)
  | squeeze {input : Ref} {axes : List Int}
      (axes_eq : arguments.ints "dims" none = .ok axes)
      (single : ∀ axis ∈ Graph.sortedAxes axes, Graph.squeezable (graph.shapeOf input) axis) :
      Emits setting tensors operator arguments graph .squeeze [input] (.node graph.nodes.length)
        (graph.withNode ⟨setting.function, operator.title, .squeeze (Graph.sortedAxes axes),
          [input], Graph.dropAxes (graph.shapeOf input) (Graph.sortedAxes axes)⟩)

variable {setting : Setting} {operator : Operator} {arguments : Arguments}
  {session after : Session} {ref : Ref}

theorem growsTo_withSum (graph : Graph) (function : Nat) (name : Label) (total : Ref)
    (refs : List Ref) : graph.GrowsTo (Graph.withSum function name graph total refs).2 := by
  induction refs generalizing graph total with
  | nil => exact graph.growsTo_refl
  | cons ref refs hypothesis =>
      exact Graph.growsTo_trans (Graph.growsTo_withNode graph _) (hypothesis _ _)

theorem vars_withSum (graph : Graph) (function : Nat) (name : Label) (total : Ref)
    (refs : List Ref) : (Graph.withSum function name graph total refs).2.vars = graph.vars := by
  induction refs generalizing graph total with
  | nil => rfl
  | cons ref refs hypothesis => exact hypothesis _ _

/-- Whatever an operator emits is appended to the graph. -/
theorem emits_grows {tensors : TensorStore} {graph grown : Graph} {kind : OperatorKind}
    {inputs : List Ref}
    (emits : Emits setting tensors operator arguments graph kind inputs ref grown) :
    graph.GrowsTo grown := by
  have same := graph.growsTo_refl
  cases emits with
  | dropout => exact same
  | convolution => exact same.withVar.withVar.withNode.withNode.withNode
  | pooling => exact same.withNode.withNode.withNode
  | localResponseNormalization => exact same.withNode.withNode.withNode
  | batchNormalization => exact same.withVar.withVar.withVar.withVar.withNode
  | broadcastArithmetic => exact same.withNode.withNode
  | sum => exact growsTo_withSum graph _ _ _ _
  | softmax => exact same.withNode.withNode
  | fullyConnected => exact same.withVar.withVar.withNode
  | _ => exact same.withNode

/-- A rule has resolved the inputs of its kind and then emitted what is listed for it. -/
inductive Lowered (setting : Setting) (operator : Operator) (arguments : Arguments)
    (session : Session) (kind : OperatorKind) (ref : Ref) (after : Session) : Prop where
  | intro {inputs : List Ref} {mid : Session} {graph : Graph}
      (resolved : resolveAll (kind.activations setting operator) session = .ok inputs mid)
      (emits : Emits setting mid.tensors operator arguments mid.graph kind inputs ref graph)
      (after_eq : after = { mid with graph })

/-! ## Resolving -/

theorem resolveFirst_eq_ok (resolved : resolveInput operator 0 session = .ok ref after) :
    resolveAll (operator.inputs.take 1) session = .ok [ref] after := by
  rcases resolveInput_eq_ok.mp resolved with ⟨name, named, one⟩
  cases inputs : operator.inputs with
  | nil => simp [inputs] at named
  | cons first others =>
      simp only [inputs, List.getElem?_cons_zero, Option.some.injEq] at named
      subst named
      simpa using one

theorem resolveFirstTwo_eq_ok {left right : Ref} {mid : Session}
    (resolvedLeft : resolveInput operator 0 session = .ok left mid)
    (resolvedRight : resolveInput operator 1 mid = .ok right after) :
    resolveAll (operator.inputs.take 2) session = .ok [left, right] after := by
  rcases resolveInput_eq_ok.mp resolvedLeft with ⟨leftName, leftNamed, one⟩
  rcases resolveInput_eq_ok.mp resolvedRight with ⟨rightName, rightNamed, two⟩
  rcases inputs : operator.inputs with _ | ⟨first, _ | ⟨second, others⟩⟩
  · simp [inputs] at leftNamed
  · simp [inputs] at rightNamed
  · simp only [inputs, List.getElem?_cons_zero, List.getElem?_cons_succ, Option.some.injEq]
      at leftNamed rightNamed
    subst leftNamed rightNamed
    exact resolveAll_cons_eq_ok.mpr ⟨left, mid, [right], one,
      resolveAll_cons_eq_ok.mpr ⟨right, after, [], two, by simp, rfl⟩, rfl⟩

/-! ## Spatial nodes -/

theorem exists_of_length_four {shape : Shape} (rank : 4 = shape.length) :
    ∃ first second third fourth, shape = [first, second, third, fourth] := by
  match shape, rank with
  | [first, second, third, fourth], _ => exact ⟨first, second, third, fourth, rfl⟩

/-- Moving the channels last takes an operand of rank four. -/
theorem createTranspose_channelsLast {function : Nat} {name : Label} {input : Ref}
    {graph grown : Graph}
    (created : Graph.createTranspose function name input channelsLast graph = .ok ref grown) :
    ∃ batch channels height width, graph.shapeOf input = [batch, channels, height, width] ∧
      ref = .node graph.nodes.length ∧
      grown = graph.withNode ⟨function, name, .transpose channelsLast, [input],
        [batch, height, width, channels]⟩ := by
  rcases Graph.createTranspose_eq_ok.mp created with ⟨⟨rank, _⟩, rfl, rfl⟩
  rcases exists_of_length_four rank with ⟨batch, channels, height, width, shape⟩
  exact ⟨batch, channels, height, width, shape, rfl, by rw [shape]; rfl⟩

/-- Moving the channels back completes a spatial node. -/
theorem createTranspose_channelsFirst {function : Nat} {name : Label} {input : Ref}
    {operation : Operation} {parameters : List Ref} {graph moved grown : Graph}
    {batch height width channels outHeight outWidth depth : Int}
    (moved_eq : moved = graph.withNode ⟨function, name, .transpose channelsLast, [input],
      [batch, height, width, channels]⟩)
    (created : Graph.createTranspose function name (.node moved.nodes.length) channelsFirst
      (moved.withNode ⟨function, name, operation, .node graph.nodes.length :: parameters,
        [batch, outHeight, outWidth, depth]⟩) = .ok ref grown) :
    ref = .node (graph.nodes.length + 2) ∧
      grown = graph.withSpatial function name input operation parameters
        batch height width channels outHeight outWidth depth := by
  rcases Graph.createTranspose_eq_ok.mp created with ⟨_, rfl, rfl⟩
  subst moved_eq
  constructor
  · simp
  · rw [Graph.shapeOf_withNode_new]
    simp only [Graph.withSpatial, Graph.nodes_withNode, List.length_append, List.length_singleton]
    rfl

@[simp]
theorem extents_bind {β : Type} {next : Int × Int × Int × Int → Lower β} :
    (extents ref >>= next) session =
      next ((session.graph.shapeOf ref).extentAt 0, (session.graph.shapeOf ref).extentAt 1,
        (session.graph.shapeOf ref).extentAt 2, (session.graph.shapeOf ref).extentAt 3) session :=
  rfl

theorem refuseSidePads_bind_eq_ok {β : Type} {next : Unit → Lower β} {result : β} :
    (refuseSidePads arguments >>= next) session = .ok result after ↔
      sidePads.filter arguments.contains = [] ∧ next () session = .ok result after := by
  by_cases none : sidePads.filter arguments.contains = []
  · simp [refuseSidePads, none]
  · simp [refuseSidePads, none]

/-! ## Every rule -/

theorem elementwise_lowered {kind : OperatorKind} {operation : Operation}
    (applies : kind.elementwise? = some operation)
    (first : kind.activations setting operator = operator.inputs.take 1)
    (lowered : elementwise setting operator operation session = .ok ref after) :
    Lowered setting operator arguments session kind ref after := by
  rcases Steps.bind_eq_ok.mp lowered with ⟨input, mid, resolved, built⟩
  simp only [onGraph_eq_ok, Graph.createElementwise_eq_ok] at built
  rcases built with ⟨_, ⟨rfl, rfl⟩, rfl⟩
  exact .intro (first ▸ resolveFirst_eq_ok resolved) (.elementwise applies) rfl

theorem dropout_lowered (lowered : dropout operator session = .ok ref after) :
    Lowered setting operator arguments session .dropout ref after :=
  .intro (resolveFirst_eq_ok lowered) .dropout rfl

theorem pooling_lowered {kind : OperatorKind} {operation : Window → Operation}
    (pools : kind.pooling? = some operation)
    (first : kind.activations setting operator = operator.inputs.take 1)
    (lowered : pooling setting operator arguments operation session = .ok ref after) :
    Lowered setting operator arguments session kind ref after := by
  simp only [pooling, ofResult_bind_eq_ok, refuseSidePads_bind_eq_ok] at lowered
  rcases lowered with
    ⟨stride, stride_eq, kernel, kernel_eq, pad, pad_eq, noSidePads, lowered⟩
  rcases Steps.bind_eq_ok.mp lowered with ⟨input, mid, resolved, built⟩
  simp only [onGraph_bind_eq_ok, ofResult_bind_eq_ok, extents_bind] at built
  rcases built with ⟨moved, _, created, isGlobal, global_eq, built⟩
  rcases createTranspose_channelsLast created with
    ⟨batch, channels, height, width, input_shape, rfl, rfl⟩
  have heightAt : Shape.extentAt [batch, height, width, channels] 1 = height := rfl
  have widthAt : Shape.extentAt [batch, height, width, channels] 2 = width := rfl
  simp only [Graph.shapeOf_withNode_new, heightAt, widthAt] at built
  have accepted : ¬(isGlobal ≠ 0 ∧ height ≠ width) := by
    intro refused
    simp [refused] at built
  simp only [if_neg accepted, onGraph_bind_eq_ok, onGraph_eq_ok, Graph.createPool_eq_ok,
    Graph.shapeOf_withNode_new] at built
  rcases built with
    ⟨pooled, _, ⟨_, _, _, _, outHeight, outWidth, ⟨⟩, fits, rfl, rfl⟩, last, back, rfl⟩
  rcases createTranspose_channelsFirst rfl back with ⟨rfl, rfl⟩
  have square : isGlobal ≠ 0 → height = width :=
    fun isGlobal => not_not.mp fun differ => accepted ⟨isGlobal, differ⟩
  exact .intro (first ▸ resolveFirst_eq_ok resolved)
    (.pooling pools stride_eq kernel_eq pad_eq noSidePads global_eq square input_shape fits) rfl

theorem localResponseNormalization_lowered
    (lowered : localResponseNormalization setting operator arguments session = .ok ref after) :
    Lowered setting operator arguments session .lrn ref after := by
  simp only [localResponseNormalization, ofResult_bind_eq_ok] at lowered
  rcases lowered with
    ⟨size, size_eq, alpha, alpha_eq, beta, beta_eq, bias, bias_eq, lowered⟩
  rcases Steps.bind_eq_ok.mp lowered with ⟨input, mid, resolved, built⟩
  simp only [onGraph_bind_eq_ok, onGraph_eq_ok] at built
  rcases built with ⟨moved, _, created, normalized, _, computed, last, back, rfl⟩
  rcases createTranspose_channelsLast created with
    ⟨batch, channels, height, width, input_shape, rfl, rfl⟩
  simp only [Graph.createLocalResponseNormalization_eq_ok, Graph.shapeOf_withNode_new] at computed
  rcases computed with ⟨_, _, _, _, ⟨⟩, rfl, rfl⟩
  rcases createTranspose_channelsFirst rfl back with ⟨rfl, rfl⟩
  exact .intro (resolveFirst_eq_ok resolved)
    (.localResponseNormalization size_eq alpha_eq beta_eq bias_eq input_shape) rfl

/-! ### Stored parameters -/

theorem shape_of_filled {shape : Shape} {value : Binary32} {tensor : Tensor}
    (filled : Tensor.filled shape value = .ok tensor) : tensor.shape = shape := by
  unfold Tensor.filled at filled
  cases allocated : Tensor.allocate shape with
  | error error => simp [allocated, bind, Except.bind] at filled
  | ok extents =>
      simp only [allocated, bind, Except.bind, pure, Except.pure, Except.ok.injEq] at filled
      rw [← filled]
      exact extents.2.2

/-- Whatever has the shape of a tensor can be stored. -/
theorem filled_shape (tensor : Tensor) (value : Binary32) :
    ∃ other, Tensor.filled tensor.shape value = .ok other := by
  have extents : tensor.shape.map Int.toNat = tensor.extents := by
    simp [Tensor.shape, List.map_map, Function.comp_def]
  have valid : Storable (tensor.shape.map Int.toNat) ∧
      (tensor.shape.map Int.toNat).map Int.ofNat = tensor.shape := by
    rw [extents]
    exact ⟨tensor.storable, rfl⟩
  simp [Tensor.filled, Tensor.allocate, valid, bind, Except.bind, pure, Except.pure]

theorem copyStored_eq {index : Nat} {name? : Option Label} :
    copyStored index name? session =
      match name?.filter session.tensors.contains with
      | none => .ok () session
      | some name => (do onGraph (Graph.copyFrom index (← tensor name))) session := by
  cases name? with
  | none => rfl
  | some name =>
      cases contained : session.tensors.contains name with
      | false =>
          simp only [copyStored, Steps.get_bind, Option.filter, contained]
          rfl
      | true =>
          simp only [copyStored, Steps.get_bind, Option.filter, contained]
          rfl

theorem set_withVar_last {graph : Graph} {owned other : Variable} :
    { graph.withVar owned with vars := (graph.withVar owned).vars.set graph.vars.length other } =
      graph.withVar other := by
  simp [Graph.withVar]

/-- The bias of a convolution is a new variable, which holds the stored tensor or else zeros. -/
theorem convolutionBias_eq_ok {depth : Int} {index : Nat} :
    convolutionBias operator depth session = .ok index after ↔
      ∃ bias, storedBias session.tensors operator depth = .ok bias ∧ bias.shape = [depth] ∧
        index = session.graph.vars.length ∧
        after =
          { session with
            graph := session.graph.withVar
              ⟨operator.title.part ".bias", .internal, .broadcast, bias⟩ } := by
  simp only [convolutionBias, Graph.createVariable, onGraph_bind_eq_ok, Graph.createFilled_eq_ok]
  simp only [Steps.bind_eq_ok, copyStored_eq, Steps.pure_eq_ok, storedBias]
  cases operator.inputs[2]?.filter session.tensors.contains with
  | none =>
      constructor
      · rintro ⟨_, _, ⟨zeros, filled, rfl, rfl⟩, _, _, ⟨⟩, rfl, rfl⟩
        exact ⟨zeros, filled, shape_of_filled filled, rfl, rfl⟩
      · rintro ⟨zeros, filled, _, rfl, rfl⟩
        exact ⟨_, _, ⟨zeros, filled, rfl, rfl⟩, (), _, rfl, rfl, rfl⟩
  | some name =>
      simp only [Steps.bind_eq_ok, tensor_eq_ok, onGraph_eq_ok, Graph.copyFrom_eq_ok]
      constructor
      · rintro ⟨_, _, ⟨zeros, filled, rfl, rfl⟩, _, _,
          ⟨bias, _, ⟨held, rfl⟩, _, ⟨target, isTarget, same, rfl⟩, rfl⟩, rfl, rfl⟩
        simp only [Graph.vars_withVar, List.getElem?_concat_length, Option.some.injEq] at isTarget
        subst target
        exact ⟨bias, held, same.trans (shape_of_filled filled), rfl, by rw [set_withVar_last]⟩
      · rintro ⟨bias, held, shape, rfl, rfl⟩
        rcases filled_shape bias .zero with ⟨zeros, filled⟩
        rw [shape] at filled
        refine ⟨_, _, ⟨zeros, filled, rfl, rfl⟩, (), _, ⟨bias, _, ⟨held, rfl⟩, _,
          ⟨_, List.getElem?_concat_length, shape.trans (shape_of_filled filled).symm, rfl⟩, rfl⟩,
          rfl, ?_⟩
        rw [set_withVar_last]

theorem convolution_lowered (valid : session.Valid)
    (lowered : convolution setting operator arguments session = .ok ref after) :
    Lowered setting operator arguments session .conv ref after := by
  simp only [convolution, ofResult_bind_eq_ok, refuseSidePads_bind_eq_ok] at lowered
  rcases lowered with
    ⟨stride, stride_eq, pad, pad_eq, kernel, kernel_eq, group, group_eq, noSidePads, lowered⟩
  rcases Steps.bind_eq_ok.mp lowered with ⟨input, mid, resolved, built⟩
  have held : mid.graph.holds input := (resolveAll_valid valid (resolveFirst_eq_ok resolved)).1 _
    (List.mem_singleton_self _)
  simp only [inputTensor_bind_eq_ok, ofResult_bind_eq_ok, onGraph_bind_eq_ok,
    Graph.addVariable_eq_ok] at built
  rcases built with ⟨stored, stored_eq, weights, weights_eq, _, _, ⟨rfl, rfl⟩, built⟩
  rcases Steps.bind_eq_ok.mp built with ⟨_, _, made, built⟩
  simp only [convolutionBias_eq_ok] at made
  rcases made with ⟨bias, bias_eq, bias_shape, rfl, rfl⟩
  simp only [onGraph_bind_eq_ok, onGraph_eq_ok, extents_bind] at built
  rcases built with ⟨moved, _, created, out, _, count, convolved, _, computed, last, back, rfl⟩
  rcases createTranspose_channelsLast created with
    ⟨batch, channels, height, width, input_shape, rfl, rfl⟩
  rw [Graph.shapeOf_withVar (Graph.holds_withVar held), Graph.shapeOf_withVar held] at input_shape
  rcases Graph.windowExtents_eq_ok.mp count with ⟨_, rfl⟩
  rcases Graph.createConvolution_eq_ok.mp computed with ⟨_, _, _, _, depth, outHeight, outWidth,
    moved_shape, group_pos, channels_mod, depth_mod, weights_shape, _, fits, out_shape, rfl, rfl⟩
  rw [Graph.shapeOf_withNode_new] at moved_shape
  rcases moved_shape with ⟨⟩
  have filterHeld : (mid.graph.withVar
      ⟨operator.title.part ".filter", .internal, .broadcast, weights⟩).holds
        (.var mid.graph.vars.length) := by
    simp [Graph.holds]
  rw [Graph.shapeOf_withNode_var, Graph.shapeOf_withVar filterHeld, Graph.shapeOf_withVar_new]
    at weights_shape
  change weights.shape = _ at weights_shape
  have depthAt : weights.shape.extentAt 0 = depth := by
    rw [weights_shape]
    rfl
  rw [depthAt] at bias_eq bias_shape
  rw [out_shape] at back
  rcases createTranspose_channelsFirst rfl back with ⟨rfl, rfl⟩
  exact .intro (resolveFirst_eq_ok resolved)
    (.convolution stride_eq pad_eq kernel_eq group_eq noSidePads stored_eq weights_eq bias_eq
      input_shape weights_shape bias_shape group_pos channels_mod depth_mod fits) (by simp)

theorem fill_var_bind_eq_ok {β : Type} {index : Nat} {source : Tensor} {next : Unit → Lower β}
    {result : β} :
    (fill (.var index) source >>= next) session = .ok result after ↔
      ∃ target, session.graph.vars[index]? = some target ∧ source.shape = target.shape ∧
        next ()
          { session with
            graph :=
              { session.graph with
                vars := session.graph.vars.set index { target with payload := source } } } =
          .ok result after := by
  simp only [fill, onGraph_bind_eq_ok, Graph.copyFrom_eq_ok]
  constructor
  · rintro ⟨_, _, ⟨target, isTarget, same, rfl⟩, rest⟩
    exact ⟨target, isTarget, same, rest⟩
  · rintro ⟨target, isTarget, same, rest⟩
    exact ⟨(), _, ⟨target, isTarget, same, rfl⟩, rest⟩

theorem batchNormalization_lowered
    (lowered : batchNormalization setting operator arguments session = .ok ref after) :
    Lowered setting operator arguments session .spatialBN ref after := by
  rcases Steps.bind_eq_ok.mp lowered with ⟨input, mid, resolved, built⟩
  simp only [inputTensor_bind_eq_ok, ofResult_bind_eq_ok, filledNormalization, onGraph_bind_eq_ok]
    at built
  rcases built with ⟨scale, scale_eq, bias, bias_eq, mean, mean_eq, variance, variance_eq, epsilon,
    epsilon_eq, channel, channel_eq, node, _, created, built⟩
  rcases Graph.createBatchNormalization_eq_ok.mp created with
    ⟨ones, zeros, inRange, isOnes, isZeros, rfl, rfl⟩
  simp only [Steps.get_bind, Graph.operandsOf_createBatchNormalization created,
    fill_var_bind_eq_ok] at built
  -- The four variables are the last ones, so that each is found and filled behind the older ones.
  simp only [Graph.vars_withNode, Graph.vars_withVar, List.append_assoc, List.cons_append,
    List.nil_append, List.length_append, List.length_cons, List.length_nil, Nat.zero_add,
    Nat.reduceAdd, Nat.lt_add_right_iff_pos, Nat.zero_lt_succ, getElem?_pos, Std.le_refl,
    List.getElem_append_right, Nat.sub_self, List.getElem_cons_zero, Option.some.injEq,
    List.set_append_right, List.set_cons_zero, Nat.add_lt_add_iff_left, Nat.reduceLT,
    Nat.le_add_right, Nat.add_sub_cancel_left, List.getElem_cons_succ, List.set_cons_succ,
    Nat.lt_add_one, Graph.nodes_withNode, Graph.nodes_withVar, Graph.functions_withNode,
    Graph.functions_withVar, Steps.pure_eq_ok, exists_eq_left'] at built
  rcases built with ⟨scale_shape, bias_shape, mean_shape, variance_shape, rfl, rfl⟩
  have parameter_shape : ∀ parameter ∈ [scale, bias, mean, variance],
      parameter.shape = [(mid.graph.shapeOf input).extentAt channel] := by
    have onesShape := shape_of_filled isOnes
    have zerosShape := shape_of_filled isZeros
    simp only [List.forall_mem_cons]
    exact ⟨scale_shape.trans onesShape, bias_shape.trans zerosShape, mean_shape.trans zerosShape,
      variance_shape.trans onesShape, by simp⟩
  exact .intro (resolveFirst_eq_ok resolved)
    (.batchNormalization scale_eq bias_eq mean_eq variance_eq epsilon_eq channel_eq inRange
      parameter_shape) (by simp [Graph.withVar, Graph.withNode])

theorem concatenation_lowered
    (lowered : concatenation setting operator arguments session = .ok ref after) :
    Lowered setting operator arguments session .concat ref after := by
  rcases Steps.bind_eq_ok.mp lowered with ⟨inputs, mid, resolved, built⟩
  simp only [ofResult_bind_eq_ok, onGraph_eq_ok, Graph.createConcat_eq_ok] at built
  rcases built with
    ⟨channel, channel_eq, _, ⟨first, others, shapes_eq, inRange, agree, rfl, rfl⟩, rfl⟩
  exact .intro resolved (.concatenation channel_eq shapes_eq inRange agree) rfl

theorem arithmetic_lowered {kind : OperatorKind} {operation : Operation} (valid : session.Valid)
    (combines : kind.pairwise? = some operation)
    (firstTwo : kind.activations setting operator = operator.inputs.take 2)
    (lowered : arithmetic setting operator arguments operation session = .ok ref after) :
    Lowered setting operator arguments session kind ref after := by
  rcases Steps.bind_eq_ok.mp lowered with ⟨left, _, resolvedLeft, lowered⟩
  rcases Steps.bind_eq_ok.mp lowered with ⟨right, mid, resolvedRight, built⟩
  have resolved : resolveAll (kind.activations setting operator) session = .ok [left, right] mid :=
    firstTwo ▸ resolveFirstTwo_eq_ok resolvedLeft resolvedRight
  have held : mid.graph.holds left :=
    (resolveAll_valid valid resolved).1 left (List.mem_cons_self)
  rcases ofResult_bind_eq_ok.mp built with ⟨broadcast, broadcast_eq, built⟩
  by_cases plain : broadcast = 0
  · subst plain
    simp only [if_true, onGraph_eq_ok, Graph.createPairwise_eq_ok] at built
    rcases built with ⟨_, ⟨same_shape, rfl, rfl⟩, rfl⟩
    exact .intro resolved (.arithmetic combines broadcast_eq same_shape) rfl
  · rw [if_neg plain] at built
    by_cases expanding : broadcast = 1
    · subst expanding
      simp only [if_true, shape_bind, ofResult_bind_eq_ok, onGraph_bind_eq_ok, onGraph_eq_ok,
        Graph.createBroadcast_eq_ok, Graph.createPairwise_eq_ok] at built
      rcases built with
        ⟨axis, axis_eq, _, _, ⟨extends_to, rfl, rfl⟩, _, ⟨_, rfl, rfl⟩, rfl⟩
      rw [Graph.shapeOf_withNode held, Graph.length_nodes_withNode]
      exact .intro resolved
        (.broadcastArithmetic combines broadcast_eq axis_eq rfl extends_to) rfl
    · simp [expanding] at built

/-- Adding up references of one shape appends one node for each reference after the first. -/
theorem addAll_eq_ok {total : Ref} {refs : List Ref} (held : session.graph.holds total)
    (allHeld : ∀ ref ∈ refs, session.graph.holds ref)
    (added : addAll setting operator.title total refs session = .ok ref after) :
    (∀ other ∈ refs, session.graph.shapeOf other = session.graph.shapeOf total) ∧
      ref = (Graph.withSum setting.function operator.title session.graph total refs).1 ∧
      after = { session with
        graph := (Graph.withSum setting.function operator.title session.graph total refs).2 } := by
  induction refs generalizing session total with
  | nil =>
      rcases Steps.pure_eq_ok.mp added with ⟨rfl, rfl⟩
      exact ⟨by simp, rfl, rfl⟩
  | cons first others hypothesis =>
      simp only [addAll, Graph.createAdd, onGraph_bind_eq_ok, Graph.createPairwise_eq_ok] at added
      rcases added with ⟨_, _, ⟨same, rfl, rfl⟩, rest⟩
      have firstHeld := allHeld first List.mem_cons_self
      have othersHeld : ∀ ref ∈ others, session.graph.holds ref :=
        fun ref later => allHeld ref (List.mem_cons_of_mem _ later)
      rcases hypothesis (by simp [Graph.holds])
        (fun ref later => Graph.holds_withNode (othersHeld ref later)) rest with
        ⟨same_shape, rfl, rfl⟩
      refine ⟨?_, rfl, rfl⟩
      intro other member
      rcases List.mem_cons.mp member with rfl | later
      · exact same.symm
      · have laterShape := same_shape other later
        rwa [Graph.shapeOf_withNode (othersHeld other later), Graph.shapeOf_withNode_new]
          at laterShape

theorem sum_lowered (valid : session.Valid)
    (lowered : sum setting operator session = .ok ref after) :
    Lowered setting operator arguments session .sum ref after := by
  rcases Steps.bind_eq_ok.mp lowered with ⟨inputs, mid, resolved, built⟩
  have held := (resolveAll_valid valid resolved).1
  cases inputs with
  | nil => simp at built
  | cons first others =>
      rcases addAll_eq_ok (held first List.mem_cons_self)
        (fun ref later => held ref (List.mem_cons_of_mem _ later)) built with
        ⟨same_shape, rfl, rfl⟩
      exact .intro resolved (.sum same_shape) rfl

theorem softmax_lowered (lowered : softmax setting operator session = .ok ref after) :
    Lowered setting operator arguments session .softmax ref after := by
  rcases Steps.bind_eq_ok.mp lowered with ⟨selected, one, resolvedSelected, lowered⟩
  rcases Steps.bind_eq_ok.mp lowered with ⟨input, mid, resolvedInput, built⟩
  simp only [shape_bind, ofResult_bind_eq_ok, ofShapeResult_eq_ok] at built
  rcases built with ⟨⟨batch, features⟩, flat, built⟩
  rcases Graph.flattenRest_eq_ok.mp flat with ⟨rest, input_shape, rfl⟩
  simp only [onGraph_bind_eq_ok, onGraph_eq_ok, Graph.createReshape_eq_ok,
    Graph.createSoftmax_eq_ok] at built
  rcases built with ⟨_, _, ⟨_, rfl, rfl⟩, _, ⟨rfl, rfl⟩, rfl⟩
  have resolved : resolveAll (OperatorKind.softmax.activations setting operator) session =
      .ok [selected, input] mid :=
    resolveAll_cons_eq_ok.mpr
      ⟨selected, one, [input], resolvedSelected, resolveFirst_eq_ok resolvedInput, rfl⟩
  rw [Graph.length_nodes_withNode, Graph.shapeOf_withNode_new]
  exact .intro resolved (.softmax input_shape) rfl

theorem fullyConnected_lowered (valid : session.Valid)
    (lowered : fullyConnected setting operator session = .ok ref after) :
    Lowered setting operator arguments session .fc ref after := by
  rcases Steps.bind_eq_ok.mp lowered with ⟨input, mid, resolved, built⟩
  have held : mid.graph.holds input := (resolveAll_valid valid (resolveFirst_eq_ok resolved)).1 _
    (List.mem_singleton_self _)
  simp only [inputTensor_bind_eq_ok, ofResult_bind_eq_ok, onGraph_bind_eq_ok, onGraph_eq_ok,
    Graph.addVariable_eq_ok, Graph.createFullyConnected_eq_ok] at built
  rcases built with ⟨stored, stored_eq, weights, weights_eq, bias, bias_eq, _, _, ⟨rfl, rfl⟩, _, _,
    ⟨rfl, rfl⟩, _, ⟨batch, features, depth, flat, weights_shape, bias_shape, rfl, rfl⟩, rfl⟩
  rw [Graph.shapeOf_withVar (Graph.holds_withVar held), Graph.shapeOf_withVar held] at flat
  rcases Graph.flattenRest_eq_ok.mp flat with ⟨rest, input_shape, rfl⟩
  have weightsHeld : (mid.graph.withVar
      ⟨operator.title.part ".weights", .internal, .broadcast, weights⟩).holds
        (.var mid.graph.vars.length) := by
    simp [Graph.holds]
  rw [Graph.shapeOf_withVar weightsHeld, Graph.shapeOf_withVar_new] at weights_shape
  rw [Graph.shapeOf_withVar_new] at bias_shape
  exact .intro (resolveFirst_eq_ok resolved)
    (.fullyConnected stored_eq weights_eq bias_eq input_shape weights_shape bias_shape) (by simp)

theorem channelShuffle_lowered
    (lowered : channelShuffle setting operator arguments session = .ok ref after) :
    Lowered setting operator arguments session .channelShuffle ref after := by
  simp only [channelShuffle, ofResult_bind_eq_ok] at lowered
  rcases lowered with ⟨group, group_eq, axis, axis_eq, lowered⟩
  rcases Steps.bind_eq_ok.mp lowered with ⟨input, mid, resolved, built⟩
  simp only [onGraph_eq_ok, Graph.createChannelShuffle_eq_ok] at built
  rcases built with ⟨_, ⟨inRange, divides, rfl, rfl⟩, rfl⟩
  exact .intro (resolveFirst_eq_ok resolved)
    (.channelShuffle group_eq axis_eq inRange divides) rfl

theorem squeeze_lowered (lowered : squeeze setting operator arguments session = .ok ref after) :
    Lowered setting operator arguments session .squeeze ref after := by
  simp only [squeeze, ofResult_bind_eq_ok] at lowered
  rcases lowered with ⟨axes, axes_eq, lowered⟩
  rcases Steps.bind_eq_ok.mp lowered with ⟨input, mid, resolved, built⟩
  simp only [onGraph_eq_ok, Graph.createSqueeze_eq_ok] at built
  rcases built with ⟨_, ⟨single, rfl, rfl⟩, rfl⟩
  exact .intro (resolveFirst_eq_ok resolved) (.squeeze axes_eq single) rfl

/-- A rule that succeeds has resolved the inputs of its kind and emitted what is listed for it. -/
theorem rule_lowered {kind : OperatorKind} (valid : session.Valid)
    (lowered : rule setting operator arguments kind session = .ok ref after) :
    Lowered setting operator arguments session kind ref after := by
  cases kind with
  | relu => exact elementwise_lowered rfl rfl lowered
  | sigmoid => exact elementwise_lowered rfl rfl lowered
  | tanh => exact elementwise_lowered rfl rfl lowered
  | dropout => exact dropout_lowered lowered
  | conv => exact convolution_lowered valid lowered
  | maxPool => exact pooling_lowered rfl rfl lowered
  | averagePool => exact pooling_lowered rfl rfl lowered
  | spatialBN => exact batchNormalization_lowered lowered
  | concat => exact concatenation_lowered lowered
  | sum => exact sum_lowered valid lowered
  | mul => exact arithmetic_lowered valid rfl rfl lowered
  | add => exact arithmetic_lowered valid rfl rfl lowered
  | softmax => exact softmax_lowered lowered
  | fc => exact fullyConnected_lowered valid lowered
  | lrn => exact localResponseNormalization_lowered lowered
  | channelShuffle => exact channelShuffle_lowered lowered
  | squeeze => exact squeeze_lowered lowered

/-- An operator that is lowered resolves its inputs and binds its outputs behind their names. -/
theorem lowerOperator_resolves {kind : OperatorKind} (valid : session.Valid)
    (known : OperatorKind.ofLabel? operator.type = some kind)
    (lowered : lowerOperator setting operator session = .ok ref after) :
    ∃ inputs mid, resolveAll (kind.activations setting operator) session = .ok inputs mid ∧
      Emits setting session.tensors operator (Arguments.ofList kind.type operator.arguments)
        mid.graph kind inputs ref after.graph ∧
      after.names = mid.names.bindAll operator.outputs ref := by
  rcases lowerOperator_eq_ok.mp lowered with ⟨same, _, alsoKnown, ruleSucceeds, rfl⟩
  rcases Option.some.inj (known.symm.trans alsoKnown) with rfl
  rcases rule_lowered valid ruleSucceeds with @⟨inputs, mid, grown, resolved, emits, rfl⟩
  rw [(resolveAll_growsTo resolved).tensors] at emits
  exact ⟨inputs, mid, resolved, emits, rfl⟩

/-- An operator that is lowered resolves its inputs and emits what is listed for its kind. -/
theorem lowerOperator_emits {kind : OperatorKind} (valid : session.Valid)
    (known : OperatorKind.ofLabel? operator.type = some kind)
    (lowered : lowerOperator setting operator session = .ok ref after) :
    ∃ inputs mid grown,
      resolveAll (kind.activations setting operator) session = .ok inputs mid ∧
        Emits setting session.tensors operator (Arguments.ofList kind.type operator.arguments)
          mid.graph kind inputs ref grown ∧
        after.graph = grown := by
  rcases lowerOperator_resolves valid known lowered with ⟨inputs, mid, resolved, emits, _⟩
  exact ⟨inputs, mid, after.graph, resolved, emits, rfl⟩

end Lower

end NetImport
