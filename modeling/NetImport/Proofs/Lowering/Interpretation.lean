import NetImport.Proofs.Graph.Evaluation
import NetImport.Proofs.Lowering.Emission

/-!
# What operators compute

Every kind of operator is documented to compute a composition of operations of graphs. Given an
interpretation of these, an operator means a function of what its activation inputs mean, of its
arguments and of the stored tensors that are its weights. The main statement is that what an
operator emits denotes what the operator computes.
-/

namespace NetImport

open Descriptor

variable {Value : Type}

namespace Meaning

variable (meaning : Meaning Value) (tensors : TensorStore) (operator : Operator)
  (arguments : Arguments)

def transposed (permutation : List Int) (operand : Sense Value) : Sense Value :=
  meaning.applied (.transpose permutation) [operand] (permutation.map operand.shape.extentAt)

/-- A spatial operation between the transpositions that move the channels last and back again. -/
def spatial (operation : Operation) (input : Sense Value)
    (parameters : List (Sense Value)) (output : Shape) : Sense Value :=
  let moved := meaning.transposed Lower.channelsLast input
  meaning.transposed Lower.channelsFirst (meaning.applied operation (moved :: parameters) output)

/-- A convolution with the transposed stored filter, and with the stored bias or zeros. -/
def convolution (input : Sense Value) : Except Error (Sense Value) := do
  let stride ← arguments.int "stride" (some 1)
  let pad ← arguments.int "pad" (some 0)
  let kernel ← arguments.int "kernel" none
  let group ← arguments.int "group" (some 1)
  let stored ← Lower.storedInput tensors operator 1
  let filter ← stored.transpose Lower.filterChannelsLast
  let depth := filter.shape.extentAt 0
  let bias ← Lower.storedBias tensors operator depth
  let (outHeight, outWidth) ← ofShapeResult (Shape.windowOutput (input.shape.extentAt 2)
    (input.shape.extentAt 3) kernel stride pad)
  return meaning.spatial (.convolution ⟨kernel, stride, pad⟩ group) input
    [meaning.stored filter, meaning.stored bias]
    [input.shape.extentAt 0, outHeight, outWidth, depth]

/-- A pooling, over windows as high as the input if it is global. -/
def pooling (operation : Window → Operation) (input : Sense Value) :
    Except Error (Sense Value) := do
  let stride ← arguments.int "stride" none
  let kernel ← arguments.int "kernel" none
  let pad ← arguments.int "pad" (some 0)
  let isGlobal ← arguments.int "global_pooling" (some 0)
  let window : Window := ⟨if isGlobal ≠ 0 then input.shape.extentAt 2 else kernel, stride, pad⟩
  let (outHeight, outWidth) ← ofShapeResult (Shape.windowOutput (input.shape.extentAt 2)
    (input.shape.extentAt 3) window.kernel stride pad)
  return meaning.spatial (operation window) input []
    [input.shape.extentAt 0, outHeight, outWidth, input.shape.extentAt 1]

def localResponseNormalization (input : Sense Value) : Except Error (Sense Value) := do
  let size ← arguments.int "size" none
  let alpha ← arguments.float "alpha" none
  let beta ← arguments.float "beta" none
  let bias ← arguments.float "bias" none
  return meaning.spatial (.localResponseNormalization (Int.fdiv size 2) alpha beta bias) input []
    (Lower.channelsLast.map input.shape.extentAt)

/-- A batch normalisation with the stored scale, bias, mean and variance. -/
def batchNormalization (input : Sense Value) : Except Error (Sense Value) := do
  let scale ← Lower.storedInput tensors operator 1
  let bias ← Lower.storedInput tensors operator 2
  let mean ← Lower.storedInput tensors operator 3
  let variance ← Lower.storedInput tensors operator 4
  let epsilon ← arguments.float "epsilon" (some Lower.defaultEpsilon)
  let channel ← arguments.channelAxis
  return meaning.applied (.batchNormalization channel epsilon Graph.defaultMomentum)
    [input, meaning.stored scale, meaning.stored bias, meaning.stored mean, meaning.stored variance]
    input.shape

def concatenation (first : Sense Value) (others : List (Sense Value)) :
    Except Error (Sense Value) := do
  let channel ← arguments.channelAxis
  let extents := (first :: others).map fun input => input.shape.extentAt channel
  return meaning.applied (.concat channel) (first :: others)
    (first.shape.set channel.toNat (extents.foldr (· + ·) 0))

/-- A product or sum; on request, the second input is expanded to the shape of the first one. -/
def arithmetic (operation : Operation) (left right : Sense Value) :
    Except Error (Sense Value) := do
  let broadcast ← arguments.int "broadcast" none
  if broadcast = 1 then
    let axis ← arguments.int "axis" none
    let aligned := Shape.broadcastAxis axis left.shape.length right.shape.length
    let expanded := meaning.applied (.broadcast aligned) [right] left.shape
    return meaning.applied operation [left, expanded] left.shape
  else return meaning.applied operation [left, right] left.shape

def sum (total : Sense Value) : List (Sense Value) → Sense Value
  | [] => total
  | input :: inputs => sum (meaning.applied .add [total, input] total.shape) inputs

/-- Normalised exponentials of the input, flattened behind its first axis. -/
def softmax (selected input : Sense Value) : Except Error (Sense Value) := do
  let (batch, features) ← ofShapeResult input.shape.flattenRest
  let flat := meaning.applied (.reshape [batch, features]) [input] [batch, features]
  return meaning.applied .softmax [flat, selected] [batch, features]

/-- A fully connected layer with the transposed stored weights and the stored bias. -/
def fullyConnected (input : Sense Value) : Except Error (Sense Value) := do
  let stored ← Lower.storedInput tensors operator 1
  let weights ← stored.transpose [1, 0]
  let bias ← Lower.storedInput tensors operator 2
  return meaning.applied .fullyConnected [input, meaning.stored weights, meaning.stored bias]
    [input.shape.extentAt 0, weights.shape.extentAt 1]

def channelShuffle (input : Sense Value) : Except Error (Sense Value) := do
  let group ← arguments.int "group" none
  let axis ← arguments.int "kernel" none
  return meaning.applied (.channelShuffle group axis) [input] input.shape

def squeeze (input : Sense Value) : Except Error (Sense Value) := do
  let axes ← arguments.ints "dims" none
  let axes := Graph.sortedAxes axes
  return meaning.applied (.squeeze axes) [input] (Graph.dropAxes input.shape axes)

/-- What an operator computes from what its activation inputs mean. -/
def compute : OperatorKind → List (Sense Value) → Except Error (Sense Value)
  | .relu, [input] => .ok (meaning.applied .relu [input] input.shape)
  | .sigmoid, [input] => .ok (meaning.applied .sigmoid [input] input.shape)
  | .tanh, [input] => .ok (meaning.applied .tanh [input] input.shape)
  | .dropout, [input] => .ok input
  | .conv, [input] => meaning.convolution tensors operator arguments input
  | .maxPool, [input] => meaning.pooling arguments .poolMax input
  | .averagePool, [input] => meaning.pooling arguments .poolAvg input
  | .spatialBN, [input] => meaning.batchNormalization tensors operator arguments input
  | .concat, first :: others => meaning.concatenation arguments first others
  | .sum, first :: others => .ok (meaning.sum first others)
  | .mul, [left, right] => meaning.arithmetic arguments .mul left right
  | .add, [left, right] => meaning.arithmetic arguments .add left right
  | .softmax, [selected, input] => meaning.softmax selected input
  | .fc, [input] => meaning.fullyConnected tensors operator input
  | .lrn, [input] => meaning.localResponseNormalization arguments input
  | .channelShuffle, [input] => meaning.channelShuffle arguments input
  | .squeeze, [input] => meaning.squeeze arguments input
  | _, inputs =>
    .error (.missingInput operator.type operator.title inputs.length operator.inputs.length)

end Meaning

/-! ## What is emitted -/

namespace Graph

variable {meaning : Meaning Value} {graph : Graph} {function : Nat} {name : Label} {input : Ref}
  {sense : Sense Value} {senses : List (Sense Value)}

theorem denotes_withSpatial {operation : Operation} {parameters : List Ref}
    {batch height width channels outHeight outWidth depth : Int}
    (denotes : graph.Denotes meaning input sense)
    (shape_eq : sense.shape = [batch, channels, height, width])
    (parametersDenote : List.Forall₂ (graph.Denotes meaning) parameters senses) :
    (graph.withSpatial function name input operation parameters
        batch height width channels outHeight outWidth depth).Denotes meaning
      (.node (graph.nodes.length + 2))
      (meaning.spatial operation sense senses [batch, outHeight, outWidth, depth]) := by
  simp only [withSpatial, Meaning.spatial, Meaning.transposed, shape_eq]
  refine denotes_withNode (by simp) (.cons (denotes_withNode (by simp) (.cons ?_ ?_)) .nil)
  · exact denotes_withNode rfl (.cons denotes .nil)
  · exact parametersDenote.imp fun _ _ => Denotes.grows (growsTo_withNode _ _)

theorem denotes_withSum {others : List Ref} {total : Ref}
    (denotes : graph.Denotes meaning total sense)
    (othersDenote : List.Forall₂ (graph.Denotes meaning) others senses) :
    (withSum function name graph total others).2.Denotes meaning
      (withSum function name graph total others).1 (meaning.sum sense senses) := by
  induction others generalizing graph total sense senses with
  | nil =>
      rcases List.forall₂_nil_left_iff.mp othersDenote with rfl
      exact denotes
  | cons other others hypothesis =>
      rcases List.forall₂_cons_left_iff.mp othersDenote with
        ⟨added, senses, addedDenotes, restDenote, rfl⟩
      let next : Node := ⟨function, name, .add, [total, other], graph.shapeOf total⟩
      have grows := growsTo_withNode graph next
      have sumDenotes : (graph.withNode next).Denotes meaning (.node graph.nodes.length)
          (meaning.applied .add [sense, added] (graph.shapeOf total)) :=
        denotes_withNode rfl (.cons denotes (.cons addedDenotes .nil))
      simp only [withSum, Meaning.sum, denotes.shape_eq]
      exact hypothesis sumDenotes (restDenote.imp fun _ _ => Denotes.grows grows)

end Graph

namespace Lower

variable {meaning : Meaning Value} {setting : Setting} {tensors : TensorStore}
  {operator : Operator} {arguments : Arguments} {graph grown : Graph} {kind : OperatorKind}
  {inputs : List Ref} {ref : Ref} {senses : List (Sense Value)}

theorem denotes_single {input : Ref}
    (inputsDenote : List.Forall₂ (graph.Denotes meaning) [input] senses) :
    ∃ sense, senses = [sense] ∧ graph.Denotes meaning input sense := by
  rcases List.forall₂_cons_left_iff.mp inputsDenote with ⟨sense, _, denotes, rest, rfl⟩
  rcases List.forall₂_nil_left_iff.mp rest with rfl
  exact ⟨sense, rfl, denotes⟩

theorem denotes_pair {left right : Ref}
    (inputsDenote : List.Forall₂ (graph.Denotes meaning) [left, right] senses) :
    ∃ first second, senses = [first, second] ∧ graph.Denotes meaning left first ∧
      graph.Denotes meaning right second := by
  rcases List.forall₂_cons_left_iff.mp inputsDenote with ⟨first, _, leftDenotes, rest, rfl⟩
  rcases denotes_single rest with ⟨second, rfl, rightDenotes⟩
  exact ⟨first, second, rfl, leftDenotes, rightDenotes⟩

theorem shapes_of_denotes (inputsDenote : List.Forall₂ (graph.Denotes meaning) inputs senses) :
    senses.map Sense.shape = inputs.map graph.shapeOf := by
  induction inputsDenote with
  | nil => rfl
  | cons denotes _ hypothesis =>
      rw [List.map_cons, List.map_cons, denotes.shape_eq, hypothesis]

section

variable (batch channels height width : Int)

theorem extentAt_batch : Shape.extentAt [batch, channels, height, width] 0 = batch := rfl

theorem extentAt_channels : Shape.extentAt [batch, channels, height, width] 1 = channels := rfl

theorem extentAt_height : Shape.extentAt [batch, channels, height, width] 2 = height := rfl

theorem extentAt_width : Shape.extentAt [batch, channels, height, width] 3 = width := rfl

end

theorem compute_elementwise {operation : Operation} (applies : kind.elementwise? = some operation)
    (input : Sense Value) :
    meaning.compute tensors operator arguments kind [input] =
      .ok (meaning.applied operation [input] input.shape) := by
  cases kind <;> rcases applies with ⟨⟩ <;> rfl

theorem compute_pooling {operation : Window → Operation} (pools : kind.pooling? = some operation)
    (input : Sense Value) :
    meaning.compute tensors operator arguments kind [input] =
      meaning.pooling arguments operation input := by
  cases kind <;> rcases pools with ⟨⟩ <;> rfl

theorem compute_pairwise {operation : Operation} (combines : kind.pairwise? = some operation)
    (left right : Sense Value) :
    meaning.compute tensors operator arguments kind [left, right] =
      meaning.arithmetic arguments operation left right := by
  cases kind <;> rcases combines with ⟨⟩ <;> rfl

/-- What an operator emits denotes what it computes. -/
theorem emits_denotes (emits : Emits setting tensors operator arguments graph kind inputs ref grown)
    (inputsDenote : List.Forall₂ (graph.Denotes meaning) inputs senses) :
    ∃ sense, meaning.compute tensors operator arguments kind senses = .ok sense ∧
      grown.Denotes meaning ref sense := by
  cases emits with
  | elementwise applies =>
      rcases denotes_single inputsDenote with ⟨sense, rfl, denotes⟩
      refine ⟨_, compute_elementwise applies sense, ?_⟩
      rw [denotes.shape_eq]
      exact Graph.denotes_withNode rfl (.cons denotes .nil)
  | dropout =>
      rcases denotes_single inputsDenote with ⟨sense, rfl, denotes⟩
      exact ⟨sense, rfl, denotes⟩
  | @convolution input stored weights bias stride pad kernel group batch channels height width
      outHeight outWidth depth stride_eq pad_eq kernel_eq group_eq _ stored_eq weights_eq bias_eq
      input_shape weights_shape _ _ _ _ fits =>
      rcases denotes_single inputsDenote with ⟨sense, rfl, denotes⟩
      have shape_eq := denotes.shape_eq.trans input_shape
      have depth_eq : weights.shape.extentAt 0 = depth := by rw [weights_shape]; rfl
      have computes : meaning.convolution tensors operator arguments sense =
          .ok (meaning.spatial (.convolution ⟨kernel, stride, pad⟩ group) sense
            [meaning.stored weights, meaning.stored bias] [batch, outHeight, outWidth, depth]) := by
        simp only [Meaning.convolution, stride_eq, pad_eq, kernel_eq, group_eq, stored_eq,
          weights_eq, depth_eq, bias_eq, shape_eq, extentAt_batch, extentAt_height, extentAt_width,
          fits, bind, Except.bind]
        rfl
      refine ⟨_, computes, Graph.denotes_withSpatial denotes.withVar.withVar shape_eq ?_⟩
      refine .cons ?_ (.cons ?_ .nil)
      · exact (Graph.denotes_withVar rfl).withVar
      · exact Graph.denotes_withVar (by simp)
  | @pooling _ operation input stride pad kernel isGlobal batch channels height width outHeight
      outWidth pools stride_eq kernel_eq pad_eq _ global_eq _ input_shape fits =>
      rcases denotes_single inputsDenote with ⟨sense, rfl, denotes⟩
      have shape_eq := denotes.shape_eq.trans input_shape
      let window : Window := ⟨if isGlobal ≠ 0 then height else kernel, stride, pad⟩
      have computes : meaning.pooling arguments operation sense =
          .ok (meaning.spatial (operation window) sense []
            [batch, outHeight, outWidth, channels]) := by
        simp only [Meaning.pooling, stride_eq, kernel_eq, pad_eq, global_eq, shape_eq,
          extentAt_batch, extentAt_channels, extentAt_height, extentAt_width, fits, bind,
          Except.bind]
        rfl
      refine ⟨_, (compute_pooling pools sense).trans computes, ?_⟩
      exact Graph.denotes_withSpatial denotes shape_eq .nil
  | @localResponseNormalization input size alpha beta bias batch channels height width size_eq
      alpha_eq beta_eq bias_eq input_shape =>
      rcases denotes_single inputsDenote with ⟨sense, rfl, denotes⟩
      have shape_eq := denotes.shape_eq.trans input_shape
      have computes : meaning.localResponseNormalization arguments sense =
          .ok (meaning.spatial (.localResponseNormalization (Int.fdiv size 2) alpha beta bias)
            sense [] [batch, height, width, channels]) := by
        simp only [Meaning.localResponseNormalization, size_eq, alpha_eq, beta_eq, bias_eq,
          shape_eq, bind, Except.bind]
        rfl
      exact ⟨_, computes, Graph.denotes_withSpatial denotes shape_eq .nil⟩
  | @batchNormalization input scale bias mean variance epsilon channel scale_eq bias_eq mean_eq
      variance_eq epsilon_eq channel_eq _ _ =>
      rcases denotes_single inputsDenote with ⟨sense, rfl, denotes⟩
      have computes : meaning.batchNormalization tensors operator arguments sense =
          .ok (meaning.applied (.batchNormalization channel epsilon Graph.defaultMomentum)
            [sense, meaning.stored scale, meaning.stored bias, meaning.stored mean,
              meaning.stored variance] sense.shape) := by
        simp only [Meaning.batchNormalization, scale_eq, bias_eq, mean_eq, variance_eq, epsilon_eq,
          channel_eq, bind, Except.bind]
        rfl
      refine ⟨_, computes, ?_⟩
      rw [denotes.shape_eq]
      apply Graph.denotes_withNode rfl
      refine .cons denotes.withVar.withVar.withVar.withVar ?_
      refine .cons ?_ (.cons ?_ (.cons ?_ (.cons ?_ .nil)))
      · exact (Graph.denotes_withVar rfl).withVar.withVar.withVar
      · exact (Graph.denotes_withVar (by simp)).withVar.withVar
      · exact (Graph.denotes_withVar (by simp)).withVar
      · exact Graph.denotes_withVar (by simp)
  | @concatenation inputs channel first others channel_eq shapes_eq _ _ =>
      rw [← shapes_of_denotes inputsDenote] at shapes_eq
      rcases List.map_eq_cons_iff.mp shapes_eq with ⟨head, tail, rfl, rfl, rfl⟩
      have computes : meaning.concatenation arguments head tail =
          .ok (meaning.applied (.concat channel) (head :: tail) (head.shape.set channel.toNat
            (((head :: tail).map fun input => input.shape.extentAt channel).foldr (· + ·) 0))) := by
        simp only [Meaning.concatenation, channel_eq, bind, Except.bind]
        rfl
      refine ⟨_, computes, ?_⟩
      rw [← List.map_cons, List.map_map]
      exact Graph.denotes_withNode rfl inputsDenote
  | @arithmetic _ operation left right combines broadcast_eq same_shape =>
      rcases denotes_pair inputsDenote with ⟨first, second, rfl, leftDenotes, rightDenotes⟩
      have computes : meaning.arithmetic arguments operation first second =
          .ok (meaning.applied operation [first, second] first.shape) := by
        simp only [Meaning.arithmetic, broadcast_eq, bind, Except.bind]
        rfl
      refine ⟨_, (compute_pairwise combines first second).trans computes, ?_⟩
      rw [leftDenotes.shape_eq]
      exact Graph.denotes_withNode rfl (.cons leftDenotes (.cons rightDenotes .nil))
  | @broadcastArithmetic _ operation left right axis aligned combines broadcast_eq axis_eq
      aligned_eq _ =>
      rcases denotes_pair inputsDenote with ⟨first, second, rfl, leftDenotes, rightDenotes⟩
      rw [← leftDenotes.shape_eq, ← rightDenotes.shape_eq] at aligned_eq
      have computes : meaning.arithmetic arguments operation first second =
          .ok (meaning.applied operation
            [first, meaning.applied (.broadcast aligned) [second] first.shape] first.shape) := by
        simp only [Meaning.arithmetic, broadcast_eq, axis_eq, aligned_eq, bind, Except.bind]
        rfl
      refine ⟨_, (compute_pairwise combines first second).trans computes, ?_⟩
      rw [leftDenotes.shape_eq]
      apply Graph.denotes_withNode (by simp)
      refine .cons (leftDenotes.grows (Graph.growsTo_withNode _ _)) (.cons ?_ .nil)
      exact Graph.denotes_withNode rfl (.cons rightDenotes .nil)
  | sum _ =>
      rcases List.forall₂_cons_left_iff.mp inputsDenote with
        ⟨first, others, firstDenotes, othersDenote, rfl⟩
      exact ⟨meaning.sum first others, rfl, Graph.denotes_withSum firstDenotes othersDenote⟩
  | @softmax selected input batch rest input_shape =>
      rcases denotes_pair inputsDenote with
        ⟨selection, sense, rfl, selectedDenotes, inputDenotes⟩
      have shape_eq := inputDenotes.shape_eq.trans input_shape
      have computes : meaning.softmax selection sense =
          .ok (meaning.applied .softmax
            [meaning.applied (.reshape [batch, rest.size]) [sense] [batch, rest.size],
              selection] [batch, rest.size]) := by
        simp only [Meaning.softmax, shape_eq]
        rfl
      refine ⟨_, computes, Graph.denotes_withNode (by simp) (.cons ?_ (.cons ?_ .nil))⟩
      · exact Graph.denotes_withNode rfl (.cons inputDenotes .nil)
      · exact selectedDenotes.grows (Graph.growsTo_withNode _ _)
  | @fullyConnected input stored weights bias batch depth rest stored_eq weights_eq bias_eq
      input_shape weights_shape _ =>
      rcases denotes_single inputsDenote with ⟨sense, rfl, denotes⟩
      have shape_eq := denotes.shape_eq.trans input_shape
      have computes : meaning.fullyConnected tensors operator sense =
          .ok (meaning.applied .fullyConnected
            [sense, meaning.stored weights, meaning.stored bias] [batch, depth]) := by
        simp only [Meaning.fullyConnected, stored_eq, weights_eq, bias_eq, shape_eq, weights_shape,
          bind, Except.bind]
        rfl
      refine ⟨_, computes, Graph.denotes_withNode rfl (.cons denotes.withVar.withVar ?_)⟩
      refine .cons ?_ (.cons ?_ .nil)
      · exact (Graph.denotes_withVar rfl).withVar
      · exact Graph.denotes_withVar (by simp)
  | @channelShuffle input group axis group_eq axis_eq _ _ =>
      rcases denotes_single inputsDenote with ⟨sense, rfl, denotes⟩
      have computes : meaning.channelShuffle arguments sense =
          .ok (meaning.applied (.channelShuffle group axis) [sense] sense.shape) := by
        simp only [Meaning.channelShuffle, group_eq, axis_eq, bind, Except.bind]
        rfl
      refine ⟨_, computes, ?_⟩
      rw [denotes.shape_eq]
      exact Graph.denotes_withNode rfl (.cons denotes .nil)
  | @squeeze input axes axes_eq _ =>
      rcases denotes_single inputsDenote with ⟨sense, rfl, denotes⟩
      have computes : meaning.squeeze arguments sense =
          .ok (meaning.applied (.squeeze (Graph.sortedAxes axes)) [sense]
            (Graph.dropAxes sense.shape (Graph.sortedAxes axes))) := by
        simp only [Meaning.squeeze, axes_eq, bind, Except.bind]
        rfl
      refine ⟨_, computes, ?_⟩
      rw [denotes.shape_eq]
      exact Graph.denotes_withNode rfl (.cons denotes .nil)

end Lower

end NetImport
