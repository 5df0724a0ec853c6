import Mathlib.Algebra.BigOperators.Ring.Finset
import NetImport.Proofs.Lowering.Interpretation
import NetImport.Proofs.Tensor

/-!
# Layouts of convolutions and layers

Operators have the channels of a tensor on the second axis, and list the outputs of stored weights
first; spatial nodes have the channels last, and a layer lists the features of its weights first. In
between stand permutations of axes, of the input, of the stored weights and of the result. This file
reads values as grids of numbers from a commutative ring, a transposition as the permutation of
indices that it is, and convolutions and layers of graphs as sums of products in the layout of
graphs. What a convolution or a layer of a network publishes is then the sum of products in the
layout of operators.
-/

namespace NetImport

open Descriptor
open Finset (range)

/-- Numbers at the multi-indices of a shape. -/
structure Grid (Number : Type) where
  shape : Shape
  cell : List Int → Number

namespace Grid

variable {Number : Type} [CommRing Number]

/-- A multi-index lies inside a shape if each of its positions lies within the extent. -/
def Inside (shape : Shape) (index : List Int) : Prop :=
  List.Forall₂ (fun position extent => 0 ≤ position ∧ position < extent) index shape

instance (shape : Shape) (index : List Int) : Decidable (Inside shape index) :=
  inferInstanceAs (Decidable (List.Forall₂ _ _ _))

/-- The number at a multi-index; outside of the grid there are zeros. -/
def read (grid : Grid Number) (index : List Int) : Number :=
  if Inside grid.shape index then grid.cell index else 0

/-- The numbers of a tensor as elements of a ring. -/
def ofTensor (embed : Binary32 → Number) (tensor : Tensor) : Grid Number :=
  ⟨tensor.shape, fun index => embed (tensor.get (index.map Int.toNat))⟩

/-- The axis of the result that is listed `i`-th is axis number `i` of the operand. -/
def transposed (permutation : List Int) (grid : Grid Number) (index : List Int) : Number :=
  grid.read ((List.range permutation.length).map fun axis => index.getD (permutation.idxOf axis) 0)

/--
A grouped convolution with the channels last: the input is `[n, h, w, c]`, the filter is
`[depth, kernel, kernel, c / group]`, and the padding holds zeros.
-/
def convolved (window : Window) (group : Int) (input filter bias : Grid Number) :
    List Int → Number
  | [n, i, j, k] =>
    let depth := filter.shape.extentAt 0
    let channels := input.shape.extentAt 3 / group
    bias.read [k] + ∑ r ∈ range window.kernel.toNat, ∑ s ∈ range window.kernel.toNat,
      ∑ c ∈ range channels.toNat,
        input.read [n, i * window.stride - window.pad + r, j * window.stride - window.pad + s,
          k / (depth / group) * channels + c] * filter.read [k, r, s, c]
  | _ => 0

/-- All axes behind the first one, in row-major order, as a single axis. -/
def flattened (grid : Grid Number) : Grid Number :=
  match grid.shape with
  | [] => ⟨[], fun _ => 0⟩
  | batch :: rest =>
    ⟨[batch, Shape.size rest], fun index =>
      grid.read (index.getD 0 0 ::
        (unflatten (rest.map Int.toNat) (index.getD 1 0).toNat).map Int.ofNat)⟩

/-- The flattened input times the weights, which are `[features, depth]`, plus the bias. -/
def connected (input weights bias : Grid Number) : List Int → Number
  | [n, m] =>
    ∑ f ∈ range (input.flattened.shape.extentAt 1).toNat,
      input.flattened.read [n, f] * weights.read [f, m] + bias.read [m]
  | _ => 0

/--
Transpositions, convolutions and layers as they are documented, all other operations and the values
of the caller's variables as one likes.
-/
def meaning (embed : Binary32 → Number) (given : Nat → Grid Number)
    (others : Operation → List (Grid Number) → Shape → List Int → Number) :
    Meaning (Grid Number) where
  held := ofTensor embed
  given := given
  apply operation operands shape :=
    ⟨shape,
      match operation, operands with
      | .transpose permutation, [operand] => operand.transposed permutation
      | .convolution window group, [input, filter, bias] => convolved window group input filter bias
      | .fullyConnected, [input, weights, bias] => connected input weights bias
      | operation, operands => others operation operands shape⟩

/--
A grouped convolution with the channels second: the input is `[n, c, h, w]`, the weights are
`[depth, c / group, kernel, kernel]`, and the padding holds zeros.
-/
def direct (window : Window) (group : Int) (input weights : Grid Number) (bias : Int → Number)
    (n k i j : Int) : Number :=
  let depth := weights.shape.extentAt 0
  let channels := input.shape.extentAt 1 / group
  bias k + ∑ r ∈ range window.kernel.toNat, ∑ s ∈ range window.kernel.toNat,
    ∑ c ∈ range channels.toNat,
      input.read [n, k / (depth / group) * channels + c, i * window.stride - window.pad + r,
        j * window.stride - window.pad + s] * weights.read [k, c, r, s]

/-- The numbers of an optional tensor of one axis; there are zeros if there is none. -/
def biasOf (embed : Binary32 → Number) (stored : Option Tensor) (k : Int) : Number :=
  match stored with
  | some tensor => (ofTensor embed tensor).read [k]
  | none => 0

/-! ## Reading grids -/

variable {grid other : Grid Number} {embed : Binary32 → Number} {tensor result : Tensor}
  {given : Nat → Grid Number} {others : Operation → List (Grid Number) → Shape → List Int → Number}

theorem inside_pair {first second i j : Int} :
    Inside [first, second] [i, j] ↔ (0 ≤ i ∧ i < first) ∧ (0 ≤ j ∧ j < second) := by
  simp [Inside]

theorem inside_quadruple {first second third fourth i j k l : Int} :
    Inside [first, second, third, fourth] [i, j, k, l] ↔
      (0 ≤ i ∧ i < first) ∧ (0 ≤ j ∧ j < second) ∧ (0 ≤ k ∧ k < third) ∧
        (0 ≤ l ∧ l < fourth) := by
  simp [Inside]

theorem read_of_inside {index : List Int} (inside : Inside grid.shape index) :
    grid.read index = grid.cell index := if_pos inside

/-- What is read from a grid is what is read from another one if both are left together. -/
theorem read_congr {index otherIndex : List Int}
    (together : Inside grid.shape index ↔ Inside other.shape otherIndex)
    (same : Inside grid.shape index → grid.cell index = other.read otherIndex) :
    grid.read index = other.read otherIndex := by
  by_cases inside : Inside grid.shape index
  · rw [read_of_inside inside, same inside]
  · rw [read, if_neg inside, read, if_neg (mt together.mpr inside)]

theorem within_of_inside {extents : List Nat} {index : List Int}
    (inside : Inside (extents.map Int.ofNat) index) : Within extents (index.map Int.toNat) := by
  rw [Inside, List.forall₂_map_right_iff] at inside
  rw [Within, List.forall₂_map_left_iff]
  refine inside.imp ?_
  rintro position extent ⟨nonNegative, below⟩
  have cast : Int.ofNat extent = (extent : Int) := rfl
  omega

/-- A stored filter reads the same with its channels last, once it is transposed. -/
theorem read_filter (moved : tensor.transpose Lower.filterChannelsLast = .ok result)
    (k c r s : Int) :
    (ofTensor embed result).read [k, r, s, c] = (ofTensor embed tensor).read [k, c, r, s] := by
  have axes : Tensor.resolveAxes 4 Lower.filterChannelsLast [] = .ok [0, 2, 3, 1] := rfl
  rcases Tensor.get_of_transpose moved (by decide) axes with ⟨rank, extents_eq, cells⟩
  rcases List.length_eq_four.mp rank with ⟨depth, channels, height, width, stored_extents⟩
  have together : Inside result.shape [k, r, s, c] ↔ Inside tensor.shape [k, c, r, s] := by
    simp only [Tensor.shape, extents_eq, stored_extents, List.map_cons, List.map_nil,
      inside_quadruple]
    tauto
  refine read_congr together ?_
  intro inside
  rw [read_of_inside (together.mp inside)]
  simp only [ofTensor, cells _ (within_of_inside inside)]
  rfl

/-- Stored weights read the same with their features first, once they are transposed. -/
theorem read_weights (moved : tensor.transpose [1, 0] = .ok result) (f m : Int) :
    (ofTensor embed result).read [f, m] = (ofTensor embed tensor).read [m, f] := by
  have axes : Tensor.resolveAxes 2 [1, 0] [] = .ok [1, 0] := rfl
  rcases Tensor.get_of_transpose moved (by decide) axes with ⟨rank, extents_eq, cells⟩
  rcases List.length_eq_two.mp rank with ⟨depth, features, stored_extents⟩
  have together : Inside result.shape [f, m] ↔ Inside tensor.shape [m, f] := by
    simp only [Tensor.shape, extents_eq, stored_extents, List.map_cons, List.map_nil, inside_pair]
    exact And.comm
  refine read_congr together ?_
  intro inside
  rw [read_of_inside (together.mp inside)]
  simp only [ofTensor, cells _ (within_of_inside inside)]
  rfl

theorem read_channelsLast {batch channels height width : Int}
    (shape_eq : grid.shape = [batch, channels, height, width]) (n i j c : Int) :
    read ⟨[batch, height, width, channels], grid.transposed Lower.channelsLast⟩ [n, i, j, c] =
      grid.read [n, c, i, j] := by
  refine read_congr ?_ fun _ => rfl
  simp only [shape_eq, inside_quadruple]
  tauto

theorem read_channelsFirst {batch channels height width : Int}
    (shape_eq : grid.shape = [batch, height, width, channels]) (n c i j : Int) :
    read ⟨[batch, channels, height, width], grid.transposed Lower.channelsFirst⟩ [n, c, i, j] =
      grid.read [n, i, j, c] := by
  refine read_congr ?_ fun _ => rfl
  simp only [shape_eq, inside_quadruple]
  tauto

/-! ## What convolutions and layers mean -/

/-- Between its two transpositions, a convolution of a graph is one with the channels second. -/
theorem read_convolution {window : Window} {group batch channels height width : Int}
    {outHeight outWidth depth n k i j : Int} {input filter bias : Sense (Grid Number)}
    {weights : Grid Number} (input_shape : input.shape = [batch, channels, height, width])
    (value_shape : input.value.shape = input.shape)
    (same_depth : filter.value.shape.extentAt 0 = weights.shape.extentAt 0)
    (moved : ∀ k c r s, filter.value.read [k, r, s, c] = weights.read [k, c, r, s])
    (inside : Inside [batch, depth, outHeight, outWidth] [n, k, i, j]) :
    ((meaning embed given others).spatial (.convolution window group) input [filter, bias]
        [batch, outHeight, outWidth, depth]).value.read [n, k, i, j] =
      direct window group input.value weights (fun k => bias.value.read [k]) n k i j := by
  let last : Grid Number :=
    ⟨[batch, height, width, channels], input.value.transposed Lower.channelsLast⟩
  let convolution : Grid Number :=
    ⟨[batch, outHeight, outWidth, depth], convolved window group last filter.value bias.value⟩
  have moved_value : ((meaning embed given others).spatial (.convolution window group) input
      [filter, bias] [batch, outHeight, outWidth, depth]).value =
        ⟨[batch, depth, outHeight, outWidth], convolution.transposed Lower.channelsFirst⟩ := by
    simp only [Meaning.spatial, Meaning.transposed, input_shape]
    rfl
  have convolved_inside : Inside convolution.shape [n, i, j, k] := by
    simp only [inside_quadruple] at inside
    simp only [convolution, inside_quadruple]
    tauto
  rw [moved_value, read_channelsFirst rfl, read_of_inside convolved_inside]
  have last_read : ∀ n i j c, last.read [n, i, j, c] = input.value.read [n, c, i, j] :=
    read_channelsLast (value_shape.trans input_shape)
  have channels_eq : input.value.shape.extentAt 1 = channels := by
    rw [value_shape, input_shape]
    rfl
  simp only [convolution, convolved, direct, last_read, moved, same_depth, channels_eq]
  rfl

/-- A layer of a graph is one whose weights list the outputs first. -/
theorem read_connected {input weights bias stored : Grid Number} {n m : Int}
    (moved : ∀ f m, weights.read [f, m] = stored.read [m, f]) :
    connected input weights bias [n, m] =
      bias.read [m] + ∑ f ∈ range (input.flattened.shape.extentAt 1).toNat,
        input.flattened.read [n, f] * stored.read [m, f] := by
  simp only [connected, moved]
  exact add_comm _ _

end Grid

namespace Lower

variable {Number : Type} [CommRing Number] {embed : Binary32 → Number}
  {given : Nat → Grid Number}
  {others : Operation → List (Grid Number) → Shape → List Int → Number}
  {setting : Setting} {operator : Operator} {session mid after : Session} {graph grown : Graph}
  {name : Label} {input ref : Ref} {tensors : TensorStore}

/-- The stored tensor that the third input names, if there is one. -/
def registeredBias? (tensors : TensorStore) (operator : Operator) : Option Tensor :=
  operator.inputs[2]?.bind fun name => (tensors.get name).toOption

/-- The caller gives values of the shapes of the variables that it sees. -/
def GivesShapes (given : Nat → Grid Number) (graph : Graph) : Prop :=
  ∀ index owned, graph.vars[index]? = some owned → owned.visibility = .external →
    (given index).shape = owned.shape

/--
What a convolution publishes is the grouped convolution, with the channels second, of what its first
input denotes with the stored weights, plus the stored bias or nothing.
-/
def PublishesConvolution (embed : Binary32 → Number) (meaning : Meaning (Grid Number))
    (operator : Operator) (session after : Session) (ref : Ref) : Prop :=
  let arguments := Arguments.ofList OperatorKind.conv.type operator.arguments
  ∃ window group input mid x y stored, ∃ outHeight outWidth : Int,
    arguments.int "kernel" none = .ok window.kernel ∧
    arguments.int "stride" (some 1) = .ok window.stride ∧
    arguments.int "pad" (some 0) = .ok window.pad ∧
    arguments.int "group" (some 1) = .ok group ∧
    resolveInput operator 0 session = .ok input mid ∧ mid.graph.Denotes meaning input x ∧
    storedInput session.tensors operator 1 = .ok stored ∧
    after.graph.Denotes meaning ref y ∧
    Shape.windowOutput (x.shape.extentAt 2) (x.shape.extentAt 3) window.kernel window.stride
      window.pad = .ok (outHeight, outWidth) ∧
    y.shape = [x.shape.extentAt 0, stored.shape.extentAt 0, outHeight, outWidth] ∧
    ∀ n k i j, Grid.Inside y.shape [n, k, i, j] →
      y.value.read [n, k, i, j] =
        Grid.direct window group x.value (Grid.ofTensor embed stored)
          (Grid.biasOf embed (registeredBias? session.tensors operator)) n k i j

/--
What a fully connected layer publishes is the sum of products of the flattened first input with the
stored weights, which list the outputs first, plus the stored bias.
-/
def PublishesLayer (embed : Binary32 → Number) (meaning : Meaning (Grid Number))
    (operator : Operator) (session after : Session) (ref : Ref) : Prop :=
  ∃ input mid x y stored bias,
    resolveInput operator 0 session = .ok input mid ∧ mid.graph.Denotes meaning input x ∧
    storedInput session.tensors operator 1 = .ok stored ∧
    storedInput session.tensors operator 2 = .ok bias ∧
    after.graph.Denotes meaning ref y ∧
    y.shape = [x.shape.extentAt 0, stored.shape.extentAt 0] ∧
    ∀ n m, Grid.Inside y.shape [n, m] →
      y.value.read [n, m] =
        (Grid.ofTensor embed bias).read [m] +
          ∑ f ∈ range (x.value.flattened.shape.extentAt 1).toNat,
            x.value.flattened.read [n, f] * (Grid.ofTensor embed stored).read [m, f]

theorem read_storedBias {depth : Int} {bias : Tensor} (zero : embed .zero = 0)
    (bias_eq : storedBias tensors operator depth = .ok bias) (k : Int) :
    (Grid.ofTensor embed bias).read [k] =
      Grid.biasOf embed (registeredBias? tensors operator) k := by
  have zeros_read : Tensor.zeros [depth] = .ok bias → (Grid.ofTensor embed bias).read [k] = 0 := by
    intro zeros
    unfold Grid.read
    split
    · simp only [Grid.ofTensor, Tensor.get_of_zeros zeros, zero]
    · rfl
  unfold storedBias at bias_eq
  unfold registeredBias?
  cases named : operator.inputs[2]? with
  | none =>
      rw [named] at bias_eq
      exact zeros_read bias_eq
  | some name =>
      simp only [named, Option.filter_some] at bias_eq
      cases present : tensors.contains name with
      | true =>
          simp only [present, if_true] at bias_eq
          simp only [Option.bind_some, bias_eq, Except.toOption, Grid.biasOf]
      | false =>
          simp only [present, if_false, Bool.false_eq_true] at bias_eq
          have absent : (tensors.get name).toOption = none := by
            cases found : tensors.get name with
            | error raised => rfl
            | ok tensor =>
                rw [TensorStore.contains_of_get found] at present
                cases present
          simp only [Option.bind_some, absent, Grid.biasOf, zeros_read bias_eq]

theorem resolveInput_of_first
    (resolved : resolveAll (operator.inputs.take 1) session = .ok [ref] after) :
    resolveInput operator 0 session = .ok ref after := by
  cases inputs : operator.inputs with
  | nil => simp [inputs] at resolved
  | cons first rest =>
      refine resolveInput_eq_ok.mpr ⟨first, by simp [inputs], ?_⟩
      simpa [inputs] using resolved

section Shapes

variable {Element : Type} {meaning : Meaning (Grid Element)}

/-- Tensors, variables of the caller and results of operations mean grids of their shapes. -/
structure KeepsShapes (meaning : Meaning (Grid Element)) (graph : Graph) : Prop where
  held : ∀ tensor, (meaning.held tensor).shape = tensor.shape
  given : GivesShapes meaning.given graph
  applied : ∀ operation values shape, (meaning.apply operation values shape).shape = shape

/-- The values of references have the shapes of the references. -/
theorem KeepsShapes.value_shape {sense : Sense (Grid Element)} (keeps : KeepsShapes meaning graph)
    (denotes : graph.Denotes meaning ref sense) : sense.value.shape = sense.shape := by
  rcases Graph.denotes_iff.mp denotes with ⟨found, shape_eq⟩
  rw [← shape_eq]
  cases ref with
  | var index =>
      rcases Option.map_eq_some_iff.mp found with ⟨owned, held, value_eq⟩
      rw [← value_eq]
      simp only [Graph.shapeOf, held, Option.map_some, Option.getD_some, Meaning.ofVariable]
      cases seen : owned.visibility with
      | external => exact keeps.given index owned held seen
      | internal => exact keeps.held owned.payload
  | node index =>
      rcases Option.bind_eq_some_iff.mp found with ⟨node, held, computed⟩
      rcases Option.map_eq_some_iff.mp computed with ⟨values, _, value_eq⟩
      rw [← value_eq]
      simp only [Graph.shapeOf, held, Option.map_some, Option.getD_some]
      exact keeps.applied node.operation values node.shape

/-- A name resolves to something that denotes a value of its shape. -/
theorem resolveInput_denotes (keeps : KeepsShapes meaning session.graph)
    (belongs : ∀ name ref, session.names.get? name = some ref → session.graph.Belongs ref)
    (resolved : resolveInput operator 0 session = .ok input mid) :
    ∃ x, mid.graph.Denotes meaning input x ∧ x.value.shape = x.shape := by
  rcases resolveInput_eq_ok.mp resolved with ⟨name, _, one⟩
  rcases resolve_eq_ok.mp one with ⟨published, rfl⟩ | ⟨_, payload, _, rfl, rfl⟩
  · have ⟨x, denotes⟩ := (belongs name input published).denotes meaning
    exact ⟨x, denotes, keeps.value_shape denotes⟩
  · exact ⟨_, Graph.denotes_withVar rfl, keeps.held payload⟩

end Shapes

theorem keepsShapes_meaning (gives : GivesShapes given graph) :
    KeepsShapes (Grid.meaning embed given others) graph :=
  ⟨fun _ => rfl, gives, fun _ _ _ => rfl⟩

theorem depth_of_filter {stored weights : Tensor}
    (moved : stored.transpose filterChannelsLast = .ok weights) :
    weights.shape.extentAt 0 = stored.shape.extentAt 0 := by
  have axes : Tensor.resolveAxes 4 filterChannelsLast [] = .ok [0, 2, 3, 1] := rfl
  rw [Tensor.shape_of_transpose moved (by decide) axes]
  rfl

theorem shape_of_weights {stored weights : Tensor}
    (moved : stored.transpose [1, 0] = .ok weights) :
    weights.shape = [stored.shape.extentAt 1, stored.shape.extentAt 0] := by
  have axes : Tensor.resolveAxes 2 [1, 0] [] = .ok [1, 0] := rfl
  exact Tensor.shape_of_transpose moved (by decide) axes

theorem valid_of_belongs
    (belongs : ∀ name ref, session.names.get? name = some ref → session.graph.Belongs ref) :
    session.Valid := by
  intro name ref published
  have ⟨_, denotes⟩ := (belongs name ref published).denotes (⟨fun _ => (), fun _ => (),
    fun _ _ _ => ()⟩ : Meaning Unit)
  exact denotes.holds

theorem convolution_publishes (zero : embed .zero = 0) (gives : GivesShapes given session.graph)
    (belongs : ∀ name ref, session.names.get? name = some ref → session.graph.Belongs ref)
    (known : OperatorKind.ofLabel? operator.type = some .conv)
    (lowered : lowerOperator setting operator session = .ok ref after) :
    PublishesConvolution embed (Grid.meaning embed given others) operator session after ref := by
  rcases lowerOperator_emits (valid_of_belongs belongs) known lowered with
    ⟨inputs, mid, grown, resolved, emits, graph_eq⟩
  cases emits with
  | elementwise applies => cases applies
  | pooling pools => cases pools
  | arithmetic combines => cases combines
  | broadcastArithmetic combines => cases combines
  | @convolution input stored weights bias stride pad kernel group batch channels height width
      outHeight outWidth depth stride_eq pad_eq kernel_eq group_eq _ stored_eq weights_eq bias_eq
      input_shape weights_shape _ _ _ _ fits =>
      have resolvedInput := resolveInput_of_first resolved
      rcases resolveInput_denotes (keepsShapes_meaning gives) belongs resolvedInput with
        ⟨x, denotes, x_value⟩
      have x_shape := denotes.shape_eq.trans input_shape
      have same_depth := depth_of_filter weights_eq
      have depth_eq : stored.shape.extentAt 0 = depth := by
        rw [← same_depth, weights_shape]
        rfl
      have parameters : List.Forall₂ (Graph.Denotes (Grid.meaning embed given others)
          ((mid.graph.withVar
            ⟨operator.title.part ".filter", .internal, .broadcast, weights⟩).withVar
            ⟨operator.title.part ".bias", .internal, .broadcast, bias⟩))
          [.var mid.graph.vars.length, .var (mid.graph.vars.length + 1)] _ :=
        .cons (Graph.denotes_withVar rfl).withVar (.cons (Graph.denotes_withVar (by simp)) .nil)
      refine ⟨⟨kernel, stride, pad⟩, group, input, mid, x, _, stored, outHeight, outWidth,
        kernel_eq, stride_eq, pad_eq, group_eq, resolvedInput, denotes, stored_eq,
        graph_eq ▸ Graph.denotes_withSpatial denotes.withVar.withVar x_shape parameters, ?_, ?_, ?_⟩
      · rw [x_shape]
        exact fits
      · rw [x_shape, depth_eq]
        rfl
      · intro n k i j inside
        have inside : Grid.Inside [batch, depth, outHeight, outWidth] [n, k, i, j] := inside
        rw [Grid.read_convolution x_shape x_value same_depth (Grid.read_filter weights_eq) inside]
        have same_bias : (fun k => (Grid.ofTensor embed bias).read [k]) =
            Grid.biasOf embed (registeredBias? session.tensors operator) :=
          funext (read_storedBias zero bias_eq)
        rw [← same_bias]
        rfl

theorem layer_publishes (gives : GivesShapes given session.graph)
    (belongs : ∀ name ref, session.names.get? name = some ref → session.graph.Belongs ref)
    (known : OperatorKind.ofLabel? operator.type = some .fc)
    (lowered : lowerOperator setting operator session = .ok ref after) :
    PublishesLayer embed (Grid.meaning embed given others) operator session after ref := by
  rcases lowerOperator_emits (valid_of_belongs belongs) known lowered with
    ⟨inputs, mid, grown, resolved, emits, graph_eq⟩
  cases emits with
  | elementwise applies => cases applies
  | pooling pools => cases pools
  | arithmetic combines => cases combines
  | broadcastArithmetic combines => cases combines
  | @fullyConnected input stored weights bias batch depth rest stored_eq weights_eq bias_eq
      input_shape weights_shape _ =>
      have resolvedInput := resolveInput_of_first resolved
      rcases resolveInput_denotes (keepsShapes_meaning gives) belongs resolvedInput with
        ⟨x, denotes, x_value⟩
      have x_shape := denotes.shape_eq.trans input_shape
      have depth_eq : stored.shape.extentAt 0 = depth := by
        rw [shape_of_weights weights_eq] at weights_shape
        injection weights_shape with _ same
        injection same
      have operands : List.Forall₂ (Graph.Denotes (Grid.meaning embed given others)
          ((mid.graph.withVar
            ⟨operator.title.part ".weights", .internal, .broadcast, weights⟩).withVar
            ⟨operator.title.part ".biases", .internal, .broadcast, bias⟩))
          [input, .var mid.graph.vars.length, .var (mid.graph.vars.length + 1)] _ :=
        .cons denotes.withVar.withVar (.cons (Graph.denotes_withVar rfl).withVar
          (.cons (Graph.denotes_withVar (by simp)) .nil))
      refine ⟨input, mid, x, _, stored, bias, resolvedInput, denotes, stored_eq, bias_eq,
        graph_eq ▸ Graph.denotes_withNode rfl operands, ?_, ?_⟩
      · rw [x_shape, depth_eq]
        rfl
      · intro n m inside
        refine (Grid.read_of_inside inside).trans ?_
        exact Grid.read_connected (Grid.read_weights weights_eq)

/--
Whatever numbers stand for those of tensors, and whatever the other operations mean, a convolution
that is lowered publishes the convolution with its channels second, and a fully connected layer
publishes the layer whose weights list the outputs first.
-/
theorem published_in_operator_layout {Number : Type} [CommRing Number] (embed : Binary32 → Number)
    (given : Nat → Grid Number)
    (others : Operation → List (Grid Number) → Shape → List Int → Number) (setting : Setting)
    (operator : Operator) (session after : Session) (ref : Ref) (zero : embed .zero = 0)
    (gives : GivesShapes given session.graph)
    (belongs : ∀ name ref, session.names.get? name = some ref → session.graph.Belongs ref)
    (lowered : lowerOperator setting operator session = .ok ref after) :
    (∀ name ∈ operator.outputs, after.names.get? name = some ref) ∧
      (OperatorKind.ofLabel? operator.type = some .conv →
        PublishesConvolution embed (Grid.meaning embed given others) operator session after ref) ∧
      (OperatorKind.ofLabel? operator.type = some .fc →
        PublishesLayer embed (Grid.meaning embed given others) operator session after ref) := by
  refine ⟨?_, ?_, ?_⟩
  · rcases lowerOperator_eq_ok.mp lowered with ⟨_, mid, _, _, rfl⟩
    intro name listed
    simp only [Registry.get?_bindAll, listed, if_true]
  · intro known
    exact convolution_publishes zero gives belongs known lowered
  · intro known
    exact layer_publishes gives belongs known lowered

end Lower

namespace Sample

/-- An image with two channels of two rows, two filters, and the weights of a layer. -/
def imageSession : Session where
  graph := ⟨[⟨"x", .external, .none, ⟨[1, 2, 2, 1], .replicate 4 .zero, by decide, rfl⟩⟩], [],
    ["main"]⟩
  names := ⟨[("x", .var 0)]⟩
  tensors := ⟨#[⟨[2, 1, 1, 1], .replicate 2 .one, by decide, rfl⟩,
    ⟨[2], .replicate 2 .one, by decide, rfl⟩, ⟨[1, 4], .replicate 4 .one, by decide, rfl⟩,
    .single .one], ⟨[("filter", 0), ("bias", 1), ("weights", 2), ("offset", 3)]⟩⟩
  notices := []

def integerArgument (name : Label) (value : Int) : Argument :=
  ⟨name, none, some value, none, [], [], [], none, [], none, []⟩

/-- Filters each channel on its own. -/
def channelwise : Operator :=
  ⟨"Conv", "", ["x", "filter", "bias"], ["y"],
    [integerArgument "kernel" 1, integerArgument "group" 2], .done []⟩

def layer : Operator := ⟨"FC", "", ["x", "weights", "offset"], ["y"], [], .done []⟩

/-- Numbers are their bit patterns, and the image is numbered by channel and row. -/
def bitsOf (number : Binary32) : Int := number.bits.toNat

def numbered : Nat → Grid Int := fun _ =>
  ⟨[1, 2, 2, 1], fun index => 2 * index.getD 1 0 + index.getD 2 0⟩

end Sample

namespace Lower

theorem published_in_operator_layout_sample :
    (∃ ref after, lowerOperator Sample.setting Sample.channelwise Sample.imageSession =
          .ok ref after ∧
        PublishesConvolution Sample.bitsOf
          (Grid.meaning Sample.bitsOf Sample.numbered fun _ _ _ _ => 0) Sample.channelwise
          Sample.imageSession after ref) ∧
      ∃ ref after, lowerOperator Sample.setting Sample.layer Sample.imageSession = .ok ref after ∧
        PublishesLayer Sample.bitsOf
          (Grid.meaning Sample.bitsOf Sample.numbered fun _ _ _ _ => 0) Sample.layer
          Sample.imageSession after ref := by
  have gives : GivesShapes Sample.numbered Sample.imageSession.graph := by
    intro index owned held _
    have inside := (List.getElem?_eq_some_iff.mp held).1
    obtain rfl : index = 0 := Nat.lt_one_iff.mp inside
    rcases held with ⟨⟩
    rfl
  have belongs : ∀ name ref, Sample.imageSession.names.get? name = some ref →
      Sample.imageSession.graph.Belongs ref := by
    intro name ref published
    simp only [Sample.imageSession, Registry.get?, List.lookup_cons] at published
    split at published
    · rcases published with ⟨⟩
      exact .var Nat.zero_lt_one
    · cases published
  refine ⟨⟨_, _, rfl, ?_⟩, ⟨_, _, rfl, ?_⟩⟩
  · exact (published_in_operator_layout Sample.bitsOf Sample.numbered (fun _ _ _ _ => 0)
      Sample.setting Sample.channelwise Sample.imageSession _ _ rfl gives belongs rfl).2.1 (by decide)
  · exact (published_in_operator_layout Sample.bitsOf Sample.numbered (fun _ _ _ _ => 0)
      Sample.setting Sample.layer Sample.imageSession _ _ rfl gives belongs rfl).2.2 (by decide)

end Lower

end NetImport
