import NetImport.Proofs.Lowering.Pooling

/-!
# Poolings and normalisations with the channels second

Poolings and normalisations of graphs work on grids whose channels are the last axis, and lie
between two transpositions. This file reads a transposition as the permutation of indices that it
is, a pooling as any reduction of the numbers that its window finds inside the grid, and a
normalisation as any function of the numbers of all channels at one place. What a pooling or a
normalisation of a network publishes is then the same with the channels second.
-/

namespace NetImport

open Descriptor

namespace Grid

variable {Number : Type}

/-- The axis of the result that is listed `i`-th is axis number `i` of the operand. -/
def reordered (permutation : List Int) (grid : Grid Number) (index : List Int) : Number :=
  grid.cell ((List.range permutation.length).map fun axis => index.getD (permutation.idxOf axis) 0)

/-- The numbers at those of the listed multi-indices that lie inside a grid, in their order. -/
def numbersAt (grid : Grid Number) (indices : List (List Int)) : List Number :=
  (indices.filter fun index => Inside grid.shape index).map grid.cell

/-- The numbers of all channels at one place of a grid, given the multi-index of each. -/
def channelsAt (grid : Grid Number) (channels : Int) (index : Int → List Int) : List Number :=
  (List.range channels.toNat).map fun (channel : Nat) => grid.cell (index channel)

/-- A pooling with the channels last: a reduction of the numbers that the window finds inside. -/
def pooled (reduce : List Number → Number) (window : Window) (input : Grid Number) :
    List Int → Number
  | [n, i, j, c] =>
    reduce (input.numbersAt ((window.cells i j).map fun (row, column) => [n, row, column, c]))
  | _ => reduce []

/-- A normalisation with the channels last: a function of the numbers of all channels. -/
def normalized (respond : List Number → Int → Number) (input : Grid Number) : List Int → Number
  | [n, i, j, c] =>
    respond (input.channelsAt (input.shape.extentAt 3) fun channel => [n, i, j, channel]) c
  | _ => respond [] 0

/--
Transpositions as they are documented, poolings and normalisations with some reduction and some
function of the numbers of all channels, and all other operations as one likes.
-/
def channelMeaning (embed : Binary32 → Number) (given : Nat → Grid Number)
    (reduce : Operation → List Number → Number)
    (respond : Int → Binary64 → Binary64 → Binary64 → List Number → Int → Number)
    (others : Operation → List (Grid Number) → Shape → List Int → Number) :
    Meaning (Grid Number) where
  held := ofTensor embed
  given := given
  apply operation operands shape :=
    ⟨shape,
      match operation, operands with
      | .transpose permutation, [operand] => operand.reordered permutation
      | .poolMax window, [operand] => operand.pooled (reduce (.poolMax window)) window
      | .poolAvg window, [operand] => operand.pooled (reduce (.poolAvg window)) window
      | .localResponseNormalization halfWindow alpha beta bias, [operand] =>
        operand.normalized (respond halfWindow alpha beta bias)
      | operation, operands => others operation operands shape⟩

variable {grid other : Grid Number} {embed : Binary32 → Number} {given : Nat → Grid Number}
  {reduce : Operation → List Number → Number}
  {respond : Int → Binary64 → Binary64 → Binary64 → List Number → Int → Number}
  {others : Operation → List (Grid Number) → Shape → List Int → Number}
  {batch channels height width outHeight outWidth n c i j : Int} {x : Sense (Grid Number)}

theorem numbersAt_congr {Place : Type} {index otherIndex : Place → List Int}
    (together : ∀ place, Inside grid.shape (index place) ↔ Inside other.shape (otherIndex place))
    (same : ∀ place, grid.cell (index place) = other.cell (otherIndex place))
    (places : List Place) :
    grid.numbersAt (places.map index) = other.numbersAt (places.map otherIndex) := by
  simp only [numbersAt, List.filter_map, List.map_map, Function.comp_def, together, same]

/-- Moving the channels last moves the indices, but not what lies inside. -/
theorem numbersAt_channelsLast (shape_eq : grid.shape = [batch, channels, height, width])
    (places : List (Int × Int)) :
    numbersAt ⟨[batch, height, width, channels], grid.reordered Lower.channelsLast⟩
        (places.map fun (row, column) => [n, row, column, c]) =
      grid.numbersAt (places.map fun (row, column) => [n, c, row, column]) := by
  apply numbersAt_congr
  · intro place
    simp only [shape_eq, inside_quadruple]
    tauto
  · intro place
    rfl

/-- Between its two transpositions, a pooling of a graph is one with the channels second. -/
theorem cell_pooling {kind : OperatorKind} {operation : Window → Operation} {window : Window}
    (pools : kind.pooling? = some operation) (shape_eq : x.shape = [batch, channels, height, width])
    (value_shape : x.value.shape = x.shape) :
    ((channelMeaning embed given reduce respond others).spatial (operation window) x []
        [batch, outHeight, outWidth, channels]).value.cell [n, c, i, j] =
      reduce (operation window)
        (x.value.numbersAt ((window.cells i j).map fun (row, column) => [n, c, row, column])) := by
  rw [← numbersAt_channelsLast (value_shape.trans shape_eq)]
  rcases Lower.pooling?_eq_some.mp pools with ⟨_, rfl⟩ | ⟨_, rfl⟩
  · simp only [Meaning.spatial, Meaning.transposed, shape_eq]
    rfl
  · simp only [Meaning.spatial, Meaning.transposed, shape_eq]
    rfl

/-- Between its two transpositions, a normalisation of a graph is one with the channels second. -/
theorem cell_normalization {halfWindow : Int} {alpha beta bias : Binary64}
    (shape_eq : x.shape = [batch, channels, height, width]) :
    ((channelMeaning embed given reduce respond others).spatial
        (.localResponseNormalization halfWindow alpha beta bias) x []
        [batch, height, width, channels]).value.cell [n, c, i, j] =
      respond halfWindow alpha beta bias
        (x.value.channelsAt channels fun channel => [n, channel, i, j]) c := by
  simp only [Meaning.spatial, Meaning.transposed, shape_eq]
  rfl

end Grid

/-- The parameters and dimensions of a normalisation over neighbouring channels. -/
structure Normalization where
  size : Int
  alpha : Binary64
  beta : Binary64
  bias : Binary64
  batch : Int
  channels : Int
  height : Int
  width : Int

/-- What a normalisation that is lowered has read, resolved and added to a session. -/
structure Normalized (setting : Setting) (operator : Operator) (session : Session) (input : Ref)
    (mid : Session) (sizes : Normalization) (ref : Ref) (after : Session) : Prop where
  published : ∀ name ∈ operator.outputs, after.names.get? name = some ref
  size : (Arguments.ofList "LRN" operator.arguments).int "size" none = .ok sizes.size
  alpha : (Arguments.ofList "LRN" operator.arguments).float "alpha" none = .ok sizes.alpha
  beta : (Arguments.ofList "LRN" operator.arguments).float "beta" none = .ok sizes.beta
  bias : (Arguments.ofList "LRN" operator.arguments).float "bias" none = .ok sizes.bias
  resolved : Lower.resolveInput operator 0 session = .ok input mid
  input_shape :
    mid.graph.shapeOf input = [sizes.batch, sizes.channels, sizes.height, sizes.width]
  isNode : ref = .node (mid.graph.nodes.length + 2)
  graph : after.graph = mid.graph.withSpatial setting.function operator.title input
    (.localResponseNormalization (Int.fdiv sizes.size 2) sizes.alpha sizes.beta sizes.bias) []
    sizes.batch sizes.height sizes.width sizes.channels sizes.height sizes.width sizes.channels

/-- A normalisation that is lowered denotes the normalisation of what its input denotes. -/
theorem Normalized.denotes {setting : Setting} {operator : Operator} {session mid after : Session}
    {input ref : Ref} {sizes : Normalization} {Value : Type} {meaning : Meaning Value}
    {x : Sense Value} (normalized : Normalized setting operator session input mid sizes ref after)
    (denotes : mid.graph.Denotes meaning input x) :
    after.graph.Denotes meaning ref
      (meaning.spatial (.localResponseNormalization (Int.fdiv sizes.size 2) sizes.alpha sizes.beta
        sizes.bias) x [] [sizes.batch, sizes.height, sizes.width, sizes.channels]) := by
  rw [normalized.graph, normalized.isNode]
  exact Graph.denotes_withSpatial denotes (denotes.shape_eq.trans normalized.input_shape) .nil

namespace Lower

variable {setting : Setting} {operator : Operator} {session after : Session} {ref : Ref}

theorem normalized_of_lowered (known : OperatorKind.ofLabel? operator.type = some .lrn)
    (lowered : lowerOperator setting operator session = .ok ref after) :
    ∃ input mid sizes, Normalized setting operator session input mid sizes ref after := by
  rcases lowerOperator_eq_ok.mp lowered with ⟨_, grown, alsoKnown, ruleSucceeds, rfl⟩
  rcases Option.some.inj (known.symm.trans alsoKnown) with rfl
  rcases localResponseNormalization_lowered ruleSucceeds with
    @⟨inputs, mid, _, resolved, emits, rfl⟩
  cases emits with
  | @localResponseNormalization input size alpha beta bias batch channels height width size_eq
      alpha_eq beta_eq bias_eq input_shape =>
      exact ⟨input, mid, ⟨size, alpha, beta, bias, batch, channels, height, width⟩, {
        published := fun name listed => by simp [listed]
        size := size_eq
        alpha := alpha_eq
        beta := beta_eq
        bias := bias_eq
        resolved := resolveInput_of_first resolved
        input_shape := input_shape
        isNode := rfl
        graph := rfl }⟩
  | elementwise applies => cases applies
  | pooling pools => cases pools
  | arithmetic combines => cases combines
  | broadcastArithmetic combines => cases combines

section Publishing

variable {Number : Type}

/--
What a pooling publishes is, for every channel and every position of the window, the reduction of
the numbers of its first input that the window finds inside, with the channels second.
-/
def PublishesPooling (meaning : Meaning (Grid Number)) (reduce : Operation → List Number → Number)
    (setting : Setting) (operator : Operator) (operation : Window → Operation)
    (session after : Session) (ref : Ref) : Prop :=
  ∃ input mid sizes x y, Pooled setting operator operation session input mid sizes ref after ∧
    Argument.integerOf? operator.arguments "kernel" none = some sizes.window.kernel ∧
    mid.graph.Denotes meaning input x ∧
    x.shape = [sizes.batch, sizes.channels, sizes.height, sizes.width] ∧
    after.graph.Denotes meaning ref y ∧ y.shape = sizes.output ∧
    ∀ n c i j, Grid.Inside y.shape [n, c, i, j] →
      y.value.cell [n, c, i, j] =
        reduce (operation sizes.window)
          (x.value.numbersAt
            ((sizes.window.cells i j).map fun (row, column) => [n, c, row, column]))

/--
What a normalisation publishes has the shape of its first input, and is, for every place, the
function of the numbers that the channels of the input have there, with the channels second.
-/
def PublishesNormalization (meaning : Meaning (Grid Number))
    (respond : Int → Binary64 → Binary64 → Binary64 → List Number → Int → Number)
    (setting : Setting) (operator : Operator) (session after : Session) (ref : Ref) : Prop :=
  ∃ input mid sizes x y, Normalized setting operator session input mid sizes ref after ∧
    mid.graph.Denotes meaning input x ∧
    x.shape = [sizes.batch, sizes.channels, sizes.height, sizes.width] ∧
    after.graph.Denotes meaning ref y ∧ y.shape = x.shape ∧
    ∀ n c i j, Grid.Inside y.shape [n, c, i, j] →
      y.value.cell [n, c, i, j] =
        respond (Int.fdiv sizes.size 2) sizes.alpha sizes.beta sizes.bias
          (x.value.channelsAt sizes.channels fun channel => [n, channel, i, j]) c

variable {embed : Binary32 → Number} {given : Nat → Grid Number}
  {reduce : Operation → List Number → Number}
  {respond : Int → Binary64 → Binary64 → Binary64 → List Number → Int → Number}
  {others : Operation → List (Grid Number) → Shape → List Int → Number}

theorem pooling_publishes {kind : OperatorKind} {operation : Window → Operation}
    (keeps : KeepsShapes (Grid.channelMeaning embed given reduce respond others) session.graph)
    (belongs : ∀ name ref, session.names.get? name = some ref → session.graph.Belongs ref)
    (pools : kind.pooling? = some operation)
    (known : OperatorKind.ofLabel? operator.type = some kind)
    (plain : Argument.integerOf? operator.arguments "global_pooling" (some 0) = some 0)
    (lowered : lowerOperator setting operator session = .ok ref after) :
    PublishesPooling (Grid.channelMeaning embed given reduce respond others) reduce setting
      operator operation session after ref := by
  rcases pooled_of_lowered pools known lowered with ⟨input, mid, sizes, pooled⟩
  have given_kernel : Argument.integerOf? operator.arguments "kernel" none =
      some sizes.window.kernel := by
    rcases pooled.kernel with ⟨isGlobal, global_eq, kernel_is⟩
    rcases Option.some.inj (plain.symm.trans global_eq) with rfl
    rwa [if_pos rfl] at kernel_is
  rcases resolveInput_denotes keeps belongs pooled.resolved with ⟨x, denotes, x_value⟩
  have x_shape := denotes.shape_eq.trans pooled.input_shape
  refine ⟨input, mid, sizes, x, _, pooled, given_kernel, denotes, x_shape,
    pooled.denotes denotes, rfl, ?_⟩
  intro n c i j inside
  exact Grid.cell_pooling pools x_shape x_value

theorem normalization_publishes
    (keeps : KeepsShapes (Grid.channelMeaning embed given reduce respond others) session.graph)
    (belongs : ∀ name ref, session.names.get? name = some ref → session.graph.Belongs ref)
    (known : OperatorKind.ofLabel? operator.type = some .lrn)
    (lowered : lowerOperator setting operator session = .ok ref after) :
    PublishesNormalization (Grid.channelMeaning embed given reduce respond others) respond setting
      operator session after ref := by
  rcases normalized_of_lowered known lowered with ⟨input, mid, sizes, normalized⟩
  rcases resolveInput_denotes keeps belongs normalized.resolved with ⟨x, denotes, _⟩
  have x_shape := denotes.shape_eq.trans normalized.input_shape
  refine ⟨input, mid, sizes, x, _, normalized, denotes, x_shape, normalized.denotes denotes,
    ?_, ?_⟩
  · rw [x_shape]
    rfl
  · intro n c i j inside
    exact Grid.cell_normalization x_shape

/--
Whatever numbers stand for those of tensors, whatever a pooling does with the numbers that its
window finds, and whatever a normalisation does with the numbers of all channels at a place, a
pooling that is lowered and not global publishes the pooling with the channels second, and a
normalisation that is lowered publishes the normalisation with the channels second.
-/
theorem published_with_channels_second (embed : Binary32 → Number) (given : Nat → Grid Number)
    (reduce : Operation → List Number → Number)
    (respond : Int → Binary64 → Binary64 → Binary64 → List Number → Int → Number)
    (others : Operation → List (Grid Number) → Shape → List Int → Number) (setting : Setting)
    (operator : Operator) (session after : Session) (ref : Ref)
    (gives : GivesShapes given session.graph)
    (belongs : ∀ name ref, session.names.get? name = some ref → session.graph.Belongs ref)
    (lowered : lowerOperator setting operator session = .ok ref after) :
    let meaning := Grid.channelMeaning embed given reduce respond others
    (∀ kind operation, OperatorKind.ofLabel? operator.type = some kind →
        kind.pooling? = some operation →
        Argument.integerOf? operator.arguments "global_pooling" (some 0) = some 0 →
        PublishesPooling meaning reduce setting operator operation session after ref) ∧
      (OperatorKind.ofLabel? operator.type = some .lrn →
        PublishesNormalization meaning respond setting operator session after ref) := by
  have keeps : KeepsShapes (Grid.channelMeaning embed given reduce respond others) session.graph :=
    ⟨fun _ => rfl, gives, fun _ _ _ => rfl⟩
  refine ⟨?_, ?_⟩
  · intro kind operation known pools plain
    exact pooling_publishes keeps belongs pools known plain lowered
  · intro known
    exact normalization_publishes keeps belongs known lowered

end Publishing

end Lower

namespace Sample

/-- Takes the maximum over windows that reach into the padding. -/
def paddedPooling : Operator :=
  ⟨"MaxPool", "", ["x"], ["y"],
    [integerArgument "stride" 1, integerArgument "kernel" 2, integerArgument "pad" 1], .done []⟩

def numberArgument (name : Label) (value : Binary32) : Argument :=
  ⟨name, some value, none, none, [], [], [], none, [], none, []⟩

def normalize : Operator :=
  ⟨"LRN", "", ["x"], ["y"],
    [integerArgument "size" 3, numberArgument "alpha" .one, numberArgument "beta" .one,
      numberArgument "bias" .one], .done []⟩

/-- The image is numbered by channel, row and column. -/
def numberedSquare : Nat → Grid Int := fun _ =>
  ⟨[1, 2, 2, 2], fun index => 4 * index.getD 1 0 + 2 * index.getD 2 0 + index.getD 3 0⟩

/-- Poolings take the largest number, and normalisations add up all channels. -/
def squareMeaning : Meaning (Grid Int) :=
  Grid.channelMeaning bitsOf numberedSquare (fun _ numbers => numbers.foldl max 0)
    (fun _ _ _ _ numbers _ => numbers.sum) fun _ _ _ _ => 0

theorem givesShapes_square : Lower.GivesShapes numberedSquare squareSession.graph := by
  intro index owned held _
  have inside := (List.getElem?_eq_some_iff.mp held).1
  obtain rfl : index = 0 := Nat.lt_one_iff.mp inside
  rcases held with ⟨⟩
  rfl

theorem belongs_square (name : Label) (ref : Ref)
    (published : squareSession.names.get? name = some ref) : squareSession.graph.Belongs ref := by
  rcases List.mem_singleton.mp (Registry.mem_of_get? published) with ⟨⟩
  exact .var Nat.zero_lt_one

end Sample

namespace Lower

theorem published_with_channels_second_sample :
    (∃ ref after, lowerOperator Sample.setting Sample.paddedPooling Sample.squareSession =
          .ok ref after ∧
        PublishesPooling Sample.squareMeaning (fun _ numbers => numbers.foldl max 0) Sample.setting
          Sample.paddedPooling .poolMax Sample.squareSession after ref) ∧
      ∃ ref after, lowerOperator Sample.setting Sample.normalize Sample.squareSession =
          .ok ref after ∧
        PublishesNormalization Sample.squareMeaning (fun _ _ _ _ numbers _ => numbers.sum)
          Sample.setting Sample.normalize Sample.squareSession after ref := by
  refine ⟨⟨_, _, rfl, ?_⟩, _, _, rfl, ?_⟩
  · exact (published_with_channels_second Sample.bitsOf Sample.numberedSquare _ _
      (fun _ _ _ _ => 0) Sample.setting Sample.paddedPooling Sample.squareSession _ _
      Sample.givesShapes_square Sample.belongs_square rfl).1 .maxPool .poolMax (by decide) rfl rfl
  · exact (published_with_channels_second Sample.bitsOf Sample.numberedSquare _ _
      (fun _ _ _ _ => 0) Sample.setting Sample.normalize Sample.squareSession _ _
      Sample.givesShapes_square Sample.belongs_square rfl).2 (by decide)

end Lower

end NetImport
