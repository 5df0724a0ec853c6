import NetImport.Proofs.Lowering.Acceptance

/-!
# Poolings and the cells that their windows cover

A pooling reads a window that moves over the rows and columns of its input. This file lists the
cells that a window covers, says what a pooling that is lowered has read, resolved and added, and
shows for a global pooling, whose window is as large as the input, when a single window covers the
input: its kernel is given by the input, but its stride and its padding are still the given ones.
-/

namespace NetImport

open Descriptor

namespace Window

variable {window : Window} {i j row column height width : Int}

/-- The cells, by row and column, that a window covers at a position, in row-major order. -/
def cells (window : Window) (i j : Int) : List (Int × Int) :=
  (List.range window.kernel.toNat).flatMap fun (r : Nat) =>
    (List.range window.kernel.toNat).map fun (s : Nat) =>
      (i * window.stride - window.pad + r, j * window.stride - window.pad + s)

theorem mem_cells :
    (row, column) ∈ window.cells i j ↔
      (i * window.stride - window.pad ≤ row ∧
          row < i * window.stride - window.pad + window.kernel) ∧
        j * window.stride - window.pad ≤ column ∧
          column < j * window.stride - window.pad + window.kernel := by
  simp only [cells, List.mem_flatMap, List.mem_map, List.mem_range, Prod.mk.injEq]
  constructor
  · rintro ⟨r, rowInside, s, columnInside, rfl, rfl⟩
    omega
  · rintro ⟨⟨below, above⟩, before, behind⟩
    refine ⟨(row - (i * window.stride - window.pad)).toNat, ?_,
      (column - (j * window.stride - window.pad)).toNat, ?_, ?_, ?_⟩ <;> omega

/-- At its first position, a window covers all the cells of an image and no others. -/
def CoversExactly (window : Window) (height width : Int) : Prop :=
  ∀ row column, (row, column) ∈ window.cells 0 0 ↔
    (0 ≤ row ∧ row < height) ∧ 0 ≤ column ∧ column < width

/-- A window as large as an image covers it exactly if nothing is padded, or if it has no cell. -/
theorem coversExactly_iff (wide : window.kernel = height) (square : width = height)
    (padded : 0 ≤ window.pad) :
    window.CoversExactly height width ↔ window.pad = 0 ∨ height ≤ 0 := by
  simp only [CoversExactly, mem_cells, Int.zero_mul, wide, square]
  constructor
  · intro covers
    by_contra excluded
    -- The corner of the window lies in the padding.
    have corner := (covers (-window.pad) (-window.pad)).mp (by omega)
    omega
  · rintro (unpadded | empty) row column
    · omega
    · omega

end Window

namespace Shape

variable {extent stride pad : Int}

/-- A window as large as an extent has the position in front, and those made by the padding. -/
theorem windowCount_self :
    windowCount extent extent stride pad = Int.fdiv (2 * pad) stride + 1 := by
  have rest : extent + 2 * pad - extent = 2 * pad := by omega
  rw [windowCount, rest]

theorem windowCount_self_eq_one (stride_pos : 1 ≤ stride) (padded : 0 ≤ pad) :
    windowCount extent extent stride pad = 1 ↔ 2 * pad < stride := by
  rw [windowCount_self, Int.fdiv_eq_ediv_of_nonneg _ (by omega)]
  constructor
  · intro single
    have below := Int.lt_ediv_add_one_mul_self (2 * pad) (show 0 < stride by omega)
    rwa [single, Int.one_mul] at below
  · intro below
    rw [Int.ediv_eq_zero_of_lt (by omega) below, Int.zero_add]

end Shape

/-- The dimensions of a pooling. -/
structure Pooling where
  window : Window
  batch : Int
  channels : Int
  height : Int
  width : Int

/-- The shape of the result of a pooling, whose channels are the second axis. -/
def Pooling.output (sizes : Pooling) : Shape :=
  let count := fun extent =>
    Int.fdiv (extent + 2 * sizes.window.pad - sizes.window.kernel) sizes.window.stride + 1
  [sizes.batch, sizes.channels, count sizes.height, count sizes.width]

/-- What a pooling that is lowered has read, resolved and added to a session. -/
structure Pooled (setting : Setting) (operator : Operator) (operation : Window → Operation)
    (session : Session) (input : Ref) (mid : Session) (sizes : Pooling) (ref : Ref)
    (after : Session) : Prop where
  published : ∀ name ∈ operator.outputs, after.names.get? name = some ref
  stride : Argument.integerOf? operator.arguments "stride" none = some sizes.window.stride
  pad : Argument.integerOf? operator.arguments "pad" (some 0) = some sizes.window.pad
  kernel : ∃ isGlobal,
    Argument.integerOf? operator.arguments "global_pooling" (some 0) = some isGlobal ∧
      if isGlobal = 0 then
        Argument.integerOf? operator.arguments "kernel" none = some sizes.window.kernel
      else sizes.window.kernel = sizes.height ∧ sizes.width = sizes.height
  resolved : Lower.resolveInput operator 0 session = .ok input mid
  input_shape :
    mid.graph.shapeOf input = [sizes.batch, sizes.channels, sizes.height, sizes.width]
  stride_pos : 1 ≤ sizes.window.stride
  height_fits : sizes.window.kernel ≤ sizes.height + 2 * sizes.window.pad
  width_fits : sizes.window.kernel ≤ sizes.width + 2 * sizes.window.pad
  isNode : ref = .node (mid.graph.nodes.length + 2)
  graph : after.graph = mid.graph.withSpatial setting.function operator.title input
    (operation sizes.window) [] sizes.batch sizes.height sizes.width sizes.channels
    (Shape.windowCount sizes.height sizes.window.kernel sizes.window.stride sizes.window.pad)
    (Shape.windowCount sizes.width sizes.window.kernel sizes.window.stride sizes.window.pad)
    sizes.channels

namespace Pooled

variable {setting : Setting} {operator : Operator} {operation : Window → Operation}
  {session mid after : Session} {input ref : Ref} {sizes : Pooling}

theorem shape (pooled : Pooled setting operator operation session input mid sizes ref after) :
    after.graph.shapeOf ref = sizes.output := by
  rw [pooled.graph, pooled.isNode, Graph.shapeOf_withSpatial]
  rfl

/-- A pooling that is lowered denotes the pooling of what its input denotes. -/
theorem denotes {Value : Type} {meaning : Meaning Value} {x : Sense Value}
    (pooled : Pooled setting operator operation session input mid sizes ref after)
    (denotes : mid.graph.Denotes meaning input x) :
    after.graph.Denotes meaning ref
      (meaning.spatial (operation sizes.window) x []
        [sizes.batch,
          Shape.windowCount sizes.height sizes.window.kernel sizes.window.stride sizes.window.pad,
          Shape.windowCount sizes.width sizes.window.kernel sizes.window.stride sizes.window.pad,
          sizes.channels]) := by
  rw [pooled.graph, pooled.isNode]
  exact Graph.denotes_withSpatial denotes (denotes.shape_eq.trans pooled.input_shape) .nil

end Pooled

namespace Lower

variable {setting : Setting} {operator : Operator} {kind : OperatorKind}
  {operation : Window → Operation} {session after : Session} {ref : Ref}

theorem pooling?_eq_some :
    kind.pooling? = some operation ↔
      (kind = .maxPool ∧ operation = .poolMax) ∨ (kind = .averagePool ∧ operation = .poolAvg) := by
  cases kind <;> simp [OperatorKind.pooling?, eq_comm]

/-- What a pooling emits are the nodes of a pooling, whose kernel is the input if it is global. -/
theorem emits_pooling {tensors : TensorStore} {arguments : Arguments} {graph grown : Graph}
    {inputs : List Ref} (pools : kind.pooling? = some operation)
    (emits : Emits setting tensors operator arguments graph kind inputs ref grown) :
    ∃ input isGlobal kernel, ∃ sizes : Pooling, ∃ outHeight outWidth, inputs = [input] ∧
      arguments.int "stride" none = .ok sizes.window.stride ∧
      arguments.int "kernel" none = .ok kernel ∧
      arguments.int "pad" (some 0) = .ok sizes.window.pad ∧
      arguments.int "global_pooling" (some 0) = .ok isGlobal ∧
      (isGlobal ≠ 0 → sizes.height = sizes.width) ∧
      sizes.window.kernel = (if isGlobal ≠ 0 then sizes.height else kernel) ∧
      graph.shapeOf input = [sizes.batch, sizes.channels, sizes.height, sizes.width] ∧
      Shape.windowOutput sizes.height sizes.width sizes.window.kernel sizes.window.stride
        sizes.window.pad = .ok (outHeight, outWidth) ∧
      ref = .node (graph.nodes.length + 2) ∧
      grown = graph.withSpatial setting.function operator.title input (operation sizes.window) []
        sizes.batch sizes.height sizes.width sizes.channels outHeight outWidth sizes.channels := by
  cases emits with
  | @pooling _ _ input stride pad kernel isGlobal batch channels height width outHeight outWidth
      alsoPools stride_eq kernel_eq pad_eq _ global_eq square input_shape fits =>
      rcases Option.some.inj (pools.symm.trans alsoPools) with rfl
      exact ⟨input, isGlobal, kernel,
        ⟨⟨if isGlobal ≠ 0 then height else kernel, stride, pad⟩, batch, channels, height, width⟩,
        outHeight, outWidth, rfl, stride_eq, kernel_eq, pad_eq, global_eq, square, rfl, input_shape,
        fits, rfl, rfl⟩
  | elementwise applies =>
      rcases pooling?_eq_some.mp pools with ⟨rfl, _⟩ | ⟨rfl, _⟩ <;> cases applies
  | arithmetic combines =>
      rcases pooling?_eq_some.mp pools with ⟨rfl, _⟩ | ⟨rfl, _⟩ <;> cases combines
  | broadcastArithmetic combines =>
      rcases pooling?_eq_some.mp pools with ⟨rfl, _⟩ | ⟨rfl, _⟩ <;> cases combines
  | _ => cases pools

/-- A pooling that is lowered has been read, resolved and added as a pooling is. -/
theorem pooled_of_lowered (pools : kind.pooling? = some operation)
    (known : OperatorKind.ofLabel? operator.type = some kind)
    (lowered : lowerOperator setting operator session = .ok ref after) :
    ∃ input mid sizes, Pooled setting operator operation session input mid sizes ref after := by
  rcases lowerOperator_eq_ok.mp lowered with ⟨_, grown, alsoKnown, ruleSucceeds, rfl⟩
  rcases Option.some.inj (known.symm.trans alsoKnown) with rfl
  have ⟨isPooling, first⟩ : rule setting operator (Arguments.ofList kind.type operator.arguments)
      kind = pooling setting operator (Arguments.ofList kind.type operator.arguments) operation ∧
        kind.activations setting operator = operator.inputs.take 1 := by
    rcases pooling?_eq_some.mp pools with ⟨rfl, rfl⟩ | ⟨rfl, rfl⟩ <;> exact ⟨rfl, rfl⟩
  rw [isPooling] at ruleSucceeds
  rcases pooling_lowered pools first ruleSucceeds with @⟨inputs, mid, _, resolved, emits, rfl⟩
  rcases emits_pooling pools emits with ⟨input, isGlobal, kernel, sizes, outHeight, outWidth, rfl,
    stride_eq, kernel_eq, pad_eq, global_eq, square, kernel_is, input_shape, fits, rfl, rfl⟩
  rcases Shape.windowOutput_eq_ok.mp fits with ⟨stride_pos, height_fits, width_fits, rfl, rfl⟩
  refine ⟨input, mid, sizes, {
    published := fun name listed => by simp [listed]
    stride := Arguments.int_ofList_eq_ok.mp stride_eq
    pad := Arguments.int_ofList_eq_ok.mp pad_eq
    kernel := ⟨isGlobal, Arguments.int_ofList_eq_ok.mp global_eq, ?_⟩
    resolved := resolveInput_of_first (first ▸ resolved)
    input_shape := input_shape
    stride_pos := stride_pos
    height_fits := height_fits
    width_fits := width_fits
    isNode := rfl
    graph := rfl }⟩
  by_cases plain : isGlobal = 0
  · rw [if_pos plain, kernel_is, if_neg (not_not.mpr plain)]
    exact Arguments.int_ofList_eq_ok.mp kernel_eq
  · rw [if_neg plain, kernel_is, if_pos plain]
    exact ⟨rfl, (square plain).symm⟩

/--
A global pooling that is lowered has a square input, and its result is one cell for every channel,
whose window covers the cells of the input and no others, exactly if nothing is padded (or if the
input has no cell, as long as the padding makes no further position). Its kernel is the extent of
the input, whatever kernel is given, but its stride and its padding are the ones that are given.
-/
theorem global_pooling_covers_iff (setting : Setting) (operator : Operator) (kind : OperatorKind)
    (operation : Window → Operation) (session after : Session) (ref : Ref) (isGlobal : Int)
    (pools : kind.pooling? = some operation)
    (known : OperatorKind.ofLabel? operator.type = some kind)
    (asked : Argument.integerOf? operator.arguments "global_pooling" none = some isGlobal)
    (nonzero : isGlobal ≠ 0) (lowered : lowerOperator setting operator session = .ok ref after) :
    ∃ input mid sizes, Pooled setting operator operation session input mid sizes ref after ∧
      sizes.window.kernel = sizes.height ∧ sizes.width = sizes.height ∧ 0 ≤ sizes.window.pad ∧
      (after.graph.shapeOf ref = [sizes.batch, sizes.channels, 1, 1] ↔
        2 * sizes.window.pad < sizes.window.stride) ∧
      (after.graph.shapeOf ref = [sizes.batch, sizes.channels, 1, 1] ∧
          sizes.window.CoversExactly sizes.height sizes.width ↔
        sizes.window.pad = 0 ∨ sizes.height ≤ 0 ∧ 2 * sizes.window.pad < sizes.window.stride) := by
  rcases pooled_of_lowered pools known lowered with ⟨input, mid, sizes, pooled⟩
  rcases pooled.kernel with ⟨value, value_eq, kernel_is⟩
  have given := Argument.integerOf?_of_given asked (some 0)
  rcases Option.some.inj (given.symm.trans value_eq) with rfl
  rw [if_neg nonzero] at kernel_is
  rcases kernel_is with ⟨wide, square⟩
  have padded : 0 ≤ sizes.window.pad := by
    have fits := pooled.height_fits
    omega
  have single : after.graph.shapeOf ref = [sizes.batch, sizes.channels, 1, 1] ↔
      2 * sizes.window.pad < sizes.window.stride := by
    rw [pooled.shape, ← @Shape.windowCount_self_eq_one sizes.height _ _ pooled.stride_pos padded]
    simp [Pooling.output, Shape.windowCount, wide, square]
  refine ⟨input, mid, sizes, pooled, wide, square, padded, single, ?_⟩
  rw [single, Window.coversExactly_iff wide square padded]
  have moves := pooled.stride_pos
  omega

end Lower

namespace Sample

/-- An image with two channels of two rows and two columns. -/
def squareSession : Session where
  graph := ⟨[⟨"x", .external, .none, ⟨[1, 2, 2, 2], .replicate 8 .zero, by decide, rfl⟩⟩], [],
    ["main"]⟩
  names := ⟨[("x", .var 0)]⟩
  tensors := ⟨#[], .empty⟩
  notices := []

/-- Takes the maximum of each channel, with some padding. -/
def globalPooling (pad : Int) : Operator :=
  ⟨"MaxPool", "", ["x"], ["y"],
    [integerArgument "stride" 1, integerArgument "kernel" 1, integerArgument "pad" pad,
      integerArgument "global_pooling" 1], .done []⟩

end Sample

namespace Lower

/-- Without padding, the maximum of a channel is one number. -/
theorem global_pooling_covers_iff_sample :
    ∃ ref after, lowerOperator Sample.setting (Sample.globalPooling 0) Sample.squareSession =
        .ok ref after ∧
      ∃ input mid sizes, Pooled Sample.setting (Sample.globalPooling 0) .poolMax
          Sample.squareSession input mid sizes ref after ∧
        after.graph.shapeOf ref = [sizes.batch, sizes.channels, 1, 1] ∧
        sizes.window.CoversExactly sizes.height sizes.width := by
  refine ⟨_, _, rfl, ?_⟩
  have ⟨input, mid, sizes, pooled, _, _, _, _, covers⟩ := global_pooling_covers_iff Sample.setting
    (Sample.globalPooling 0) .maxPool .poolMax Sample.squareSession _ _ 1 rfl (by decide) rfl
    (by decide) rfl
  have unpadded : some 0 = some sizes.window.pad := pooled.pad
  exact ⟨input, mid, sizes, pooled, covers.mpr (.inl (Option.some.inj unpadded).symm)⟩

/-- With a padding of one on each side, a global pooling makes nine numbers of four. -/
theorem global_pooling_moves_in_padding :
    Sample.squareSession.shapeOf? "x" = some [1, 2, 2, 2] ∧
      Argument.integerOf? (Sample.globalPooling 1).arguments "global_pooling" none = some 1 ∧
      ∃ ref after, lowerOperator Sample.setting (Sample.globalPooling 1) Sample.squareSession =
          .ok ref after ∧
        after.graph.shapeOf ref = [1, 2, 3, 3] ∧ after.graph.shapeOf ref ≠ [1, 2, 1, 1] :=
  ⟨rfl, rfl, _, _, rfl, by decide, by decide⟩

end Lower

end NetImport
