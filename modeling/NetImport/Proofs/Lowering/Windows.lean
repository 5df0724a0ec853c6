import NetImport.Proofs.Lowering.Pooling
import NetImport.Proofs.Lowering.Stability

/-!
# Windows of convolutions and poolings

A window is given by the arguments of an operator, or by the extent of the image that a global
pooling reads. Nothing is asked of these numbers but that the window moves forward and is no larger
than the padded image: a kernel may have no cells, and a padding may be negative. This file says
what this leaves to be true of the windows in a function, whatever operators are lowered, and which
operators keep all windows meaningful.
-/

namespace NetImport

open Descriptor

/-- The window of an operation that moves one. -/
def Operation.window? : Operation → Option Window
  | .convolution window _ | .poolMax window | .poolAvg window => some window
  | _ => none

namespace Window

variable {window : Window} {height width rows columns : Int}

/-- A window with cells that moves forward, pads, and has no more positions than there is room. -/
structure Meaningful (window : Window) (height width rows columns : Int) : Prop where
  kernel : 1 ≤ window.kernel
  stride : 1 ≤ window.stride
  pad : 0 ≤ window.pad
  rows : rows ≤ height + 2 * window.pad
  columns : columns ≤ width + 2 * window.pad

/-- A window moves forward, has a position, and fits into the padded image at its last one. -/
structure Fits (window : Window) (height width rows columns : Int) : Prop where
  stride : 1 ≤ window.stride
  rows_pos : 1 ≤ rows
  columns_pos : 1 ≤ columns
  lastRow : (rows - 1) * window.stride + window.kernel ≤ height + 2 * window.pad
  lastColumn : (columns - 1) * window.stride + window.kernel ≤ width + 2 * window.pad

theorem fits_of_windowOutput
    (output : Shape.windowOutput height width window.kernel window.stride window.pad =
      .ok (rows, columns)) : window.Fits height width rows columns := by
  have ⟨rows_pos, columns_pos⟩ := Shape.windowOutput_pos output
  rcases Shape.windowOutput_eq_ok.mp output with ⟨stride_pos, _, _, rows_eq, columns_eq⟩
  have last : ∀ extent count, count = Shape.windowCount extent window.kernel window.stride
      window.pad → (count - 1) * window.stride + window.kernel ≤ extent + 2 * window.pad := by
    rintro extent _ rfl
    have floor := Int.ediv_mul_le (extent + 2 * window.pad - window.kernel)
      (b := window.stride) (by omega)
    rw [Shape.windowCount, Int.fdiv_eq_ediv_of_nonneg _ (by omega), Int.add_sub_cancel]
    omega
  exact ⟨stride_pos, rows_pos, columns_pos, last height rows rows_eq,
    last width columns columns_eq⟩

/-- A window with cells that fits has no more positions than there is room. -/
theorem Fits.room (fits : window.Fits height width rows columns) (cells : 1 ≤ window.kernel) :
    rows ≤ height + 2 * window.pad ∧ columns ≤ width + 2 * window.pad := by
  have room : ∀ count extent, 1 ≤ count →
      (count - 1) * window.stride + window.kernel ≤ extent → count ≤ extent := by
    intro count extent positive last
    have steps := Int.mul_le_mul_of_nonneg_left fits.stride (Int.sub_nonneg_of_le positive)
    omega
  exact ⟨room rows _ fits.rows_pos fits.lastRow, room columns _ fits.columns_pos fits.lastColumn⟩

theorem Fits.meaningful (fits : window.Fits height width rows columns) (cells : 1 ≤ window.kernel)
    (pads : 0 ≤ window.pad) : window.Meaningful height width rows columns :=
  ⟨cells, fits.stride, pads, (fits.room cells).1, (fits.room cells).2⟩

end Window

/-! ## Where windows come from -/

/-- The window that the arguments of an operator give for an image of some height and width. -/
inductive OperatorKind.Gives (arguments : List Argument) (window : Window) (height width : Int) :
    OperatorKind → Prop where
  | convolution (kernel : Argument.integerOf? arguments "kernel" none = some window.kernel)
      (stride : Argument.integerOf? arguments "stride" (some 1) = some window.stride)
      (pad : Argument.integerOf? arguments "pad" (some 0) = some window.pad) :
      Gives arguments window height width .conv
  | pooling {kind : OperatorKind} {operation : Window → Operation}
      (pools : kind.pooling? = some operation)
      (kernel : Argument.integerOf? arguments "kernel" none = some window.kernel)
      (stride : Argument.integerOf? arguments "stride" none = some window.stride)
      (pad : Argument.integerOf? arguments "pad" (some 0) = some window.pad)
      (notGlobal : Argument.integerOf? arguments "global_pooling" (some 0) = some 0) :
      Gives arguments window height width kind
  | globalPooling {kind : OperatorKind} {operation : Window → Operation} {isGlobal : Int}
      (pools : kind.pooling? = some operation)
      (rows : window.kernel = height) (columns : window.kernel = width)
      (stride : Argument.integerOf? arguments "stride" none = some window.stride)
      (pad : Argument.integerOf? arguments "pad" (some 0) = some window.pad)
      (global_eq : Argument.integerOf? arguments "global_pooling" (some 0) = some isGlobal)
      (isTrue : isGlobal ≠ 0) : Gives arguments window height width kind

/-- An action lowers an operator whose arguments give a window for an image. -/
inductive Action.Opens (setting : Setting) (window : Window) (height width : Int)
    (session : Session) : Action → Prop where
  | lower {operator : Operator} {kind : OperatorKind} {ref : Ref} {after : Session}
      (lowered : Lower.lowerOperator setting operator session = .ok ref after)
      (known : OperatorKind.ofLabel? operator.type = some kind)
      (gives : kind.Gives operator.arguments window height width) :
      Opens setting window height width session (.call (.lower operator))

namespace Graph

variable {Given : Window → Int → Int → Prop} {base mid graph : Graph} {node : Node}
  {owned : Variable}

/-- The windows of a node, which moves them over its first operand, are among the given ones. -/
def Moves (Given : Window → Int → Int → Prop) (graph : Graph) (node : Node) : Prop :=
  ∀ window, node.operation.window? = some window →
    ∃ image batch height width channels, node.operands.head? = some image ∧ graph.holds image ∧
      graph.shapeOf image = [batch, height, width, channels] ∧ Given window height width

/-- A graph has grown by nodes whose windows are among the given ones. -/
structure GrowsBy (Given : Window → Int → Int → Prop) (base graph : Graph) : Prop where
  grows : base.GrowsTo graph
  moves : ∀ index node, base.nodes.length ≤ index → graph.nodes[index]? = some node →
    graph.Moves Given node

theorem Moves.grows (grows : base.GrowsTo graph) (moves : base.Moves Given node) :
    graph.Moves Given node := by
  intro window moved
  rcases moves window moved with
    ⟨image, batch, height, width, channels, isFirst, held, shape, given⟩
  exact ⟨image, batch, height, width, channels, isFirst, grows.holds held,
    (grows.shapeOf_eq held).trans shape, given⟩

theorem moves_of_windowless (windowless : node.operation.window? = none) :
    graph.Moves Given node := by
  intro window moved
  rcases windowless.symm.trans moved with ⟨⟩

theorem growsBy_refl (Given : Window → Int → Int → Prop) (graph : Graph) :
    GrowsBy Given graph graph := by
  refine ⟨graph.growsTo_refl, ?_⟩
  intro index node beyond found
  have inside := (List.getElem?_eq_some_iff.mp found).1
  omega

theorem GrowsBy.mono {Also : Window → Int → Int → Prop}
    (implied : ∀ window height width, Given window height width → Also window height width)
    (grown : GrowsBy Given base graph) : GrowsBy Also base graph := by
  refine ⟨grown.grows, ?_⟩
  intro index node later found window moved
  rcases grown.moves index node later found window moved with
    ⟨image, batch, height, width, channels, isFirst, held, shape, given⟩
  exact ⟨image, batch, height, width, channels, isFirst, held, shape, implied _ _ _ given⟩

theorem GrowsBy.trans (first : GrowsBy Given base mid) (second : GrowsBy Given mid graph) :
    GrowsBy Given base graph := by
  refine ⟨growsTo_trans first.grows second.grows, ?_⟩
  intro index node later found
  rcases Nat.lt_or_ge index mid.nodes.length with old | new
  · rw [second.grows.node_get old] at found
    exact (first.moves index node later found).grows second.grows
  · exact second.moves index node new found

theorem growsBy_of_sameNodes (grows : base.GrowsTo graph) (same : graph.nodes = base.nodes) :
    GrowsBy Given base graph := by
  refine ⟨grows, ?_⟩
  intro index node beyond found
  have inside := (List.getElem?_eq_some_iff.mp found).1
  rw [same] at inside
  omega

theorem GrowsBy.withVar (grown : GrowsBy Given base graph) :
    GrowsBy Given base (graph.withVar owned) :=
  grown.trans (growsBy_of_sameNodes (growsTo_withVar graph owned) rfl)

theorem GrowsBy.withNode (grown : GrowsBy Given base graph) (moves : graph.Moves Given node) :
    GrowsBy Given base (graph.withNode node) := by
  refine grown.trans ⟨growsTo_withNode graph node, ?_⟩
  intro index other beyond found
  have inside := (List.getElem?_eq_some_iff.mp found).1
  rw [length_nodes_withNode] at inside
  have last : index = graph.nodes.length := by omega
  subst last
  simp only [nodes_withNode, List.getElem?_concat_length, Option.some.injEq] at found
  subst other
  exact moves.grows (growsTo_withNode graph node)

/-- A spatial node moves its window over the image whose channels have been moved last. -/
theorem GrowsBy.withSpatial {function : Nat} {name : Label} {input : Ref} {operation : Operation}
    {parameters : List Ref} {batch height width channels outHeight outWidth depth : Int}
    (grown : GrowsBy Given base graph)
    (given : ∀ window, operation.window? = some window → Given window height width) :
    GrowsBy Given base (graph.withSpatial function name input operation parameters
      batch height width channels outHeight outWidth depth) := by
  refine ((grown.withNode (moves_of_windowless rfl)).withNode ?_).withNode
    (moves_of_windowless rfl)
  intro window moved
  exact ⟨_, batch, height, width, channels, rfl, by simp [holds], shapeOf_withNode_new,
    given window moved⟩

theorem GrowsBy.withSum {function : Nat} {name : Label} {total : Ref} {refs : List Ref}
    (grown : GrowsBy Given base graph) :
    GrowsBy Given base (withSum function name graph total refs).2 := by
  induction refs generalizing graph total with
  | nil => exact grown
  | cons ref refs hypothesis => exact hypothesis (grown.withNode (moves_of_windowless rfl))

end Graph

namespace Lower

variable {setting : Setting} {tensors : TensorStore} {operator : Operator} {kind : OperatorKind}
  {graph grown : Graph} {inputs : List Ref} {session after : Session} {ref : Ref}

theorem windowless_of_elementwise? {operation : Operation}
    (applies : kind.elementwise? = some operation) : operation.window? = none := by
  cases kind <;> cases applies <;> rfl

theorem windowless_of_pairwise? {operation : Operation}
    (combines : kind.pairwise? = some operation) : operation.window? = none := by
  cases kind <;> cases combines <;> rfl

theorem window?_of_pooling? {operation : Window → Operation} (window : Window)
    (pools : kind.pooling? = some operation) : (operation window).window? = some window := by
  rcases pooling?_eq_some.mp pools with ⟨_, rfl⟩ | ⟨_, rfl⟩
  · rfl
  · rfl

/-- The windows of the nodes that an operator emits are given by its arguments. -/
theorem emits_growsBy
    (emits : Emits setting tensors operator (Arguments.ofList kind.type operator.arguments) graph
      kind inputs ref grown) :
    Graph.GrowsBy (fun window height width => kind.Gives operator.arguments window height width)
      graph grown := by
  have same := Graph.growsBy_refl
    (fun window height width => kind.Gives operator.arguments window height width) graph
  have windowless : ∀ {graph : Graph} {node : Node}, node.operation.window? = none →
      graph.Moves (fun window height width => kind.Gives operator.arguments window height width)
        node := Graph.moves_of_windowless
  cases emits with
  | dropout => exact same
  | elementwise applies => exact same.withNode (windowless (windowless_of_elementwise? applies))
  | convolution stride_eq pad_eq kernel_eq =>
      refine same.withVar.withVar.withSpatial ?_
      rintro _ ⟨⟩
      exact .convolution (Arguments.int_ofList_eq_ok.mp kernel_eq)
        (Arguments.int_ofList_eq_ok.mp stride_eq) (Arguments.int_ofList_eq_ok.mp pad_eq)
  | @pooling _ operation _ stride pad kernel isGlobal _ _ height _ _ _ pools stride_eq kernel_eq
      pad_eq _ global_eq square =>
      refine same.withSpatial ?_
      intro window moved
      rw [window?_of_pooling? _ pools] at moved
      rcases moved with ⟨⟩
      have strideGiven := Arguments.int_ofList_eq_ok.mp stride_eq
      have padGiven := Arguments.int_ofList_eq_ok.mp pad_eq
      have globalGiven := Arguments.int_ofList_eq_ok.mp global_eq
      by_cases isTrue : isGlobal ≠ 0
      · simp only [if_pos isTrue]
        exact .globalPooling pools rfl (square isTrue) strideGiven padGiven globalGiven isTrue
      · rw [not_not.mp isTrue] at globalGiven
        simp only [if_neg isTrue]
        exact .pooling pools (Arguments.int_ofList_eq_ok.mp kernel_eq) strideGiven padGiven
          globalGiven
  | localResponseNormalization =>
      refine same.withSpatial ?_
      rintro _ ⟨⟩
  | batchNormalization =>
      exact same.withVar.withVar.withVar.withVar.withNode (windowless rfl)
  | concatenation => exact same.withNode (windowless rfl)
  | arithmetic combines => exact same.withNode (windowless (windowless_of_pairwise? combines))
  | broadcastArithmetic combines =>
      exact (same.withNode (windowless rfl)).withNode
        (windowless (windowless_of_pairwise? combines))
  | sum => exact same.withSum
  | softmax => exact (same.withNode (windowless rfl)).withNode (windowless rfl)
  | fullyConnected => exact same.withVar.withVar.withNode (windowless rfl)
  | channelShuffle => exact same.withNode (windowless rfl)
  | squeeze => exact same.withNode (windowless rfl)

end Lower

/-! ## Windows after any actions -/

/-- An operator that moves a window gives it cells, unless it is global, and no negative padding. -/
def Descriptor.Operator.AsksSensibly (operator : Operator) : Prop :=
  ∀ kind, OperatorKind.ofLabel? operator.type = some kind →
    (kind = .conv ∨ kind.pooling?.isSome) →
      (∀ kernel, Argument.integerOf? operator.arguments "kernel" none = some kernel →
          1 ≤ kernel) ∧
        ∀ pad, Argument.integerOf? operator.arguments "pad" (some 0) = some pad → 0 ≤ pad

namespace Session

variable {setting : Setting} {session : Session} {actions : List Action}

/-- An action adds no windows but those that the arguments of its operator give. -/
theorem perform_growsBy (linked : session.Linked setting.function) (action : Action) :
    Graph.GrowsBy
      (fun window height width => action.Opens setting window height width session)
      session.graph (action.perform setting session).graph := by
  cases action with
  | restock tensors => exact Graph.growsBy_refl _ _
  | call asked =>
      have grows := (asked.perform_builds linked).graph.grows
      cases asked with
      | resolve name =>
          refine Graph.growsBy_of_sameNodes grows ?_
          simp only [Action.perform, Call.perform]
          cases outcome : Lower.resolve name session with
          | ok ref after => exact (Lower.resolve_adds outcome).2.2
          | error error after =>
              rcases Lower.resolve_eq_error.mp outcome with ⟨_, _, rfl⟩
              rfl
      | lower operator =>
          simp only [Action.perform, Call.perform] at grows ⊢
          cases outcome : Lower.lowerOperator setting operator session with
          | ok ref after =>
              rcases Lower.lowerOperator_eq_ok.mp outcome with ⟨kind, _, known, _⟩
              rcases Lower.lowerOperator_emits linked.valid known outcome with
                ⟨inputs, mid, _, resolved, emits, rfl⟩
              have sameNodes := (Lower.resolveAll_shapes linked.valid resolved).2
              exact (Graph.growsBy_of_sameNodes (Lower.resolveAll_growsTo resolved).graph
                sameNodes).trans ((Lower.emits_growsBy emits).mono
                  fun _ _ _ gives => .lower outcome known gives)
          | error error after =>
              rw [Lower.lowerOperator_restores outcome]
              exact Graph.growsBy_refl _ _
      | finalize externalOutputs =>
          simp only [Action.perform, Call.perform] at grows ⊢
          cases outcome : Lower.finalize setting externalOutputs session with
          | ok ref after =>
              rcases Lower.finalize_eq_ok.mp outcome with ⟨_, _, _, _, _, _, _, _, rfl⟩
              exact (Graph.growsBy_refl _ _).withVar.withNode (Graph.moves_of_windowless rfl)
          | error error after =>
              rw [Lower.finalize_restores outcome]
              exact Graph.growsBy_refl _ _

/-- The windows that actions add are given by the arguments of operators among them. -/
theorem performActions_growsBy (linked : session.Linked setting.function) :
    Graph.GrowsBy
      (fun window height width =>
        session.Sometime setting (Action.Opens setting window height width) actions)
      session.graph (session.performActions setting actions).graph := by
  induction actions generalizing session with
  | nil => exact Graph.growsBy_refl _ _
  | cons action actions hypothesis =>
      have first := perform_growsBy linked action
      have rest := hypothesis (perform_action_builds linked action).linked
      exact (first.mono fun _ _ _ opens => .now opens).trans
        (rest.mono fun _ _ _ later => .later later)

theorem exists_of_sometime {Happens : Session → Action → Prop}
    (sometime : session.Sometime setting Happens actions) :
    ∃ action ∈ actions, ∃ reached, Happens reached action := by
  induction sometime with
  | now happens => exact ⟨_, List.mem_cons_self, _, happens⟩
  | later _ hypothesis =>
      rcases hypothesis with ⟨action, member, happens⟩
      exact ⟨action, List.mem_cons_of_mem _ member, happens⟩

end Session

/-- The shapes between which a window moves; a convolution has a filter as wide as its window. -/
theorem Typing.window {operation : Operation} {shapes : List Shape} {shape : Shape}
    {window : Window} (typing : Typing operation shapes shape)
    (moved : operation.window? = some window) :
    ∃ batch height width channels rows columns depth parameters,
      shapes = [batch, height, width, channels] :: parameters ∧
        shape = [batch, rows, columns, depth] ∧ window.Fits height width rows columns ∧
        ((∃ group, operation = .convolution window group) → ∃ filters others rest,
          parameters = (filters :: window.kernel :: others) :: rest) := by
  cases typing with
  | convolution _ _ _ output =>
      rcases moved with ⟨⟩
      exact ⟨_, _, _, _, _, _, _, _, rfl, rfl, Window.fits_of_windowOutput output,
        fun _ => ⟨_, _, _, rfl⟩⟩
  | poolMax output =>
      rcases moved with ⟨⟩
      refine ⟨_, _, _, _, _, _, _, _, rfl, rfl, Window.fits_of_windowOutput output, ?_⟩
      rintro ⟨group, ⟨⟩⟩
  | poolAvg output =>
      rcases moved with ⟨⟩
      refine ⟨_, _, _, _, _, _, _, _, rfl, rfl, Window.fits_of_windowOutput output, ?_⟩
      rintro ⟨group, ⟨⟩⟩
  | _ => cases moved

/--
A node of a graph moves a window over an image, from which it makes rows and columns; the window
fits, and that of a convolution has no negative kernel.
-/
structure Graph.MovesOver (graph : Graph) (node : Node) (window : Window)
    (height width rows columns : Int) : Prop where
  image : ∃ image batch channels, node.operands.head? = some image ∧
    graph.shapeOf image = [batch, height, width, channels]
  height_nonneg : 0 ≤ height
  result : ∃ batch depth, node.shape = [batch, rows, columns, depth]
  fits : window.Fits height width rows columns
  filter : (∃ group, node.operation = .convolution window group) → 0 ≤ window.kernel

theorem Graph.movesOver_of_wellTyped {graph : Graph} {function index : Nat} {node : Node}
    {window : Window} (closed : graph.Closed function) (typed : graph.WellTyped function)
    (found : graph.nodes[index]? = some node) (owner : node.function = function)
    (moved : node.operation.window? = some window) :
    ∃ height width rows columns, graph.MovesOver node window height width rows columns := by
  have extents : ∀ operand ∈ node.operands, (graph.shapeOf operand).NonNegative :=
    fun operand reads => nonNegative_of_wellTyped typed operand
      ((closed index node found owner).operands operand reads).linked
  rcases (typed index node found owner).1.typing.window moved with
    ⟨batch, height, width, channels, rows, columns, depth, parameters, shapes_eq, shape_eq, fits,
      filterShape⟩
  rcases List.map_eq_cons_iff.mp shapes_eq with
    ⟨image, rest, operands_eq, image_shape, parameters_eq⟩
  have imageExtents := extents image (by simp [operands_eq])
  rw [image_shape] at imageExtents
  refine ⟨height, width, rows, columns, {
    image := ⟨image, batch, channels, by simp [operands_eq], image_shape⟩
    height_nonneg := imageExtents.extentAt 1
    result := ⟨batch, depth, shape_eq⟩
    fits := fits
    filter := ?_ }⟩
  intro isConvolution
  rcases filterShape isConvolution with ⟨filters, others, _, rfl⟩
  rcases List.map_eq_cons_iff.mp parameters_eq with ⟨filter, _, rfl, filter_shape, _⟩
  have filterExtents := extents filter (by simp [operands_eq])
  rw [filter_shape] at filterExtents
  exact filterExtents.extentAt 1

namespace Session

variable {setting : Setting} {session : Session} {actions : List Action} {window : Window}
  {height width rows columns : Int}

/-- If all operators ask sensibly, a window is meaningful unless its image has no cells. -/
theorem meaningful_of_opened (fits : window.Fits height width rows columns)
    (height_nonneg : 0 ≤ height)
    (opened : session.Sometime setting (Action.Opens setting window height width) actions)
    (sensible : ∀ operator, .call (.lower operator) ∈ actions → operator.AsksSensibly) :
    window.Meaningful height width rows columns ∨
      window.kernel = 0 ∧ height = 0 ∧ width = 0 := by
  rcases exists_of_sometime opened with
    ⟨_, member, reached, @⟨operator, kind, _, _, _, known, gives⟩⟩
  have asks := sensible operator member kind known
  cases gives with
  | convolution kernel _ pad =>
      have ⟨cells, pads⟩ := asks (.inl rfl)
      exact .inl (fits.meaningful (cells _ kernel) (pads _ pad))
  | pooling pools kernel _ pad =>
      have ⟨cells, pads⟩ := asks (.inr (by simp [pools]))
      exact .inl (fits.meaningful (cells _ kernel) (pads _ pad))
  | globalPooling pools isHeight isWidth _ pad =>
      have ⟨_, pads⟩ := asks (.inr (by simp [pools]))
      rcases height_nonneg.lt_or_eq with positive | zero
      · exact .inl (fits.meaningful (by omega) (pads _ pad))
      · exact .inr ⟨by omega, zero.symm, by omega⟩

/--
From an empty function on, whatever actions are taken, the window of every node of the function
moves forward over its image, has a position, and fits at its last one, so that there are no more
positions than room if the window has cells; its numbers are those that the arguments of an operator
give that has been lowered, or the extent of the image of a global pooling. If no operator asks for
a window without cells or for negative padding, then all windows are meaningful but those of global
poolings of images without cells.
-/
theorem windows_fit (setting : Setting) (session : Session) (actions : List Action)
    (empty : ∀ node ∈ session.graph.nodes, node.function ≠ setting.function)
    (among : ∀ name ref, session.names.get? name = some ref → ref ∈ session.graph.variableRefs) :
    let reached := session.performActions setting actions
    ∀ (index : Nat) (node : Node) (window : Window), reached.graph.nodes[index]? = some node →
      node.function = setting.function → node.operation.window? = some window →
        ∃ height width rows columns,
          reached.graph.MovesOver node window height width rows columns ∧
            (1 ≤ window.kernel →
              rows ≤ height + 2 * window.pad ∧ columns ≤ width + 2 * window.pad) ∧
            session.Sometime setting (Action.Opens setting window height width) actions ∧
            ((∀ operator, .call (.lower operator) ∈ actions → operator.AsksSensibly) →
              window.Meaningful height width rows columns ∨
                window.kernel = 0 ∧ height = 0 ∧ width = 0) := by
  intro reached index node window found owner moved
  have linked : session.Linked setting.function := by
    intro name ref published
    exact Graph.linked_iff.mpr (.inl (among name ref published))
  have closed : session.graph.Closed setting.function := by
    intro position node found owner
    exact absurd owner (empty node (List.mem_of_getElem? found))
  have typed : session.graph.WellTyped setting.function := by
    intro position node found owner
    exact absurd owner (empty node (List.mem_of_getElem? found))
  have built := (performActions_builds linked actions).graph
  rcases Graph.movesOver_of_wellTyped (built.closed closed) (built.wellTyped closed typed) found
    owner moved with ⟨height, width, rows, columns, moves⟩
  have isNew : session.graph.nodes.length ≤ index := by
    by_contra older
    rw [built.grows.node_get (by omega)] at found
    exact empty node (List.mem_of_getElem? found) owner
  have opened : session.Sometime setting (Action.Opens setting window height width) actions := by
    rcases (performActions_growsBy linked).moves index node isNew found window moved with
      ⟨image, _, _, _, _, isFirst, _, shape, opened⟩
    rcases moves.image with ⟨_, _, _, alsoFirst, alsoShape⟩
    rcases isFirst.symm.trans alsoFirst with ⟨⟩
    rcases shape.symm.trans alsoShape with ⟨⟩
    exact opened
  exact ⟨height, width, rows, columns, moves, moves.fits.room, opened,
    meaningful_of_opened moves.fits moves.height_nonneg opened⟩

end Session

namespace Sample

/-- Takes the maximum of no numbers at all. -/
def emptyPooling : Operator :=
  ⟨"MaxPool", "", ["x"], ["y"], [integerArgument "kernel" 0, integerArgument "stride" 1], .done []⟩

theorem sensible_globalPooling : (globalPooling 1).AsksSensibly := by
  intro kind _ _
  constructor
  · rintro _ ⟨⟩
    decide
  · rintro _ ⟨⟩
    decide

end Sample

namespace Session

/-- A global pooling with some padding moves a meaningful window over a square image. -/
theorem windows_fit_sample :
    let actions : List Action := [.call (.lower (Sample.globalPooling 1))]
    let reached := Sample.squareSession.performActions Sample.setting actions
    ∃ node height width rows columns, reached.graph.nodes[1]? = some node ∧
      reached.graph.MovesOver node ⟨2, 1, 1⟩ height width rows columns ∧
      Window.Meaningful ⟨2, 1, 1⟩ height width rows columns := by
  intro actions reached
  have empty : ∀ node ∈ Sample.squareSession.graph.nodes,
      node.function ≠ Sample.setting.function := by
    simp [Sample.squareSession]
  have among : ∀ name ref, Sample.squareSession.names.get? name = some ref →
      ref ∈ Sample.squareSession.graph.variableRefs := by
    intro name ref published
    have entries : ∀ entry ∈ Sample.squareSession.names.entries,
        entry.2 ∈ Sample.squareSession.graph.variableRefs := by decide
    exact entries _ (Registry.mem_of_get? published)
  have sensible : ∀ operator, .call (.lower operator) ∈ actions → operator.AsksSensibly := by
    intro operator member
    rcases List.mem_singleton.mp member with ⟨⟩
    exact Sample.sensible_globalPooling
  rcases windows_fit Sample.setting Sample.squareSession actions empty among 1 _ ⟨2, 1, 1⟩ rfl rfl
    rfl with ⟨height, width, rows, columns, moves, _, _, meaningful⟩
  rcases meaningful sensible with holds | ⟨noCells, _⟩
  · exact ⟨_, height, width, rows, columns, rfl, moves, holds⟩
  · cases noCells

/-- A pooling with a kernel of zero has more positions than there is room. -/
theorem windows_not_always_meaningful :
    let reached := Sample.squareSession.performActions Sample.setting
      [.call (.lower Sample.emptyPooling)]
    ¬∀ (index : Nat) (node : Node) (window : Window) (height width rows columns : Int),
      reached.graph.nodes[index]? = some node → node.function = Sample.setting.function →
        node.operation.window? = some window →
          reached.graph.MovesOver node window height width rows columns →
            window.Meaningful height width rows columns := by
  intro reached always
  have moves : reached.graph.MovesOver
      ⟨0, "y", .poolMax ⟨0, 1, 0⟩, [.node 0], [1, 3, 3, 2]⟩ ⟨0, 1, 0⟩ 2 2 3 3 := {
    image := ⟨.node 0, 1, 2, rfl, rfl⟩
    height_nonneg := by decide
    result := ⟨1, 2, rfl⟩
    fits := ⟨by decide, by decide, by decide, by decide, by decide⟩
    filter := by
      rintro ⟨group, ⟨⟩⟩ }
  have meaningful := always 1 _ _ 2 2 3 3 rfl rfl rfl moves
  exact absurd meaningful.kernel (by decide)

end Session

end NetImport
