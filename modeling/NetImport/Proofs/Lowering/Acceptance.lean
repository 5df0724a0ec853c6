import NetImport.Proofs.Descriptor.Arguments
import NetImport.Proofs.Lowering.Faults
import NetImport.Proofs.Lowering.Layout
import NetImport.Proofs.Lowering.Parameters
import NetImport.Proofs.Shape
import NetImport.Proofs.Tensor

/-!
# Which convolutions are accepted

Whether a convolution can be lowered is decided in many places: while its arguments are read, while
its names are looked up, when the stored filter is transposed, and by the factories of the nodes,
which compute again what the rule has computed. This file says in one place what a convolution has
to be, in terms of its operator, the shapes of what its names denote, and its stored tensors, and
shows that the convolutions which are lowered are those, and what each of them adds.
-/

namespace NetImport

open Descriptor

theorem Registry.mem_of_get? {Name Value : Type} [DecidableEq Name]
    {registry : Registry Name Value} {name : Name} {value : Value}
    (found : registry.get? name = some value) : (name, value) ∈ registry.entries := by
  rcases List.lookup_eq_some_iff.mp found with ⟨before, behind, split, _⟩
  rw [split]
  simp

/-- The handles of a store can be checked one by one. -/
theorem TensorStore.sound_of_entries {store : TensorStore}
    (each : ∀ entry ∈ store.handles.entries, entry.2 < store.tensors.size) : store.Sound := by
  intro name handle bound
  unfold TensorStore.handle at bound
  split at bound
  · rename_i held found
    rcases Except.ok.inj bound with rfl
    exact each _ (Registry.mem_of_get? found)
  · cases bound

namespace Session

variable {session after : Session} {name : Label} {ref : Ref}

/-- The published references can be checked one by one. -/
theorem valid_of_entries (each : ∀ entry ∈ session.names.entries, session.graph.holds entry.2) :
    session.Valid :=
  fun _ _ published => each _ (Registry.mem_of_get? published)

/-- The shape of what a name denotes: of what is published under it, or else of a stored tensor. -/
def shapeOf? (session : Session) (name : Label) : Option Shape :=
  match session.names.get? name with
  | some ref => some (session.graph.shapeOf ref)
  | none => (session.tensors.get name).toOption.map Tensor.shape

/-- The variables that are added when a name is resolved: one unless the name is published. -/
def promotions (session : Session) (name : Label) : List Variable :=
  match session.names.get? name, session.tensors.get name with
  | none, .ok payload => [⟨name, .internal, .broadcast, payload⟩]
  | _, _ => []

end Session

/-- The dimensions of a convolution. -/
structure Convolution where
  window : Window
  group : Int
  batch : Int
  channels : Int
  height : Int
  width : Int
  depth : Int

/-- The shape of the result of a convolution, whose channels are the second axis. -/
def Convolution.output (sizes : Convolution) : Shape :=
  let count := fun extent =>
    Int.fdiv (extent + 2 * sizes.window.pad - sizes.window.kernel) sizes.window.stride + 1
  [sizes.batch, sizes.depth, count sizes.height, count sizes.width]

/-- What a convolution has to be: its arguments, what its names denote, and how they fit. -/
structure Convolvable (session : Session) (operator : Operator) (sizes : Convolution) : Prop where
  kernel : Argument.integerOf? operator.arguments "kernel" none = some sizes.window.kernel
  stride : Argument.integerOf? operator.arguments "stride" (some 1) = some sizes.window.stride
  pad : Argument.integerOf? operator.arguments "pad" (some 0) = some sizes.window.pad
  group : Argument.integerOf? operator.arguments "group" (some 1) = some sizes.group
  noSidePads : ∀ side ∈ Lower.sidePads, ∀ argument ∈ operator.arguments, argument.name ≠ .text side
  input : ∃ name, operator.inputs[0]? = some name ∧
    session.shapeOf? name = some [sizes.batch, sizes.channels, sizes.height, sizes.width]
  filter : ∃ name stored, operator.inputs[1]? = some name ∧
    session.tensors.get name = .ok stored ∧
    stored.shape =
      [sizes.depth, sizes.channels / sizes.group, sizes.window.kernel, sizes.window.kernel]
  bias : ∀ name stored, operator.inputs[2]? = some name → session.tensors.get name = .ok stored →
    stored.shape = [sizes.depth]
  group_pos : 1 ≤ sizes.group
  channels_dvd : sizes.group ∣ sizes.channels
  depth_dvd : sizes.group ∣ sizes.depth
  stride_pos : 1 ≤ sizes.window.stride
  height_fits : sizes.window.kernel ≤ sizes.height + 2 * sizes.window.pad
  width_fits : sizes.window.kernel ≤ sizes.width + 2 * sizes.window.pad

/-- What a convolution that is lowered has added to a session. -/
structure Convolved (session : Session) (operator : Operator) (sizes : Convolution) (ref : Ref)
    (after : Session) : Prop where
  published : ∀ name ∈ operator.outputs, after.names.get? name = some ref
  isNode : ∃ index, ref = .node index
  shape : after.graph.shapeOf ref = sizes.output
  nodes : ∃ first second third, after.graph.nodes = session.graph.nodes ++ [first, second, third]
  vars : ∃ name filter bias, operator.inputs[0]? = some name ∧
    filter.name = operator.title.part ".filter" ∧ bias.name = operator.title.part ".bias" ∧
    after.graph.vars = session.graph.vars ++ session.promotions name ++ [filter, bias] ∧
    (session.promotions name).length = if session.names.contains name then 0 else 1

theorem Session.length_promotions {session : Session} {name : Label} {shape : Shape}
    (denotes : session.shapeOf? name = some shape) :
    (session.promotions name).length = if session.names.contains name then 0 else 1 := by
  cases published : session.names.get? name with
  | some ref => simp [promotions, Registry.contains, published]
  | none =>
      cases stored : session.tensors.get name with
      | error error => simp [shapeOf?, published, stored, Except.toOption] at denotes
      | ok payload => simp [promotions, Registry.contains, published, stored]

namespace Graph

section Spatial

variable {graph : Graph} {function : Nat} {name : Label} {input : Ref} {operation : Operation}
  {parameters : List Ref} {batch height width channels outHeight outWidth depth : Int}

theorem nodes_withSpatial :
    (graph.withSpatial function name input operation parameters
        batch height width channels outHeight outWidth depth).nodes =
      graph.nodes ++
        [⟨function, name, .transpose Lower.channelsLast, [input], [batch, height, width, channels]⟩,
          ⟨function, name, operation, .node graph.nodes.length :: parameters,
            [batch, outHeight, outWidth, depth]⟩,
          ⟨function, name, .transpose Lower.channelsFirst, [.node (graph.nodes.length + 1)],
            [batch, depth, outHeight, outWidth]⟩] := by
  simp [withSpatial]

theorem shapeOf_withSpatial :
    (graph.withSpatial function name input operation parameters
        batch height width channels outHeight outWidth depth).shapeOf
      (.node (graph.nodes.length + 2)) = [batch, depth, outHeight, outWidth] := by
  simp [shapeOf, nodes_withSpatial]

end Spatial

end Graph

namespace Lower

variable {setting : Setting} {operator : Operator} {arguments : Arguments}
  {session after mid : Session} {ref : Ref} {name : Label} {shape : Shape}

/-- A name that denotes something of some shape resolves to a reference of this shape. -/
theorem resolve_of_shapeOf? (denotes : session.shapeOf? name = some shape) :
    ∃ ref mid, resolve name session = .ok ref mid ∧ mid.graph.shapeOf ref = shape := by
  simp only [Session.shapeOf?] at denotes
  cases published : session.names.get? name with
  | some ref =>
      rw [published] at denotes
      exact ⟨ref, session, resolve_eq_ok.mpr (.inl ⟨published, rfl⟩), Option.some.inj denotes⟩
  | none =>
      rw [published] at denotes
      cases stored : session.tensors.get name with
      | error error =>
          rw [stored] at denotes
          cases denotes
      | ok payload =>
          rw [stored] at denotes
          refine ⟨_, _, resolve_eq_ok.mpr (.inr ⟨published, payload, stored, rfl, rfl⟩), ?_⟩
          exact Graph.shapeOf_withVar_new.trans (Option.some.inj denotes)

/-- What resolves denotes something of the shape of its reference, and only variables are added. -/
theorem resolve_adds (resolved : resolve name session = .ok ref mid) :
    session.shapeOf? name = some (mid.graph.shapeOf ref) ∧
      mid.graph.vars = session.graph.vars ++ session.promotions name ∧
      mid.graph.nodes = session.graph.nodes := by
  simp only [Session.shapeOf?, Session.promotions]
  rcases resolve_eq_ok.mp resolved with ⟨published, rfl⟩ | ⟨unpublished, payload, stored, rfl, rfl⟩
  · simp [published]
  · rw [unpublished, stored]
    refine ⟨?_, rfl, rfl⟩
    simp [Session.promote, Variable.shape, Except.toOption]

/-- Resolving a name does not change the shape of what names denote. -/
theorem shapeOf?_of_resolve (valid : session.Valid) (resolved : resolve name session = .ok ref mid)
    (other : Label) : mid.shapeOf? other = session.shapeOf? other := by
  rcases resolve_eq_ok.mp resolved with ⟨_, rfl⟩ | ⟨unpublished, payload, stored, rfl, rfl⟩
  · rfl
  · simp only [Session.shapeOf?, Session.promote, Registry.get?_bind]
    by_cases same : other = name
    · subst same
      simp [unpublished, stored, Variable.shape, Except.toOption]
    · rw [if_neg same]
      cases published : session.names.get? other with
      | none => rfl
      | some held => exact congrArg some (Graph.shapeOf_withVar (valid other held published))

/-- What several names resolve to has the shapes of what they denoted before. -/
theorem resolveAll_shapes {names : List Label} {refs : List Ref} (valid : session.Valid)
    (resolved : resolveAll names session = .ok refs mid) :
    List.Forall₂ (fun name ref => session.shapeOf? name = some (mid.graph.shapeOf ref)) names refs ∧
      mid.graph.nodes = session.graph.nodes := by
  induction names generalizing session refs with
  | nil =>
      rcases resolveAll_nil_eq_ok.mp resolved with ⟨rfl, rfl⟩
      exact ⟨.nil, rfl⟩
  | cons name names hypothesis =>
      rcases resolveAll_cons_eq_ok.mp resolved with ⟨first, one, others, resolvedFirst, rest, rfl⟩
      have ⟨firstHeld, oneValid⟩ := resolve_valid valid resolvedFirst
      have ⟨firstShape, _, sameNodes⟩ := resolve_adds resolvedFirst
      have ⟨otherShapes, restNodes⟩ := hypothesis oneValid rest
      have grown := (resolveAll_growsTo rest).graph
      refine ⟨.cons ?_ ?_, restNodes.trans sameNodes⟩
      · rw [firstShape, grown.shapeOf_eq firstHeld]
      · apply otherShapes.imp
        intro other ref shape
        rw [← shapeOf?_of_resolve valid resolvedFirst, shape]

/-- Names that all denote something resolve. -/
theorem exists_resolveAll {names : List Label} (valid : session.Valid)
    (denote : ∀ name ∈ names, ∃ shape, session.shapeOf? name = some shape) :
    ∃ refs mid, resolveAll names session = .ok refs mid := by
  induction names generalizing session with
  | nil => exact ⟨[], session, resolveAll_nil_eq_ok.mpr ⟨rfl, rfl⟩⟩
  | cons name names hypothesis =>
      rcases denote name List.mem_cons_self with ⟨shape, denotes⟩
      rcases resolve_of_shapeOf? denotes with ⟨first, one, resolvedFirst, _⟩
      have others : ∀ other ∈ names, ∃ shape, one.shapeOf? other = some shape := by
        intro other member
        rw [shapeOf?_of_resolve valid resolvedFirst]
        exact denote other (List.mem_cons_of_mem _ member)
      rcases hypothesis (resolve_valid valid resolvedFirst).2 others with ⟨refs, mid, rest⟩
      exact ⟨first :: refs, mid, resolveAll_cons_eq_ok.mpr
        ⟨first, one, refs, resolvedFirst, rest, rfl⟩⟩

theorem createTranspose_of_rankFour {function : Nat} {title : Label} {input : Ref} {graph : Graph}
    {batch channels height width : Int}
    (input_shape : graph.shapeOf input = [batch, channels, height, width]) :
    Graph.createTranspose function title input channelsLast graph =
      .ok (.node graph.nodes.length)
        (graph.withNode ⟨function, title, .transpose channelsLast, [input],
          [batch, height, width, channels]⟩) := by
  have allAxes : Shape.IsAxisPermutation channelsLast 4 := by decide
  refine Graph.createTranspose_eq_ok.mpr ⟨?_, rfl, ?_⟩
  · rw [input_shape]
    exact allAxes
  · rw [input_shape]
    rfl

theorem createTranspose_back {function : Nat} {title : Label} {input : Ref} {operation : Operation}
    {parameters : List Ref} {graph : Graph}
    {batch height width channels outHeight outWidth depth : Int} :
    Graph.createTranspose function title (.node (graph.nodes.length + 1)) channelsFirst
        ((graph.withNode ⟨function, title, .transpose channelsLast, [input],
          [batch, height, width, channels]⟩).withNode ⟨function, title, operation,
            .node graph.nodes.length :: parameters, [batch, outHeight, outWidth, depth]⟩) =
      .ok (.node (graph.nodes.length + 2)) (graph.withSpatial function title input operation
        parameters batch height width channels outHeight outWidth depth) := by
  have allAxes : Shape.IsAxisPermutation channelsFirst 4 := by decide
  have moved_shape : ((graph.withNode ⟨function, title, .transpose channelsLast, [input],
      [batch, height, width, channels]⟩).withNode ⟨function, title, operation,
        .node graph.nodes.length :: parameters, [batch, outHeight, outWidth, depth]⟩).shapeOf
          (.node (graph.nodes.length + 1)) = [batch, outHeight, outWidth, depth] := by
    rw [← Graph.length_nodes_withNode, Graph.shapeOf_withNode_new]
  refine Graph.createTranspose_eq_ok.mpr ⟨?_, ?_, ?_⟩
  · rw [moved_shape]
    exact allAxes
  · simp
  · rw [moved_shape]
    rfl

/-- A convolution succeeds if its input is resolved and everything that it emits is in order. -/
theorem convolution_eq_ok (valid : session.Valid) :
    convolution setting operator arguments session = .ok ref after ↔
      Lowered setting operator arguments session .conv ref after := by
  refine ⟨convolution_lowered valid, ?_⟩
  rintro @⟨inputs, mid, grown, resolved, emits, rfl⟩
  cases emits with
  | elementwise applies => cases applies
  | pooling pools => cases pools
  | arithmetic combines => cases combines
  | broadcastArithmetic combines => cases combines
  | @convolution input stored weights bias stride pad kernel group batch channels height width
      outHeight outWidth depth stride_eq pad_eq kernel_eq group_eq noSidePads stored_eq weights_eq
      bias_eq input_shape weights_shape bias_shape group_pos channels_mod depth_mod fits =>
      have held : mid.graph.holds input :=
        (resolveAll_valid valid resolved).1 _ (List.mem_singleton_self _)
      have depthAt : weights.shape.extentAt 0 = depth := by
        rw [weights_shape]
        rfl
      simp only [convolution, ofResult_bind_eq_ok, refuseSidePads_bind_eq_ok]
      refine ⟨stride, stride_eq, pad, pad_eq, kernel, kernel_eq, group, group_eq, noSidePads, ?_⟩
      refine Steps.bind_eq_ok.mpr ⟨input, mid, resolveInput_of_first resolved, ?_⟩
      simp only [inputTensor_bind_eq_ok, ofResult_bind_eq_ok, onGraph_bind_eq_ok,
        Graph.addVariable_eq_ok]
      refine ⟨stored, stored_eq, weights, weights_eq, _, _, ⟨rfl, rfl⟩, ?_⟩
      refine Steps.bind_eq_ok.mpr ⟨_, _, convolutionBias_eq_ok.mpr
        ⟨bias, depthAt ▸ bias_eq, depthAt ▸ bias_shape, rfl, rfl⟩, ?_⟩
      have base_shape : (((mid.graph.withVar ⟨operator.title.part ".filter", .internal, .broadcast,
          weights⟩).withVar ⟨operator.title.part ".bias", .internal, .broadcast,
          bias⟩).shapeOf input) = [batch, channels, height, width] := by
        rw [Graph.shapeOf_withVar (Graph.holds_withVar held), Graph.shapeOf_withVar held,
          input_shape]
      have filter_shape : (((mid.graph.withVar ⟨operator.title.part ".filter", .internal,
          .broadcast, weights⟩).withVar ⟨operator.title.part ".bias", .internal, .broadcast,
          bias⟩).shapeOf (.var mid.graph.vars.length)) =
            [depth, kernel, kernel, channels / group] := by
        rw [Graph.shapeOf_withVar (by simp [Graph.holds]), Graph.shapeOf_withVar_new]
        exact weights_shape
      simp only [onGraph_bind_eq_ok, extents_bind, onGraph_eq_ok]
      refine ⟨_, _, createTranspose_of_rankFour base_shape, (outHeight, outWidth), _,
        Graph.windowExtents_eq_ok.mpr ⟨?_, rfl⟩, _, _, Graph.createConvolution_eq_ok.mpr
          ⟨batch, height, width, channels, depth, outHeight, outWidth, ?_, group_pos, channels_mod,
            depth_mod, filter_shape, ?_, fits, ?_, rfl, rfl⟩, _, ?_, rfl⟩
      · rw [Graph.shapeOf_withNode_new]
        exact fits
      · exact Graph.shapeOf_withNode_new
      · rw [Graph.shapeOf_withNode_var, Graph.shapeOf_withVar_new]
        exact bias_shape
      · rw [Graph.shapeOf_withNode_new, depthAt]
        rfl
      · simp only [Graph.shapeOf_withNode_new, depthAt, Graph.length_nodes_withNode,
          Graph.vars_withVar, List.length_append, List.length_singleton]
        exact createTranspose_back

/-! ## Stored filters and biases -/

/-- A stored filter of rank four can be transposed. -/
theorem exists_filter {stored : Tensor} {depth channels height width : Int}
    (stored_shape : stored.shape = [depth, channels, height, width]) :
    ∃ weights, stored.transpose filterChannelsLast = .ok weights ∧
      weights.shape = [depth, height, width, channels] := by
  have rank : filterChannelsLast.length = stored.extents.length := by
    have length := congrArg List.length stored_shape
    simpa [Tensor.shape, filterChannelsLast] using length.symm
  have resolved : Tensor.resolveAxes filterChannelsLast.length filterChannelsLast [] =
      .ok [0, 2, 3, 1] := rfl
  rcases Tensor.exists_transpose rank (by decide) (by decide) resolved (by decide) with
    ⟨weights, moved⟩
  refine ⟨weights, moved, ?_⟩
  rw [Tensor.shape_of_transpose moved (by decide) resolved, stored_shape]
  rfl

/-- The shape of a transposed filter tells that of the stored one. -/
theorem filter_shape {stored weights : Tensor} {depth channels height width : Int}
    (moved : stored.transpose filterChannelsLast = .ok weights)
    (weights_shape : weights.shape = [depth, height, width, channels]) :
    stored.shape = [depth, channels, height, width] := by
  have resolved : Tensor.resolveAxes filterChannelsLast.length filterChannelsLast [] =
      .ok [0, 2, 3, 1] := rfl
  have rank := (Tensor.get_of_transpose moved (by decide) resolved).1
  have length : 4 = stored.shape.length := by
    simpa [Tensor.shape, filterChannelsLast] using rank.symm
  rcases exists_of_length_four length with ⟨first, second, third, fourth, stored_shape⟩
  rw [Tensor.shape_of_transpose moved (by decide) resolved, stored_shape] at weights_shape
  rcases weights_shape with ⟨⟩
  exact stored_shape

/-- Zeros for every filter can be stored where the filters can. -/
theorem exists_zeros {stored : Tensor} {depth : Int} {rest : Shape}
    (stored_shape : stored.shape = depth :: rest) : ∃ zeros, Tensor.zeros [depth] = .ok zeros := by
  rcases extents : stored.extents with _ | ⟨extent, others⟩
  · simp [Tensor.shape, extents] at stored_shape
  · simp only [Tensor.shape, extents, List.map_cons, List.cons.injEq] at stored_shape
    rcases stored_shape with ⟨rfl, _⟩
    have storable : Storable [extent] := by
      refine stored.storable.of_subperm ?_
      rw [extents]
      exact List.Sublist.subperm (by simp)
    exact filled_shape ⟨[extent], .replicate (cellCount [extent]) .zero, storable, by simp⟩ .zero

/-- The bias of a convolution is given if the stored tensor of the third input, if any, fits. -/
theorem exists_bias {stored : Tensor} {depth : Int} {rest : Shape} (sound : session.tensors.Sound)
    (stored_shape : stored.shape = depth :: rest)
    (fits : ∀ name bias, operator.inputs[2]? = some name → session.tensors.get name = .ok bias →
      bias.shape = [depth]) :
    ∃ bias, storedBias session.tensors operator depth = .ok bias ∧ bias.shape = [depth] := by
  unfold storedBias
  cases third : operator.inputs[2]?.filter session.tensors.contains with
  | none =>
      rcases exists_zeros stored_shape with ⟨zeros, filled⟩
      exact ⟨zeros, filled, shape_of_filled filled⟩
  | some name =>
      rcases Option.filter_eq_some_iff.mp third with ⟨named, contained⟩
      rcases TensorStore.contains_iff.mp contained with ⟨handle, bound⟩
      have inside : handle < session.tensors.tensors.size := sound name handle bound
      have found : session.tensors.get name = .ok session.tensors.tensors[handle] :=
        TensorStore.get_eq_ok.mpr ⟨handle, bound, Array.getElem?_eq_getElem _⟩
      exact ⟨_, found, fits name _ named found⟩

/-! ## Acceptance -/

theorem sidePads_absent :
    sidePads.filter (Arguments.ofList OperatorKind.conv.type operator.arguments).contains = [] ↔
      ∀ side ∈ sidePads, ∀ argument ∈ operator.arguments, argument.name ≠ .text side := by
  simp only [List.filter_eq_nil_iff, Bool.not_eq_true, Arguments.contains_ofList_eq_false]

/-- A convolution that is lowered is what a convolution has to be. -/
theorem convolvable_of_lowered
    (lowered : Lowered setting operator
      (Arguments.ofList OperatorKind.conv.type operator.arguments) session .conv ref after) :
    ∃ sizes, Convolvable session operator sizes := by
  rcases lowered with @⟨inputs, mid, grown, resolved, emits, rfl⟩
  have tensors : mid.tensors = session.tensors := (resolveAll_growsTo resolved).tensors
  rw [tensors] at emits
  cases emits with
  | elementwise applies => cases applies
  | pooling pools => cases pools
  | arithmetic combines => cases combines
  | broadcastArithmetic combines => cases combines
  | @convolution input stored weights bias stride pad kernel group batch channels height width
      outHeight outWidth depth stride_eq pad_eq kernel_eq group_eq noSidePads stored_eq weights_eq
      bias_eq input_shape weights_shape bias_shape group_pos channels_mod depth_mod fits =>
      rcases resolveInput_eq_ok.mp (resolveInput_of_first resolved) with ⟨name, named, one⟩
      rcases storedInput_eq_ok.mp stored_eq with ⟨filterName, filterNamed, found⟩
      rcases Shape.windowOutput_eq_ok.mp fits with ⟨stride_pos, height_fits, width_fits, _⟩
      exact ⟨⟨⟨kernel, stride, pad⟩, group, batch, channels, height, width, depth⟩, {
        kernel := Arguments.int_ofList_eq_ok.mp kernel_eq
        stride := Arguments.int_ofList_eq_ok.mp stride_eq
        pad := Arguments.int_ofList_eq_ok.mp pad_eq
        group := Arguments.int_ofList_eq_ok.mp group_eq
        noSidePads := sidePads_absent.mp noSidePads
        input := ⟨name, named, (resolve_adds one).1.trans (congrArg some input_shape)⟩
        filter := ⟨filterName, stored, filterNamed, found, filter_shape weights_eq weights_shape⟩
        bias := fun _ _ biasNamed biasFound =>
          eq_of_storedBias bias_eq biasNamed biasFound ▸ bias_shape
        group_pos := group_pos
        channels_dvd := Int.dvd_of_emod_eq_zero channels_mod
        depth_dvd := Int.dvd_of_emod_eq_zero depth_mod
        stride_pos := stride_pos
        height_fits := height_fits
        width_fits := width_fits }⟩

theorem resolveFirst_of_resolve (named : operator.inputs[0]? = some name)
    (resolved : resolve name session = .ok ref mid) :
    resolveAll (operator.inputs.take 1) session = .ok [ref] mid :=
  resolveFirst_eq_ok (resolveInput_eq_ok.mpr ⟨name, named, resolved⟩)

/-- What is as a convolution has to be is lowered, and adds what a convolution adds. -/
theorem lowerOperator_of_convolvable {sizes : Convolution} (valid : session.Valid)
    (sound : session.tensors.Sound) (isConvolution : operator.type = .text "Conv")
    (convolvable : Convolvable session operator sizes) :
    ∃ ref after, lowerOperator setting operator session = .ok ref after ∧
      Convolved session operator sizes ref after := by
  rcases convolvable.input with ⟨name, named, denotes⟩
  rcases resolve_of_shapeOf? denotes with ⟨input, mid, resolved, input_shape⟩
  rcases convolvable.filter with ⟨filterName, stored, filterNamed, found, stored_shape⟩
  rcases exists_filter stored_shape with ⟨weights, weights_eq, weights_shape⟩
  rcases exists_bias sound stored_shape convolvable.bias with ⟨bias, bias_eq, bias_shape⟩
  have ⟨_, vars_eq, nodes_eq⟩ := resolve_adds resolved
  have tensors : mid.tensors = session.tensors := (resolve_growsTo resolved).tensors
  have fits := Shape.windowOutput_eq_ok.mpr
    ⟨convolvable.stride_pos, convolvable.height_fits, convolvable.width_fits, rfl, rfl⟩
  have emits : Emits setting session.tensors operator
      (Arguments.ofList OperatorKind.conv.type operator.arguments) mid.graph .conv [input] _ _ :=
    .convolution (Arguments.int_ofList_eq_ok.mpr convolvable.stride)
      (Arguments.int_ofList_eq_ok.mpr convolvable.pad)
      (Arguments.int_ofList_eq_ok.mpr convolvable.kernel)
      (Arguments.int_ofList_eq_ok.mpr convolvable.group)
      (sidePads_absent.mpr convolvable.noSidePads)
      (storedInput_eq_ok.mpr ⟨filterName, filterNamed, found⟩) weights_eq bias_eq input_shape
      weights_shape bias_shape convolvable.group_pos
      (Int.emod_eq_zero_of_dvd convolvable.channels_dvd)
      (Int.emod_eq_zero_of_dvd convolvable.depth_dvd) fits
  rw [← tensors] at emits
  have ruleSucceeds := (convolution_eq_ok valid).mpr
    (.intro (resolveFirst_of_resolve named resolved) emits rfl)
  have known : OperatorKind.ofLabel? operator.type = some .conv := by
    rw [isConvolution]
    rfl
  refine ⟨_, _, lowerOperator_eq_ok.mpr ⟨.conv, _, known, ruleSucceeds, rfl⟩, ?_, ?_, ?_, ?_, ?_⟩
  · intro output member
    simp [member]
  · exact ⟨_, rfl⟩
  · exact Graph.shapeOf_withSpatial
  · rw [← nodes_eq]
    exact ⟨_, _, _, Graph.nodes_withSpatial⟩
  · refine ⟨name, ⟨operator.title.part ".filter", .internal, .broadcast, weights⟩,
      ⟨operator.title.part ".bias", .internal, .broadcast, bias⟩, named, rfl, rfl, ?_,
      Session.length_promotions denotes⟩
    rw [← vars_eq]
    simp [Graph.withSpatial]

/--
A convolution is lowered exactly if it is what a convolution has to be, whatever its arguments are.
Then all its outputs are bound to a node of the expected shape, and it has added three nodes, its
filter and its bias, and a variable for its input unless that was published.
-/
theorem convolution_accepted_iff (setting : Setting) (session : Session) (operator : Operator)
    (valid : session.Valid) (sound : session.tensors.Sound)
    (isConvolution : operator.type = .text "Conv") :
    ((∃ ref after, lowerOperator setting operator session = .ok ref after) ↔
        ∃ sizes, Convolvable session operator sizes) ∧
      ∀ ref after sizes, lowerOperator setting operator session = .ok ref after →
        Convolvable session operator sizes → Convolved session operator sizes ref after := by
  have known : OperatorKind.ofLabel? operator.type = some .conv := by
    rw [isConvolution]
    rfl
  refine ⟨⟨?_, ?_⟩, ?_⟩
  · rintro ⟨ref, after, lowered⟩
    rcases lowerOperator_eq_ok.mp lowered with ⟨kind, mid, alsoKnown, ruleSucceeds, _⟩
    rcases Option.some.inj (known.symm.trans alsoKnown) with rfl
    exact convolvable_of_lowered ((convolution_eq_ok valid).mp ruleSucceeds)
  · rintro ⟨sizes, convolvable⟩
    rcases lowerOperator_of_convolvable valid sound isConvolution convolvable with
      ⟨ref, after, lowered, _⟩
    exact ⟨ref, after, lowered⟩
  · intro ref after sizes lowered convolvable
    rcases lowerOperator_of_convolvable valid sound isConvolution convolvable with
      ⟨_, _, alsoLowered, convolved⟩
    rcases lowered.symm.trans alsoLowered with ⟨⟩
    exact convolved

/-- Two filters of one number, each applied to a channel of its own, keep an image's extents. -/
theorem convolution_accepted_iff_sample :
    ∃ ref after, lowerOperator Sample.setting Sample.channelwise Sample.imageSession =
        .ok ref after ∧
      Convolved Sample.imageSession Sample.channelwise ⟨⟨1, 1, 0⟩, 2, 1, 2, 2, 1, 2⟩ ref after := by
  have convolvable :
      Convolvable Sample.imageSession Sample.channelwise ⟨⟨1, 1, 0⟩, 2, 1, 2, 2, 1, 2⟩ := {
    kernel := rfl
    stride := rfl
    pad := rfl
    group := rfl
    noSidePads := by decide
    input := ⟨"x", rfl, rfl⟩
    filter := ⟨"filter", _, rfl, rfl, rfl⟩
    bias := by
      rintro _ _ ⟨⟩ ⟨⟩
      rfl
    group_pos := by decide
    channels_dvd := by decide
    depth_dvd := by decide
    stride_pos := by decide
    height_fits := by decide
    width_fits := by decide }
  have ⟨accepted, adds⟩ := convolution_accepted_iff Sample.setting Sample.imageSession
    Sample.channelwise (Session.valid_of_entries (by decide))
    (TensorStore.sound_of_entries (by decide)) rfl
  rcases accepted.mpr ⟨_, convolvable⟩ with ⟨ref, after, lowered⟩
  exact ⟨ref, after, lowered, adds ref after _ lowered convolvable⟩

end Lower

end NetImport
