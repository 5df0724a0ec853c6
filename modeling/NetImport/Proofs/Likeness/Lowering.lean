import NetImport.Proofs.Likeness.Graph
import NetImport.Proofs.Lowering.Network

/-!
# Lowering side by side

A session is asked for names, and nothing else about names matters than which of them are the same.
The rules pass titles on to the factories, and copy the numbers of stored tensors without looking at
them. So operators that are alike fail in the same way, or are lowered to things that are alike.
-/

namespace NetImport.Likeness

open Descriptor Lower
open Steps (Parallel parallel_bind parallel_bind_eq parallel_get parallel_modify parallel_pure
  parallel_throw)

variable {α : Type} (likeness : Likeness)

/-- Steps that carry sessions on and do the same to sessions that are alike. -/
def Lowers (values : α → α → Prop) (step other : Lower α) : Prop :=
  Parallel SameCategory likeness.Sessions values step other

variable {likeness}

theorem lowers_ofResult {values : α → α → Prop} {outcome other : Except Error α}
    (alike : AlikeResults values outcome other) :
    likeness.Lowers values (ofResult outcome) (ofResult other) := by
  cases alike with
  | ok alike => exact parallel_pure alike
  | error same => exact parallel_throw same

theorem lowers_onGraph {values : α → α → Prop} {build other : Build α}
    (builds : likeness.Builds values build other) :
    likeness.Lowers values (onGraph build) (onGraph other) := by
  intro session otherSession alike
  have outcomes := builds session.graph otherSession.graph alike.graph
  unfold onGraph
  generalize build session.graph = one, other otherSession.graph = two at outcomes ⊢
  cases outcomes with
  | ok value graphs => exact .ok value ⟨graphs, alike.names, alike.tensors⟩
  | error same graphs => exact .error same ⟨graphs, alike.names, alike.tensors⟩

theorem lowers_note (notice other : Notice) : likeness.Lowers Eq (note notice) (note other) :=
  parallel_modify fun _ _ alike => ⟨alike.graph, alike.names, alike.tensors⟩

/-- Under a condition that is the same on both sides, both refuse or both go on. -/
theorem lowers_refusing {values : α → α → Prop} {condition : Prop} [Decidable condition]
    {error other : Error} {rest otherRest : Lower α} (same : SameCategory error other)
    (lowers : likeness.Lowers values rest otherRest) :
    likeness.Lowers values (if condition then throw error >>= fun _ : PUnit => rest else rest)
      (if condition then throw other >>= fun _ : PUnit => otherRest else otherRest) := by
  split
  · exact parallel_bind_eq (parallel_throw same) fun _ => lowers
  · exact lowers

theorem lowers_shape (ref : Ref) : likeness.Lowers Eq (Lower.shape ref) (Lower.shape ref) :=
  parallel_bind parallel_get fun _ _ alike => parallel_pure (by rw [alike.graph.shapeOf])

theorem lowers_extents (ref : Ref) : likeness.Lowers Eq (extents ref) (extents ref) :=
  parallel_bind_eq (lowers_shape ref) fun _ => parallel_pure rfl

/-! ## Names -/

theorem lowers_tensor (name : Label) :
    likeness.Lowers likeness.Tensors (tensor name) (tensor (likeness.rename name)) :=
  parallel_bind parallel_get fun _ _ alike => lowers_ofResult (alike.tensors.get name)

theorem lowers_publish (name : Label) (ref : Ref) :
    likeness.Lowers Eq (publish name ref) (publish (likeness.rename name) ref) :=
  parallel_modify fun session other alike =>
    ⟨alike.graph, by rw [alike.names, Registry.bind_renamed likeness.injective], alike.tensors⟩

theorem lowers_publishAll (names : List Label) (ref : Ref) :
    likeness.Lowers Eq (publishAll ref names) (publishAll ref (names.map likeness.rename)) :=
  parallel_modify fun session other alike =>
    ⟨alike.graph, by rw [alike.names, Registry.bindAll_renamed likeness.injective], alike.tensors⟩

theorem lowers_published (name : Label) :
    likeness.Lowers Eq (published name) (published (likeness.rename name)) := by
  refine parallel_bind parallel_get fun session other alike => ?_
  rw [alike.names, Registry.get?_renamed likeness.injective]
  cases session.names.get? name with
  | none => exact parallel_throw rfl
  | some ref => exact parallel_pure rfl

/-- A name resolves as its replacement does in a session that is alike. -/
theorem lowers_resolve (name : Label) :
    likeness.Lowers Eq (resolve name) (resolve (likeness.rename name)) := by
  refine parallel_bind parallel_get fun session other alike => ?_
  rw [alike.names, Registry.get?_renamed likeness.injective]
  cases session.names.get? name with
  | some ref => exact parallel_pure rfl
  | none =>
      refine parallel_bind (lowers_tensor name) fun payload otherPayload tensors => ?_
      refine parallel_bind_eq
        (lowers_onGraph (builds_addVariable (likeness.titles_rename name) tensors)) fun index => ?_
      exact parallel_bind_eq (lowers_publish name _) fun _ => parallel_pure rfl

theorem lowers_resolveAll (names : List Label) :
    likeness.Lowers Eq (resolveAll names) (resolveAll (names.map likeness.rename)) := by
  induction names with
  | nil => exact parallel_pure rfl
  | cons name names hypothesis =>
      refine parallel_bind_eq (lowers_resolve name) fun ref => ?_
      exact parallel_bind_eq hypothesis fun refs => parallel_pure rfl

section Rules

variable {setting otherSetting : Setting} {operator other : Operator}
  {arguments otherArguments : Arguments}

theorem lowers_resolveInput (operators : likeness.Operators operator other) (slot : Nat) :
    likeness.Lowers Eq (resolveInput operator slot) (resolveInput other slot) := by
  refine parallel_bind (lowers_ofResult (operators.input slot)) fun name otherName renamed => ?_
  subst renamed
  exact lowers_resolve name

theorem lowers_inputTensor (operators : likeness.Operators operator other) (slot : Nat) :
    likeness.Lowers likeness.Tensors (inputTensor operator slot) (inputTensor other slot) := by
  refine parallel_bind (lowers_ofResult (operators.input slot)) fun name otherName renamed => ?_
  subst renamed
  exact lowers_tensor name

theorem lowers_refuseSidePads (tables : likeness.Tables arguments otherArguments) :
    likeness.Lowers Eq (refuseSidePads arguments) (refuseSidePads otherArguments) := by
  have present : sidePads.filter otherArguments.contains = sidePads.filter arguments.contains :=
    List.filter_congr fun side _ => by rw [tables.contains side]
  unfold refuseSidePads
  dsimp only
  rw [present]
  split
  · exact parallel_pure rfl
  · exact parallel_throw rfl

theorem lowers_copyStored (index : Nat) (name? : Option Label) :
    likeness.Lowers Eq (copyStored index name?) (copyStored index (name?.map likeness.rename)) := by
  cases name? with
  | none => exact parallel_pure rfl
  | some name =>
      refine parallel_bind parallel_get fun session other alike => ?_
      rw [alike.tensors.contains]
      split
      · exact parallel_bind (lowers_tensor name) fun source otherSource tensors =>
          lowers_onGraph (builds_copyFrom index tensors)
      · exact parallel_pure rfl

theorem lowers_convolutionBias (operators : likeness.Operators operator other) (depth : Int) :
    likeness.Lowers Eq (convolutionBias operator depth) (convolutionBias other depth) := by
  have titled := likeness.titles_part _ _ ".bias" operators.title
  refine parallel_bind_eq (lowers_onGraph (builds_createFilled titled)) fun bias => ?_
  rw [operators.inputs, List.getElem?_map]
  exact parallel_bind_eq (lowers_copyStored bias _) fun _ => parallel_pure rfl

/-! ## Rules -/

theorem lowers_elementwise (settings : likeness.Settings setting otherSetting)
    (operators : likeness.Operators operator other) (operation : Operation) :
    likeness.Lowers Eq (elementwise setting operator operation)
      (elementwise otherSetting other operation) := by
  unfold elementwise
  rw [settings.function]
  refine parallel_bind_eq (lowers_resolveInput operators 0) fun input => ?_
  exact lowers_onGraph (builds_createElementwise operators.title)

theorem lowers_convolution (settings : likeness.Settings setting otherSetting)
    (operators : likeness.Operators operator other)
    (tables : likeness.Tables arguments otherArguments) :
    likeness.Lowers Eq (convolution setting operator arguments)
      (convolution otherSetting other otherArguments) := by
  have filterTitled := likeness.titles_part _ _ ".filter" operators.title
  unfold convolution
  rw [settings.function]
  refine parallel_bind_eq (lowers_ofResult (tables.int "stride" _)) fun stride => ?_
  refine parallel_bind_eq (lowers_ofResult (tables.int "pad" _)) fun pad => ?_
  refine parallel_bind_eq (lowers_ofResult (tables.int "kernel" _)) fun kernel => ?_
  refine parallel_bind_eq (lowers_ofResult (tables.int "group" _)) fun group => ?_
  refine parallel_bind_eq (lowers_refuseSidePads tables) fun _ => ?_
  refine parallel_bind_eq (lowers_resolveInput operators 0) fun input => ?_
  refine parallel_bind (lowers_inputTensor operators 1) fun stored otherStored tensors => ?_
  refine parallel_bind (lowers_ofResult (tensors.transpose _)) fun weights otherWeights moved => ?_
  rw [moved.shape]
  refine parallel_bind_eq (lowers_onGraph (builds_addVariable filterTitled moved)) fun filter => ?_
  refine parallel_bind_eq (lowers_convolutionBias operators _) fun bias => ?_
  refine parallel_bind_eq (lowers_onGraph (builds_createTranspose operators.title))
    fun transposed => ?_
  refine parallel_bind_eq (lowers_extents transposed) fun ⟨batch, height, width, channels⟩ => ?_
  refine parallel_bind_eq (lowers_onGraph (builds_windowExtents _ _ _))
    fun ⟨outHeight, outWidth⟩ => ?_
  refine parallel_bind_eq (lowers_onGraph (builds_createConvolution operators.title))
    fun convolved => ?_
  exact lowers_onGraph (builds_createTranspose operators.title)

theorem lowers_pooling (settings : likeness.Settings setting otherSetting)
    (operators : likeness.Operators operator other)
    (tables : likeness.Tables arguments otherArguments) (operation : Window → Operation) :
    likeness.Lowers Eq (pooling setting operator arguments operation)
      (pooling otherSetting other otherArguments operation) := by
  unfold pooling
  rw [settings.function]
  refine parallel_bind_eq (lowers_ofResult (tables.int "stride" _)) fun stride => ?_
  refine parallel_bind_eq (lowers_ofResult (tables.int "kernel" _)) fun kernel => ?_
  refine parallel_bind_eq (lowers_ofResult (tables.int "pad" _)) fun pad => ?_
  refine parallel_bind_eq (lowers_refuseSidePads tables) fun _ => ?_
  refine parallel_bind_eq (lowers_resolveInput operators 0) fun input => ?_
  refine parallel_bind_eq (lowers_onGraph (builds_createTranspose operators.title))
    fun transposed => ?_
  refine parallel_bind_eq (lowers_ofResult (tables.int "global_pooling" _)) fun isGlobal => ?_
  refine parallel_bind_eq (lowers_extents transposed) fun ⟨batch, height, width, channels⟩ => ?_
  refine lowers_refusing rfl ?_
  refine parallel_bind_eq (lowers_onGraph (builds_createPool operators.title)) fun pooled => ?_
  exact lowers_onGraph (builds_createTranspose operators.title)

theorem lowers_localResponseNormalization (settings : likeness.Settings setting otherSetting)
    (operators : likeness.Operators operator other)
    (tables : likeness.Tables arguments otherArguments) :
    likeness.Lowers Eq (localResponseNormalization setting operator arguments)
      (localResponseNormalization otherSetting other otherArguments) := by
  unfold localResponseNormalization
  rw [settings.function]
  refine parallel_bind_eq (lowers_ofResult (tables.int "size" _)) fun size => ?_
  refine parallel_bind_eq (lowers_ofResult (tables.float "alpha" _)) fun alpha => ?_
  refine parallel_bind_eq (lowers_ofResult (tables.float "beta" _)) fun beta => ?_
  refine parallel_bind_eq (lowers_ofResult (tables.float "bias" _)) fun bias => ?_
  refine parallel_bind_eq (lowers_resolveInput operators 0) fun input => ?_
  refine parallel_bind_eq (lowers_onGraph (builds_createTranspose operators.title))
    fun transposed => ?_
  refine parallel_bind_eq
    (lowers_onGraph (builds_createLocalResponseNormalization operators.title)) fun normalized => ?_
  exact lowers_onGraph (builds_createTranspose operators.title)

theorem lowers_fill {source otherSource : Tensor} (ref : Ref)
    (tensors : likeness.Tensors source otherSource) :
    likeness.Lowers Eq (fill ref source) (fill ref otherSource) := by
  cases ref with
  | var index => exact lowers_onGraph (builds_copyFrom index tensors)
  | node index => exact parallel_throw rfl

theorem lowers_batchNormalization (settings : likeness.Settings setting otherSetting)
    (operators : likeness.Operators operator other)
    (tables : likeness.Tables arguments otherArguments) :
    likeness.Lowers Eq (batchNormalization setting operator arguments)
      (batchNormalization otherSetting other otherArguments) := by
  unfold batchNormalization filledNormalization
  rw [settings.function]
  refine parallel_bind_eq (lowers_resolveInput operators 0) fun input => ?_
  refine parallel_bind (lowers_inputTensor operators 1) fun scale otherScale scales => ?_
  refine parallel_bind (lowers_inputTensor operators 2) fun bias otherBias biases => ?_
  refine parallel_bind (lowers_inputTensor operators 3) fun mean otherMean means => ?_
  refine parallel_bind (lowers_inputTensor operators 4) fun variance otherVariance variances => ?_
  refine parallel_bind_eq (lowers_ofResult (tables.float "epsilon" _)) fun epsilon => ?_
  refine parallel_bind_eq (lowers_ofResult tables.channelAxis) fun channel => ?_
  refine parallel_bind_eq (lowers_onGraph (builds_createBatchNormalization operators.title))
    fun node => ?_
  refine parallel_bind parallel_get fun session otherSession alike => ?_
  rw [alike.graph.operandsOf]
  split
  · refine parallel_bind_eq (lowers_fill _ scales) fun _ => ?_
    refine parallel_bind_eq (lowers_fill _ biases) fun _ => ?_
    refine parallel_bind_eq (lowers_fill _ means) fun _ => ?_
    exact parallel_bind_eq (lowers_fill _ variances) fun _ => parallel_pure rfl
  · exact parallel_throw rfl

theorem lowers_concatenation (settings : likeness.Settings setting otherSetting)
    (operators : likeness.Operators operator other)
    (tables : likeness.Tables arguments otherArguments) :
    likeness.Lowers Eq (concatenation setting operator arguments)
      (concatenation otherSetting other otherArguments) := by
  unfold concatenation
  rw [settings.function, operators.inputs]
  refine parallel_bind_eq (lowers_resolveAll operator.inputs) fun inputs => ?_
  refine parallel_bind_eq (lowers_ofResult tables.channelAxis) fun channel => ?_
  exact lowers_onGraph (builds_createConcat operators.title)

theorem lowers_arithmetic (settings : likeness.Settings setting otherSetting)
    (operators : likeness.Operators operator other)
    (tables : likeness.Tables arguments otherArguments) (operation : Operation) :
    likeness.Lowers Eq (arithmetic setting operator arguments operation)
      (arithmetic otherSetting other otherArguments operation) := by
  unfold arithmetic
  rw [settings.function]
  refine parallel_bind_eq (lowers_resolveInput operators 0) fun left => ?_
  refine parallel_bind_eq (lowers_resolveInput operators 1) fun right => ?_
  refine parallel_bind_eq (lowers_ofResult (tables.int "broadcast" _)) fun broadcast => ?_
  split
  · exact lowers_onGraph (builds_createPairwise operators.title)
  · split
    · refine parallel_bind_eq (lowers_shape left) fun leftShape => ?_
      refine parallel_bind_eq (lowers_shape right) fun rightShape => ?_
      refine parallel_bind_eq (lowers_ofResult (tables.int "axis" _)) fun axis => ?_
      refine parallel_bind_eq (lowers_onGraph (builds_createBroadcast operators.title))
        fun expanded => ?_
      exact lowers_onGraph (builds_createPairwise operators.title)
    · exact parallel_throw rfl

theorem lowers_addAll {title otherTitle : Label} (settings : likeness.Settings setting otherSetting)
    (titled : likeness.titles title otherTitle) (total : Ref) (refs : List Ref) :
    likeness.Lowers Eq (addAll setting title total refs)
      (addAll otherSetting otherTitle total refs) := by
  induction refs generalizing total with
  | nil => exact parallel_pure rfl
  | cons ref refs hypothesis =>
      unfold addAll
      rw [settings.function]
      exact parallel_bind_eq (lowers_onGraph (builds_createPairwise titled)) fun total =>
        hypothesis total

theorem lowers_sum (settings : likeness.Settings setting otherSetting)
    (operators : likeness.Operators operator other) :
    likeness.Lowers Eq (sum setting operator) (sum otherSetting other) := by
  unfold sum
  rw [operators.inputs]
  refine parallel_bind_eq (lowers_resolveAll operator.inputs) fun inputs => ?_
  cases inputs with
  | nil => exact parallel_throw rfl
  | cons first others => exact lowers_addAll settings operators.title first others

theorem lowers_softmax (settings : likeness.Settings setting otherSetting)
    (operators : likeness.Operators operator other) :
    likeness.Lowers Eq (softmax setting operator) (softmax otherSetting other) := by
  have reshapeTitled := likeness.titles_part _ _ ".reshape" operators.title
  unfold softmax
  rw [settings.function, settings.labels]
  refine parallel_bind_eq (lowers_resolve _) fun selected => ?_
  refine parallel_bind_eq (lowers_resolveInput operators 0) fun input => ?_
  refine parallel_bind_eq (lowers_shape input) fun operand => ?_
  refine parallel_bind_eq (lowers_ofResult (alikeResults_refl Eq.refl _))
    fun ⟨batch, features⟩ => ?_
  refine parallel_bind_eq (lowers_onGraph (builds_createReshape reshapeTitled)) fun flat => ?_
  exact lowers_onGraph (builds_createSoftmax operators.title)

theorem lowers_fullyConnected (settings : likeness.Settings setting otherSetting)
    (operators : likeness.Operators operator other) :
    likeness.Lowers Eq (fullyConnected setting operator) (fullyConnected otherSetting other) := by
  have part := fun suffix => likeness.titles_part _ _ suffix operators.title
  unfold fullyConnected
  rw [settings.function]
  refine parallel_bind_eq (lowers_resolveInput operators 0) fun input => ?_
  refine parallel_bind (lowers_inputTensor operators 1) fun stored otherStored tensors => ?_
  refine parallel_bind (lowers_ofResult (tensors.transpose _)) fun weights otherWeights moved => ?_
  refine parallel_bind (lowers_inputTensor operators 2) fun bias otherBias biases => ?_
  refine parallel_bind_eq (lowers_onGraph (builds_addVariable (part ".weights") moved))
    fun weightsVar => ?_
  refine parallel_bind_eq (lowers_onGraph (builds_addVariable (part ".biases") biases))
    fun biasVar => ?_
  exact lowers_onGraph (builds_createFullyConnected operators.title)

theorem lowers_channelShuffle (settings : likeness.Settings setting otherSetting)
    (operators : likeness.Operators operator other)
    (tables : likeness.Tables arguments otherArguments) :
    likeness.Lowers Eq (channelShuffle setting operator arguments)
      (channelShuffle otherSetting other otherArguments) := by
  unfold channelShuffle
  rw [settings.function]
  refine parallel_bind_eq (lowers_ofResult (tables.int "group" _)) fun group => ?_
  refine parallel_bind_eq (lowers_ofResult (tables.int "kernel" _)) fun axis => ?_
  refine parallel_bind_eq (lowers_resolveInput operators 0) fun input => ?_
  exact lowers_onGraph (builds_createChannelShuffle operators.title)

theorem lowers_squeeze (settings : likeness.Settings setting otherSetting)
    (operators : likeness.Operators operator other)
    (tables : likeness.Tables arguments otherArguments) :
    likeness.Lowers Eq (squeeze setting operator arguments)
      (squeeze otherSetting other otherArguments) := by
  unfold squeeze
  rw [settings.function]
  refine parallel_bind_eq (lowers_ofResult (tables.ints "dims" _)) fun axes => ?_
  refine parallel_bind_eq (lowers_resolveInput operators 0) fun input => ?_
  exact lowers_onGraph (builds_createSqueeze operators.title)

/-- A rule does the same for operators that are alike. -/
theorem lowers_rule (settings : likeness.Settings setting otherSetting)
    (operators : likeness.Operators operator other)
    (tables : likeness.Tables arguments otherArguments) (kind : OperatorKind) :
    likeness.Lowers Eq (rule setting operator arguments kind)
      (rule otherSetting other otherArguments kind) := by
  cases kind with
  | relu => exact lowers_elementwise settings operators .relu
  | sigmoid => exact lowers_elementwise settings operators .sigmoid
  | tanh => exact lowers_elementwise settings operators .tanh
  | dropout => exact lowers_resolveInput operators 0
  | conv => exact lowers_convolution settings operators tables
  | maxPool => exact lowers_pooling settings operators tables .poolMax
  | averagePool => exact lowers_pooling settings operators tables .poolAvg
  | spatialBN => exact lowers_batchNormalization settings operators tables
  | concat => exact lowers_concatenation settings operators tables
  | sum => exact lowers_sum settings operators
  | mul => exact lowers_arithmetic settings operators tables .mul
  | add => exact lowers_arithmetic settings operators tables .add
  | softmax => exact lowers_softmax settings operators
  | fc => exact lowers_fullyConnected settings operators
  | lrn => exact lowers_localResponseNormalization settings operators tables
  | channelShuffle => exact lowers_channelShuffle settings operators tables
  | squeeze => exact lowers_squeeze settings operators tables

/-! ## Operators and results -/

/-- What a failing step has added is cut off at the same places. -/
theorem lowers_atomically {values : α → α → Prop} {step otherStep : Lower α}
    (lowers : likeness.Lowers values step otherStep) :
    likeness.Lowers values (atomically step) (atomically otherStep) := by
  intro session otherSession alike
  have outcomes := lowers session otherSession alike
  generalize first : step session = one, second : otherStep otherSession = two at outcomes
  cases outcomes with
  | ok values leaves =>
      rw [atomically_eq_ok.mpr first, atomically_eq_ok.mpr second]
      exact .ok values leaves
  | error same leaves =>
      rw [atomically_eq_error.mpr ⟨_, first, rfl⟩, atomically_eq_error.mpr ⟨_, second, rfl⟩]
      refine .error same ⟨⟨?_, ?_, leaves.graph.functions⟩, ?_, leaves.tensors⟩
      · rw [alike.graph.length_vars]
        exact List.forall₂_take _ leaves.graph.vars
      · rw [alike.graph.length_nodes]
        exact List.forall₂_take _ leaves.graph.nodes
      · rw [alike.names, leaves.names, Registry.size_renamed, Registry.truncate_renamed]

theorem lowers_lowerOperator (settings : likeness.Settings setting otherSetting)
    (operators : likeness.Operators operator other) :
    likeness.Lowers Eq (lowerOperator setting operator) (lowerOperator otherSetting other) := by
  unfold lowerOperator
  rw [operators.type, operators.outputs]
  cases OperatorKind.ofLabel? operator.type with
  | none => exact parallel_bind_eq (lowers_note _ _) fun _ => parallel_throw rfl
  | some kind =>
      have tables := tables_ofList kind.type operators.arguments
      refine parallel_bind_eq (lowers_atomically (lowers_rule settings operators tables kind))
        fun result => ?_
      refine parallel_bind_eq (lowers_publishAll operator.outputs result) fun _ => ?_
      refine parallel_bind_eq (lowers_shape result) fun _ => ?_
      exact parallel_bind_eq (lowers_note _ _) fun _ => parallel_pure rfl

theorem lowers_finalize (settings : likeness.Settings setting otherSetting)
    (externalOutputs : List Label) :
    likeness.Lowers Eq (finalize setting externalOutputs)
      (finalize otherSetting (externalOutputs.map likeness.rename)) := by
  unfold finalize
  rw [settings.function]
  cases externalOutputs with
  | nil => exact parallel_throw rfl
  | cons name others =>
      have saves : likeness.Lowers Eq
          (do onGraph (Graph.createSave setting.function "output" (← published name)))
          (do onGraph (Graph.createSave setting.function "output"
            (← published (likeness.rename name)))) :=
        parallel_bind_eq (lowers_published name) fun result =>
          lowers_onGraph (builds_createSave (likeness.titles_refl _))
      by_cases more : others = []
      · simpa [more] using saves
      · simp only [List.map_cons, ne_eq, List.map_eq_nil_iff, more, not_false_eq_true, if_true]
        exact parallel_bind_eq (lowers_note _ _) fun _ => saves

end Rules

end NetImport.Likeness
