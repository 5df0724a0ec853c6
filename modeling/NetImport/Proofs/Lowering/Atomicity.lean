import NetImport.Proofs.Lowering.Network

/-!
# Failing operators leave nothing behind

A failing operator is undone by cutting the variables, the nodes and the names back to their former
numbers. That restores the former session because a rule only ever appends to these three lists,
wherever it fails. The two rules that write to a variable after creating it are the ones where this
has to be argued: what they write to lies behind everything that was there before.
-/

namespace NetImport.Lower

open Descriptor
open Steps (Leaves leaves_bind leaves_bind_of_ok leaves_iff leaves_get leaves_pure leaves_throw
  stateOf)

/-! ## Writing to new variables -/

/-- What has grown from a session is turned into something that has grown from it as well. -/
def Keeps (base before after : Session) : Prop := base.GrowsTo before → base.GrowsTo after

instance (base : Session) : IsPreorder Session (Keeps base) where
  refl _ := id
  trans _ _ _ first second := second ∘ first

variable {α : Type} {base : Session}

theorem leaves_keeps {step : Lower α} (grows : Leaves Session.GrowsTo step) :
    Leaves (Keeps base) step :=
  fun session before => Session.growsTo_trans before (grows session)

/-- Writing to a variable that was not there at first keeps what was. -/
theorem copyFrom_keeps {index : Nat} {source : Tensor} (later : base.graph.vars.length ≤ index) :
    Leaves (Keeps base) (onGraph (Graph.copyFrom index source)) := by
  rw [leaves_iff]
  constructor
  · intro session _ after copied before
    rcases onGraph_eq_ok.mp copied with ⟨graph, wrote, rfl⟩
    rcases Graph.copyFrom_eq_ok.mp wrote with ⟨target, _, _, rfl⟩
    exact ⟨before.graph.set_var later, before.names, before.tensors⟩
  · intro session error after fails before
    rcases onGraph_eq_error.mp fails with ⟨graph, refused, rfl⟩
    rw [Graph.copyFrom_allOrNothing _ _ _ refused]
    exact before

theorem copyStored_keeps {index : Nat} (name? : Option Label)
    (later : base.graph.vars.length ≤ index) : Leaves (Keeps base) (copyStored index name?) := by
  cases name? with
  | none => exact leaves_pure _
  | some name =>
      refine leaves_bind leaves_get fun current => ?_
      split
      · exact leaves_bind (leaves_keeps (tensor_grows name)) fun _ => copyFrom_keeps later
      · exact leaves_pure _

theorem convolutionBias_grows (operator : Operator) (depth : Int) :
    Leaves Session.GrowsTo (convolutionBias operator depth) := by
  refine leaves_bind_of_ok (onGraph_grows (Graph.createFilled_grows _ _ _ _ _)) ?_
  intro session bias mid created
  rcases onGraph_eq_ok.mp created with ⟨graph, built, rfl⟩
  rcases Graph.createFilled_eq_ok.mp built with ⟨zeros, _, rfl, rfl⟩
  have copies : Leaves (Keeps session)
      (copyStored session.graph.vars.length operator.inputs[2]? >>= fun _ =>
        pure session.graph.vars.length) :=
    leaves_bind (copyStored_keeps _ (Nat.le_refl _)) fun _ => leaves_pure _
  exact copies _ (Session.growsTo_withGraph (Graph.growsTo_withVar _ _))

theorem fill_keeps {ref : Ref} {source : Tensor}
    (later : ∀ index, ref = .var index → base.graph.vars.length ≤ index) :
    Leaves (Keeps base) (fill ref source) := by
  cases ref with
  | var index => exact copyFrom_keeps (later index rfl)
  | node index => exact leaves_throw _

theorem filledNormalization_grows (setting : Setting) (operator : Operator) (input : Ref)
    (channel : Int) (epsilon : Binary64) (scale bias mean variance : Tensor) :
    Leaves Session.GrowsTo
      (filledNormalization setting operator input channel epsilon scale bias mean variance) := by
  refine leaves_bind_of_ok (onGraph_grows Graph.createBatchNormalization_grows) ?_
  intro session node mid created
  have grown : session.GrowsTo mid :=
    (leaves_iff.mp (onGraph_grows Graph.createBatchNormalization_grows)).1 _ _ _ created
  rcases onGraph_eq_ok.mp created with ⟨graph, built, rfl⟩
  rw [Steps.get_bind, Graph.operandsOf_createBatchNormalization built]
  have fills : Leaves (Keeps session) (do
      fill (.var session.graph.vars.length) scale
      fill (.var (session.graph.vars.length + 1)) bias
      fill (.var (session.graph.vars.length + 2)) mean
      fill (.var (session.graph.vars.length + 3)) variance
      return node) := by
    refine leaves_bind (fill_keeps ?_) fun _ => leaves_bind (fill_keeps ?_) fun _ =>
      leaves_bind (fill_keeps ?_) fun _ => leaves_bind (fill_keeps ?_) fun _ => leaves_pure _
    all_goals
      rintro index ⟨⟩
      omega
  exact fills _ grown

/-! ## Every rule -/

section Rules

variable (setting : Setting) (operator : Operator) (arguments : Arguments)

theorem elementwise_grows (operation : Operation) :
    Leaves Session.GrowsTo (elementwise setting operator operation) :=
  leaves_bind (resolveInput_grows operator 0) fun _ =>
    onGraph_grows Graph.createElementwise_addsNode.grows

theorem convolution_grows : Leaves Session.GrowsTo (convolution setting operator arguments) := by
  refine leaves_bind (ofResult_grows _) fun stride => ?_
  refine leaves_bind (ofResult_grows _) fun pad => ?_
  refine leaves_bind (ofResult_grows _) fun kernel => ?_
  refine leaves_bind (ofResult_grows _) fun group => ?_
  refine leaves_bind (refuseSidePads_grows arguments) fun _ => ?_
  refine leaves_bind (resolveInput_grows operator 0) fun input => ?_
  refine leaves_bind (inputTensor_grows operator 1) fun stored => ?_
  refine leaves_bind (ofResult_grows _) fun weights => ?_
  refine leaves_bind (onGraph_grows (Graph.addVariable_grows _ _ _ _)) fun filter => ?_
  refine leaves_bind (convolutionBias_grows operator _) fun bias => ?_
  refine leaves_bind (onGraph_grows Graph.createTranspose_addsNode.grows) fun transposed => ?_
  refine leaves_bind (extents_grows transposed) fun ⟨batch, height, width, _⟩ => ?_
  refine leaves_bind (windowExtents_grows _ _ _) fun ⟨outHeight, outWidth⟩ => ?_
  refine leaves_bind (onGraph_grows Graph.createConvolution_addsNode.grows) fun convolved => ?_
  exact onGraph_grows Graph.createTranspose_addsNode.grows

theorem pooling_grows (operation : Window → Operation) :
    Leaves Session.GrowsTo (pooling setting operator arguments operation) := by
  refine leaves_bind (ofResult_grows _) fun stride => ?_
  refine leaves_bind (ofResult_grows _) fun kernel => ?_
  refine leaves_bind (ofResult_grows _) fun pad => ?_
  refine leaves_bind (refuseSidePads_grows arguments) fun _ => ?_
  refine leaves_bind (resolveInput_grows operator 0) fun input => ?_
  refine leaves_bind (onGraph_grows Graph.createTranspose_addsNode.grows) fun transposed => ?_
  refine leaves_bind (ofResult_grows _) fun isGlobal => ?_
  refine leaves_bind (extents_grows transposed) fun ⟨batch, height, width, _⟩ => ?_
  have pools : Leaves Session.GrowsTo (do
      let window : Window := ⟨if isGlobal ≠ 0 then height else kernel, stride, pad⟩
      let pooled ← onGraph (Graph.createPool setting.function operator.title (operation window)
        window transposed)
      onGraph (Graph.createTranspose setting.function operator.title pooled channelsFirst)) :=
    leaves_bind (onGraph_grows Graph.createPool_addsNode.grows) fun pooled =>
      onGraph_grows Graph.createTranspose_addsNode.grows
  dsimp only
  split
  · exact leaves_bind (leaves_throw _) fun _ => pools
  · exact pools

theorem localResponseNormalization_grows :
    Leaves Session.GrowsTo (localResponseNormalization setting operator arguments) := by
  refine leaves_bind (ofResult_grows _) fun size => ?_
  refine leaves_bind (ofResult_grows _) fun alpha => ?_
  refine leaves_bind (ofResult_grows _) fun beta => ?_
  refine leaves_bind (ofResult_grows _) fun bias => ?_
  refine leaves_bind (resolveInput_grows operator 0) fun input => ?_
  refine leaves_bind (onGraph_grows Graph.createTranspose_addsNode.grows) fun transposed => ?_
  refine leaves_bind (onGraph_grows Graph.createLocalResponseNormalization_addsNode.grows)
    fun normalized => ?_
  exact onGraph_grows Graph.createTranspose_addsNode.grows

theorem batchNormalization_grows :
    Leaves Session.GrowsTo (batchNormalization setting operator arguments) := by
  refine leaves_bind (resolveInput_grows operator 0) fun input => ?_
  refine leaves_bind (inputTensor_grows operator 1) fun scale => ?_
  refine leaves_bind (inputTensor_grows operator 2) fun bias => ?_
  refine leaves_bind (inputTensor_grows operator 3) fun mean => ?_
  refine leaves_bind (inputTensor_grows operator 4) fun variance => ?_
  refine leaves_bind (ofResult_grows _) fun epsilon => ?_
  refine leaves_bind (ofResult_grows _) fun channel => ?_
  exact filledNormalization_grows _ _ _ _ _ _ _ _ _

theorem concatenation_grows : Leaves Session.GrowsTo (concatenation setting operator arguments) :=
  leaves_bind (resolveAll_grows operator.inputs) fun _ =>
    leaves_bind (ofResult_grows _) fun _ => onGraph_grows Graph.createConcat_addsNode.grows

theorem arithmetic_grows (operation : Operation) :
    Leaves Session.GrowsTo (arithmetic setting operator arguments operation) := by
  refine leaves_bind (resolveInput_grows operator 0) fun left => ?_
  refine leaves_bind (resolveInput_grows operator 1) fun right => ?_
  refine leaves_bind (ofResult_grows _) fun broadcast => ?_
  split
  · exact onGraph_grows Graph.createPairwise_addsNode.grows
  · split
    · refine leaves_bind (shape_grows left) fun leftShape => ?_
      refine leaves_bind (shape_grows right) fun rightShape => ?_
      refine leaves_bind (ofResult_grows _) fun axis => ?_
      exact leaves_bind (onGraph_grows Graph.createBroadcast_addsNode.grows) fun expanded =>
        onGraph_grows Graph.createPairwise_addsNode.grows
    · exact leaves_throw _

theorem addAll_grows (title : Label) (total : Ref) (refs : List Ref) :
    Leaves Session.GrowsTo (addAll setting title total refs) := by
  induction refs generalizing total with
  | nil => exact leaves_pure _
  | cons ref refs hypothesis =>
      exact leaves_bind (onGraph_grows Graph.createPairwise_addsNode.grows) fun sum =>
        hypothesis sum

theorem sum_grows : Leaves Session.GrowsTo (sum setting operator) := by
  refine leaves_bind (resolveAll_grows operator.inputs) fun inputs => ?_
  cases inputs with
  | nil => exact leaves_throw _
  | cons first others => exact addAll_grows setting operator.title first others

theorem softmax_grows : Leaves Session.GrowsTo (softmax setting operator) := by
  refine leaves_bind (resolve_grows _) fun selected => ?_
  refine leaves_bind (resolveInput_grows operator 0) fun input => ?_
  refine leaves_bind (shape_grows input) fun operand => ?_
  refine leaves_bind (ofResult_grows _) fun ⟨batch, features⟩ => ?_
  exact leaves_bind (onGraph_grows Graph.createReshape_addsNode.grows) fun flat =>
    onGraph_grows Graph.createSoftmax_addsNode.grows

theorem fullyConnected_grows : Leaves Session.GrowsTo (fullyConnected setting operator) := by
  refine leaves_bind (resolveInput_grows operator 0) fun input => ?_
  refine leaves_bind (inputTensor_grows operator 1) fun stored => ?_
  refine leaves_bind (ofResult_grows _) fun weights => ?_
  refine leaves_bind (inputTensor_grows operator 2) fun bias => ?_
  refine leaves_bind (onGraph_grows (Graph.addVariable_grows _ _ _ _)) fun weightsVar => ?_
  refine leaves_bind (onGraph_grows (Graph.addVariable_grows _ _ _ _)) fun biasVar => ?_
  exact onGraph_grows Graph.createFullyConnected_addsNode.grows

theorem channelShuffle_grows : Leaves Session.GrowsTo (channelShuffle setting operator arguments) :=
  leaves_bind (ofResult_grows _) fun _ => leaves_bind (ofResult_grows _) fun _ =>
    leaves_bind (resolveInput_grows operator 0) fun _ =>
      onGraph_grows Graph.createChannelShuffle_addsNode.grows

theorem squeeze_grows : Leaves Session.GrowsTo (squeeze setting operator arguments) :=
  leaves_bind (ofResult_grows _) fun _ => leaves_bind (resolveInput_grows operator 0) fun _ =>
    onGraph_grows Graph.createSqueeze_addsNode.grows

/-- Every rule, whether it succeeds or fails, has only appended. -/
theorem rule_grows (kind : OperatorKind) :
    Leaves Session.GrowsTo (rule setting operator arguments kind) := by
  cases kind with
  | relu => exact elementwise_grows setting operator .relu
  | sigmoid => exact elementwise_grows setting operator .sigmoid
  | tanh => exact elementwise_grows setting operator .tanh
  | dropout => exact resolveInput_grows operator 0
  | conv => exact convolution_grows setting operator arguments
  | maxPool => exact pooling_grows setting operator arguments .poolMax
  | averagePool => exact pooling_grows setting operator arguments .poolAvg
  | spatialBN => exact batchNormalization_grows setting operator arguments
  | concat => exact concatenation_grows setting operator arguments
  | sum => exact sum_grows setting operator
  | mul => exact arithmetic_grows setting operator arguments .mul
  | add => exact arithmetic_grows setting operator arguments .add
  | softmax => exact softmax_grows setting operator
  | fc => exact fullyConnected_grows setting operator
  | lrn => exact localResponseNormalization_grows setting operator arguments
  | channelShuffle => exact channelShuffle_grows setting operator arguments
  | squeeze => exact squeeze_grows setting operator arguments

end Rules

/-! ## Undoing a failure -/

variable {setting : Setting} {operator : Operator} {session after : Session} {error : Error}

/-- Cutting a longer list back to the length of its beginning gives that beginning. -/
theorem take_length_of_prefix {Entry : Type} {older younger : List Entry}
    (grown : older <+: younger) : younger.take older.length = older :=
  (List.prefix_iff_eq_take.mp grown).symm

/-- A step that only ever appends is undone when it fails atomically; its notices remain. -/
theorem atomically_restores {step : Lower α} (grows : Leaves Session.GrowsTo step)
    (fails : atomically step session = .error error after) :
    after = { session with notices := after.notices } := by
  rcases atomically_eq_error.mp fails with ⟨mid, stepFails, rfl⟩
  have grown : session.GrowsTo mid := (leaves_iff.mp grows).2 _ _ _ stepFails
  have vars := take_length_of_prefix grown.graph.vars
  have nodes := take_length_of_prefix grown.graph.nodes
  have names : mid.names.truncate session.names.size = session.names := by
    rw [Registry.truncate_natCast, Registry.size, take_length_of_prefix grown.names]
  rcases session with ⟨⟨_, _, _⟩, _, _, _⟩
  simp only [vars, nodes, names, grown.graph.functions, grown.tensors]

/-- A failing operator leaves the session as it was, but for the notices. -/
theorem lowerOperator_restores
    (fails : lowerOperator setting operator session = .error error after) :
    after = { session with notices := after.notices } := by
  rcases lowerOperator_eq_error.mp fails with ⟨_, _, rfl⟩ | ⟨kind, _, ruleFails⟩
  · rfl
  · exact atomically_restores (rule_grows setting operator _ kind) ruleFails

/--
A failing operator changes neither the graph nor the names nor the stored tensors, and a failing
network leaves what the operators before the failing one lead to.
-/
theorem failures_are_undone (setting : Setting) :
    (∀ operator session error after,
        lowerOperator setting operator session = .error error after →
          after = { session with notices := after.notices }) ∧
      ∀ network session error after, lowerNetwork setting network session = .error error after →
        ∃ done operator rest mid, network.operators = done ++ operator :: rest ∧
          lowerNetwork setting { network with operators := done } session = .ok () mid ∧
          lowerOperator setting operator mid = .error error after ∧
          after = { mid with notices := after.notices } := by
  constructor
  · intro operator session error after fails
    exact lowerOperator_restores fails
  · intro network session error after fails
    rw [lowerNetwork_eq_lowerAll] at fails
    rcases lowerAll_eq_error.mp fails with ⟨done, operator, rest, mid, split, before, fails⟩
    exact ⟨done, operator, rest, mid, split, before, fails, lowerOperator_restores fails⟩

/-- The sum of a pair with itself is built, a triple is promoted, and only then do shapes differ. -/
theorem failures_are_undone_after_promotion :
    (∃ after, lowerOperator Sample.setting Sample.clash Sample.session =
          .error (.invalid (.operandsDiffer "Add" [1, 2] [3])) after ∧
        after = { Sample.session with notices := after.notices }) ∧
      ∃ after, lowerNetwork Sample.setting ⟨[Sample.rectify, Sample.total, Sample.clash], []⟩
            Sample.session =
          .error (.invalid (.operandsDiffer "Add" [1, 2] [3])) after ∧
        ∃ done operator rest mid,
          [Sample.rectify, Sample.total, Sample.clash] = done ++ operator :: rest ∧
          lowerNetwork Sample.setting ⟨done, []⟩ Sample.session = .ok () mid ∧
          lowerOperator Sample.setting operator mid =
            .error (.invalid (.operandsDiffer "Add" [1, 2] [3])) after ∧
          after = { mid with notices := after.notices } := by
  refine ⟨⟨_, rfl, ?_⟩, ⟨_, rfl, ?_⟩⟩
  · exact (failures_are_undone Sample.setting).1 Sample.clash Sample.session _ _ rfl
  · exact (failures_are_undone Sample.setting).2
      ⟨[Sample.rectify, Sample.total, Sample.clash], []⟩ Sample.session _ _ rfl

end NetImport.Lower
