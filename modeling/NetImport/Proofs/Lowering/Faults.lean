import NetImport.Proofs.Graph.Faults
import NetImport.Proofs.Lowering.Atomicity

/-!
# How lowering fails

Lowering fails because of the operator, because of the shapes that it meets, or because a tensor or
a text is refused. Three other failures are excluded by what a session keeps: a name is never bound
to a handle of no tensor, a rule writes only to variables that it has made itself, and the axes by
which stored tensors are transposed are those of their rank.
-/

namespace NetImport

open Descriptor
open Steps (Guards Leaves guards_bind guards_bind_of_yields guards_forM guards_get guards_iff
  guards_of_leaves guards_pure guards_throw leaves_iff stateOf)

namespace TensorStore

/-- Every name is bound to the handle of a tensor. -/
def Sound (store : TensorStore) : Prop :=
  ∀ name handle, store.handle name = .ok handle → handle < store.tensors.size

variable {store : TensorStore}

theorem Sound.foresees_get (sound : store.Sound) (name : Label) : Foresees (store.get name) := by
  refine foresees_bind ?_ ?_
  · unfold handle
    split
    · exact foresees_ok _
    · exact foresees_error (Error.foreseen_of_kind rfl)
  · intro handle bound
    rw [Array.getElem?_eq_getElem (sound name handle bound)]
    exact foresees_ok _

end TensorStore

namespace Tensor

theorem foresees_ofCells (extents : List Nat) (cell : List Nat → Binary32) :
    Foresees (ofCells extents cell) := by
  unfold ofCells
  split
  · exact foresees_ok _
  · exact foresees_error Error.foreseen_rejectedValue

/-- A tensor that is transposed by axes of its rank is refused only for want of storage. -/
theorem foresees_transpose (tensor : Tensor) {permutation : List Int} {axes : List Nat}
    (resolves : resolveAxes permutation.length permutation [] = .ok axes) :
    Foresees (tensor.transpose permutation) := by
  unfold transpose
  split
  · exact foresees_error Error.foreseen_rejectedValue
  · rename_i accepted
    split
    · exact foresees_ofCells _ _
    · have rank : permutation.length = tensor.extents.length := by
        by_contra differs
        exact accepted (.inl differs)
      rw [← rank, resolves]
      exact foresees_bind (foresees_ok axes) fun resolved _ => foresees_ofCells _ _

end Tensor

namespace Descriptor

theorem foresees_read {α : Type} {arguments : Arguments} {name : String} {default? : Option α}
    {extract : Argument → Except Error α} (foresees : ∀ argument, Foresees (extract argument)) :
    Foresees (arguments.read name default? extract) := by
  unfold Arguments.read
  split
  · exact foresees _
  · exact foresees_ok _
  · exact foresees_error (Error.foreseen_of_kind rfl)

variable (arguments : Arguments) (name : String)

theorem foresees_expect {α : Type} (variant : Variant) (value? : Option α) :
    Foresees (arguments.expect name variant value?) := by
  cases value? with
  | none => exact foresees_error (Error.foreseen_of_kind rfl)
  | some value => exact foresees_ok value

theorem foresees_int (default? : Option Int) : Foresees (arguments.int name default?) :=
  foresees_read fun _ => foresees_expect _ _ _ _

theorem foresees_float (default? : Option Binary64) : Foresees (arguments.float name default?) := by
  refine foresees_read fun argument => ?_
  cases argument.float? with
  | none => exact foresees_error (Error.foreseen_of_kind rfl)
  | some value => exact foresees_ok _

theorem foresees_ints (default? : Option (List Int)) :
    Foresees (arguments.ints name default?) := by
  refine foresees_read fun argument => ?_
  split
  · exact foresees_error (Error.foreseen_of_kind rfl)
  · exact foresees_ok _

theorem foresees_floats (default? : Option (List Binary32)) :
    Foresees (arguments.floats name default?) := by
  refine foresees_read fun argument => ?_
  split
  · exact foresees_error (Error.foreseen_of_kind rfl)
  · exact foresees_ok _

theorem foresees_str (default? : Option String) : Foresees (arguments.str name default?) := by
  refine foresees_read fun argument => foresees_bind (foresees_expect _ _ _ _) fun bytes _ => ?_
  split
  · exact foresees_ok _
  · exact foresees_error (.inr (.inr (.inr rfl)))

theorem foresees_channelAxis : Foresees arguments.channelAxis := by
  refine foresees_bind (foresees_str _ _ _) fun order _ => ?_
  split
  · exact foresees_ok _
  · split
    · exact foresees_ok _
    · exact foresees_error (Error.foreseen_of_kind rfl)

theorem foresees_input (operator : Operator) (slot : Nat) : Foresees (operator.input slot) := by
  unfold Operator.input
  split
  · exact foresees_ok _
  · exact foresees_error (Error.foreseen_of_kind rfl)

end Descriptor

namespace Lower

variable {α : Type} {bound : Nat} {session after : Session}

/-- A session with sound tensors and at least some number of variables. -/
structure Ample (bound : Nat) (session : Session) : Prop where
  tensors : session.tensors.Sound
  vars : bound ≤ session.graph.vars.length

theorem Ample.grows (ample : Ample bound session) (grows : session.GrowsTo after) :
    Ample bound after where
  tensors := grows.tensors ▸ ample.tensors
  vars := Nat.le_trans ample.vars grows.graph.vars.length_le

/-- A step that fails in foreseen ways only and keeps tensors and variables in place. -/
def Behaves (bound : Nat) (step : Lower α) : Prop := Guards (Ample bound) Error.Foreseen step

/-- What only ever makes a session grow keeps it ample. -/
theorem behaves_of_grows {step : Lower α} (grows : Leaves Session.GrowsTo step)
    (raises : ∀ session error after, Ample bound session → step session = .error error after →
      error.Foreseen) : Behaves bound step :=
  guards_of_leaves grows (fun _ _ grown ample => ample.grows grown) raises

theorem behaves_ofResult {outcome : Except Error α} (foresees : Foresees outcome) :
    Behaves bound (ofResult outcome) := by
  cases outcome with
  | ok value => exact guards_pure value
  | error error => exact guards_throw (foresees error rfl)

theorem foreseen_of_onGraph {build : Build α} {error : Error} (validates : build.Validates)
    (fails : onGraph build session = .error error after) : error.Foreseen := by
  rcases onGraph_eq_error.mp fails with ⟨graph, refused, _⟩
  exact (validates session.graph trivial).2 error graph refused

theorem behaves_onGraph {build : Build α} (grows : Leaves Graph.GrowsTo build)
    (validates : build.Validates) : Behaves bound (onGraph build) :=
  behaves_of_grows (onGraph_grows grows) fun _ _ _ _ fails => foreseen_of_onGraph validates fails

theorem behaves_windowExtents (window : Window) (height width : Int) :
    Behaves bound (onGraph (Graph.windowExtents window height width)) :=
  behaves_of_grows (windowExtents_grows window height width) fun _ _ _ _ fails =>
    foreseen_of_onGraph (Graph.validates_windowExtents window height width) fails

theorem behaves_tensor (name : Label) : Behaves bound (tensor name) := by
  refine behaves_of_grows (tensor_grows name) ?_
  intro session error after ample fails
  exact ample.tensors.foresees_get name error (tensor_eq_error.mp fails).1

theorem behaves_resolve (name : Label) : Behaves bound (resolve name) := by
  refine behaves_of_grows (resolve_grows name) ?_
  intro session error after ample fails
  exact ample.tensors.foresees_get name error (resolve_eq_error.mp fails).2.1

theorem behaves_resolveAll (names : List Label) : Behaves bound (resolveAll names) := by
  induction names with
  | nil => exact guards_pure _
  | cons name names hypothesis =>
      exact guards_bind (behaves_resolve name) fun ref =>
        guards_bind hypothesis fun refs => guards_pure _

theorem behaves_resolveInput (operator : Operator) (slot : Nat) :
    Behaves bound (resolveInput operator slot) :=
  guards_bind (behaves_ofResult (foresees_input operator slot)) fun name => behaves_resolve name

theorem behaves_inputTensor (operator : Operator) (slot : Nat) :
    Behaves bound (inputTensor operator slot) :=
  guards_bind (behaves_ofResult (foresees_input operator slot)) fun name => behaves_tensor name

theorem behaves_shape (ref : Ref) : Behaves bound (shape ref) :=
  guards_bind guards_get fun _ => guards_pure _

theorem behaves_extents (ref : Ref) : Behaves bound (extents ref) :=
  guards_bind (behaves_shape ref) fun _ => guards_pure _

theorem behaves_refuseSidePads (arguments : Arguments) :
    Behaves bound (refuseSidePads arguments) := by
  unfold refuseSidePads
  dsimp only
  split
  · exact guards_pure ()
  · exact guards_throw (Error.foreseen_of_kind rfl)

/-! ## Writing to own variables -/

theorem behaves_copyFrom {index : Nat} (inside : index < bound) (source : Tensor) :
    Behaves bound (onGraph (Graph.copyFrom index source)) := by
  refine guards_iff.mpr ⟨?_, ?_⟩
  · intro session value after ample succeeds
    rcases onGraph_eq_ok.mp succeeds with ⟨graph, written, rfl⟩
    rcases Graph.copyFrom_eq_ok.mp written with ⟨target, found, same, rfl⟩
    exact ⟨ample.tensors, by simpa using ample.vars⟩
  · intro session error after ample fails
    rcases onGraph_eq_error.mp fails with ⟨graph, refused, rfl⟩
    have held : index < session.graph.vars.length := Nat.lt_of_lt_of_le inside ample.vars
    have unchanged := Graph.copyFrom_allOrNothing _ _ _ refused
    exact ⟨⟨ample.tensors, unchanged ▸ ample.vars⟩, Graph.foreseen_of_copyFrom held refused⟩

theorem behaves_copyStored {index : Nat} (inside : index < bound) (name? : Option Label) :
    Behaves bound (copyStored index name?) := by
  cases name? with
  | none => exact guards_pure ()
  | some name =>
      refine guards_bind guards_get fun current => ?_
      split
      · exact guards_bind (behaves_tensor name) fun source => behaves_copyFrom inside source
      · exact guards_pure ()

/-- A step that makes variables is followed by one that may write to them. -/
theorem behaves_bind_of_more {β : Type} {step : Lower α} {next : α → Lower β}
    (first : Behaves bound step)
    (second : ∀ session value after, step session = .ok value after → Ample bound session →
      ∃ more rest, bound ≤ more ∧ Ample more after ∧ next value after = rest after ∧
        Behaves more rest) : Behaves bound (step >>= next) := by
  have first := guards_iff.mp first
  refine guards_iff.mpr ⟨?_, ?_⟩
  · intro session result last ample succeeds
    rcases Steps.bind_eq_ok.mp succeeds with ⟨value, after, stepped, continues⟩
    rcases second _ _ _ stepped ample with ⟨more, rest, least, moreAmple, same, behaves⟩
    rw [same] at continues
    have lastAmple := (guards_iff.mp behaves).1 _ _ _ moreAmple continues
    exact ⟨lastAmple.tensors, Nat.le_trans least lastAmple.vars⟩
  · intro session error last ample fails
    rcases Steps.bind_eq_error.mp fails with stepFails | ⟨value, after, stepped, continues⟩
    · exact first.2 _ _ _ ample stepFails
    · rcases second _ _ _ stepped ample with ⟨more, rest, least, moreAmple, same, behaves⟩
      rw [same] at continues
      have ⟨lastAmple, foreseen⟩ := (guards_iff.mp behaves).2 _ _ _ moreAmple continues
      exact ⟨⟨lastAmple.tensors, Nat.le_trans least lastAmple.vars⟩, foreseen⟩

theorem behaves_convolutionBias (operator : Operator) (depth : Int) :
    Behaves bound (convolutionBias operator depth) := by
  refine behaves_bind_of_more (behaves_onGraph (Graph.createFilled_grows _ _ _ _ _)
    (Graph.validates_createFilled _ _ _ _)) ?_
  intro session bias mid created ample
  rcases onGraph_eq_ok.mp created with ⟨graph, built, rfl⟩
  rcases Graph.createFilled_eq_ok.mp built with ⟨zeros, _, rfl, rfl⟩
  refine ⟨session.graph.vars.length + 1, _, Nat.le_succ_of_le ample.vars,
    ⟨ample.tensors, by simp⟩, rfl, ?_⟩
  exact guards_bind (behaves_copyStored (Nat.lt_succ_self _) _) fun _ => guards_pure _

theorem behaves_filledNormalization (setting : Setting) (operator : Operator) (input : Ref)
    (channel : Int) (epsilon : Binary64) (scale bias mean variance : Tensor) :
    Behaves bound
      (filledNormalization setting operator input channel epsilon scale bias mean variance) := by
  refine behaves_bind_of_more (behaves_onGraph Graph.createBatchNormalization_grows
    (Graph.validates_createBatchNormalization _ _ _ _)) ?_
  intro session node mid created ample
  rcases onGraph_eq_ok.mp created with ⟨graph, built, rfl⟩
  have operands := Graph.operandsOf_createBatchNormalization built
  rcases Graph.createBatchNormalization_eq_ok.mp built with ⟨ones, zeros, _, _, _, rfl, rfl⟩
  refine ⟨session.graph.vars.length + 4, do
      fill (.var session.graph.vars.length) scale
      fill (.var (session.graph.vars.length + 1)) bias
      fill (.var (session.graph.vars.length + 2)) mean
      fill (.var (session.graph.vars.length + 3)) variance
      return .node session.graph.nodes.length, ?_, ⟨ample.tensors, by simp⟩, ?_, ?_⟩
  · exact Nat.le_trans ample.vars (Nat.le_add_right _ _)
  · rw [Steps.get_bind, operands]
  · refine guards_bind (behaves_copyFrom (by omega) scale) fun _ => ?_
    refine guards_bind (behaves_copyFrom (by omega) bias) fun _ => ?_
    refine guards_bind (behaves_copyFrom (by omega) mean) fun _ => ?_
    exact guards_bind (behaves_copyFrom (by omega) variance) fun _ => guards_pure _

/-! ## Every rule -/

section Rules

variable (setting : Setting) (operator : Operator) (arguments : Arguments)

theorem behaves_elementwise (operation : Operation) :
    Behaves bound (elementwise setting operator operation) :=
  guards_bind (behaves_resolveInput operator 0) fun _ =>
    behaves_onGraph Graph.createElementwise_addsNode.grows (Graph.validates_createElementwise _ _)

theorem behaves_createTranspose (input : Ref) (permutation : List Int) :
    Behaves bound
      (onGraph (Graph.createTranspose setting.function operator.title input permutation)) :=
  behaves_onGraph Graph.createTranspose_addsNode.grows (Graph.validates_createTranspose _ _)

theorem behaves_convolution : Behaves bound (convolution setting operator arguments) := by
  refine guards_bind (behaves_ofResult (foresees_int _ _ _)) fun stride => ?_
  refine guards_bind (behaves_ofResult (foresees_int _ _ _)) fun pad => ?_
  refine guards_bind (behaves_ofResult (foresees_int _ _ _)) fun kernel => ?_
  refine guards_bind (behaves_ofResult (foresees_int _ _ _)) fun group => ?_
  refine guards_bind (behaves_refuseSidePads arguments) fun _ => ?_
  refine guards_bind (behaves_resolveInput operator 0) fun input => ?_
  refine guards_bind (behaves_inputTensor operator 1) fun stored => ?_
  refine guards_bind (behaves_ofResult (Tensor.foresees_transpose stored rfl)) fun weights => ?_
  refine guards_bind (behaves_onGraph (Graph.addVariable_grows _ _ _ _)
    (Graph.validates_addVariable _ _ _)) fun filter => ?_
  refine guards_bind (behaves_convolutionBias operator _) fun bias => ?_
  refine guards_bind (behaves_createTranspose setting operator input _) fun transposed => ?_
  refine guards_bind (behaves_extents transposed) fun ⟨batch, height, width, _⟩ => ?_
  refine guards_bind (behaves_windowExtents _ _ _) fun ⟨outHeight, outWidth⟩ => ?_
  refine guards_bind (behaves_onGraph Graph.createConvolution_addsNode.grows
    (Graph.validates_createConvolution _ _ _ _ _ _ _ _ _)) fun convolved => ?_
  exact behaves_createTranspose setting operator convolved _

theorem behaves_pooling (operation : Window → Operation) :
    Behaves bound (pooling setting operator arguments operation) := by
  refine guards_bind (behaves_ofResult (foresees_int _ _ _)) fun stride => ?_
  refine guards_bind (behaves_ofResult (foresees_int _ _ _)) fun kernel => ?_
  refine guards_bind (behaves_ofResult (foresees_int _ _ _)) fun pad => ?_
  refine guards_bind (behaves_refuseSidePads arguments) fun _ => ?_
  refine guards_bind (behaves_resolveInput operator 0) fun input => ?_
  refine guards_bind (behaves_createTranspose setting operator input _) fun transposed => ?_
  refine guards_bind (behaves_ofResult (foresees_int _ _ _)) fun isGlobal => ?_
  refine guards_bind (behaves_extents transposed) fun ⟨batch, height, width, _⟩ => ?_
  have pools : Behaves bound (do
      let window : Window := ⟨if isGlobal ≠ 0 then height else kernel, stride, pad⟩
      let pooled ← onGraph (Graph.createPool setting.function operator.title (operation window)
        window transposed)
      onGraph (Graph.createTranspose setting.function operator.title pooled channelsFirst)) :=
    guards_bind (behaves_onGraph Graph.createPool_addsNode.grows (Graph.validates_createPool _ _ _))
      fun pooled => behaves_createTranspose setting operator pooled _
  dsimp only
  split
  · exact guards_bind (guards_throw (Error.foreseen_of_kind rfl)) fun _ => pools
  · exact pools

theorem behaves_localResponseNormalization :
    Behaves bound (localResponseNormalization setting operator arguments) := by
  refine guards_bind (behaves_ofResult (foresees_int _ _ _)) fun size => ?_
  refine guards_bind (behaves_ofResult (foresees_float _ _ _)) fun alpha => ?_
  refine guards_bind (behaves_ofResult (foresees_float _ _ _)) fun beta => ?_
  refine guards_bind (behaves_ofResult (foresees_float _ _ _)) fun bias => ?_
  refine guards_bind (behaves_resolveInput operator 0) fun input => ?_
  refine guards_bind (behaves_createTranspose setting operator input _) fun transposed => ?_
  refine guards_bind (behaves_onGraph Graph.createLocalResponseNormalization_addsNode.grows
    (Graph.validates_createLocalResponseNormalization _ _ _ _ _)) fun normalized => ?_
  exact behaves_createTranspose setting operator normalized _

theorem behaves_batchNormalization :
    Behaves bound (batchNormalization setting operator arguments) := by
  refine guards_bind (behaves_resolveInput operator 0) fun input => ?_
  refine guards_bind (behaves_inputTensor operator 1) fun scale => ?_
  refine guards_bind (behaves_inputTensor operator 2) fun bias => ?_
  refine guards_bind (behaves_inputTensor operator 3) fun mean => ?_
  refine guards_bind (behaves_inputTensor operator 4) fun variance => ?_
  refine guards_bind (behaves_ofResult (foresees_float _ _ _)) fun epsilon => ?_
  refine guards_bind (behaves_ofResult (foresees_channelAxis _)) fun channel => ?_
  exact behaves_filledNormalization _ _ _ _ _ _ _ _ _

theorem behaves_concatenation : Behaves bound (concatenation setting operator arguments) :=
  guards_bind (behaves_resolveAll operator.inputs) fun _ =>
    guards_bind (behaves_ofResult (foresees_channelAxis _)) fun _ =>
      behaves_onGraph Graph.createConcat_addsNode.grows (Graph.validates_createConcat _ _)

theorem behaves_arithmetic (operation : Operation) :
    Behaves bound (arithmetic setting operator arguments operation) := by
  refine guards_bind (behaves_resolveInput operator 0) fun left => ?_
  refine guards_bind (behaves_resolveInput operator 1) fun right => ?_
  refine guards_bind (behaves_ofResult (foresees_int _ _ _)) fun broadcast => ?_
  have combines : ∀ other, Behaves bound (onGraph
      (Graph.createPairwise setting.function operator.title operation left other)) := fun other =>
    behaves_onGraph Graph.createPairwise_addsNode.grows (Graph.validates_createPairwise _ _ _)
  split
  · exact combines right
  · split
    · refine guards_bind (behaves_shape left) fun leftShape => ?_
      refine guards_bind (behaves_shape right) fun rightShape => ?_
      refine guards_bind (behaves_ofResult (foresees_int _ _ _)) fun axis => ?_
      exact guards_bind (behaves_onGraph Graph.createBroadcast_addsNode.grows
        (Graph.validates_createBroadcast _ _ _)) fun expanded => combines expanded
    · exact guards_throw (Error.foreseen_of_kind rfl)

theorem behaves_addAll (title : Label) (total : Ref) (refs : List Ref) :
    Behaves bound (addAll setting title total refs) := by
  induction refs generalizing total with
  | nil => exact guards_pure _
  | cons ref refs hypothesis =>
      exact guards_bind (behaves_onGraph Graph.createPairwise_addsNode.grows
        (Graph.validates_createPairwise _ _ _)) fun sum => hypothesis sum

theorem behaves_sum : Behaves bound (sum setting operator) := by
  refine guards_bind (behaves_resolveAll operator.inputs) fun inputs => ?_
  cases inputs with
  | nil => exact guards_throw (Error.foreseen_of_kind rfl)
  | cons first others => exact behaves_addAll setting operator.title first others

theorem behaves_softmax : Behaves bound (softmax setting operator) := by
  refine guards_bind (behaves_resolve _) fun selected => ?_
  refine guards_bind (behaves_resolveInput operator 0) fun input => ?_
  refine guards_bind (behaves_shape input) fun operand => ?_
  refine guards_bind (behaves_ofResult (foresees_ofShapeResult _)) fun ⟨batch, features⟩ => ?_
  exact guards_bind (behaves_onGraph Graph.createReshape_addsNode.grows
    (Graph.validates_createReshape _ _)) fun flat =>
      behaves_onGraph Graph.createSoftmax_addsNode.grows (Graph.validates_createSoftmax _ _)

theorem behaves_fullyConnected : Behaves bound (fullyConnected setting operator) := by
  refine guards_bind (behaves_resolveInput operator 0) fun input => ?_
  refine guards_bind (behaves_inputTensor operator 1) fun stored => ?_
  refine guards_bind (behaves_ofResult (Tensor.foresees_transpose stored rfl)) fun weights => ?_
  refine guards_bind (behaves_inputTensor operator 2) fun bias => ?_
  refine guards_bind (behaves_onGraph (Graph.addVariable_grows _ _ _ _)
    (Graph.validates_addVariable _ _ _)) fun weightsVar => ?_
  refine guards_bind (behaves_onGraph (Graph.addVariable_grows _ _ _ _)
    (Graph.validates_addVariable _ _ _)) fun biasVar => ?_
  exact behaves_onGraph Graph.createFullyConnected_addsNode.grows
    (Graph.validates_createFullyConnected _ _ _)

theorem behaves_channelShuffle : Behaves bound (channelShuffle setting operator arguments) :=
  guards_bind (behaves_ofResult (foresees_int _ _ _)) fun _ =>
    guards_bind (behaves_ofResult (foresees_int _ _ _)) fun _ =>
      guards_bind (behaves_resolveInput operator 0) fun _ =>
        behaves_onGraph Graph.createChannelShuffle_addsNode.grows
          (Graph.validates_createChannelShuffle _ _ _)

theorem behaves_squeeze : Behaves bound (squeeze setting operator arguments) :=
  guards_bind (behaves_ofResult (foresees_ints _ _ _)) fun _ =>
    guards_bind (behaves_resolveInput operator 0) fun _ =>
      behaves_onGraph Graph.createSqueeze_addsNode.grows (Graph.validates_createSqueeze _ _)

/-- Every rule fails in foreseen ways only. -/
theorem behaves_rule (kind : OperatorKind) :
    Behaves bound (rule setting operator arguments kind) := by
  cases kind with
  | relu => exact behaves_elementwise setting operator .relu
  | sigmoid => exact behaves_elementwise setting operator .sigmoid
  | tanh => exact behaves_elementwise setting operator .tanh
  | dropout => exact behaves_resolveInput operator 0
  | conv => exact behaves_convolution setting operator arguments
  | maxPool => exact behaves_pooling setting operator arguments .poolMax
  | averagePool => exact behaves_pooling setting operator arguments .poolAvg
  | spatialBN => exact behaves_batchNormalization setting operator arguments
  | concat => exact behaves_concatenation setting operator arguments
  | sum => exact behaves_sum setting operator
  | mul => exact behaves_arithmetic setting operator arguments .mul
  | add => exact behaves_arithmetic setting operator arguments .add
  | softmax => exact behaves_softmax setting operator
  | fc => exact behaves_fullyConnected setting operator
  | lrn => exact behaves_localResponseNormalization setting operator arguments
  | channelShuffle => exact behaves_channelShuffle setting operator arguments
  | squeeze => exact behaves_squeeze setting operator arguments

end Rules

/-! ## Operators and networks -/

theorem behaves_note (notice : Notice) : Behaves bound (note notice) :=
  fun _ ample => ⟨⟨ample.tensors, ample.vars⟩, by simp⟩

theorem behaves_lowerOperator (setting : Setting) (operator : Operator) :
    Behaves 0 (lowerOperator setting operator) := by
  refine guards_iff.mpr ⟨?_, ?_⟩
  · intro session ref after ample lowered
    rcases lowerOperator_eq_ok.mp lowered with ⟨kind, mid, _, ruleSucceeds, rfl⟩
    have kept := (guards_iff.mp (behaves_rule setting operator _ kind)).1 _ _ _ ample ruleSucceeds
    exact ⟨kept.tensors, Nat.zero_le _⟩
  · intro session error after ample fails
    rcases lowerOperator_eq_error.mp fails with ⟨_, rfl, rfl⟩ | ⟨kind, _, ruleFails⟩
    · exact ⟨⟨ample.tensors, Nat.zero_le _⟩, Error.foreseen_of_kind rfl⟩
    · rcases atomically_eq_error.mp ruleFails with ⟨mid, stepFails, rfl⟩
      have ⟨kept, foreseen⟩ :=
        (guards_iff.mp (behaves_rule setting operator _ kind)).2 _ _ _ ample stepFails
      exact ⟨⟨kept.tensors, Nat.zero_le _⟩, foreseen⟩

theorem behaves_lowerNetwork (setting : Setting) (network : Network) :
    Behaves 0 (lowerNetwork setting network) :=
  guards_forM fun operator _ =>
    guards_bind (behaves_lowerOperator setting operator) fun _ => guards_pure _

theorem behaves_published (name : Label) : Behaves bound (published name) := by
  refine guards_iff.mpr ⟨?_, ?_⟩
  · intro session ref after ample found
    rcases published_eq_ok.mp found with ⟨_, rfl⟩
    exact ample
  · intro session error after ample missing
    rcases published_eq_error.mp missing with ⟨_, rfl, rfl⟩
    exact ⟨ample, Error.foreseen_of_kind rfl⟩

theorem behaves_createSave (function : Nat) (name : Label) (input : Ref) :
    Behaves bound (onGraph (Graph.createSave function name input)) := by
  refine behaves_onGraph ?_ (Graph.validates_createSave input)
  refine Build.leaves_growsTo Graph.createSave_allOrNothing fun saved => ?_
  rcases Graph.createSave_eq_ok.mp saved with ⟨zeros, _, rfl, rfl⟩
  exact (Graph.growsTo_refl _).withVar.withNode

theorem behaves_finalize (setting : Setting) (externalOutputs : List Label) :
    Behaves 0 (finalize setting externalOutputs) := by
  cases externalOutputs with
  | nil => exact guards_throw (Error.foreseen_of_kind rfl)
  | cons name others =>
      have saves : Behaves 0 (do
          let result ← published name
          onGraph (Graph.createSave setting.function "output" result)) :=
        guards_bind (behaves_published name) fun result => behaves_createSave _ _ result
      by_cases single : others = []
      · simpa [finalize, single] using saves
      · have noted : Behaves 0 (note (.extraOutputs (name :: others).length name) >>= fun _ => do
            let result ← published name
            onGraph (Graph.createSave setting.function "output" result)) :=
          guards_bind (behaves_note _) fun _ => saves
        simpa [finalize, single] using noted

end Lower

end NetImport
