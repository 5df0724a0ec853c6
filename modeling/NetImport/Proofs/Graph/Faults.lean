import NetImport.Proofs.Graph.Factory

/-!
# How factories fail

A factory fails when shapes or parameters do not fit, or when storage cannot hold a tensor. No other
failure comes from building a graph, except that of writing to a variable that does not exist.
-/

namespace NetImport

open Steps (Guards guards_bind guards_get guards_pure guards_throw)

/--
A failure of an import, of the validation of shapes, or of the services for values and texts that it
uses.
-/
def Error.Foreseen (error : Error) : Prop :=
  error.category.kind?.isSome ∨ (∃ fault, error = .invalid fault) ∨ error = .rejectedValue ∨
    error = .malformedText

theorem Error.foreseen_invalid (fault : ShapeFault) : (Error.invalid fault).Foreseen :=
  .inr (.inl ⟨fault, rfl⟩)

theorem Error.foreseen_rejectedValue : Error.rejectedValue.Foreseen := .inr (.inr (.inl rfl))

theorem Error.foreseen_of_kind {error : Error} (kind : error.category.kind?.isSome) :
    error.Foreseen :=
  .inl kind

/-- An operation that yields a result or fails in a foreseen way. -/
def Foresees {α : Type} (outcome : Except Error α) : Prop :=
  ∀ error, outcome = .error error → error.Foreseen

theorem foresees_ok {α : Type} (value : α) : Foresees (.ok value) := by
  intro error fails
  cases fails

theorem foresees_error {α : Type} {error : Error} (foreseen : error.Foreseen) :
    Foresees (.error error : Except Error α) := by
  rintro _ ⟨⟩
  exact foreseen

theorem foresees_bind {α β : Type} {outcome : Except Error α} {next : α → Except Error β}
    (first : Foresees outcome) (second : ∀ value, outcome = .ok value → Foresees (next value)) :
    Foresees (outcome >>= next) := by
  cases outcome with
  | ok value => exact second value rfl
  | error error => exact foresees_error (first error rfl)

theorem foresees_ofShapeResult {α : Type} (outcome : Except ShapeFault α) :
    Foresees (ofShapeResult outcome) := by
  cases outcome with
  | ok value => exact foresees_ok value
  | error fault => exact foresees_error (Error.foreseen_invalid fault)

theorem foresees_allocate (shape : Shape) : Foresees (Tensor.allocate shape) := by
  unfold Tensor.allocate
  dsimp only
  split
  · exact foresees_ok _
  · exact foresees_error Error.foreseen_rejectedValue

theorem foresees_filled (shape : Shape) (value : Binary32) :
    Foresees (Tensor.filled shape value) :=
  foresees_bind (foresees_allocate shape) fun _ _ => foresees_ok _

/-- A build that fails in foreseen ways only. -/
def Build.Validates {α : Type} (build : Build α) : Prop :=
  Guards (fun _ => True) Error.Foreseen build

namespace Graph

open Build (Validates ofResult fault require)

variable {α : Type} {function : Nat} {name : Label}

theorem validates_ofResult {outcome : Except Error α} (foresees : Foresees outcome) :
    Validates (ofResult outcome) := by
  cases outcome with
  | ok value => exact guards_pure value
  | error error => exact guards_throw (foresees error rfl)

theorem validates_fault (reason : ShapeFault) : Validates (fault reason : Build α) :=
  guards_throw (Error.foreseen_invalid reason)

theorem validates_require (condition : Prop) [Decidable condition] (reason : ShapeFault) :
    Validates (require condition reason) := by
  unfold require
  split
  · exact guards_pure ()
  · exact validates_fault reason

theorem validates_shape (ref : Ref) : Validates (shape ref) :=
  guards_bind guards_get fun _ => guards_pure _

theorem validates_modifyGet (change : Graph → α × Graph) :
    Validates (modifyGet change : Build α) :=
  fun _ _ => ⟨trivial, by simp⟩

theorem validates_addVariable (payload : Tensor) (visibility : Visibility) (train : TrainKind) :
    Validates (addVariable name payload visibility train) :=
  validates_modifyGet _

theorem validates_createFilled (shape : Shape) (value : Binary32) (visibility : Visibility)
    (train : TrainKind) : Validates (createFilled name shape value visibility train) :=
  guards_bind (validates_ofResult (foresees_filled shape value)) fun payload =>
    validates_addVariable payload visibility train

theorem validates_addNode (operation : Operation) (operands : List Ref) (shape : Shape) :
    Validates (addNode function name operation operands shape) :=
  validates_modifyGet _

theorem validates_requireRankFour (operation : String) (operand : Shape) :
    Validates (requireRankFour operation operand) := by
  unfold requireRankFour
  split
  · exact guards_pure _
  · exact validates_fault _

theorem validates_windowExtents (window : Window) (height width : Int) :
    Validates (windowExtents window height width) :=
  validates_ofResult (foresees_ofShapeResult _)

theorem validates_createElementwise (operation : Operation) (input : Ref) :
    Validates (createElementwise function name operation input) :=
  guards_bind (validates_shape input) fun _ => validates_addNode _ _ _

theorem validates_createTranspose (input : Ref) (permutation : List Int) :
    Validates (createTranspose function name input permutation) := by
  refine guards_bind (validates_shape input) fun operand => ?_
  refine guards_bind (validates_ofResult (foresees_ofShapeResult _)) fun permuted => ?_
  exact validates_addNode _ _ _

/-- The given shape of the result of a convolution has to have a depth. -/
theorem validates_createConvolution (input filter bias : Ref)
    (batch height width depth : Int) (window : Window) (group : Int) :
    Validates (createConvolution function name input filter bias [batch, height, width, depth]
      window group) := by
  refine guards_bind (validates_shape input) fun operand => ?_
  refine guards_bind (validates_requireRankFour _ _) fun ⟨_, inHeight, inWidth, channels⟩ => ?_
  refine guards_bind (validates_require _ _) fun _ => ?_
  refine guards_bind (validates_require _ _) fun _ => ?_
  refine guards_bind (validates_shape filter) fun _ => ?_
  refine guards_bind (validates_shape filter) fun _ => ?_
  refine guards_bind (validates_require _ _) fun _ => ?_
  refine guards_bind (validates_shape bias) fun _ => ?_
  refine guards_bind (validates_shape bias) fun _ => ?_
  refine guards_bind (validates_require _ _) fun _ => ?_
  refine guards_bind (validates_windowExtents _ _ _) fun ⟨outHeight, outWidth⟩ => ?_
  refine guards_bind (validates_require _ _) fun _ => ?_
  exact validates_addNode _ _ _

theorem validates_createPool (operation : Operation) (window : Window) (input : Ref) :
    Validates (createPool function name operation window input) := by
  refine guards_bind (validates_shape input) fun operand => ?_
  refine guards_bind (validates_requireRankFour _ _) fun ⟨_, height, width, channels⟩ => ?_
  refine guards_bind (validates_windowExtents _ _ _) fun ⟨outHeight, outWidth⟩ => ?_
  exact validates_addNode _ _ _

theorem validates_createBatchNormalization (input : Ref) (channel : Int)
    (epsilon momentum : Binary64) :
    Validates (createBatchNormalization function name input channel epsilon momentum) := by
  refine guards_bind (validates_shape input) fun operand => ?_
  refine guards_bind (validates_require _ _) fun _ => ?_
  refine guards_bind (validates_createFilled _ _ _ _) fun scale => ?_
  refine guards_bind (validates_createFilled _ _ _ _) fun bias => ?_
  refine guards_bind (validates_createFilled _ _ _ _) fun mean => ?_
  refine guards_bind (validates_createFilled _ _ _ _) fun variance => ?_
  exact validates_addNode _ _ _

theorem validates_createConcat (inputs : List Ref) (dimension : Int) :
    Validates (createConcat function name inputs dimension) := by
  refine guards_bind guards_get fun graph => ?_
  split
  · exact validates_fault _
  · refine guards_bind (validates_require _ _) fun _ => ?_
    split
    · exact validates_fault _
    · exact validates_addNode _ _ _

theorem validates_createPairwise (operation : Operation) (left right : Ref) :
    Validates (createPairwise function name operation left right) := by
  refine guards_bind (validates_shape left) fun leftShape => ?_
  refine guards_bind (validates_shape right) fun rightShape => ?_
  exact guards_bind (validates_require _ _) fun _ => validates_addNode _ _ _

theorem validates_createBroadcast (input : Ref) (target : Shape) (axis : Int) :
    Validates (createBroadcast function name input target axis) := by
  refine guards_bind (validates_shape input) fun operand => ?_
  exact guards_bind (validates_require _ _) fun _ => validates_addNode _ _ _

theorem validates_createSoftmax (input selected : Ref) :
    Validates (createSoftmax function name input selected) :=
  guards_bind (validates_shape input) fun _ => validates_addNode _ _ _

theorem validates_createReshape (input : Ref) (target : Shape) :
    Validates (createReshape function name input target) := by
  refine guards_bind (validates_shape input) fun operand => ?_
  exact guards_bind (validates_require _ _) fun _ => validates_addNode _ _ _

theorem validates_createFullyConnected (input weights bias : Ref) :
    Validates (createFullyConnected function name input weights bias) := by
  refine guards_bind (validates_shape input) fun operand => ?_
  refine guards_bind (validates_ofResult (foresees_ofShapeResult _)) fun ⟨batch, features⟩ => ?_
  refine guards_bind (validates_shape weights) fun weightsShape => ?_
  split
  · refine guards_bind (validates_require _ _) fun _ => ?_
    refine guards_bind (validates_shape bias) fun _ => ?_
    refine guards_bind (validates_shape bias) fun _ => ?_
    exact guards_bind (validates_require _ _) fun _ => validates_addNode _ _ _
  · exact validates_fault _

theorem validates_createLocalResponseNormalization (input : Ref) (halfWindow : Int)
    (alpha beta bias : Binary64) :
    Validates
      (createLocalResponseNormalization function name input halfWindow alpha beta bias) := by
  refine guards_bind (validates_shape input) fun operand => ?_
  exact guards_bind (validates_requireRankFour _ _) fun _ => validates_addNode _ _ _

theorem validates_createChannelShuffle (input : Ref) (group axis : Int) :
    Validates (createChannelShuffle function name input group axis) := by
  refine guards_bind (validates_shape input) fun operand => ?_
  refine guards_bind (validates_require _ _) fun _ => ?_
  exact guards_bind (validates_require _ _) fun _ => validates_addNode _ _ _

theorem validates_createSqueeze (input : Ref) (axes : List Int) :
    Validates (createSqueeze function name input axes) := by
  refine guards_bind (validates_shape input) fun operand => ?_
  dsimp only
  split
  · exact validates_fault _
  · exact validates_addNode _ _ _

theorem validates_createSave (input : Ref) : Validates (createSave function name input) := by
  refine guards_bind (validates_shape input) fun operand => ?_
  exact guards_bind (validates_createFilled _ _ _ _) fun output => validates_addNode _ _ _

/-- Writing to a variable that exists fails only when the shapes differ. -/
theorem foreseen_of_copyFrom {graph after : Graph} {index : Nat} {source : Tensor} {error : Error}
    (held : index < graph.vars.length) (fails : copyFrom index source graph = .error error after) :
    error.Foreseen := by
  rcases Steps.bind_eq_error.mp fails with refused | ⟨target, mid, _, writeFails⟩
  · simp only [copyTarget, Steps.get_bind, List.getElem?_eq_getElem held, Steps.bind_eq_error,
      Build.require_eq_error, Steps.pure_ne_error, and_false, exists_false, or_false] at refused
    rcases refused with ⟨_, rfl, _⟩
    exact Error.foreseen_invalid _
  · exact absurd writeFails Steps.modify_ne_error

end Graph

end NetImport
