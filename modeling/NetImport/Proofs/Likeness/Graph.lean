import NetImport.Proofs.Likeness.Session

/-!
# Building graphs side by side

A factory looks at the shapes of its operands, never at titles or numbers. Given graphs that are
alike, the same operands and titles that may stand for each other, it fails on both graphs in the
same way, or appends things that are alike to both.
-/

namespace NetImport.Likeness

open Build (ofResult fault require)
open NetImport.Graph hiding shape
open Steps (Parallel parallel_bind parallel_bind_eq parallel_get parallel_modify
  parallel_modifyGet parallel_pure parallel_throw)

variable {α : Type} (likeness : Likeness)

/-- Steps that build graphs and do the same to graphs that are alike. -/
def Builds (values : α → α → Prop) (build other : Build α) : Prop :=
  Parallel SameCategory likeness.Graphs values build other

variable {likeness}

theorem builds_ofResult {values : α → α → Prop} {outcome other : Except Error α}
    (alike : AlikeResults values outcome other) :
    likeness.Builds values (ofResult outcome) (ofResult other) := by
  cases alike with
  | ok alike => exact parallel_pure alike
  | error same => exact parallel_throw same

theorem builds_fault (fault other : ShapeFault) :
    likeness.Builds (α := α) Eq (Build.fault fault) (Build.fault other) :=
  parallel_throw rfl

theorem builds_require_iff {condition other : Prop} [Decidable condition] [Decidable other]
    (same : condition ↔ other) (fault otherFault : ShapeFault) :
    likeness.Builds Eq (require condition fault) (require other otherFault) := by
  by_cases holds : condition
  · rw [require, require, if_pos holds, if_pos (same.mp holds)]
    exact parallel_pure rfl
  · rw [require, require, if_neg holds, if_neg (mt same.mpr holds)]
    exact builds_fault _ _

/-- Both sides require the same, but may describe a failure differently. -/
theorem builds_require (condition : Prop) [Decidable condition] (fault other : ShapeFault) :
    likeness.Builds Eq (require condition fault) (require condition other) :=
  builds_require_iff Iff.rfl fault other

theorem builds_shape (ref : Ref) : likeness.Builds Eq (Graph.shape ref) (Graph.shape ref) :=
  parallel_bind parallel_get fun graph other alike =>
    parallel_pure (by rw [Graphs.shapeOf alike])

theorem builds_requireRankFour (operation : String) (operand : Shape) :
    likeness.Builds Eq (requireRankFour operation operand) (requireRankFour operation operand) := by
  unfold requireRankFour
  split
  · exact parallel_pure rfl
  · exact parallel_throw rfl

theorem builds_windowExtents (window : Window) (height width : Int) :
    likeness.Builds Eq (windowExtents window height width) (windowExtents window height width) :=
  builds_ofResult (alikeResults_refl Eq.refl _)

/-! ## Variables -/

variable {name other : Label} {function : Nat}

theorem builds_addVariable {payload otherPayload : Tensor} {visibility : Visibility}
    {train : TrainKind} (titled : likeness.titles name other)
    (tensors : likeness.Tensors payload otherPayload) :
    likeness.Builds Eq (addVariable name payload visibility train)
      (addVariable other otherPayload visibility train) :=
  parallel_modifyGet fun _ _ alike =>
    ⟨alike.length_vars.symm, alike.withVar ⟨titled, rfl, rfl, tensors⟩⟩

theorem builds_createFilled {shape : Shape} {value : Binary32} {visibility : Visibility}
    {train : TrainKind} (titled : likeness.titles name other) :
    likeness.Builds Eq (createFilled name shape value visibility train)
      (createFilled other shape value visibility train) :=
  parallel_bind_eq (builds_ofResult (alikeResults_refl Eq.refl _)) fun payload =>
    builds_addVariable titled (tensors_refl payload)

theorem builds_copyTarget (index : Nat) (source : Shape) :
    likeness.Builds likeness.Variables (copyTarget index source) (copyTarget index source) := by
  refine parallel_bind parallel_get fun graph otherGraph alike => ?_
  rcases forall₂_getElem? alike.vars index with
    ⟨absent, alsoAbsent⟩ | ⟨target, otherTarget, found, alsoFound, targets⟩
  · rw [absent, alsoAbsent]
    exact parallel_throw rfl
  · rw [found, alsoFound]
    have shape : target.shape = otherTarget.shape := targets.payload.shape.symm
    exact parallel_bind_eq (builds_require_iff (by rw [shape]) _ _) fun _ => parallel_pure targets

theorem builds_copyFrom {source otherSource : Tensor} (index : Nat)
    (tensors : likeness.Tensors source otherSource) :
    likeness.Builds Eq (copyFrom index source) (copyFrom index otherSource) := by
  unfold copyFrom
  rw [tensors.shape]
  refine parallel_bind (builds_copyTarget index _) fun target otherTarget targets => ?_
  refine parallel_modify fun graph otherGraph alike => ⟨?_, alike.nodes, alike.functions⟩
  exact forall₂_set alike.vars index ⟨targets.name, targets.visibility, targets.train, tensors⟩

/-! ## Nodes -/

theorem builds_addNode {operation : Operation} {operands : List Ref} {shape : Shape}
    (titled : likeness.titles name other) :
    likeness.Builds Eq (addNode function name operation operands shape)
      (addNode function other operation operands shape) :=
  parallel_modifyGet fun _ _ alike =>
    ⟨congrArg Ref.node alike.length_nodes.symm, alike.withNode ⟨rfl, titled, rfl, rfl, rfl⟩⟩

theorem builds_createElementwise {operation : Operation} {input : Ref}
    (titled : likeness.titles name other) :
    likeness.Builds Eq (createElementwise function name operation input)
      (createElementwise function other operation input) :=
  parallel_bind_eq (builds_shape input) fun _ => builds_addNode titled

theorem builds_createTranspose {input : Ref} {permutation : List Int}
    (titled : likeness.titles name other) :
    likeness.Builds Eq (createTranspose function name input permutation)
      (createTranspose function other input permutation) :=
  parallel_bind_eq (builds_shape input) fun _ =>
    parallel_bind_eq (builds_ofResult (alikeResults_refl Eq.refl _)) fun _ => builds_addNode titled

theorem builds_createConvolution {input filter bias : Ref} {output : Shape} {window : Window}
    {group : Int} (titled : likeness.titles name other) :
    likeness.Builds Eq (createConvolution function name input filter bias output window group)
      (createConvolution function other input filter bias output window group) := by
  refine parallel_bind_eq (builds_shape input) fun operand => ?_
  refine parallel_bind_eq (builds_requireRankFour _ operand) fun ⟨batch, height, width, channels⟩ =>
    ?_
  refine parallel_bind_eq (builds_require _ _ _) fun _ => ?_
  cases output[3]? with
  | none => exact parallel_throw rfl
  | some depth =>
      refine parallel_bind_eq (builds_require _ _ _) fun _ => ?_
      refine parallel_bind_eq (builds_shape filter) fun filterShape => ?_
      refine parallel_bind_eq (builds_shape filter) fun shownFilter => ?_
      refine parallel_bind_eq (builds_require _ _ _) fun _ => ?_
      refine parallel_bind_eq (builds_shape bias) fun biasShape => ?_
      refine parallel_bind_eq (builds_shape bias) fun shownBias => ?_
      refine parallel_bind_eq (builds_require _ _ _) fun _ => ?_
      refine parallel_bind_eq (builds_windowExtents window height width) fun _ => ?_
      exact parallel_bind_eq (builds_require _ _ _) fun _ => builds_addNode titled

theorem builds_createPool {operation : Operation} {window : Window} {input : Ref}
    (titled : likeness.titles name other) :
    likeness.Builds Eq (createPool function name operation window input)
      (createPool function other operation window input) := by
  refine parallel_bind_eq (builds_shape input) fun operand => ?_
  refine parallel_bind_eq (builds_requireRankFour _ operand) fun ⟨batch, height, width, channels⟩ =>
    ?_
  exact parallel_bind_eq (builds_windowExtents window height width) fun _ => builds_addNode titled

theorem builds_createBatchNormalization {input : Ref} {channel : Int} {epsilon momentum : Binary64}
    (titled : likeness.titles name other) :
    likeness.Builds Eq (createBatchNormalization function name input channel epsilon momentum)
      (createBatchNormalization function other input channel epsilon momentum) := by
  have part := fun suffix => likeness.titles_part name other suffix titled
  refine parallel_bind_eq (builds_shape input) fun operand => ?_
  refine parallel_bind_eq (builds_require _ _ _) fun _ => ?_
  refine parallel_bind_eq (builds_createFilled (part ".scale")) fun scale => ?_
  refine parallel_bind_eq (builds_createFilled (part ".bias")) fun bias => ?_
  refine parallel_bind_eq (builds_createFilled (part ".mean")) fun mean => ?_
  exact parallel_bind_eq (builds_createFilled (part ".var")) fun variance => builds_addNode titled

theorem builds_createConcat {inputs : List Ref} {dimension : Int}
    (titled : likeness.titles name other) :
    likeness.Builds Eq (createConcat function name inputs dimension)
      (createConcat function other inputs dimension) := by
  refine parallel_bind parallel_get fun graph otherGraph alike => ?_
  rw [Graphs.shapeOf alike]
  cases inputs.map graph.shapeOf with
  | nil => exact builds_fault _ _
  | cons first others =>
      refine parallel_bind_eq (builds_require _ _ _) fun _ => ?_
      cases others.find? fun other => !agreeBeside dimension.toNat first other with
      | some other => exact builds_fault _ _
      | none => exact builds_addNode titled

theorem builds_createPairwise {operation : Operation} {left right : Ref}
    (titled : likeness.titles name other) :
    likeness.Builds Eq (createPairwise function name operation left right)
      (createPairwise function other operation left right) := by
  refine parallel_bind_eq (builds_shape left) fun leftShape => ?_
  refine parallel_bind_eq (builds_shape right) fun rightShape => ?_
  exact parallel_bind_eq (builds_require _ _ _) fun _ => builds_addNode titled

theorem builds_createBroadcast {input : Ref} {target : Shape} {axis : Int}
    (titled : likeness.titles name other) :
    likeness.Builds Eq (createBroadcast function name input target axis)
      (createBroadcast function other input target axis) := by
  refine parallel_bind_eq (builds_shape input) fun operand => ?_
  exact parallel_bind_eq (builds_require _ _ _) fun _ => builds_addNode titled

theorem builds_createSoftmax {input selected : Ref} (titled : likeness.titles name other) :
    likeness.Builds Eq (createSoftmax function name input selected)
      (createSoftmax function other input selected) :=
  parallel_bind_eq (builds_shape input) fun _ => builds_addNode titled

theorem builds_createReshape {input : Ref} {target : Shape} (titled : likeness.titles name other) :
    likeness.Builds Eq (createReshape function name input target)
      (createReshape function other input target) := by
  refine parallel_bind_eq (builds_shape input) fun operand => ?_
  exact parallel_bind_eq (builds_require _ _ _) fun _ => builds_addNode titled

theorem builds_createFullyConnected {input weights bias : Ref}
    (titled : likeness.titles name other) :
    likeness.Builds Eq (createFullyConnected function name input weights bias)
      (createFullyConnected function other input weights bias) := by
  refine parallel_bind_eq (builds_shape input) fun operand => ?_
  refine parallel_bind_eq (builds_ofResult (alikeResults_refl Eq.refl _))
    fun ⟨batch, features⟩ => ?_
  refine parallel_bind_eq (builds_shape weights) fun weightsShape => ?_
  match weightsShape with
  | [rows, depth] =>
      refine parallel_bind_eq (builds_require _ _ _) fun _ => ?_
      refine parallel_bind_eq (builds_shape bias) fun biasShape => ?_
      refine parallel_bind_eq (builds_shape bias) fun shownBias => ?_
      exact parallel_bind_eq (builds_require _ _ _) fun _ => builds_addNode titled
  | [] => exact builds_fault _ _
  | [_] => exact builds_fault _ _
  | _ :: _ :: _ :: _ => exact builds_fault _ _

theorem builds_createLocalResponseNormalization {input : Ref} {halfWindow : Int}
    {alpha beta bias : Binary64} (titled : likeness.titles name other) :
    likeness.Builds Eq
      (createLocalResponseNormalization function name input halfWindow alpha beta bias)
      (createLocalResponseNormalization function other input halfWindow alpha beta bias) := by
  refine parallel_bind_eq (builds_shape input) fun operand => ?_
  exact parallel_bind_eq (builds_requireRankFour _ operand) fun _ => builds_addNode titled

theorem builds_createChannelShuffle {input : Ref} {group axis : Int}
    (titled : likeness.titles name other) :
    likeness.Builds Eq (createChannelShuffle function name input group axis)
      (createChannelShuffle function other input group axis) := by
  refine parallel_bind_eq (builds_shape input) fun operand => ?_
  refine parallel_bind_eq (builds_require _ _ _) fun _ => ?_
  exact parallel_bind_eq (builds_require _ _ _) fun _ => builds_addNode titled

theorem builds_createSqueeze {input : Ref} {axes : List Int}
    (titled : likeness.titles name other) :
    likeness.Builds Eq (createSqueeze function name input axes)
      (createSqueeze function other input axes) := by
  refine parallel_bind_eq (builds_shape input) fun operand => ?_
  cases refused : (sortedAxes axes).find? fun axis => !squeezable operand axis with
  | some axis =>
      simp only [refused]
      exact builds_fault _ _
  | none =>
      simp only [refused]
      exact builds_addNode titled

theorem builds_createSave {input : Ref} (titled : likeness.titles name other) :
    likeness.Builds Eq (createSave function name input) (createSave function other input) := by
  refine parallel_bind_eq (builds_shape input) fun operand => ?_
  exact parallel_bind_eq (builds_createFilled (likeness.titles_part _ _ ".var" titled))
    fun output => builds_addNode titled

end NetImport.Likeness
