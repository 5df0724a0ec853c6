import NetImport.Proofs.Descriptor.Builder
import NetImport.Proofs.Graph.Factory

/-!
# What a request appends

A request says which factory is to make something, and out of what. Whatever the graph is like, a
request that fails leaves it as it was, and one that succeeds appends what it asks for: an empty
function, a variable, or a node of a function. Only a batch normalisation and a node that saves come
with variables of their own, which are appended as well. What the graph held before stays where it
is and as it is.
-/

namespace NetImport

/-! ## Uniform variables -/

/-- What is known of a variable whose cells all hold one number. -/
structure Uniform where
  name : Label
  visibility : Visibility
  train : TrainKind
  shape : Shape
  number : Binary32

structure Variable.Meets (owned : Variable) (uniform : Uniform) : Prop where
  name : owned.name = uniform.name
  visibility : owned.visibility = uniform.visibility
  train : owned.train = uniform.train
  shape : owned.shape = uniform.shape
  numbers : ∀ number ∈ owned.payload.data, number = uniform.number

theorem Variable.meets_of_filled (name : Label) (visibility : Visibility) (train : TrainKind)
    {shape : Shape} {number : Binary32} {payload : Tensor}
    (filled : Tensor.filled shape number = .ok payload) :
    Variable.Meets ⟨name, visibility, train, payload⟩ ⟨name, visibility, train, shape, number⟩ := by
  have ⟨shape_eq, numbers_eq⟩ := Tensor.shape_and_data_of_filled filled
  exact ⟨rfl, rfl, rfl, shape_eq, numbers_eq⟩

namespace Graph

open Build

variable {graph after : Graph} {function : Nat} {name : Label} {ref : Ref}

/-! ## Variables for arrays -/

section Arrays

variable {array : NumericArray} {visibility : Visibility} {payload : Tensor}

theorem shared_of_element (element : array.element = .graph) : array.shared = .ok array := by
  rcases array with ⟨_, extents, values, size_values⟩
  subst element
  rfl

theorem filled_of_storable {extents : List Nat} (number : Binary32)
    (storable : Storable extents) :
    Tensor.filled (extents.map Int.ofNat) number =
      .ok ⟨extents, .replicate (cellCount extents) number, storable, by simp⟩ := by
  simp only [Tensor.filled, Tensor.allocate, Tensor.toNat_map_ofNat, storable, and_self, dite_true]
  rfl

theorem filled_of_not_storable {extents : List Nat} (number : Binary32)
    (notStorable : ¬Storable extents) :
    Tensor.filled (extents.map Int.ofNat) number = .error .rejectedValue := by
  simp only [Tensor.filled, Tensor.allocate, Tensor.toNat_map_ofNat, notStorable, false_and,
    dite_false]
  rfl

theorem toTensor_of_storable (element : array.element = .graph)
    (storable : Storable array.extents) :
    array.toTensor =
      .ok ⟨array.extents, (array.rounded .single).toArray, storable, array.size_rounded⟩ := by
  have checked : array.element.check = .ok () := by
    simp [ElementSpec.check, element]
  have numbers : array.numbers = .ok (array.rounded .single) :=
    array.numbers_of_isNumber rfl (by decide) element
  simp only [NumericArray.toTensor, NumericArray.cast, checked, numbers]
  exact Tensor.ofValues_of_storable storable _

theorem toTensor_of_not_storable (element : array.element = .graph)
    (notStorable : ¬Storable array.extents) : array.toTensor = .error .rejectedValue := by
  have checked : array.element.check = .ok () := by
    simp [ElementSpec.check, element]
  have numbers : array.numbers = .ok (array.rounded .single) :=
    array.numbers_of_isNumber rfl (by decide) element
  simp only [NumericArray.toTensor, NumericArray.cast, checked, numbers]
  exact Tensor.ofValues_of_not_storable notStorable array.size_rounded

theorem shape_of_toTensor (held : array.toTensor = .ok payload) : payload.shape = array.shape := by
  rcases except_bind_eq_ok.mp held with ⟨_, _, cast⟩
  rcases except_bind_eq_ok.mp cast with ⟨numbers, _, built⟩
  exact (Tensor.shape_and_data_of_ofValues built).1

/-- An array is copied into the last variable if that has its shape. -/
theorem copyArray_last (graph : Graph) (owned : Variable) (held : array.toTensor = .ok payload)
    (same : array.shape = owned.shape) :
    copyArray graph.vars.length array (graph.withVar owned) =
      .ok () (graph.withVar { owned with payload }) := by
  have payload_shape := shape_of_toTensor held
  rcases except_bind_eq_ok.mp held with ⟨_, checked, cast⟩
  have element : array.element = .graph := by
    simpa [ElementSpec.check] using checked
  have shared := shared_of_element element
  simp [copyArray, shared, cast, same, payload_shape, withVar]

/-- The variable that an array is copied into can hold it, since it was made in the array's shape. -/
theorem addArray_eq_addVariable :
    addArray name array visibility =
      ofResult array.toTensor >>= fun payload => addVariable name payload visibility .broadcast := by
  apply funext
  intro graph
  by_cases element : array.element = .graph
  · have checked : array.element.check = .ok () := by
      simp [ElementSpec.check, element]
    by_cases storable : Storable array.extents
    · have held := toTensor_of_storable element storable
      have filled := filled_of_storable .zero storable
      trans .ok graph.vars.length (graph.withVar ⟨name, visibility, .broadcast,
        ⟨array.extents, (array.rounded .single).toArray, storable, array.size_rounded⟩⟩)
      · have copied := copyArray_last graph ⟨name, visibility, .broadcast, ⟨array.extents,
          .replicate (cellCount array.extents) .zero, storable, by simp⟩⟩ held rfl
        simp [addArray, createVariable, checked, NumericArray.shape, filled, copied]
      · symm
        simp [held]
    · have refused := toTensor_of_not_storable element storable
      have filled := filled_of_not_storable .zero storable
      simp only [addArray, createVariable, createFilled, checked, refused, NumericArray.shape,
        filled]
      rfl
  · have refused :
        array.element.check = .error (.invalid (.unsupportedElement array.element.name)) := by
      simp [ElementSpec.check, element]
    simp only [addArray, NumericArray.toTensor, refused]
    rfl

@[simp]
theorem addArray_eq_ok {index : Nat} :
    addArray name array visibility graph = .ok index after ↔
      ∃ payload, array.toTensor = .ok payload ∧ index = graph.vars.length ∧
        after = graph.withVar ⟨name, visibility, .broadcast, payload⟩ := by
  simp [addArray_eq_addVariable, and_assoc]

theorem addArray_allOrNothing : AllOrNothing (addArray name array visibility) := by
  rw [addArray_eq_addVariable]
  apply allOrNothing_bind (leaves_ofResult _)
  intro payload graph error after fails
  simp [addVariable] at fails

end Arrays

/-! ## Requests -/

/-- A request to a function for a node: the parameters and the operands of the node. -/
inductive NodeRequest where
  | relu (input : Ref)
  | sigmoid (input : Ref)
  | tanh (input : Ref)
  | transpose (input : Ref) (permutation : List Int)
  | convolution (input filter bias : Ref) (output : Shape) (window : Window) (group : Int)
  | poolMax (input : Ref) (window : Window)
  | poolAvg (input : Ref) (window : Window)
  | batchNormalization (input : Ref) (channel : Int) (epsilon momentum : Binary64)
  | concat (inputs : List Ref) (dimension : Int)
  | add (left right : Ref)
  | mul (left right : Ref)
  | broadcast (input : Ref) (target : Shape) (axis : Int)
  | softmax (input selected : Ref)
  | reshape (input : Ref) (target : Shape)
  | fullyConnected (input weights bias : Ref)
  | localResponseNormalization (input : Ref) (halfWindow : Int) (alpha beta bias : Binary64)
  | channelShuffle (input : Ref) (group axis : Int)
  | squeeze (input : Ref) (axes : List Int)
  | save (input : Ref)

namespace NodeRequest

/-- Asks a function for a node of a name. -/
def build (function : Nat) (name : Label) : NodeRequest → Build Ref
  | relu input => createRelu function name input
  | sigmoid input => createSigmoid function name input
  | tanh input => createTanh function name input
  | transpose input permutation => createTranspose function name input permutation
  | convolution input filter bias output window group =>
      createConvolution function name input filter bias output window group
  | poolMax input window => createPoolMax function name input window
  | poolAvg input window => createPoolAvg function name input window
  | batchNormalization input channel epsilon momentum =>
      createBatchNormalization function name input channel epsilon momentum
  | concat inputs dimension => createConcat function name inputs dimension
  | add left right => createAdd function name left right
  | mul left right => createMul function name left right
  | broadcast input target axis => createBroadcast function name input target axis
  | softmax input selected => createSoftmax function name input selected
  | reshape input target => createReshape function name input target
  | fullyConnected input weights bias => createFullyConnected function name input weights bias
  | localResponseNormalization input halfWindow alpha beta bias =>
      createLocalResponseNormalization function name input halfWindow alpha beta bias
  | channelShuffle input group axis => createChannelShuffle function name input group axis
  | squeeze input axes => createSqueeze function name input axes
  | save input => createSave function name input

/-- The operation of the node asked for, given how many variables there are. -/
def operation (next : Nat) : NodeRequest → Operation
  | relu _ => .relu
  | sigmoid _ => .sigmoid
  | tanh _ => .tanh
  | transpose _ permutation => .transpose permutation
  | convolution _ _ _ _ window group => .convolution window group
  | poolMax _ window => .poolMax window
  | poolAvg _ window => .poolAvg window
  | batchNormalization _ channel epsilon momentum => .batchNormalization channel epsilon momentum
  | concat _ dimension => .concat dimension
  | add _ _ => .add
  | mul _ _ => .mul
  | broadcast _ _ axis => .broadcast axis
  | softmax _ _ => .softmax
  | reshape _ target => .reshape target
  | fullyConnected _ _ _ => .fullyConnected
  | localResponseNormalization _ halfWindow alpha beta bias =>
      .localResponseNormalization halfWindow alpha beta bias
  | channelShuffle _ group axis => .channelShuffle group axis
  | squeeze _ axes => .squeeze (sortedAxes axes)
  | save _ => .save next

/-- The operands of the node asked for, given how many variables there are. -/
def operands (next : Nat) : NodeRequest → List Ref
  | relu input | sigmoid input | tanh input | transpose input _ | poolMax input _
  | poolAvg input _ | broadcast input _ _ | reshape input _
  | localResponseNormalization input _ _ _ _ | channelShuffle input _ _ | squeeze input _
  | save input => [input]
  | convolution input filter bias _ _ _ => [input, filter, bias]
  | fullyConnected input weights bias => [input, weights, bias]
  | batchNormalization input _ _ _ =>
      [input, .var next, .var (next + 1), .var (next + 2), .var (next + 3)]
  | concat inputs _ => inputs
  | add left right | mul left right => [left, right]
  | softmax input selected => [input, selected]

/-- The variables that come with the node asked for. -/
def companions (graph : Graph) (name : Label) : NodeRequest → List Uniform
  | batchNormalization input channel _ _ =>
      let channels : Shape := [(graph.shapeOf input).extentAt channel]
      [⟨name.part ".scale", .internal, .broadcast, channels, .one⟩,
        ⟨name.part ".bias", .internal, .broadcast, channels, .zero⟩,
        ⟨name.part ".mean", .internal, .broadcast, channels, .zero⟩,
        ⟨name.part ".var", .internal, .broadcast, channels, .one⟩]
  | save input => [⟨name.part ".var", .external, .none, graph.shapeOf input, .zero⟩]
  | _ => []

/-- A graph after a node with its companions has been appended to another one. -/
def Appends (request : NodeRequest) (function : Nat) (name : Label) (graph : Graph) (ref : Ref)
    (after : Graph) : Prop :=
  ref = .node graph.nodes.length ∧ ∃ (companions : List Variable) (shape : Shape),
    List.Forall₂ Variable.Meets companions (request.companions graph name) ∧
      after = ⟨graph.vars ++ companions,
        graph.nodes ++ [⟨function, name, request.operation graph.vars.length,
          request.operands graph.vars.length, shape⟩],
        graph.functions⟩

variable {request : NodeRequest} {shape : Shape}

theorem appends_withNode (alone : request.companions graph name = []) :
    request.Appends function name graph (.node graph.nodes.length)
      (graph.withNode ⟨function, name, request.operation graph.vars.length,
        request.operands graph.vars.length, shape⟩) := by
  refine ⟨rfl, [], shape, ?_, ?_⟩
  · rw [alone]
    exact .nil
  · simp [withNode]

theorem appends_of_build (built : request.build function name graph = .ok ref after) :
    request.Appends function name graph ref after := by
  cases request with
  | relu | sigmoid | tanh =>
      rcases createElementwise_eq_ok.mp built with ⟨rfl, rfl⟩
      exact appends_withNode rfl
  | transpose =>
      rcases createTranspose_eq_ok.mp built with ⟨_, rfl, rfl⟩
      exact appends_withNode rfl
  | convolution =>
      rcases createConvolution_eq_ok.mp built with
        ⟨_, _, _, _, _, _, _, _, _, _, _, _, _, _, _, rfl, rfl⟩
      exact appends_withNode rfl
  | poolMax | poolAvg =>
      rcases createPool_eq_ok.mp built with ⟨_, _, _, _, _, _, _, _, rfl, rfl⟩
      exact appends_withNode rfl
  | batchNormalization input =>
      rcases createBatchNormalization_eq_ok.mp built with
        ⟨ones, zeros, _, isOnes, isZeros, rfl, rfl⟩
      have scale := fun part => Variable.meets_of_filled (name.part part) .internal .broadcast isOnes
      have bias := fun part => Variable.meets_of_filled (name.part part) .internal .broadcast isZeros
      have companions := List.Forall₂.cons (scale ".scale") (.cons (bias ".bias")
        (.cons (bias ".mean") (.cons (scale ".var") .nil)))
      refine ⟨rfl, _, graph.shapeOf input, companions, ?_⟩
      simp [withVar, withNode, operation, operands]
  | concat =>
      rcases createConcat_eq_ok.mp built with ⟨_, _, _, _, _, rfl, rfl⟩
      exact appends_withNode rfl
  | add | mul =>
      rcases createPairwise_eq_ok.mp built with ⟨_, rfl, rfl⟩
      exact appends_withNode rfl
  | broadcast =>
      rcases createBroadcast_eq_ok.mp built with ⟨_, rfl, rfl⟩
      exact appends_withNode rfl
  | softmax =>
      rcases createSoftmax_eq_ok.mp built with ⟨rfl, rfl⟩
      exact appends_withNode rfl
  | reshape =>
      rcases createReshape_eq_ok.mp built with ⟨_, rfl, rfl⟩
      exact appends_withNode rfl
  | fullyConnected =>
      rcases createFullyConnected_eq_ok.mp built with ⟨_, _, _, _, _, _, rfl, rfl⟩
      exact appends_withNode rfl
  | localResponseNormalization =>
      rcases createLocalResponseNormalization_eq_ok.mp built with ⟨_, _, _, _, _, rfl, rfl⟩
      exact appends_withNode rfl
  | channelShuffle =>
      rcases createChannelShuffle_eq_ok.mp built with ⟨_, _, rfl, rfl⟩
      exact appends_withNode rfl
  | squeeze =>
      rcases createSqueeze_eq_ok.mp built with ⟨_, rfl, rfl⟩
      exact appends_withNode rfl
  | save =>
      rcases createSave_eq_ok.mp built with ⟨zeros, isZeros, rfl, rfl⟩
      refine ⟨rfl, [_], _, ?_, rfl⟩
      exact .cons (Variable.meets_of_filled _ _ _ isZeros) .nil

theorem build_allOrNothing : AllOrNothing (request.build function name) := by
  cases request with
  | relu | sigmoid | tanh => exact createElementwise_addsNode.1
  | transpose => exact createTranspose_addsNode.1
  | convolution => exact createConvolution_addsNode.1
  | poolMax | poolAvg => exact createPool_addsNode.1
  | batchNormalization => exact createBatchNormalization_allOrNothing
  | concat => exact createConcat_addsNode.1
  | add | mul => exact createPairwise_addsNode.1
  | broadcast => exact createBroadcast_addsNode.1
  | softmax => exact createSoftmax_addsNode.1
  | reshape => exact createReshape_addsNode.1
  | fullyConnected => exact createFullyConnected_addsNode.1
  | localResponseNormalization => exact createLocalResponseNormalization_addsNode.1
  | channelShuffle => exact createChannelShuffle_addsNode.1
  | squeeze => exact createSqueeze_addsNode.1
  | save => exact createSave_allOrNothing

end NodeRequest

/-- A request for an empty function, for a variable of zeros or of an array, or for a node. -/
inductive Request where
  | function (name : String)
  | zeros (name : Label) (shape : Shape) (visibility : Visibility) (train : TrainKind)
  | array (name : Label) (array : NumericArray) (visibility : Visibility)
  | node (function : Nat) (name : Label) (request : NodeRequest)

/-- What has been made: a function, by its position, or what a reference denotes. -/
inductive Product where
  | function (index : Nat)
  | entry (ref : Ref)

namespace Request

def build : Request → Build Product
  | .function name => Product.function <$> createFunction name
  | .zeros name shape visibility train =>
      (fun index => .entry (.var index)) <$> createVariable name shape visibility train
  | .array name source visibility =>
      (fun index => .entry (.var index)) <$> addArray name source visibility
  | .node function name request => Product.entry <$> request.build function name

/--
A graph after what is asked for has been appended to another one. A new function has no nodes if
every node belonged to a function before.
-/
def Appends (graph : Graph) (made : Product) (after : Graph) : Request → Prop
  | .function name =>
      made = .function graph.functions.length ∧
        after = { graph with functions := graph.functions ++ [name] } ∧
        ((∀ node ∈ graph.nodes, node.function < graph.functions.length) →
          after.nodeCount graph.functions.length = 0)
  | .zeros name shape visibility train =>
      made = .entry (.var graph.vars.length) ∧ ∃ owned : Variable,
        owned.Meets ⟨name, visibility, train, shape, .zero⟩ ∧
          after = { graph with vars := graph.vars ++ [owned] }
  | .array name source visibility =>
      made = .entry (.var graph.vars.length) ∧ ∃ payload,
        source.toTensor = .ok payload ∧ payload.shape = source.shape ∧
          after = { graph with
            vars := graph.vars ++ [⟨name, visibility, .broadcast, payload⟩] }
  | .node function name request =>
      ∃ ref, made = .entry ref ∧ request.Appends function name graph ref after

variable {request : Request} {made : Product}

theorem nodeCount_eq_zero (graph : Graph) {function : Nat}
    (inside : ∀ node ∈ graph.nodes, node.function < function) : graph.nodeCount function = 0 := by
  apply List.countP_eq_zero.mpr
  intro node member
  have before := inside node member
  simp only [decide_eq_true_eq]
  omega

theorem appends_of_build (built : request.build graph = .ok made after) :
    request.Appends graph made after := by
  cases request with
  | function name =>
      simp only [build, createFunction, Steps.map_eq_ok, Steps.modifyGet_eq_ok] at built
      rcases built with ⟨_, ⟨rfl, rfl⟩, rfl⟩
      exact ⟨rfl, rfl, nodeCount_eq_zero _⟩
  | zeros name shape visibility train =>
      rcases Steps.map_eq_ok.mp built with ⟨index, created, rfl⟩
      rcases createFilled_eq_ok.mp created with ⟨payload, filled, rfl, rfl⟩
      exact ⟨rfl, _, Variable.meets_of_filled _ _ _ filled, rfl⟩
  | array name array visibility =>
      rcases Steps.map_eq_ok.mp built with ⟨index, added, rfl⟩
      rcases addArray_eq_ok.mp added with ⟨payload, held, rfl, rfl⟩
      exact ⟨rfl, payload, held, shape_of_toTensor held, rfl⟩
  | node function name request =>
      rcases Steps.map_eq_ok.mp built with ⟨ref, nodeBuilt, rfl⟩
      exact ⟨ref, rfl, NodeRequest.appends_of_build nodeBuilt⟩

theorem build_allOrNothing : AllOrNothing request.build := by
  intro graph error after fails
  cases request with
  | function => simp [build, createFunction] at fails
  | zeros => exact createFilled_allOrNothing _ _ _ (Steps.map_eq_error.mp fails)
  | array => exact addArray_allOrNothing _ _ _ (Steps.map_eq_error.mp fails)
  | node => exact NodeRequest.build_allOrNothing _ _ _ (Steps.map_eq_error.mp fails)

/--
A request that fails leaves a graph as it was; one that succeeds appends what it asks for, together
with the companions of a node, and changes nothing else.
-/
theorem leaves_or_appends (request : Request) (graph : Graph) :
    match request.build graph with
    | .error _ after => after = graph
    | .ok made after => request.Appends graph made after := by
  cases outcome : request.build graph with
  | error error after => exact build_allOrNothing graph error after outcome
  | ok made after => exact appends_of_build outcome

end Request

end Graph

end NetImport
