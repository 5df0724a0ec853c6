/-!
# Shapes

A shape lists the extents of a tensor's axes, outermost first. This file defines the arithmetic of
shapes: element counts, the output extent of a sliding window, flattening behind the first axis,
the alignment of a broadcast operand, and the permutation of axes. Extents are unbounded integers,
and an operation that a shape does not support names its fault.
-/

namespace NetImport

/-- The extents of the axes, outermost first. -/
abbrev Shape := List Int

/-- What can be wrong with the shapes and parameters given to shape arithmetic or to a graph. -/
inductive ShapeFault where
  | nonPositiveStride (stride : Int)
  | kernelDoesNotFit (kernel height width pad : Int)
  | flattenScalar
  | invalidPermutation (permutation : List Int) (shape : Shape)
  | unsupportedElement (element : String)
  | copyMismatch (source : Shape) (name : String) (target : Shape)
  | wrongRank (operation : String) (rank : Nat) (shape : Shape)
  | operandsDiffer (operation : String) (left right : Shape)
  | channelsNotDivisible (channels group : Int)
  | depthNotDivisible (depth group : Int)
  | filterMismatch (filter expected : Shape)
  | biasMismatch (bias : Shape) (depth : Int)
  | outputMismatch (output expected : Shape)
  | channelOutOfRange (channel : Int) (shape : Shape)
  | concatWithoutInputs
  | concatOutOfRange (dimension : Int) (shape : Shape)
  | concatInputsDiffer (first other : Shape)
  | cannotBroadcast (operand target : Shape) (axis : Int)
  | cannotReshape (operand target : Shape)
  | weightsMismatch (weights : Shape) (features : Int)
  | weightBiasMismatch (bias : Shape) (depth : Int)
  | shuffleOutOfRange (axis : Int) (shape : Shape)
  | shuffleGroup (group : Int) (shape : Shape)
  | cannotSqueeze (axis : Int) (shape : Shape)
  | inputCount (names tensors : Nat)
  deriving DecidableEq, Repr

namespace Shape

/-- The number of elements: the product of the extents, and one for a scalar. -/
def size (shape : Shape) : Int := shape.foldr (· * ·) 1

@[simp] theorem size_nil : size [] = 1 := rfl

@[simp] theorem size_cons (extent : Int) (rest : Shape) :
    size (extent :: rest) = extent * size rest := rfl

/-- A shape as the type of a tensor of single-precision numbers. -/
def typeText (shape : Shape) : String :=
  "float32<" ++ " x ".intercalate (shape.map toString) ++ ">"

/-- A shape as a bracketed list, the text of one axis ending in a comma. -/
def parenText : Shape → String
  | [extent] => "(" ++ toString extent ++ ",)"
  | extents => "(" ++ ", ".intercalate (extents.map toString) ++ ")"

def bracketText (shape : Shape) : String :=
  "[" ++ ", ".intercalate (shape.map toString) ++ "]"

/-- The number of positions of a window along one padded axis. -/
def windowCount (extent kernel stride pad : Int) : Int :=
  Int.fdiv (extent + 2 * pad - kernel) stride + 1

/-- The spatial extents left by a square window, provided that it fits the padded input. -/
def windowOutput (height width kernel stride pad : Int) : Except ShapeFault (Int × Int) :=
  if stride ≤ 0 then
    .error (.nonPositiveStride stride)
  else if height + 2 * pad < kernel ∨ width + 2 * pad < kernel then
    .error (.kernelDoesNotFit kernel height width pad)
  else
    .ok (windowCount height kernel stride pad, windowCount width kernel stride pad)

/-- The first extent and the element count of all the others. -/
def flattenRest : Shape → Except ShapeFault (Int × Int)
  | [] => .error .flattenScalar
  | extent :: rest => .ok (extent, size rest)

/-- The axis at which a broadcast operand begins; minus one aligns the innermost axes. -/
def broadcastAxis (axis leftRank rightRank : Int) : Int :=
  if axis = -1 then leftRank - rightRank else axis

/-- A list is a permutation of the axes of a rank when it holds every axis exactly once. -/
def IsAxisPermutation (permutation : List Int) (rank : Nat) : Prop :=
  permutation.length = rank ∧ ∀ axis < rank, (axis : Int) ∈ permutation

instance (permutation : List Int) (rank : Nat) : Decidable (IsAxisPermutation permutation rank) :=
  inferInstanceAs (Decidable (_ ∧ _))

/-- The extent of an axis given by number; an axis outside the shape has extent one. -/
def extentAt (shape : Shape) (axis : Int) : Int := shape.getD axis.toNat 1

/--
Reorders the axes: axis number `i` of the result is the axis that the permutation lists `i`-th.
-/
def permute (shape : Shape) (permutation : List Int) : Except ShapeFault Shape :=
  if IsAxisPermutation permutation shape.length then
    .ok (permutation.map shape.extentAt)
  else
    .error (.invalidPermutation permutation shape)

end Shape

namespace ShapeFault

/-- The integers that the message of a fault shows, as far as they may be computed ones. -/
def integers : ShapeFault → List Int
  | nonPositiveStride stride => [stride]
  | kernelDoesNotFit kernel height width pad => [kernel, height, width, pad]
  | flattenScalar | unsupportedElement _ | concatWithoutInputs | inputCount .. => []
  | invalidPermutation left right | copyMismatch left _ right | operandsDiffer _ left right
  | filterMismatch left right | outputMismatch left right | concatInputsDiffer left right
  | cannotReshape left right => left ++ right
  | wrongRank _ _ shape => shape
  | channelsNotDivisible number group | depthNotDivisible number group => [number, group]
  | biasMismatch shape number | channelOutOfRange number shape | concatOutOfRange number shape
  | weightsMismatch shape number | weightBiasMismatch shape number
  | shuffleOutOfRange number shape | shuffleGroup number shape | cannotSqueeze number shape =>
    number :: shape
  | cannotBroadcast operand target axis => axis :: operand ++ target

def message : ShapeFault → String
  | nonPositiveStride stride => s!"Stride must be positive, got {stride}"
  | kernelDoesNotFit kernel height width pad =>
      s!"Kernel {kernel} does not fit input {height}x{width} with padding {pad}"
  | flattenScalar => "Cannot flatten a rank-0 shape"
  | invalidPermutation permutation shape =>
      "Invalid permutation " ++ Shape.parenText permutation ++ " for shape " ++ shape.parenText
  | unsupportedElement element => "Unsupported element type " ++ element
  | copyMismatch source name target =>
      "Cannot copy tensor of shape " ++ source.parenText ++ " into variable " ++ name ++
        " of shape " ++ target.parenText
  | wrongRank operation rank shape =>
      s!"{operation} expects a rank-{rank} input, got " ++ shape.typeText
  | operandsDiffer operation left right =>
      operation ++ " operands differ: " ++ left.typeText ++ " vs " ++ right.typeText
  | channelsNotDivisible channels group =>
      s!"Convolution channels {channels} not divisible by group {group}"
  | depthNotDivisible depth group =>
      s!"Convolution depth {depth} not divisible by group {group}"
  | filterMismatch filter expected =>
      "Convolution filter " ++ filter.typeText ++ " does not match " ++ expected.bracketText
  | biasMismatch bias depth =>
      "Convolution bias " ++ bias.typeText ++ s!" does not match [{depth}]"
  | outputMismatch output expected =>
      "Convolution output " ++ output.parenText ++ " does not match " ++ expected.parenText
  | channelOutOfRange channel shape =>
      s!"Channel axis {channel} out of range for " ++ shape.typeText
  | concatWithoutInputs => "Concat requires at least one input"
  | concatOutOfRange dimension shape =>
      s!"Concat dimension {dimension} out of range for " ++ shape.typeText
  | concatInputsDiffer first other =>
      "Concat inputs differ: " ++ first.typeText ++ " vs " ++ other.typeText
  | cannotBroadcast operand target axis =>
      "Cannot broadcast " ++ operand.typeText ++ " to " ++ target.parenText ++ s!" at axis {axis}"
  | cannotReshape operand target =>
      "Cannot reshape " ++ operand.typeText ++ " to " ++ target.parenText
  | weightsMismatch weights features =>
      "FullyConnected weights " ++ weights.typeText ++ s!" do not match K={features}"
  | weightBiasMismatch bias depth =>
      "FullyConnected bias " ++ bias.typeText ++ s!" does not match [{depth}]"
  | shuffleOutOfRange axis shape =>
      s!"ChannelShuffle axis {axis} out of range for " ++ shape.typeText
  | shuffleGroup group shape =>
      s!"ChannelShuffle group {group} does not divide " ++ shape.typeText
  | cannotSqueeze axis shape => s!"Cannot squeeze axis {axis} of " ++ shape.typeText
  | inputCount names tensors =>
      s!"Invalid initialization list: {names} names for {tensors} tensors"

end ShapeFault

end NetImport
