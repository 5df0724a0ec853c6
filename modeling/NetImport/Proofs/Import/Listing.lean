import NetImport.Proofs.Likeness.Session
import NetImport.Proofs.Lowering.Pooling
import NetImport.Proofs.Weights

/-!
# The order of arguments

Arguments may be listed in any order, and in front of the last argument of a name there may be
others of that name. Tables that are made of such lists can hold their entries in different orders,
but they find the same argument under every name. Rules and directives look at a table through what
it finds only, so that they do the same for both lists, down to the failure that is reported. The
list itself shows in one place: a message about an unsupported operator writes it out.
-/

namespace NetImport

open Descriptor

/-! ## Tables that find the same -/

namespace Descriptor.Arguments

/-- Tables for operators of one type that find the same argument under every name. -/
structure Agrees (arguments other : Arguments) : Prop where
  operatorType : other.operatorType = arguments.operatorType
  found : ∀ name : String, other.table.get? (.text name) = arguments.table.get? (.text name)

theorem agrees_ofList {arguments others : List Argument} (operatorType : String)
    (last : ∀ name, Argument.last? others name = Argument.last? arguments name) :
    (ofList operatorType arguments).Agrees (ofList operatorType others) where
  operatorType := rfl
  found name := by rw [get?_ofList, get?_ofList, last]

section Agrees

variable {arguments other : Arguments} (agrees : arguments.Agrees other)

include agrees

theorem Agrees.contains : other.contains = arguments.contains := by
  funext name
  simp only [Arguments.contains, Registry.contains, agrees.found]

theorem Agrees.read {α : Type} {name : String} {default? : Option α}
    {extract : Argument → Except Error α} :
    other.read name default? extract = arguments.read name default? extract := by
  simp only [Arguments.read, agrees.found, agrees.operatorType]

theorem Agrees.int : other.int = arguments.int := by
  funext name default?
  simp only [Arguments.int, Arguments.expect, agrees.read, agrees.operatorType]

theorem Agrees.float : other.float = arguments.float := by
  funext name default?
  simp only [Arguments.float, Arguments.expect, agrees.read, agrees.operatorType]

theorem Agrees.str : other.str = arguments.str := by
  funext name default?
  simp only [Arguments.str, Arguments.expect, agrees.read, agrees.operatorType]

theorem Agrees.ints : other.ints = arguments.ints := by
  funext name default?
  simp only [Arguments.ints, agrees.read, agrees.operatorType]

theorem Agrees.floats : other.floats = arguments.floats := by
  funext name default?
  simp only [Arguments.floats, agrees.read, agrees.operatorType]

theorem Agrees.channelAxis : other.channelAxis = arguments.channelAxis := by
  simp only [Arguments.channelAxis, agrees.str, agrees.operatorType]

end Agrees

end Descriptor.Arguments

/-! ## Operators that list their arguments differently -/

/-- Operators that differ at most in their lists of arguments, which have the same last ones. -/
structure Descriptor.Operator.Relists (operator other : Operator) : Prop where
  type : other.type = operator.type
  name : other.name = operator.name
  inputs : other.inputs = operator.inputs
  outputs : other.outputs = operator.outputs
  last : ∀ name, Argument.last? other.arguments name = Argument.last? operator.arguments name

theorem Descriptor.Operator.Relists.eq {operator other : Operator}
    (relists : operator.Relists other) :
    other = { operator with arguments := other.arguments, source := other.source } := by
  rw [← relists.type, ← relists.name, ← relists.inputs, ← relists.outputs]

theorem Descriptor.Operator.Relists.title {operator other : Operator}
    (relists : operator.Relists other) : other.title = operator.title := by
  rw [relists.eq]
  rfl

namespace Lower

variable {setting : Setting} {operator other : Operator} {arguments otherArguments : Arguments}

theorem refuseSidePads_of_agrees (agrees : arguments.Agrees otherArguments) :
    refuseSidePads otherArguments = refuseSidePads arguments := by
  simp only [refuseSidePads, agrees.contains, agrees.operatorType]

/-- A rule looks at its arguments through what is found under names. -/
theorem rule_of_agrees (agrees : arguments.Agrees otherArguments) (kind : OperatorKind) :
    rule setting operator otherArguments kind = rule setting operator arguments kind := by
  cases kind with
  | relu | sigmoid | tanh | dropout | sum | softmax | fc => rfl
  | conv =>
      simp only [rule, convolution, agrees.int, refuseSidePads_of_agrees agrees]
  | maxPool | averagePool =>
      simp only [rule, pooling, agrees.int, refuseSidePads_of_agrees agrees]
  | spatialBN =>
      simp only [rule, batchNormalization, agrees.float, agrees.channelAxis]
  | concat => simp only [rule, concatenation, agrees.channelAxis]
  | mul | add => simp only [rule, arithmetic, agrees.int, agrees.operatorType]
  | lrn => simp only [rule, localResponseNormalization, agrees.int, agrees.float]
  | channelShuffle => simp only [rule, channelShuffle, agrees.int]
  | squeeze => simp only [rule, squeeze, agrees.ints]

/-- A rule reads the arguments from its table, and does not look at the operator for them. -/
theorem rule_of_relists (relists : operator.Relists other) (kind : OperatorKind) :
    rule setting other arguments kind = rule setting operator arguments kind := by
  rw [relists.eq]
  cases kind <;> rfl

/-- Operators of a supported type that list their arguments differently are lowered the same way. -/
theorem lowerOperator_of_relists (relists : operator.Relists other)
    (supported : OperatorKind.ofLabel? operator.type ≠ none) :
    lowerOperator setting other = lowerOperator setting operator := by
  unfold lowerOperator
  rw [relists.type]
  cases found : OperatorKind.ofLabel? operator.type with
  | none => exact absurd found supported
  | some kind =>
      have agrees := Arguments.agrees_ofList kind.type relists.last
      simp only [rule_of_relists relists, rule_of_agrees agrees, relists.outputs, relists.title]

/-- An operator of another type is refused in a message that shows it. -/
theorem lowerOperator_of_unsupported {session : Session}
    (unsupported : OperatorKind.ofLabel? operator.type = none) :
    lowerOperator setting operator session =
      .error (.unsupportedOperator operator.type (operator.source.toText .operator))
        { session with
          notices := session.notices ++
            [.unsupportedOperator (operator.source.toText .operator)] } := by
  simp only [lowerOperator, unsupported]
  rfl

end Lower

namespace Fill

open Likeness
open Steps (Alike)

variable {operator other : Operator} {arguments otherArguments : Arguments}

/-- Fillings of one store, whatever has been noted. -/
def SameStore (filling other : Filling) : Prop := other.store = filling.store

theorem listed_of_agrees (relists : operator.Relists other)
    (agrees : arguments.Agrees otherArguments) :
    listed other otherArguments = listed operator arguments := by
  simp only [listed, agrees.ints, agrees.floats, relists.outputs]

theorem constant_of_agrees (relists : operator.Relists other)
    (agrees : arguments.Agrees otherArguments) :
    constant other otherArguments = constant operator arguments := by
  simp only [constant, agrees.ints, relists.outputs]

/-- Directives of a type that has none are refused in messages that show them. -/
theorem directive_of_relists (relists : operator.Relists other) :
    directive other = directive operator ∨
      ∀ filling, ∃ error otherError after otherAfter,
        directive operator filling = .error error after ∧
          directive other filling = .error otherError otherAfter ∧
          SameCategory error otherError ∧ SameStore after otherAfter := by
  have agrees := fun type => Arguments.agrees_ofList type relists.last
  by_cases isListed : operator.type = "GivenTensorFill"
  · left
    rw [directive_of_listed isListed, directive_of_listed (relists.type.trans isListed),
      listed_of_agrees relists (agrees _), relists.outputs]
  by_cases isConstant : operator.type = "ConstantFill"
  · left
    rw [directive_of_constant isConstant, directive_of_constant (relists.type.trans isConstant),
      constant_of_agrees relists (agrees _), relists.outputs]
  · right
    intro filling
    rw [directive_of_unknown isListed isConstant,
      directive_of_unknown (relists.type ▸ isListed) (relists.type ▸ isConstant)]
    exact ⟨_, _, _, _, rfl, rfl, rfl, rfl⟩

/-- Up to the first directive that fails, two runs are the same. -/
theorem carryAll_of_relists {directives others : List Operator}
    (each : List.Forall₂ Operator.Relists directives others) (filling : Filling) :
    Alike SameCategory SameStore Eq (directives.forM directive filling)
      (others.forM directive filling) := by
  induction each generalizing filling with
  | nil => exact .ok rfl rfl
  | @cons operator other _ _ relists _ hypothesis =>
      change Alike _ _ _ (EStateM.bind (directive operator) _ filling)
        (EStateM.bind (directive other) _ filling)
      unfold EStateM.bind
      rcases directive_of_relists relists with same | refused
      · rw [same]
        cases directive operator filling with
        | ok value mid => exact hypothesis mid
        | error error after => exact .error rfl rfl
      · rcases refused filling with ⟨_, _, _, _, fails, alsoFails, category, store⟩
        rw [fails, alsoFails]
        exact .error category store

end Fill

namespace Import

open Lower Fill Likeness
open Steps (Alike)

/--
Two operators that list the same last arguments are lowered to the same node in the same session, or
they fail with the same error and leave the same session. If their type is not supported, both are
refused, in messages that may differ, and leave nothing but a notice. Two descriptors of weights
whose directives list the same last arguments, one by one, fill the same store, or they fail with
errors of the same class and have filled the same store until then.
-/
theorem only_last_arguments_matter :
    (∀ (setting : Setting) (session : Session) (operator other : Operator),
      operator.Relists other →
        (OperatorKind.ofLabel? operator.type ≠ none →
          lowerOperator setting other session = lowerOperator setting operator session) ∧
        (OperatorKind.ofLabel? operator.type = none →
          ∃ error otherError after otherAfter,
            lowerOperator setting operator session = .error error after ∧
              lowerOperator setting other session = .error otherError otherAfter ∧
              SameCategory error otherError ∧
              after = { session with notices := after.notices } ∧
              otherAfter = { session with notices := otherAfter.notices })) ∧
      ∀ (weights others : Network) (filling : Filling),
        List.Forall₂ Operator.Relists weights.operators others.operators →
          Alike SameCategory SameStore Eq (Fill.network weights filling)
            (Fill.network others filling) := by
  constructor
  · intro setting session operator other relists
    constructor
    · intro supported
      rw [lowerOperator_of_relists relists supported]
    · intro unsupported
      have alsoUnsupported : OperatorKind.ofLabel? other.type = none := by
        rw [relists.type, unsupported]
      exact ⟨_, _, _, _, lowerOperator_of_unsupported unsupported,
        lowerOperator_of_unsupported alsoUnsupported, rfl, rfl, rfl⟩
  · intro weights others filling each
    exact carryAll_of_relists each filling

end Import

/-! ## Two lists -/

namespace Sample

def maximum (arguments : List Argument) : Operator :=
  ⟨"MaxPool", "", ["x"], ["y"], arguments, .done []⟩

/-- Of the two strides the last one counts. -/
def windowArguments : List Argument :=
  [integerArgument "stride" 0, integerArgument "kernel" 2, integerArgument "stride" 1]

/-- The same window in another order. -/
def otherArguments : List Argument := [integerArgument "stride" 1, integerArgument "kernel" 2]

/-- The second directive gives no shape. -/
def listedInOrder : Network where
  operators :=
    [given ["w"] [shapeArgument [1], valuesArgument [.one]], given ["v"] [valuesArgument [.one]]]
  externalOutputs := []

/-- A list of numbers stands in front of the one of the same name that counts. -/
def relisted : Network where
  operators :=
    [given ["w"] [valuesArgument [.zero, .zero], valuesArgument [.one], shapeArgument [1]],
      given ["v"] [valuesArgument [.zero], valuesArgument [.one]]]
  externalOutputs := []

theorem relists_maximum : (maximum windowArguments).Relists (maximum otherArguments) := by
  refine ⟨rfl, rfl, rfl, rfl, ?_⟩
  intro name
  by_cases isStride : name = "stride"
  · subst name
    rfl
  · by_cases isKernel : name = "kernel"
    · subst name
      rfl
    · simp [Argument.last?, maximum, windowArguments, otherArguments, integerArgument,
        Ne.symm isStride, Ne.symm isKernel]

theorem relists_weights :
    List.Forall₂ Operator.Relists listedInOrder.operators relisted.operators := by
  refine .cons ⟨rfl, rfl, rfl, rfl, ?_⟩ (.cons ⟨rfl, rfl, rfl, rfl, ?_⟩ .nil)
  · intro name
    by_cases isShape : name = "shape"
    · subst name
      rfl
    · by_cases isValues : name = "values"
      · subst name
        rfl
      · simp [Argument.last?, given, shapeArgument, valuesArgument, Ne.symm isShape,
          Ne.symm isValues]
  · intro name
    by_cases isValues : name = "values"
    · subst name
      rfl
    · simp [Argument.last?, given, valuesArgument, Ne.symm isValues]

end Sample

namespace Import

open Fill

theorem only_last_arguments_matter_sample :
    (∃ ref after, Lower.lowerOperator Sample.setting (Sample.maximum Sample.windowArguments)
          Sample.squareSession = .ok ref after ∧
        Lower.lowerOperator Sample.setting (Sample.maximum Sample.otherArguments)
          Sample.squareSession = .ok ref after) ∧
      ∃ after otherAfter,
        Fill.network Sample.listedInOrder Sample.filling =
            .error (.missingArgument "GivenTensorFill" "shape") after ∧
          Fill.network Sample.relisted Sample.filling =
            .error (.missingArgument "GivenTensorFill" "shape") otherAfter ∧
          SameStore after otherAfter := by
  have ⟨same, _⟩ := only_last_arguments_matter.1 Sample.setting Sample.squareSession _ _
    Sample.relists_maximum
  refine ⟨⟨_, _, rfl, same (by decide)⟩, _, _, rfl, rfl, ?_⟩
  cases only_last_arguments_matter.2 _ _ Sample.filling Sample.relists_weights with
  | error _ store => exact store

end Import

end NetImport
