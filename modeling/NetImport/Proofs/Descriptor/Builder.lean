import NetImport.Descriptor.Builder
import NetImport.Proofs.Descriptor.Arguments
import NetImport.Proofs.Tensor.Casting
import NetImport.Proofs.Weights

/-!
# Reading what has been built

A message that is put together from the values of its fields is read as an argument, an operator or
a network by looking these values up again. An empty list leaves no trace in the message, and is
read as an empty list all the same. On these grounds a directive that is built from an array gives
the array back when it is carried out, with its numbers rounded to single precision, whatever the
shape of the array is, as long as storage has room for single-precision numbers in that shape and
none of the numbers is an integer too large to be read.
-/

namespace NetImport

open Descriptor

namespace Descriptor

/-! ## Fields -/

/-- The scalars among the values of a field. -/
def FieldValues.scalarList : FieldValues → List Scalar
  | scalars values => values
  | messages _ => []

/-- The messages among the values of a field. -/
def FieldValues.messageList : FieldValues → List Message
  | scalars _ => []
  | messages values => values

@[simp]
theorem scalarList_scalars (values : List Scalar) :
    (FieldValues.scalars values).scalarList = values := by simp [FieldValues.scalarList]

@[simp]
theorem messageList_scalars (values : List Scalar) :
    (FieldValues.scalars values).messageList = [] := by simp [FieldValues.messageList]

@[simp]
theorem scalarList_messages (values : List Message) :
    (FieldValues.messages values).scalarList = [] := by simp [FieldValues.scalarList]

@[simp]
theorem messageList_messages (values : List Message) :
    (FieldValues.messages values).messageList = values := by simp [FieldValues.messageList]

namespace Message

variable {number wanted : Nat} {values : FieldValues} {rest : Message}

@[simp]
theorem scalarsAt_done {bytes : List UInt8} : (done bytes).scalarsAt number = [] := by
  simp [scalarsAt]

@[simp]
theorem messagesAt_done {bytes : List UInt8} : (done bytes).messagesAt number = [] := by
  simp [messagesAt]

@[simp]
theorem scalarsAt_attach_of_ne (other : number ≠ wanted) :
    (attach number values rest).scalarsAt wanted = rest.scalarsAt wanted := by
  cases values with
  | scalars held => cases held with
    | nil => rfl
    | cons first others => simp [attach, scalarsAt, other]
  | messages held => induction held with
    | nil => rfl
    | cons first others hypothesis => exact hypothesis

@[simp]
theorem messagesAt_attach_of_ne (other : number ≠ wanted) :
    (attach number values rest).messagesAt wanted = rest.messagesAt wanted := by
  cases values with
  | scalars held => cases held with
    | nil => rfl
    | cons first others => rfl
  | messages held => induction held with
    | nil => rfl
    | cons first others hypothesis =>
        simpa [attach, messagesAt, other] using hypothesis

/-- Where a field is absent otherwise, its values are those that are put in front. -/
@[simp]
theorem scalarsAt_attach_self (absent : rest.scalarsAt number = []) :
    (attach number values rest).scalarsAt number = values.scalarList := by
  cases values with
  | scalars held => cases held with
    | nil => exact absent
    | cons first others => simp [attach, scalarsAt, FieldValues.scalarList]
  | messages held => induction held with
    | nil => exact absent
    | cons first others hypothesis => exact hypothesis

@[simp]
theorem messagesAt_attach_self (absent : rest.messagesAt number = []) :
    (attach number values rest).messagesAt number = values.messageList := by
  cases values with
  | scalars held => cases held with
    | nil => exact absent
    | cons first others => exact absent
  | messages held => induction held with
    | nil => exact absent
    | cons first others hypothesis =>
        simpa [attach, messagesAt, FieldValues.messageList] using hypothesis

end Message

/-! ## Arguments, operators and networks -/

namespace Builder

open Message

/-- An argument built from a list of integers holds these integers and nothing else. -/
theorem ofMessage_integers (name : String) (values : List Int) :
    Argument.ofMessage (namedArgument name [(6, .scalars (values.map .integer))]) =
      ⟨.text name, none, none, none, [], values, [], none, [], none, []⟩ := by
  simp [Argument.ofMessage, labelAt, namedArgument, ofFields, text, Scalar.label,
    Scalar.integer?, Function.comp_def]

theorem ofMessage_singles (name : String) (values : List Binary32) :
    Argument.ofMessage (namedArgument name [(5, singles values)]) =
      ⟨.text name, none, none, none, values, [], [], none, [], none, []⟩ := by
  simp [Argument.ofMessage, labelAt, namedArgument, ofFields, text, singles, Scalar.label,
    Scalar.single?, Function.comp_def]

theorem labels_texts (names : List String) :
    (texts names).scalarList.map Scalar.label = names.map Label.text := by
  simp [texts, Scalar.label]

theorem label_textUnlessEmpty (name : String) :
    (((textUnlessEmpty name).scalarList.head?).map Scalar.label).getD (.text "") = .text name := by
  by_cases empty : name = ""
  · simp [textUnlessEmpty, empty]
  · simp [textUnlessEmpty, empty, text, Scalar.label]

/-- An operator that has been built is read with the parts that it was built from. -/
theorem ofMessage_operatorOf (type : String) (inputs outputs : List String) (name : String)
    (arguments : List Message) :
    Operator.ofMessage (operatorOf type inputs outputs name arguments) =
      ⟨.text type, .text name, inputs.map .text, outputs.map .text,
        arguments.map Argument.ofMessage, operatorOf type inputs outputs name arguments⟩ := by
  simp [Operator.ofMessage, labelAt, labelsAt, operatorOf, ofFields, labels_texts,
    label_textUnlessEmpty, text, Scalar.label]

theorem ofMessage_network (operators : List Message) (name : String)
    (externalInputs externalOutputs : List String) :
    Network.ofMessage (network operators name externalInputs externalOutputs) =
      ⟨operators.map Operator.ofMessage, externalOutputs.map .text⟩ := by
  simp [Network.ofMessage, labelsAt, network, ofFields, labels_texts]

/-- The directive that lists the numbers of a tensor for some names. -/
def listing (names : List String) (tensor : Tensor) : Message :=
  operatorOf "GivenTensorFill" [] names ""
    [namedArgument "shape" [(6, .scalars (tensor.shape.map .integer))],
      namedArgument "values" [(5, singles tensor.data.toList)]]

theorem listedTensor_of_toTensor {names : List String} {value : Literal} {tensor : Tensor}
    (held : value.toTensor = .ok tensor) :
    listedTensor names value = .ok (listing names tensor) := by
  rw [listedTensor, held]
  rfl

end Builder

end Descriptor

/-! ## Carrying out what has been built -/

namespace Fill

open Descriptor.Builder

/-- A tensor is taken into a store: some names are bound to it, and all others stay as they are. -/
structure Takes (names : List Label) (tensor : Tensor) (store next : TensorStore) : Prop where
  tensors : next.tensors = store.tensors.push tensor
  bound : ∀ name ∈ names, next.handle name = .ok store.tensors.size ∧ next.get name = .ok tensor
  others : ∀ name ∉ names, next.handle name = store.handle name ∧
    ∀ held, store.get name = .ok held → next.get name = .ok held

theorem takes_withTensor (names : List Label) (tensor : Tensor) (store : TensorStore) :
    Takes names tensor store (store.withTensor tensor names) := by
  have extended : store.tensors.toList <+: (store.withTensor tensor names).tensors.toList := by
    simp [TensorStore.withTensor]
  constructor
  · rfl
  · intro name listed
    have handle_eq : (store.withTensor tensor names).handle name = .ok store.tensors.size :=
      TensorStore.handle_withTensor_of_mem listed
    refine ⟨handle_eq, TensorStore.get_eq_ok.mpr ⟨_, handle_eq, ?_⟩⟩
    simp [TensorStore.withTensor]
  · intro name other
    have handle_eq : (store.withTensor tensor names).handle name = store.handle name :=
      TensorStore.handle_withTensor_of_not_mem other
    refine ⟨handle_eq, ?_⟩
    intro held found
    rcases TensorStore.get_eq_ok.mp found with ⟨handle, bound, kept⟩
    exact get_of_prefix extended (handle_eq.trans bound) kept

theorem directive_listing (names : List String) (tensor : Tensor) (filling : Filling) :
    ∃ after, directive (Operator.ofMessage (listing names tensor)) filling = .ok () after ∧
      Takes (names.map .text) tensor filling.store after.store := by
  have read : Operator.ofMessage (listing names tensor) =
      ⟨.text "GivenTensorFill", .text "", [], names.map .text,
        [⟨.text "shape", none, none, none, [], tensor.shape, [], none, [], none, []⟩,
          ⟨.text "values", none, none, none, tensor.data.toList, [], [], none, [], none, []⟩],
        listing names tensor⟩ := by
    simp [listing, ofMessage_operatorOf, ofMessage_integers, ofMessage_singles]
  rw [read, directive_of_listed rfl]
  refine ⟨_, Steps.bind_eq_ok.mpr ⟨(), _, listed_eq_ok.mpr
    ⟨tensor.shape, tensor.data.toList, tensor, ?_, ?_, ?_, rfl⟩, note_eq_ok.mpr rfl⟩,
    takes_withTensor _ _ _⟩
  · simp [Arguments.ints, Arguments.read, Arguments.get?_ofList, Argument.last?,
      Arguments.isSingle]
  · simp [Arguments.floats, Arguments.read, Arguments.get?_ofList, Argument.last?,
      Arguments.isSingle]
  · exact Tensor.ofValues_of_storable tensor.storable tensor.size_data

/--
An array of numbers of any shape can be listed for any names if its numbers can be read and storage
has room for them in single precision. Carrying out the directive then binds all of the names to one
new tensor that has the shape of the array and its numbers in single precision, and leaves other
names alone. There is room for every array that storage holds already, unless its numbers take less
than four bytes, and only integers that are kept as objects can be too large to be read.
-/
theorem network_of_listedTensor {type : ElementType} {isReversed : Bool} {array : NumericArray}
    (numeric : type.isNumeric) (element : array.element = .one ⟨type, isReversed, []⟩)
    (names : List String) :
    (array.reads type → Storable array.extents →
      ∃ message tensor, listedTensor names (.array array) = .ok message ∧
        tensor.extents = array.extents ∧ tensor.data.toList = array.rounded type ∧
        ∀ title inputs outputs filling, ∃ after,
          network (Network.ofMessage (Builder.network [message] title inputs outputs)) filling =
            .ok () after ∧
          Takes (names.map .text) tensor filling.store after.store) ∧
      (array.reads type → ¬Storable array.extents →
        listedTensor names (.array array) = .error .rejectedValue) ∧
      (¬array.reads type →
        listedTensor names (.array array) = .error .numberTooLarge) ∧
      (singleSize ≤ type.size → FitsStorage type.size array.extents → Storable array.extents) ∧
      (type ≠ .object → array.reads type) := by
  have numbers_eq := NumericArray.numbers_of_isNumeric numeric element
  have cast_eq (reads : array.reads type) : array.cast =
      Tensor.ofValues (array.extents.map Int.ofNat) (array.rounded type).toArray := by
    rw [NumericArray.cast, numbers_eq, if_pos reads]
    rfl
  refine ⟨?_, ?_, ?_, ?_, NumericArray.reads_of_ne_object⟩
  · intro reads storable
    let tensor : Tensor :=
      ⟨array.extents, (array.rounded type).toArray, storable, NumericArray.size_rounded⟩
    have held : (Literal.array array).toTensor = .ok tensor :=
      (cast_eq reads).trans (Tensor.ofValues_of_storable storable NumericArray.size_rounded)
    refine ⟨_, tensor, listedTensor_of_toTensor held, rfl, rfl, ?_⟩
    intro title inputs outputs filling
    have ⟨after, carried, takes⟩ := directive_listing names tensor filling
    refine ⟨after, ?_, takes⟩
    rw [ofMessage_network]
    exact carryAll_cons_eq_ok.mpr ⟨after, carried, carryAll_nil_eq_ok.mpr rfl⟩
  · intro reads notStorable
    have refused := (cast_eq reads).trans
      (Tensor.ofValues_of_not_storable notStorable NumericArray.size_rounded)
    rw [listedTensor, Literal.toTensor, refused]
    rfl
  · intro tooLarge
    rw [listedTensor, Literal.toTensor, NumericArray.cast, numbers_eq, if_neg tooLarge]
    rfl
  · intro wide fits
    refine ⟨fits.1, lt_of_le_of_lt ?_ fits.2⟩
    exact Nat.mul_le_mul_left _ (Nat.mul_le_mul_right _ wide)

end Fill

/-! ## Small arrays -/

namespace Sample

/--
The first count lies just above the middle of two single-precision numbers, but the double-precision
number nearest to it is the middle itself.
-/
def counts : NumericArray :=
  ⟨.ofType (.signed 64), [2, 1], #[.whole 9007199791611905, .whole 3], rfl⟩

/-- An array without any cells whose second axis is too long for single-precision numbers. -/
def hollow : NumericArray := ⟨.ofType (.signed 8), [0, 4611686018427387904], #[], rfl⟩

/-- An object that is an integer too large for any number of double precision. -/
def giant : NumericArray := ⟨.ofType .object, [], #[.whole (1 <<< 1024)], rfl⟩

end Sample

namespace Fill

open Descriptor.Builder

theorem network_of_listedTensor_sample :
    ∃ message tensor after, listedTensor ["w", "a", "w"] (.array Sample.counts) = .ok message ∧
      tensor.extents = [2, 1] ∧ tensor.data.toList = [⟨0x5a000001⟩, ⟨0x40400000⟩] ∧
      network (Network.ofMessage (Builder.network [message] "n" [] ["w"])) Sample.filling =
        .ok () after ∧
      Takes ["w", "a", "w"] tensor Sample.filling.store after.store := by
  have ⟨restores, _, _, _, reads⟩ :=
    @network_of_listedTensor (.signed 64) false Sample.counts rfl rfl ["w", "a", "w"]
  rcases restores (reads (by decide)) (by decide) with
    ⟨message, tensor, built, extents_eq, data_eq, carried⟩
  rcases carried "n" [] ["w"] Sample.filling with ⟨after, runs, takes⟩
  exact ⟨message, tensor, after, built, extents_eq, data_eq.trans (by decide +kernel), runs, takes⟩

/--
Storage holds an array that has no room for single-precision numbers in its shape, and an integer
that no single-precision number stands for.
-/
theorem listedTensor_not_always_ok :
    (ElementType.signed 8).isNumeric ∧
      NumericArray.ofValues (.ofType (.signed 8)) Sample.hollow.shape #[] = .ok Sample.hollow ∧
      listedTensor ["w"] (.array Sample.hollow) = .error .rejectedValue ∧
      ElementType.object.isNumeric ∧
      NumericArray.ofValues (.ofType .object) [] Sample.giant.values = .ok Sample.giant ∧
      listedTensor ["w"] (.array Sample.giant) = .error .numberTooLarge := by
  refine ⟨rfl, ?_, ?_, rfl, ?_, ?_⟩
  · rfl
  · rfl
  · rfl
  · rw [listedTensor, Literal.toTensor, NumericArray.cast,
      @NumericArray.numbers_of_isNumeric .object Sample.giant false rfl rfl,
      if_neg (by decide +kernel)]
    rfl

end Fill

end NetImport
