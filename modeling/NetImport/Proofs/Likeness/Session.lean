import NetImport.Proofs.Likeness.Steps
import NetImport.Proofs.Descriptor.Arguments
import NetImport.Proofs.Graph.Growth
import NetImport.Proofs.Tensor

/-!
# Likeness of sessions

Two sessions are alike up to three things that may differ: names, which are replaced one for one,
the numbers that tensors hold, and the titles that variables and nodes carry. How much each may
differ is a parameter. Graphs that are alike have the same references, shapes and operands, and
stores that are alike know the same names up to their replacement; that is all that lowering looks
at.
-/

namespace NetImport

open Descriptor

universe u v

/-! ## Renaming registries -/

namespace Registry

variable {Name : Type u} {Value : Type v}

/-- The registry with every name replaced. -/
def renamed (registry : Registry Name Value) (rename : Name → Name) : Registry Name Value :=
  ⟨registry.entries.map fun entry => (rename entry.1, entry.2)⟩

variable {registry : Registry Name Value} {rename : Name → Name}

@[simp]
theorem size_renamed : (registry.renamed rename).size = registry.size := by
  simp [renamed, size]

@[simp]
theorem renamed_id : registry.renamed id = registry := by
  simp [renamed]

@[simp]
theorem truncate_renamed (count : Int) :
    (registry.renamed rename).truncate count = (registry.truncate count).renamed rename := by
  simp [truncate, renamed, size, List.map_take]

variable [DecidableEq Name]

theorem get?_renamed (injective : Function.Injective rename) (name : Name) :
    (registry.renamed rename).get? (rename name) = registry.get? name := by
  simp only [get?, renamed]
  induction registry.entries with
  | nil => rfl
  | cons entry rest hypothesis =>
      rcases entry with ⟨key, held⟩
      by_cases here : name = key
      · simp [here]
      · have apart : rename name ≠ rename key := injective.ne here
        simp [List.lookup_cons, beq_false_of_ne here, beq_false_of_ne apart, hypothesis]

theorem contains_renamed (injective : Function.Injective rename) (name : Name) :
    (registry.renamed rename).contains (rename name) = registry.contains name := by
  simp only [contains, get?_renamed injective]

theorem put_map (injective : Function.Injective rename) (name : Name) (value : Value)
    (entries : List (Name × Value)) :
    put (rename name) value (entries.map fun entry => (rename entry.1, entry.2)) =
      (put name value entries).map fun entry => (rename entry.1, entry.2) := by
  induction entries with
  | nil => rfl
  | cons entry rest hypothesis =>
      by_cases here : entry.1 = name
      · simp [put, here]
      · have apart : rename entry.1 ≠ rename name := injective.ne here
        simp [put, here, apart, hypothesis]

theorem bind_renamed (injective : Function.Injective rename) (name : Name) (value : Value) :
    (registry.renamed rename).bind (rename name) value =
      (registry.bind name value).renamed rename :=
  congrArg mk (put_map injective name value registry.entries)

theorem bindAll_renamed (injective : Function.Injective rename) (names : List Name)
    (value : Value) :
    (registry.renamed rename).bindAll (names.map rename) value =
      (registry.bindAll names value).renamed rename := by
  induction names generalizing registry with
  | nil => rfl
  | cons name names hypothesis =>
      simp only [bindAll, List.map_cons, List.foldl_cons] at hypothesis ⊢
      rw [bind_renamed injective, hypothesis]

end Registry

/-! ## Likeness -/

/-- How two runs may differ: in names, in the numbers of tensors, and in titles. -/
structure Likeness where
  /-- The names of the second run. -/
  rename : Label → Label
  injective : Function.Injective rename
  /-- Which numbers may stand for each other. -/
  numbers : Binary32 → Binary32 → Prop
  numbers_refl : ∀ number, numbers number number
  /-- Which titles of variables and nodes may stand for each other. -/
  titles : Label → Label → Prop
  titles_refl : ∀ title, titles title title
  titles_rename : ∀ name, titles name (rename name)
  titles_part : ∀ title other suffix, titles title other →
    titles (title.part suffix) (other.part suffix)

/-- Failures of the same class. -/
def SameCategory (error other : Error) : Prop := other.category = error.category

/-- Two results that are both values or both failures of the same class. -/
inductive AlikeResults {α : Type} (values : α → α → Prop) :
    Except Error α → Except Error α → Prop where
  | ok {value other : α} (alike : values value other) : AlikeResults values (.ok value) (.ok other)
  | error {error other : Error} (same : SameCategory error other) :
      AlikeResults values (.error error) (.error other)

theorem alikeResults_refl {α : Type} {values : α → α → Prop}
    (same : ∀ value, values value value) (outcome : Except Error α) :
    AlikeResults values outcome outcome := by
  cases outcome with
  | ok value => exact .ok (same value)
  | error error => exact .error rfl

namespace AlikeResults

variable {α β : Type} {outcome other : Except Error α}

theorem imp {values weaker : α → α → Prop} (alike : AlikeResults values outcome other)
    (weaken : ∀ value other, values value other → weaker value other) :
    AlikeResults weaker outcome other := by
  cases alike with
  | ok alike => exact .ok (weaken _ _ alike)
  | error same => exact .error same

theorem map (convert : α → β) (alike : AlikeResults Eq outcome other) :
    AlikeResults Eq (outcome.map convert) (other.map convert) := by
  cases alike with
  | ok same => exact .ok (congrArg convert same)
  | error same => exact .error same

theorem bind {values : β → β → Prop} {next otherNext : α → Except Error β}
    (alike : AlikeResults Eq outcome other)
    (rest : ∀ value, AlikeResults values (next value) (otherNext value)) :
    AlikeResults values (outcome >>= next) (other >>= otherNext) := by
  cases alike with
  | ok same => exact same ▸ rest _
  | error same => exact .error same

end AlikeResults

namespace Likeness

/-- Tensors of the same extents with numbers that may stand for each other. -/
structure Tensors (likeness : Likeness) (tensor other : Tensor) : Prop where
  extents : other.extents = tensor.extents
  numbers : ∀ place : Nat,
    likeness.numbers (tensor.data.getD place .zero) (other.data.getD place .zero)

structure Variables (likeness : Likeness) (owned other : Variable) : Prop where
  name : likeness.titles owned.name other.name
  visibility : other.visibility = owned.visibility
  train : other.train = owned.train
  payload : likeness.Tensors owned.payload other.payload

structure Nodes (likeness : Likeness) (node other : Node) : Prop where
  function : other.function = node.function
  name : likeness.titles node.name other.name
  operation : other.operation = node.operation
  operands : other.operands = node.operands
  shape : other.shape = node.shape

structure Graphs (likeness : Likeness) (graph other : Graph) : Prop where
  vars : List.Forall₂ likeness.Variables graph.vars other.vars
  nodes : List.Forall₂ likeness.Nodes graph.nodes other.nodes
  functions : other.functions = graph.functions

/-- Stores of tensors that are alike one by one, with the same handles under the new names. -/
structure Stores (likeness : Likeness) (store other : TensorStore) : Prop where
  tensors : List.Forall₂ likeness.Tensors store.tensors.toList other.tensors.toList
  handles : other.handles = store.handles.renamed likeness.rename

/-- Sessions that are alike, whatever they have noted. -/
structure Sessions (likeness : Likeness) (session other : Session) : Prop where
  graph : likeness.Graphs session.graph other.graph
  names : other.names = session.names.renamed likeness.rename
  tensors : likeness.Stores session.tensors other.tensors

/-- Arguments that differ at most in the numbers that they list. -/
structure Listings (likeness : Likeness) (argument other : Argument) : Prop where
  name : other.name = argument.name
  float? : other.float? = argument.float?
  int? : other.int? = argument.int?
  bytes? : other.bytes? = argument.bytes?
  floats : List.Forall₂ likeness.numbers argument.floats other.floats
  ints : other.ints = argument.ints
  strings : other.strings = argument.strings

/-- Directives with the names of outputs replaced, whatever inputs they have. -/
structure Directives (likeness : Likeness) (directive other : Operator) : Prop where
  type : other.type = directive.type
  outputs : other.outputs = directive.outputs.map likeness.rename
  arguments : List.Forall₂ likeness.Listings directive.arguments other.arguments

/-- Operators with the names of inputs and outputs replaced, whatever messages they come from. -/
structure Operators (likeness : Likeness) (operator other : Operator) : Prop extends
    Directives likeness operator other where
  name : other.name = operator.name
  inputs : other.inputs = operator.inputs.map likeness.rename

structure Networks (likeness : Likeness) (network other : Network) : Prop where
  operators : List.Forall₂ likeness.Operators network.operators other.operators
  externalOutputs : other.externalOutputs = network.externalOutputs.map likeness.rename

structure Settings (likeness : Likeness) (setting other : Setting) : Prop where
  function : other.function = setting.function
  labels : Label.text other.labels = likeness.rename (.text setting.labels)

/-! ## What alike things have in common -/

variable {likeness : Likeness}

theorem tensors_refl (tensor : Tensor) : likeness.Tensors tensor tensor :=
  ⟨rfl, fun _ => likeness.numbers_refl _⟩

theorem listings_refl (argument : Argument) : likeness.Listings argument argument :=
  ⟨rfl, rfl, rfl, rfl, List.forall₂_same.mpr fun _ _ => likeness.numbers_refl _, rfl, rfl⟩

theorem graphs_refl (graph : Graph) : likeness.Graphs graph graph where
  vars := List.forall₂_same.mpr fun _ _ => ⟨likeness.titles_refl _, rfl, rfl, tensors_refl _⟩
  nodes := List.forall₂_same.mpr fun _ _ => ⟨rfl, likeness.titles_refl _, rfl, rfl, rfl⟩
  functions := rfl

section Tensors

variable {tensor other : Tensor}

theorem Tensors.shape (alike : likeness.Tensors tensor other) : other.shape = tensor.shape := by
  rw [Tensor.shape, alike.extents, Tensor.shape]

theorem Tensors.get (alike : likeness.Tensors tensor other) (index : List Nat) :
    likeness.numbers (tensor.get index) (other.get index) := by
  rw [Tensor.get, Tensor.get, alike.extents]
  exact alike.numbers _

theorem alike_ofCells {extents : List Nat} {cell otherCell : List Nat → Binary32}
    (cells : ∀ index, likeness.numbers (cell index) (otherCell index)) :
    AlikeResults likeness.Tensors (Tensor.ofCells extents cell)
      (Tensor.ofCells extents otherCell) := by
  unfold Tensor.ofCells
  split
  · refine .ok ⟨rfl, ?_⟩
    intro place
    by_cases inside : place < cellCount extents
    · simpa [Array.getD, inside] using cells _
    · simpa [Array.getD, inside] using likeness.numbers_refl _
  · exact .error rfl

/-- Transposing looks at extents only. -/
theorem Tensors.transpose (alike : likeness.Tensors tensor other) (permutation : List Int) :
    AlikeResults likeness.Tensors (tensor.transpose permutation) (other.transpose permutation) := by
  simp only [Tensor.transpose, Tensor.permuteAxes, alike.extents]
  split
  · exact .error rfl
  · split
    · exact alike_ofCells fun _ => alike.get _
    · cases Tensor.resolveAxes tensor.extents.length permutation [] with
      | error error => exact .error rfl
      | ok axes => exact alike_ofCells fun index => alike.get _

/-- Listed numbers are only counted. -/
theorem alike_ofValues {values others : List Binary32} (shape : Shape)
    (alike : List.Forall₂ likeness.numbers values others) :
    AlikeResults likeness.Tensors (Tensor.ofValues shape values.toArray)
      (Tensor.ofValues shape others.toArray) := by
  have length : others.toArray.size = values.toArray.size := by
    simpa using alike.length_eq.symm
  unfold Tensor.ofValues
  by_cases count : (values.toArray.size : Int) = shape.size
  · rw [dif_pos count, dif_pos (length ▸ count)]
    cases Tensor.allocate shape with
    | error error => exact .error rfl
    | ok extents =>
        refine .ok ⟨rfl, ?_⟩
        intro place
        simp only [Array.getD_eq_getD_getElem?, List.getElem?_toArray]
        rcases forall₂_getElem? alike place with
          ⟨absent, alsoAbsent⟩ | ⟨number, other, found, alsoFound, numbers⟩
        · rw [absent, alsoAbsent]
          exact likeness.numbers_refl _
        · rw [found, alsoFound]
          exact numbers
  · rw [dif_neg count, dif_neg (length ▸ count)]
    split
    · exact .error rfl
    · exact .error rfl

end Tensors

section Graphs

variable {graph other : Graph}

theorem Graphs.length_vars (alike : likeness.Graphs graph other) :
    other.vars.length = graph.vars.length :=
  alike.vars.length_eq.symm

theorem Graphs.length_nodes (alike : likeness.Graphs graph other) :
    other.nodes.length = graph.nodes.length :=
  alike.nodes.length_eq.symm

theorem Graphs.shapeOf (alike : likeness.Graphs graph other) : other.shapeOf = graph.shapeOf := by
  funext ref
  cases ref with
  | var index =>
      simp only [Graph.shapeOf]
      rcases forall₂_getElem? alike.vars index with
        ⟨absent, alsoAbsent⟩ | ⟨owned, otherOwned, found, alsoFound, alikeVars⟩
      · rw [absent, alsoAbsent]
      · rw [found, alsoFound]
        exact alikeVars.payload.shape
  | node index =>
      simp only [Graph.shapeOf]
      rcases forall₂_getElem? alike.nodes index with
        ⟨absent, alsoAbsent⟩ | ⟨node, otherNode, found, alsoFound, alikeNodes⟩
      · rw [absent, alsoAbsent]
      · rw [found, alsoFound]
        exact alikeNodes.shape

theorem Graphs.operandsOf (alike : likeness.Graphs graph other) (ref : Ref) :
    other.operandsOf ref = graph.operandsOf ref := by
  cases ref with
  | var index => rfl
  | node index =>
      simp only [Graph.operandsOf]
      rcases forall₂_getElem? alike.nodes index with
        ⟨absent, alsoAbsent⟩ | ⟨node, otherNode, found, alsoFound, alikeNodes⟩
      · rw [absent, alsoAbsent]
      · rw [found, alsoFound]
        exact alikeNodes.operands

theorem Graphs.withVar {owned otherOwned : Variable} (alike : likeness.Graphs graph other)
    (added : likeness.Variables owned otherOwned) :
    likeness.Graphs (graph.withVar owned) (other.withVar otherOwned) where
  vars := List.rel_append alike.vars (.cons added .nil)
  nodes := alike.nodes
  functions := alike.functions

theorem Graphs.withNode {node otherNode : Node} (alike : likeness.Graphs graph other)
    (added : likeness.Nodes node otherNode) :
    likeness.Graphs (graph.withNode node) (other.withNode otherNode) where
  vars := alike.vars
  nodes := List.rel_append alike.nodes (.cons added .nil)
  functions := alike.functions

end Graphs

section Stores

variable {store other : TensorStore} {tensor otherTensor : Tensor} {name : Label}

theorem Stores.size (alike : likeness.Stores store other) :
    other.tensors.size = store.tensors.size := by
  simpa using alike.tensors.length_eq.symm

theorem Stores.contains (alike : likeness.Stores store other) (name : Label) :
    other.contains (likeness.rename name) = store.contains name := by
  rw [TensorStore.contains, alike.handles, Registry.contains_renamed likeness.injective]
  rfl

theorem Stores.get (alike : likeness.Stores store other) (name : Label) :
    AlikeResults likeness.Tensors (store.get name) (other.get (likeness.rename name)) := by
  unfold TensorStore.get TensorStore.handle
  rw [alike.handles, Registry.get?_renamed likeness.injective]
  cases store.handles.get? name with
  | none => exact .error rfl
  | some handle =>
      simp only [bind, Except.bind]
      rcases forall₂_getElem? alike.tensors handle with
        ⟨absent, alsoAbsent⟩ | ⟨tensor, otherTensor, found, alsoFound, tensors⟩
      · rw [Array.getElem?_toList] at absent alsoAbsent
        rw [absent, alsoAbsent]
        exact .error rfl
      · rw [Array.getElem?_toList] at found alsoFound
        rw [found, alsoFound]
        exact .ok tensors

theorem Stores.add (alike : likeness.Stores store other)
    (tensors : likeness.Tensors tensor otherTensor) :
    (other.add otherTensor).2 = (store.add tensor).2 ∧
      likeness.Stores (store.add tensor).1 (other.add otherTensor).1 := by
  refine ⟨alike.size, ?_, alike.handles⟩
  simp only [TensorStore.add, Array.toList_push]
  exact List.rel_append alike.tensors (.cons tensors .nil)

theorem Stores.register (alike : likeness.Stores store other)
    (tensors : likeness.Tensors tensor otherTensor) (name : Label) :
    likeness.Stores (store.register name tensor).1
      (other.register (likeness.rename name) otherTensor).1 := by
  have ⟨handle, added⟩ := alike.add tensors
  refine ⟨added.tensors, ?_⟩
  simp only [TensorStore.register, handle, added.handles]
  exact Registry.bind_renamed likeness.injective name _

theorem Stores.bind (alike : likeness.Stores store other) (name : Label) (handle : Int) :
    AlikeResults likeness.Stores (store.bind name handle)
      (other.bind (likeness.rename name) handle) := by
  unfold TensorStore.bind
  rw [alike.size]
  split
  · refine .ok ⟨alike.tensors, ?_⟩
    rw [alike.handles, Registry.bind_renamed likeness.injective]
  · exact .error rfl

end Stores

/-! ## Reading arguments -/

/-- Tables of arguments that find arguments that are alike under every name. -/
structure Tables (likeness : Likeness) (arguments other : Arguments) : Prop where
  operatorType : other.operatorType = arguments.operatorType
  get? : ∀ name : String,
    Option.Rel likeness.Listings (arguments.table.get? (.text name))
      (other.table.get? (.text name))

theorem tables_ofList {arguments others : List Argument} (operatorType : String)
    (alike : List.Forall₂ likeness.Listings arguments others) :
    likeness.Tables (Arguments.ofList operatorType arguments)
      (Arguments.ofList operatorType others) := by
  refine ⟨rfl, ?_⟩
  intro name
  rw [Arguments.get?_ofList, Arguments.get?_ofList, Argument.last?, Argument.last?,
    List.getLast?_eq_getElem?, List.getLast?_eq_getElem?]
  have listed : List.Forall₂ likeness.Listings
      (arguments.filter fun argument => argument.name = .text name)
      (others.filter fun argument => argument.name = .text name) := by
    refine List.rel_filter ?_ alike
    intro argument other listings
    simp [listings.name]
  rw [listed.length_eq]
  rcases forall₂_getElem? listed _ with
    ⟨absent, alsoAbsent⟩ | ⟨argument, other, found, alsoFound, listings⟩
  · rw [absent, alsoAbsent]
    exact .none
  · rw [found, alsoFound]
    exact .some listings

section Tables

variable {α : Type} {values : α → α → Prop} {arguments other : Arguments}

theorem Tables.contains (tables : likeness.Tables arguments other) (name : String) :
    other.contains name = arguments.contains name := by
  have found := tables.get? name
  unfold Arguments.contains Registry.contains
  generalize arguments.table.get? _ = one, other.table.get? _ = two at found ⊢
  cases found with
  | none => rfl
  | some _ => rfl

theorem Tables.read {extract otherExtract : Argument → Except Error α}
    (tables : likeness.Tables arguments other) (name : String) (default? : Option α)
    (fallback : ∀ value, values value value)
    (reads : ∀ argument otherArgument, likeness.Listings argument otherArgument →
      AlikeResults values (extract argument) (otherExtract otherArgument)) :
    AlikeResults values (arguments.read name default? extract)
      (other.read name default? otherExtract) := by
  have found := tables.get? name
  unfold Arguments.read
  generalize arguments.table.get? _ = one, other.table.get? _ = two at found ⊢
  cases found with
  | none => cases default? with
    | none => exact .error rfl
    | some value => exact .ok (fallback value)
  | some listings => exact reads _ _ listings

theorem alike_expect {found? : Option α} (name : String) (variant : Variant) :
    AlikeResults Eq (arguments.expect name variant found?)
      (other.expect name variant found?) := by
  cases found? with
  | none => exact .error rfl
  | some value => exact .ok rfl

theorem Listings.isSingle {argument otherArgument : Argument}
    (listings : likeness.Listings argument otherArgument) :
    Arguments.isSingle otherArgument = Arguments.isSingle argument := by
  simp only [Arguments.isSingle, listings.int?, listings.float?, listings.bytes?]

theorem Listings.floats_eq_nil {argument otherArgument : Argument}
    (listings : likeness.Listings argument otherArgument) :
    otherArgument.floats = [] ↔ argument.floats = [] := by
  rw [← List.length_eq_zero_iff, ← List.length_eq_zero_iff, listings.floats.length_eq]

variable (tables : likeness.Tables arguments other) (name : String)

include tables

theorem Tables.int (default? : Option Int) :
    AlikeResults Eq (arguments.int name default?) (other.int name default?) :=
  tables.read name default? (fun _ => rfl) fun argument otherArgument listings => by
    rw [listings.int?]
    exact alike_expect name .int

theorem Tables.float (default? : Option Binary64) :
    AlikeResults Eq (arguments.float name default?) (other.float name default?) :=
  tables.read name default? (fun _ => rfl) fun argument otherArgument listings => by
    rw [listings.float?]
    exact (alike_expect name .float).map _

theorem Tables.str (default? : Option String) :
    AlikeResults Eq (arguments.str name default?) (other.str name default?) :=
  tables.read name default? (fun _ => rfl) fun argument otherArgument listings => by
    rw [listings.bytes?]
    cases argument.bytes? with
    | none => exact .error rfl
    | some bytes => exact alikeResults_refl Eq.refl _

theorem Tables.ints (default? : Option (List Int)) :
    AlikeResults Eq (arguments.ints name default?) (other.ints name default?) :=
  tables.read name default? (fun _ => rfl) fun argument otherArgument listings => by
    simp only [ne_eq, listings.floats_eq_nil, listings.strings, listings.isSingle, listings.ints]
    split
    · exact .error rfl
    · exact .ok rfl

/-- The numbers that an argument lists are as many, but need not be the same. -/
theorem Tables.floats :
    AlikeResults (List.Forall₂ likeness.numbers) (arguments.floats name none)
      (other.floats name none) :=
  tables.read name none (fun values => List.forall₂_same.mpr fun _ _ => likeness.numbers_refl _)
    fun argument otherArgument listings => by
      simp only [listings.ints, listings.strings, listings.isSingle]
      split
      · exact .error rfl
      · exact .ok listings.floats

omit name

theorem Tables.channelAxis : AlikeResults Eq arguments.channelAxis other.channelAxis := by
  refine (tables.str "order" (some Arguments.defaultOrder)).bind ?_
  intro order
  by_cases first : order = "NCHW"
  · simp only [first, if_true]
    exact .ok rfl
  · by_cases last : order = "NHWC"
    · simp only [last, if_true, String.reduceEq, if_false]
      exact .ok rfl
    · simp only [first, last, if_false]
      exact .error rfl

end Tables

section Operators

variable {operator other : Operator}

theorem Operators.title (alike : likeness.Operators operator other) :
    likeness.titles operator.title other.title := by
  simp only [Operator.title, alike.name, alike.type, alike.outputs]
  split
  · cases operator.outputs with
    | nil => exact likeness.titles_refl _
    | cons output outputs => exact likeness.titles_rename output
  · exact likeness.titles_refl _

theorem Operators.input (alike : likeness.Operators operator other) (slot : Nat) :
    AlikeResults (fun name otherName => otherName = likeness.rename name) (operator.input slot)
      (other.input slot) := by
  simp only [Operator.input, alike.inputs, List.getElem?_map]
  cases operator.inputs[slot]? with
  | none => exact .error rfl
  | some name => exact .ok rfl

end Operators

end Likeness

end NetImport
