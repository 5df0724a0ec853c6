import NetImport.Proofs.Tensor
import NetImport.Weights

/-!
# What filling leaves in a store

A run of directives either carries all of them out or stops at the first one that fails, which
changes no store. What a name is bound to afterwards depends on three things only: the last
directive that lists values for the name, what the name was bound to at the start, and the first
directive that provides zeros for it. The proof follows the run from its first directive on; a
store in the middle of the run is the start of what is left of it.
-/

namespace NetImport

open Descriptor

namespace TensorStore

/-- Takes a tensor into a store and binds names to it. -/
def withTensor (store : TensorStore) (tensor : Tensor) (names : List Label) : TensorStore :=
  ⟨store.tensors.push tensor, store.handles.bindAll names store.tensors.size⟩

variable {store : TensorStore} {tensor : Tensor} {name : Label} {names : List Label}

theorem handle_withTensor_of_mem (listed : name ∈ names) :
    (store.withTensor tensor names).handle name = .ok store.tensors.size := by
  simp [withTensor, handle, listed]

theorem handle_withTensor_of_not_mem (other : name ∉ names) :
    (store.withTensor tensor names).handle name = store.handle name := by
  simp [withTensor, handle, other]

end TensorStore

namespace Fill

variable {α : Type} {filling after : Filling} {error : Error} {operator : Operator}
  {arguments : Arguments} {tensor : Tensor} {name : Label}

/-! ## Outcomes of directives -/

@[simp]
theorem ofResult_eq_ok {outcome : Except Error α} {value : α} :
    ofResult outcome filling = .ok value after ↔ outcome = .ok value ∧ after = filling := by
  cases outcome with
  | ok held => simp [ofResult, eq_comm]
  | error raised => simp [ofResult]

@[simp]
theorem ofResult_eq_error {outcome : Except Error α} :
    ofResult outcome filling = .error error after ↔ outcome = .error error ∧ after = filling := by
  cases outcome with
  | ok held => simp [ofResult]
  | error raised => simp [ofResult, eq_comm]

@[simp]
theorem note_eq_ok {notice : Notice} {value : Unit} :
    note notice filling = .ok value after ↔
      after = { filling with notices := filling.notices ++ [notice] } := by
  simp [note]

@[simp]
theorem note_ne_error {notice : Notice} : note notice filling ≠ .error error after := by
  simp [note]

/-- Names can always be bound to a handle that has been given out. -/
theorem bindAll_eq {handle : Nat} {names : List Label}
    (given : handle < filling.store.tensors.size) :
    bindAll handle names filling =
      .ok () { filling with
        store := ⟨filling.store.tensors, filling.store.handles.bindAll names handle⟩ } := by
  induction names generalizing filling with
  | nil => rfl
  | cons name names hypothesis =>
      let bound : TensorStore := ⟨filling.store.tensors, filling.store.handles.bind name handle⟩
      have valid : filling.store.bind name handle = .ok bound := by
        simp [TensorStore.bind, given, bound]
      have first : bindAll handle (name :: names) filling =
          bindAll handle names { filling with store := bound } := by
        simp only [bindAll, List.forM_eq_forM, List.forM_cons, bind_assoc, Steps.get_bind, valid]
        rfl
      exact first.trans (hypothesis given)

theorem listed_eq_ok {value : Unit} :
    listed operator arguments filling = .ok value after ↔
      ∃ shape values tensor, arguments.ints "shape" none = .ok shape ∧
        arguments.floats "values" none = .ok values ∧
        Tensor.ofValues shape values.toArray = .ok tensor ∧
        after = { filling with store := filling.store.withTensor tensor operator.outputs } := by
  have bound : ∀ tensor, bindAll filling.store.tensors.size operator.outputs
      { filling with store := (filling.store.add tensor).1 } =
        .ok () { filling with store := filling.store.withTensor tensor operator.outputs } := by
    intro tensor
    rw [bindAll_eq (by simp [TensorStore.add])]
    rfl
  simp only [listed, Steps.bind_eq_ok, ofResult_eq_ok, Steps.modifyGet_eq_ok]
  constructor
  · rintro ⟨shape, _, ⟨shape_eq, rfl⟩, values, _, ⟨values_eq, rfl⟩, tensor, _, ⟨built, rfl⟩,
      handle, _, ⟨rfl, rfl⟩, rest⟩
    rcases (bound tensor).symm.trans rest with ⟨⟩
    exact ⟨shape, values, tensor, shape_eq, values_eq, built, rfl⟩
  · rintro ⟨shape, values, tensor, shape_eq, values_eq, built, rfl⟩
    exact ⟨shape, _, ⟨shape_eq, rfl⟩, values, _, ⟨values_eq, rfl⟩, tensor, _, ⟨built, rfl⟩,
      _, _, ⟨rfl, rfl⟩, bound tensor⟩

theorem listed_restores (fails : listed operator arguments filling = .error error after) :
    after = filling := by
  simp only [listed, Steps.bind_eq_error, ofResult_eq_error, ofResult_eq_ok,
    Steps.modifyGet_ne_error, Steps.modifyGet_eq_ok, false_or] at fails
  rcases fails with ⟨_, rfl⟩ | ⟨_, _, ⟨_, rfl⟩, rest⟩
  · rfl
  rcases rest with ⟨_, rfl⟩ | ⟨_, _, ⟨_, rfl⟩, rest⟩
  · rfl
  rcases rest with ⟨_, rfl⟩ | ⟨tensor, _, ⟨_, rfl⟩, handle, _, ⟨rfl, rfl⟩, bindFails⟩
  · rfl
  -- the handle has just been given out, so that binding names to it cannot fail
  rw [bindAll_eq (by simp [TensorStore.add])] at bindFails
  cases bindFails

theorem constant_eq_ok {value : Unit} :
    constant operator arguments filling = .ok value after ↔
      ∃ name others, operator.outputs = name :: others ∧
        ((filling.store.contains name ∧
            after = { filling with notices := filling.notices ++ [.tensorKept name] }) ∨
          (filling.store.contains name = false ∧ ∃ shape zeros,
            arguments.ints "shape" none = .ok shape ∧ Tensor.zeros shape = .ok zeros ∧
            after = { filling with store := filling.store.withTensor zeros [name] })) := by
  unfold constant
  cases operator.outputs with
  | nil => simp
  | cons name others =>
      cases held : filling.store.contains name with
      | true => simp [held]
      | false => simp [held, and_assoc, TensorStore.withTensor, TensorStore.register,
          TensorStore.add, Registry.bindAll]

theorem constant_restores (fails : constant operator arguments filling = .error error after) :
    after = filling := by
  unfold constant at fails
  cases outputs : operator.outputs with
  | nil =>
      rw [outputs] at fails
      exact (Steps.throw_eq_error.mp fails).2
  | cons name others =>
      rw [outputs] at fails
      cases held : filling.store.contains name with
      | true => simp [held] at fails
      | false =>
          simp only [Steps.get_bind, held, Bool.false_eq_true, if_false, Steps.bind_eq_error,
            ofResult_eq_error, ofResult_eq_ok, Steps.modify_ne_error, and_false, exists_false,
            or_false] at fails
          rcases fails with ⟨_, rfl⟩ | ⟨_, _, ⟨_, rfl⟩, _, rfl⟩
          · rfl
          · rfl

/-! ## What a directive does to a store -/

/-- A directive lists values for a name when it binds the name to a tensor of listed values. -/
def ListsFor (directive : Operator) (name : Label) : Prop :=
  directive.type = "GivenTensorFill" ∧ name ∈ directive.outputs

/-- A directive provides zeros for its first output. -/
def ProvidesFor (directive : Operator) (name : Label) : Prop :=
  directive.type = "ConstantFill" ∧ directive.outputs.head? = some name

/-- A tensor has the shape and the values that a directive lists, in row-major order. -/
def Lists (directive : Operator) (tensor : Tensor) : Prop :=
  let arguments := Arguments.ofList "GivenTensorFill" directive.arguments
  arguments.ints "shape" none = .ok tensor.shape ∧
    arguments.floats "values" none = .ok tensor.data.toList

/-- A tensor has the shape that a directive gives, and holds nothing but zeros. -/
def Provides (directive : Operator) (tensor : Tensor) : Prop :=
  (Arguments.ofList "ConstantFill" directive.arguments).ints "shape" none = .ok tensor.shape ∧
    ∀ number ∈ tensor.data, number = .zero

/-- What a directive that is carried out makes of a store. -/
inductive Carries (directive : Operator) (store : TensorStore) : TensorStore → Prop where
  | listed {tensor : Tensor} (type_eq : directive.type = "GivenTensorFill")
      (lists : Lists directive tensor) :
      Carries directive store (store.withTensor tensor directive.outputs)
  | kept {name : Label} (provides : ProvidesFor directive name) (bound : store.contains name) :
      Carries directive store store
  | provided {name : Label} {tensor : Tensor} (provides : ProvidesFor directive name)
      (unbound : store.contains name = false) (zeros : Provides directive tensor) :
      Carries directive store (store.withTensor tensor [name])

theorem directive_of_listed (type_eq : operator.type = "GivenTensorFill") :
    directive operator =
      (listed operator (Arguments.ofList "GivenTensorFill" operator.arguments) >>= fun _ =>
        note (.materialized "GivenTensorFill" operator.outputs)) := by
  simp [directive, directives, type_eq]

theorem directive_of_constant (type_eq : operator.type = "ConstantFill") :
    directive operator =
      (constant operator (Arguments.ofList "ConstantFill" operator.arguments) >>= fun _ =>
        note (.materialized "ConstantFill" operator.outputs)) := by
  simp [directive, directives, type_eq]

theorem directive_of_unknown (notListed : operator.type ≠ "GivenTensorFill")
    (notConstant : operator.type ≠ "ConstantFill") :
    directive operator =
      (note (.unsupportedDirective (operator.source.toText .operator)) >>= fun _ =>
        throw (.unsupportedDirective operator.type (operator.source.toText .operator))) := by
  simp [directive, directives, notListed, notConstant]

theorem directive_carries {value : Unit} (runs : directive operator filling = .ok value after) :
    Carries operator filling.store after.store := by
  by_cases isListed : operator.type = "GivenTensorFill"
  · rw [directive_of_listed isListed] at runs
    rcases Steps.bind_eq_ok.mp runs with ⟨_, mid, filled, noted⟩
    rcases listed_eq_ok.mp filled with ⟨shape, values, tensor, shape_eq, values_eq, built, rfl⟩
    rcases note_eq_ok.mp noted with rfl
    rcases Tensor.shape_and_data_of_ofValues built with ⟨rfl, rfl⟩
    exact .listed isListed ⟨shape_eq, values_eq⟩
  by_cases isConstant : operator.type = "ConstantFill"
  · rw [directive_of_constant isConstant] at runs
    rcases Steps.bind_eq_ok.mp runs with ⟨_, mid, filled, noted⟩
    rcases note_eq_ok.mp noted with rfl
    rcases constant_eq_ok.mp filled with
      ⟨name, others, outputs, ⟨bound, rfl⟩ | ⟨unbound, shape, zeros, shape_eq, built, rfl⟩⟩
    · exact .kept ⟨isConstant, by simp [outputs]⟩ bound
    · rcases Tensor.shape_and_data_of_filled built with ⟨rfl, allZero⟩
      exact .provided ⟨isConstant, by simp [outputs]⟩ unbound ⟨shape_eq, allZero⟩
  · rw [directive_of_unknown isListed isConstant] at runs
    simp at runs

/-- A directive that fails leaves the store as it was. -/
theorem directive_restores (fails : directive operator filling = .error error after) :
    after.store = filling.store := by
  by_cases isListed : operator.type = "GivenTensorFill"
  · rw [directive_of_listed isListed] at fails
    rcases Steps.bind_eq_error.mp fails with listedFails | ⟨_, _, _, noteFails⟩
    · rw [listed_restores listedFails]
    · exact absurd noteFails note_ne_error
  by_cases isConstant : operator.type = "ConstantFill"
  · rw [directive_of_constant isConstant] at fails
    rcases Steps.bind_eq_error.mp fails with constantFails | ⟨_, _, _, noteFails⟩
    · rw [constant_restores constantFails]
    · exact absurd noteFails note_ne_error
  · rw [directive_of_unknown isListed isConstant] at fails
    rcases Steps.bind_eq_error.mp fails with noteFails | ⟨_, mid, noted, thrown⟩
    · exact absurd noteFails note_ne_error
    · rcases note_eq_ok.mp noted with rfl
      rw [(Steps.throw_eq_error.mp thrown).2]

/-! ## What a run does to a store -/

section Stores

variable {store next start final : TensorStore} {directive : Operator} {done : List Operator}

/--
What a run of directives makes of a store. Tensors are only ever added; the handle of a name comes
from the last directive that lists values for it, and all names of one such directive share the
handle; without one, a name keeps what it was bound to, or else gets the zeros of the first
directive that provides some.
-/
structure Materializes (start : TensorStore) (done : List Operator) (final : TensorStore) :
    Prop where
  extended : start.tensors.toList <+: final.tensors.toList
  listed : ∃ handleOf : Nat → Nat, ∀ name earlier directive later,
    done = earlier ++ directive :: later → ListsFor directive name →
      (∀ other ∈ later, ¬ListsFor other name) →
        final.handle name = .ok (handleOf earlier.length) ∧
          ∃ tensor, final.get name = .ok tensor ∧ Lists directive tensor
  kept : ∀ name handle, (∀ other ∈ done, ¬ListsFor other name) →
    start.handle name = .ok handle → final.handle name = .ok handle ∧
      ∀ tensor, start.get name = .ok tensor → final.get name = .ok tensor
  provided : ∀ name earlier directive later, done = earlier ++ directive :: later →
    (∀ other ∈ done, ¬ListsFor other name) → start.contains name = false →
      ProvidesFor directive name → (∀ other ∈ earlier, ¬ProvidesFor other name) →
        ∃ tensor, final.get name = .ok tensor ∧ Provides directive tensor
  unbound : ∀ name, (∀ other ∈ done, ¬ListsFor other name) → start.contains name = false →
    (∀ other ∈ done, ¬ProvidesFor other name) → final.contains name = false

/-- The tensor of a handle stays while tensors are added. -/
theorem get_of_prefix {handle : Nat}
    (extended : store.tensors.toList <+: final.tensors.toList)
    (bound : final.handle name = .ok handle) (found : store.tensors[handle]? = some tensor) :
    final.get name = .ok tensor := by
  rw [TensorStore.get_eq_ok]
  refine ⟨handle, bound, ?_⟩
  rw [← Array.getElem?_toList, List.getElem?_eq_some_iff] at found
  rcases found with ⟨inside, rfl⟩
  rw [← Array.getElem?_toList]
  exact List.prefix_iff_getElem?.mp extended handle inside

theorem not_listsFor_of_providesFor {other : Label} (provides : ProvidesFor directive other) :
    ¬ListsFor directive name := by
  rintro ⟨type_eq, _⟩
  rw [provides.1] at type_eq
  exact absurd type_eq (by decide)

theorem Carries.extended (carries : Carries directive store next) :
    store.tensors.toList <+: next.tensors.toList := by
  cases carries with
  | listed _ _ => simp [TensorStore.withTensor]
  | kept _ _ => exact List.prefix_refl _
  | provided _ _ _ => simp [TensorStore.withTensor]

theorem Carries.lists_last (carries : Carries directive store next)
    (lists : ListsFor directive name) :
    next.handle name = .ok store.tensors.size ∧
      ∃ tensor, next.tensors[store.tensors.size]? = some tensor ∧ Lists directive tensor := by
  cases carries with
  | @listed tensor _ described =>
      exact ⟨TensorStore.handle_withTensor_of_mem lists.2, tensor, by simp [TensorStore.withTensor],
        described⟩
  | kept provides _ => exact absurd lists (not_listsFor_of_providesFor provides)
  | provided provides _ _ => exact absurd lists (not_listsFor_of_providesFor provides)

/-- A directive that does not list values for a bound name leaves it alone. -/
theorem Carries.handle_kept {handle : Nat} (carries : Carries directive store next)
    (notListed : ¬ListsFor directive name) (bound : store.handle name = .ok handle) :
    next.handle name = .ok handle := by
  cases carries with
  | listed type_eq _ =>
      have other : name ∉ directive.outputs := fun member => notListed ⟨type_eq, member⟩
      rw [TensorStore.handle_withTensor_of_not_mem other, bound]
  | kept _ _ => exact bound
  | @provided first _ _ unbound _ =>
      have other : name ∉ [first] := by
        rintro member
        rcases List.mem_singleton.mp member with rfl
        exact TensorStore.contains_eq_false_iff.mp unbound handle bound
      rw [TensorStore.handle_withTensor_of_not_mem other, bound]

theorem Carries.provides_first (carries : Carries directive store next)
    (provides : ProvidesFor directive name) (unbound : store.contains name = false) :
    ∃ handle tensor, next.handle name = .ok handle ∧ next.tensors[handle]? = some tensor ∧
      Provides directive tensor := by
  cases carries with
  | listed type_eq _ =>
      rw [provides.1] at type_eq
      exact absurd type_eq (by decide)
  | kept others bound =>
      rcases Option.some.inj (others.2.symm.trans provides.2) with rfl
      simp [bound] at unbound
  | @provided _ tensor others _ zeros =>
      rcases Option.some.inj (others.2.symm.trans provides.2) with rfl
      refine ⟨store.tensors.size, tensor, ?_, by simp [TensorStore.withTensor], zeros⟩
      exact TensorStore.handle_withTensor_of_mem (by simp)

theorem Carries.unbound (carries : Carries directive store next)
    (notListed : ¬ListsFor directive name) (notProvided : ¬ProvidesFor directive name)
    (unbound : store.contains name = false) : next.contains name = false := by
  rw [TensorStore.contains_eq_false_iff] at unbound ⊢
  cases carries with
  | listed type_eq _ =>
      have other : name ∉ directive.outputs := fun member => notListed ⟨type_eq, member⟩
      rwa [TensorStore.handle_withTensor_of_not_mem other]
  | kept _ _ => exact unbound
  | @provided first _ provides _ _ =>
      have other : name ∉ [first] := by
        rintro member
        rcases List.mem_singleton.mp member with rfl
        exact notProvided provides
      rwa [TensorStore.handle_withTensor_of_not_mem other]

theorem materializes_nil (store : TensorStore) : Materializes store [] store := by
  constructor
  · exact List.prefix_refl _
  · exact ⟨fun _ => 0, by simp⟩
  · intro name handle _ bound
    exact ⟨bound, fun _ found => found⟩
  · simp
  · intro name _ unbound _
    exact unbound

/-- A directive in front of a run: what it does to a name lasts unless the run touches the name. -/
theorem Materializes.cons (first : Carries directive start next)
    (rest : Materializes next done final) : Materializes start (directive :: done) final := by
  have extended : start.tensors.toList <+: final.tensors.toList :=
    first.extended.trans rest.extended
  constructor
  · exact extended
  · rcases rest.listed with ⟨handleOf, listed⟩
    refine ⟨fun place => if place = 0 then start.tensors.size else handleOf (place - 1), ?_⟩
    intro name earlier last later split lists noneLater
    cases earlier with
    | nil =>
        rcases split with ⟨⟩
        rcases first.lists_last lists with ⟨bound, tensor, found, described⟩
        have kept := (rest.kept name _ noneLater bound).1
        exact ⟨kept, tensor, get_of_prefix rest.extended kept found, described⟩
    | cons head earlier =>
        rcases split with ⟨⟩
        simpa using listed name earlier last later rfl lists noneLater
  · intro name handle notListed bound
    rw [List.forall_mem_cons] at notListed
    have kept := (rest.kept name handle notListed.2 (first.handle_kept notListed.1 bound)).1
    refine ⟨kept, ?_⟩
    intro tensor found
    rcases TensorStore.get_eq_ok.mp found with ⟨other, otherBound, held⟩
    rcases Except.ok.inj (otherBound.symm.trans bound) with rfl
    exact get_of_prefix extended kept held
  · intro name earlier provider later split notListed unbound provides noneEarlier
    rw [List.forall_mem_cons] at notListed
    cases earlier with
    | nil =>
        rcases split with ⟨⟩
        rcases first.provides_first provides unbound with ⟨handle, tensor, bound, found, zeros⟩
        have kept := (rest.kept name handle notListed.2 bound).1
        exact ⟨tensor, get_of_prefix rest.extended kept found, zeros⟩
    | cons head earlier =>
        rcases split with ⟨⟩
        rw [List.forall_mem_cons] at noneEarlier
        have stillUnbound := first.unbound notListed.1 noneEarlier.1 unbound
        exact rest.provided name earlier provider later rfl notListed.2 stillUnbound provides
          noneEarlier.2
  · intro name notListed unbound notProvided
    rw [List.forall_mem_cons] at notListed notProvided
    exact rest.unbound name notListed.2 (first.unbound notListed.1 notProvided.1 unbound)
      notProvided.2

end Stores

/-! ## Runs -/

variable {done : List Operator}

/-- Carries out directives in order, as filling does with those of a network. -/
def carryAll (directives : List Operator) : Fill Unit := directives.forM directive

@[simp]
theorem carryAll_nil_eq_ok {value : Unit} :
    carryAll [] filling = .ok value after ↔ after = filling := by
  simp [carryAll]

theorem carryAll_nil_ne_error : carryAll [] filling ≠ .error error after := by
  simp [carryAll]

theorem carryAll_cons_eq_ok {value : Unit} :
    carryAll (operator :: done) filling = .ok value after ↔
      ∃ mid, directive operator filling = .ok () mid ∧ carryAll done mid = .ok () after := by
  simp only [carryAll, List.forM_eq_forM, List.forM_cons, Steps.bind_eq_ok]
  constructor
  · rintro ⟨_, mid, one, rest⟩
    exact ⟨mid, one, rest⟩
  · rintro ⟨mid, one, rest⟩
    exact ⟨(), mid, one, rest⟩

theorem carryAll_cons_eq_error :
    carryAll (operator :: done) filling = .error error after ↔
      directive operator filling = .error error after ∨
        ∃ mid, directive operator filling = .ok () mid ∧ carryAll done mid = .error error after := by
  simp only [carryAll, List.forM_eq_forM, List.forM_cons, Steps.bind_eq_error]
  constructor
  · rintro (fails | ⟨_, mid, one, rest⟩)
    · exact .inl fails
    · exact .inr ⟨mid, one, rest⟩
  · rintro (fails | ⟨mid, one, rest⟩)
    · exact .inl fails
    · exact .inr ⟨(), mid, one, rest⟩

theorem carryAll_materializes {value : Unit} (runs : carryAll done filling = .ok value after) :
    Materializes filling.store done after.store := by
  induction done generalizing filling with
  | nil =>
      rcases carryAll_nil_eq_ok.mp runs with rfl
      exact materializes_nil _
  | cons operator done hypothesis =>
      rcases carryAll_cons_eq_ok.mp runs with ⟨mid, one, rest⟩
      exact (hypothesis rest).cons (directive_carries one)

/-- A run stops at the first directive that fails, having carried out the ones before it. -/
theorem carryAll_eq_error {directives : List Operator}
    (fails : carryAll directives filling = .error error after) :
    ∃ done failing rest mid, directives = done ++ failing :: rest ∧
      carryAll done filling = .ok () mid ∧ directive failing mid = .error error after := by
  induction directives generalizing filling with
  | nil => exact absurd fails carryAll_nil_ne_error
  | cons first others hypothesis =>
      rcases carryAll_cons_eq_error.mp fails with firstFails | ⟨next, carried, restFails⟩
      · exact ⟨[], first, others, filling, rfl, by simp, firstFails⟩
      · rcases hypothesis restFails with ⟨done, failing, rest, mid, rfl, before, failed⟩
        exact ⟨first :: done, failing, rest, mid, rfl,
          carryAll_cons_eq_ok.mpr ⟨next, carried, before⟩, failed⟩

/--
Whether all directives are carried out or one of them fails, the names are bound to what the
directives before the first failing one determine, and the failing one leaves no trace.
-/
theorem network_materializes (weights : Network) (filling : Filling) :
    (∀ after, network weights filling = .ok () after →
        Materializes filling.store weights.operators after.store) ∧
      ∀ error after, network weights filling = .error error after →
        ∃ done failing rest mid, weights.operators = done ++ failing :: rest ∧
          network { weights with operators := done } filling = .ok () mid ∧
          directive failing mid = .error error after ∧ after.store = mid.store ∧
          Materializes filling.store done after.store := by
  constructor
  · intro after runs
    exact carryAll_materializes runs
  · intro error after fails
    rcases carryAll_eq_error fails with ⟨done, failing, rest, mid, split, before, failed⟩
    have same := directive_restores failed
    refine ⟨done, failing, rest, mid, split, before, failed, same, ?_⟩
    rw [same]
    exact carryAll_materializes before

end Fill

/-! ## A small run -/

namespace Sample

def shapeArgument (shape : Shape) : Argument :=
  { Argument.ofMessage .empty with name := "shape", ints := shape }

def valuesArgument (values : List Binary32) : Argument :=
  { Argument.ofMessage .empty with name := "values", floats := values }

def given (outputs : List Label) (arguments : List Argument) : Operator :=
  ⟨"GivenTensorFill", "", [], outputs, arguments, .done []⟩

def zeros (outputs : List Label) (shape : Shape) : Operator :=
  ⟨"ConstantFill", "", [], outputs, [shapeArgument shape], .done []⟩

/-- Provides, overwrites and keeps names, and stops at a directive that lists no values. -/
def weights : Network where
  operators :=
    [zeros ["z"] [2], given ["w", "v"] [shapeArgument [2], valuesArgument [.one, .zero]],
      zeros ["w"] [3], given ["v", "a"] [shapeArgument [1], valuesArgument [.one]],
      given ["z"] [shapeArgument [2]], zeros ["y"] [1]]
  externalOutputs := []

/-- The names `a` and `b` are bound to one tensor before the run. -/
def filling : Filling :=
  ⟨⟨#[.single .zero], ⟨[("a", 0), ("b", 0)]⟩⟩, []⟩

end Sample

namespace Fill

theorem network_materializes_sample :
    ∃ after, network Sample.weights Sample.filling =
        .error (.missingArgument "GivenTensorFill" "values") after ∧
      after.store.handles = ⟨[("a", 3), ("b", 0), ("z", 1), ("w", 2), ("v", 3)]⟩ ∧
      ∃ done failing rest mid, Sample.weights.operators = done ++ failing :: rest ∧
        network { Sample.weights with operators := done } Sample.filling = .ok () mid ∧
        directive failing mid = .error (.missingArgument "GivenTensorFill" "values") after ∧
        after.store = mid.store ∧ Materializes Sample.filling.store done after.store := by
  refine ⟨_, rfl, rfl, ?_⟩
  exact (network_materializes Sample.weights Sample.filling).2 _ _ rfl

end Fill

end NetImport
