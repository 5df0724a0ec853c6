import NetImport.Proofs.Import.Failures

/-!
# Handles that last

A store is used by adding tensors, by binding names to handles, and by loading weights. Whatever a
use does, and whether it succeeds or fails, it only ever appends tensors, and it changes what is
bound to the names that it binds and to no other ones. `Evolves` says this of any two stores of
which one comes from the other by bindings of the listed names, so that it can be followed through
a use and through a sequence of uses alike.
-/

namespace NetImport

open Descriptor

namespace Registry

universe u v

variable {Name : Type u} {Value : Type v} [DecidableEq Name] {registry : Registry Name Value}
  {value : Value} {history : List Name}

theorem names_put (name : Name) (value : Value) (entries : List (Name × Value)) :
    (put name value entries).map Prod.fst =
      if name ∈ entries.map Prod.fst then entries.map Prod.fst
      else entries.map Prod.fst ++ [name] := by
  induction entries with
  | nil => simp [put]
  | cons entry rest hypothesis =>
      by_cases here : entry.1 = name
      · simp [put, here]
      · by_cases later : name ∈ rest.map Prod.fst
        · rw [if_pos later] at hypothesis
          have present : name ∈ (entry :: rest).map Prod.fst := List.mem_cons_of_mem _ later
          rw [if_pos present, put, if_neg here, List.map_cons, hypothesis]
          rfl
        · rw [if_neg later] at hypothesis
          have absent : name ∉ (entry :: rest).map Prod.fst := by
            simpa [Ne.symm here] using later
          rw [if_neg absent, put, if_neg here, List.map_cons, hypothesis]
          rfl

/-- A name that is bound for the first time comes last, any other one keeps its place. -/
theorem names_bind (registry : Registry Name Value) (name : Name) (value : Value) :
    (registry.bind name value).names =
      if name ∈ registry.names then registry.names else registry.names ++ [name] :=
  names_put name value registry.entries

theorem eraseDups_concat (history : List Name) (name : Name) :
    (history ++ [name]).eraseDups =
      if name ∈ history then history.eraseDups else history.eraseDups ++ [name] := by
  rw [List.eraseDups_append]
  by_cases bound : name ∈ history
  · simp [bound, List.removeAll]
  · simp [bound, List.removeAll, List.eraseDups_cons]

theorem nodup_eraseDups (history : List Name) : history.eraseDups.Nodup := by
  -- from the last name, which is kept or not by what is in front of it
  induction history using List.reverseRecOn with
  | nil => simp
  | append_singleton history name hypothesis =>
      rw [eraseDups_concat]
      split
      · exact hypothesis
      · rename_i fresh
        have absent : name ∉ history.eraseDups := by rwa [List.mem_eraseDups]
        rw [← List.concat_eq_append]
        exact hypothesis.concat absent

/-- The names are those of all bindings so far, in the order of the first binding of each. -/
theorem names_bindAll (names : List Name) (listed : registry.names = history.eraseDups) :
    (registry.bindAll names value).names = (history ++ names).eraseDups := by
  induction names generalizing registry history with
  | nil => simpa [bindAll] using listed
  | cons name names hypothesis =>
      have first : (registry.bind name value).names = (history ++ [name]).eraseDups := by
        simp only [names_bind, listed, eraseDups_concat, List.mem_eraseDups]
      rw [List.append_cons]
      exact hypothesis first

end Registry

namespace TensorStore

variable {start mid final store : TensorStore} {bound earlier later : List Label}
  {tensor : Tensor} {names : List Label}

/-! ## Stores that come from one another -/

/-- A store after tensors have been added to another one and the listed names have been bound. -/
structure Evolves (start : TensorStore) (bound : List Label) (final : TensorStore) : Prop where
  extended : start.tensors.toList <+: final.tensors.toList
  sound : start.Sound → final.Sound
  kept : ∀ name, name ∉ bound → final.handle name = start.handle name
  listed : ∀ history, start.handles.names = history.eraseDups →
    final.handles.names = (history ++ bound).eraseDups

theorem evolves_refl (store : TensorStore) : Evolves store [] store := by
  refine ⟨List.prefix_refl _, id, fun _ _ => rfl, ?_⟩
  intro history listed
  simpa using listed

theorem Evolves.trans (first : Evolves start earlier mid) (second : Evolves mid later final) :
    Evolves start (earlier ++ later) final := by
  constructor
  · exact first.extended.trans second.extended
  · exact fun sound => second.sound (first.sound sound)
  · intro name unbound
    rw [List.mem_append, not_or] at unbound
    rw [second.kept name unbound.2, first.kept name unbound.1]
  · intro history listed
    rw [← List.append_assoc]
    exact second.listed _ (first.listed history listed)

theorem evolves_withTensor (store : TensorStore) (tensor : Tensor) (names : List Label) :
    Evolves store names (store.withTensor tensor names) := by
  constructor
  · simp [withTensor]
  · exact Sound.withTensor
  · exact fun name unbound => handle_withTensor_of_not_mem unbound
  · exact fun history listed => Registry.names_bindAll names listed

theorem evolves_rebound {handle : Nat} (name : Label) (given : handle < store.tensors.size) :
    Evolves store [name] { store with handles := store.handles.bind name handle } := by
  constructor
  · exact List.prefix_refl _
  · intro sound other found bound
    by_cases same : other = name
    · simp only [TensorStore.handle, same, Registry.get?_bind, if_true, Except.ok.injEq] at bound
      exact bound ▸ given
    · simp only [TensorStore.handle, Registry.get?_bind, same, if_false] at bound
      exact sound other found bound
  · intro other unbound
    have differs : other ≠ name := by simpa using unbound
    simp [TensorStore.handle, differs]
  · exact fun history listed => Registry.names_bindAll [name] listed

/-- The tensor of a handle stays. -/
theorem Evolves.lasting {handle : Nat} (evolves : Evolves start bound final)
    (found : start.tensors[handle]? = some tensor) : final.tensors[handle]? = some tensor := by
  rw [← Array.getElem?_toList] at found ⊢
  have inside := (List.getElem?_eq_some_iff.mp found).1
  rw [List.prefix_iff_getElem?.mp evolves.extended handle inside, ← found,
    List.getElem?_eq_getElem]

/-- A name gives the same tensor as long as it is not bound again. -/
theorem Evolves.get_eq (evolves : Evolves start bound final) (sound : start.Sound) {name : Label}
    (unbound : name ∉ bound) : final.get name = start.get name := by
  unfold TensorStore.get
  rw [evolves.kept name unbound]
  cases held : start.handle name with
  | error raised => rfl
  | ok handle =>
      have found := Array.getElem?_eq_getElem (sound name handle held)
      simp only [Bind.bind, Except.bind, evolves.lasting found, found]

end TensorStore

/-! ## Weights -/

namespace Fill

variable {filling : Filling}

/--
The names that a directive binds when it is carried out, one after the other: those for which it
lists values, or the first one if it provides zeros and that name is not bound.
-/
def boundBy (store : TensorStore) (directive : Operator) : List Label :=
  if directive.type = "GivenTensorFill" then directive.outputs
  else (directive.outputs.take 1).filter fun name => !store.contains name

/-- The names that directives bind, one after the other, up to the first one that fails. -/
def boundByAll : List Operator → Filling → List Label
  | [], _ => []
  | first :: rest, filling =>
      match directive first filling with
      | .ok _ after => boundBy filling.store first ++ boundByAll rest after
      | .error _ _ => []

theorem Carries.evolves {operator : Operator} {store next : TensorStore}
    (carries : Carries operator store next) : store.Evolves (boundBy store operator) next := by
  have firstOutput : ∀ {name}, ProvidesFor operator name →
      boundBy store operator = [name].filter fun name => !store.contains name := by
    rintro name ⟨type_eq, first⟩
    have notListed : operator.type ≠ "GivenTensorFill" := by
      rw [type_eq]
      decide
    rw [boundBy, if_neg notListed]
    cases outputs : operator.outputs with
    | nil => simp [outputs] at first
    | cons head rest =>
        rw [outputs, List.head?_cons] at first
        rw [Option.some.inj first]
        rfl
  cases carries with
  | @listed tensor type_eq _ =>
      rw [boundBy, if_pos type_eq]
      exact store.evolves_withTensor tensor operator.outputs
  | kept provides bound =>
      rw [firstOutput provides]
      simpa [bound] using store.evolves_refl
  | @provided name tensor provides unbound _ =>
      rw [firstOutput provides]
      simpa [unbound] using store.evolves_withTensor tensor [name]

/-- Loading weights binds names directive by directive, and nothing when one fails. -/
theorem carryAll_evolves (directives : List Operator) (filling : Filling) :
    filling.store.Evolves (boundByAll directives filling)
      (Steps.stateOf (carryAll directives filling)).store := by
  induction directives generalizing filling with
  | nil => exact filling.store.evolves_refl
  | cons first rest hypothesis =>
      rw [boundByAll]
      cases outcome : directive first filling with
      | error raised after =>
          have stops : carryAll (first :: rest) filling = .error raised after :=
            carryAll_cons_eq_error.mpr (.inl outcome)
          rw [stops, Steps.stateOf, directive_restores outcome]
          exact filling.store.evolves_refl
      | ok done after =>
          have later : Steps.stateOf (carryAll (first :: rest) filling) =
              Steps.stateOf (carryAll rest after) := by
            cases restOutcome : carryAll rest after with
            | ok _ final => rw [carryAll_cons_eq_ok.mpr ⟨after, outcome, restOutcome⟩]
            | error _ final =>
                rw [carryAll_cons_eq_error.mpr (.inr ⟨after, outcome, restOutcome⟩)]
          rw [later]
          exact (directive_carries outcome).evolves.trans (hypothesis after)

end Fill

/-! ## Uses of a store -/

namespace TensorStore

/-- What can be done with a store. -/
inductive Use where
  | add (tensor : Tensor)
  | bind (name : Label) (handle : Int)
  | register (name : Label) (tensor : Tensor)
  | load (weights : Network)

namespace Use

/-- The store that a use leaves, and the handle that it answers with if it gives one out. -/
def perform (store : TensorStore) : Use → Except Error (Option Nat) × TensorStore
  | add tensor =>
      let (after, handle) := store.add tensor
      (.ok (some handle), after)
  | bind name handle =>
      match store.bind name handle with
      | .ok after => (.ok none, after)
      | .error error => (.error error, store)
  | register name tensor =>
      let (after, handle) := store.register name tensor
      (.ok (some handle), after)
  | load weights =>
      match Fill.network weights ⟨store, []⟩ with
      | .ok _ after => (.ok none, after.store)
      | .error error after => (.error error, after.store)

/-- The names that a use binds, one after the other. -/
def bound (store : TensorStore) : Use → List Label
  | add _ => []
  | bind name handle => if 0 ≤ handle ∧ handle < store.tensors.size then [name] else []
  | register name _ => [name]
  | load weights => Fill.boundByAll weights.operators ⟨store, []⟩

/-- A use hands a tensor over to the store. -/
def Hands (tensor : Tensor) (use : Use) : Prop :=
  use = .add tensor ∨ ∃ name, use = .register name tensor

variable {store after : TensorStore} {use : Use}

theorem perform_refused {name : Label} {handle : Int}
    (foreign : ¬(0 ≤ handle ∧ handle < store.tensors.size)) :
    (bind name handle).perform store = (.error (.invalidHandle handle), store) := by
  simp only [perform, TensorStore.bind, if_neg foreign]

theorem evolves_perform (store : TensorStore) (use : Use) :
    store.Evolves (use.bound store) (use.perform store).2 := by
  cases use with
  | add tensor => exact store.evolves_withTensor tensor []
  | bind name handle =>
      by_cases given : 0 ≤ handle ∧ handle < store.tensors.size
      · simp only [bound, perform, TensorStore.bind, if_pos given]
        exact store.evolves_rebound name (by omega)
      · rw [perform_refused given, bound, if_neg given]
        exact store.evolves_refl
  | register name tensor => exact store.evolves_withTensor tensor [name]
  | load weights =>
      have loaded := Fill.carryAll_evolves weights.operators ⟨store, []⟩
      have same : ((load weights).perform store).2 =
          (Steps.stateOf (Fill.carryAll weights.operators ⟨store, []⟩)).store := by
        rw [perform, Fill.network, ← Fill.carryAll]
        cases Fill.carryAll weights.operators ⟨store, []⟩ with
        | ok _ final => rfl
        | error _ final => rfl
      rw [same]
      exact loaded

/-- A tensor that is handed over gets a handle. -/
theorem perform_of_hands {tensor : Tensor} (hands : use.Hands tensor) :
    ∃ handle after, use.perform store = (.ok (some handle), after) ∧
      after.tensors[handle]? = some tensor := by
  rcases hands with rfl | ⟨name, rfl⟩
  · exact ⟨_, _, rfl, by simp⟩
  · exact ⟨_, _, rfl, by simp⟩

end Use

/-! ## Sequences of uses -/

/-- The store after some uses, one after the other, whichever of them fail. -/
def performAll (uses : List Use) (store : TensorStore) : TensorStore :=
  uses.foldl (fun store use => (use.perform store).2) store

/-- The names that uses bind, one after the other. -/
def boundAll : List Use → TensorStore → List Label
  | [], _ => []
  | use :: uses, store => use.bound store ++ boundAll uses (use.perform store).2

theorem evolves_performAll (uses : List Use) (store : TensorStore) :
    store.Evolves (boundAll uses store) (performAll uses store) := by
  induction uses generalizing store with
  | nil => exact store.evolves_refl
  | cons use uses hypothesis => exact (use.evolves_perform store).trans (hypothesis _)

/--
What can be relied on in a store whose names have been bound in the given order, whatever is done
with it later.
-/
structure Reliable (history : List Label) (store : TensorStore) (later : List Use) : Prop where
  found : ∀ name, store.contains name → ∃ handle tensor, store.handle name = .ok handle ∧
    handle < store.tensors.size ∧ store.tensors[handle]? = some tensor ∧
      store.get name = .ok tensor
  handed : ∀ tensor, ∀ use : Use, use.Hands tensor → ∃ handle after,
    use.perform store = (.ok (some handle), after) ∧ after.tensors[handle]? = some tensor ∧
      (performAll later after).tensors[handle]? = some tensor
  refused : ∀ name, ∀ handle : Int, ¬(0 ≤ handle ∧ handle < store.tensors.size) →
    (Use.bind name handle).perform store = (.error (.invalidHandle handle), store)
  unchanged : ∀ name, name ∉ boundAll later store →
    (performAll later store).handle name = store.handle name ∧
      (performAll later store).get name = store.get name
  shared : ∀ one other handle, store.handle one = .ok handle → store.handle other = .ok handle →
    store.get one = store.get other ∧
      (one ∉ boundAll later store → other ∉ boundAll later store →
        (performAll later store).get one = (performAll later store).get other)
  listed : store.handles.names = history.eraseDups
  distinct : store.handles.names.Nodup

/--
Every name of a store gives a tensor, whatever the store has been used for. A handle stays with the
tensor that it was given out for, and only binding a name again changes the tensor that the name
gives; names of one handle share the tensor. The names are listed in the order of their first
bindings, each once.
-/
theorem handles_are_reliable (earlier later : List Use) :
    Reliable (boundAll earlier empty) (performAll earlier empty) later := by
  have before := evolves_performAll earlier empty
  have sound := before.sound sound_empty
  have listed := before.listed [] rfl
  have after := evolves_performAll later (performAll earlier empty)
  constructor
  · intro name contained
    rcases contains_iff.mp contained with ⟨handle, bound⟩
    have inside := sound name handle bound
    have found := Array.getElem?_eq_getElem inside
    exact ⟨handle, _, bound, inside, found, get_eq_ok.mpr ⟨handle, bound, found⟩⟩
  · intro tensor use hands
    rcases Use.perform_of_hands hands with ⟨handle, next, given, found⟩
    exact ⟨handle, next, given, found, (evolves_performAll later next).lasting found⟩
  · exact fun name handle => Use.perform_refused
  · exact fun name unbound => ⟨after.kept name unbound, after.get_eq sound unbound⟩
  · intro one other handle oneBound otherBound
    have same : (performAll earlier empty).get one = (performAll earlier empty).get other := by
      rw [TensorStore.get, TensorStore.get, oneBound, otherBound]
    refine ⟨same, ?_⟩
    intro oneUnbound otherUnbound
    rw [after.get_eq sound oneUnbound, after.get_eq sound otherUnbound, same]
  · exact listed
  · rw [listed]
    exact Registry.nodup_eraseDups _

end TensorStore

namespace Sample

/-- Binds names to two tensors, fails to bind one, and loads weights that stop halfway. -/
def uses : List TensorStore.Use :=
  [.register "a" (.single .one), .add (.single .zero), .bind "b" 1, .bind "c" 2, .bind "a" 1,
    .load weights, .bind "b" (-1)]

end Sample

namespace TensorStore

theorem handles_are_reliable_sample :
    (performAll Sample.uses empty).handles =
        ⟨[("a", 4), ("b", 1), ("z", 2), ("w", 3), ("v", 4)]⟩ ∧
      Reliable ["a", "b", "a", "z", "w", "v", "v", "a"] (performAll Sample.uses empty)
        [.bind "b" 0] :=
  ⟨rfl, handles_are_reliable Sample.uses [.bind "b" 0]⟩

end TensorStore

end NetImport
