import NetImport.Proofs.Steps

/-!
# Two runs side by side

Two steps run in parallel when, started from related states, they either both succeed, with related
values, or both fail, with related failures, and leave related states in either case. What is made
of parallel steps in the same way runs in parallel, so that a relation between two whole runs is
proved by following the program once.
-/

namespace NetImport.Steps

universe u

variable {Failure State Value Result Item : Type u}

/-- Two outcomes that are both successes or both failures. -/
inductive Alike (failures : Failure → Failure → Prop) (states : State → State → Prop)
    (values : Value → Value → Prop) :
    EStateM.Result Failure State Value → EStateM.Result Failure State Value → Prop where
  | ok {value other : Value} {after otherAfter : State} (alike : values value other)
      (leaves : states after otherAfter) :
      Alike failures states values (.ok value after) (.ok other otherAfter)
  | error {failure other : Failure} {after otherAfter : State} (alike : failures failure other)
      (leaves : states after otherAfter) :
      Alike failures states values (.error failure after) (.error other otherAfter)

/-- Two steps whose outcomes are alike whenever they start from related states. -/
def Parallel (failures : Failure → Failure → Prop) (states : State → State → Prop)
    (values : Value → Value → Prop) (first second : EStateM Failure State Value) : Prop :=
  ∀ state other, states state other → Alike failures states values (first state) (second other)

variable {failures : Failure → Failure → Prop} {states : State → State → Prop}
  {values : Value → Value → Prop} {results : Result → Result → Prop}

theorem Alike.imp {weaker : State → State → Prop}
    {outcome other : EStateM.Result Failure State Value}
    (alike : Alike failures states values outcome other)
    (weaken : ∀ state other, states state other → weaker state other) :
    Alike failures weaker values outcome other := by
  cases alike with
  | ok alike leaves => exact .ok alike (weaken _ _ leaves)
  | error alike leaves => exact .error alike (weaken _ _ leaves)

theorem Alike.of_ok {value : Value} {after : State} {other : EStateM.Result Failure State Value}
    (alike : Alike failures states values (.ok value after) other) :
    ∃ otherValue otherAfter, other = .ok otherValue otherAfter ∧ values value otherValue ∧
      states after otherAfter := by
  cases alike with
  | ok alike leaves => exact ⟨_, _, rfl, alike, leaves⟩

theorem parallel_pure {value other : Value} (alike : values value other) :
    Parallel failures states values (pure value) (pure other) :=
  fun _ _ related => .ok alike related

theorem parallel_throw {failure other : Failure} (alike : failures failure other) :
    Parallel failures states values (throw failure) (throw other) :=
  fun _ _ related => .error alike related

theorem parallel_get : Parallel failures states states get get :=
  fun _ _ related => .ok related related

theorem parallel_bind {first second : EStateM Failure State Value}
    {next otherNext : Value → EStateM Failure State Result}
    (start : Parallel failures states values first second)
    (rest : ∀ value other, values value other →
      Parallel failures states results (next value) (otherNext other)) :
    Parallel failures states results (first >>= next) (second >>= otherNext) := by
  intro state other related
  change Alike failures states results (EStateM.bind first next state)
    (EStateM.bind second otherNext other)
  unfold EStateM.bind
  have outcomes := start state other related
  generalize first state = one, second other = two at outcomes ⊢
  cases outcomes with
  | ok alike leaves => exact rest _ _ alike _ _ leaves
  | error alike leaves => exact .error alike leaves

/-- The rest of two steps that yield the same value can be compared for that value. -/
theorem parallel_bind_eq {first second : EStateM Failure State Value}
    {next otherNext : Value → EStateM Failure State Result}
    (start : Parallel failures states Eq first second)
    (rest : ∀ value, Parallel failures states results (next value) (otherNext value)) :
    Parallel failures states results (first >>= next) (second >>= otherNext) :=
  parallel_bind start fun value _ same => same ▸ rest value

theorem parallel_modifyGet {change otherChange : State → Value × State}
    (alike : ∀ state other, states state other → values (change state).1 (otherChange other).1 ∧
      states (change state).2 (otherChange other).2) :
    Parallel failures states values (modifyGet change) (modifyGet otherChange) :=
  fun _ _ related => .ok (alike _ _ related).1 (alike _ _ related).2

theorem parallel_modify {change otherChange : State → State}
    (leaves : ∀ state other, states state other → states (change state) (otherChange other)) :
    Parallel failures states Eq (modify change : EStateM Failure State PUnit)
      (modify otherChange) :=
  parallel_modifyGet fun state other related => ⟨rfl, leaves state other related⟩

/-- Items that are alike one by one can be worked through side by side. -/
theorem parallel_forM {items : Item → Item → Prop} {list others : List Item}
    {step otherStep : Item → EStateM Failure State PUnit} (alike : List.Forall₂ items list others)
    (each : ∀ item other, items item other →
      Parallel failures states Eq (step item) (otherStep other)) :
    Parallel failures states Eq (list.forM step) (others.forM otherStep) := by
  induction alike with
  | nil => exact parallel_pure rfl
  | cons head _ hypothesis => exact parallel_bind_eq (each _ _ head) fun _ => hypothesis

end NetImport.Steps

namespace NetImport

/-! ## Lists that are alike one by one -/

section Lists

variable {Item Other : Type} {alike : Item → Other → Prop} {items : List Item}
  {others : List Other}

theorem forall₂_getElem? (each : List.Forall₂ alike items others) (place : Nat) :
    (items[place]? = none ∧ others[place]? = none) ∨
      ∃ item other, items[place]? = some item ∧ others[place]? = some other ∧ alike item other := by
  induction each generalizing place with
  | nil => exact .inl ⟨rfl, rfl⟩
  | cons head _ hypothesis => cases place with
    | zero => exact .inr ⟨_, _, rfl, rfl, head⟩
    | succ place => exact hypothesis place

/-- Lists whose images are the same consist one by one of items whose images are the same. -/
theorem map_eq_iff_forall₂ {Image : Type} {image : Item → Image} {otherImage : Other → Image} :
    others.map otherImage = items.map image ↔
      List.Forall₂ (fun item other => otherImage other = image item) items others := by
  rw [eq_comm, ← List.forall₂_eq_eq_eq, List.forall₂_map_left_iff, List.forall₂_map_right_iff]
  simp only [eq_comm]

theorem eq_of_forall₂ {items others : List Item}
    (each : List.Forall₂ (fun item other => other = item) items others) : others = items := by
  induction each with
  | nil => rfl
  | cons head _ hypothesis => rw [head, hypothesis]

theorem forall₂_set {item : Item} {other : Other} (each : List.Forall₂ alike items others)
    (place : Nat) (replaced : alike item other) :
    List.Forall₂ alike (items.set place item) (others.set place other) := by
  induction each generalizing place with
  | nil => exact .nil
  | cons head rest hypothesis => cases place with
    | zero => exact .cons replaced rest
    | succ place => exact .cons head (hypothesis place)

theorem forall₂_zip {First Second : Type} {alike : First → First → Prop}
    {beside : Second → Second → Prop} {firsts otherFirsts : List First}
    {seconds otherSeconds : List Second} (left : List.Forall₂ alike firsts otherFirsts)
    (right : List.Forall₂ beside seconds otherSeconds) :
    List.Forall₂ (fun pair other => alike pair.1 other.1 ∧ beside pair.2 other.2)
      (firsts.zip seconds) (otherFirsts.zip otherSeconds) := by
  induction left generalizing seconds otherSeconds with
  | nil => exact .nil
  | cons head _ hypothesis => cases right with
    | nil => exact .nil
    | cons beside rest => exact .cons ⟨head, beside⟩ (hypothesis rest)

theorem forall₂_zipIdx {alike : Item → Item → Prop} {items others : List Item}
    (each : List.Forall₂ alike items others) (start : Nat) :
    List.Forall₂ (fun numbered other => alike numbered.1 other.1 ∧ numbered.2 = other.2)
      (items.zipIdx start) (others.zipIdx start) := by
  induction each generalizing start with
  | nil => exact .nil
  | cons head _ hypothesis => exact .cons ⟨head, rfl⟩ (hypothesis _)

end Lists

end NetImport
