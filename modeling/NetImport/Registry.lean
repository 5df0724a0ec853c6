/-!
# Registries

A registry maps names to values and remembers the order in which the names were first bound.
Binding a name again replaces its value and keeps its place. The main statements say what lookup
finds after a binding and that the names stay distinct.
-/

namespace NetImport

universe u v

/-- Names in the order of their first binding, each with its value. -/
structure Registry (Name : Type u) (Value : Type v) where
  entries : List (Name × Value)
  deriving DecidableEq, Repr

namespace Registry

variable {Name : Type u} {Value : Type v}

def empty : Registry Name Value := ⟨[]⟩

/-- The bound names, in the order of their first binding. -/
def names (registry : Registry Name Value) : List Name := registry.entries.map Prod.fst

def size (registry : Registry Name Value) : Nat := registry.entries.length

/-- Keeps the names before a position; a negative position counts from the end. -/
def truncate (registry : Registry Name Value) (count : Int) : Registry Name Value :=
  let kept := if count < 0 then (registry.size + count).toNat else count.toNat
  ⟨registry.entries.take kept⟩

@[simp] theorem truncate_natCast (registry : Registry Name Value) (count : Nat) :
    registry.truncate count = ⟨registry.entries.take count⟩ := by
  have notNegative : ¬(count : Int) < 0 := by omega
  simp only [truncate, notNegative, if_false, Int.toNat_natCast]

variable [DecidableEq Name]

def get? (registry : Registry Name Value) (name : Name) : Option Value :=
  registry.entries.lookup name

def contains (registry : Registry Name Value) (name : Name) : Bool := (registry.get? name).isSome

/-- Replaces the value at the place of a name, or appends the name when it is new. -/
def put (name : Name) (value : Value) : List (Name × Value) → List (Name × Value)
  | [] => [(name, value)]
  | (other, held) :: rest =>
    if other = name then (name, value) :: rest else (other, held) :: put name value rest

/-- Binds a name, keeping its place if it was bound before. -/
def bind (registry : Registry Name Value) (name : Name) (value : Value) : Registry Name Value :=
  ⟨put name value registry.entries⟩

/-- Binds several names, one after the other, to one value. -/
def bindAll (registry : Registry Name Value) (names : List Name) (value : Value) :
    Registry Name Value :=
  names.foldl (fun bound name => bound.bind name value) registry

theorem lookup_put (name other : Name) (value : Value) (entries : List (Name × Value)) :
    (put name value entries).lookup other =
      if other = name then some value else entries.lookup other := by
  induction entries with
  | nil =>
    by_cases same : other = name
    · simp [put, same]
    · simp [put, List.lookup_cons, beq_false_of_ne same, same]
  | cons entry rest hypothesis =>
    obtain ⟨key, held⟩ := entry
    by_cases here : key = name
    · subst here
      by_cases same : other = key
      · simp [put, same]
      · simp [put, List.lookup_cons, beq_false_of_ne same, same]
    · by_cases same : other = key
      · subst same
        simp [put, here]
      · simp [put, here, List.lookup_cons, beq_false_of_ne same, hypothesis]

/-- A name that is not bound yet comes last. -/
theorem put_of_lookup_eq_none {name : Name} {value : Value} {entries : List (Name × Value)}
    (unbound : entries.lookup name = none) :
    put name value entries = entries ++ [(name, value)] := by
  induction entries with
  | nil => rfl
  | cons entry rest hypothesis =>
    obtain ⟨key, held⟩ := entry
    by_cases here : key = name
    · simp [here] at unbound
    · rw [List.lookup_cons, beq_false_of_ne (Ne.symm here)] at unbound
      simp [put, here, hypothesis unbound]

/-- After a binding, lookup finds the new value under the name and the old values elsewhere. -/
@[simp] theorem get?_bind (registry : Registry Name Value) (name other : Name) (value : Value) :
    (registry.bind name value).get? other =
      if other = name then some value else registry.get? other :=
  lookup_put name other value registry.entries

/-- After several names are bound to one value, lookup finds it under all of them. -/
@[simp] theorem get?_bindAll (registry : Registry Name Value) (names : List Name) (other : Name)
    (value : Value) :
    (registry.bindAll names value).get? other =
      if other ∈ names then some value else registry.get? other := by
  induction names generalizing registry with
  | nil => simp [bindAll]
  | cons name names hypothesis =>
    have rest := hypothesis (registry.bind name value)
    simp only [bindAll, List.foldl_cons] at rest ⊢
    rw [rest, get?_bind]
    by_cases later : other ∈ names
    · simp [later]
    · simp [later]

theorem get?_bindAll_eq_some {registry : Registry Name Value} {names : List Name} {other : Name}
    {value found : Value} :
    (registry.bindAll names value).get? other = some found ↔
      (other ∈ names ∧ found = value) ∨ (other ∉ names ∧ registry.get? other = some found) := by
  rw [get?_bindAll]
  by_cases bound : other ∈ names
  · simp [bound, eq_comm]
  · simp [bound]

theorem get?_bindAll_eq_none {registry : Registry Name Value} {names : List Name} {other : Name}
    {value : Value} :
    (registry.bindAll names value).get? other = none ↔
      other ∉ names ∧ registry.get? other = none := by
  rw [get?_bindAll]
  by_cases bound : other ∈ names
  · simp [bound]
  · simp [bound]

theorem get?_bind_eq_some {registry : Registry Name Value} {name other : Name}
    {value found : Value} :
    (registry.bind name value).get? other = some found ↔
      (other = name ∧ found = value) ∨ (other ≠ name ∧ registry.get? other = some found) := by
  change (registry.bindAll [name] value).get? other = some found ↔ _
  rw [get?_bindAll_eq_some, List.mem_singleton]

theorem get?_bind_eq_none {registry : Registry Name Value} {name other : Name} {value : Value} :
    (registry.bind name value).get? other = none ↔ other ≠ name ∧ registry.get? other = none := by
  change (registry.bindAll [name] value).get? other = none ↔ _
  rw [get?_bindAll_eq_none, List.mem_singleton]

end Registry

end NetImport
