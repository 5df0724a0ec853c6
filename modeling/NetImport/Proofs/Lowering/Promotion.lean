import NetImport.Proofs.Lowering.Acceptance

/-!
# Promoted tensors

A stored tensor becomes a variable when its name is resolved for the first time; from then on the
name is published, and resolving it finds what is published and makes nothing. Resolving several
names, some of them perhaps more than once, therefore adds one variable for each name that was not
published, in the order in which the names occur first. An operator that is lowered does so for its
inputs and then binds its outputs; the names that it does not bind keep what they were bound to.
-/

namespace NetImport

open Descriptor

/-! ## Resolving several names -/

namespace Registry

variable {Name Value : Type} [DecidableEq Name] {older younger : Registry Name Value}

/-- What is added behind the entries of a registry does not change what they bind. -/
theorem get?_of_prefix {name : Name} {value : Value} (grown : older.entries <+: younger.entries)
    (found : older.get? name = some value) : younger.get? name = some value := by
  rcases grown with ⟨added, entries_eq⟩
  change older.entries.lookup name = some value at found
  change younger.entries.lookup name = some value
  rw [← entries_eq, List.lookup_append, found, Option.some_or]

end Registry

namespace Session

/--
What a name denotes in a grown graph: what was published under it, or else a variable that has been
added and holds the stored tensor of the name.
-/
def Finds (session : Session) (graph : Graph) (name : Label) (ref : Ref) : Prop :=
  session.names.get? name = some ref ∨
    session.names.get? name = none ∧ ∃ index payload, ref = .var index ∧
      session.graph.vars.length ≤ index ∧ session.tensors.get name = .ok payload ∧
      graph.vars[index]? = some ⟨name, .internal, .broadcast, payload⟩

/-- A name that is not published later was not published before. -/
theorem GrowsTo.unpublished {session grown : Session} {name : Label}
    (grows : session.GrowsTo grown) (unpublished : grown.names.get? name = none) :
    session.names.get? name = none := by
  cases published : session.names.get? name with
  | none => rfl
  | some held =>
      rcases unpublished.symm.trans (Registry.get?_of_prefix grows.names published) with ⟨⟩

theorem stored_of_mem_promotions {session : Session} {name : Label} {owned : Variable}
    (member : owned ∈ session.promotions name) :
    session.tensors.get owned.name = .ok owned.payload := by
  unfold promotions at member
  split at member
  · rename_i stored
    rcases List.mem_singleton.mp member with rfl
    exact stored
  · cases member

theorem Finds.grows {session : Session} {graph grown : Graph} {name : Label} {ref : Ref}
    (finds : session.Finds graph name ref) (grows : graph.GrowsTo grown) :
    session.Finds grown name ref := by
  rcases finds with published | ⟨unpublished, index, payload, rfl, added, stored, isVar⟩
  · exact .inl published
  · have inside := (List.getElem?_eq_some_iff.mp isVar).1
    exact .inr ⟨unpublished, index, payload, rfl, added, stored,
      (grows.var_get inside).trans isVar⟩

end Session

namespace Lower

variable {setting : Setting} {operator : Operator} {session mid after : Session} {name : Label}
  {names : List Label} {ref : Ref} {refs : List Ref}

/-- What is published is resolved without any change. -/
theorem resolve_of_published (published : session.names.get? name = some ref) :
    resolve name session = .ok ref session :=
  resolve_eq_ok.mpr (.inl ⟨published, rfl⟩)

/-- A name that has been resolved is published. -/
theorem resolve_binds (resolved : resolve name session = .ok ref after) :
    after.names.get? name = some ref := by
  rcases resolve_eq_ok.mp resolved with ⟨published, rfl⟩ | ⟨_, payload, _, rfl, rfl⟩
  · exact published
  · simp [Session.promote]

theorem resolve_finds (resolved : resolve name session = .ok ref after) :
    session.Finds after.graph name ref := by
  rcases resolve_eq_ok.mp resolved with ⟨published, rfl⟩ | ⟨unpublished, payload, stored, rfl, rfl⟩
  · exact .inl published
  · exact .inr ⟨unpublished, _, payload, rfl, Nat.le_refl _, stored, by simp [Session.promote]⟩

/-- After a name has been resolved, only other names are left to promote. -/
theorem promotions_of_resolve (resolved : resolve name session = .ok ref after) (other : Label) :
    after.promotions other = if other = name then [] else session.promotions other := by
  by_cases same : other = name
  · subst same
    simp [Session.promotions, resolve_binds resolved]
  · rw [if_neg same]
    rcases resolve_eq_ok.mp resolved with ⟨_, rfl⟩ | ⟨_, payload, _, _, rfl⟩
    · rfl
    · simp [Session.promotions, Session.promote, same]

theorem resolveAll_append_eq_ok {earlier later : List Label} :
    resolveAll (earlier ++ later) session = .ok refs after ↔
      ∃ first mid rest, resolveAll earlier session = .ok first mid ∧
        resolveAll later mid = .ok rest after ∧ refs = first ++ rest := by
  induction earlier generalizing session refs with
  | nil =>
      simp only [List.nil_append, resolveAll_nil_eq_ok]
      constructor
      · intro resolved
        exact ⟨[], session, refs, ⟨rfl, rfl⟩, resolved, rfl⟩
      · rintro ⟨_, _, _, ⟨rfl, rfl⟩, resolved, rfl⟩
        exact resolved
  | cons name earlier hypothesis =>
      simp only [List.cons_append, resolveAll_cons_eq_ok, hypothesis]
      constructor
      · rintro ⟨first, one, _, resolved, ⟨others, mid, rest, before, behind, rfl⟩, rfl⟩
        exact ⟨first :: others, mid, rest, ⟨first, one, others, resolved, before, rfl⟩, behind, rfl⟩
      · rintro ⟨_, mid, rest, ⟨first, one, others, resolved, before, rfl⟩, behind, rfl⟩
        exact ⟨first, one, others ++ rest, resolved, ⟨others, mid, rest, before, behind, rfl⟩, rfl⟩

theorem resolveAll_binds (resolved : resolveAll names session = .ok refs after) :
    List.Forall₂ (fun name ref => after.names.get? name = some ref) names refs := by
  have step : ∀ mid name ref next, True → resolve name mid = .ok ref next →
      True ∧ next.names.get? name = some ref :=
    fun _ _ _ _ _ one => ⟨trivial, resolve_binds one⟩
  exact (resolveAll_induction step
    (fun _ _ _ _ grown published => Registry.get?_of_prefix grown.names published)
    trivial resolved).2

/-- Each of the names that have been resolved is bound to what it was resolved to. -/
theorem resolveAll_slot {slot : Nat} (resolved : resolveAll names session = .ok refs after)
    (named : names[slot]? = some name) :
    ∃ ref, refs[slot]? = some ref ∧ after.names.get? name = some ref := by
  have binds := resolveAll_binds resolved
  clear resolved
  induction binds generalizing slot with
  | nil => cases named
  | cons bound _ hypothesis =>
      cases slot with
      | zero =>
          rcases named with ⟨⟩
          exact ⟨_, rfl, bound⟩
      | succ slot => exact hypothesis named

theorem promotions_of_resolveAll (resolved : resolveAll names session = .ok refs after)
    (other : Label) :
    after.promotions other = if other ∈ names then [] else session.promotions other := by
  induction names generalizing session refs with
  | nil =>
      rcases resolveAll_nil_eq_ok.mp resolved with ⟨_, rfl⟩
      rfl
  | cons name names hypothesis =>
      rcases resolveAll_cons_eq_ok.mp resolved with ⟨first, one, others, resolvedFirst, rest, _⟩
      rw [hypothesis rest, promotions_of_resolve resolvedFirst]
      by_cases same : other = name
      · simp [same]
      · simp [same]

/-- A name that is not published does not occur among the names that have been resolved. -/
theorem notMem_of_unpublished (resolved : resolveAll names session = .ok refs after)
    (unpublished : after.names.get? name = none) : name ∉ names := by
  intro member
  rcases List.mem_iff_getElem?.mp member with ⟨slot, named⟩
  rcases resolveAll_slot resolved named with ⟨ref, _, bound⟩
  rcases unpublished.symm.trans bound with ⟨⟩

/-- Resolving names adds the promotions of all of them, each one once. -/
theorem resolveAll_vars (resolved : resolveAll names session = .ok refs after) :
    after.graph.vars = session.graph.vars ++ names.eraseDups.flatMap session.promotions := by
  -- from the last name, since what it adds depends on the names in front of it
  induction names using List.reverseRecOn generalizing refs after with
  | nil =>
      rcases resolveAll_nil_eq_ok.mp resolved with ⟨_, rfl⟩
      simp
  | append_singleton names name hypothesis =>
      rcases resolveAll_append_eq_ok.mp resolved with ⟨first, mid, _, before, last, _⟩
      rcases resolveAll_cons_eq_ok.mp last with ⟨ref, _, _, resolvedLast, rest, _⟩
      rcases resolveAll_nil_eq_ok.mp rest with ⟨_, rfl⟩
      rw [(resolve_adds resolvedLast).2.1, hypothesis before, promotions_of_resolveAll before,
        List.eraseDups_append, List.flatMap_append, List.append_assoc]
      by_cases seen : name ∈ names
      · simp [seen, List.removeAll]
      · simp [seen, List.removeAll, List.eraseDups_cons]

/-- Resolving names appends a variable for each stored tensor whose name was not published. -/
theorem resolveAll_promotes (resolved : resolveAll names session = .ok refs after) :
    ∃ promoted, after.graph.vars = session.graph.vars ++ promoted ∧
      ∀ owned ∈ promoted, session.tensors.get owned.name = .ok owned.payload := by
  refine ⟨_, resolveAll_vars resolved, ?_⟩
  intro owned member
  rcases List.mem_flatMap.mp member with ⟨name, _, promotes⟩
  exact Session.stored_of_mem_promotions promotes

/-- Each of several names denotes what was published, or a variable that has been added. -/
theorem resolveAll_finds (resolved : resolveAll names session = .ok refs after) :
    List.Forall₂ (session.Finds after.graph) names refs := by
  let Found := fun mid : Session => session.GrowsTo mid ∧
    ∀ name ref, mid.names.get? name = some ref → session.Finds mid.graph name ref
  have start : Found session := ⟨session.growsTo_refl, fun _ _ published => .inl published⟩
  have step : ∀ mid name ref next, Found mid → resolve name mid = .ok ref next →
      Found next ∧ session.Finds next.graph name ref := by
    rintro mid name ref next ⟨grown, found⟩ one
    have grows := resolve_growsTo one
    have finds : session.Finds next.graph name ref := by
      rcases resolve_finds one with
        published | ⟨unpublished, index, payload, rfl, added, stored, isVar⟩
      · exact (found name ref published).grows grows.graph
      · rw [grown.tensors] at stored
        exact .inr ⟨grown.unpublished unpublished, index, payload, rfl,
          grown.graph.vars.length_le.trans added, stored, isVar⟩
    refine ⟨⟨Session.growsTo_trans grown grows, ?_⟩, finds⟩
    intro other held published
    by_cases same : other = name
    · subst same
      rcases Option.some.inj ((resolve_binds one).symm.trans published) with rfl
      exact finds
    · have older : mid.names.get? other = some held := by
        rcases resolve_eq_ok.mp one with ⟨_, rfl⟩ | ⟨_, payload, _, _, rfl⟩
        · exact published
        · simpa [Session.promote, same] using published
      exact (found other held older).grows grows.graph
  exact (resolveAll_induction step (fun _ _ _ _ grown finds => finds.grows grown.graph)
    start resolved).2

/-- What was published stays published, unless an operator publishes its result there. -/
theorem lowerOperator_keeps {held : Ref}
    (lowered : lowerOperator setting operator session = .ok ref after)
    (published : session.names.get? name = some held) :
    after.names.get? name = some (if name ∈ operator.outputs then ref else held) := by
  rcases lowerOperator_eq_ok.mp lowered with ⟨kind, mid, _, ruleSucceeds, rfl⟩
  have grown := (Steps.leaves_iff.mp (rule_grows setting operator _ kind)).1 _ _ _ ruleSucceeds
  rw [Registry.get?_bindAll, Registry.get?_of_prefix grown.names published]
  split
  · rfl
  · rfl

end Lower

end NetImport
