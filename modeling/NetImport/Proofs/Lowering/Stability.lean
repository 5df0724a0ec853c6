import NetImport.Proofs.Lowering.Fidelity
import NetImport.Proofs.Lowering.Promotion

/-!
# What names denote in the course of time

Callers resolve names and lower operators in any order, and operators that fail take back the
variables and names that they have made themselves, and no others. Once a name is bound it remains
bound, so that at most one variable of the graph is the promotion of a name, and what a name denotes
changes only when an operator publishes its result under that name.
-/

namespace NetImport

open Descriptor

/-! ## Actions one after the other -/

namespace Session

/-- Resolving a name makes the variable at a position. -/
def PromotesTo (session : Session) (name : Label) (index : Nat) : Prop :=
  session.names.get? name = none ∧ ∃ after, Lower.resolve name session = .ok (.var index) after

/-- Among actions, one after the other, there is one of some sort in the session that it finds. -/
inductive Sometime (setting : Setting) (Happens : Session → Action → Prop) :
    Session → List Action → Prop where
  | now {session : Session} {action : Action} {actions : List Action}
      (happens : Happens session action) : Sometime setting Happens session (action :: actions)
  | later {session : Session} {action : Action} {actions : List Action}
      (rest : Sometime setting Happens (action.perform setting session) actions) :
      Sometime setting Happens session (action :: actions)

end Session

namespace Action

/--
An action makes a variable for the stored tensor of a name: it resolves the name, or it lowers an
operator that resolves it behind other names.
-/
inductive Promotes (setting : Setting) (name : Label) (index : Nat) (session : Session) :
    Action → Prop where
  | resolve (promotes : session.PromotesTo name index) :
      Promotes setting name index session (.call (.resolve name))
  | lower {operator : Operator} {kind : OperatorKind} {ref : Ref} {after mid : Session}
      {earlier later : List Label} {refs : List Ref}
      (lowered : Lower.lowerOperator setting operator session = .ok ref after)
      (known : OperatorKind.ofLabel? operator.type = some kind)
      (split : kind.activations setting operator = earlier ++ name :: later)
      (resolved : Lower.resolveAll earlier session = .ok refs mid)
      (promotes : mid.PromotesTo name index) :
      Promotes setting name index session (.call (.lower operator))

/-- An action lowers an operator and publishes the result under a name. -/
def Rebinds (setting : Setting) (name : Label) (session : Session) : Action → Prop
  | call (.lower operator) => name ∈ operator.outputs ∧
    ∃ ref after, Lower.lowerOperator setting operator session = .ok ref after
  | _ => False

end Action

namespace Session

/-- In the course of actions, the variable at a position is made for the tensor of a name. -/
def Promoted (setting : Setting) (session : Session) (actions : List Action) (name : Label)
    (index : Nat) : Prop :=
  session.Sometime setting (Action.Promotes setting name index) actions

/-- In the course of actions, the result of an operator is published under a name. -/
def Rebound (setting : Setting) (session : Session) (actions : List Action) (name : Label) : Prop :=
  session.Sometime setting (Action.Rebinds setting name) actions

/--
A name denotes a reference: whether it is resolved at once or behind other names, by a caller or by
an operator, it is resolved to the reference, and no variable is made for it.
-/
structure Denotes (setting : Setting) (session : Session) (name : Label) (ref : Ref) : Prop where
  resolves : ∀ names refs mid, Lower.resolveAll names session = .ok refs mid →
    Lower.resolve name mid = .ok ref mid
  inputs : ∀ (operator : Operator) (kind : OperatorKind) (result : Ref) (after : Session),
    OperatorKind.ofLabel? operator.type = some kind →
      Lower.lowerOperator setting operator session = .ok result after →
        ∃ (inputs : List Ref) (mid : Session),
          Lower.resolveAll (kind.activations setting operator) session = .ok inputs mid ∧
          Lower.Emits setting session.tensors operator
            (Arguments.ofList kind.type operator.arguments) mid.graph kind inputs result
              after.graph ∧
          ∀ slot : Nat, (kind.activations setting operator)[slot]? = some name →
            inputs[slot]? = some ref
  notPromoted : ∀ (action : Action) (index : Nat), ¬action.Promotes setting name index session

/-- A name denotes a reference until an operator publishes its result under that name. -/
def Settles (setting : Setting) (session : Session) (name : Label) (ref : Ref) : Prop :=
  ∀ actions, ¬session.Rebound setting actions name →
    (session.performActions setting actions).Denotes setting name ref

variable {setting : Setting} {session mid : Session} {name : Label} {index : Nat} {ref : Ref}
  {action : Action} {actions : List Action}

theorem sometime_cons {Happens : Session → Action → Prop} :
    session.Sometime setting Happens (action :: actions) ↔
      Happens session action ∨
        (action.perform setting session).Sometime setting Happens actions := by
  constructor
  · rintro (happens | rest)
    · exact .inl happens
    · exact .inr rest
  · rintro (happens | rest)
    · exact .now happens
    · exact .later rest

theorem PromotesTo.stored (promotes : session.PromotesTo name index) :
    index = session.graph.vars.length ∧
      ∃ payload, session.tensors.get name = .ok payload ∧
        Lower.resolve name session = .ok (.var index) (session.promote name payload) := by
  rcases promotes with ⟨unpublished, after, resolved⟩
  rcases Lower.resolve_eq_ok.mp resolved with ⟨published, _⟩ | ⟨_, payload, stored, same, rfl⟩
  · rcases unpublished.symm.trans published with ⟨⟩
  · exact ⟨Ref.var.inj same, payload, stored, resolved⟩

end Session

namespace Lower

variable {setting : Setting} {operator : Operator} {session mid after : Session} {name : Label}
  {ref : Ref} {index : Nat} {kind : OperatorKind} {earlier later : List Label} {refs : List Ref}

/-- What an operator has promoted is there in the end, and the name is bound. -/
theorem promoted_of_lowered (valid : session.Valid)
    (lowered : lowerOperator setting operator session = .ok ref after)
    (known : OperatorKind.ofLabel? operator.type = some kind)
    (split : kind.activations setting operator = earlier ++ name :: later)
    (resolved : resolveAll earlier session = .ok refs mid) (promotes : mid.PromotesTo name index) :
    (∃ payload, after.graph.vars[index]? = some ⟨name, .internal, .broadcast, payload⟩) ∧
      ∃ bound, after.names.get? name = some bound := by
  rcases lowerOperator_resolves valid known lowered with ⟨inputs, full, allResolved, emits, names⟩
  rw [split] at allResolved
  rcases resolveAll_append_eq_ok.mp allResolved with ⟨_, _, _, alsoResolved, behind, _⟩
  rcases resolved.symm.trans alsoResolved with ⟨⟩
  rcases resolveAll_cons_eq_ok.mp behind with ⟨_, next, _, one, rest, _⟩
  rcases promotes.stored with ⟨rfl, payload, _, promoted⟩
  rcases one.symm.trans promoted with ⟨⟩
  have grown := resolveAll_growsTo rest
  constructor
  · refine ⟨payload, ?_⟩
    have grows := Graph.growsTo_trans grown.graph (emits_grows emits)
    rw [grows.var_get (by simp [Session.promote])]
    simp [Session.promote]
  · rw [names, Registry.get?_bindAll, Registry.get?_of_prefix grown.names (resolve_binds promoted)]
    split
    · exact ⟨_, rfl⟩
    · exact ⟨_, rfl⟩

end Lower

/-! ## What one action does -/

namespace Action

variable {setting : Setting} {session : Session} {name : Label} {index : Nat} {ref : Ref}
  {action : Action}

/-- Only a name that is not published is promoted. -/
theorem Promotes.unpublished (promotes : action.Promotes setting name index session) :
    session.names.get? name = none := by
  cases promotes with
  | resolve promotes => exact promotes.1
  | lower _ _ _ resolved promotes =>
      exact (Lower.resolveAll_growsTo resolved).unpublished promotes.1

/-- What lies in front of the first occurrence of an entry is determined by the list. -/
theorem eq_of_append_cons {Entry : Type} {entry : Entry} {one two others rest : List Entry}
    (notInOne : entry ∉ one) (notInTwo : entry ∉ two)
    (same : one ++ entry :: others = two ++ entry :: rest) : one = two := by
  rcases List.append_eq_append_iff.mp same with ⟨between, rfl, behind⟩ | ⟨between, rfl, behind⟩
  · cases between with
    | nil => exact (List.append_nil one).symm
    | cons first between =>
        rcases behind with ⟨⟩
        simp at notInTwo
  · cases between with
    | nil => exact List.append_nil two
    | cons first between =>
        rcases behind with ⟨⟩
        simp at notInOne

/-- An action promotes a name to one variable at most. -/
theorem Promotes.index_unique {other : Nat} (one : action.Promotes setting name index session)
    (two : action.Promotes setting name other session) : index = other := by
  cases one with
  | resolve promotes =>
      cases two with
      | resolve again => exact promotes.stored.1.trans again.stored.1.symm
  | lower lowered known split resolved promotes =>
      cases two with
      | lower _ alsoKnown otherSplit otherResolved again =>
          rcases Option.some.inj (known.symm.trans alsoKnown) with rfl
          rcases eq_of_append_cons (Lower.notMem_of_unpublished resolved promotes.1)
            (Lower.notMem_of_unpublished otherResolved again.1) (split.symm.trans otherSplit)
            with rfl
          rcases resolved.symm.trans otherResolved with ⟨⟩
          exact promotes.stored.1.trans again.stored.1.symm

/-- What an action has promoted is there behind it, and the name is bound. -/
theorem Promotes.holds (valid : session.Valid)
    (promotes : action.Promotes setting name index session) :
    (∃ payload, (action.perform setting session).graph.vars[index]? =
        some ⟨name, .internal, .broadcast, payload⟩) ∧
      ∃ bound, (action.perform setting session).names.get? name = some bound := by
  cases promotes with
  | resolve promotes =>
      rcases promotes.stored with ⟨rfl, payload, _, resolved⟩
      simp only [Action.perform, Call.perform, resolved, Steps.stateOf]
      exact ⟨⟨payload, by simp [Session.promote]⟩, _, Lower.resolve_binds resolved⟩
  | lower lowered known split resolved promotes =>
      simp only [Action.perform, Call.perform, lowered, Steps.stateOf]
      exact Lower.promoted_of_lowered valid lowered known split resolved promotes

/-- What was published is published behind an action that publishes nothing else there. -/
theorem perform_keeps (published : session.names.get? name = some ref)
    (kept : ¬action.Rebinds setting name session) :
    (action.perform setting session).names.get? name = some ref := by
  cases action with
  | restock tensors => exact published
  | call asked =>
      cases asked with
      | resolve asked =>
          simp only [Action.perform, Call.perform]
          cases outcome : Lower.resolve asked session with
          | ok found after =>
              exact Registry.get?_of_prefix (Lower.resolve_growsTo outcome).names published
          | error error after =>
              rcases Lower.resolve_eq_error.mp outcome with ⟨_, _, rfl⟩
              exact published
      | lower operator =>
          simp only [Action.perform, Call.perform]
          cases outcome : Lower.lowerOperator setting operator session with
          | ok result after =>
              have notListed : name ∉ operator.outputs := fun listed => kept ⟨listed, _, _, outcome⟩
              have kept := Lower.lowerOperator_keeps outcome published
              rwa [if_neg notListed] at kept
          | error error after =>
              rw [Lower.lowerOperator_restores outcome]
              exact published
      | finalize externalOutputs =>
          simp only [Action.perform, Call.perform]
          cases outcome : Lower.finalize setting externalOutputs session with
          | ok result after =>
              rcases Lower.finalize_eq_ok.mp outcome with ⟨_, _, _, _, _, _, _, _, rfl⟩
              exact published
          | error error after =>
              rw [Lower.finalize_restores outcome]
              exact published

/-- A name that is bound remains bound. -/
theorem perform_binds (published : ∃ held, session.names.get? name = some held) :
    ∃ bound, (action.perform setting session).names.get? name = some bound := by
  rcases published with ⟨held, published⟩
  by_cases rebinds : action.Rebinds setting name session
  · cases action with
    | restock tensors => exact ⟨held, published⟩
    | call asked =>
        cases asked with
        | lower operator =>
            rcases rebinds with ⟨_, result, after, lowered⟩
            simp only [Action.perform, Call.perform, lowered, Steps.stateOf]
            exact ⟨_, Lower.lowerOperator_keeps lowered published⟩
        | resolve asked => exact rebinds.elim
        | finalize externalOutputs => exact rebinds.elim
  · exact ⟨held, perform_keeps published rebinds⟩

end Action

/-! ## What a sequence of actions does -/

namespace Session

variable {setting : Setting} {session : Session} {name : Label} {index : Nat} {ref : Ref}
  {actions : List Action}

theorem performActions_cons (action : Action) :
    session.performActions setting (action :: actions) =
      (action.perform setting session).performActions setting actions := rfl

/-- A name that is bound is not promoted any more. -/
theorem not_promoted_of_bound (bound : ∃ held, session.names.get? name = some held) :
    ¬session.Promoted setting actions name index := by
  induction actions generalizing session with
  | nil => rintro ⟨⟩
  | cons action actions hypothesis =>
      rintro (promotes | rest)
      · rcases bound with ⟨held, published⟩
        rcases promotes.unpublished.symm.trans published with ⟨⟩
      · exact hypothesis (Action.perform_binds bound) rest

/-- In the course of actions, a name is promoted once at most. -/
theorem promoted_unique {other : Nat} (linked : session.Linked setting.function)
    (one : session.Promoted setting actions name index)
    (two : session.Promoted setting actions name other) : index = other := by
  induction actions generalizing session with
  | nil => cases one
  | cons action actions hypothesis =>
      rcases sometime_cons.mp one with promotes | rest
      · rcases sometime_cons.mp two with again | late
        · exact promotes.index_unique again
        · exact absurd late (not_promoted_of_bound (promotes.holds linked.valid).2)
      · rcases sometime_cons.mp two with early | again
        · exact absurd rest (not_promoted_of_bound (early.holds linked.valid).2)
        · exact hypothesis (perform_action_builds linked action).linked rest again

/-- What has been promoted in the course of actions is there in the end. -/
theorem promoted_holds (linked : session.Linked setting.function)
    (promoted : session.Promoted setting actions name index) :
    ∃ payload, (session.performActions setting actions).graph.vars[index]? =
      some ⟨name, .internal, .broadcast, payload⟩ := by
  induction actions generalizing session with
  | nil => cases promoted
  | cons action actions hypothesis =>
      have builds := perform_action_builds linked action
      rw [performActions_cons]
      rcases sometime_cons.mp promoted with promotes | rest
      · rcases (promotes.holds linked.valid).1 with ⟨payload, isVar⟩
        have grows := (performActions_builds builds.linked actions).graph.grows
        have inside := (List.getElem?_eq_some_iff.mp isVar).1
        exact ⟨payload, (grows.var_get inside).trans isVar⟩
      · exact hypothesis builds.linked rest

/-- What was published is published in the end, unless a result has been published there. -/
theorem performActions_keeps (published : session.names.get? name = some ref)
    (kept : ¬session.Rebound setting actions name) :
    (session.performActions setting actions).names.get? name = some ref := by
  induction actions generalizing session with
  | nil => exact published
  | cons action actions hypothesis =>
      exact hypothesis (Action.perform_keeps published fun rebinds => kept (.now rebinds))
        fun rebound => kept (.later rebound)

/-- What is published under a name is what it denotes. -/
theorem denotes_of_published (valid : session.Valid)
    (published : session.names.get? name = some ref) : session.Denotes setting name ref where
  resolves names refs mid resolved := Lower.resolve_of_published
    (Registry.get?_of_prefix (Lower.resolveAll_growsTo resolved).names published)
  inputs operator kind result after known lowered := by
    rcases Lower.lowerOperator_resolves valid known lowered with ⟨inputs, mid, resolved, emits, _⟩
    refine ⟨inputs, mid, resolved, emits, ?_⟩
    intro slot named
    rcases Lower.resolveAll_slot resolved named with ⟨found, isInput, bound⟩
    have kept := Registry.get?_of_prefix (Lower.resolveAll_growsTo resolved).names published
    rwa [Option.some.inj (kept.symm.trans bound)]
  notPromoted action index promotes := by
    rcases promotes.unpublished.symm.trans published with ⟨⟩

theorem settles_of_published (linked : session.Linked setting.function)
    (published : session.names.get? name = some ref) : session.Settles setting name ref :=
  fun actions kept => denotes_of_published (performActions_builds linked actions).linked.valid
    (performActions_keeps published kept)

/-- What an operator that is lowered has resolved or published is what a name denotes behind it. -/
theorem settles_of_lowered {operator : Operator} {kind : OperatorKind} {after : Session}
    (linked : session.Linked setting.function)
    (known : OperatorKind.ofLabel? operator.type = some kind)
    (lowered : Lower.lowerOperator setting operator session = .ok ref after) :
    (name ∈ operator.outputs → after.Settles setting name ref) ∧
      ∃ (inputs : List Ref) (mid : Session),
        Lower.resolveAll (kind.activations setting operator) session = .ok inputs mid ∧
          ∀ slot : Nat, (kind.activations setting operator)[slot]? = some name →
            name ∉ operator.outputs →
              ∃ bound, inputs[slot]? = some bound ∧ after.Settles setting name bound := by
  have builds := Lower.lowerOperator_builds linked lowered
  rcases Lower.lowerOperator_resolves linked.valid known lowered with
    ⟨inputs, mid, resolved, _, names⟩
  constructor
  · intro listed
    apply settles_of_published builds.linked
    rw [names, Registry.get?_bindAll, if_pos listed]
  · refine ⟨inputs, mid, resolved, ?_⟩
    intro slot named notListed
    rcases Lower.resolveAll_slot resolved named with ⟨bound, isInput, published⟩
    refine ⟨bound, isInput, settles_of_published builds.linked ?_⟩
    rw [names, Registry.get?_bindAll, if_neg notListed, published]

/--
Whatever actions are taken, succeeding or failing, at most one variable is the promotion of a name,
and it is there in the end. A name that is published, that is resolved by a caller, or that an
operator which is lowered lists among its outputs or resolves among its inputs, denotes the same
reference from then on, until an operator publishes its result under it. An operator that fails
leaves no promotion behind and takes none back that was there before.
-/
theorem promotion_is_stable (setting : Setting) (session : Session) (actions : List Action)
    (name : Label) (linked : session.Linked setting.function) :
    let reached := session.performActions setting actions
    (∀ first second, session.Promoted setting actions name first →
        session.Promoted setting actions name second → first = second) ∧
      (∀ index, session.Promoted setting actions name index →
        ∃ payload, reached.graph.vars[index]? = some ⟨name, .internal, .broadcast, payload⟩) ∧
      (∀ ref, reached.names.get? name = some ref → reached.Settles setting name ref) ∧
      (∀ ref after, Lower.resolve name reached = .ok ref after →
        after.Settles setting name ref) ∧
      (∀ (operator : Operator) (kind : OperatorKind) (ref : Ref) (after : Session),
        OperatorKind.ofLabel? operator.type = some kind →
        Lower.lowerOperator setting operator reached = .ok ref after →
          (name ∈ operator.outputs → after.Settles setting name ref) ∧
            ∃ (inputs : List Ref) (mid : Session),
              Lower.resolveAll (kind.activations setting operator) reached = .ok inputs mid ∧
                ∀ slot : Nat, (kind.activations setting operator)[slot]? = some name →
                  name ∉ operator.outputs →
                    ∃ bound, inputs[slot]? = some bound ∧ after.Settles setting name bound) ∧
      ∀ operator error after, Lower.lowerOperator setting operator reached = .error error after →
        after = { reached with notices := after.notices } := by
  intro reached
  have reachedLinked : reached.Linked setting.function :=
    (performActions_builds linked actions).linked
  refine ⟨fun _ _ one two => promoted_unique linked one two,
    fun _ promoted => promoted_holds linked promoted,
    fun _ published => settles_of_published reachedLinked published, ?_,
    fun _ _ _ _ known lowered => settles_of_lowered reachedLinked known lowered,
    fun _ _ _ fails => Lower.lowerOperator_restores fails⟩
  intro ref after resolved
  exact settles_of_published (Lower.resolve_builds reachedLinked resolved).1.linked
    (Lower.resolve_binds resolved)

/-- A weight is promoted by a caller; it survives a sum that fails and is the input of another. -/
theorem promotion_is_stable_sample :
    let actions : List Action :=
      [.call (.resolve "w"), .call (.lower Sample.clash), .call (.lower Sample.total)]
    let reached := Sample.session.performActions Sample.setting actions
    Sample.session.Promoted Sample.setting actions "w" 1 ∧
      (∃ payload, reached.graph.vars[1]? = some ⟨"w", .internal, .broadcast, payload⟩) ∧
      reached.graph.nodes.map Node.operands = [[.var 0, .var 1]] ∧
      Sample.session.Linked Sample.setting.function ∧
      reached.Settles Sample.setting "w" (.var 1) := by
  have linked : Sample.session.Linked Sample.setting.function := by
    intro name ref published
    rcases Sample.published_session published with ⟨_, rfl⟩
    exact Nat.zero_lt_one
  intro actions reached
  have promoted : Sample.session.Promoted Sample.setting actions "w" 1 :=
    .now (.resolve ⟨rfl, _, rfl⟩)
  have ⟨_, stays, settles, _⟩ :=
    promotion_is_stable Sample.setting Sample.session actions "w" linked
  exact ⟨promoted, stays 1 promoted, rfl, linked, settles _ rfl⟩

end Session

end NetImport
