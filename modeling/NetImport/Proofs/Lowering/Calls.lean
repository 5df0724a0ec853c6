import NetImport.Proofs.Lowering.Admission
import NetImport.Proofs.Lowering.Atomicity

/-!
# Calls in any order

A caller may resolve names, lower operators and save results in any order, and go on after a call
that failed. Every call, whether it succeeds or fails, only appends variables and admitted nodes to
the graph, and keeps published references linked, that is, to variables or to nodes of the function.
Hence a function that is closed and well typed remains so, whatever calls are made.
-/

namespace NetImport

open Descriptor

namespace Session

variable {base mid session : Session} {function : Nat}

/-- Published references are to variables and to nodes of a function. -/
def Linked (session : Session) (function : Nat) : Prop :=
  ∀ name ref, session.names.get? name = some ref → session.graph.Linked function ref

/-- A session whose graph has been built from that of another one, with linked names. -/
structure Builds (function : Nat) (base session : Session) : Prop where
  graph : Graph.Builds function base.graph session.graph
  linked : session.Linked function

theorem Linked.valid (linked : session.Linked function) : session.Valid :=
  fun name ref published => (linked name ref published).holds

theorem Linked.builds (linked : session.Linked function) : session.Builds function session :=
  ⟨.done, linked⟩

theorem Builds.trans (first : base.Builds function mid) (second : mid.Builds function session) :
    base.Builds function session :=
  ⟨first.graph.trans second.graph, second.linked⟩

/-- Names may be bound to whatever the graph of a session is extended by. -/
theorem Linked.bindAll {graph : Graph} {ref : Ref} (linked : session.Linked function)
    (names : List Label) (notices : List Notice) (grows : session.graph.GrowsTo graph)
    (refLinked : graph.Linked function ref) :
    Session.Linked ⟨graph, session.names.bindAll names ref, session.tensors, notices⟩ function := by
  intro name other published
  rcases Registry.get?_bindAll_eq_some.mp published with ⟨_, rfl⟩ | ⟨_, older⟩
  · exact refLinked
  · exact (linked name other older).grows grows

theorem builds_promote {name : Label} {payload : Tensor} (linked : session.Linked function) :
    session.Builds function (session.promote name payload) where
  graph := Graph.Builds.done.withVar
  linked := linked.bindAll [name] session.notices (Graph.growsTo_withVar _ _)
    Graph.linked_withVar_new

end Session

/-- A node that saves is admitted behind the variable that it writes. -/
theorem Graph.admits_save {graph : Graph} {function : Nat} {result : Ref}
    (linked : graph.Linked function result) (output : Variable) (name : Label)
    (same_shape : output.shape = graph.shapeOf result) :
    (graph.withVar output).Admits function
      ⟨function, name, .save graph.vars.length, [result], graph.shapeOf result⟩ := by
  have grows := growsTo_withVar graph output
  have result_shape : (graph.withVar output).shapeOf result = graph.shapeOf result :=
    grows.shapeOf_eq linked.holds
  refine ⟨rfl, ⟨?_, ?_⟩, ⟨?_, ?_⟩, ?_⟩
  · intro operand member
    rcases List.mem_singleton.mp member with rfl
    exact linked.grows grows
  · rintro _ ⟨⟩
    simp
  · simpa only [List.map_cons, List.map_nil, result_shape] using Typing.save
  · rintro _ ⟨⟩
    exact shapeOf_withVar_new.trans same_shape
  · intro nonNegative
    exact result_shape ▸ nonNegative result (linked.grows grows)

namespace Lower

variable {setting : Setting} {operator : Operator} {session after : Session} {name : Label}
  {ref : Ref} {function : Nat}

theorem resolve_builds (linked : session.Linked function)
    (resolved : resolve name session = .ok ref after) :
    session.Builds function after ∧ after.graph.Linked function ref := by
  rcases resolve_eq_ok.mp resolved with ⟨published, rfl⟩ | ⟨_, payload, _, rfl, rfl⟩
  · exact ⟨linked.builds, linked name ref published⟩
  · exact ⟨Session.builds_promote linked, Graph.linked_withVar_new⟩

theorem resolveAll_builds {names : List Label} {refs : List Ref} (linked : session.Linked function)
    (resolved : resolveAll names session = .ok refs after) :
    session.Builds function after ∧ ∀ ref ∈ refs, after.graph.Linked function ref := by
  have step : ∀ mid name ref next, session.Builds function mid → resolve name mid = .ok ref next →
      session.Builds function next ∧ next.graph.Linked function ref := by
    intro mid name ref next builds one
    have ⟨oneBuilds, refLinked⟩ := resolve_builds builds.linked one
    exact ⟨builds.trans oneBuilds, refLinked⟩
  have ⟨builds, each⟩ := resolveAll_induction step
    (fun _ _ _ _ grown refLinked => refLinked.grows grown.graph) linked.builds resolved
  exact ⟨builds, forall_mem_of_forall₂ each⟩

/-- An operator that is lowered appends what its rule emits, behind the promotions of its inputs. -/
theorem lowerOperator_builds (linked : session.Linked setting.function)
    (lowered : lowerOperator setting operator session = .ok ref after) :
    session.Builds setting.function after := by
  rcases lowerOperator_eq_ok.mp lowered with ⟨kind, mid, _, ruleSucceeds, rfl⟩
  rcases rule_lowered linked.valid ruleSucceeds with ⟨resolved, emits, rfl⟩
  have ⟨promoted, inputsLinked⟩ := resolveAll_builds linked resolved
  have yields := emits_yields emits inputsLinked
  exact promoted.trans
    ⟨yields.built, promoted.linked.bindAll operator.outputs _ yields.built.grows yields.linked⟩

/-- A saved result is written to a new variable of its shape. -/
theorem finalize_builds {externalOutputs : List Label} (linked : session.Linked setting.function)
    (saved : finalize setting externalOutputs session = .ok ref after) :
    session.Builds setting.function after := by
  rcases finalize_eq_ok.mp saved with
    ⟨name, others, result, zeros, rfl, published, filled, rfl, rfl⟩
  have resultLinked := linked name result published
  have admitted := Graph.admits_save (linked name result published)
    ⟨Label.part "output" ".var", .external, .none, zeros⟩ "output" (shape_of_filled filled)
  refine ⟨Graph.Builds.done.withVar.withNode admitted, ?_⟩
  intro other ref published
  exact (linked other ref published).grows
    (Graph.growsTo_trans (Graph.growsTo_withVar _ _) (Graph.growsTo_withNode _ _))

end Lower

/-! ## Calls -/

/-- What a caller asks of a session. -/
inductive Call where
  | resolve (name : Label)
  | lower (operator : Operator)
  | finalize (externalOutputs : List Label)

/-- The session that a call leads to, whether the call succeeds or fails. -/
def Call.perform (setting : Setting) (session : Session) : Call → Session
  | resolve name => Steps.stateOf (Lower.resolve name session)
  | lower operator => Steps.stateOf (Lower.lowerOperator setting operator session)
  | finalize externalOutputs => Steps.stateOf (Lower.finalize setting externalOutputs session)

/-- The session that calls lead to, one after the other. -/
def Session.performAll (setting : Setting) (session : Session) (calls : List Call) : Session :=
  calls.foldl (Call.perform setting) session

variable {setting : Setting} {session after : Session}

theorem Session.Linked.withNotices {function : Nat} (linked : session.Linked function)
    (same : after = { session with notices := after.notices }) :
    session.Builds function after := by
  rw [same]
  exact ⟨.done, linked⟩

/-- A state is built from a session if it is both after a success and after a failure. -/
theorem Session.builds_stateOf {α : Type} {function : Nat}
    {outcome : EStateM.Result Error Session α}
    (succeeds : ∀ value after, outcome = .ok value after → session.Builds function after)
    (fails : ∀ error after, outcome = .error error after → session.Builds function after) :
    session.Builds function (Steps.stateOf outcome) := by
  cases outcome with
  | ok value after => exact succeeds value after rfl
  | error error after => exact fails error after rfl

/-- A call appends variables and admitted nodes, or it fails and leaves all but the notices. -/
theorem Call.perform_builds (linked : session.Linked setting.function) (call : Call) :
    session.Builds setting.function (call.perform setting session) := by
  cases call with
  | resolve name =>
      apply Session.builds_stateOf
      · intro ref after resolved
        exact (Lower.resolve_builds linked resolved).1
      · intro error after fails
        rcases Lower.resolve_eq_error.mp fails with ⟨_, _, rfl⟩
        exact linked.builds
  | lower operator =>
      apply Session.builds_stateOf
      · intro ref after lowered
        exact Lower.lowerOperator_builds linked lowered
      · intro error after fails
        exact linked.withNotices (Lower.lowerOperator_restores fails)
  | finalize externalOutputs =>
      apply Session.builds_stateOf
      · intro ref after saved
        exact Lower.finalize_builds linked saved
      · intro error after fails
        exact linked.withNotices (Lower.finalize_restores fails)

theorem Session.performAll_builds (linked : session.Linked setting.function) (calls : List Call) :
    session.Builds setting.function (session.performAll setting calls) := by
  induction calls generalizing session with
  | nil => exact linked.builds
  | cons call calls hypothesis =>
      have first := call.perform_builds linked
      exact first.trans (hypothesis first.linked)

end NetImport
