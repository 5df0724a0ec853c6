import NetImport.Proofs.Import.Stages
import NetImport.Proofs.Lowering.Confinement

/-!
# Isolated imports

Imports into one function share its nodes and the variables of the graph, while each of them keeps
its own names and tensors, which it goes on using when a name is resolved later. A run is one import
with the resolutions that follow. No run touches what others have made, and what a run makes refers
only to what the same run has made, whatever names the runs have in common.
-/

namespace NetImport

open Descriptor
open NetImport.Graph (GrowsApart)
open Steps (Leaves leaves_bind leaves_forM leaves_get leaves_iff leaves_pure leaves_throw stateOf)

namespace Import

open Session (StaysApart)

variable {function : Nat} {base : Graph}

/-- A step that changes neither the graph nor the names leaves a session apart. -/
theorem staysApart_of_same {α : Type} {step : Lower α}
    (same : ∀ session, (stateOf (step session)).graph = session.graph ∧
      (stateOf (step session)).names = session.names) :
    Leaves (StaysApart function base) step := by
  intro session apart
  have ⟨graph, names⟩ := same session
  refine ⟨graph ▸ apart.graph, ?_⟩
  rw [graph, names]
  exact apart.names

theorem note_staysApart (notice : Notice) :
    Leaves (StaysApart function base) (Lower.note notice) :=
  staysApart_of_same fun _ => ⟨rfl, rfl⟩

theorem registerInput_staysApart (name : String) (input : Input) :
    Leaves (StaysApart function base) (registerInput name input) := by
  rw [leaves_iff]
  constructor
  · intro session _ after registered apart
    rcases registerInput_eq_ok.mp registered with ⟨tensor, _, rfl⟩
    have vars := apart.graph.grows.vars.length_le
    exact apart.bindAll [.text name] (Graph.growsTo_withVar _ _) apart.graph.withVar
      (by simpa using vars)
  · intro session error after fails apart
    rcases registerInput_eq_error.mp fails with ⟨_, rfl⟩
    exact apart

theorem load_staysApart (files : FileTree) (path : String) (limit : Int) :
    Leaves (StaysApart function base) (load files path limit) := by
  rw [leaves_iff]
  constructor
  · intro session net after loaded apart
    rcases load_eq_ok.mp loaded with ⟨_, rfl⟩
    exact ⟨apart.graph, apart.names⟩
  · intro session error after fails apart
    rcases load_eq_error.mp fails with ⟨_, rfl⟩
    exact apart

theorem fillWeights_staysApart (weights : Network) :
    Leaves (StaysApart function base) (fillWeights weights) := by
  refine staysApart_of_same fun session => ?_
  unfold fillWeights
  cases Fill.network weights ⟨session.tensors, session.notices⟩ with
  | ok value filling => exact ⟨rfl, rfl⟩
  | error error filling => exact ⟨rfl, rfl⟩

theorem prepare_staysApart (files : FileTree) (request : ImportRequest) :
    Leaves (StaysApart function base) (prepare files request) := by
  have rest : Leaves (StaysApart function base) (do
      registerAll (request.names.zip request.inputs)
      Lower.note (.importing request.netPath request.weightsPath)
      let network := Network.ofMessage (← load files request.netPath request.sizeLimit)
      let weights := Network.ofMessage (← load files request.weightsPath request.sizeLimit)
      fillWeights weights
      return network) := by
    refine leaves_bind (leaves_forM fun named => registerInput_staysApart _ _) fun _ => ?_
    refine leaves_bind (note_staysApart _) fun _ => ?_
    refine leaves_bind (load_staysApart _ _ _) fun net => ?_
    refine leaves_bind (load_staysApart _ _ _) fun weights => ?_
    exact leaves_bind (fillWeights_staysApart _) fun _ => leaves_pure _
  unfold prepare
  split
  · exact leaves_bind (leaves_throw _) fun _ => rest
  · exact rest

theorem complete_staysApart (request : ImportRequest) (network : Network) :
    Leaves (StaysApart function base) (complete function request network) := by
  refine leaves_bind (Lower.lowerNetwork_staysApart ⟨function, request.labels⟩ _ _) fun _ => ?_
  refine leaves_bind (Lower.finalize_staysApart ⟨function, request.labels⟩ _ _) fun root => ?_
  refine leaves_bind leaves_get fun session => ?_
  refine leaves_bind (note_staysApart _) fun _ => ?_
  dsimp only
  split
  · refine leaves_bind (note_staysApart _) fun _ => ?_
    exact leaves_bind (note_staysApart _) fun _ => leaves_pure _
  · exact leaves_pure _

/-- Whether it succeeds or fails, an import lets the graph grow apart and publishes what it adds. -/
theorem run_apart (files : FileTree) (function : Nat) (request : ImportRequest) (graph : Graph) :
    (stateOf (run files function request (start graph))).Apart function graph := by
  have staysApart : Leaves (StaysApart function graph) (run files function request) := by
    rw [run_eq_prepare_complete]
    exact leaves_bind (prepare_staysApart files request) fun network =>
      complete_staysApart request network
  apply staysApart
  refine ⟨Graph.growsApart_refl function graph, ?_⟩
  intro name ref published
  simp [start, Registry.empty, Registry.get?] at published

end Import

/-! ## Runs in a row -/

/-- The names and tensors with which a run that succeeded resolves further names. -/
structure Importer where
  names : Registry Label Ref
  tensors : TensorStore

/-- A graph, and for every run its importer, or none if the run failed. -/
structure Workspace where
  graph : Graph
  importers : List (Option Importer)

/-- What a caller does next: start a run, or let the importer of an earlier one resolve a name. -/
inductive Event where
  | construct (files : FileTree) (request : ImportRequest)
  | resolve (run : Nat) (name : Label)

namespace Workspace

/-- A graph before the first run. -/
def start (graph : Graph) : Workspace := ⟨graph, []⟩

def importer? (workspace : Workspace) (run : Nat) : Option Importer :=
  workspace.importers[run]?.join

end Workspace

namespace Event

/-- The run that an event belongs to: a new one, or that of the importer. -/
def run (workspace : Workspace) : Event → Nat
  | construct _ _ => workspace.importers.length
  | resolve run _ => run

/-- The workspace that an event leaves, whether what it asks for succeeds or fails. -/
def perform (function : Nat) (workspace : Workspace) : Event → Workspace
  | construct files request =>
    match Import.run files function request (Import.start workspace.graph) with
    | .ok _ session =>
      ⟨session.graph, workspace.importers ++ [some ⟨session.names, session.tensors⟩]⟩
    | .error _ session => ⟨session.graph, workspace.importers ++ [none]⟩
  | resolve run name =>
    match workspace.importer? run with
    | none => workspace
    | some importer =>
      match Lower.resolve name ⟨workspace.graph, importer.names, importer.tensors, []⟩ with
      | .ok _ session =>
        ⟨session.graph, workspace.importers.set run (some ⟨session.names, session.tensors⟩)⟩
      | .error _ session => { workspace with graph := session.graph }

end Event

namespace Workspace

variable {function : Nat} {workspace : Workspace} {event : Event} {events : List Event} {ref : Ref}
  {graph : Graph} {run : Nat}

/-- The workspace that events lead to, one after the other. -/
def performAll (function : Nat) (workspace : Workspace) (events : List Event) : Workspace :=
  events.foldl (Event.perform function) workspace

/-- Something that some event of a run has added to the graph. -/
def MadeBy (function : Nat) (workspace : Workspace) (events : List Event) (run : Nat) (ref : Ref) :
    Prop :=
  ∃ done event rest, events = done ++ event :: rest ∧
    event.run (workspace.performAll function done) = run ∧
    (workspace.performAll function done).graph.Gained
      (workspace.performAll function (done ++ [event])).graph ref

theorem performAll_concat :
    workspace.performAll function (events ++ [event]) =
      event.perform function (workspace.performAll function events) := by
  simp [performAll]

/-- What an event adds to a graph refers to nothing older. -/
theorem perform_apart (function : Nat) (workspace : Workspace) (event : Event) :
    GrowsApart function workspace.graph (event.perform function workspace).graph := by
  cases event with
  | construct files request =>
      have apart := (Import.run_apart files function request workspace.graph).graph
      simp only [Event.perform]
      cases outcome : Import.run files function request (Import.start workspace.graph) with
      | ok root session => simpa only [outcome, stateOf] using apart
      | error error session => simpa only [outcome, stateOf] using apart
  | resolve run name =>
      have unchanged := Graph.growsApart_refl function workspace.graph
      simp only [Event.perform]
      cases workspace.importer? run with
      | none => exact unchanged
      | some importer =>
          dsimp only
          cases outcome : Lower.resolve name ⟨workspace.graph, importer.names, importer.tensors, []⟩
            with
          | ok ref session =>
              rcases Lower.resolve_eq_ok.mp outcome with ⟨_, rfl⟩ | ⟨_, payload, _, _, rfl⟩
              · exact unchanged
              · exact unchanged.withVar
          | error error session =>
              rcases Lower.resolve_eq_error.mp outcome with ⟨_, _, rfl⟩
              exact unchanged

theorem performAll_grows (function : Nat) (workspace : Workspace) (events : List Event) :
    workspace.graph.GrowsTo (workspace.performAll function events).graph := by
  induction events generalizing workspace with
  | nil => exact workspace.graph.growsTo_refl
  | cons event events hypothesis =>
      exact Graph.growsTo_trans (perform_apart function workspace event).grows (hypothesis _)

theorem performAll_grows_append (function : Nat) (workspace : Workspace) (done rest : List Event) :
    (workspace.performAll function done).graph.GrowsTo
      (workspace.performAll function (done ++ rest)).graph := by
  have grows := performAll_grows function (workspace.performAll function done) rest
  simpa only [performAll, List.foldl_append] using grows

/-- Later events leave what earlier ones made as it was made. -/
theorem MadeBy.append (made : workspace.MadeBy function events run ref) (later : List Event) :
    workspace.MadeBy function (events ++ later) run ref := by
  rcases made with ⟨done, event, rest, rfl, same, gained⟩
  exact ⟨done, event, rest ++ later, by simp, same, gained⟩

theorem madeBy_last
    (gained : (workspace.performAll function events).graph.Gained
      (workspace.performAll function (events ++ [event])).graph ref) :
    workspace.MadeBy function (events ++ [event])
      (event.run (workspace.performAll function events)) ref :=
  ⟨events, event, [], by simp, rfl, gained⟩

/-- Everything that came to the graph since the start was made by some run. -/
theorem exists_madeBy
    (gained : workspace.graph.Gained (workspace.performAll function events).graph ref) :
    ∃ run, workspace.MadeBy function events run ref := by
  induction events using List.reverseRecOn with
  | nil => exact absurd gained.1 gained.2
  | append_singleton events event hypothesis =>
      by_cases older : (workspace.performAll function events).graph.holds ref
      · rcases hypothesis ⟨older, gained.2⟩ with ⟨run, made⟩
        exact ⟨run, made.append [event]⟩
      · exact ⟨_, madeBy_last ⟨gained.1, older⟩⟩

/-- What an event has added is there from then on, so that no later event can add it again. -/
theorem run_eq_of_gained {done between rest others : List Event} {last : Event}
    (split : event :: rest = between ++ last :: others)
    (gained : (workspace.performAll function done).graph.Gained
      (workspace.performAll function (done ++ [event])).graph ref)
    (again : ¬(workspace.performAll function (done ++ between)).graph.holds ref) :
    event.run (workspace.performAll function done) =
      last.run (workspace.performAll function (done ++ between)) := by
  cases between with
  | nil =>
      rw [List.nil_append, List.cons.injEq] at split
      rw [split.1, List.append_nil]
  | cons next between =>
      rw [List.cons_append, List.cons.injEq] at split
      have grows := performAll_grows_append function workspace (done ++ [event]) between
      rw [List.append_assoc, List.singleton_append, split.1] at grows
      exact absurd (grows.holds (split.1 ▸ gained.1)) again

theorem MadeBy.unique {other : Nat} (first : workspace.MadeBy function events run ref)
    (second : workspace.MadeBy function events other ref) : run = other := by
  rcases first with ⟨done, event, rest, rfl, rfl, gained⟩
  rcases second with ⟨otherDone, last, others, split, rfl, otherGained⟩
  rcases List.append_eq_append_iff.mp split with ⟨between, rfl, tail⟩ | ⟨between, rfl, tail⟩
  · exact run_eq_of_gained tail gained otherGained.2
  · exact (run_eq_of_gained tail otherGained gained.2).symm

theorem MadeBy.confines {index : Nat} {node : Node}
    (made : workspace.MadeBy function events run (.node index))
    (found : (workspace.performAll function events).graph.nodes[index]? = some node) :
    node.function = function ∧
      (∀ operand ∈ node.operands, workspace.MadeBy function events run operand) ∧
      ∀ output, node.operation.output? = some output →
        workspace.MadeBy function events run (.var output) := by
  rcases made with ⟨done, event, rest, rfl, same, gained⟩
  have apart := perform_apart function (workspace.performAll function done) event
  rw [← performAll_concat] at apart
  have grows := performAll_grows_append function workspace (done ++ [event]) rest
  have ⟨later, inside⟩ := Graph.gained_node.mp gained
  rw [List.append_assoc, List.singleton_append] at grows
  rw [grows.node_get inside] at found
  have confined := apart.confined index node later found
  refine ⟨confined.owner, ?_, ?_⟩
  · intro operand reads
    exact ⟨done, event, rest, rfl, same, confined.operands operand reads⟩
  · intro output writes
    exact ⟨done, event, rest, rfl, same, confined.output output writes⟩

theorem join_concat {importers : List (Option Importer)} {last : Option Importer}
    {importer : Importer} (kept : (importers ++ [last])[run]?.join = some importer) :
    importers[run]?.join = some importer ∨ importers.length = run ∧ last = some importer := by
  rcases Nat.lt_or_ge run importers.length with older | beyond
  · rw [List.getElem?_append_left older] at kept
    exact .inl kept
  · rw [List.getElem?_append_right beyond] at kept
    cases offset : run - importers.length with
    | zero =>
        rw [offset] at kept
        exact .inr ⟨by omega, kept⟩
    | succ further => simp [offset] at kept

theorem join_set {importers : List (Option Importer)} {other : Nat} {changed importer : Importer}
    (kept : (importers.set other (some changed))[run]?.join = some importer) :
    importers[run]?.join = some importer ∨ other = run ∧ changed = importer := by
  rw [List.getElem?_set] at kept
  split at kept
  · rename_i same
    split at kept
    · exact .inr ⟨same, Option.some.inj kept⟩
    · cases kept
  · exact .inl kept

/-- After an event, an importer publishes what it did before or what the event has added. -/
theorem published_perform {importer : Importer} {name : Label}
    (kept : (event.perform function workspace).importer? run = some importer)
    (published : importer.names.get? name = some ref) :
    (∃ older, workspace.importer? run = some older ∧ older.names.get? name = some ref) ∨
      event.run workspace = run ∧
        workspace.graph.Gained (event.perform function workspace).graph ref := by
  cases event with
  | construct files request =>
      have apart := Import.run_apart files function request workspace.graph
      simp only [Event.perform] at kept ⊢
      cases outcome : Import.run files function request (Import.start workspace.graph) with
      | ok root session =>
          simp only [outcome, stateOf] at kept apart ⊢
          rcases join_concat kept with older | ⟨rfl, new⟩
          · exact .inl ⟨importer, older, published⟩
          · rcases new with ⟨⟩
            exact .inr ⟨rfl, apart.names name ref published⟩
      | error error session =>
          simp only [outcome] at kept
          rcases join_concat kept with older | ⟨_, ⟨⟩⟩
          exact .inl ⟨importer, older, published⟩
  | resolve other wanted =>
      simp only [Event.perform] at kept ⊢
      cases current : workspace.importer? other with
      | none =>
          simp only [current] at kept
          exact .inl ⟨importer, kept, published⟩
      | some resolving =>
          simp only [current] at kept ⊢
          cases outcome : Lower.resolve wanted
              ⟨workspace.graph, resolving.names, resolving.tensors, []⟩ with
          | error error session =>
              simp only [outcome] at kept
              exact .inl ⟨importer, kept, published⟩
          | ok found session =>
              simp only [outcome] at kept ⊢
              rcases join_set kept with older | ⟨rfl, rfl⟩
              · exact .inl ⟨importer, older, published⟩
              · rcases Lower.resolve_eq_ok.mp outcome with ⟨_, rfl⟩ | ⟨_, payload, _, _, rfl⟩
                · exact .inl ⟨resolving, current, published⟩
                · rcases Registry.get?_bind_eq_some.mp published with ⟨_, rfl⟩ | ⟨_, older⟩
                  · exact .inr ⟨rfl, by simp [Session.promote]⟩
                  · exact .inl ⟨resolving, current, older⟩

/-- The names of an importer stand for what its own run has made. -/
theorem published_madeBy {importer : Importer} {name : Label}
    (kept : ((start graph).performAll function events).importer? run = some importer)
    (published : importer.names.get? name = some ref) :
    (start graph).MadeBy function events run ref := by
  -- On the last event: a name is published before it or denotes what it has added.
  induction events using List.reverseRecOn generalizing importer with
  | nil => simp [performAll, start, importer?] at kept
  | append_singleton events event hypothesis =>
      rw [performAll_concat] at kept
      rcases published_perform kept published with ⟨older, before, published⟩ | ⟨rfl, gained⟩
      · exact (hypothesis before published).append [event]
      · rw [← performAll_concat] at gained
        exact madeBy_last gained

/--
Runs on one function, whether they succeed or fail, are isolated: no event changes, removes or
reorders what was there before it, all that has been added was made by exactly one run, the nodes
that a run made read and write only what the same run made, and the names of its importer stand only
for that.
-/
theorem runs_are_isolated (function : Nat) (graph : Graph) (events : List Event) :
    (∀ done rest, events = done ++ rest →
        ((start graph).performAll function done).graph.GrowsTo
          ((start graph).performAll function events).graph) ∧
      (∀ ref, graph.Gained ((start graph).performAll function events).graph ref →
        ∃ run, (start graph).MadeBy function events run ref ∧
          ∀ other, (start graph).MadeBy function events other ref → other = run) ∧
      (∀ run index node, (start graph).MadeBy function events run (.node index) →
        ((start graph).performAll function events).graph.nodes[index]? = some node →
        node.function = function ∧
          (∀ operand ∈ node.operands, (start graph).MadeBy function events run operand) ∧
          ∀ output, node.operation.output? = some output →
            (start graph).MadeBy function events run (.var output)) ∧
      ∀ run importer name ref,
        ((start graph).performAll function events).importer? run = some importer →
        importer.names.get? name = some ref → (start graph).MadeBy function events run ref := by
  refine ⟨?_, ?_, ?_, ?_⟩
  · rintro done rest rfl
    exact performAll_grows_append function (start graph) done rest
  · intro ref gained
    rcases exists_madeBy gained with ⟨run, made⟩
    exact ⟨run, made, fun other again => again.unique made⟩
  · intro run index node made found
    exact made.confines found
  · intro run importer name ref kept published
    exact published_madeBy kept published

end Workspace

namespace Sample

open Workspace (start)

/--
Three runs that use the same names: the first one is given `x`, the second one too but lacks its
weights, the third one promotes `x`. At last the first one promotes `w`.
-/
def events : List Event :=
  [.construct folder request, .construct folder { request with weightsPath := "absent.pb" },
    .construct folder { request with names := [], inputs := [] }, .resolve 0 "w"]

end Sample

namespace Workspace

theorem runs_are_isolated_sample :
    ((start Sample.ground).performAll 0 Sample.events).graph.vars.map Variable.name =
        ["x", "output.var", "x", "x", "output.var", "w"] ∧
      ((start Sample.ground).performAll 0 Sample.events).graph.nodes.map Node.operands =
        [[.var 0], [.node 0], [.var 3], [.node 2]] ∧
      (start Sample.ground).MadeBy 0 Sample.events 2 (.node 2) ∧
      (start Sample.ground).MadeBy 0 Sample.events 2 (.var 3) := by
  have names : ((start Sample.ground).performAll 0 Sample.events).graph.vars.map Variable.name =
      ["x", "output.var", "x", "x", "output.var", "w"] := by decide +kernel
  have operands : ((start Sample.ground).performAll 0 Sample.events).graph.nodes.map Node.operands =
      [[.var 0], [.node 0], [.var 3], [.node 2]] := by decide +kernel
  have made : (start Sample.ground).MadeBy 0 Sample.events 2 (.node 2) :=
    ⟨Sample.events.take 2, _, [.resolve 0 "w"], rfl, by decide +kernel, by decide +kernel⟩
  have third := congrArg (fun lists => lists[2]?) operands
  simp only [List.getElem?_map] at third
  rcases Option.map_eq_some_iff.mp third with ⟨node, found, reads⟩
  have isolated := (runs_are_isolated 0 Sample.ground Sample.events).2.2.1 2 2 node made found
  exact ⟨names, operands, made, isolated.2.1 (.var 3) (by simp [reads])⟩

end Workspace

end NetImport
