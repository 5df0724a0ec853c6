import NetImport.Proofs.Lowering.Calls

/-!
# Soundness of sessions

What holds of a session after any calls. If all references are to variables and nodes that are still
there, and nodes read only what lies in front of them, then this remains so: what a failing call
takes back was not referred to from anywhere else. If lowering starts with an empty function, then
all nodes of the function are well typed in the end.
-/

namespace NetImport

open Descriptor

variable {setting : Setting} {session : Session} {function : Nat}

/-- A session without dangling references, and without cycles in a function of its graph. -/
structure Session.Intact (session : Session) (function : Nat) : Prop where
  variables_nodup : session.graph.variableRefs.Nodup
  nodes_nodup : (session.graph.nodeRefs function).Nodup
  /-- An operand is a variable or an earlier node. -/
  operands : ∀ earlier ref later, session.graph.nodeRefs function = earlier ++ ref :: later →
    ∀ operand ∈ session.graph.operandsOf ref,
      operand ∈ session.graph.variableRefs ∨ operand ∈ earlier
  /-- What a node writes is a variable. -/
  outputs : ∀ ref ∈ session.graph.nodeRefs function, ∀ output,
    session.graph.outputOf? ref = some output → .var output ∈ session.graph.variableRefs
  /-- What is published is a variable or a node. -/
  names : ∀ name ref, session.names.get? name = some ref →
    ref ∈ session.graph.variableRefs ∨ ref ∈ session.graph.nodeRefs function

theorem Session.intact_iff :
    session.Intact function ↔ session.graph.Closed function ∧ session.Linked function := by
  constructor
  · intro intact
    refine ⟨Graph.closed_of_lists intact.operands intact.outputs, ?_⟩
    intro name ref published
    exact Graph.linked_iff.mpr (intact.names name ref published)
  · rintro ⟨closed, linked⟩
    refine ⟨session.graph.nodup_variableRefs, session.graph.nodup_nodeRefs function, ?_, ?_, ?_⟩
    · intro earlier ref later split operand reads
      exact closed.operand_mem split reads
    · intro ref member output writes
      exact closed.output_mem member writes
    · intro name ref published
      exact Graph.linked_iff.mp (linked name ref published)

/-- Calls in any order, succeeding or failing, leave no dangling reference and no cycle behind. -/
theorem Session.intact_performAll (setting : Setting) (session : Session) (calls : List Call)
    (intact : session.Intact setting.function) :
    (session.performAll setting calls).Intact setting.function := by
  have ⟨closed, linked⟩ := intact_iff.mp intact
  have built := performAll_builds linked calls
  exact intact_iff.mpr ⟨built.graph.closed closed, built.linked⟩

/-- Calls that promote, succeed, fail after having promoted, save, and fail to save. -/
def Sample.calls : List Call :=
  [.resolve "w", .lower rectify, .lower clash, .lower total, .finalize ["z"], .finalize []]

/-- The sum that fails has made a variable and a node; what is made later takes their places. -/
theorem Session.intact_performAll_sample :
    (Sample.session.performAll Sample.setting Sample.calls).graph.nodes.map Node.operands =
        [[.var 0], [.node 0, .var 1], [.node 1]] ∧
      Sample.session.Intact Sample.setting.function ∧
      (Sample.session.performAll Sample.setting Sample.calls).Intact Sample.setting.function := by
  have intact : Sample.session.Intact Sample.setting.function := by
    refine intact_iff.mpr ⟨?_, ?_⟩
    · intro position node found
      simp [Sample.session] at found
    · intro name ref published
      rcases Sample.published_session published with ⟨_, rfl⟩
      exact Nat.zero_lt_one
  exact ⟨rfl, intact, intact_performAll Sample.setting Sample.session Sample.calls intact⟩

/--
From an empty function on, whatever calls are made, every node of the function follows the typing
rule of its operation, its operands lie in front of it, and no extent is negative.
-/
theorem Session.wellTyped_performAll (setting : Setting) (session : Session) (calls : List Call)
    (empty : ∀ node ∈ session.graph.nodes, node.function ≠ setting.function)
    (among : ∀ name ref, session.names.get? name = some ref → ref ∈ session.graph.variableRefs) :
    (session.performAll setting calls).graph.Closed setting.function ∧
      (session.performAll setting calls).graph.WellTyped setting.function ∧
      (session.performAll setting calls).graph.NonNegative setting.function := by
  have linked : session.Linked setting.function := by
    intro name ref published
    exact Graph.linked_iff.mpr (.inl (among name ref published))
  have closed : session.graph.Closed setting.function := by
    intro position node found owner
    exact absurd owner (empty node (List.mem_of_getElem? found))
  have typed : session.graph.WellTyped setting.function := by
    intro position node found owner
    exact absurd owner (empty node (List.mem_of_getElem? found))
  have built := (performAll_builds linked calls).graph
  have typedAfter := built.wellTyped closed typed
  exact ⟨built.closed closed, typedAfter, Graph.nonNegative_of_wellTyped typedAfter⟩

theorem Session.wellTyped_performAll_sample :
    (Sample.session.performAll Sample.setting Sample.calls).graph.nodes.map Node.operation =
        [.relu, .add, .save 2] ∧
      (Sample.session.performAll Sample.setting Sample.calls).graph.Closed 0 ∧
      (Sample.session.performAll Sample.setting Sample.calls).graph.WellTyped 0 ∧
      (Sample.session.performAll Sample.setting Sample.calls).graph.NonNegative 0 := by
  have empty : ∀ node ∈ Sample.session.graph.nodes, node.function ≠ Sample.setting.function := by
    simp [Sample.session]
  have among : ∀ name ref, Sample.session.names.get? name = some ref →
      ref ∈ Sample.session.graph.variableRefs := by
    intro name ref published
    rcases Sample.published_session published with ⟨_, rfl⟩
    decide
  exact ⟨rfl, wellTyped_performAll Sample.setting Sample.session Sample.calls empty among⟩

end NetImport
