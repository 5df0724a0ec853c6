import Mathlib.Data.List.Dedup
import NetImport.Proofs.Graph.Factory
import NetImport.Proofs.Shape

/-!
# Dropping axes

What a squeeze leaves of a shape are the extents on the axes that are not listed. In what order the
axes are listed, and how often, makes no difference. Axes can be dropped in two steps as well as at
once: an axis that is left after the first step has as many axes in front of it as before, less the
dropped ones, which gives the number that the second step has to use for it.
-/

namespace NetImport

namespace Shape

/-- A shape has an axis of this number, and its extent is one. -/
def HasUnit (shape : Shape) (axis : Int) : Prop := 0 ≤ axis ∧ shape[axis.toNat]? = some 1

end Shape

namespace Graph

variable {operand : Shape} {axes others first second : List Int} {rank : Nat} {axis : Int}

theorem squeezable_iff_hasUnit : squeezable operand axis ↔ operand.HasUnit axis := by
  rw [squeezable_iff, Shape.HasUnit, Shape.extentAt, List.getD_eq_getElem?_getD, and_assoc]
  refine and_congr_right fun notNegative => ?_
  cases found : operand[axis.toNat]? with
  | none =>
      have beyond := List.getElem?_eq_none_iff.mp found
      simp only [Option.getD_none, and_true, reduceCtorEq, iff_false]
      omega
  | some extent =>
      have inside := (List.getElem?_eq_some_iff.mp found).1
      simp only [Option.getD_some, Option.some.injEq, and_iff_right_iff_imp]
      omega

/-! ## The listed axes as a set -/

@[simp]
theorem mem_sortedAxes : axis ∈ sortedAxes axes ↔ axis ∈ axes := by
  rw [sortedAxes, List.mem_eraseDups, List.mem_mergeSort]

/-- The sorted axes are the same for all lists of the same axes. -/
theorem sortedAxes_congr (same : ∀ axis, axis ∈ others ↔ axis ∈ axes) :
    sortedAxes others = sortedAxes axes := by
  have distinct : ∀ listed, (sortedAxes listed).Nodup := fun listed =>
    (pairwise_sortedAxes listed).imp fun less => Int.ne_of_lt less
  have reordered : (sortedAxes others).Perm (sortedAxes axes) := by
    rw [List.perm_ext_iff_of_nodup (distinct others) (distinct axes)]
    simpa using same
  exact reordered.eq_of_pairwise
    (fun _ _ _ _ less greater => absurd less (Int.lt_asymm greater))
    (pairwise_sortedAxes others) (pairwise_sortedAxes axes)

theorem createSqueeze_congr (function : Nat) (name : Label) (input : Ref)
    (same : ∀ axis, axis ∈ others ↔ axis ∈ axes) :
    createSqueeze function name input others = createSqueeze function name input axes := by
  simp only [createSqueeze, sortedAxes_congr same]

/-! ## The axes that are left -/

/-- The axes of a rank that are not listed, in ascending order. -/
def unlisted (rank : Nat) (axes : List Int) : List Nat :=
  (List.range rank).filter fun axis => (axis : Int) ∉ axes

@[simp]
theorem mem_unlisted {place : Nat} :
    place ∈ unlisted rank axes ↔ place < rank ∧ (place : Int) ∉ axes := by
  simp [unlisted]

theorem dropAxes_eq_map :
    dropAxes operand axes =
      (unlisted operand.length axes).map fun axis : Nat => operand.extentAt axis := by
  have numbered : operand.zipIdx =
      (List.range operand.length).map fun axis : Nat => (operand.extentAt axis, axis) := by
    apply List.ext_getElem
    · simp
    · intro place inside _
      simp only [List.length_zipIdx] at inside
      simp [Shape.extentAt, inside]
  simp only [dropAxes, numbered, List.filter_map, List.map_map, unlisted]
  rfl

theorem unlisted_succ :
    unlisted (rank + 1) axes =
      unlisted rank axes ++ if (rank : Int) ∈ axes then [] else [rank] := by
  by_cases listed : (rank : Int) ∈ axes
  · simp [unlisted, List.range_succ, listed]
  · simp [unlisted, List.range_succ, listed]

/-! ## Two steps -/

/-- How many of the listed axes come before an axis; an axis that is listed twice counts once. -/
def countBefore (axes : List Int) (axis : Int) : Nat :=
  axes.dedup.countP fun listed => listed < axis

/-- The number of an axis once the listed axes are dropped. -/
def renumbered (dropped : List Int) (axis : Int) : Int := axis - countBefore dropped axis

theorem countBefore_zero (notNegative : ∀ axis ∈ axes, 0 ≤ axis) : countBefore axes 0 = 0 := by
  rw [countBefore, List.countP_eq_zero]
  intro listed member
  have := notNegative listed (List.mem_dedup.mp member)
  simp only [decide_eq_true_eq]
  omega

theorem countBefore_succ :
    countBefore axes (axis + 1) = countBefore axes axis + if axis ∈ axes then 1 else 0 := by
  have step : ∀ listed : List Int, (listed.countP fun other => other < axis + 1) =
      (listed.countP fun other => other < axis) + listed.count axis := by
    intro listed
    induction listed with
    | nil => rfl
    | cons other rest hypothesis =>
        simp only [List.countP_cons, List.count_cons, hypothesis, decide_eq_true_eq, beq_iff_eq]
        split_ifs <;> omega
  rw [countBefore, step, List.count_dedup]
  rfl

/-- The axes below a rank are listed or left. -/
theorem countBefore_add_length_unlisted (notNegative : ∀ axis ∈ axes, 0 ≤ axis) (rank : Nat) :
    countBefore axes rank + (unlisted rank axes).length = rank := by
  induction rank with
  | zero => simp [unlisted, countBefore_zero notNegative]
  | succ rank hypothesis =>
      rw [Int.natCast_succ, countBefore_succ, unlisted_succ]
      by_cases listed : (rank : Int) ∈ axes
      · simp only [listed, if_true, List.append_nil]
        omega
      · simp only [listed, if_false, List.length_append, List.length_singleton]
        omega

/-- The axes that are left are numbered in their order. -/
theorem renumbered_unlisted (notNegative : ∀ axis ∈ axes, 0 ≤ axis) {place left : Nat}
    (found : (unlisted rank axes)[place]? = some left) : renumbered axes left = place := by
  -- The last axis, if it is left, comes behind all others that are left, which are counted.
  induction rank with
  | zero => simp [unlisted] at found
  | succ rank hypothesis =>
      rw [unlisted_succ, List.getElem?_append] at found
      split at found
      · exact hypothesis found
      · rename_i beyond
        by_cases listed : (rank : Int) ∈ axes
        · simp [listed] at found
        · simp only [listed, if_false, List.getElem?_singleton, Option.ite_none_right_eq_some,
            Option.some.injEq] at found
          rcases found with ⟨last, rfl⟩
          have counted := countBefore_add_length_unlisted notNegative rank
          rw [renumbered]
          omega

/-- An axis that is left is to be dropped in the second step if it was to be dropped before. -/
theorem mem_map_renumbered_iff (notNegative : ∀ axis ∈ first, 0 ≤ axis)
    (inside : ∀ axis ∈ second, 0 ≤ axis ∧ axis < rank) (apart : ∀ axis ∈ first, axis ∉ second)
    {place left : Nat} (found : (unlisted rank first)[place]? = some left) :
    (place : Int) ∈ second.map (renumbered first) ↔ (left : Int) ∈ second := by
  constructor
  · intro member
    rcases List.mem_map.mp member with ⟨axis, listed, number⟩
    have ⟨axis_nonneg, axis_lt⟩ := inside axis listed
    lift axis to Nat using axis_nonneg
    have axisLeft : axis ∈ unlisted rank first :=
      mem_unlisted.mpr ⟨by omega, fun dropped => apart axis dropped listed⟩
    rcases List.mem_iff_getElem?.mp axisLeft with ⟨axisPlace, axisFound⟩
    have axisNumber := renumbered_unlisted notNegative axisFound
    obtain rfl : axisPlace = place := by omega
    rcases Option.some.inj (axisFound.symm.trans found) with rfl
    exact listed
  · intro listed
    exact List.mem_map.mpr ⟨left, listed, renumbered_unlisted notNegative found⟩

theorem dropAxes_dropAxes (notNegative : ∀ axis ∈ first, 0 ≤ axis)
    (inside : ∀ axis ∈ second, 0 ≤ axis ∧ axis < operand.length)
    (apart : ∀ axis ∈ first, axis ∉ second) :
    dropAxes (dropAxes operand first) (second.map (renumbered first)) =
      dropAxes operand (first ++ second) := by
  let left := unlisted operand.length first
  let extent : Nat → Int := fun axis => operand.extentAt axis
  have same : ∀ pair ∈ left.zipIdx,
      decide ((pair.2 : Int) ∉ second.map (renumbered first)) =
        decide ((pair.1 : Int) ∉ second) := by
    rintro ⟨axis, place⟩ member
    have found := List.mem_zipIdx_iff_getElem?.mp member
    simp only [mem_map_renumbered_iff notNegative inside apart found]
  calc
    dropAxes (dropAxes operand first) (second.map (renumbered first))
      = ((left.map extent).zipIdx.filter fun pair =>
          decide ((pair.2 : Int) ∉ second.map (renumbered first))).map Prod.fst := by
        rw [show dropAxes operand first = left.map extent from dropAxes_eq_map]
        rfl
    _ = ((left.zipIdx.filter fun pair =>
          decide ((pair.2 : Int) ∉ second.map (renumbered first))).map Prod.fst).map extent := by
        rw [List.zipIdx_map, List.filter_map, List.map_map, List.map_map]
        rfl
    _ = ((left.zipIdx.filter fun pair => decide ((pair.1 : Int) ∉ second)).map Prod.fst).map
          extent := by
        rw [List.filter_congr same]
    _ = (left.filter fun axis : Nat => decide ((axis : Int) ∉ second)).map extent := by
        conv_rhs => rw [← List.zipIdx_map_fst 0 left, List.filter_map]
        rfl
    _ = dropAxes operand (first ++ second) := by
        rw [dropAxes_eq_map]
        simp only [left, extent, unlisted, List.filter_filter, List.mem_append, not_or,
          Bool.decide_and, Bool.and_comm]

example : renumbered [4, 0, 4] 2 = 1 ∧ dropAxes [1, 7, 1, 5, 1] [4, 0, 4] = [7, 1, 5] ∧
    dropAxes [7, 1, 5] [1] = [7, 5] := by
  decide

/-- An axis of extent one that is not dropped is one under its new number. -/
theorem hasUnit_dropAxes (notNegative : ∀ axis ∈ first, 0 ≤ axis) (unit : operand.HasUnit axis)
    (kept : axis ∉ first) : (dropAxes operand first).HasUnit (renumbered first axis) := by
  have ⟨axis_nonneg, extent_eq⟩ := unit
  lift axis to Nat using axis_nonneg
  have inside := (List.getElem?_eq_some_iff.mp extent_eq).1
  have left : axis ∈ unlisted operand.length first := mem_unlisted.mpr ⟨inside, kept⟩
  rcases List.mem_iff_getElem?.mp left with ⟨place, found⟩
  rw [renumbered_unlisted notNegative found, dropAxes_eq_map]
  refine ⟨by omega, ?_⟩
  rw [Int.toNat_natCast] at extent_eq
  simp [found, Shape.extentAt, List.getD_eq_getElem?_getD, extent_eq]

/-! ## The squeezed node -/

section Squeezes

variable {graph : Graph} {function : Nat} {name again : Label} {input ref : Ref} {after : Graph}

/-- The node of a squeeze, which records the dropped axes in ascending order. -/
def squeezed (graph : Graph) (function : Nat) (name : Label) (input : Ref) (axes : List Int) :
    Node :=
  ⟨function, name, .squeeze (sortedAxes axes), [input], dropAxes (graph.shapeOf input) axes⟩

theorem createSqueeze_eq_ok_iff :
    createSqueeze function name input axes graph = .ok ref after ↔
      (∀ axis ∈ axes, (graph.shapeOf input).HasUnit axis) ∧ ref = .node graph.nodes.length ∧
        after = graph.withNode (squeezed graph function name input axes) := by
  have same : dropAxes (graph.shapeOf input) (sortedAxes axes) =
      dropAxes (graph.shapeOf input) axes := by
    simp only [dropAxes, mem_sortedAxes]
  rw [createSqueeze_eq_ok, same]
  simp only [mem_sortedAxes, squeezable_iff_hasUnit, squeezed]

/-- Two sets of axes without a common one can be dropped one after the other. -/
theorem createSqueeze_twice (firstUnits : ∀ axis ∈ first, (graph.shapeOf input).HasUnit axis)
    (secondUnits : ∀ axis ∈ second, (graph.shapeOf input).HasUnit axis)
    (apart : ∀ axis ∈ first, axis ∉ second) :
    ∃ half mid last after joint whole,
      createSqueeze function name input first graph = .ok half mid ∧
      createSqueeze function again half (second.map (renumbered first)) mid = .ok last after ∧
      createSqueeze function name input (first ++ second) graph = .ok joint whole ∧
      after.shapeOf last = whole.shapeOf joint := by
  have notNegative : ∀ axis ∈ first, 0 ≤ axis := fun axis listed => (firstUnits axis listed).1
  have inside : ∀ axis ∈ second, 0 ≤ axis ∧ axis < (graph.shapeOf input).length := by
    intro axis listed
    have ⟨axis_nonneg, extent_eq⟩ := secondUnits axis listed
    have := (List.getElem?_eq_some_iff.mp extent_eq).1
    omega
  have together : ∀ axis ∈ first ++ second, (graph.shapeOf input).HasUnit axis := by
    intro axis listed
    rcases List.mem_append.mp listed with inFirst | inSecond
    · exact firstUnits axis inFirst
    · exact secondUnits axis inSecond
  let half : Ref := .node graph.nodes.length
  let mid := graph.withNode (squeezed graph function name input first)
  have half_shape : mid.shapeOf half = dropAxes (graph.shapeOf input) first :=
    shapeOf_withNode_new
  have left : ∀ axis ∈ second.map (renumbered first), (mid.shapeOf half).HasUnit axis := by
    intro number listed
    rcases List.mem_map.mp listed with ⟨axis, inSecond, rfl⟩
    rw [half_shape]
    exact hasUnit_dropAxes notNegative (secondUnits axis inSecond)
      fun inFirst => apart axis inFirst inSecond
  refine ⟨half, mid, _, _, _, _, createSqueeze_eq_ok_iff.mpr ⟨firstUnits, rfl, rfl⟩,
    createSqueeze_eq_ok_iff.mpr ⟨left, rfl, rfl⟩,
    createSqueeze_eq_ok_iff.mpr ⟨together, rfl, rfl⟩, ?_⟩
  simp only [shapeOf_withNode_new, squeezed, half_shape]
  exact dropAxes_dropAxes notNegative inside apart

/--
A squeeze succeeds if each listed axis is there and has extent one. It then leaves the extents on
the other axes, in their order, and records the set of listed axes, on which alone it depends. Two
sets without a common axis can be dropped one after the other, the axes of the second one numbered
as the first step leaves them, with the same extents as if they were dropped at once.
-/
theorem createSqueeze_drops_set (graph : Graph) (function : Nat) (name : Label) (input : Ref) :
    (∀ axes,
      ((∃ ref after, createSqueeze function name input axes graph = .ok ref after) ↔
        ∀ axis ∈ axes, (graph.shapeOf input).HasUnit axis) ∧
      (∀ ref after, createSqueeze function name input axes graph = .ok ref after →
        ∃ recorded shape, ref = .node graph.nodes.length ∧
          after = graph.withNode ⟨function, name, .squeeze recorded, [input], shape⟩ ∧
          recorded.Pairwise (· < ·) ∧ (∀ axis, axis ∈ recorded ↔ axis ∈ axes) ∧
          shape = (unlisted (graph.shapeOf input).length axes).map
            (fun axis : Nat => (graph.shapeOf input).extentAt axis) ∧
          shape.size = (graph.shapeOf input).size) ∧
      ∀ others, (∀ axis, axis ∈ others ↔ axis ∈ axes) →
        createSqueeze function name input others graph =
          createSqueeze function name input axes graph) ∧
    ∀ first second again, (∀ axis ∈ first, (graph.shapeOf input).HasUnit axis) →
      (∀ axis ∈ second, (graph.shapeOf input).HasUnit axis) → (∀ axis ∈ first, axis ∉ second) →
        ∃ half mid last after joint whole,
          createSqueeze function name input first graph = .ok half mid ∧
          createSqueeze function again half (second.map (renumbered first)) mid = .ok last after ∧
          createSqueeze function name input (first ++ second) graph = .ok joint whole ∧
          after.shapeOf last = whole.shapeOf joint := by
  refine ⟨?_, fun _ _ _ => createSqueeze_twice⟩
  intro axes
  refine ⟨?_, ?_, ?_⟩
  · simp only [createSqueeze_eq_ok_iff]
    constructor
    · rintro ⟨_, _, units, _⟩
      exact units
    · intro units
      exact ⟨_, _, units, rfl, rfl⟩
  · intro ref after built
    rcases createSqueeze_eq_ok_iff.mp built with ⟨units, rfl, rfl⟩
    have single : ∀ axis ∈ axes, squeezable (graph.shapeOf input) axis :=
      fun axis listed => squeezable_iff_hasUnit.mpr (units axis listed)
    exact ⟨_, _, rfl, rfl, pairwise_sortedAxes axes, fun _ => mem_sortedAxes, dropAxes_eq_map,
      size_dropAxes single⟩
  · intro others same
    rw [createSqueeze_congr function name input same]

end Squeezes

end Graph

namespace Sample

/-- A variable of five axes, three of which have extent one. -/
def sparse : Graph :=
  ⟨[⟨"x", .external, .none, ⟨[1, 7, 1, 5, 1], .replicate 35 .zero, by decide, rfl⟩⟩], [], ["main"]⟩

end Sample

namespace Graph

/-- The outer axes are dropped, and then the one in the middle, the second of those that are left. -/
theorem createSqueeze_drops_set_sample :
    (∃ ref after, createSqueeze 0 "y" (.var 0) [4, 0, 4] Sample.sparse = .ok ref after ∧
      after.shapeOf ref = [7, 1, 5]) ∧
    createSqueeze 0 "y" (.var 0) [0, 4] Sample.sparse =
      createSqueeze 0 "y" (.var 0) [4, 0, 4] Sample.sparse ∧
    ∃ half mid last after joint whole,
      createSqueeze 0 "y" (.var 0) [4, 0, 4] Sample.sparse = .ok half mid ∧
      createSqueeze 0 "z" half [1] mid = .ok last after ∧
      createSqueeze 0 "y" (.var 0) [4, 0, 4, 2] Sample.sparse = .ok joint whole ∧
      after.shapeOf last = whole.shapeOf joint := by
  have outer : ∀ axis ∈ ([4, 0, 4] : List Int), (Sample.sparse.shapeOf (.var 0)).HasUnit axis := by
    unfold Shape.HasUnit
    decide
  have middle : ∀ axis ∈ ([2] : List Int), (Sample.sparse.shapeOf (.var 0)).HasUnit axis := by
    unfold Shape.HasUnit
    decide
  have ⟨single, twice⟩ := createSqueeze_drops_set Sample.sparse 0 "y" (.var 0)
  have ⟨succeeds, appends, depends⟩ := single [4, 0, 4]
  refine ⟨?_, depends [0, 4] (by simp), ?_⟩
  · rcases succeeds.mpr outer with ⟨ref, after, built⟩
    rcases appends ref after built with ⟨recorded, shape, rfl, rfl, _, _, shape_eq, _⟩
    exact ⟨_, _, built, shapeOf_withNode_new.trans (shape_eq.trans (by decide))⟩
  · have renumbers : ([2] : List Int).map (renumbered [4, 0, 4]) = [1] := by decide
    exact renumbers ▸ twice [4, 0, 4] [2] "z" outer middle (by decide)

end Graph

end NetImport
