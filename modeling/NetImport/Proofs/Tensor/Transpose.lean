import Mathlib.Data.List.Nodup
import Mathlib.Data.List.Perm.Subperm
import NetImport.Proofs.Graph.Factory
import NetImport.Proofs.Tensor

/-!
# Tensors with their axes reordered

An order of the axes of a tensor lists every axis once. Transposing by an order moves each number of
the tensor to the multi-index that has its positions on the listed axes, and no number is lost or
made up. Orders are lists of numbers like the extents and the multi-indices that they reorder, so
that one operation, `pick`, reorders them all: that two transpositions are one, and that one undoes
another, are equations between orders.
-/

namespace NetImport

variable {extents index : List Nat}

/-! ## All multi-indices -/

theorem Within.length_eq (within : Within extents index) : index.length = extents.length :=
  List.Forall₂.length_eq within

theorem within_unflatten {place : Nat} (inside : place < cellCount extents) :
    Within extents (unflatten extents place) := by
  induction extents generalizing place with
  | nil => exact .nil
  | cons extent rest hypothesis =>
      have positive : 0 < cellCount rest := by
        refine Nat.pos_of_ne_zero fun none => ?_
        simp [none] at inside
      rw [cellCount_cons, Nat.mul_comm] at inside
      exact .cons (Nat.div_lt_of_lt_mul inside) (hypothesis (Nat.mod_lt place positive))

/-- The multi-index of a place belongs to that place. -/
theorem flatIndex_unflatten {place : Nat} (inside : place < cellCount extents) :
    flatIndex extents (unflatten extents place) = place := by
  induction extents generalizing place with
  | nil => exact (Nat.lt_one_iff.mp inside).symm
  | cons extent rest hypothesis =>
      have positive : 0 < cellCount rest := by
        refine Nat.pos_of_ne_zero fun none => ?_
        simp [none] at inside
      rw [unflatten, flatIndex, hypothesis (Nat.mod_lt place positive), Nat.div_add_mod']

/-- The multi-indices of a box in row-major order. -/
def indices (extents : List Nat) : List (List Nat) :=
  (List.range (cellCount extents)).map (unflatten extents)

theorem length_indices : (indices extents).length = cellCount extents := by
  simp [indices]

theorem mem_indices : index ∈ indices extents ↔ Within extents index := by
  simp only [indices, List.mem_map, List.mem_range]
  constructor
  · rintro ⟨place, inside, rfl⟩
    exact within_unflatten inside
  · intro within
    exact ⟨flatIndex extents index, flatIndex_lt within, unflatten_flatIndex within⟩

theorem nodup_indices (extents : List Nat) : (indices extents).Nodup := by
  refine List.Nodup.map_on ?_ List.nodup_range
  intro place inside other otherInside same
  rw [List.mem_range] at inside otherInside
  rw [← flatIndex_unflatten inside, same, flatIndex_unflatten otherInside]

namespace Tensor

variable {tensor other : Tensor}

/-- The row of a tensor holds its numbers at all multi-indices. -/
theorem toList_data (tensor : Tensor) :
    tensor.data.toList = (indices tensor.extents).map tensor.get := by
  apply List.ext_getElem
  · simp [length_indices, tensor.size_data]
  · intro place inside _
    have inRow : place < cellCount tensor.extents := by
      rw [← tensor.size_data]
      simpa using inside
    have inData : place < tensor.data.size := by simpa using inside
    simp [indices, get, flatIndex_unflatten inRow, Array.getD_eq_getD_getElem?, inData]

/-- Tensors of the same extents are equal if they have the same numbers. -/
theorem eq_of_get (same : tensor.extents = other.extents)
    (each : ∀ index, Within tensor.extents index → tensor.get index = other.get index) :
    tensor = other := by
  have rows : tensor.data = other.data := by
    apply Array.toList_inj.mp
    rw [toList_data, toList_data, ← same]
    exact List.map_congr_left fun index member => each index (mem_indices.mp member)
  rcases tensor with ⟨extents, data, storable, size_data⟩
  rcases other with ⟨otherExtents, otherData, otherStorable, otherSize⟩
  cases same
  cases rows
  rfl

/-! ## Orders of axes -/

section Orders

variable {rank : Nat} {axes first second entries : List Nat}

/-- The entries on the listed axes. -/
def pick (axes entries : List Nat) : List Nat := axes.map fun axis => entries.getD axis 0

/-- The order that undoes an order: the place at which it lists each axis. -/
def undo (axes : List Nat) : List Nat := (List.range axes.length).map fun axis => axes.idxOf axis

@[simp]
theorem length_pick : (pick axes entries).length = axes.length := List.length_map _

@[simp]
theorem length_undo : (undo axes).length = axes.length := by
  simp [undo]

theorem pick_range (length_eq : entries.length = rank) :
    pick (List.range rank) entries = entries := by
  apply List.ext_getElem
  · simp [length_eq]
  · intro axis _ inside
    simp [pick, inside]

theorem pick_pick (inside : ∀ axis ∈ second, axis < first.length) :
    pick second (pick first entries) = pick (pick second first) entries := by
  simp only [pick, List.map_map]
  refine List.map_congr_left fun axis member => ?_
  simp [inside axis member]

theorem sourceIndex_eq_pick : sourceIndex axes index = pick (undo axes) index := by
  simp [sourceIndex, pick, undo]

/-- Axes within the rank that are all different are resolved to themselves. -/
theorem resolveAxes_of_distinct (small : rank ≤ maximalRank) {rest done : List Nat}
    (inside : ∀ axis ∈ rest, axis < rank) (distinct : (done.reverse ++ rest).Nodup) :
    resolveAxes rank (rest.map Int.ofNat) done = .ok (done.reverse ++ rest) := by
  induction rest generalizing done with
  | nil => simp [resolveAxes]
  | cons axis rest hypothesis =>
      have inRank := inside axis List.mem_cons_self
      have short : Int.bmod axis shortWordCount = axis := by
        simp only [maximalRank] at small
        exact Int.bmod_eq_of_le_mul_two (by omega) (by simp only [shortWordCount]; omega)
      have fresh : axis ∉ done := by
        have apart := (List.nodup_append.mp distinct).2.2
        intro member
        exact apart axis (List.mem_reverse.mpr member) axis List.mem_cons_self rfl
      have notNegative : ¬(axis : Int) < 0 := by omega
      have notBeyond : ¬(rank : Int) ≤ axis := by omega
      have later : resolveAxes rank (rest.map Int.ofNat) (axis :: done) =
          .ok ((axis :: done).reverse ++ rest) :=
        hypothesis (fun other member => inside other (List.mem_cons_of_mem _ member))
          (by simpa using distinct)
      simp only [List.map_cons, resolveAxes, Int.ofNat_eq_natCast, short, notNegative, notBeyond,
        or_self, if_false, Int.toNat_natCast, fresh]
      simpa using later

variable (order : axes.Perm (List.range rank))

include order

theorem lt_of_mem_order {axis : Nat} (member : axis ∈ axes) : axis < rank :=
  List.mem_range.mp (order.mem_iff.mp member)

theorem length_order : axes.length = rank := by
  simpa using order.length_eq

theorem pick_perm (length_eq : entries.length = rank) : (pick axes entries).Perm entries := by
  have reordered := order.map fun axis => entries.getD axis 0
  rwa [← pick, ← pick, pick_range length_eq] at reordered

theorem pick_undo : pick (undo axes) axes = List.range rank := by
  rw [undo, pick, List.map_map, length_order order]
  refine (List.map_congr_left fun axis member => ?_).trans (List.map_id _)
  have listed : axis ∈ axes := order.mem_iff.mpr member
  simp [List.idxOf_lt_length_iff.mpr listed]

theorem pick_of_undo : pick axes (undo axes) = List.range rank := by
  have distinct : axes.Nodup := order.nodup_iff.mpr List.nodup_range
  apply List.ext_getElem
  · simp [length_order order]
  · intro place inside _
    have listed : place < axes.length := by simpa using inside
    have inRank : axes[place] < axes.length := by
      rw [length_order order]
      exact lt_of_mem_order order (List.getElem_mem listed)
    simp [pick, undo, inRank, distinct.idxOf_getElem place listed]

theorem undo_order : (undo axes).Perm (List.range rank) := by
  have reordered := pick_perm order (length_undo.trans (length_order order))
  rw [pick_of_undo order] at reordered
  exact reordered.symm

theorem within_pick (extents_length : extents.length = rank) (index_length : index.length = rank) :
    Within (pick axes extents) (pick axes index) ↔ Within extents index := by
  have each : ∀ listed : List Nat, Within (pick listed extents) (pick listed index) ↔
      ∀ axis ∈ listed, index.getD axis 0 < extents.getD axis 0 := by
    intro listed
    simp [Within, pick, List.forall₂_map_left_iff, List.forall₂_map_right_iff, List.forall₂_same]
  have all := each (List.range rank)
  rw [pick_range extents_length, pick_range index_length] at all
  rw [each axes, all]
  simp only [order.mem_iff]

theorem resolveAxes_of_order (small : rank ≤ maximalRank) :
    resolveAxes rank (axes.map Int.ofNat) [] = .ok axes :=
  resolveAxes_of_distinct small (fun _ member => lt_of_mem_order order member)
    (order.nodup_iff.mpr List.nodup_range)

end Orders

/-! ## Rearranged tensors -/

section Arrangements

variable {axes first second : List Nat} {moved twice : Tensor}

/--
A tensor holds the numbers of another one, each at the multi-index that has the old positions on the
listed axes.
-/
structure Arranges (axes : List Nat) (tensor moved : Tensor) : Prop where
  extents : moved.extents = pick axes tensor.extents
  cells : ∀ index, Within tensor.extents index → moved.get (pick axes index) = tensor.get index

theorem Arranges.within (arranges : Arranges axes tensor moved)
    (order : axes.Perm (List.range tensor.extents.length)) {source : List Nat}
    (within : Within tensor.extents source) : Within moved.extents (pick axes source) := by
  rw [arranges.extents, within_pick order rfl within.length_eq]
  exact within

/-- Every multi-index of a rearranged tensor has the positions of exactly one multi-index. -/
theorem Arranges.source (arranges : Arranges axes tensor moved)
    (order : axes.Perm (List.range tensor.extents.length)) (within : Within moved.extents index) :
    Within tensor.extents (pick (undo axes) index) ∧
      pick axes (pick (undo axes) index) = index := by
  have size : index.length = tensor.extents.length := by
    rw [within.length_eq, arranges.extents, length_pick, length_order order]
  have back : pick axes (pick (undo axes) index) = index := by
    rw [pick_pick, pick_of_undo order, pick_range size]
    intro axis member
    rw [length_undo, length_order order]
    exact lt_of_mem_order order member
  refine ⟨?_, back⟩
  rw [← back, arranges.extents, within_pick order rfl] at within
  · exact within
  · rw [length_pick, length_undo, length_order order]

theorem pick_undo_pick (order : axes.Perm (List.range tensor.extents.length)) {source : List Nat}
    (size : source.length = tensor.extents.length) :
    pick (undo axes) (pick axes source) = source := by
  rw [pick_pick, pick_undo order, pick_range size]
  intro axis member
  rw [length_order order]
  exact lt_of_mem_order (undo_order order) member

theorem Arranges.unique (arranges : Arranges axes tensor moved)
    (order : axes.Perm (List.range tensor.extents.length)) (same : Arranges axes tensor other) :
    moved = other := by
  refine eq_of_get (arranges.extents.trans same.extents.symm) ?_
  intro index within
  have ⟨inside, back⟩ := arranges.source order within
  rw [← back, arranges.cells _ inside, same.cells _ inside]

theorem arranges_range (tensor : Tensor) :
    Arranges (List.range tensor.extents.length) tensor tensor := by
  refine ⟨(pick_range rfl).symm, ?_⟩
  intro index within
  rw [pick_range within.length_eq]

theorem Arranges.trans (once : Arranges first tensor moved)
    (firstOrder : first.Perm (List.range tensor.extents.length))
    (again : Arranges second moved twice)
    (secondOrder : second.Perm (List.range tensor.extents.length)) :
    Arranges (pick second first) tensor twice := by
  have inside : ∀ axis ∈ second, axis < first.length := by
    intro axis member
    rw [length_order firstOrder]
    exact lt_of_mem_order secondOrder member
  constructor
  · rw [again.extents, once.extents, pick_pick inside]
  · intro index within
    rw [← pick_pick inside, again.cells _ (once.within firstOrder within), once.cells _ within]

/-- A rearranged tensor holds the same numbers, each as often. -/
theorem Arranges.perm_data (arranges : Arranges axes tensor moved)
    (order : axes.Perm (List.range tensor.extents.length)) :
    moved.data.toList.Perm tensor.data.toList := by
  -- The moved multi-indices are distinct and as many as the new shape has, hence all of them.
  have distinct : ((indices tensor.extents).map (pick axes)).Nodup := by
    refine List.Nodup.map_on ?_ (nodup_indices _)
    intro source member other otherMember same
    have size := (mem_indices.mp member).length_eq
    have otherSize := (mem_indices.mp otherMember).length_eq
    rw [← pick_undo_pick order size, same, pick_undo_pick order otherSize]
  have among : (indices tensor.extents).map (pick axes) ⊆ indices moved.extents := by
    intro index member
    rcases List.mem_map.mp member with ⟨source, sourceMember, rfl⟩
    exact mem_indices.mpr (arranges.within order (mem_indices.mp sourceMember))
  have count : cellCount moved.extents = cellCount tensor.extents := by
    rw [arranges.extents]
    exact (pick_perm order rfl).prod_eq
  have reordered : ((indices tensor.extents).map (pick axes)).Perm (indices moved.extents) := by
    refine (distinct.subperm among).perm_of_length_le ?_
    rw [List.length_map, length_indices, length_indices, count]
  calc
    moved.data.toList.Perm (((indices tensor.extents).map (pick axes)).map moved.get) := by
      rw [toList_data]
      exact (reordered.map moved.get).symm
    _ = tensor.data.toList := by
      rw [List.map_map, toList_data]
      exact List.map_congr_left fun index member => arranges.cells index (mem_indices.mp member)

/-- A tensor with axes can be transposed by any order of them. -/
theorem exists_transpose_of_order (some_axes : tensor.extents ≠ [])
    (order : axes.Perm (List.range tensor.extents.length)) :
    ∃ moved, tensor.transpose (axes.map Int.ofNat) = .ok moved ∧ Arranges axes tensor moved := by
  have rank : (axes.map Int.ofNat).length = tensor.extents.length := by
    rw [List.length_map, length_order order]
  have listed : axes.map Int.ofNat ≠ [] := by
    intro none
    rw [none] at rank
    exact some_axes (List.length_eq_zero_iff.mp rank.symm)
  have words : (axes.map Int.ofNat).all fitsSigned := by
    rw [List.all_eq_true]
    intro number member
    rcases List.mem_map.mp member with ⟨axis, inOrder, rfl⟩
    have inRank := lt_of_mem_order order inOrder
    have small := tensor.storable.1
    simp only [maximalRank] at small
    simp only [fitsSigned, fitsSignedWord, Bool.and_eq_true, decide_eq_true_eq]
    simp only [wordCount, Int.ofNat_eq_natCast]
    omega
  have resolved : resolveAxes (axes.map Int.ofNat).length (axes.map Int.ofNat) [] = .ok axes := by
    rw [rank]
    exact resolveAxes_of_order order tensor.storable.1
  rcases exists_transpose rank listed words resolved (rank.symm ▸ order) with ⟨moved, transposed⟩
  have ⟨_, extents_eq, cells⟩ := get_of_transpose transposed listed resolved
  have picked : moved.extents = pick axes tensor.extents := by
    rw [extents_eq]
    refine List.map_congr_left fun axis member => ?_
    simp [lt_of_mem_order order member]
  refine ⟨moved, transposed, picked, ?_⟩
  intro index within
  rw [cells, sourceIndex_eq_pick, pick_undo_pick order within.length_eq]
  rw [picked, within_pick order rfl within.length_eq]
  exact within

theorem Arranges.permute_shape (arranges : Arranges axes tensor moved)
    (order : axes.Perm (List.range tensor.extents.length)) :
    tensor.shape.permute (axes.map Int.ofNat) = .ok moved.shape := by
  rw [Graph.permute_eq_ok]
  refine ⟨⟨?_, ?_⟩, ?_⟩
  · simp [shape, length_order order]
  · intro axis inside
    have listed : axis ∈ axes := by
      rw [order.mem_iff, List.mem_range]
      simpa [shape] using inside
    exact List.mem_map_of_mem listed
  · rw [shape, arranges.extents, pick, List.map_map, List.map_map]
    refine List.map_congr_left fun axis member => ?_
    simp [shape, Shape.extentAt, lt_of_mem_order order member]

/--
Transposing a tensor by an order of its axes reorders the shape and moves every number to the
multi-index that has its positions on the listed axes, without losing any. Transposing twice is
transposing once, by the axes of the first order that the second one lists, and the order that
undoes the first one gives the tensor back.
-/
theorem transpose_rearranges (tensor : Tensor) (first second : List Nat)
    (some_axes : tensor.extents ≠ [])
    (firstOrder : first.Perm (List.range tensor.extents.length))
    (secondOrder : second.Perm (List.range tensor.extents.length)) :
    ∃ moved, tensor.transpose (first.map Int.ofNat) = .ok moved ∧
      tensor.shape.permute (first.map Int.ofNat) = .ok moved.shape ∧
      (∀ index, Within moved.extents index →
        ∃! source, Within tensor.extents source ∧ pick first source = index) ∧
      (∀ source, Within tensor.extents source →
        Within moved.extents (pick first source) ∧
          moved.get (pick first source) = tensor.get source) ∧
      moved.data.toList.Perm tensor.data.toList ∧
      (∃ twice, moved.transpose (second.map Int.ofNat) = .ok twice ∧
        tensor.transpose ((pick second first).map Int.ofNat) = .ok twice) ∧
      ((undo first).Perm (List.range tensor.extents.length) ∧
        pick (undo first) first = List.range tensor.extents.length) ∧
      moved.transpose ((undo first).map Int.ofNat) = .ok tensor := by
  rcases exists_transpose_of_order some_axes firstOrder with ⟨moved, transposed, once⟩
  have moved_rank : moved.extents.length = tensor.extents.length := by
    rw [once.extents, length_pick, length_order firstOrder]
  have moved_axes : moved.extents ≠ [] := by
    intro none
    rw [none] at moved_rank
    exact some_axes (List.length_eq_zero_iff.mp moved_rank.symm)
  refine ⟨moved, transposed, once.permute_shape firstOrder, ?_, ?_, once.perm_data firstOrder, ?_,
    ⟨undo_order firstOrder, pick_undo firstOrder⟩, ?_⟩
  · intro index within
    refine ⟨pick (undo first) index, once.source firstOrder within, ?_⟩
    rintro source ⟨inside, rfl⟩
    exact (pick_undo_pick firstOrder inside.length_eq).symm
  · intro source within
    exact ⟨once.within firstOrder within, once.cells source within⟩
  · have composed : (pick second first).Perm (List.range tensor.extents.length) :=
      (pick_perm secondOrder (length_order firstOrder)).trans firstOrder
    rcases exists_transpose_of_order moved_axes (moved_rank.symm ▸ secondOrder) with
      ⟨twice, transposedAgain, again⟩
    rcases exists_transpose_of_order some_axes composed with ⟨direct, transposedOnce, atOnce⟩
    rw [(once.trans firstOrder again secondOrder).unique composed atOnce] at transposedAgain
    exact ⟨direct, transposedAgain, transposedOnce⟩
  · have undone := undo_order firstOrder
    rcases exists_transpose_of_order moved_axes (moved_rank.symm ▸ undone) with
      ⟨back, transposedBack, again⟩
    have same := once.trans firstOrder again undone
    rw [pick_undo firstOrder] at same
    rw [transposedBack, same.unique (List.Perm.refl _) (arranges_range tensor)]

end Arrangements

end Tensor

namespace Sample

/-- Two planes of one row of three numbers. -/
def block : Tensor :=
  ⟨[2, 1, 3], #[.zero, .one, .zero, .one, .one, .zero], by decide, rfl⟩

end Sample

namespace Tensor

/-- The axes of a tensor of three axes, one of them single, are moved in a circle. -/
theorem transpose_rearranges_sample :
    ([2, 0, 1] : List Nat).Perm (List.range 3) ∧
      ∃ moved, Sample.block.transpose [2, 0, 1] = .ok moved ∧ moved.shape = [3, 2, 1] ∧
        moved.data.toList.Perm Sample.block.data.toList ∧
        (∃ twice, moved.transpose [1, 0, 2] = .ok twice ∧
          Sample.block.transpose [0, 2, 1] = .ok twice) ∧
        moved.transpose [1, 2, 0] = .ok Sample.block := by
  have order : ([2, 0, 1] : List Nat).Perm (List.range 3) := by decide
  rcases transpose_rearranges Sample.block [2, 0, 1] [1, 0, 2] (by decide) order (by decide) with
    ⟨moved, transposed, permuted, _, _, row, twice, _, back⟩
  have shape_eq : Sample.block.shape.permute [2, 0, 1] = .ok [3, 2, 1] := by decide
  exact ⟨order, moved, transposed, (Except.ok.inj (shape_eq.symm.trans permuted)).symm, row, twice,
    back⟩

end Tensor

end NetImport
