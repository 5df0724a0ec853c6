import Mathlib.Algebra.BigOperators.Group.List.Lemmas
import Mathlib.Algebra.BigOperators.Ring.List
import Mathlib.Algebra.Order.Ring.Nat
import Mathlib.Data.List.Forall2
import NetImport.Proofs.Steps

/-!
# What tensors hold

Where the numbers of a tensor lie, which numbers a tensor that is made of values, of zeros or of the
numbers of another tensor has at a multi-index, and what a store finds under a name.
-/

namespace NetImport

/-! ## Row-major positions -/

/-- Every position of a multi-index lies within the extent of its axis. -/
def Within (extents index : List Nat) : Prop := List.Forall₂ (· < ·) index extents

theorem flatIndex_lt {extents index : List Nat} (within : Within extents index) :
    flatIndex extents index < cellCount extents := by
  induction within with
  | nil => exact Nat.zero_lt_one
  | @cons position extent positions rest inside _ hypothesis =>
      calc
        position * cellCount rest + flatIndex rest positions
          < position * cellCount rest + cellCount rest := Nat.add_lt_add_left hypothesis _
        _ = (position + 1) * cellCount rest := (Nat.succ_mul _ _).symm
        _ ≤ extent * cellCount rest := Nat.mul_le_mul_right _ inside

/-- The place of a multi-index belongs to that multi-index alone. -/
theorem unflatten_flatIndex {extents index : List Nat} (within : Within extents index) :
    unflatten extents (flatIndex extents index) = index := by
  induction within with
  | nil => rfl
  | @cons position extent positions rest _ restWithin hypothesis =>
      have later := flatIndex_lt restWithin
      have positive : 0 < cellCount rest := Nat.zero_lt_of_lt later
      have quotient : (position * cellCount rest + flatIndex rest positions) / cellCount rest =
          position := by
        rw [Nat.mul_comm, Nat.mul_add_div positive, Nat.div_eq_of_lt later, Nat.add_zero]
      have remainder : (position * cellCount rest + flatIndex rest positions) % cellCount rest =
          flatIndex rest positions := by
        rw [Nat.mul_comm, Nat.mul_add_mod, Nat.mod_eq_of_lt later]
      simp only [flatIndex, unflatten, quotient, remainder, hypothesis]

/-! ## What storage holds -/

theorem cellCount_filter_pos (extents : List Nat) : 0 < cellCount (extents.filter (· ≠ 0)) := by
  refine Nat.pos_of_ne_zero (List.prod_ne_zero ?_)
  simp

/-- Storage that holds some extents holds any of them, in whatever order. -/
theorem Storable.of_subperm {extents others : List Nat} (storable : Storable extents)
    (among : others.Subperm extents) : Storable others := by
  rcases among.filter (· ≠ 0) with ⟨kept, reordered, sublist⟩
  have product : cellCount (others.filter (· ≠ 0)) = kept.prod := reordered.prod_eq.symm
  have bounded : kept.prod ≤ cellCount (extents.filter (· ≠ 0)) :=
    Nat.le_of_dvd (cellCount_filter_pos extents) sublist.prod_dvd_prod
  refine ⟨among.length_le.trans storable.1, Nat.lt_of_le_of_lt ?_ storable.2⟩
  rw [product]
  gcongr

/-! ## Contents -/

namespace Tensor

/-- A tensor of one axis that holds one number. -/
def single (number : Binary32) : Tensor := ⟨[1], #[number], by decide, rfl⟩

variable {tensor result : Tensor} {extents : List Nat}

theorem shape_and_data_of_ofValues {shape : Shape} {values : List Binary32}
    (built : ofValues shape values.toArray = .ok tensor) :
    tensor.shape = shape ∧ tensor.data.toList = values := by
  unfold ofValues at built
  split at built
  · cases allocated : allocate shape with
    | error raised => simp [allocated, bind, Except.bind] at built
    | ok extents =>
        simp only [allocated, bind, Except.bind, pure, Except.pure, Except.ok.injEq] at built
        subst tensor
        exact ⟨extents.2.2, rfl⟩
  · split at built
    · cases built
    · cases built

theorem toNat_map_ofNat (extents : List Nat) :
    (extents.map Int.ofNat).map Int.toNat = extents := by
  simp [Function.comp_def]

theorem ofValues_of_storable {values : Array Binary32} (storable : Storable extents)
    (count : values.size = cellCount extents) :
    ofValues (extents.map Int.ofNat) values = .ok ⟨extents, values, storable, count⟩ := by
  simp only [ofValues, allocate, size_map_ofNat, toNat_map_ofNat, count, storable, and_self,
    dite_true]
  rfl

theorem ofValues_of_not_storable {values : Array Binary32}
    (notStorable : ¬Storable extents) (count : values.size = cellCount extents) :
    ofValues (extents.map Int.ofNat) values = .error .rejectedValue := by
  simp only [ofValues, allocate, size_map_ofNat, toNat_map_ofNat, count, notStorable, false_and,
    dite_true, dite_false]
  rfl

theorem shape_and_data_of_filled {shape : Shape} {value : Binary32}
    (built : filled shape value = .ok tensor) :
    tensor.shape = shape ∧ ∀ number ∈ tensor.data, number = value := by
  unfold filled at built
  cases allocated : allocate shape with
  | error raised => simp [allocated, bind, Except.bind] at built
  | ok extents =>
      simp only [allocated, bind, Except.bind, pure, Except.pure, Except.ok.injEq] at built
      subst tensor
      refine ⟨extents.2.2, ?_⟩
      intro number member
      exact (Array.mem_replicate.mp member).2

/-- A tensor of zeros has a zero at every multi-index. -/
theorem get_of_zeros {shape : Shape} (built : zeros shape = .ok tensor) (index : List Nat) :
    tensor.get index = .zero := by
  have ⟨_, allZero⟩ := shape_and_data_of_filled built
  unfold get
  rw [Array.getD_eq_getD_getElem?]
  cases found : tensor.data[flatIndex tensor.extents index]? with
  | none => rfl
  | some number => exact allZero number (Array.mem_of_getElem? found)

theorem exists_ofCells (storable : Storable extents) (cell : List Nat → Binary32) :
    ∃ result, ofCells extents cell = .ok result := by
  simp only [ofCells, dif_pos storable, Except.ok.injEq, exists_eq']

/-- A tensor that is computed cell by cell has at every multi-index what was computed for it. -/
theorem get_of_ofCells {cell : List Nat → Binary32} (built : ofCells extents cell = .ok tensor) :
    tensor.extents = extents ∧
      ∀ index, Within extents index → tensor.get index = cell index := by
  unfold ofCells at built
  split at built
  · rcases Except.ok.inj built with rfl
    refine ⟨rfl, ?_⟩
    intro index within
    have inside := flatIndex_lt within
    simp only [get]
    rw [Array.getD_eq_getD_getElem?, Array.getElem?_ofFn, dif_pos inside, Option.getD_some,
      unflatten_flatIndex within]
  · cases built

/-- The cell of a transposed tensor comes from the cell that the listed axes lead back to. -/
theorem get_of_transpose {permutation : List Int} {axes : List Nat}
    (moved : tensor.transpose permutation = .ok result) (some_axes : permutation ≠ [])
    (resolved : resolveAxes permutation.length permutation [] = .ok axes) :
    tensor.extents.length = permutation.length ∧
      result.extents = axes.map (fun axis => tensor.extents.getD axis 1) ∧
      ∀ index, Within result.extents index →
        result.get index = tensor.get (sourceIndex axes index) := by
  simp only [transpose, some_axes, if_false] at moved
  split at moved
  · cases moved
  · rename_i accepted
    rw [not_or, not_not] at accepted
    have rank := accepted.1
    rw [except_bind_eq_ok] at moved
    rcases moved with ⟨found, found_eq, moved⟩
    rw [← rank, resolved] at found_eq
    rcases Except.ok.inj found_eq with rfl
    have ⟨extents_eq, cells⟩ := get_of_ofCells moved
    exact ⟨rank.symm, extents_eq, fun index within => cells index (extents_eq ▸ within)⟩

/-- The axes of a transposed tensor have the extents of the listed axes. -/
theorem shape_of_transpose {permutation : List Int} {axes : List Nat}
    (moved : tensor.transpose permutation = .ok result) (some_axes : permutation ≠ [])
    (resolved : resolveAxes permutation.length permutation [] = .ok axes) :
    result.shape = axes.map fun (axis : Nat) => tensor.shape.extentAt axis := by
  have ⟨_, extents_eq, _⟩ := get_of_transpose moved some_axes resolved
  rw [shape, extents_eq, List.map_map]
  apply List.map_congr_left
  intro axis _
  simp only [Function.comp_apply, shape, Shape.extentAt, List.getD_eq_getElem?_getD,
    List.getElem?_map, Int.toNat_natCast]
  cases tensor.extents[axis]? with
  | none => rfl
  | some extent => rfl

/-- A tensor can be transposed by a list of its axes in any order. -/
theorem exists_transpose {permutation : List Int} {axes : List Nat}
    (rank : permutation.length = tensor.extents.length) (some_axes : permutation ≠ [])
    (words : permutation.all fitsSigned)
    (resolved : resolveAxes permutation.length permutation [] = .ok axes)
    (reordered : axes.Perm (List.range permutation.length)) :
    ∃ result, tensor.transpose permutation = .ok result := by
  have extents_eq : (List.range permutation.length).map (fun axis => tensor.extents.getD axis 1) =
      tensor.extents := by
    apply List.ext_getElem
    · simp [rank]
    · intro axis _ inside
      simp [inside]
  have permuted := reordered.map fun axis => tensor.extents.getD axis 1
  rw [extents_eq] at permuted
  rcases exists_ofCells (tensor.storable.of_subperm permuted.subperm)
    (fun index => tensor.get (sourceIndex axes index)) with ⟨result, built⟩
  rw [rank] at resolved
  exact ⟨result, by
    simpa [transpose, rank, some_axes, words, resolved, bind, Except.bind, permuteAxes] using built⟩

end Tensor

/-! ## Stores -/

namespace TensorStore

variable {store : TensorStore} {tensor : Tensor} {name : Label}

theorem contains_iff : store.contains name ↔ ∃ handle, store.handle name = .ok handle := by
  unfold contains Registry.contains handle
  cases store.handles.get? name with
  | none => simp
  | some found => simp

theorem contains_eq_false_iff :
    store.contains name = false ↔ ∀ handle, store.handle name ≠ .ok handle := by
  rw [← Bool.not_eq_true, contains_iff, not_exists]

theorem get_eq_ok :
    store.get name = .ok tensor ↔
      ∃ handle, store.handle name = .ok handle ∧ store.tensors[handle]? = some tensor := by
  unfold get
  rw [except_bind_eq_ok]
  constructor
  · rintro ⟨handle, bound, found⟩
    refine ⟨handle, bound, ?_⟩
    split at found
    · rename_i held isHeld
      rw [isHeld, Except.ok.inj found]
    · cases found
  · rintro ⟨handle, bound, found⟩
    exact ⟨handle, bound, by rw [found]⟩

/-- A store contains every name under which it finds a tensor. -/
theorem contains_of_get (found : store.get name = .ok tensor) : store.contains name := by
  rcases get_eq_ok.mp found with ⟨handle, bound, _⟩
  exact contains_iff.mpr ⟨handle, bound⟩

end TensorStore

end NetImport
