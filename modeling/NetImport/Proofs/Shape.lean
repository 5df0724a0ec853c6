import Mathlib.Tactic.Common
import NetImport.Graph.Factory

/-!
# Arithmetic of shapes

What the operations on shapes do to the signs of the extents and to the element count: a window that
fits has at least one position, axes are dropped without changing the element count when each has
extent one, and no operation makes a negative extent out of extents that are not.
-/

namespace NetImport

namespace Shape

/-- No extent is negative. -/
def NonNegative (shape : Shape) : Prop := ∀ extent ∈ shape, 0 ≤ extent

variable {shape : Shape}

theorem nonNegative_cons {extent : Int} {rest : Shape} :
    NonNegative (extent :: rest) ↔ 0 ≤ extent ∧ NonNegative rest :=
  List.forall_mem_cons

@[simp]
theorem nonNegative_nil : NonNegative [] := by simp [NonNegative]

/-- The extents of a tensor are not negative. -/
theorem nonNegative_tensor (tensor : Tensor) : tensor.shape.NonNegative := by
  intro extent member
  rcases List.mem_map.mp member with ⟨count, _, rfl⟩
  exact Int.natCast_nonneg count

theorem NonNegative.extentAt (nonNegative : shape.NonNegative) (axis : Int) :
    0 ≤ shape.extentAt axis := by
  unfold Shape.extentAt
  rw [List.getD_eq_getElem?_getD]
  cases found : shape[axis.toNat]? with
  | none => simp
  | some extent => exact nonNegative extent (List.mem_of_getElem? found)

theorem NonNegative.size (nonNegative : shape.NonNegative) : 0 ≤ shape.size := by
  induction shape with
  | nil => simp
  | cons extent rest hypothesis =>
      rw [nonNegative_cons] at nonNegative
      exact Int.mul_nonneg nonNegative.1 (hypothesis nonNegative.2)

theorem NonNegative.set (nonNegative : shape.NonNegative) {axis : Nat} {extent : Int}
    (positive : 0 ≤ extent) : NonNegative (List.set shape axis extent) := by
  intro other member
  rcases List.mem_or_eq_of_mem_set member with old | rfl
  · exact nonNegative other old
  · exact positive

theorem nonNegative_sum {extents : List Int} (each : ∀ extent ∈ extents, 0 ≤ extent) :
    0 ≤ extents.foldr (· + ·) 0 := by
  induction extents with
  | nil => simp
  | cons extent rest hypothesis =>
      rw [List.forall_mem_cons] at each
      exact Int.add_nonneg each.1 (hypothesis each.2)

/-- Shapes without negative extents are joined along an axis to such a shape. -/
theorem nonNegative_joined {first : Shape} {others : List Shape} {axis : Nat} {dimension : Int}
    (each : ∀ shape ∈ first :: others, shape.NonNegative) :
    NonNegative (List.set first axis
      (((first :: others).map fun shape => shape.extentAt dimension).foldr (· + ·) 0)) := by
  apply (each first List.mem_cons_self).set
  apply nonNegative_sum
  intro extent member
  rcases List.mem_map.mp member with ⟨shape, inShapes, rfl⟩
  exact (each shape inShapes).extentAt dimension

section Windows

variable {height width kernel stride pad outHeight outWidth : Int}

/-- A window fits if it moves forward and is no larger than either padded extent. -/
theorem windowOutput_eq_ok :
    windowOutput height width kernel stride pad = .ok (outHeight, outWidth) ↔
      1 ≤ stride ∧ kernel ≤ height + 2 * pad ∧ kernel ≤ width + 2 * pad ∧
        outHeight = windowCount height kernel stride pad ∧
        outWidth = windowCount width kernel stride pad := by
  unfold windowOutput
  split
  · simp; omega
  · split
    · simp; omega
    · simp only [Except.ok.injEq, Prod.mk.injEq]
      omega

/-- A window that fits has at least one position along each axis. -/
theorem windowOutput_pos
    (fits : windowOutput height width kernel stride pad = .ok (outHeight, outWidth)) :
    1 ≤ outHeight ∧ 1 ≤ outWidth := by
  rcases windowOutput_eq_ok.mp fits with ⟨stride_pos, height_fits, width_fits, rfl, rfl⟩
  have count_pos : ∀ extent, kernel ≤ extent + 2 * pad →
      1 ≤ windowCount extent kernel stride pad := by
    intro extent inside
    have quotient := Int.fdiv_nonneg (a := extent + 2 * pad - kernel) (b := stride)
      (by omega) (by omega)
    unfold windowCount
    omega
  exact ⟨count_pos height height_fits, count_pos width width_fits⟩

theorem nonNegative_windowOutput {batch depth : Int} (batch_nonneg : 0 ≤ batch)
    (depth_nonneg : 0 ≤ depth)
    (fits : windowOutput height width kernel stride pad = .ok (outHeight, outWidth)) :
    NonNegative [batch, outHeight, outWidth, depth] := by
  have positive := windowOutput_pos fits
  simp only [nonNegative_cons, nonNegative_nil, and_true]
  omega

end Windows

end Shape

namespace Graph

variable {operand : Shape} {axes : List Int}

/-! ## Dropping axes -/

theorem pairwise_eraseDups {entries : List Int} (sorted : entries.Pairwise (· ≤ ·)) :
    entries.eraseDups.Pairwise (· < ·) := by
  match entries, sorted with
  | [], _ => simp
  | first :: rest, sorted =>
      rw [List.pairwise_cons] at sorted
      rw [List.eraseDups_cons, List.pairwise_cons]
      refine ⟨?_, pairwise_eraseDups (sorted.2.filter _)⟩
      intro other member
      rw [List.mem_eraseDups, List.mem_filter] at member
      have differs : other ≠ first := by simpa using member.2
      have notLess := sorted.1 other member.1
      omega
  termination_by entries.length
  decreasing_by
    have := List.length_filter_le (fun other => !other == first) rest
    simp only [List.length_cons]
    omega

/-- The axes to be dropped are listed by rising number, each once. -/
theorem pairwise_sortedAxes (axes : List Int) : (sortedAxes axes).Pairwise (· < ·) := by
  refine pairwise_eraseDups ?_
  have transitive : ∀ first second third : Int, decide (first ≤ second) = true →
      decide (second ≤ third) = true → decide (first ≤ third) = true := by
    simp only [decide_eq_true_eq]
    omega
  have total : ∀ first second : Int,
      (decide (first ≤ second) || decide (second ≤ first)) = true := by
    simp only [Bool.or_eq_true, decide_eq_true_eq]
    omega
  simpa using List.pairwise_mergeSort transitive total axes

theorem dropAxes_nonNegative (nonNegative : operand.NonNegative) :
    (dropAxes operand axes).NonNegative := by
  intro extent member
  rcases List.mem_map.mp member with ⟨⟨kept, position⟩, found, rfl⟩
  have inOperand := (List.mem_filter.mp found).1
  exact nonNegative kept (List.mem_of_getElem? (List.mem_zipIdx_iff_getElem?.mp inOperand))

theorem squeezable_iff {axis : Int} :
    squeezable operand axis ↔ (0 ≤ axis ∧ axis < operand.length) ∧ operand.extentAt axis = 1 := by
  simp [squeezable]

theorem size_filter_zipIdx (start : Nat)
    (single : ∀ extent position, (extent, position) ∈ operand.zipIdx start →
      (position : Int) ∈ axes → extent = 1) :
    Shape.size (((operand.zipIdx start).filter fun (_, axis) => (axis : Int) ∉ axes).map Prod.fst) =
      operand.size := by
  induction operand generalizing start with
  | nil => rfl
  | cons extent rest hypothesis =>
      have restSingle := hypothesis (start + 1) fun other position member listed =>
        single other position (by simp [List.zipIdx_cons, member]) listed
      by_cases listed : (start : Int) ∈ axes
      · have one := single extent start (by simp [List.zipIdx_cons]) listed
        simpa [List.zipIdx_cons, listed, one] using restSingle
      · simpa [List.zipIdx_cons, listed] using congrArg (extent * ·) restSingle

/-- Axes of extent one are dropped without changing the element count. -/
theorem size_dropAxes (single : ∀ axis ∈ axes, squeezable operand axis) :
    (dropAxes operand axes).size = operand.size := by
  refine size_filter_zipIdx 0 ?_
  intro extent position member listed
  have one := (squeezable_iff.mp (single position listed)).2
  have found := List.mem_zipIdx_iff_getElem?.mp member
  simpa [Shape.extentAt, List.getD_eq_getElem?_getD, found] using one

/-! ## Comparing shapes -/

theorem extentAt_set_ne {shape : Shape} {axis other : Nat} (extent : Int) (differ : other ≠ axis) :
    Shape.extentAt (List.set shape axis extent) other = shape.extentAt other := by
  simp only [Shape.extentAt, Int.toNat_natCast, List.getD_eq_getElem?_getD]
  rw [List.getElem?_set_ne (Ne.symm differ)]

theorem extentAt_set_self {shape : Shape} {axis : Nat} (extent : Int)
    (inside : axis < shape.length) :
    Shape.extentAt (List.set shape axis extent) axis = extent := by
  simp [Shape.extentAt, List.getD_eq_getElem?_getD, inside]

/-- Shapes that agree beside an axis have the same extents on all others. -/
theorem extents_of_agreeBeside {dimension : Nat} {first other : Shape}
    (agree : agreeBeside dimension first other) :
    other.length = first.length ∧
      ∀ axis : Nat, axis ≠ dimension → other.extentAt axis = first.extentAt axis := by
  simp only [agreeBeside, Bool.and_eq_true, decide_eq_true_eq] at agree
  refine ⟨agree.1.symm, ?_⟩
  intro axis differ
  rw [← extentAt_set_ne 0 differ, ← agree.2, extentAt_set_ne 0 differ]

/-- An operand that can be expanded has extent one or that of the target on each of its axes. -/
theorem extents_of_broadcastable {operand target : Shape} {axis : Int}
    (extends_to : broadcastable operand target axis) :
    (0 ≤ axis ∧ axis + operand.length ≤ target.length) ∧
      ∀ position < operand.length, operand.extentAt position = 1 ∨
        operand.extentAt position = target.extentAt (axis + position) := by
  simp only [broadcastable, Bool.and_eq_true, decide_eq_true_eq, List.all_eq_true,
    Bool.or_eq_true] at extends_to
  rcases extends_to with ⟨⟨notNegative, fits⟩, each⟩
  refine ⟨⟨notNegative, fits⟩, ?_⟩
  intro position inside
  have inTarget : axis.toNat + position < target.length := by omega
  have pair : (operand[position], target[axis.toNat + position]) ∈
      operand.zip (target.drop axis.toNat) := by
    rw [List.mem_iff_getElem]
    refine ⟨position, by simp; omega, by simp⟩
  have place : (axis + position).toNat = axis.toNat + position := by omega
  simpa [Shape.extentAt, List.getD_eq_getElem?_getD, inside, place, inTarget] using each _ pair

end Graph

end NetImport
