import NetImport.Proofs.Shape

/-!
# Positions of a window

How often a window fits along a padded axis: as often as its last position is inside and the next
one would not be. No more than that is used of the number of positions, so that a larger axis, a
wider padding, a smaller kernel and a shorter stride all leave room for at least as many.
-/

namespace NetImport.Shape

/-- A window fits this many times along a padded axis, and not once more. -/
structure FitsTimes (extent kernel stride pad count : Int) : Prop where
  pos : 1 ≤ count
  last : (count - 1) * stride + kernel ≤ extent + 2 * pad
  next : extent + 2 * pad < count * stride + kernel

variable {extent otherExtent kernel otherKernel stride otherStride pad otherPad count
  otherCount : Int}

theorem fitsTimes_windowCount (moves : 1 ≤ stride) (fits : kernel ≤ extent + 2 * pad) :
    FitsTimes extent kernel stride pad (windowCount extent kernel stride pad) := by
  have count_eq : windowCount extent kernel stride pad =
      (extent + 2 * pad - kernel) / stride + 1 := by
    rw [windowCount, Int.fdiv_eq_ediv_of_nonneg _ (by omega)]
  have nonneg : 0 ≤ (extent + 2 * pad - kernel) / stride :=
    Int.ediv_nonneg (by omega) (by omega)
  have below : (extent + 2 * pad - kernel) / stride * stride ≤ extent + 2 * pad - kernel :=
    Int.ediv_mul_le _ (by omega)
  have above : extent + 2 * pad - kernel <
      ((extent + 2 * pad - kernel) / stride + 1) * stride :=
    Int.lt_ediv_add_one_mul_self _ (by omega)
  constructor
  · omega
  · rw [count_eq, Int.add_sub_cancel]
    omega
  · rw [count_eq]
    omega

/-- A smaller window that moves by shorter steps fits at least as often along a longer axis. -/
theorem FitsTimes.le (fits : FitsTimes extent kernel stride pad count)
    (otherFits : FitsTimes otherExtent otherKernel otherStride otherPad otherCount)
    (moves : 1 ≤ otherStride) (kernel_le : otherKernel ≤ kernel) (stride_le : otherStride ≤ stride)
    (room : extent + 2 * pad ≤ otherExtent + 2 * otherPad) : count ≤ otherCount := by
  have shorter : (count - 1) * otherStride ≤ (count - 1) * stride :=
    Int.mul_le_mul_of_nonneg_left stride_le (Int.sub_nonneg_of_le fits.pos)
  have before : (count - 1) * otherStride < otherCount * otherStride := by
    have last := fits.last
    have next := otherFits.next
    omega
  have fewer : count - 1 < otherCount := Int.lt_of_mul_lt_mul_right before (by omega)
  omega

/-- A window that moves fits a definite number of times. -/
theorem FitsTimes.unique (fits : FitsTimes extent kernel stride pad count)
    (otherFits : FitsTimes extent kernel stride pad otherCount) (moves : 1 ≤ stride) :
    count = otherCount :=
  Int.le_antisymm (fits.le otherFits moves (Int.le_refl _) (Int.le_refl _) (Int.le_refl _))
    (otherFits.le fits moves (Int.le_refl _) (Int.le_refl _) (Int.le_refl _))

theorem fitsTimes_iff (moves : 1 ≤ stride) (inside : kernel ≤ extent + 2 * pad) :
    FitsTimes extent kernel stride pad count ↔ count = windowCount extent kernel stride pad := by
  have counted := fitsTimes_windowCount moves inside
  constructor
  · intro fits
    exact fits.unique counted moves
  · rintro rfl
    exact counted

section Output

variable {height width : Int}

theorem windowOutput_eq_error :
    (∃ fault, windowOutput height width kernel stride pad = .error fault) ↔
      stride ≤ 0 ∨ height + 2 * pad < kernel ∨ width + 2 * pad < kernel := by
  unfold windowOutput
  split
  · simp [*]
  · split
    · simp [*]
    · simp [*]

/--
A window is refused if it does not move forward or is larger than a padded extent. The output of any
other window has as many rows and columns as the window has positions along the two axes, and no
fewer if an extent or the padding grows or the kernel or the stride shrinks.
-/
theorem windowOutput_counts_positions (height width kernel stride pad : Int) :
    ((∃ fault, windowOutput height width kernel stride pad = .error fault) ↔
        stride ≤ 0 ∨ height + 2 * pad < kernel ∨ width + 2 * pad < kernel) ∧
      ∀ rows columns, windowOutput height width kernel stride pad = .ok (rows, columns) →
        (∀ count, FitsTimes height kernel stride pad count ↔ count = rows) ∧
        (∀ count, FitsTimes width kernel stride pad count ↔ count = columns) ∧
        ∀ otherHeight otherWidth otherKernel otherStride otherPad otherRows otherColumns,
          windowOutput otherHeight otherWidth otherKernel otherStride otherPad =
              .ok (otherRows, otherColumns) →
            otherKernel ≤ kernel → otherStride ≤ stride → pad ≤ otherPad →
              (height ≤ otherHeight → rows ≤ otherRows) ∧
                (width ≤ otherWidth → columns ≤ otherColumns) := by
  refine ⟨windowOutput_eq_error, ?_⟩
  intro rows columns output
  rcases windowOutput_eq_ok.mp output with ⟨moves, high, wide, rfl, rfl⟩
  refine ⟨fun _ => fitsTimes_iff moves high, fun _ => fitsTimes_iff moves wide, ?_⟩
  intro otherHeight otherWidth otherKernel otherStride otherPad otherRows otherColumns otherOutput
    kernel_le stride_le pad_le
  rcases windowOutput_eq_ok.mp otherOutput with ⟨otherMoves, otherHigh, otherWide, rfl, rfl⟩
  constructor
  · intro height_le
    exact (fitsTimes_windowCount moves high).le (fitsTimes_windowCount otherMoves otherHigh)
      otherMoves kernel_le stride_le (by omega)
  · intro width_le
    exact (fitsTimes_windowCount moves wide).le (fitsTimes_windowCount otherMoves otherWide)
      otherMoves kernel_le stride_le (by omega)

/-- One column more and a shorter stride leave room for more positions. -/
theorem windowOutput_counts_positions_sample :
    ∃ rows columns otherRows otherColumns,
      windowOutput 5 6 3 2 1 = .ok (rows, columns) ∧
      windowOutput 5 7 3 1 1 = .ok (otherRows, otherColumns) ∧
      (∀ count, FitsTimes 6 3 2 1 count ↔ count = columns) ∧
      rows ≤ otherRows ∧ columns ≤ otherColumns ∧
      ∃ fault, windowOutput 5 6 3 0 1 = .error fault := by
  have output : windowOutput 5 6 3 2 1 = .ok (3, 3) := by decide
  have otherOutput : windowOutput 5 7 3 1 1 = .ok (5, 7) := by decide
  have ⟨_, columns, grows⟩ := (windowOutput_counts_positions 5 6 3 2 1).2 3 3 output
  have ⟨rows_le, columns_le⟩ :=
    grows 5 7 3 1 1 5 7 otherOutput (by decide) (by decide) (by decide)
  have refused := (windowOutput_counts_positions 5 6 3 0 1).1.mpr (.inl (by decide))
  exact ⟨3, 3, 5, 7, output, otherOutput, columns, rows_le (by decide), columns_le (by decide),
    refused⟩

end Output

end NetImport.Shape
