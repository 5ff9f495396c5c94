import Confluence.Core.Types
import Mathlib.Data.Rat.Floor

/-!
# Step alignment
-/

namespace Confluence

/-- `value` sits exactly on a `step` boundary. -/
def isAligned (value step : Decimal) : Bool :=
  if step = 0 then false else decide (Int.fract (value / step) = 0)

/-- Nearest valid quantity at or below `value`. -/
def qdown (value step : Decimal) : Decimal :=
  if step = 0 then 0 else ⌊value / step⌋ * step

lemma isAligned_iff {value step : Decimal} :
    isAligned value step = true ↔ step ≠ 0 ∧ ∃ k : ℤ, value = k * step := by
  unfold isAligned
  split_ifs with h
  · simp [h]
  · simp only [h, decide_eq_true_eq, ne_eq, not_false_eq_true, true_and, Int.fract_eq_zero_iff,
      Set.mem_range]
    refine exists_congr fun k => ?_
    rw [eq_div_iff h, eq_comm]

lemma isAligned_iff_floor {value step : Decimal} (hstep : step ≠ 0) :
    isAligned value step = true ↔ (⌊value / step⌋ : ℚ) = value / step := by
  rw [isAligned, if_neg hstep, decide_eq_true_eq, ← Int.self_sub_floor, sub_eq_zero, eq_comm]

end Confluence
