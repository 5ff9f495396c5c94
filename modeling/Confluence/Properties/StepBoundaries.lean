import Confluence.Exchange.HalfEven

/-!
# Step boundaries

Step alignment is computed from a rounded quotient, and the nearest valid quantity from a rounded
product. Both are right exactly when the rounding keeps the fraction of the quotient and the
multiple found can be held.
-/

namespace Confluence

open Rounding RustDecimal

/-- Both functions are right about a value: aligned are the multiples of the step, and the quantity
at or below the value is the greatest multiple there, the value itself when it is aligned. -/
structure StepsAgree (value step : RustDecimal) (aligned : Bool) (down : RustDecimal) : Prop where
  aligned_iff : aligned = true ↔ IsMultiple step.value value.value
  down_greatest : IsGreatest (multiplesUpTo step.value value.value) down.value
  aligned_iff_down : aligned = true ↔ down.value = value.value

section

variable {value step : Decimal}

/-! ### The exact functions -/

lemma isAligned_iff_isMultiple (hstep : 0 < step) :
    isAligned value step = true ↔ IsMultiple step value := by
  simp [isAligned_iff, hstep.ne', IsMultiple]

lemma qdown_greatest (hstep : 0 < step) :
    IsGreatest (multiplesUpTo step value) (qdown value step) := by
  rw [qdown, if_neg hstep.ne']
  exact isGreatest_multiplesUpTo hstep

lemma isAligned_iff_qdown (hstep : 0 < step) :
    isAligned value step = true ↔ qdown value step = value := by
  rw [isAligned_iff_floor hstep.ne', qdown, if_neg hstep.ne', eq_div_iff hstep.ne']

end

/-! ### The rounded functions -/

/-- For a value and a step, the functions are right exactly when the quotient keeps its fraction
and the multiple is representable. -/
theorem step_boundaries_agree_iff (A : DecimalArithmetic) (value step : RustDecimal)
    (aligned : Bool) (down : RustDecimal) (_hvalue : 0 ≤ value.value) (hstep : 0 < step.value)
    (haligned : A.isAligned value step = some aligned) (hdown : A.qdown value step = some down) :
    StepsAgree value step aligned down ↔
      KeepsFraction (value.value / step.value) ∧
        (⌊value.value / step.value⌋ * step.value : ℚ) ∈ Representable := by
  constructor
  · intro h
    constructor
    · by_contra hloses
      have htrue := DecimalArithmetic.aligned_of_loses hstep.ne' hloses haligned
      have hmultiple := (isMultiple_iff_div hstep.ne').mp (h.aligned_iff.mp htrue)
      exact hloses (.inl hmultiple)
    · rw [← h.down_greatest.unique (isGreatest_multiplesUpTo hstep)]
      exact ⟨down, rfl⟩
  · rintro ⟨hkeeps, hmem⟩
    have hexact := DecimalArithmetic.isAligned_eq hstep.ne' hkeeps haligned
    have hvalue := DecimalArithmetic.qdown_eq hstep.ne' hkeeps hmem hdown
    rw [hexact] at *
    constructor
    · exact isAligned_iff_isMultiple hstep
    · rw [hvalue]
      exact qdown_greatest hstep
    · rw [hvalue]
      exact isAligned_iff_qdown hstep

/-- The quantity 1.55 lies off the step 0.1, and the nearest quantity below it is 1.5. -/
theorem step_boundaries_agree_tenths :
    StepsAgree ⟨155, 2, by decide, by decide⟩ ⟨1, 1, by decide, by decide⟩ false
      ⟨150, 2, by decide, by decide⟩ := by
  refine (step_boundaries_agree_iff halfEvenArithmetic _ _ _ _ ?_ ?_
    (by decide +kernel) (by decide +kernel)).mpr ⟨.inr ⟨⟨155, 1, by decide, by decide⟩, ?_⟩, ?_⟩
  · norm_num [value]
  · norm_num [value]
  · intro n
    have hne : (n : ℚ) - 31 / 2 ≠ 0 := by
      intro h
      have hcast : (2 * n : ℚ) = 31 := by linarith
      have hodd : 2 * n = 31 := by exact_mod_cast hcast
      omega
    norm_num [value]
    exact hne
  · exact ⟨⟨15, 1, by decide, by decide⟩, by norm_num [value]⟩

/-- The value just below 3 counts as a multiple of 3: its quotient is rounded to 1. -/
theorem step_boundaries_disagree :
    ¬ ∀ (A : DecimalArithmetic) (value step : RustDecimal) (aligned : Bool) (down : RustDecimal),
      0 ≤ value.value → 0 < step.value → A.isAligned value step = some aligned →
      A.qdown value step = some down → StepsAgree value step aligned down := by
  intro h
  have hagree := h halfEvenArithmetic
    ⟨29999999999999999999999999999, 28, by decide, by decide⟩ ⟨3, 0, by decide, by decide⟩ true
    ⟨30, 1, by decide, by decide⟩ (by norm_num [value]) (by norm_num [value])
    (by decide +kernel) (by decide +kernel)
  have hle := hagree.down_greatest.1.2
  norm_num [value] at hle

end Confluence
