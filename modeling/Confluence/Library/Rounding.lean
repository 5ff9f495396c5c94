import Mathlib.Algebra.Order.Floor.Ring
import Mathlib.Tactic

/-!
# Rounding to the nearest number of a set

A calculation in numbers of a set `S` gives the number of `S` nearest to the exact result. Where
several are as near, nothing is said of which one it is.
-/

namespace Rounding

variable {K : Type*} [Field K]

/-- The number is a multiple of the step. -/
def IsMultiple (step x : K) : Prop := ∃ k : ℤ, x = k * step

lemma isMultiple_iff_div {step x : K} (hstep : step ≠ 0) :
    IsMultiple step x ↔ ∃ k : ℤ, x / step = k :=
  exists_congr fun _ => (div_eq_iff hstep).symm

variable [LinearOrder K] {S : Set K} {x y z a : K}

/-- The number `y` of `S` is as near to `x` as every number of `S`. -/
structure IsNearest (S : Set K) (x y : K) : Prop where
  mem : y ∈ S
  le : ∀ z ∈ S, |y - x| ≤ |z - x|

lemma IsNearest.of_abs_eq (h : IsNearest S x y) (hz : z ∈ S) (heq : |z - x| = |y - x|) :
    IsNearest S x z :=
  ⟨hz, fun w hw => heq ▸ h.le w hw⟩

section

variable [IsStrictOrderedRing K]

lemma IsNearest.eq_of_mem (h : IsNearest S x y) (hx : x ∈ S) : y = x := by
  have hle : |y - x| ≤ 0 := by simpa using h.le x hx
  exact sub_eq_zero.mp (abs_nonpos_iff.mp hle)

/-- Rounding does not pass a number of the set on the way up. -/
lemma IsNearest.lt_of_lt (h : IsNearest S x y) (ha : a ∈ S) (hay : a < y) : a < x := by
  by_contra hx
  rw [not_lt] at hx
  have hle := h.le a ha
  rw [abs_of_nonneg (by linarith), abs_of_nonneg (by linarith)] at hle
  linarith

/-- Nor on the way down. -/
lemma IsNearest.gt_of_gt (h : IsNearest S x y) (ha : a ∈ S) (hya : y < a) : x < a := by
  by_contra hx
  rw [not_lt] at hx
  have hle := h.le a ha
  rw [abs_of_nonpos (by linarith), abs_of_nonpos (by linarith)] at hle
  linarith

/-- What lies strictly between two nearest numbers is nearer. -/
lemma IsNearest.not_between (hy : IsNearest S x y) (hz : IsNearest S x z) (ha : a ∈ S) :
    ¬ (y < a ∧ a < z) := by
  rintro ⟨hya, haz⟩
  have hxa := hy.gt_of_gt ha hya
  have hax := hz.lt_of_lt ha haz
  exact absurd hxa hax.not_gt

/-- A result that is not an integer has the floor of the exact one. -/
lemma IsNearest.floor_eq [FloorRing K] (h : IsNearest S x y) (hfloor : (⌊y⌋ : K) ∈ S)
    (hnext : ((⌊y⌋ + 1 : ℤ) : K) ∈ S) (hy : (⌊y⌋ : K) ≠ y) : ⌊x⌋ = ⌊y⌋ := by
  have hlt : (⌊y⌋ : K) < y := (Int.floor_le y).lt_of_ne hy
  have hgt : y < ((⌊y⌋ + 1 : ℤ) : K) := by simp
  rw [Int.floor_eq_iff]
  constructor
  · exact (h.lt_of_lt hfloor hlt).le
  · simpa using h.gt_of_gt hnext hgt

end

/-! ### The multiples up to a number -/

/-- The multiples of the step up to `x`. -/
def multiplesUpTo (step x : K) : Set K := {y | IsMultiple step y ∧ y ≤ x}

/-- The greatest multiple up to `x` is the floor of the quotient times the step. -/
lemma isGreatest_multiplesUpTo [IsStrictOrderedRing K] [FloorRing K] {step : K} (hstep : 0 < step) :
    IsGreatest (multiplesUpTo step x) (⌊x / step⌋ * step) := by
  refine ⟨⟨⟨_, rfl⟩, ?_⟩, ?_⟩
  · rw [← le_div_iff₀ hstep]
    exact Int.floor_le _
  · rintro _ ⟨⟨k, rfl⟩, hle⟩
    rw [← le_div_iff₀ hstep] at hle
    exact mul_le_mul_of_nonneg_right (Int.cast_le.mpr (Int.le_floor.mpr hle)) hstep.le

end Rounding
