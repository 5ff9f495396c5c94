import Mathlib.Data.Rat.Floor
import Mathlib.Tactic

/-!
# Fixed-point columns

A `NUMERIC(p, s)` column keeps `s` digits after the point and `p` digits in all. Storing a
number rounds it half away from zero to `s` digits; a number whose rounding needs more than
`p - s` digits before the point is refused.
-/

namespace Numeric

/-- `x` has at most `s` digits after the point. -/
def IsScaled (s : ℕ) (x : ℚ) : Prop := ∃ n : ℤ, x = n / 10 ^ s

/-- The nearest number with `s` digits after the point, halves away from zero. -/
def roundTo (s : ℕ) (x : ℚ) : ℚ :=
  if 0 ≤ x then ⌊x * 10 ^ s + 1 / 2⌋ / 10 ^ s else -(⌊-x * 10 ^ s + 1 / 2⌋ / 10 ^ s)

/-- What a `NUMERIC(p, s)` column keeps of `x`, or `none` when `x` overflows it. -/
def store (p s : ℕ) (x : ℚ) : Option ℚ :=
  if |roundTo s x| < 10 ^ (p - s) then some (roundTo s x) else none

/-- The numbers that a `NUMERIC(p, s)` column holds. -/
def Fits (p s : ℕ) (x : ℚ) : Prop := IsScaled s x ∧ |x| < 10 ^ (p - s)

/-! ### Scaled numbers -/

lemma isScaled_iff_den (s : ℕ) (x : ℚ) : IsScaled s x ↔ (x * 10 ^ s).den = 1 := by
  have h10 : (10 : ℚ) ^ s ≠ 0 := by positivity
  constructor
  · rintro ⟨n, rfl⟩
    rw [div_mul_cancel₀ _ h10]
    exact Rat.den_intCast n
  · intro h
    refine ⟨(x * 10 ^ s).num, ?_⟩
    rw [Rat.coe_int_num_of_den_eq_one h, mul_div_cancel_right₀ _ h10]

instance (s : ℕ) (x : ℚ) : Decidable (IsScaled s x) :=
  decidable_of_iff ((x * 10 ^ s).den = 1) (isScaled_iff_den s x).symm

instance (p s : ℕ) (x : ℚ) : Decidable (Fits p s x) :=
  inferInstanceAs (Decidable (_ ∧ _))

@[simp] lemma isScaled_zero (s : ℕ) : IsScaled s 0 := ⟨0, by simp⟩

lemma IsScaled.add {s : ℕ} {x y : ℚ} (hx : IsScaled s x) (hy : IsScaled s y) :
    IsScaled s (x + y) := by
  obtain ⟨n, rfl⟩ := hx
  obtain ⟨m, rfl⟩ := hy
  exact ⟨n + m, by push_cast; ring⟩

lemma IsScaled.neg {s : ℕ} {x : ℚ} (hx : IsScaled s x) : IsScaled s (-x) := by
  obtain ⟨n, rfl⟩ := hx
  exact ⟨-n, by push_cast; ring⟩

@[simp] lemma isScaled_neg {s : ℕ} {x : ℚ} : IsScaled s (-x) ↔ IsScaled s x :=
  ⟨fun h => by simpa using h.neg, IsScaled.neg⟩

lemma IsScaled.sub {s : ℕ} {x y : ℚ} (hx : IsScaled s x) (hy : IsScaled s y) :
    IsScaled s (x - y) := by
  rw [sub_eq_add_neg]
  exact hx.add hy.neg

@[simp] lemma isScaled_abs {s : ℕ} {x : ℚ} : IsScaled s |x| ↔ IsScaled s x := by
  rcases abs_choice x with h | h <;> simp [h]

lemma IsScaled.sum {s : ℕ} {xs : List ℚ} (h : ∀ x ∈ xs, IsScaled s x) : IsScaled s xs.sum := by
  induction xs with
  | nil => simp
  | cons x xs ih =>
    rw [List.sum_cons]
    exact (h x (by simp)).add (ih fun y hy => h y (by simp [hy]))

/-! ### Rounding and storing -/

lemma isScaled_roundTo (s : ℕ) (x : ℚ) : IsScaled s (roundTo s x) := by
  unfold roundTo
  split_ifs
  · exact ⟨_, rfl⟩
  · exact IsScaled.neg ⟨_, rfl⟩

lemma floor_scaled_half {s : ℕ} (n : ℤ) :
    ⌊(n : ℚ) / 10 ^ s * 10 ^ s + 1 / 2⌋ = n := by
  have h10 : (10 : ℚ) ^ s ≠ 0 := by positivity
  rw [div_mul_cancel₀ _ h10, Int.floor_intCast_add, Int.floor_eq_zero_iff.mpr (by norm_num),
    add_zero]

lemma roundTo_of_isScaled {s : ℕ} {x : ℚ} (h : IsScaled s x) : roundTo s x = x := by
  obtain ⟨n, rfl⟩ := h
  unfold roundTo
  split_ifs
  · rw [floor_scaled_half]
  · have hneg : -((n : ℚ) / 10 ^ s) = ((-n : ℤ) : ℚ) / 10 ^ s := by push_cast; ring
    rw [hneg, floor_scaled_half]
    push_cast
    ring

/-- Rounding keeps exactly the scaled numbers. -/
lemma roundTo_eq_self_iff {s : ℕ} {x : ℚ} : roundTo s x = x ↔ IsScaled s x :=
  ⟨fun h => h ▸ isScaled_roundTo s x, roundTo_of_isScaled⟩

lemma roundTo_neg (s : ℕ) (x : ℚ) : roundTo s (-x) = -roundTo s x := by
  rcases lt_trichotomy x 0 with hx | rfl | hx
  · have hneg : 0 ≤ -x := by linarith
    rw [roundTo, roundTo, if_pos hneg, if_neg (not_le.mpr hx), neg_neg]
  · rw [neg_zero, roundTo_of_isScaled (isScaled_zero s), neg_zero]
  · have hneg : ¬ 0 ≤ -x := by linarith
    rw [roundTo, roundTo, if_neg hneg, if_pos hx.le, neg_neg]

lemma roundTo_nonneg {s : ℕ} {x : ℚ} (h : 0 ≤ x) : 0 ≤ roundTo s x := by
  unfold roundTo
  rw [if_pos h]
  have : (0 : ℤ) ≤ ⌊x * 10 ^ s + 1 / 2⌋ := Int.floor_nonneg.mpr (by positivity)
  have : (0 : ℚ) ≤ (⌊x * 10 ^ s + 1 / 2⌋ : ℤ) := by exact_mod_cast this
  positivity

/-- Rounding does not exceed a scaled number that is not exceeded. -/
lemma roundTo_le_of_isScaled {s : ℕ} {x y : ℚ} (hx : 0 ≤ x) (hy : IsScaled s y) (h : x ≤ y) :
    roundTo s x ≤ y := by
  rw [← roundTo_of_isScaled hy, roundTo, roundTo, if_pos hx, if_pos (hx.trans h)]
  gcongr

lemma pos_of_roundTo_pos {s : ℕ} {x : ℚ} (h : 0 < roundTo s x) : 0 < x := by
  by_contra hx
  have hneg : 0 ≤ roundTo s (-x) := roundTo_nonneg (by linarith)
  rw [roundTo_neg] at hneg
  linarith

lemma eq_roundTo_of_store {p s : ℕ} {x y : ℚ} (h : store p s x = some y) : y = roundTo s x := by
  unfold store at h
  split_ifs at h
  exact (Option.some.inj h).symm

lemma fits_of_store {p s : ℕ} {x y : ℚ} (h : store p s x = some y) : Fits p s y := by
  unfold store at h
  split_ifs at h with hlt
  obtain rfl := Option.some.inj h
  exact ⟨isScaled_roundTo s x, hlt⟩

lemma store_of_fits {p s : ℕ} {x : ℚ} (h : Fits p s x) : store p s x = some x := by
  unfold store
  rw [roundTo_of_isScaled h.1, if_pos h.2]

lemma eq_of_store {p s : ℕ} {x y : ℚ} (hx : IsScaled s x) (h : store p s x = some y) : y = x := by
  unfold store at h
  rw [roundTo_of_isScaled hx] at h
  split_ifs at h
  exact (Option.some.inj h).symm

lemma nonneg_of_store {p s : ℕ} {x y : ℚ} (hx : 0 ≤ x) (h : store p s x = some y) : 0 ≤ y := by
  unfold store at h
  split_ifs at h
  obtain rfl := Option.some.inj h
  exact roundTo_nonneg hx

end Numeric
