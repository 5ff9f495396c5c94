import Confluence.Exchange.Quantize
import Confluence.Library.Rounding

/-!
# Step alignment in rounded decimals

A decimal of the package `rust_decimal` is an integer of 96 bits and its sign, with at most 28
decimal places. Its products and its quotients are rounded, and step alignment is computed from
what is left of a quotient.
-/

namespace Confluence

open Rounding

structure RustDecimal where
  coefficient : ℤ
  scale : ℕ
  fits : |coefficient| < 2 ^ 96
  scale_le : scale ≤ 28
deriving DecidableEq

namespace RustDecimal

def value (d : RustDecimal) : Decimal := d.coefficient / 10 ^ d.scale

/-- The numbers that a decimal can hold. -/
abbrev Representable : Set Decimal := Set.range value

def ofInt (n : ℤ) (h : |n| < 2 ^ 96) : RustDecimal := ⟨n, 0, h, Nat.zero_le _⟩

def zero : RustDecimal := ofInt 0 (by decide)

def isZero (d : RustDecimal) : Bool := d.coefficient = 0

@[simp] lemma value_ofInt (n : ℤ) (h : |n| < 2 ^ 96) : (ofInt n h).value = n := by
  simp [ofInt, value]

lemma isZero_iff (d : RustDecimal) : d.isZero = true ↔ d.value = 0 := by
  simp [isZero, value]

lemma coefficient_eq (d : RustDecimal) : (d.coefficient : ℚ) = d.value * 10 ^ d.scale := by
  rw [value, div_mul_cancel₀ _ (by positivity)]

lemma abs_ediv_le (m : ℤ) {k : ℤ} (hk : 0 < k) : |m / k| ≤ |m| := by
  rw [abs_le]
  constructor
  · have hle : -|m| * k ≤ m := by nlinarith [neg_abs_le m, abs_nonneg m]
    exact Int.le_ediv_of_mul_le hk hle
  · exact Int.ediv_le_of_le_mul hk (by nlinarith [le_abs_self m, abs_nonneg m])

def floor (d : RustDecimal) : RustDecimal :=
  ofInt (d.coefficient / 10 ^ d.scale)
    ((abs_ediv_le _ (by positivity)).trans_lt d.fits)

/-- What is left after the integer part is taken off, towards zero. -/
def fract (d : RustDecimal) : RustDecimal where
  coefficient := d.coefficient.tmod (10 ^ d.scale)
  scale := d.scale
  fits := by
    have hle : (d.coefficient.tmod (10 ^ d.scale)).natAbs ≤ d.coefficient.natAbs := by
      rw [Int.natAbs_tmod]
      exact Nat.mod_le _ _
    have hfits := d.fits
    rw [Int.abs_eq_natAbs] at hfits ⊢
    omega
  scale_le := d.scale_le

@[simp] lemma value_floor (d : RustDecimal) : d.floor.value = ⌊d.value⌋ := by
  have hfloor := Rat.floor_intCast_div_natCast d.coefficient (10 ^ d.scale)
  push_cast at hfloor
  rw [floor, value_ofInt, value, hfloor]

/-- Nothing is left exactly of the integers. -/
lemma isZero_fract (d : RustDecimal) : d.fract.isZero = true ↔ (⌊d.value⌋ : ℚ) = d.value := by
  have hpos : (10 : ℚ) ^ d.scale ≠ 0 := by positivity
  simp only [isZero, fract, decide_eq_true_eq, ← Int.dvd_iff_tmod_eq_zero]
  constructor
  · rintro ⟨k, hk⟩
    have hvalue : d.value = k := by
      rw [value, hk]
      push_cast
      field_simp
    simp [hvalue]
  · intro h
    refine ⟨⌊d.value⌋, ?_⟩
    have hcoefficient := d.coefficient_eq
    rw [← h, mul_comm] at hcoefficient
    exact_mod_cast hcoefficient

lemma ofInt_mem (n : ℤ) (h : |n| < 2 ^ 96) : (n : ℚ) ∈ Representable := ⟨ofInt n h, by simp⟩

/-- A decimal with decimal places is ten times below the largest one. -/
lemma abs_value_mul_ten (d : RustDecimal) (hscale : d.scale ≠ 0) : |d.value| * 10 < 2 ^ 96 := by
  have hten : (10 : ℚ) ≤ 10 ^ d.scale := le_self_pow₀ (by norm_num) hscale
  have hfits : |(d.coefficient : ℚ)| < 2 ^ 96 := by exact_mod_cast d.fits
  have habs : |d.value| * 10 ^ d.scale = |(d.coefficient : ℚ)| := by
    rw [d.coefficient_eq, abs_mul, abs_of_pos (by positivity : (0 : ℚ) < 10 ^ d.scale)]
  nlinarith [abs_nonneg d.value]

lemma scale_ne_zero {d : RustDecimal} (hd : (⌊d.value⌋ : ℚ) ≠ d.value) : d.scale ≠ 0 := by
  intro hscale
  apply hd
  simp [value, hscale]

/-- The integers around a decimal with a fractional part: the one below. -/
lemma floor_lt {d : RustDecimal} (hd : (⌊d.value⌋ : ℚ) ≠ d.value) : ⌊d.value⌋ * 10 < 2 ^ 96 := by
  have hlt : (⌊d.value⌋ : ℚ) * 10 < 2 ^ 96 := by
    linarith [Int.floor_le d.value, le_abs_self d.value, d.abs_value_mul_ten (scale_ne_zero hd)]
  exact_mod_cast hlt

/-- And the one above. -/
lemma lt_floor_add_one {d : RustDecimal} (hd : (⌊d.value⌋ : ℚ) ≠ d.value) :
    -2 ^ 96 < (⌊d.value⌋ + 1) * 10 := by
  have hlt : -2 ^ 96 < ((⌊d.value⌋ : ℚ) + 1) * 10 := by
    linarith [Int.lt_floor_add_one d.value, neg_abs_le d.value,
      d.abs_value_mul_ten (scale_ne_zero hd)]
  exact_mod_cast hlt

lemma floor_mem {d : RustDecimal} (hd : (⌊d.value⌋ : ℚ) ≠ d.value) :
    (⌊d.value⌋ : ℚ) ∈ Representable := by
  have hlt := floor_lt hd
  have hgt := lt_floor_add_one hd
  exact ofInt_mem _ (by rw [abs_lt]; omega)

lemma floor_add_one_mem {d : RustDecimal} (hd : (⌊d.value⌋ : ℚ) ≠ d.value) :
    ((⌊d.value⌋ + 1 : ℤ) : ℚ) ∈ Representable := by
  have hlt := floor_lt hd
  have hgt := lt_floor_add_one hd
  exact ofInt_mem _ (by rw [abs_lt]; omega)

/-- The number can be held with an even coefficient. -/
def HasEven (x : Decimal) : Prop := ∃ d : RustDecimal, d.value = x ∧ Even d.coefficient

lemma hasEven_ofInt {n : ℤ} (h : |n| < 2 ^ 96) (heven : Even n) : HasEven n :=
  ⟨ofInt n h, by simp, heven⟩

lemma hasEven_ten {n : ℤ} (h : |n * 10| < 2 ^ 96) : HasEven n :=
  ⟨⟨n * 10, 1, h, by decide⟩, by simp [value], (by decide : Even (10 : ℤ)).mul_left n⟩

lemma hasEven_floor {d : RustDecimal} (hd : (⌊d.value⌋ : ℚ) ≠ d.value) :
    HasEven (⌊d.value⌋ : ℤ) := by
  have hlt := floor_lt hd
  have hgt := lt_floor_add_one hd
  rcases Int.even_or_odd ⌊d.value⌋ with heven | ⟨k, hk⟩
  · exact hasEven_ofInt (by rw [abs_lt]; omega) heven
  · exact hasEven_ten (by rw [abs_lt]; omega)

lemma hasEven_floor_add_one {d : RustDecimal} (hd : (⌊d.value⌋ : ℚ) ≠ d.value) :
    HasEven ((⌊d.value⌋ + 1 : ℤ) : ℚ) := by
  have hlt := floor_lt hd
  have hgt := lt_floor_add_one hd
  rcases Int.even_or_odd (⌊d.value⌋ + 1) with heven | ⟨k, hk⟩
  · exact hasEven_ofInt (by rw [abs_lt]; omega) heven
  · exact hasEven_ten (by rw [abs_lt]; omega)

/-- Next to an even coefficient there are two odd ones. -/
lemma succ_mem {d : RustDecimal} (heven : Even d.coefficient) :
    (d.coefficient + 1 : ℚ) / 10 ^ d.scale ∈ Representable := by
  obtain ⟨k, hk⟩ := heven
  have hfits := abs_lt.mp d.fits
  exact ⟨⟨d.coefficient + 1, d.scale, by rw [abs_lt]; omega, d.scale_le⟩, by simp [value]⟩

lemma pred_mem {d : RustDecimal} (heven : Even d.coefficient) :
    (d.coefficient - 1 : ℚ) / 10 ^ d.scale ∈ Representable := by
  obtain ⟨k, hk⟩ := heven
  have hfits := abs_lt.mp d.fits
  exact ⟨⟨d.coefficient - 1, d.scale, by rw [abs_lt]; omega, d.scale_le⟩, by simp [value]⟩

/-- The rounding of the exact result `x`: to the nearest number, and where several are as near, to
one whose last digit is even. -/
structure Rounds (x : Decimal) (d : RustDecimal) : Prop where
  inRange : |x| < 2 ^ 96
  nearest : IsNearest Representable x d.value
  even : ∀ y, IsNearest Representable x y → HasEven y → HasEven d.value

variable {x : Decimal} {d : RustDecimal}

lemma Rounds.eq_of_int (h : Rounds x d) {k : ℤ} (hx : x = k) : d.value = k := by
  have hk : |k| < 2 ^ 96 := by
    have hrange := h.inRange
    rw [hx] at hrange
    exact_mod_cast hrange
  subst hx
  exact h.nearest.eq_of_mem (ofInt_mem k hk)

lemma Rounds.floor_eq (h : Rounds x d) (hd : (⌊d.value⌋ : ℚ) ≠ d.value) : ⌊x⌋ = ⌊d.value⌋ :=
  h.nearest.floor_eq (floor_mem hd) (floor_add_one_mem hd) hd

/-- A decimal with a fractional part and an even coefficient has another one on the way to every
integer. -/
lemma exists_between {d : RustDecimal} (heven : Even d.coefficient)
    (hd : (⌊d.value⌋ : ℚ) ≠ d.value) (n : ℤ) :
    ∃ a ∈ Representable, (d.value < a ∧ a < n) ∨ ((n : ℚ) < a ∧ a < d.value) := by
  have hpos : (0 : ℚ) < 10 ^ d.scale := by positivity
  have hn : Even (n * 10 ^ d.scale) :=
    (((by decide : Even (10 : ℤ))).pow_of_ne_zero (scale_ne_zero hd)).mul_left n
  have hne : d.coefficient ≠ n * 10 ^ d.scale := by
    intro h
    apply hd
    have hvalue : d.value = n := by
      rw [value, h]
      push_cast
      field_simp
    simp [hvalue]
  obtain ⟨j, hj⟩ := heven
  obtain ⟨k, hk⟩ := hn
  rcases hne.lt_or_gt with hlt | hgt
  · have hbetween : (d.coefficient : ℚ) + 1 < n * 10 ^ d.scale := by
      have : d.coefficient + 1 < n * 10 ^ d.scale := by omega
      exact_mod_cast this
    refine ⟨_, succ_mem ⟨j, hj⟩, .inl ⟨?_, ?_⟩⟩
    · rw [value]
      gcongr
      linarith
    · rwa [div_lt_iff₀ hpos]
  · have hbetween : n * 10 ^ d.scale < (d.coefficient : ℚ) - 1 := by
      have : n * 10 ^ d.scale < d.coefficient - 1 := by omega
      exact_mod_cast this
    refine ⟨_, pred_mem ⟨j, hj⟩, .inr ⟨?_, ?_⟩⟩
    · rwa [lt_div_iff₀ hpos]
    · rw [value]
      gcongr
      linarith

/-- An integer is never as near as a result that has a fractional part. -/
lemma Rounds.not_tied (h : Rounds x d) (hd : (⌊d.value⌋ : ℚ) ≠ d.value) {n : ℤ}
    (hn : HasEven n) : ¬ IsNearest Representable x n := by
  intro hnearest
  obtain ⟨e, he, heven⟩ := h.even n hnearest hn
  rw [← he] at hd
  have hnear : IsNearest Representable x e.value := he ▸ h.nearest
  obtain ⟨a, ha, hlt | hgt⟩ := exists_between heven hd n
  · exact hnear.not_between hnearest ha hlt
  · exact hnearest.not_between hnear ha hgt

lemma Rounds.nearer (h : Rounds x d) (hd : (⌊d.value⌋ : ℚ) ≠ d.value) {n : ℤ}
    (hn : HasEven n) : |d.value - x| < |n - x| := by
  obtain ⟨e, he, heven⟩ := hn
  have hmem : (n : ℚ) ∈ Representable := ⟨e, he⟩
  refine (h.nearest.le n hmem).lt_of_ne fun heq => ?_
  exact h.not_tied hd ⟨e, he, heven⟩ (h.nearest.of_abs_eq hmem heq.symm)

/-- The exact result has a fractional part that the rounding keeps, or it has none. -/
def KeepsFraction (x : Decimal) : Prop :=
  (∃ k : ℤ, x = k) ∨ ∃ z : RustDecimal, ∀ n : ℤ, |z.value - x| < |n - x|

lemma Rounds.keepsFraction (h : Rounds x d) (hd : (⌊d.value⌋ : ℚ) ≠ d.value) :
    KeepsFraction x := by
  refine .inr ⟨d, fun n => ?_⟩
  have hfloor := h.floor_eq hd
  have hle := Int.floor_le x
  have hlt := Int.lt_floor_add_one x
  rw [hfloor] at hle hlt
  rcases le_or_gt n ⌊d.value⌋ with hn | hn
  · have hcast : (n : ℚ) ≤ ⌊d.value⌋ := by exact_mod_cast hn
    refine (h.nearer hd (hasEven_floor hd)).trans_le ?_
    rw [abs_of_nonpos (by linarith), abs_of_nonpos (by linarith)]
    linarith
  · have hcast : (⌊d.value⌋ : ℚ) + 1 ≤ n := by exact_mod_cast hn
    refine (h.nearer hd (hasEven_floor_add_one hd)).trans_le ?_
    push_cast
    rw [abs_of_nonneg (by linarith), abs_of_nonneg (by linarith)]
    linarith

/-- Where the fraction is kept, the result is an integer only if the exact one is. -/
lemma Rounds.floor_eq_self_iff (h : Rounds x d) (hx : KeepsFraction x) :
    (⌊d.value⌋ : ℚ) = d.value ↔ (⌊x⌋ : ℚ) = x := by
  rcases hx with ⟨k, hk⟩ | ⟨z, hz⟩
  · rw [h.eq_of_int hk, hk]
  · constructor
    · intro hint
      have hle := h.nearest.le z.value ⟨z, rfl⟩
      rw [← hint] at hle
      exact absurd (hz ⌊d.value⌋) hle.not_gt
    · intro hint
      have hlt := hz ⌊x⌋
      rw [hint] at hlt
      exact absurd hlt (by simp)

lemma Rounds.floor_eq_of_keeps (h : Rounds x d) (hx : KeepsFraction x) : ⌊d.value⌋ = ⌊x⌋ := by
  by_cases hd : (⌊d.value⌋ : ℚ) = d.value
  · have hint := (h.floor_eq_self_iff hx).mp hd
    rw [h.eq_of_int hint.symm, Int.floor_intCast]
  · exact (h.floor_eq hd).symm

end RustDecimal

/-! ### Step alignment -/

/-- The arithmetic of the package: a product or a quotient that does not overflow is rounded. -/
structure DecimalArithmetic where
  mul : RustDecimal → RustDecimal → Option RustDecimal
  div : RustDecimal → RustDecimal → Option RustDecimal
  mul_rounds : ∀ {a b d}, mul a b = some d → RustDecimal.Rounds (a.value * b.value) d
  div_rounds : ∀ {a b d}, div a b = some d → RustDecimal.Rounds (a.value / b.value) d

namespace DecimalArithmetic

open RustDecimal

/-- `value` sits exactly on a `step` boundary. An overflow panics. -/
def isAligned (A : DecimalArithmetic) (value step : RustDecimal) : Option Bool :=
  if step.isZero then some false else (A.div value step).map fun q => q.fract.isZero

/-- Nearest valid quantity at or below `value`. -/
def qdown (A : DecimalArithmetic) (value step : RustDecimal) : Option RustDecimal :=
  if step.isZero then some zero else (A.div value step).bind fun q => A.mul q.floor step

variable {A : DecimalArithmetic} {value step d : RustDecimal} {aligned : Bool}

lemma isAligned_rounds (hstep : step.value ≠ 0) (h : A.isAligned value step = some aligned) :
    ∃ q, Rounds (value.value / step.value) q ∧ (aligned = true ↔ (⌊q.value⌋ : ℚ) = q.value) := by
  have hzero : step.isZero ≠ true := by rwa [Ne, isZero_iff]
  rw [isAligned, if_neg hzero, Option.map_eq_some_iff] at h
  obtain ⟨q, hq, rfl⟩ := h
  exact ⟨q, A.div_rounds hq, isZero_fract q⟩

lemma qdown_rounds (hstep : step.value ≠ 0) (h : A.qdown value step = some d) :
    ∃ q, Rounds (value.value / step.value) q ∧ Rounds (⌊q.value⌋ * step.value) d := by
  have hzero : step.isZero ≠ true := by rwa [Ne, isZero_iff]
  rw [qdown, if_neg hzero, Option.bind_eq_some_iff] at h
  obtain ⟨q, hq, hd⟩ := h
  refine ⟨q, A.div_rounds hq, ?_⟩
  simpa using A.mul_rounds hd

/-- Where the fraction of the quotient is kept, the answer is the exact one. -/
lemma isAligned_eq (hstep : step.value ≠ 0) (hkeeps : KeepsFraction (value.value / step.value))
    (h : A.isAligned value step = some aligned) :
    aligned = Confluence.isAligned value.value step.value := by
  obtain ⟨q, hq, haligned⟩ := isAligned_rounds hstep h
  rw [Bool.eq_iff_iff, haligned, hq.floor_eq_self_iff hkeeps, isAligned_iff_floor hstep]

lemma qdown_eq (hstep : step.value ≠ 0) (hkeeps : KeepsFraction (value.value / step.value))
    (hmem : (⌊value.value / step.value⌋ * step.value : ℚ) ∈ Representable)
    (h : A.qdown value step = some d) :
    d.value = Confluence.qdown value.value step.value := by
  obtain ⟨q, hq, hd⟩ := qdown_rounds hstep h
  rw [hq.floor_eq_of_keeps hkeeps] at hd
  rw [hd.nearest.eq_of_mem hmem, Confluence.qdown, if_neg hstep]

/-- Where it is lost, the quotient counts as an integer. -/
lemma aligned_of_loses (hstep : step.value ≠ 0)
    (hloses : ¬ KeepsFraction (value.value / step.value))
    (h : A.isAligned value step = some aligned) : aligned = true := by
  obtain ⟨q, hq, haligned⟩ := isAligned_rounds hstep h
  by_contra hne
  exact hloses (hq.keepsFraction fun heq => hne (haligned.mpr heq))

end DecimalArithmetic

end Confluence
