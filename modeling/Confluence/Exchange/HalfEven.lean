import Confluence.Exchange.RoundedQuantize
import Mathlib.Data.List.MinMax

/-!
# Rounding half to even

The arithmetic of decimals as it can be computed: the nearest of the numbers that lie around the
exact result, one below and one above it at every scale.
-/

namespace Confluence

namespace RustDecimal

open Rounding

/-- The coefficient, cut off at the largest one. -/
def clamped (m : ℤ) (s : Fin 29) : RustDecimal where
  coefficient := max (-(2 ^ 96 - 1)) (min (2 ^ 96 - 1) m)
  scale := s
  fits := by rw [abs_lt]; omega
  scale_le := by omega

/-- The numbers around the exact result. -/
def around (x : Decimal) : List RustDecimal :=
  (List.finRange 29).flatMap fun s => [clamped ⌊x * 10 ^ s.val⌋ s, clamped ⌈x * 10 ^ s.val⌉ s]

/-- The nearest number; of two that are as near, an even one. None is found out of range. -/
def halfEven (x : Decimal) : Option RustDecimal :=
  if |x| < 2 ^ 96 then
    ((around x).argmin fun d => |d.value - x|).map fun d =>
      ((around x).find? fun e => |e.value - x| = |d.value - x| ∧ Even e.coefficient).getD d
  else none

section

variable {x : Decimal} {c d z : RustDecimal} {m : ℤ} {s : Fin 29}

lemma clamped_floor_mem : clamped ⌊x * 10 ^ s.val⌋ s ∈ around x := by
  simp only [around, List.mem_flatMap, List.mem_finRange, true_and]
  exact ⟨s, by simp⟩

lemma clamped_ceil_mem : clamped ⌈x * 10 ^ s.val⌉ s ∈ around x := by
  simp only [around, List.mem_flatMap, List.mem_finRange, true_and]
  exact ⟨s, by simp⟩

lemma eq_of_value_eq (hscale : c.scale = z.scale) (hvalue : c.value = z.value) : c = z := by
  have hcoefficient : (c.coefficient : ℚ) = z.coefficient := by
    rw [c.coefficient_eq, z.coefficient_eq, hscale, hvalue]
  cases c
  cases z
  simp_all

/-- Below the exact result no number of the scale lies above the clamped floor. -/
lemma le_clamped_floor (h : z.value ≤ x) (hs : s = z.scale) :
    z.value ≤ (clamped ⌊x * 10 ^ s.val⌋ s).value ∧ (clamped ⌊x * 10 ^ s.val⌋ s).value ≤ x := by
  have hpos : (0 : ℚ) < 10 ^ z.scale := by positivity
  have hle : (z.coefficient : ℚ) ≤ x * 10 ^ z.scale := by
    rw [z.coefficient_eq]
    gcongr
  have hfloor := Int.le_floor.mpr hle
  have hfits := abs_lt.mp z.fits
  have hcoefficient : z.coefficient ≤ (clamped ⌊x * 10 ^ s.val⌋ s).coefficient ∧
      (clamped ⌊x * 10 ^ s.val⌋ s).coefficient ≤ ⌊x * 10 ^ z.scale⌋ := by
    simp only [clamped, hs]
    omega
  constructor
  · rw [value, value, show (clamped ⌊x * 10 ^ s.val⌋ s).scale = z.scale from hs]
    have hcast : (z.coefficient : ℚ) ≤ (clamped ⌊x * 10 ^ s.val⌋ s).coefficient :=
      Int.cast_le.mpr hcoefficient.1
    gcongr
  · rw [value, show (clamped ⌊x * 10 ^ s.val⌋ s).scale = z.scale from hs, div_le_iff₀ hpos]
    exact Int.le_floor.mp hcoefficient.2

/-- Nor below it one above the exact result under the clamped ceiling. -/
lemma clamped_ceil_le (h : x ≤ z.value) (hs : s = z.scale) :
    x ≤ (clamped ⌈x * 10 ^ s.val⌉ s).value ∧ (clamped ⌈x * 10 ^ s.val⌉ s).value ≤ z.value := by
  have hpos : (0 : ℚ) < 10 ^ z.scale := by positivity
  have hle : x * 10 ^ z.scale ≤ (z.coefficient : ℚ) := by
    rw [z.coefficient_eq]
    gcongr
  have hceil := Int.ceil_le.mpr hle
  have hfits := abs_lt.mp z.fits
  have hcoefficient : ⌈x * 10 ^ z.scale⌉ ≤ (clamped ⌈x * 10 ^ s.val⌉ s).coefficient ∧
      (clamped ⌈x * 10 ^ s.val⌉ s).coefficient ≤ z.coefficient := by
    simp only [clamped, hs]
    omega
  constructor
  · rw [value, show (clamped ⌈x * 10 ^ s.val⌉ s).scale = z.scale from hs, le_div_iff₀ hpos]
    exact Int.ceil_le.mp hcoefficient.1
  · rw [value, value, show (clamped ⌈x * 10 ^ s.val⌉ s).scale = z.scale from hs]
    have hcast : ((clamped ⌈x * 10 ^ s.val⌉ s).coefficient : ℚ) ≤ z.coefficient :=
      Int.cast_le.mpr hcoefficient.2
    gcongr

/-- One of the numbers around is nearer than `z`, or it is `z`. -/
lemma exists_around (x : Decimal) (z : RustDecimal) :
    ∃ c ∈ around x, |c.value - x| ≤ |z.value - x| ∧ (|z.value - x| ≤ |c.value - x| → c = z) := by
  let s : Fin 29 := ⟨z.scale, Nat.lt_succ_of_le z.scale_le⟩
  rcases le_total z.value x with h | h
  · obtain ⟨hz, hx⟩ := le_clamped_floor (s := s) h rfl
    refine ⟨clamped ⌊x * 10 ^ s.val⌋ s, clamped_floor_mem, ?_, fun hle => eq_of_value_eq rfl ?_⟩
    · rw [abs_of_nonpos (by linarith), abs_of_nonpos (by linarith)]
      linarith
    · rw [abs_of_nonpos (by linarith), abs_of_nonpos (by linarith)] at hle
      linarith
  · obtain ⟨hx, hz⟩ := clamped_ceil_le (s := s) h rfl
    refine ⟨clamped ⌈x * 10 ^ s.val⌉ s, clamped_ceil_mem, ?_, fun hle => eq_of_value_eq rfl ?_⟩
    · rw [abs_of_nonneg (by linarith), abs_of_nonneg (by linarith)]
      linarith
    · rw [abs_of_nonneg (by linarith), abs_of_nonneg (by linarith)] at hle
      linarith

lemma halfEven_rounds (h : halfEven x = some d) : Rounds x d := by
  unfold halfEven at h
  split_ifs at h with hrange
  rw [Option.map_eq_some_iff] at h
  obtain ⟨e, he, rfl⟩ := h
  have hleast : ∀ z : RustDecimal, |e.value - x| ≤ |z.value - x| := by
    intro z
    obtain ⟨c, hc, hle, -⟩ := exists_around x z
    exact (List.le_of_mem_argmin hc he).trans hle
  cases hfind : (around x).find? fun c => |c.value - x| = |e.value - x| ∧ Even c.coefficient with
  | some c =>
    obtain ⟨heq, heven⟩ := by simpa using List.find?_some hfind
    refine ⟨hrange, ⟨⟨c, rfl⟩, ?_⟩, fun _ _ _ => ⟨c, rfl, heven⟩⟩
    rintro _ ⟨z, rfl⟩
    rw [Option.getD_some, heq]
    exact hleast z
  | none =>
    refine ⟨hrange, ⟨⟨e, rfl⟩, ?_⟩, ?_⟩
    · rintro _ ⟨z, rfl⟩
      exact hleast z
    · rintro _ hnearest ⟨z, rfl, heven⟩
      obtain ⟨c, hc, -, heq⟩ := exists_around x z
      obtain rfl := heq (hnearest.le c.value ⟨c, rfl⟩)
      have hsame : |c.value - x| = |e.value - x| :=
        (hnearest.le e.value ⟨e, rfl⟩).antisymm (hleast c)
      have hnot := List.find?_eq_none.mp hfind c hc
      simp [hsame, heven] at hnot

end

end RustDecimal

/-- The arithmetic with this rounding; a division by zero panics. -/
def halfEvenArithmetic : DecimalArithmetic where
  mul a b := RustDecimal.halfEven (a.value * b.value)
  div a b := if b.isZero then none else RustDecimal.halfEven (a.value / b.value)
  mul_rounds h := RustDecimal.halfEven_rounds h
  div_rounds h := by
    split_ifs at h
    exact RustDecimal.halfEven_rounds h

end Confluence
