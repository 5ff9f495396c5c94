import Mathlib.Tactic

/-!
# Arithmetic with a bound on the magnitude

An operation gives its exact result when that is within the bound, and nothing otherwise. A
computation written with such operations in the `Option` monad has a result exactly when each
intermediate result that it reaches is within the bound.
-/

namespace Bounded

variable {K α : Type*} [AddCommGroup K] [LinearOrder K]

/-- The exact result `x`, when its magnitude is within the bound. -/
def fit (bound x : K) : Option K :=
  if |x| ≤ bound then some x else none

/-- Sums up a list onto `acc`, one element after the other. -/
def sumFrom (bound acc : K) : List K → Option K
  | [] => some acc
  | x :: xs => (fit bound (acc + x)).bind fun acc => sumFrom bound acc xs

def sum (bound : K) (xs : List K) : Option K := sumFrom bound 0 xs

variable {bound x y : K} {f : K → Option α} {z : α}

lemma fit_eq_some : fit bound x = some y ↔ |x| ≤ bound ∧ x = y := by
  unfold fit
  split_ifs with h <;> simp [h]

/-- What follows an operation runs on its exact result. -/
@[simp] lemma bind_fit_eq_some : (fit bound x).bind f = some z ↔ |x| ≤ bound ∧ f x = some z := by
  unfold fit
  split_ifs with h <;> simp [h]

lemma sumFrom_eq_some {acc : K} {xs : List K} :
    sumFrom bound acc xs = some y ↔
      (∀ ys, ys <+: xs → ys ≠ [] → |acc + ys.sum| ≤ bound) ∧ acc + xs.sum = y := by
  induction xs generalizing acc with
  | nil =>
    simp only [sumFrom, Option.some.injEq, List.prefix_nil, List.sum_nil, add_zero]
    constructor
    · rintro rfl
      exact ⟨fun ys hnil hne => absurd hnil hne, rfl⟩
    · exact fun h => h.2
  | cons x xs ih =>
    rw [sumFrom, bind_fit_eq_some, ih, List.sum_cons, ← add_assoc, ← and_assoc]
    refine and_congr_left fun _ => ⟨?_, ?_⟩
    · rintro ⟨hfirst, hrest⟩ ys hprefix hne
      obtain _ | ⟨y, ys⟩ := ys
      · exact absurd rfl hne
      obtain ⟨rfl, htail⟩ := List.cons_prefix_cons.mp hprefix
      rw [List.sum_cons, ← add_assoc]
      obtain rfl | hys := eq_or_ne ys []
      · simpa using hfirst
      · exact hrest ys htail hys
    · intro h
      refine ⟨?_, fun ys hprefix _ => ?_⟩
      · simpa using h [x] (by simp) (by simp)
      · simpa [add_assoc] using h (x :: ys) (List.cons_prefix_cons.mpr ⟨rfl, hprefix⟩) (by simp)

variable [IsOrderedAddMonoid K]

/-- A sum has a result when every partial sum is within the bound, and that is the exact sum. -/
lemma sum_eq_some (hbound : 0 ≤ bound) {xs : List K} :
    sum bound xs = some y ↔ (∀ ys, ys <+: xs → |ys.sum| ≤ bound) ∧ xs.sum = y := by
  rw [sum, sumFrom_eq_some]
  simp only [zero_add]
  refine and_congr_left fun _ => ⟨fun h ys hprefix => ?_, fun h ys hprefix _ => h ys hprefix⟩
  obtain rfl | hne := eq_or_ne ys []
  · simpa using hbound
  · exact h ys hprefix hne

lemma bind_sum_eq_some (hbound : 0 ≤ bound) {xs : List K} :
    (sum bound xs).bind f = some z ↔
      (∀ ys, ys <+: xs → |ys.sum| ≤ bound) ∧ f xs.sum = some z := by
  rw [Option.bind_eq_some_iff]
  constructor
  · rintro ⟨y, hsum, hf⟩
    obtain ⟨hfits, rfl⟩ := (sum_eq_some hbound).mp hsum
    exact ⟨hfits, hf⟩
  · rintro ⟨hfits, hf⟩
    exact ⟨_, (sum_eq_some hbound).mpr ⟨hfits, rfl⟩, hf⟩

/-! ### Computations that may overflow -/

section

universe u

variable {ε α β : Type u}

/-- Within `fits`, and only there, the computation gives `exact`. -/
def Computes (x : Option α) (fits : Prop) (exact : α) : Prop :=
  ∀ v, x = some v ↔ fits ∧ exact = v

variable {x : Option α} {fits : Prop} {exact : α}

lemma Computes.exists_iff (h : Computes x fits exact) : (∃ v, x = some v) ↔ fits :=
  ⟨fun ⟨v, hv⟩ => ((h v).mp hv).1, fun hfits => ⟨exact, (h exact).mpr ⟨hfits, rfl⟩⟩⟩

lemma computes_some (a : α) : Computes (some a) True a := by
  simp [Computes]

lemma Computes.congr {fits' : Prop} {exact' : α} (h : Computes x fits exact)
    (hfits : fits ↔ fits') (hexact : fits → exact = exact') : Computes x fits' exact' := by
  intro v
  rw [h v, ← hfits]
  exact and_congr_right fun hf => by rw [hexact hf]

lemma computes_fit {K : Type*} [AddCommGroup K] [LinearOrder K] (bound x : K) :
    Computes (fit bound x) (|x| ≤ bound) x :=
  fun _ => fit_eq_some

/-- The second computation is reached with the result of the first. -/
lemma Computes.bind {f : α → Option β} {fits' : Prop} {exact' : β} (h : Computes x fits exact)
    (hf : Computes (f exact) fits' exact') : Computes (x.bind f) (fits ∧ fits') exact' := by
  intro v
  rw [Option.bind_eq_some_iff, and_assoc, ← hf v]
  constructor
  · rintro ⟨a, ha, hv⟩
    obtain ⟨hfits, rfl⟩ := (h a).mp ha
    exact ⟨hfits, hv⟩
  · rintro ⟨hfits, hv⟩
    exact ⟨exact, (h exact).mpr ⟨hfits, rfl⟩, hv⟩

lemma Computes.map (h : Computes x fits exact) (f : α → β) : Computes (x.map f) fits (f exact) := by
  intro v
  rw [Option.map_eq_some_iff]
  constructor
  · rintro ⟨a, ha, rfl⟩
    obtain ⟨hfits, rfl⟩ := (h a).mp ha
    exact ⟨hfits, rfl⟩
  · rintro ⟨hfits, rfl⟩
    exact ⟨exact, (h exact).mpr ⟨hfits, rfl⟩, rfl⟩

lemma Computes.ite {c : Prop} [Decidable c] {y : Option α} {fits' : Prop} {exact' : α}
    (h : c → Computes x fits exact) (h' : ¬ c → Computes y fits' exact') :
    Computes (if c then x else y) ((c → fits) ∧ (¬ c → fits')) (if c then exact else exact') := by
  intro v
  by_cases hc : c
  · simp [hc, h hc v]
  · simp [hc, h' hc v]

/-- With errors, the second computation is reached when the first gives no error. -/
lemma Computes.seq {x : ExceptT ε Option α} {y : ExceptT ε Option β} {fits fits' : Prop}
    {exact : Except ε α} {exact' : Except ε β} (h : Computes x.run fits exact)
    (h' : Computes y.run fits' exact') :
    Computes (x >>= fun _ => y).run (fits ∧ (exact.isOk = true → fits'))
      (exact >>= fun _ => exact') := by
  rw [ExceptT.run_bind]
  refine h.bind ?_
  cases exact with
  | error e =>
    exact (computes_some (Except.error e : Except ε β)).congr (by simp [Except.isOk, Except.toBool])
      fun _ => rfl
  | ok a => exact h'.congr (by simp [Except.isOk, Except.toBool]) fun _ => rfl

end

end Bounded
