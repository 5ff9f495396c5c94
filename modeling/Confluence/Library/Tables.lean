import Mathlib.Data.List.Forall2

/-!
# Tables that grow

A table grows when every row keeps its place, rewritten at most within a relation, and new rows come
behind. Growth within a preorder is a preorder, which appends and updates stay in.
-/

/-- Every row of `l` is still in its place in `l'`, as one that `R` relates it to. -/
def Grown {ρ : Type*} (R : ρ → ρ → Prop) (l l' : List ρ) : Prop :=
  ∀ (i : ℕ) (r : ρ), l[i]? = some r → ∃ r', l'[i]? = some r' ∧ R r r'

namespace Grown

variable {ρ : Type*} {R : ρ → ρ → Prop} {l l' l'' : List ρ}

lemma refl (hR : ∀ r, R r r) (l : List ρ) : Grown R l l :=
  fun _ r h => ⟨r, h, hR r⟩

lemma trans (hR : ∀ r r' r'', R r r' → R r' r'' → R r r'') (h : Grown R l l')
    (h' : Grown R l' l'') : Grown R l l'' := by
  intro i r hr
  obtain ⟨r', hr', hR₁⟩ := h i r hr
  obtain ⟨r'', hr'', hR₂⟩ := h' i r' hr'
  exact ⟨r'', hr'', hR _ _ _ hR₁ hR₂⟩

lemma append (hR : ∀ r, R r r) (l added : List ρ) : Grown R l (l ++ added) := by
  intro i r hr
  obtain ⟨hi, -⟩ := List.getElem?_eq_some_iff.mp hr
  refine ⟨r, ?_, hR r⟩
  rw [List.getElem?_append_left hi, hr]

lemma map {f : ρ → ρ} (hf : ∀ r, R r (f r)) (l : List ρ) : Grown R l (l.map f) := by
  intro i r hr
  refine ⟨f r, ?_, hf r⟩
  simp [hr]

lemma exists_mem (h : Grown R l l') {r : ρ} (hr : r ∈ l) : ∃ r' ∈ l', R r r' := by
  obtain ⟨i, hi⟩ := List.mem_iff_getElem?.mp hr
  obtain ⟨r', hr', hR⟩ := h i r hi
  exact ⟨r', List.mem_of_getElem? hr', hR⟩

end Grown
