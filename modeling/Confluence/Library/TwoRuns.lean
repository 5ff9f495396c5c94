import Confluence.Library.Program

/-!
# Two runs of one program

A relation between stores that no query of a program can tell apart, and that every change of the
program keeps: then the two runs of the program from related stores end alike, in related stores.
The rules follow the ways in which programs are composed.
-/

namespace Engine

open Program

variable {Q : Type → Type} {σ δ ε ε' α β : Type} {E : Engine Q σ δ} {R : σ → σ → Prop} {s t : σ}

/-- From the two stores the program ends alike, with both transactions failed or neither, and leaves
related stores. -/
structure Alike (E : Engine Q σ δ) (R : σ → σ → Prop) (p : Program Q δ ε α) (s t : σ) : Prop where
  result : (E.run p ⟨s, false⟩).1 = (E.run p ⟨t, false⟩).1
  failed : (E.run p ⟨s, false⟩).2.failed = (E.run p ⟨t, false⟩).2.failed
  stores : R (E.run p ⟨s, false⟩).2.store (E.run p ⟨t, false⟩).2.store

/-- What a failed transaction ends with does not depend on the store. -/
lemma run_failed_fst (p : Program Q δ ε α) (s t : σ) :
    (E.run p ⟨s, true⟩).1 = (E.run p ⟨t, true⟩).1 := by
  induction p with
  | done r => rfl
  | query q next ih =>
    simp only [run, if_true]
    exact ih _

lemma alike_done (r : Except ε α) (h : R s t) : E.Alike R (done r : Program Q δ ε α) s t :=
  ⟨rfl, rfl, h⟩

lemma alike_pure (a : α) (h : R s t) : E.Alike R (pure a : Program Q δ ε α) s t :=
  ⟨rfl, rfl, h⟩

lemma alike_required (e : ε) (x : Option α) (h : R s t) :
    E.Alike R (required e x : Program Q δ ε α) s t := by
  cases x <;> exact alike_done _ h

/-- A query with the same answer and the same change. -/
lemma alike_ask {wrap : δ → ε} {q : Q β} (h : R s t) (hexec : E.exec q s = E.exec q t)
    (hchange : ∀ b change, E.exec q s = .ok (b, change) → R (change s) (change t)) :
    E.Alike R (ask wrap q) s t := by
  constructor
  · rw [run_ask, run_ask, ← hexec]
    rcases E.exec q s with e | ⟨b, change⟩ <;> rfl
  · rw [run_ask, run_ask, ← hexec]
    rcases E.exec q s with e | ⟨b, change⟩ <;> rfl
  · rw [run_ask, run_ask, ← hexec]
    rcases hq : E.exec q s with e | ⟨b, change⟩
    · exact h
    · exact hchange b change hq

lemma Alike.handle {p : Program Q δ ε α} {k : Except ε α → Program Q δ ε' β}
    (hp : E.Alike R p s t)
    (hk : ∀ r s' t', E.run p ⟨s, false⟩ = (r, ⟨s', false⟩) →
      E.run p ⟨t, false⟩ = (r, ⟨t', false⟩) → R s' t' → E.Alike R (k r) s' t') :
    E.Alike R (p.handle k) s t := by
  obtain ⟨hresult, hfailed, hstores⟩ := hp
  rcases hs : E.run p ⟨s, false⟩ with ⟨r, s', failed⟩
  rcases ht : E.run p ⟨t, false⟩ with ⟨r', t', failed'⟩
  rw [hs, ht] at hresult hfailed hstores
  obtain rfl : r = r' := hresult
  obtain rfl : failed = failed' := hfailed
  cases failed with
  | false =>
    obtain ⟨hresult, hfailed, hstores'⟩ := hk r s' t' hs ht hstores
    constructor <;> rw [run_handle, run_handle, hs, ht]
    · exact hresult
    · exact hfailed
    · exact hstores'
  | true =>
    -- nothing that follows reaches the stores
    have hs' := E.run_of_failed (k r) (v := ⟨s', true⟩) rfl
    have ht' := E.run_of_failed (k r) (v := ⟨t', true⟩) rfl
    constructor <;> rw [run_handle, run_handle, hs, ht]
    · exact run_failed_fst _ _ _
    · rw [hs', ht']
    · rw [hs', ht']
      exact hstores

lemma Alike.bind {p : Program Q δ ε α} {f : α → Program Q δ ε β} (hp : E.Alike R p s t)
    (hf : ∀ a s' t', E.Commits p s a s' → E.Commits p t a t' → R s' t' → E.Alike R (f a) s' t') :
    E.Alike R (p >>= f) s t := by
  refine hp.handle fun r s' t' hs ht h => ?_
  cases r with
  | ok a => exact hf a s' t' hs ht h
  | error e => exact alike_done _ h

lemma Alike.mapError {p : Program Q δ ε α} {f : ε → ε'} (hp : E.Alike R p s t) :
    E.Alike R (p.mapError f) s t := by
  refine hp.handle fun r s' t' _ _ h => ?_
  cases r <;> exact alike_done _ h

lemma Alike.attempt {p : Program Q δ ε α} (hp : E.Alike R p s t) :
    E.Alike R (p.attempt : Program Q δ ε' (Except ε α)) s t :=
  hp.handle fun _ _ _ _ _ h => alike_done _ h

lemma Alike.ite {c : Prop} [Decidable c] {p q : Program Q δ ε α} (hp : E.Alike R p s t)
    (hq : E.Alike R q s t) : E.Alike R (if c then p else q) s t := by
  split_ifs
  · exact hp
  · exact hq

/-- As one transaction, too, the program ends alike and leaves related stores. -/
theorem Alike.atomically {p : Program Q δ ε α} (hp : E.Alike R p s t) (h : R s t) :
    (E.atomically p s).1 = (E.atomically p t).1 ∧ R (E.atomically p s).2 (E.atomically p t).2 := by
  obtain ⟨hresult, hfailed, hstores⟩ := hp
  unfold Engine.atomically
  rcases hs : E.run p ⟨s, false⟩ with ⟨r, s', failed⟩
  rcases ht : E.run p ⟨t, false⟩ with ⟨r', t', failed'⟩
  rw [hs, ht] at hresult hfailed hstores
  obtain rfl : r = r' := hresult
  obtain rfl : failed = failed' := hfailed
  cases r with
  | error e => exact ⟨rfl, h⟩
  | ok a =>
    refine ⟨rfl, ?_⟩
    cases failed with
    | false => exact hstores
    | true => exact h

/-! ### Programs that cannot tell related stores apart -/

/-- From any related stores the program ends alike. -/
def Respects (E : Engine Q σ δ) (R : σ → σ → Prop) (p : Program Q δ ε α) : Prop :=
  ∀ ⦃s t⦄, R s t → E.Alike R p s t

lemma respects_done (r : Except ε α) : E.Respects R (done r : Program Q δ ε α) :=
  fun _ _ h => alike_done r h

lemma respects_pure (a : α) : E.Respects R (pure a : Program Q δ ε α) :=
  fun _ _ h => alike_pure a h

lemma respects_required (e : ε) (x : Option α) :
    E.Respects R (required e x : Program Q δ ε α) :=
  fun _ _ h => alike_required e x h

lemma Respects.bind {p : Program Q δ ε α} {f : α → Program Q δ ε β} (hp : E.Respects R p)
    (hf : ∀ a, E.Respects R (f a)) : E.Respects R (p >>= f) :=
  fun _ _ h => (hp h).bind fun a _ _ _ _ h' => hf a h'

lemma Respects.mapError {p : Program Q δ ε α} {f : ε → ε'} (hp : E.Respects R p) :
    E.Respects R (p.mapError f) :=
  fun _ _ h => (hp h).mapError

lemma Respects.attempt {p : Program Q δ ε α} (hp : E.Respects R p) :
    E.Respects R (p.attempt : Program Q δ ε' (Except ε α)) :=
  fun _ _ h => (hp h).attempt

lemma Respects.ite {c : Prop} [Decidable c] {p q : Program Q δ ε α} (hp : E.Respects R p)
    (hq : E.Respects R q) : E.Respects R (if c then p else q) :=
  fun _ _ h => (hp h).ite (hq h)

end Engine
