import Mathlib.Tactic

/-!
# Transaction programs

A program queries a store and decides by the answers how to go on. It is data, so that one
text of a program can be run alone, as one transaction, or interleaved with others. A failed
query does not end the program, which may handle the error, but it leaves the transaction
failed: every later query is refused and its commit keeps nothing.
-/

/-- A program with queries `Q`, answered with errors in `δ`, that ends with an error in `ε` or a
value in `α`. -/
inductive Program (Q : Type → Type) (δ ε α : Type) : Type 1
  | done (r : Except ε α)
  | query {β : Type} (q : Q β) (next : Except δ β → Program Q δ ε α)

namespace Program

variable {Q : Type → Type} {σ δ ε ε' α β : Type}

/-- Go on with `k` after `p`, whether it ended with a value or an error. -/
def handle (p : Program Q δ ε α) (k : Except ε α → Program Q δ ε' β) : Program Q δ ε' β :=
  match p with
  | done r => k r
  | query q next => query q fun r => (next r).handle k

protected def bind (p : Program Q δ ε α) (f : α → Program Q δ ε β) : Program Q δ ε β :=
  p.handle fun
    | .ok a => f a
    | .error e => done (.error e)

instance : Monad (Program Q δ ε) where
  pure a := done (.ok a)
  bind := Program.bind

/-- End with an error. -/
def fail (e : ε) : Program Q δ ε α := done (.error e)

/-- One query, whose error ends the program. -/
def ask (wrap : δ → ε) (q : Q β) : Program Q δ ε β :=
  query q fun
    | .ok b => done (.ok b)
    | .error e => done (.error (wrap e))

def mapError (p : Program Q δ ε α) (f : ε → ε') : Program Q δ ε' α :=
  p.handle fun
    | .ok a => done (.ok a)
    | .error e => done (.error (f e))

/-- The outcome of `p` as a value: what follows decides what an error means. -/
def attempt (p : Program Q δ ε α) : Program Q δ ε' (Except ε α) :=
  p.handle fun r => done (.ok r)

/-- The value of an optional row, or an error when there is none. -/
def required (e : ε) : Option α → Program Q δ ε α
  | some a => done (.ok a)
  | none => fail e

end Program

/-- How a store answers queries: an answer with the change that the query makes, or an error.
`aborted` is the error of every query of a failed transaction. -/
structure Engine (Q : Type → Type) (σ δ : Type) where
  exec {β : Type} : Q β → σ → Except δ (β × (σ → σ))
  aborted : δ

/-- What a transaction sees, and whether one of its queries has failed. -/
structure View (σ : Type) where
  store : σ
  failed : Bool

namespace Engine

open Program

variable {Q : Type → Type} {σ δ ε ε' α β : Type} (E : Engine Q σ δ)

/-- Answer the queries of a program one after another. -/
def run : Program Q δ ε α → View σ → Except ε α × View σ
  | done r, v => (r, v)
  | query q next, v =>
    if v.failed then run (next (.error E.aborted)) v
    else
      match E.exec q v.store with
      | .ok (b, change) => run (next (.ok b)) ⟨change v.store, false⟩
      | .error e => run (next (.error e)) ⟨v.store, true⟩

/-- Run a program as one transaction: an error rolls back, and so does, without an error, the
commit of a transaction that has failed. -/
def atomically (p : Program Q δ ε α) (s : σ) : Except ε α × σ :=
  match E.run p ⟨s, false⟩ with
  | (.ok a, v) => (.ok a, if v.failed then s else v.store)
  | (.error e, _) => (.error e, s)

/-- The program ends with `a` from `s`, no query has failed, and its changes lead to `s'`. -/
def Commits (p : Program Q δ ε α) (s : σ) (a : α) (s' : σ) : Prop :=
  E.run p ⟨s, false⟩ = (.ok a, ⟨s', false⟩)

/-! ### Running composed programs -/

@[simp] lemma run_done (r : Except ε α) (v : View σ) : E.run (done r : Program Q δ ε α) v = (r, v) :=
  rfl

@[simp] lemma run_pure (a : α) (v : View σ) :
    E.run (pure a : Program Q δ ε α) v = (.ok a, v) :=
  rfl

@[simp] lemma run_fail (e : ε) (v : View σ) :
    E.run (fail e : Program Q δ ε α) v = (.error e, v) :=
  rfl

lemma run_handle (p : Program Q δ ε α) (k : Except ε α → Program Q δ ε' β) (v : View σ) :
    E.run (p.handle k) v = E.run (k (E.run p v).1) (E.run p v).2 := by
  induction p generalizing v with
  | done r => rfl
  | query q next ih =>
    simp only [handle, run]
    split_ifs
    · exact ih _ v
    · cases E.exec q v.store with
      | ok r => exact ih _ _
      | error e => exact ih _ _

lemma run_bind (p : Program Q δ ε α) (f : α → Program Q δ ε β) (v : View σ) :
    E.run (p >>= f) v =
      match E.run p v with
      | (.ok a, v') => E.run (f a) v'
      | (.error e, v') => (.error e, v') := by
  rw [show p >>= f = p.handle _ from rfl, run_handle]
  rcases E.run p v with ⟨_ | a, v'⟩ <;> rfl

lemma run_mapError (p : Program Q δ ε α) (f : ε → ε') (v : View σ) :
    E.run (p.mapError f) v = ((E.run p v).1.mapError f, (E.run p v).2) := by
  rw [mapError, run_handle]
  rcases E.run p v with ⟨_ | a, v'⟩ <;> rfl

lemma run_attempt (p : Program Q δ ε α) (v : View σ) :
    E.run (p.attempt : Program Q δ ε' (Except ε α)) v = (.ok (E.run p v).1, (E.run p v).2) := by
  rw [attempt, run_handle, run_done]

lemma run_ask (wrap : δ → ε) (q : Q β) (s : σ) :
    E.run (ask wrap q) ⟨s, false⟩ =
      match E.exec q s with
      | .ok (b, change) => (.ok b, ⟨change s, false⟩)
      | .error e => (.error (wrap e), ⟨s, true⟩) := by
  simp only [ask, run, Bool.false_eq_true, if_false]

@[simp] lemma run_required (e : ε) (x : Option α) (v : View σ) :
    E.run (required e x : Program Q δ ε α) v = (x.elim (.error e) .ok, v) := by
  cases x <;> rfl

/-- A failed transaction stays failed and changes nothing any more. -/
lemma run_of_failed (p : Program Q δ ε α) {v : View σ} (h : v.failed = true) :
    (E.run p v).2 = v := by
  induction p with
  | done r => rfl
  | query q next ih =>
    simp only [run, h, if_true]
    exact ih _

/-! ### Commits -/

variable {E}

lemma Commits.unique {p : Program Q δ ε α} {s s₁ s₂ : σ} {a₁ a₂ : α} (h₁ : E.Commits p s a₁ s₁)
    (h₂ : E.Commits p s a₂ s₂) : a₁ = a₂ ∧ s₁ = s₂ := by
  have h := h₁.symm.trans h₂
  simp only [Prod.mk.injEq, Except.ok.injEq, View.mk.injEq, and_true] at h
  exact h

@[simp] lemma commits_pure {a b : α} {s s' : σ} :
    E.Commits (pure a : Program Q δ ε α) s b s' ↔ a = b ∧ s = s' := by
  simp [Commits]

@[simp] lemma not_commits_fail {e : ε} {b : α} {s s' : σ} :
    ¬ E.Commits (fail e : Program Q δ ε α) s b s' := by
  simp [Commits]

lemma commits_bind {p : Program Q δ ε α} {f : α → Program Q δ ε β} {s s' : σ} {b : β} :
    E.Commits (p >>= f) s b s' ↔ ∃ a t, E.Commits p s a t ∧ E.Commits (f a) t b s' := by
  unfold Commits
  rw [run_bind]
  constructor
  · intro h
    rcases hp : E.run p ⟨s, false⟩ with ⟨_ | a, t, _ | _⟩
    · rw [hp] at h; cases h
    · rw [hp] at h; cases h
    · rw [hp] at h; exact ⟨a, t, rfl, h⟩
    · -- the transaction has failed in `p`, and cannot end unfailed after `f`
      rw [hp] at h
      have hfail := E.run_of_failed (f a) (v := ⟨t, true⟩) rfl
      simp only [h] at hfail
      cases hfail
  · rintro ⟨a, t, hp, hf⟩
    rw [hp]
    exact hf

lemma commits_mapError {p : Program Q δ ε α} {f : ε → ε'} {s s' : σ} {a : α} :
    E.Commits (p.mapError f) s a s' ↔ E.Commits p s a s' := by
  unfold Commits
  rw [run_mapError]
  rcases E.run p ⟨s, false⟩ with ⟨_ | b, v⟩ <;> simp [Except.mapError]

lemma commits_ask {wrap : δ → ε} {q : Q β} {s s' : σ} {b : β} :
    E.Commits (ask wrap q) s b s' ↔ ∃ change, E.exec q s = .ok (b, change) ∧ s' = change s := by
  unfold Commits
  rw [run_ask]
  rcases E.exec q s with e | ⟨c, change⟩ <;> simp [eq_comm]

@[simp] lemma commits_required {e : ε} {x : Option α} {a : α} {s s' : σ} :
    E.Commits (required e x : Program Q δ ε α) s a s' ↔ x = some a ∧ s = s' := by
  cases x <;> simp [Commits, required]

/-- An attempt commits with the value of what it attempts, or with an error that no query
raised. -/
lemma commits_attempt {p : Program Q δ ε α} {s s' : σ} {r : Except ε α} :
    E.Commits (p.attempt : Program Q δ ε' (Except ε α)) s r s' ↔
      E.run p ⟨s, false⟩ = (r, ⟨s', false⟩) := by
  unfold Commits
  rw [run_attempt]
  rcases E.run p ⟨s, false⟩ with ⟨r', v⟩
  simp

/-- An attempted query that fails does not commit. -/
lemma commits_attempt_ask {wrap : δ → ε} {q : Q β} {s s' : σ} {r : Except ε β} :
    E.Commits ((ask wrap q).attempt : Program Q δ ε' (Except ε β)) s r s' ↔
      ∃ b, r = .ok b ∧ E.Commits (ask wrap q) s b s' := by
  unfold Commits
  rw [run_attempt, run_ask]
  rcases E.exec q s with e | ⟨b, change⟩
  · constructor
    · intro h
      cases h
    · rintro ⟨b, -, h⟩
      cases h
  · constructor
    · intro h
      obtain ⟨hr, hview⟩ := Prod.mk.inj h
      exact ⟨b, (Except.ok.inj hr).symm, Prod.ext rfl hview⟩
    · rintro ⟨c, rfl, h⟩
      obtain ⟨hb, hview⟩ := Prod.mk.inj h
      exact Prod.ext (congrArg Except.ok hb) hview

/-- A transaction either leaves the store as it was or commits. -/
theorem atomically_cases (E : Engine Q σ δ) (p : Program Q δ ε α) (s : σ) :
    (E.atomically p s).2 = s ∨
      ∃ a, (E.atomically p s).1 = .ok a ∧ E.Commits p s a (E.atomically p s).2 := by
  unfold atomically Commits
  rcases hp : E.run p ⟨s, false⟩ with ⟨_ | a, t, _ | _⟩
  · exact .inl rfl
  · exact .inl rfl
  · exact .inr ⟨a, rfl, rfl⟩
  · exact .inl rfl

lemma atomically_of_error {p : Program Q δ ε α} {s : σ} {e : ε}
    (h : (E.atomically p s).1 = .error e) : (E.atomically p s).2 = s := by
  rcases atomically_cases E p s with hsame | ⟨a, hok, -⟩
  · exact hsame
  · rw [h] at hok
    cases hok

lemma atomically_of_commits {p : Program Q δ ε α} {s s' : σ} {a : α} (h : E.Commits p s a s') :
    E.atomically p s = (.ok a, s') := by
  unfold atomically
  rw [h]
  rfl

/-! ### What every query preserves -/

/-- Every query that succeeds leads to a store that `R` relates to the one before. -/
def Advances (E : Engine Q σ δ) (R : σ → σ → Prop) : Prop :=
  ∀ ⦃β : Type⦄ (q : Q β) (s : σ) (b : β) (change : σ → σ), E.exec q s = .ok (b, change) →
    R s (change s)

section

variable {R : σ → σ → Prop}

lemma Advances.run (h : E.Advances R) (hrefl : ∀ s, R s s)
    (htrans : ∀ s s' s'', R s s' → R s' s'' → R s s'') (p : Program Q δ ε α) (v : View σ) :
    R v.store (E.run p v).2.store := by
  induction p generalizing v with
  | done r => exact hrefl v.store
  | query q next ih =>
    rw [Engine.run]
    split_ifs
    · exact ih _ v
    · cases hq : E.exec q v.store with
      | ok r =>
        obtain ⟨b, change⟩ := r
        exact htrans _ _ _ (h q v.store b change hq) (ih (.ok b) ⟨change v.store, false⟩)
      | error e => exact ih (.error e) ⟨v.store, true⟩

/-- What every query preserves, a transaction preserves. -/
theorem Advances.atomically (h : E.Advances R) (hrefl : ∀ s, R s s)
    (htrans : ∀ s s' s'', R s s' → R s' s'' → R s s'') (p : Program Q δ ε α) (s : σ) :
    R s (E.atomically p s).2 := by
  rcases atomically_cases E p s with hsame | ⟨a, -, hcommit⟩
  · rw [hsame]
    exact hrefl s
  · have hrun := h.run hrefl htrans p ⟨s, false⟩
    rw [hcommit] at hrun
    exact hrun

end

/-! ### Programs whose errors are never swallowed

A transaction that ends with a value although a query failed has handled that failure. A
program that is *strict* never does, so that its success means its commit. -/

/-- Whenever the program ends with a value, no query has failed. -/
def Strict (E : Engine Q σ δ) (p : Program Q δ ε α) : Prop :=
  ∀ s a v, E.run p ⟨s, false⟩ = (.ok a, v) → v.failed = false

lemma strict_pure (a : α) : E.Strict (pure a : Program Q δ ε α) := by
  rintro s b v h
  rw [run_pure] at h
  obtain ⟨-, rfl⟩ := Prod.mk.inj h
  rfl

lemma strict_done (r : Except ε α) : E.Strict (done r : Program Q δ ε α) := by
  rintro s b v h
  rw [run_done] at h
  obtain ⟨-, rfl⟩ := Prod.mk.inj h
  rfl

lemma strict_ask (wrap : δ → ε) (q : Q β) : E.Strict (ask wrap q) := by
  rintro s b v h
  rw [run_ask] at h
  rcases hq : E.exec q s with e | ⟨c, change⟩
  · rw [hq] at h; cases h
  · rw [hq] at h
    obtain ⟨-, rfl⟩ := Prod.mk.inj h
    rfl

lemma strict_required (e : ε) (x : Option α) : E.Strict (required e x : Program Q δ ε α) := by
  cases x <;> exact strict_done _

lemma Strict.bind {p : Program Q δ ε α} {f : α → Program Q δ ε β} (hp : E.Strict p)
    (hf : ∀ a, E.Strict (f a)) : E.Strict (p >>= f) := by
  rintro s b v h
  rw [run_bind] at h
  rcases hr : E.run p ⟨s, false⟩ with ⟨_ | a, t, failed⟩
  · rw [hr] at h; cases h
  · rw [hr] at h
    obtain rfl : failed = false := hp s a _ hr
    exact hf a t b v h

lemma Strict.mapError {p : Program Q δ ε α} {f : ε → ε'} (hp : E.Strict p) :
    E.Strict (p.mapError f) := by
  rintro s b v h
  rw [run_mapError] at h
  rcases hr : E.run p ⟨s, false⟩ with ⟨_ | a, t⟩
  · rw [hr] at h; cases h
  · rw [hr] at h
    obtain ⟨-, rfl⟩ := Prod.mk.inj h
    exact hp s a _ hr

lemma Strict.ite {c : Prop} [Decidable c] {p q : Program Q δ ε α} (hp : E.Strict p)
    (hq : E.Strict q) : E.Strict (if c then p else q) := by
  split_ifs
  · exact hp
  · exact hq

/-- The success of a strict program is its commit. -/
lemma Strict.commits {p : Program Q δ ε α} (hp : E.Strict p) {s : σ} {a : α}
    (h : (E.atomically p s).1 = .ok a) : E.Commits p s a (E.atomically p s).2 := by
  unfold atomically Commits at *
  rcases hr : E.run p ⟨s, false⟩ with ⟨_ | b, t, failed⟩
  · rw [hr] at h; cases h
  · obtain rfl : failed = false := hp s b _ hr
    rw [hr] at h
    obtain rfl := Except.ok.inj h
    rfl

/-! ### The errors of a program -/

/-- The program ends with no error outside `P`. -/
def ErrorsIn (E : Engine Q σ δ) (P : ε → Prop) (p : Program Q δ ε α) : Prop :=
  ∀ v e v', E.run p v = (.error e, v') → P e

variable {P : ε → Prop} {P' : ε' → Prop}

lemma errorsIn_pure (a : α) : E.ErrorsIn P (pure a : Program Q δ ε α) := by
  intro v e v' h
  cases h

lemma errorsIn_fail {e : ε} (he : P e) : E.ErrorsIn P (fail e : Program Q δ ε α) := by
  intro v e' v' h
  cases h
  exact he

lemma errorsIn_mapError {p : Program Q δ ε α} {f : ε → ε'} (hf : ∀ e, P' (f e)) :
    E.ErrorsIn P' (p.mapError f) := by
  intro v e v' h
  rw [run_mapError] at h
  rcases hp : E.run p v with ⟨e' | a, t⟩
  · rw [hp] at h
    cases h
    exact hf e'
  · rw [hp] at h
    cases h

lemma errorsIn_attempt {p : Program Q δ ε α} :
    E.ErrorsIn P' (p.attempt : Program Q δ ε' (Except ε α)) := by
  intro v e v' h
  rw [run_attempt] at h
  cases h

lemma ErrorsIn.mono {P' : ε → Prop} {p : Program Q δ ε α} (hp : E.ErrorsIn P p)
    (h : ∀ e, P e → P' e) : E.ErrorsIn P' p :=
  fun v e v' hrun => h e (hp v e v' hrun)

/-- An error of a sequence is one of its parts'. -/
lemma of_run_bind_error {p : Program Q δ ε α} {f : α → Program Q δ ε β} {v v' : View σ} {e : ε}
    (h : E.run (p >>= f) v = (.error e, v')) :
    E.run p v = (.error e, v') ∨
      ∃ a t, E.run p v = (.ok a, t) ∧ E.run (f a) t = (.error e, v') := by
  rw [run_bind] at h
  rcases hp : E.run p v with ⟨e' | a, t⟩
  · rw [hp] at h
    obtain ⟨he, rfl⟩ := Prod.mk.inj h
    obtain rfl := Except.error.inj he
    exact .inl rfl
  · rw [hp] at h
    exact .inr ⟨a, t, rfl, h⟩

lemma ErrorsIn.bind {p : Program Q δ ε α} {f : α → Program Q δ ε β} (hp : E.ErrorsIn P p)
    (hf : ∀ a, E.ErrorsIn P (f a)) : E.ErrorsIn P (p >>= f) := by
  intro v e v' h
  rw [run_bind] at h
  rcases hr : E.run p v with ⟨e' | a, t⟩
  · rw [hr] at h
    cases h
    exact hp v _ _ hr
  · rw [hr] at h
    exact hf a t e v' h

lemma ErrorsIn.ite {c : Prop} [Decidable c] {p q : Program Q δ ε α} (hp : E.ErrorsIn P p)
    (hq : E.ErrorsIn P q) : E.ErrorsIn P (if c then p else q) := by
  split_ifs
  · exact hp
  · exact hq

lemma ErrorsIn.atomically {p : Program Q δ ε α} (hp : E.ErrorsIn P p) {s : σ} {e : ε}
    (h : (E.atomically p s).1 = .error e) : P e := by
  unfold Engine.atomically at h
  rcases hr : E.run p ⟨s, false⟩ with ⟨e' | a, t⟩
  · rw [hr] at h
    cases h
    exact hp _ _ _ hr
  · rw [hr] at h
    cases h

end Engine
