import Confluence.Library.Program

/-!
# Interrupted transactions

Any query of a transaction may fail for a reason of its own, whatever the store holds. A failure
leaves the transaction failed, so that every later query of the program is refused, and how the
program ends is decided by its text alone.
-/

namespace Program

variable {Q : Type → Type} {δ ε ε' α β : Type} {d : δ}

/-- How the program ends when every query is refused. -/
def refused (d : δ) : Program Q δ ε α → Except ε α
  | done r => r
  | query _ next => (next (.error d)).refused d

lemma refused_handle (p : Program Q δ ε α) (k : Except ε α → Program Q δ ε' β) :
    (p.handle k).refused d = (k (p.refused d)).refused d := by
  induction p with
  | done r => rfl
  | query q next ih => exact ih _

/-- Whenever a query fails, the program ends as `P` says. -/
def FailsAs (d : δ) (P : ∀ γ : Type, Q γ → Except ε α → Prop) : Program Q δ ε α → Prop
  | done _ => True
  | query q next =>
    (∀ e, P _ q ((next (.error e)).refused d)) ∧ ∀ b, FailsAs d P (next (.ok b))

variable {P : ∀ γ : Type, Q γ → Except ε α → Prop} {P' : ∀ γ : Type, Q γ → Except ε' β → Prop}

lemma FailsAs.mono {P₁ : ∀ γ : Type, Q γ → Except ε α → Prop} {p : Program Q δ ε α}
    (hp : p.FailsAs d P) (h : ∀ γ (q : Q γ) r, P γ q r → P₁ γ q r) : p.FailsAs d P₁ := by
  induction p with
  | done r => trivial
  | query q next ih => exact ⟨fun e => h _ _ _ (hp.1 e), fun b => ih _ (hp.2 b)⟩

lemma FailsAs.handle {p : Program Q δ ε α} {k : Except ε α → Program Q δ ε' β}
    (hp : p.FailsAs d P) (h : ∀ γ (q : Q γ) r, P γ q r → P' γ q ((k r).refused d))
    (hk : ∀ r, (k r).FailsAs d P') : (p.handle k).FailsAs d P' := by
  induction p with
  | done r => exact hk r
  | query q next ih =>
    refine ⟨fun e => ?_, fun b => ih _ (hp.2 b)⟩
    rw [refused_handle]
    exact h _ _ _ (hp.1 e)

lemma failsAs_pure (a : α) : (pure a : Program Q δ ε α).FailsAs d P := trivial

lemma failsAs_fail (e : ε) : (fail e : Program Q δ ε α).FailsAs d P := trivial

lemma failsAs_required (e : ε) (x : Option α) :
    (required e x : Program Q δ ε α).FailsAs d P := by
  cases x with
  | none => trivial
  | some a => trivial

lemma FailsAs.ite {c : Prop} [Decidable c] {p q : Program Q δ ε α} (hp : p.FailsAs d P)
    (hq : q.FailsAs d P) : (if c then p else q).FailsAs d P := by
  split_ifs
  · exact hp
  · exact hq

/-- The program passes every failure on as an error that `P` admits. -/
def Passes (d : δ) (P : ε → Prop) (p : Program Q δ ε α) : Prop :=
  p.FailsAs d fun _ _ r => ∃ e, r = .error e ∧ P e

variable {R : ε → Prop}

lemma passes_ask {wrap : δ → ε} (h : ∀ e, R (wrap e)) (q : Q α) :
    (ask wrap q).Passes d R :=
  ⟨fun e => ⟨_, rfl, h e⟩, fun _ => trivial⟩

/-- A failure in the first part skips the second one. -/
lemma Passes.bind_failsAs {p : Program Q δ ε α} {f : α → Program Q δ ε β}
    {P : ∀ γ : Type, Q γ → Except ε β → Prop} (hp : p.Passes d R)
    (h : ∀ γ (q : Q γ) e, R e → P γ q (.error e)) (hf : ∀ a, (f a).FailsAs d P) :
    (p >>= f).FailsAs d P := by
  refine FailsAs.handle hp ?_ fun r => ?_
  · rintro γ q _ ⟨e, rfl, he⟩
    exact h γ q e he
  · cases r with
    | ok a => exact hf a
    | error e => trivial

lemma Passes.bind {p : Program Q δ ε α} {f : α → Program Q δ ε β} (hp : p.Passes d R)
    (hf : ∀ a, (f a).Passes d R) : (p >>= f).Passes d R :=
  hp.bind_failsAs (fun _ _ e he => ⟨e, rfl, he⟩) hf

lemma Passes.mapError {p : Program Q δ ε α} {R' : ε' → Prop} {g : ε → ε'} (hp : p.Passes d R)
    (h : ∀ e, R e → R' (g e)) : (p.mapError g).Passes d R' := by
  refine FailsAs.handle hp ?_ fun r => ?_
  · rintro γ q _ ⟨e, rfl, he⟩
    exact ⟨_, rfl, h e he⟩
  · cases r with
    | ok a => trivial
    | error e => trivial

end Program

namespace Engine

open Program

variable {Q : Type → Type} {σ δ ε α : Type}

/-- Which queries of a transaction fail, by the query and its number. -/
structure Failures (Q : Type → Type) (δ : Type) where
  error? {β : Type} : Q β → ℕ → Option δ

/-- The engine with these failures. It counts the queries that have been answered. -/
def interrupted (E : Engine Q σ δ) (f : Failures Q δ) : Engine Q (σ × ℕ) δ where
  exec q s :=
    match f.error? q s.2 with
    | some e => .error e
    | none => (E.exec q s.1).map fun r => (r.1, Prod.map r.2 (· + 1))
  aborted := E.aborted

variable {E : Engine Q σ δ} {f : Failures Q δ}

/-- The text alone decides how a program ends in a failed transaction. -/
lemma run_fst_of_failed (E : Engine Q σ δ) (p : Program Q δ ε α) {v : View σ}
    (h : v.failed = true) : (E.run p v).1 = p.refused E.aborted := by
  induction p with
  | done r => rfl
  | query q next ih =>
    simp only [run, h, if_true, refused]
    exact ih _

/-- An interrupted program ends as without the interruption, or one of the queries has failed. -/
lemma run_interrupted {P : ∀ γ : Type, Q γ → Except ε α → Prop} {p : Program Q δ ε α}
    (hp : p.FailsAs E.aborted P) (s : σ) (n : ℕ) :
    (∃ m, (E.interrupted f).run p ⟨(s, n), false⟩ =
      ((E.run p ⟨s, false⟩).1,
        ⟨((E.run p ⟨s, false⟩).2.store, m), (E.run p ⟨s, false⟩).2.failed⟩)) ∨
    ∃ (γ : Type) (q : Q γ) (m : ℕ), f.error? q m ≠ none ∧
      P γ q ((E.interrupted f).run p ⟨(s, n), false⟩).1 ∧
      ((E.interrupted f).run p ⟨(s, n), false⟩).2.failed = true := by
  induction p generalizing s n with
  | done r => exact .inl ⟨n, rfl⟩
  | query q next ih =>
    simp only [run, Bool.false_eq_true, if_false]
    cases hfails : f.error? q n with
    | some e =>
      right
      have hexec : (E.interrupted f).exec q (s, n) = .error e := by simp [interrupted, hfails]
      refine ⟨_, q, n, by simp [hfails], ?_, ?_⟩
      · rw [hexec, run_fst_of_failed _ _ rfl]
        exact hp.1 e
      · rw [hexec, run_of_failed _ _ rfl]
    | none =>
      cases hexec : E.exec q s with
      | ok r =>
        have hinterrupted : (E.interrupted f).exec q (s, n) =
            .ok (r.1, Prod.map r.2 (· + 1)) := by
          simp [interrupted, hfails, hexec, Except.map]
        rw [hinterrupted]
        exact ih _ (hp.2 _) _ _
      | error e =>
        have hinterrupted : (E.interrupted f).exec q (s, n) = .error e := by
          simp [interrupted, hfails, hexec, Except.map]
        rw [hinterrupted]
        refine .inl ⟨n, Prod.ext ?_ ?_⟩
        · rw [run_fst_of_failed _ _ rfl, run_fst_of_failed _ _ rfl]
          rfl
        · rw [run_of_failed _ _ rfl, run_of_failed _ _ rfl]

/-- As one transaction: what a failed query leaves behind is the store as it was. -/
theorem atomically_interrupted {P : ∀ γ : Type, Q γ → Except ε α → Prop} {p : Program Q δ ε α}
    (hp : p.FailsAs E.aborted P) (f : Failures Q δ) (s : σ) :
    (((E.interrupted f).atomically p (s, 0)).1 = (E.atomically p s).1 ∧
      ((E.interrupted f).atomically p (s, 0)).2.1 = (E.atomically p s).2) ∨
    ((∃ (γ : Type) (q : Q γ) (m : ℕ), f.error? q m ≠ none ∧
        P γ q ((E.interrupted f).atomically p (s, 0)).1) ∧
      ((E.interrupted f).atomically p (s, 0)).2.1 = s) := by
  unfold atomically
  rcases run_interrupted hp s 0 with ⟨m, hrun⟩ | ⟨γ, q, m, hfails, hend, hfailed⟩
  · left
    rw [hrun]
    rcases E.run p ⟨s, false⟩ with ⟨_ | a, t, _ | _⟩ <;> exact ⟨rfl, rfl⟩
  · right
    rcases hrun : (E.interrupted f).run p ⟨(s, 0), false⟩ with ⟨e | a, v⟩
    · rw [hrun] at hend
      exact ⟨⟨γ, q, m, hfails, hend⟩, rfl⟩
    · rw [hrun] at hend hfailed
      refine ⟨⟨γ, q, m, hfails, hend⟩, ?_⟩
      simp only at hfailed
      simp [hfailed]

end Engine
