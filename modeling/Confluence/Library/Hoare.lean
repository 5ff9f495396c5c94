import Confluence.Library.Program

/-!
# Triples for transaction programs

A triple says which queries a program asks of the store and how it ends, from the stores that meet
its precondition. Nothing reaches the store after a failed query, so that only what happens before it
counts. Two engines that answer the admitted queries alike run the program alike.
-/

namespace Engine

open Program

variable {Q : Type → Type} {σ δ ε ε' α β : Type} {E E' : Engine Q σ δ}
  {P : ∀ ⦃β : Type⦄, Q β → σ → Prop}

/-- Every query that the program asks of the store is one that `P` admits there. -/
def Asks (E : Engine Q σ δ) (P : ∀ ⦃β : Type⦄, Q β → σ → Prop) : Program Q δ ε α → σ → Prop
  | done _, _ => True
  | query q next, s =>
    P q s ∧ ∀ b change, E.exec q s = .ok (b, change) → E.Asks P (next (.ok b)) (change s)

/-- From every store in `I`, the program asks queries in `P` only and ends, unless a query has failed,
with a result and a store in `J`. -/
structure Triple (E : Engine Q σ δ) (P : ∀ ⦃β : Type⦄, Q β → σ → Prop) (I : σ → Prop)
    (p : Program Q δ ε α) (J : Except ε α → σ → Prop) : Prop where
  asks : ∀ s, I s → E.Asks P p s
  ends : ∀ s r t, I s → E.run p ⟨s, false⟩ = (r, ⟨t, false⟩) → J r t

/-! ### Composed programs -/

lemma run_query_of_ok {q : Q β} {next : Except δ β → Program Q δ ε α} {s : σ} {b : β}
    {change : σ → σ} (h : E.exec q s = .ok (b, change)) :
    E.run (query q next) ⟨s, false⟩ = E.run (next (.ok b)) ⟨change s, false⟩ := by
  simp only [run, Bool.false_eq_true, if_false, h]

/-- After a failed query the transaction does not end unfailed. -/
lemma not_run_of_failed {p : Program Q δ ε α} {s t : σ} {r : Except ε α} :
    E.run p ⟨s, true⟩ ≠ (r, ⟨t, false⟩) := by
  intro h
  have hfailed := E.run_of_failed p (v := ⟨s, true⟩) rfl
  rw [h] at hfailed
  cases hfailed

lemma asks_handle {p : Program Q δ ε α} {k : Except ε α → Program Q δ ε' β} {s : σ} :
    E.Asks P (p.handle k) s ↔
      E.Asks P p s ∧ ∀ r t, E.run p ⟨s, false⟩ = (r, ⟨t, false⟩) → E.Asks P (k r) t := by
  induction p generalizing s with
  | done r =>
    simp only [Program.handle, Asks, run_done, true_and]
    constructor
    · rintro h r' t heq
      obtain ⟨rfl, ht⟩ := Prod.mk.inj heq
      obtain ⟨rfl, -⟩ := View.mk.inj ht
      exact h
    · intro h
      exact h r s rfl
  | query q next ih =>
    simp only [Program.handle, Asks]
    cases hq : E.exec q s with
    | error e =>
      have hrun (r : Except ε α) (t : σ) : E.run (query q next) ⟨s, false⟩ ≠ (r, ⟨t, false⟩) := by
        simp only [run, Bool.false_eq_true, if_false, hq]
        exact not_run_of_failed
      simp [hrun]
    | ok answer =>
      obtain ⟨b, change⟩ := answer
      simp only [run_query_of_ok hq, Except.ok.injEq, Prod.mk.injEq, and_imp]
      constructor
      · rintro ⟨hP, h⟩
        obtain ⟨hasks, hk⟩ := ih (.ok b) |>.mp (h b change rfl rfl)
        refine ⟨⟨hP, ?_⟩, hk⟩
        rintro _ _ rfl rfl
        exact hasks
      · rintro ⟨⟨hP, hasks⟩, hk⟩
        refine ⟨hP, ?_⟩
        rintro _ _ rfl rfl
        exact (ih (.ok b)).mpr ⟨hasks b change rfl rfl, hk⟩

lemma Asks.mono {P' : ∀ ⦃β : Type⦄, Q β → σ → Prop} {p : Program Q δ ε α} {s : σ}
    (h : E.Asks P p s) (hP : ∀ ⦃β : Type⦄ (q : Q β) s, P q s → P' q s) : E.Asks P' p s := by
  induction p generalizing s with
  | done r => trivial
  | query q next ih =>
    exact ⟨hP q s h.1, fun b change hq => ih (.ok b) (h.2 b change hq)⟩

/-- What every admitted query keeps holds of each store that is asked. -/
lemma Asks.and_keeps {I : σ → Prop} {p : Program Q δ ε α} {s : σ} (h : E.Asks P p s)
    (hI : ∀ ⦃β : Type⦄ (q : Q β) s b change, P q s → I s → E.exec q s = .ok (b, change) →
      I (change s)) (hs : I s) : E.Asks (fun _ q s => P q s ∧ I s) p s := by
  induction p generalizing s with
  | done r => trivial
  | query q next ih =>
    refine ⟨⟨h.1, hs⟩, fun b change hq => ?_⟩
    exact ih (.ok b) (h.2 b change hq) (hI q s b change h.1 hs hq)

/-- What every admitted query keeps, the program keeps. -/
lemma Asks.keeps {I : σ → Prop} {p : Program Q δ ε α} {s : σ} (h : E.Asks P p s)
    (hI : ∀ ⦃β : Type⦄ (q : Q β) s b change, P q s → I s → E.exec q s = .ok (b, change) →
      I (change s)) (hs : I s) : I (E.atomically p s).2 := by
  have hends : ∀ r t, E.run p ⟨s, false⟩ = (r, ⟨t, false⟩) → I t := by
    induction p generalizing s with
    | done r =>
      intro r' t heq
      obtain ⟨-, ht⟩ := Prod.mk.inj heq
      obtain ⟨rfl, -⟩ := View.mk.inj ht
      exact hs
    | query q next ih =>
      intro r t heq
      rcases hq : E.exec q s with e | ⟨b, change⟩
      · simp only [run, Bool.false_eq_true, if_false, hq] at heq
        exact (not_run_of_failed heq).elim
      · rw [run_query_of_ok hq] at heq
        exact ih (.ok b) (h.2 b change hq) (hI q s b change h.1 hs hq) r t heq
  rcases atomically_cases E p s with hsame | ⟨a, -, hcommit⟩
  · rw [hsame]
    exact hs
  · exact hends _ _ hcommit

namespace Triple

variable {I I' : σ → Prop}

lemma done {r : Except ε α} {J : Except ε α → σ → Prop} (h : ∀ s, I s → J r s) :
    E.Triple P I (Program.done r : Program Q δ ε α) J where
  asks _ _ := trivial
  ends s r' t hs heq := by
    obtain ⟨rfl, ht⟩ := Prod.mk.inj heq
    obtain ⟨rfl, -⟩ := View.mk.inj ht
    exact h s hs

lemma pure {a : α} {J : Except ε α → σ → Prop} (h : ∀ s, I s → J (.ok a) s) :
    E.Triple P I (Pure.pure a : Program Q δ ε α) J :=
  done h

lemma fail {e : ε} {J : Except ε α → σ → Prop} (h : ∀ s, I s → J (.error e) s) :
    E.Triple P I (Program.fail e : Program Q δ ε α) J :=
  done h

lemma required {e : ε} {x : Option α} {J : Except ε α → σ → Prop}
    (hnone : ∀ s, I s → x = none → J (.error e) s) (hsome : ∀ s a, I s → x = some a → J (.ok a) s) :
    E.Triple P I (Program.required e x : Program Q δ ε α) J := by
  cases x with
  | none => exact done fun s hs => hnone s hs rfl
  | some a => exact done fun s hs => hsome s a hs rfl

lemma ask {wrap : δ → ε} {q : Q α} {J : Except ε α → σ → Prop} (hP : ∀ s, I s → P q s)
    (h : ∀ s b change, I s → E.exec q s = .ok (b, change) → J (.ok b) (change s)) :
    E.Triple P I (Program.ask wrap q) J where
  asks s hs := ⟨hP s hs, fun _ _ _ => trivial⟩
  ends s r t hs heq := by
    rw [run_ask] at heq
    rcases hq : E.exec q s with e | ⟨b, change⟩
    · rw [hq] at heq
      cases heq
    · rw [hq] at heq
      obtain ⟨rfl, ht⟩ := Prod.mk.inj heq
      obtain ⟨rfl, -⟩ := View.mk.inj ht
      exact h s b change hs hq

lemma handle {p : Program Q δ ε α} {k : Except ε α → Program Q δ ε' β} {J : Except ε α → σ → Prop}
    {K : Except ε' β → σ → Prop} (hp : E.Triple P I p J) (hk : ∀ r, E.Triple P (J r) (k r) K) :
    E.Triple P I (p.handle k) K where
  asks s hs := asks_handle.mpr
    ⟨hp.asks s hs, fun r t hrun => (hk r).asks t (hp.ends s r t hs hrun)⟩
  ends s r t hs heq := by
    rw [run_handle] at heq
    rcases hrun : E.run p ⟨s, false⟩ with ⟨r', t', _ | _⟩
    · rw [hrun] at heq
      exact (hk r').ends t' r t (hp.ends s r' t' hs hrun) heq
    · rw [hrun] at heq
      exact (not_run_of_failed heq).elim

lemma bind {p : Program Q δ ε α} {f : α → Program Q δ ε β} {J : Except ε α → σ → Prop}
    {K : Except ε β → σ → Prop} (hp : E.Triple P I p J)
    (hf : ∀ a, E.Triple P (J (.ok a)) (f a) K) (herror : ∀ e s, J (.error e) s → K (.error e) s) :
    E.Triple P I (p >>= f) K := by
  refine hp.handle fun r => ?_
  cases r with
  | ok a => exact hf a
  | error e => exact done (herror e)

lemma mapError {p : Program Q δ ε α} {f : ε → ε'} {J : Except ε' α → σ → Prop}
    (hp : E.Triple P I p fun r s => J (r.mapError f) s) : E.Triple P I (p.mapError f) J := by
  refine hp.handle fun r => ?_
  cases r with
  | ok a => exact done fun _ hs => hs
  | error e => exact done fun _ hs => hs

lemma attempt {p : Program Q δ ε α} {J : Except ε' (Except ε α) → σ → Prop}
    (hp : E.Triple P I p fun r s => J (.ok r) s) :
    E.Triple P I (p.attempt : Program Q δ ε' (Except ε α)) J :=
  hp.handle fun _ => done fun _ hs => hs

lemma ite {c : Prop} [Decidable c] {p q : Program Q δ ε α} {J : Except ε α → σ → Prop}
    (hp : c → E.Triple P I p J) (hq : ¬ c → E.Triple P I q J) :
    E.Triple P I (if c then p else q) J := by
  split_ifs with hc
  · exact hp hc
  · exact hq hc

/-- The rule of consequence. -/
lemma mono {p : Program Q δ ε α} {J J' : Except ε α → σ → Prop} (hp : E.Triple P I p J)
    (hI : ∀ s, I' s → I s) (hJ : ∀ r s, J r s → J' r s) : E.Triple P I' p J' where
  asks s hs := hp.asks s (hI s hs)
  ends s r t hs heq := hJ r t (hp.ends s r t (hI s hs) heq)

/-- As one transaction, the program leaves the store as it was or in what it ends with. -/
lemma atomically {p : Program Q δ ε α} {J : Except ε α → σ → Prop} (hp : E.Triple P I p J) {s : σ}
    (hs : I s) : (E.atomically p s).2 = s ∨ ∃ a, J (.ok a) (E.atomically p s).2 := by
  rcases atomically_cases E p s with hsame | ⟨a, -, hcommit⟩
  · exact .inl hsame
  · exact .inr ⟨a, hp.ends s _ _ hs hcommit⟩

end Triple

/-! ### Another engine -/

/-- What a query answers, and the store that it leaves. -/
def answer (E : Engine Q σ δ) (q : Q β) (s : σ) : Except δ (β × σ) :=
  (E.exec q s).map fun r => (r.1, r.2 s)

/-- Engines that refuse the queries of a failed transaction alike end alike after a failure. -/
lemma run_failed_congr (haborted : E.aborted = E'.aborted) (p : Program Q δ ε α) (s : σ) :
    E.run p ⟨s, true⟩ = E'.run p ⟨s, true⟩ := by
  induction p with
  | done r => rfl
  | query q next ih =>
    simp only [run, if_true, haborted]
    exact ih _

/-- Engines that answer the admitted queries alike run a program that asks no others alike. -/
theorem Asks.run_congr {p : Program Q δ ε α} {s : σ} (h : E.Asks P p s)
    (hagree : ∀ ⦃β : Type⦄ (q : Q β) s, P q s → E.answer q s = E'.answer q s)
    (haborted : E.aborted = E'.aborted) : E.run p ⟨s, false⟩ = E'.run p ⟨s, false⟩ := by
  induction p generalizing s with
  | done r => rfl
  | query q next ih =>
    obtain ⟨hP, hnext⟩ := h
    have hanswer := hagree q s hP
    simp only [answer] at hanswer
    simp only [run, Bool.false_eq_true, if_false]
    rcases hq : E.exec q s with e | ⟨b, change⟩ <;> rcases hq' : E'.exec q s with e' | ⟨b', change'⟩
    · rw [hq, hq'] at hanswer
      obtain rfl := Except.error.inj hanswer
      exact run_failed_congr haborted _ _
    · rw [hq, hq'] at hanswer
      cases hanswer
    · rw [hq, hq'] at hanswer
      cases hanswer
    · rw [hq, hq'] at hanswer
      obtain ⟨rfl, hstore⟩ := Prod.mk.inj (Except.ok.inj hanswer)
      have hstore : change s = change' s := hstore
      show E.run (next (.ok b)) ⟨change s, false⟩ = E'.run (next (.ok b)) ⟨change' s, false⟩
      rw [← hstore]
      exact ih _ (hnext b change hq)

/-- As one transaction, too. -/
theorem Asks.atomically_congr {p : Program Q δ ε α} {s : σ} (h : E.Asks P p s)
    (hagree : ∀ ⦃β : Type⦄ (q : Q β) s, P q s → E.answer q s = E'.answer q s)
    (haborted : E.aborted = E'.aborted) : E.atomically p s = E'.atomically p s := by
  unfold Engine.atomically
  rw [h.run_congr hagree haborted]

end Engine
