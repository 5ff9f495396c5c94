import Mathlib.Tactic

/-!
# Machines and their runs

A machine moves by actions, each of which determines the next state or is not enabled. A run
takes one action after another, every action in a state that admits it. The rules below are
the two inductions that properties of runs rest on: what every step preserves, every run
preserves, and what holds at the start and is preserved holds in every reachable state.
-/

/-- A state machine: its initial states, and where an action leads from a state, if it is
enabled there. -/
structure Machine (σ α : Type*) where
  init : σ → Prop
  step : σ → α → Option σ

namespace Machine

variable {σ α : Type*} {M : Machine σ α} {ok ok' : σ → α → Prop}

/-- `M.Run ok s as s'`: the actions `as` lead from `s` to `s'`, and `ok` admits each of them in
the state in which it is taken. -/
inductive Run (M : Machine σ α) (ok : σ → α → Prop) : σ → List α → σ → Prop
  | nil (s : σ) : Run M ok s [] s
  | cons {s s' s'' : σ} {a : α} {as : List α} (hok : ok s a) (hstep : M.step s a = some s')
      (hrun : Run M ok s' as s'') : Run M ok s (a :: as) s''

/-- The states that runs from the initial states reach. -/
def Reachable (M : Machine σ α) (ok : σ → α → Prop) (s' : σ) : Prop :=
  ∃ s as, M.init s ∧ M.Run ok s as s'

lemma Run.mono (h : ∀ s a, ok s a → ok' s a) {s s' : σ} {as : List α} (hr : M.Run ok s as s') :
    M.Run ok' s as s' := by
  induction hr with
  | nil s => exact .nil s
  | cons hok hstep _ ih => exact .cons (h _ _ hok) hstep ih

/-- What every step preserves may be assumed of the states in which actions are admitted. -/
lemma Run.mono_of {I : σ → Prop} (hstep : ∀ s a s', I s → ok s a → M.step s a = some s' → I s')
    (h : ∀ s a, I s → ok s a → ok' s a) {s s' : σ} {as : List α} (hr : M.Run ok s as s')
    (hs : I s) : M.Run ok' s as s' := by
  induction hr with
  | nil s => exact .nil s
  | cons hok hs' _ ih => exact .cons (h _ _ hs hok) hs' (ih (hstep _ _ _ hs hok hs'))

/-- A run of actions that are all good. -/
lemma Run.of_actions {good : α → Prop} {s s' : σ} {as : List α} (hr : M.Run ok s as s')
    (h : ∀ a ∈ as, good a) : M.Run (fun s a => good a ∧ ok s a) s as s' := by
  induction hr with
  | nil s => exact .nil s
  | cons hok hstep _ ih =>
    exact .cons ⟨h _ (List.mem_cons_self ..), hok⟩ hstep
      (ih fun a ha => h a (List.mem_cons_of_mem _ ha))

lemma Run.append {s s' s'' : σ} {as as' : List α} (hr : M.Run ok s as s')
    (hr' : M.Run ok s' as' s'') : M.Run ok s (as ++ as') s'' := by
  induction hr with
  | nil s => exact hr'
  | cons hok hstep _ ih => exact .cons hok hstep (ih hr')

lemma Run.split {s s'' : σ} {as as' : List α} (hr : M.Run ok s (as ++ as') s'') :
    ∃ s', M.Run ok s as s' ∧ M.Run ok s' as' s'' := by
  induction as generalizing s with
  | nil => exact ⟨s, .nil s, hr⟩
  | cons a as ih =>
    cases hr with
    | cons hok hstep hrun =>
      obtain ⟨s', h₁, h₂⟩ := ih hrun
      exact ⟨s', .cons hok hstep h₁, h₂⟩

/-- A run is one of those that admit each of its actions in the state in which it is taken. -/
lemma Run.of_splits {s s' : σ} {as : List α} (hr : M.Run ok s as s')
    (h : ∀ as₁ a as₂ t, as = as₁ ++ a :: as₂ → M.Run ok s as₁ t → ok' t a) :
    M.Run ok' s as s' := by
  induction hr with
  | nil s => exact .nil s
  | @cons s t s' a as hok hstep _ ih =>
    refine .cons (h [] a as s rfl (.nil s)) hstep (ih ?_)
    rintro as₁ b as₂ u rfl hrun
    exact h (a :: as₁) b as₂ u rfl (.cons hok hstep hrun)

/-- The actions determine the state that a run ends in. -/
lemma Run.unique {s t t' : σ} {as : List α} (h : M.Run ok s as t) (h' : M.Run ok' s as t') :
    t = t' := by
  induction h with
  | nil s =>
    cases h' with
    | nil => rfl
  | cons _ hstep _ ih =>
    cases h' with
    | cons _ hstep' hrun' =>
      obtain rfl := Option.some.inj (hstep.symm.trans hstep')
      exact ih hrun'

/-- A run whose first action is known. -/
lemma Run.of_cons {s s'' : σ} {a : α} {as : List α} (h : M.Run ok s (a :: as) s'') :
    ∃ s', M.step s a = some s' ∧ M.Run ok s' as s'' := by
  cases h with
  | cons _ hstep hrun => exact ⟨_, hstep, hrun⟩

/-- What every admitted step preserves, every run preserves. -/
lemma Run.preserves {I : σ → Prop}
    (hstep : ∀ s a s', I s → ok s a → M.step s a = some s' → I s')
    {s s' : σ} {as : List α} (hr : M.Run ok s as s') (h : I s) : I s' := by
  induction hr with
  | nil s => exact h
  | cons hok hs _ ih => exact ih (hstep _ _ _ h hok hs)

/-- What every admitted step preserves of the state together with the actions that led to it. -/
lemma Run.history {I : List α → σ → Prop} {s s' : σ} {as : List α} (hr : M.Run ok s as s')
    (hinit : I [] s)
    (hstep : ∀ as t a t', M.Run ok s as t → I as t → ok t a → M.step t a = some t' →
      I (as ++ [a]) t') : I as s' := by
  have hfrom : ∀ as₁ t, M.Run ok s as₁ t → I as₁ t → ∀ as₂, M.Run ok t as₂ s' →
      I (as₁ ++ as₂) s' := by
    intro as₁ t hrun hI as₂ hrest
    induction hrest generalizing as₁ with
    | nil t =>
      rw [List.append_nil]
      exact hI
    | @cons t t' s' a as hok hstep' _ ih =>
      have hnext := ih hr (as₁ ++ [a]) (hrun.append (.cons hok hstep' (.nil t')))
        (hstep as₁ t a t' hrun hI hok hstep')
      simpa using hnext
  simpa using hfrom [] s (.nil s) hinit as hr

/-- What holds initially and every admitted step preserves holds in every reachable state. -/
theorem Reachable.invariant {I : σ → Prop} (hinit : ∀ s, M.init s → I s)
    (hstep : ∀ s a s', I s → ok s a → M.step s a = some s' → I s') {s : σ}
    (h : M.Reachable ok s) : I s := by
  obtain ⟨s₀, as, h₀, hr⟩ := h
  exact hr.preserves hstep (hinit s₀ h₀)

lemma Reachable.run {s s' : σ} {as : List α} (h : M.Reachable ok s) (hr : M.Run ok s as s') :
    M.Reachable ok s' := by
  obtain ⟨s₀, bs, h₀, hr₀⟩ := h
  exact ⟨s₀, bs ++ as, h₀, hr₀.append hr⟩

lemma Reachable.mono (h : ∀ s a, ok s a → ok' s a) {s : σ} (hs : M.Reachable ok s) :
    M.Reachable ok' s := by
  obtain ⟨s₀, as, h₀, hr⟩ := hs
  exact ⟨s₀, as, h₀, hr.mono h⟩

/-! ### Executing a list of actions -/

section

variable [∀ s a, Decidable (ok s a)]

/-- Take the actions one after another, as long as each is admitted and enabled. -/
def exec (M : Machine σ α) (ok : σ → α → Prop) [∀ s a, Decidable (ok s a)] :
    σ → List α → Option σ
  | s, [] => some s
  | s, a :: as => if ok s a then (M.step s a).bind fun s' => M.exec ok s' as else none

lemma run_of_exec {s s' : σ} {as : List α} (he : M.exec ok s as = some s') : M.Run ok s as s' := by
  induction as generalizing s with
  | nil =>
    obtain rfl := Option.some.inj he
    exact .nil s
  | cons a as ih =>
    rw [exec] at he
    split_ifs at he with hok
    obtain ⟨t, ht, he⟩ := Option.bind_eq_some_iff.mp he
    exact .cons hok ht (ih he)

/-- A test that the executed actions pass, every run along them passes. -/
lemma Run.of_exec {s t : σ} {as : List α} {p : σ → Bool} (hr : M.Run ok s as t)
    (h : (M.exec ok s as).all p = true) : p t = true := by
  induction hr with
  | nil s => exact h
  | cons hok hstep _ ih =>
    rw [exec, if_pos hok, hstep] at h
    exact ih h

/-- A run whose final state passes a test. -/
lemma exists_run_of_exec {s : σ} {as : List α} {p : σ → Bool}
    (h : (M.exec ok s as).any p = true) : ∃ s', M.Run ok s as s' ∧ p s' = true := by
  cases he : M.exec ok s as with
  | none =>
    rw [he] at h
    cases h
  | some s' =>
    rw [he] at h
    exact ⟨s', run_of_exec he, h⟩

end

end Machine
