import Confluence.Library.Machine
import Confluence.Library.Program
import Mathlib.Logic.Function.Basic

/-!
# Interleaved transactions

Transactions run query by query at the isolation level READ COMMITTED: a query sees what is
committed when it is answered, together with the changes of its own transaction, and waits for the
row locks that it needs. A commit makes the changes of its transaction visible at once.

Transactions that all begin with the lock of one row are serial: each commit is the whole
transaction, run alone on what is committed at that moment.
-/

/-- What sessions may run: `tx i` is the transaction of the request `i`, and `locks q s` are the row
locks that the query `q` takes in a store that looks like `s`. -/
structure Workload (Q : Type → Type) (σ δ L ι ε α : Type) where
  engine : Engine Q σ δ
  locks {β : Type} : Q β → σ → List L
  tx : ι → Program Q δ ε α

/-- A transaction under way: what remains of it, the changes it has made, whether a query has
failed, and the queries that have been answered, the latest first. -/
structure Session (Q : Type → Type) (σ δ ι ε α : Type) where
  request : ι
  rest : Program Q δ ε α
  change : σ → σ
  failed : Bool
  asked : List (Σ β : Type, Q β)

/-- What is committed, the sessions by their numbers, and who holds which lock. -/
structure Interleaving (Q : Type → Type) (σ δ L ι ε α : Type) where
  store : σ
  sessions : ℕ → Option (Session Q σ δ ι ε α)
  locked : List (L × ℕ)

/-- A session ends by its commit or is rolled back, after an error or at any other moment. -/
inductive SessionAction (ι : Type)
  | start (n : ℕ) (request : ι)
  | query (n : ℕ)
  | commit (n : ℕ)
  | rollback (n : ℕ)

variable {Q : Type → Type} {σ δ L ι ε α : Type}

/-- What the session sees of the store. -/
def Session.view (x : Session Q σ δ ι ε α) (s : σ) : View σ := ⟨x.change s, x.failed⟩

namespace Interleaving

variable (s : Interleaving Q σ δ L ι ε α)

def put (n : ℕ) (x : Session Q σ δ ι ε α) : Interleaving Q σ δ L ι ε α :=
  { s with sessions := Function.update s.sessions n (some x) }

/-- The session is over and its locks are free. -/
def drop (n : ℕ) : Interleaving Q σ δ L ι ε α :=
  { s with
    sessions := Function.update s.sessions n none
    locked := s.locked.filter fun p => p.2 ≠ n }

/-- The commit of a session that has ended with a value; nothing is kept when it has failed. -/
def commit (n : ℕ) (x : Session Q σ δ ι ε α) : Option (Interleaving Q σ δ L ι ε α) :=
  match x.rest with
  | .done (.ok _) => some { s.drop n with store := if x.failed then s.store else x.change s.store }
  | _ => none

@[simp] lemma drop_sessions (n : ℕ) :
    (s.drop n).sessions = Function.update s.sessions n none :=
  rfl

/-- No other session holds one of the locks. -/
def Free [DecidableEq L] (n : ℕ) (wanted : List L) : Prop :=
  ∀ p ∈ s.locked, p.1 ∈ wanted → p.2 = n

instance [DecidableEq L] (n : ℕ) (wanted : List L) : Decidable (s.Free n wanted) :=
  inferInstanceAs (Decidable (∀ p ∈ s.locked, _))

end Interleaving

namespace Workload

variable (W : Workload Q σ δ L ι ε α)

def begin (i : ι) : Session Q σ δ ι ε α :=
  { request := i, rest := W.tx i, change := id, failed := false, asked := [] }

/-- The session after the answer to its query. -/
def answer {β : Type} (x : Session Q σ δ ι ε α) (q : Q β)
    (next : Except δ β → Program Q δ ε α) (s : σ) : Session Q σ δ ι ε α :=
  match W.engine.exec q (x.change s) with
  | .ok (b, change) =>
    { x with rest := next (.ok b), change := change ∘ x.change, asked := ⟨β, q⟩ :: x.asked }
  | .error e => { x with rest := next (.error e), failed := true, asked := ⟨β, q⟩ :: x.asked }

variable [DecidableEq L]

/-- The next query of the session is answered, unless it has to wait for a lock. A failed
transaction is answered with an error and needs none. -/
def query (s : Interleaving Q σ δ L ι ε α) (n : ℕ) (x : Session Q σ δ ι ε α) :
    Option (Interleaving Q σ δ L ι ε α) :=
  match x.rest with
  | .done _ => none
  | .query q next =>
    if x.failed then some (s.put n { x with rest := next (.error W.engine.aborted) })
    else
      let wanted := W.locks q (x.change s.store)
      if s.Free n wanted then
        some { s.put n (W.answer x q next s.store) with
          locked := wanted.map (·, n) ++ s.locked }
      else none

def step (s : Interleaving Q σ δ L ι ε α) :
    SessionAction ι → Option (Interleaving Q σ δ L ι ε α)
  | .start n i => if (s.sessions n).isSome then none else some (s.put n (W.begin i))
  | .query n => (s.sessions n).bind (W.query s n)
  | .commit n => (s.sessions n).bind (s.commit n)
  | .rollback n => if (s.sessions n).isSome then some (s.drop n) else none

/-- No session is under way. -/
def Quiet (s : Interleaving Q σ δ L ι ε α) : Prop := (∀ n, s.sessions n = none) ∧ s.locked = []

def machine : Machine (Interleaving Q σ δ L ι ε α) (SessionAction ι) where
  init := Quiet
  step := W.step

end Workload

/-! ### What one step does -/

section

variable {W : Workload Q σ δ L ι ε α} [DecidableEq L] {s s' : Interleaving Q σ δ L ι ε α} {n : ℕ}

/-- An answered query: the session that asked, with what it sees next. -/
lemma Workload.of_step_query (h : W.step s (.query n) = some s') :
    ∃ x y wanted, s.sessions n = some x ∧ s.Free n wanted ∧
      s' = { s.put n y with locked := wanted.map (·, n) ++ s.locked } ∧
      y.request = x.request ∧
      ∃ (β : Type) (q : Q β) (next : Except δ β → Program Q δ ε α), x.rest = .query q next ∧
        ((x.failed = true ∧ wanted = [] ∧
            y = { x with rest := next (.error W.engine.aborted) }) ∨
          (x.failed = false ∧ wanted = W.locks q (x.change s.store) ∧
            y = W.answer x q next s.store)) := by
  obtain ⟨x, hx, hquery⟩ := Option.bind_eq_some_iff.mp h
  unfold Workload.query at hquery
  cases hrest : x.rest with
  | done r =>
    rw [hrest] at hquery
    cases hquery
  | @query β q next =>
    simp only [hrest] at hquery
    split_ifs at hquery with hfailed hfree
    · obtain rfl := Option.some.inj hquery
      have hnone : s.Free n [] := fun p _ hp => by cases hp
      exact ⟨x, _, [], hx, hnone, rfl, rfl, β, q, next, hrest, .inl ⟨hfailed, rfl, rfl⟩⟩
    · obtain rfl := Option.some.inj hquery
      refine ⟨x, _, _, hx, hfree, rfl, ?_, β, q, next, hrest,
        .inr ⟨by simpa using hfailed, rfl, rfl⟩⟩
      unfold Workload.answer
      split <;> rfl

lemma Workload.of_step_commit (h : W.step s (.commit n) = some s') :
    ∃ x a, s.sessions n = some x ∧ x.rest = .done (.ok a) ∧
      s' = { s.drop n with store := if x.failed then s.store else x.change s.store } := by
  obtain ⟨x, hx, hcommit⟩ := Option.bind_eq_some_iff.mp h
  unfold Interleaving.commit at hcommit
  split at hcommit
  · rename_i a hrest
    exact ⟨x, a, hx, hrest, (Option.some.inj hcommit).symm⟩
  · cases hcommit

lemma Workload.reachable_of_step {ok : Interleaving Q σ δ L ι ε α → SessionAction ι → Prop}
    {a : SessionAction ι} (hs : W.machine.Reachable ok s) (hok : ok s a)
    (h : W.step s a = some s') : W.machine.Reachable ok s' := by
  have hrun : W.machine.Run ok s [a] s' := .cons hok h (.nil s')
  exact hs.run hrun

omit [DecidableEq L] in
/-- The sessions that are left when one is over. -/
lemma Interleaving.of_drop_sessions {m : ℕ} {x : Session Q σ δ ι ε α}
    (h : (s.drop n).sessions m = some x) : m ≠ n ∧ s.sessions m = some x := by
  rw [Interleaving.drop_sessions] at h
  by_cases hm : m = n
  · rw [hm, Function.update_self] at h
    cases h
  · rw [Function.update_of_ne hm] at h
    exact ⟨hm, h⟩

omit [DecidableEq L] in
lemma Interleaving.of_put_sessions {m : ℕ} {x y : Session Q σ δ ι ε α}
    (h : (s.put n y).sessions m = some x) : (m = n ∧ x = y) ∨ (m ≠ n ∧ s.sessions m = some x) := by
  rw [Interleaving.put] at h
  by_cases hm : m = n
  · subst hm
    simp only [Function.update_self] at h
    exact .inl ⟨rfl, (Option.some.inj h).symm⟩
  · simp only [Function.update_of_ne hm] at h
    exact .inr ⟨hm, h⟩

omit [DecidableEq L] in
lemma Workload.answer_ok {x : Session Q σ δ ι ε α} {β : Type} {q : Q β} {b : β} {change : σ → σ}
    {next : Except δ β → Program Q δ ε α} {store : σ}
    (h : W.engine.exec q (x.change store) = .ok (b, change)) :
    W.answer x q next store =
      { x with rest := next (.ok b), change := change ∘ x.change, asked := ⟨β, q⟩ :: x.asked } := by
  unfold Workload.answer
  rw [h]

omit [DecidableEq L] in
lemma Workload.answer_error {x : Session Q σ δ ι ε α} {β : Type} {q : Q β} {e : δ}
    {next : Except δ β → Program Q δ ε α} {store : σ}
    (h : W.engine.exec q (x.change store) = .error e) :
    W.answer x q next store =
      { x with rest := next (.error e), failed := true, asked := ⟨β, q⟩ :: x.asked } := by
  unfold Workload.answer
  rw [h]

/-- Only a commit changes the store. -/
lemma Workload.store_of_step {a : SessionAction ι} (h : W.step s a = some s')
    (ha : ∀ n, a ≠ .commit n) : s'.store = s.store := by
  cases a with
  | start n i =>
    simp only [Workload.step] at h
    split_ifs at h
    obtain rfl := Option.some.inj h
    rfl
  | query n =>
    obtain ⟨x, y, wanted, -, -, rfl, -⟩ := Workload.of_step_query h
    rfl
  | commit n => exact (ha n rfl).elim
  | rollback n =>
    simp only [Workload.step] at h
    split_ifs at h
    obtain rfl := Option.some.inj h
    rfl

/-! ### What a run has committed -/

/-- The request that the action commits. A transaction that has failed commits nothing. -/
def Interleaving.commits (s : Interleaving Q σ δ L ι ε α) : SessionAction ι → List ι
  | .commit n =>
    match s.sessions n with
    | some x => if x.failed then [] else [x.request]
    | none => []
  | _ => []

/-- The requests that the actions commit, one after another from `s`. -/
def Workload.committed (W : Workload Q σ δ L ι ε α) :
    Interleaving Q σ δ L ι ε α → List (SessionAction ι) → List ι
  | _, [] => []
  | s, a :: as =>
    s.commits a ++
      match W.step s a with
      | some s' => W.committed s' as
      | none => []

/-- Where each commit adds its gain to a measure of the store, a run adds the gains of all that it
commits. -/
theorem Workload.sum_committed {M : Type*} [AddCommMonoid M] (value : σ → M) (gain : ι → M)
    {ok : Interleaving Q σ δ L ι ε α → SessionAction ι → Prop}
    {I : Interleaving Q σ δ L ι ε α → Prop}
    (hstep : ∀ s a s', I s → ok s a → W.step s a = some s' → I s')
    (hcommit : ∀ s n x s', I s → W.step s (.commit n) = some s' → s.sessions n = some x →
      x.failed = false → value s'.store = value s.store + gain x.request)
    {as : List (SessionAction ι)} (hrun : W.machine.Run ok s as s') (h : I s) :
    value s'.store = value s.store + ((W.committed s as).map gain).sum := by
  induction hrun with
  | nil s => simp only [Workload.committed, List.map_nil, List.sum_nil, add_zero]
  | @cons s t s' a as hok ht hrun ih =>
    have ht : W.step s a = some t := ht
    have hfirst : value t.store = value s.store + ((s.commits a).map gain).sum := by
      cases a with
      | commit n =>
        obtain ⟨x, b, hx, hrest, hstore⟩ := Workload.of_step_commit ht
        cases hfailed : x.failed with
        | true => simp [hstore, Interleaving.commits, hx, hfailed]
        | false =>
          rw [hcommit s n x t h ht hx hfailed]
          simp [Interleaving.commits, hx, hfailed]
      | start | query | rollback =>
        rw [Workload.store_of_step ht (fun n hn => by cases hn)]
        simp only [Interleaving.commits, List.map_nil, List.sum_nil, add_zero]
    rw [ih (hstep s a t h hok ht), hfirst, Workload.committed, ht, List.map_append,
      List.sum_append, add_assoc]

/-- The answer that the action commits, with the request that it answers. -/
def Interleaving.outcome (s : Interleaving Q σ δ L ι ε α) : SessionAction ι → List (ι × α)
  | .commit n =>
    match s.sessions n with
    | some x =>
      match x.rest with
      | .done (.ok a) => [(x.request, a)]
      | _ => []
    | none => []
  | _ => []

/-- The requests that the actions commit with their answers, one after another from `s`. -/
def Workload.outcomes (W : Workload Q σ δ L ι ε α) :
    Interleaving Q σ δ L ι ε α → List (SessionAction ι) → List (ι × α)
  | _, [] => []
  | s, a :: as =>
    s.outcome a ++
      match W.step s a with
      | some s' => W.outcomes s' as
      | none => []

/-- The transactions without interleaving: a step is one of them, run alone, with its answer. -/
def Workload.alone [DecidableEq α] (W : Workload Q σ δ L ι ε α) : Machine σ (ι × α) where
  init _ := True
  step s o :=
    match W.engine.atomically (W.tx o.1) s with
    | (.ok a, s') => if a = o.2 then some s' else none
    | (.error _, _) => none

omit [DecidableEq L] in
@[simp] lemma Workload.alone_step [DecidableEq α] {i : ι} {a : α} {t t' : σ} :
    W.alone.step t (i, a) = some t' ↔ W.engine.atomically (W.tx i) t = (.ok a, t') := by
  rcases halone : W.engine.atomically (W.tx i) t with ⟨e | b, u⟩
  · simp [Workload.alone, halone]
  · by_cases hb : b = a <;> simp [Workload.alone, halone, hb]

/-! ### Transactions that check what they have read

A session reads without a lock and may see others commit. When it takes the lock `k`, what it has
read is what it would read now, or it ends with an error. -/

/-- The session is a run of the beginning of its transaction on what is committed now. -/
def Session.Current (W : Workload Q σ δ L ι ε α) (x : Session Q σ δ ι ε α) (s : σ) : Prop :=
  W.engine.run (W.tx x.request) ⟨s, false⟩ = W.engine.run x.rest (x.view s)

/-- `Reads x s` is what a session without the lock knows of the store, whatever commits, and `I` is
what commits keep of the store. -/
structure Workload.Optimistic (W : Workload Q σ δ L ι ε α) (k : L) (I : σ → Prop)
    (Reads : Session Q σ δ ι ε α → σ → Prop) : Prop where
  begins : ∀ i s, I s → Reads (W.begin i) s
  pending : ∀ x s, Reads x s → x.failed = false ∧ ∀ a, x.rest ≠ .done (.ok a)
  asks : ∀ x s {β : Type} (q : Q β) (next : Except δ β → Program Q δ ε α), I s → Reads x s →
    x.rest = .query q next → (k ∈ W.locks q (x.change s) ∧ x.Current W s) ∨
      Reads (W.answer x q next s) s ∨ ∃ e, (W.answer x q next s).rest = .done (.error e)
  keeps : ∀ i s a s', I s → W.engine.atomically (W.tx i) s = (.ok a, s') → I s'
  survives : ∀ i s a s', I s → W.engine.atomically (W.tx i) s = (.ok a, s') →
    ∀ x, Reads x s → Reads x s'

/-- The session has no lock yet, holds it for a run on what is committed, or has ended with an
error. -/
inductive Session.InOrder (W : Workload Q σ δ L ι ε α) (k : L)
    (Reads : Session Q σ δ ι ε α → σ → Prop) (s : Interleaving Q σ δ L ι ε α) (n : ℕ)
    (x : Session Q σ δ ι ε α) : Prop
  | reads (h : Reads x s.store)
  | holds (hlock : (k, n) ∈ s.locked) (h : x.Current W s.store)
  | ended (e : ε) (h : x.rest = .done (.error e))

/-- Every session is in order, and the lock has one holder. -/
structure Workload.InOrder (W : Workload Q σ δ L ι ε α) (k : L) (I : σ → Prop)
    (Reads : Session Q σ δ ι ε α → σ → Prop) (s : Interleaving Q σ δ L ι ε α) : Prop where
  store : I s.store
  session : ∀ n x, s.sessions n = some x → x.InOrder W k Reads s n
  holder : ∀ n m, (k, n) ∈ s.locked → (k, m) ∈ s.locked → n = m

omit [DecidableEq L] in
/-- One query is one step of the run. -/
lemma Session.Current.answer {x : Session Q σ δ ι ε α} {β : Type} {q : Q β}
    {next : Except δ β → Program Q δ ε α} {store : σ} (h : x.Current W store)
    (hrest : x.rest = .query q next) (hfailed : x.failed = false) :
    (W.answer x q next store).Current W store := by
  unfold Session.Current Session.view at *
  rw [hrest, hfailed] at h
  simp only [Engine.run, Bool.false_eq_true, if_false] at h
  unfold Workload.answer
  cases hexec : W.engine.exec q (x.change store) with
  | ok r =>
    rw [hexec] at h
    simpa only [hfailed, Function.comp_apply] using h
  | error e =>
    rw [hexec] at h
    exact h

omit [DecidableEq L] in
lemma Session.Current.aborted {x : Session Q σ δ ι ε α} {β : Type} {q : Q β}
    {next : Except δ β → Program Q δ ε α} {store : σ} (h : x.Current W store)
    (hrest : x.rest = .query q next) (hfailed : x.failed = true) :
    ({ x with rest := next (.error W.engine.aborted) } : Session Q σ δ ι ε α).Current W store := by
  unfold Session.Current Session.view at *
  rw [hrest, hfailed] at h
  simp only [Engine.run, if_true] at h
  simpa only [hfailed] using h

omit [DecidableEq L] in
lemma Session.Current.begin (W : Workload Q σ δ L ι ε α) (i : ι) (store : σ) :
    (W.begin i).Current W store := rfl

variable {k : L} {I : σ → Prop} {Reads : Session Q σ δ ι ε α → σ → Prop}

omit [DecidableEq L] in
/-- The other sessions do not see the step. -/
lemma Session.InOrder.of_locked {m : ℕ} {x : Session Q σ δ ι ε α} (h : x.InOrder W k Reads s m)
    (hstore : s'.store = s.store) (hlocked : (k, m) ∈ s.locked → (k, m) ∈ s'.locked) :
    x.InOrder W k Reads s' m := by
  cases h with
  | reads h => exact .reads (hstore ▸ h)
  | holds hlock h => exact .holds (hlocked hlock) (hstore ▸ h)
  | ended e h => exact .ended e h

omit [DecidableEq L] in
lemma Interleaving.mem_drop_locked {p : L × ℕ} :
    p ∈ (s.drop n).locked ↔ p ∈ s.locked ∧ p.2 ≠ n := by
  simp [Interleaving.drop]

namespace Workload.InOrder

variable (hW : W.Optimistic k I Reads)

section

include hW

lemma start (h : W.InOrder k I Reads s) {i : ι} (hstep : W.step s (.start n i) = some s') :
    W.InOrder k I Reads s' := by
  simp only [Workload.step] at hstep
  split_ifs at hstep with hnone
  obtain rfl := Option.some.inj hstep
  refine ⟨h.store, fun m x hx => ?_, h.holder⟩
  obtain ⟨rfl, rfl⟩ | ⟨-, hx⟩ := Interleaving.of_put_sessions hx
  · exact .reads (hW.begins i s.store h.store)
  · exact (h.session m x hx).of_locked rfl id

/-- A session that asks goes on with its run, with the lock if it needs it. -/
lemma query (h : W.InOrder k I Reads s) (hstep : W.step s (.query n) = some s') :
    W.InOrder k I Reads s' := by
  obtain ⟨x, y, wanted, hx, hfree, rfl, hrequest, β, q, next, hrest, hy⟩ :=
    Workload.of_step_query hstep
  have hkeep : ∀ p ∈ s.locked, p ∈ wanted.map (·, n) ++ s.locked :=
    fun p hp => List.mem_append_right _ hp
  -- a lock that the query takes, no one else holds
  have howner : k ∈ wanted → ∀ m, (k, m) ∈ s.locked → m = n := fun hk m hm => hfree (k, m) hm hk
  have hlocked (m : ℕ) (hm : (k, m) ∈ wanted.map (·, n) ++ s.locked) :
      (k ∈ wanted ∧ m = n) ∨ (k, m) ∈ s.locked := by
    rcases List.mem_append.mp hm with hm | hm
    · obtain ⟨l, hl, heq⟩ := List.mem_map.mp hm
      cases heq
      exact .inl ⟨hl, rfl⟩
    · exact .inr hm
  refine ⟨h.store, fun m z hz => ?_, fun m m' hm hm' => ?_⟩
  · obtain ⟨rfl, rfl⟩ | ⟨-, hz'⟩ := Interleaving.of_put_sessions hz
    · cases h.session m x hx with
      | ended e hended => cases hrest.symm.trans hended
      | holds hlock hcurrent =>
        refine .holds (hkeep _ hlock) ?_
        rcases hy with ⟨hfailed, -, rfl⟩ | ⟨hfailed, -, rfl⟩
        · exact hcurrent.aborted hrest hfailed
        · exact hcurrent.answer hrest hfailed
      | reads hreads =>
        rcases hy with ⟨hfailed, -, -⟩ | ⟨hfailed, rfl, rfl⟩
        · rw [(hW.pending x s.store hreads).1] at hfailed
          cases hfailed
        · rcases hW.asks x s.store q next h.store hreads hrest with
            ⟨hk, hcurrent⟩ | hreads' | ⟨e, hended⟩
          · refine .holds (List.mem_append_left _ ?_) (hcurrent.answer hrest hfailed)
            exact List.mem_map.mpr ⟨k, hk, rfl⟩
          · exact .reads hreads'
          · exact .ended e hended
    · exact (h.session m z hz').of_locked rfl (hkeep _)
  · rcases hlocked m hm with ⟨hk, heq⟩ | hold
    · rcases hlocked m' hm' with ⟨-, heq'⟩ | hold'
      · rw [heq, heq']
      · rw [heq, howner hk m' hold']
    · rcases hlocked m' hm' with ⟨hk, heq'⟩ | hold'
      · rw [heq', howner hk m hold]
      · exact h.holder m m' hold hold'

/-- The holder of the lock commits its whole transaction, run alone on what is committed. -/
theorem atomically_of_commit (h : W.InOrder k I Reads s)
    (hstep : W.step s (.commit n) = some s') :
    (k, n) ∈ s.locked ∧ ∃ x a, s.sessions n = some x ∧ x.rest = .done (.ok a) ∧
      W.engine.atomically (W.tx x.request) s.store = (.ok a, s'.store) := by
  obtain ⟨x, a, hx, hrest, rfl⟩ := Workload.of_step_commit hstep
  cases h.session n x hx with
  | reads hreads => exact ((hW.pending x s.store hreads).2 a hrest).elim
  | ended e hended => cases hrest.symm.trans hended
  | holds hlock hcurrent =>
    refine ⟨hlock, x, a, hx, hrest, ?_⟩
    unfold Session.Current at hcurrent
    rw [hrest, Engine.run_done] at hcurrent
    unfold Engine.atomically
    rw [hcurrent]
    rfl

end

omit [DecidableEq L] in
lemma drop (h : W.InOrder k I Reads s) (n : ℕ) : W.InOrder k I Reads (s.drop n) := by
  refine ⟨h.store, fun m x hx => ?_, fun m m' hm hm' => ?_⟩
  · obtain ⟨hm, hx⟩ := Interleaving.of_drop_sessions hx
    exact (h.session m x hx).of_locked rfl fun hlock =>
      Interleaving.mem_drop_locked.mpr ⟨hlock, hm⟩
  · exact h.holder m m' (Interleaving.mem_drop_locked.mp hm).1
      (Interleaving.mem_drop_locked.mp hm').1

include hW

/-- While the holder commits, no other session has the lock. -/
lemma commit (h : W.InOrder k I Reads s) (hstep : W.step s (.commit n) = some s') :
    W.InOrder k I Reads s' := by
  obtain ⟨hlock, y, b, -, -, halone⟩ := h.atomically_of_commit hW hstep
  obtain ⟨x, a, hx, hrest, rfl⟩ := Workload.of_step_commit hstep
  have hdrop := h.drop n
  refine ⟨hW.keeps _ _ _ _ h.store halone, fun m z hz => ?_, hdrop.holder⟩
  cases hdrop.session m z hz with
  | reads hreads => exact .reads (hW.survives _ _ _ _ h.store halone z hreads)
  | ended e hended => exact .ended e hended
  | holds hlock' _ =>
    obtain ⟨hmem, hne⟩ := Interleaving.mem_drop_locked.mp hlock'
    exact (hne (h.holder m n hmem hlock)).elim

lemma step (h : W.InOrder k I Reads s) {a : SessionAction ι} (hstep : W.step s a = some s') :
    W.InOrder k I Reads s' := by
  cases a with
  | start n i => exact h.start hW hstep
  | query n => exact h.query hW hstep
  | commit n => exact h.commit hW hstep
  | rollback n =>
    simp only [Workload.step] at hstep
    split_ifs at hstep
    obtain rfl := Option.some.inj hstep
    exact h.drop n

/-- What a run commits, the same transactions do one after another, each run alone. -/
theorem run_alone [DecidableEq α] (h : W.InOrder k I Reads s)
    {ok : Interleaving Q σ δ L ι ε α → SessionAction ι → Prop} {as : List (SessionAction ι)}
    (hrun : W.machine.Run ok s as s') :
    W.alone.Run (fun _ _ => True) s.store (W.outcomes s as) s'.store := by
  induction hrun with
  | nil s => exact .nil s.store
  | @cons s t s' a as hok ht hrun ih =>
    have ht : W.step s a = some t := ht
    have hrest := ih (h.step hW ht)
    simp only [Workload.outcomes, ht]
    cases a with
    | commit n =>
      obtain ⟨-, x, b, hx, hdone, halone⟩ := h.atomically_of_commit hW ht
      simp only [Interleaving.outcome, hx, hdone, List.cons_append, List.nil_append]
      exact .cons trivial (Workload.alone_step.mpr halone) hrest
    | start | query | rollback =>
      rw [Workload.store_of_step ht (fun n hn => by cases hn)] at hrest
      exact hrest

end Workload.InOrder

omit [DecidableEq L] in
lemma Workload.inOrder_of_quiet (W : Workload Q σ δ L ι ε α) (k : L)
    (Reads : Session Q σ δ ι ε α → σ → Prop) (h : Workload.Quiet s) (hI : I s.store) :
    W.InOrder k I Reads s where
  store := hI
  session n x hx := by rw [h.1 n] at hx; cases hx
  holder n m hn := by rw [h.2] at hn; cases hn

/-! ### Transactions that begin with one lock -/

/-- Every transaction begins with a query that takes the lock `k` or ends the transaction with an
error. -/
def Workload.Guarded (W : Workload Q σ δ L ι ε α) (k : L) : Prop :=
  ∀ i, ∃ (β : Type) (q : Q β) (next : Except δ β → Program Q δ ε α), W.tx i = .query q next ∧
    ∀ s, k ∈ W.locks q s ∨ ∃ e, (W.answer (W.begin i) q next s).rest = .done (.error e)

/-- The session has not begun, holds the lock since it began, or has ended with an error. -/
inductive Session.Serial (W : Workload Q σ δ L ι ε α) (k : L) (s : Interleaving Q σ δ L ι ε α)
    (n : ℕ) (x : Session Q σ δ ι ε α) : Prop
  | fresh (h : x = W.begin x.request)
  | holds (hlock : (k, n) ∈ s.locked) (h : x.Current W s.store)
  | ended (e : ε) (h : x.rest = .done (.error e))

/-- Every session is serial, and the lock has one holder. -/
structure Workload.Serial (W : Workload Q σ δ L ι ε α) (k : L)
    (s : Interleaving Q σ δ L ι ε α) : Prop where
  session : ∀ n x, s.sessions n = some x → x.Serial W k s n
  holder : ∀ n m, (k, n) ∈ s.locked → (k, m) ∈ s.locked → n = m
  live : ∀ p ∈ s.locked, (s.sessions p.2).isSome

/-- A guarded transaction that has no lock has read nothing. -/
def Session.Fresh (W : Workload Q σ δ L ι ε α) (x : Session Q σ δ ι ε α) (_ : σ) : Prop :=
  x = W.begin x.request

omit [DecidableEq L] in
lemma Workload.Guarded.optimistic (h : W.Guarded k) :
    W.Optimistic k (fun _ => True) (Session.Fresh W) where
  begins _ _ _ := rfl
  pending x _ hx := by
    obtain ⟨β, q, next, htx, -⟩ := h x.request
    have hfresh : x = W.begin x.request := hx
    have hrest : x.rest = .query q next := by
      rw [hfresh]
      exact htx
    refine ⟨by rw [hfresh]; rfl, fun a hdone => ?_⟩
    cases hrest.symm.trans hdone
  asks x s β q next _ hx hrest := by
    obtain ⟨β', q', next', htx, hguard⟩ := h x.request
    have hfresh : x = W.begin x.request := hx
    have hbegin : (Program.query q next : Program Q δ ε α) = .query q' next' := by
      rw [← htx, ← hrest, hfresh]
      rfl
    cases hbegin
    have hchange : x.change s = s := by
      rw [hfresh]
      rfl
    rcases hguard s with hk | ⟨e, hended⟩
    · refine .inl ⟨hchange.symm ▸ hk, ?_⟩
      rw [hfresh]
      exact .begin W _ s
    · rw [← hfresh] at hended
      exact .inr (.inr ⟨e, hended⟩)
  keeps _ _ _ _ _ _ := trivial
  survives _ _ _ _ _ _ _ hx := hx

omit [DecidableEq L] in
lemma Workload.serial_iff : W.Serial k s ↔
    W.InOrder k (fun _ => True) (Session.Fresh W) s ∧ ∀ p ∈ s.locked, (s.sessions p.2).isSome := by
  constructor
  · intro h
    refine ⟨⟨trivial, fun n x hx => ?_, h.holder⟩, h.live⟩
    cases h.session n x hx with
    | fresh hfresh => exact .reads hfresh
    | holds hlock hcurrent => exact .holds hlock hcurrent
    | ended e hended => exact .ended e hended
  · rintro ⟨h, hlive⟩
    refine ⟨fun n x hx => ?_, h.holder, hlive⟩
    cases h.session n x hx with
    | reads hreads => exact .fresh hreads
    | holds hlock hcurrent => exact .holds hlock hcurrent
    | ended e hended => exact .ended e hended

/-- Only sessions under way hold locks. -/
lemma Workload.live_of_step {a : SessionAction ι} (h : ∀ p ∈ s.locked, (s.sessions p.2).isSome)
    (hstep : W.step s a = some s') : ∀ p ∈ s'.locked, (s'.sessions p.2).isSome := by
  have hput (n : ℕ) (x : Session Q σ δ ι ε α) {p : L × ℕ}
      (hp : p.2 = n ∨ (s.sessions p.2).isSome) : ((s.put n x).sessions p.2).isSome := by
    by_cases hn : p.2 = n
    · simp [Interleaving.put, hn]
    · simpa [Interleaving.put, Function.update_of_ne hn] using hp.resolve_left hn
  have hdrop (n : ℕ) : ∀ p ∈ (s.drop n).locked, ((s.drop n).sessions p.2).isSome := by
    intro p hp
    obtain ⟨hp, hne⟩ := Interleaving.mem_drop_locked.mp hp
    rw [Interleaving.drop_sessions, Function.update_of_ne hne]
    exact h p hp
  cases a with
  | start n i =>
    simp only [Workload.step] at hstep
    split_ifs at hstep
    obtain rfl := Option.some.inj hstep
    exact fun p hp => hput n _ (.inr (h p hp))
  | query n =>
    obtain ⟨x, y, wanted, -, -, rfl, -⟩ := Workload.of_step_query hstep
    intro p hp
    rcases List.mem_append.mp hp with hp | hp
    · obtain ⟨l, -, rfl⟩ := List.mem_map.mp hp
      exact hput n y (.inl rfl)
    · exact hput n y (.inr (h p hp))
  | commit n =>
    obtain ⟨x, a, -, -, rfl⟩ := Workload.of_step_commit hstep
    exact hdrop n
  | rollback n =>
    simp only [Workload.step] at hstep
    split_ifs at hstep
    obtain rfl := Option.some.inj hstep
    exact hdrop n

/-- The holder of the lock commits its whole transaction, run alone on what is committed. -/
theorem Workload.Serial.atomically_of_commit (hguarded : W.Guarded k) (h : W.Serial k s)
    (hstep : W.step s (.commit n) = some s') :
    (k, n) ∈ s.locked ∧ ∃ x a, s.sessions n = some x ∧ x.rest = .done (.ok a) ∧
      W.engine.atomically (W.tx x.request) s.store = (.ok a, s'.store) :=
  (Workload.serial_iff.mp h).1.atomically_of_commit hguarded.optimistic hstep

lemma Workload.Serial.step (hguarded : W.Guarded k) (h : W.Serial k s) {a : SessionAction ι}
    (hstep : W.step s a = some s') : W.Serial k s' :=
  Workload.serial_iff.mpr ⟨(Workload.serial_iff.mp h).1.step hguarded.optimistic hstep,
    Workload.live_of_step h.live hstep⟩

omit [DecidableEq L] in
lemma Workload.serial_of_quiet (W : Workload Q σ δ L ι ε α) (k : L)
    (h : Workload.Quiet s) : W.Serial k s :=
  Workload.serial_iff.mpr ⟨W.inOrder_of_quiet k _ h trivial, fun p hp => by
    rw [h.2] at hp
    cases hp⟩

/-- Interleavings of guarded transactions are serial in every reachable state. -/
theorem Workload.serial_of_reachable (hguarded : W.Guarded k)
    {ok : Interleaving Q σ δ L ι ε α → SessionAction ι → Prop} (h : W.machine.Reachable ok s) :
    W.Serial k s :=
  h.invariant (fun _ => W.serial_of_quiet k) fun _ _ _ hs _ hstep => hs.step hguarded hstep

end
