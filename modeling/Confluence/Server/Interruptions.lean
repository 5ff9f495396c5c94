import Confluence.Library.Interruption
import Confluence.Server.Steps

/-!
# Interrupted dispatches

Every call of the database in `hydrate_snapshot`, `dispatch` and `persist_reconcile_result` may fail:
the begin of the transaction, any of its statements, its commit. The errors are not looked at, so any
of them stands for a transient one.
-/

namespace Confluence

open Program

/-- How a commit is answered. When the answer is lost, it may have been applied or not. -/
inductive CommitAnswer
  | answered
  | lost (applied : Bool)
deriving DecidableEq

/-- The calls of one transaction that fail. -/
structure Interruption where
  beginFails : Bool
  statements : Engine.Failures Statement SqlError
  commit : CommitAnswer

namespace Interruption

variable {α : Type} (x : Interruption)

/-- A transaction up to its commit, which keeps nothing of a failed one and reports no error. -/
def transaction (p : WorkerTx α) (db : Db) : Except DispatchOutcome α × Db :=
  if x.beginFails then (.error .retry, db)
  else
    let (result, store) := (postgres.interrupted x.statements).atomically p (db, 0)
    (result, store.1)

/-- The transaction of `hydrate_snapshot`, which drops the error of its commit. -/
def hydrate (p : WorkerTx α) (db : Db) : Except DispatchOutcome α × Db :=
  let (result, db') := x.transaction p db
  (result, if x.commit = .lost false then db else db')

/-- A transaction that is retried when its commit is not answered. -/
def write (p : WorkerTx Unit) (db : Db) : Except DispatchOutcome Unit × Db :=
  match x.transaction p db with
  | (.error e, db') => (.error e, db')
  | (.ok (), db') =>
    match x.commit with
    | .answered => (.ok (), db')
    | .lost applied => (.error .retry, if applied then db' else db)

/-- A step of the worker with these failures. There is none where the step calls no database, or
writes an outcome. -/
def advance (supervisor : Supervisor) (cmd : ClaimedCommand) (stage : Stage) (db : Db) :
    Option (Stage × Db) :=
  match stage with
  | .claimed =>
    match supervisor.resolve cmd.exchangeMode, cmd.commandType, extractOrderId cmd with
    | none, _, _ | _, .unknown _, _ | _, _, none => none
    | some _, _, some orderId =>
      let (result, db) := x.hydrate (hydrateSnapshotTx cmd.accountId orderId) db
      some (.after (.hydrated orderId) result, db)
  | .accepted orderId =>
    let (outcome, db) := x.write (acceptedTx cmd orderId) db
    some (.dispatched outcome, db)
  | .reconciled orderId snapshot result =>
    let (outcome, db) :=
      x.write (persistReconcileResultTx cmd.accountId orderId snapshot result) db
    some (.dispatched outcome, db)
  | _ => none

end Interruption

inductive InterruptedAction
  | act (a : Action)
  | interrupted (i : ℕ) (supervisor : Supervisor) (x : Interruption)

def Server.interruptedStep (s : Server) : InterruptedAction → Option Server
  | .act a => s.step a
  | .interrupted i supervisor x => do
    let task ← s.tasks[i]?
    let (stage, db) ← x.advance supervisor task.cmd task.stage s.db
    return { db, tasks := updateTask s.tasks i task (some stage) }

/-- The server whose workers are interrupted by failing calls. -/
def interruptedServer (init : Server → Prop) : Machine Server InterruptedAction where
  init := init
  step := Server.interruptedStep

/-! ### What becomes of a failure -/

/-- The statement of `lock_order`. -/
def Statement.isOrderLock {β : Type} : Statement β → Bool
  | .selectOrderForUpdate .. => true
  | _ => false

/-- The statement of `insert_risk_event`. -/
def Statement.isEventInsertion {β : Type} : Statement β → Bool
  | .insertRiskEvent .. => true
  | _ => false

section

variable {β : Type} {d : SqlError} {accountId orderId : Uuid}

/-- The functions of the data layer pass every failure on. -/
lemma passes_sql (q : Statement β) : (sql q).Passes d fun _ => True := passes_ask (fun _ => trivial) q

lemma passes_lockOrder : (lockOrder accountId orderId).Passes d fun _ => True :=
  (passes_sql _).bind fun _ => failsAs_required _ _

lemma passes_insertFill (fill : Fill) : (insertFill accountId orderId fill).Passes d fun _ => True :=
  (passes_sql _).bind fun _ => failsAs_pure _

lemma passes_applyPositionDelta (symbol : String) (delta price : Decimal) :
    (applyPositionDelta accountId symbol delta price).Passes d fun _ => True := by
  unfold applyPositionDelta
  refine .ite (failsAs_pure _) ((passes_sql _).bind fun row => ?_)
  cases row with
  | none => exact passes_sql _
  | some row => exact .ite (passes_sql _) (passes_sql _)

lemma passes_retry {α : Type} {p : Tx α} (h : p.Passes d fun _ => True) :
    (p.mapError fun _ => DispatchOutcome.retry).Passes d (· = .retry) :=
  h.mapError fun _ _ => rfl

lemma passes_insertFills (fills : List Fill) :
    (insertFills accountId orderId fills).Passes d (· = .retry) := by
  induction fills with
  | nil => exact failsAs_pure _
  | cons fill fills ih =>
    exact (passes_retry (passes_insertFill fill)).bind fun _ => ih.bind fun _ => failsAs_pure _

lemma passes_applyPositionDeltas (price : Decimal) (deltas : List PositionDelta) :
    (applyPositionDeltas accountId price deltas).Passes d (· = .retry) := by
  induction deltas with
  | nil => exact failsAs_pure _
  | cons delta deltas ih =>
    exact (passes_retry (passes_applyPositionDelta _ _ _)).bind fun _ => ih

lemma passes_submitTx (cmd : ClaimedCommand) : (submitTx cmd orderId).Passes d (· = .retry) := by
  refine (passes_retry passes_lockOrder).bind fun locked => .ite ?_ (passes_retry (passes_sql _))
  exact (passes_retry (passes_sql _)).bind fun _ => passes_retry (passes_sql _)

lemma passes_cancelTx (cmd : ClaimedCommand) : (cancelTx cmd orderId).Passes d (· = .retry) := by
  refine (passes_retry passes_lockOrder).bind fun locked => .ite ?_ (passes_retry (passes_sql _))
  refine (passes_retry (passes_sql _)).bind fun _ => ?_
  exact (passes_retry (passes_sql _)).bind fun _ => passes_retry (passes_sql _)

/-- Every failure behind an accepted submission or cancellation is retried. -/
lemma passes_acceptedTx (cmd : ClaimedCommand) : (acceptedTx cmd orderId).Passes d (· = .retry) := by
  unfold acceptedTx
  cases cmd.commandType with
  | submitOrder => exact passes_submitTx cmd
  | cancelOrder => exact passes_cancelTx cmd
  | reconcileOrder => exact failsAs_fail _
  | unknown name => exact failsAs_fail _

/-- Every failure to hydrate is retried but that of `lock_order`. -/
lemma failsAs_hydrateSnapshotTx :
    (hydrateSnapshotTx accountId orderId).FailsAs d fun _ q r =>
      r = .error .retry ∨ q.isOrderLock = true := by
  have hlock : ((lockOrder accountId orderId).mapError fun _ =>
      DispatchOutcome.reconciliationRequired).FailsAs d fun _ q r =>
        q.isOrderLock = true ∧ ∃ e, r = .error e := by
    refine FailsAs.handle (P := fun _ q r => q.isOrderLock = true ∧ ∃ e, r = .error e) ?_ ?_ ?_
    · refine ⟨fun e => ⟨rfl, _, rfl⟩, fun row => ?_⟩
      exact failsAs_required _ _
    · rintro γ q _ ⟨hq, e, rfl⟩
      exact ⟨hq, _, rfl⟩
    · rintro (e | o)
      · trivial
      · trivial
  refine FailsAs.handle hlock ?_ fun r => ?_
  · rintro γ q _ ⟨hq, -⟩
    exact .inr hq
  · cases r with
    | error e => trivial
    | ok o =>
      refine (passes_retry (passes_sql _)).bind_failsAs ?_ fun _ => failsAs_pure _
      rintro γ q _ rfl
      exact .inl rfl

/-- Events are inserted one after another, whatever becomes of them. -/
lemma refused_insertRiskEvents (events : List RiskEvent) :
    (insertRiskEvents accountId events).refused d = .ok () := by
  induction events with
  | nil => rfl
  | cons event events ih => exact ih

lemma failsAs_insertRiskEvents (events : List RiskEvent) :
    (insertRiskEvents accountId events).FailsAs d fun _ q r =>
      q.isEventInsertion = true ∧ r = .ok () := by
  induction events with
  | nil => exact failsAs_pure _
  | cons event events ih =>
    exact ⟨fun e => ⟨rfl, refused_insertRiskEvents events⟩, fun _ => ih⟩

/-- Every failure to persist is retried but that of `insert_risk_event`, which is dropped. -/
lemma failsAs_persistReconcileResultTx (snapshot : ReconcileSnapshot) (result : ReconcileResult) :
    (persistReconcileResultTx accountId orderId snapshot result).FailsAs d fun _ q r =>
      r = .error .retry ∨ (q.isEventInsertion = true ∧ r = .ok ()) := by
  have hretry (γ : Type) (q : Statement γ) (e : DispatchOutcome) (he : e = .retry) :
      (Except.error e : Except DispatchOutcome Unit) = .error .retry ∨
        (q.isEventInsertion = true ∧ (Except.error e : Except DispatchOutcome Unit) = .ok ()) :=
    .inl (congrArg Except.error he)
  refine (passes_retry passes_lockOrder).bind_failsAs hretry fun locked =>
    .ite (failsAs_fail _) ?_
  refine (passes_insertFills _).bind_failsAs hretry fun insertedFills => .ite (failsAs_fail _) ?_
  refine (passes_applyPositionDeltas _ _).bind_failsAs hretry fun _ => ?_
  have hstatus : (persistStatus accountId orderId locked insertedFills
      result.newStatus).Passes d (· = .retry) := by
    cases result.newStatus with
    | none => exact failsAs_pure _
    | some status => exact .ite (passes_retry (passes_sql _)) (failsAs_fail _)
  refine hstatus.bind_failsAs hretry fun _ => ?_
  exact (failsAs_insertRiskEvents _).mono fun _ _ _ h => .inr h

/-- No call fails whose failure is not retried: the lock of the order when it is hydrated, and the
insertion of an event whose transaction is then committed. -/
def Interruption.Spares (x : Interruption) : Stage → Prop
  | .claimed => ∀ (β : Type) (q : Statement β) (n : ℕ), q.isOrderLock = true →
      x.statements.error? q n = none
  | .reconciled .. => (∀ (β : Type) (q : Statement β) (n : ℕ), q.isEventInsertion = true →
      x.statements.error? q n = none) ∨ x.commit ≠ .answered
  | _ => True

variable (x : Interruption) (db : Db) {α : Type}

/-- The begin fails, or nothing does, or a statement does. -/
lemma transaction_cases {P : ∀ γ : Type, Statement γ → Except DispatchOutcome α → Prop}
    {p : WorkerTx α} (hp : p.FailsAs .transactionAborted P) :
    x.transaction p db = (.error .retry, db) ∨ x.transaction p db = postgres.atomically p db ∨
      ((∃ (γ : Type) (q : Statement γ) (n : ℕ), x.statements.error? q n ≠ none ∧
        P γ q (x.transaction p db).1) ∧ (x.transaction p db).2 = db) := by
  unfold Interruption.transaction
  split_ifs
  · exact .inl rfl
  · right
    rcases Engine.atomically_interrupted (E := postgres) hp x.statements db with ⟨hresult, hstore⟩ | hfails
    · exact .inl (Prod.ext hresult hstore)
    · exact .inr hfails

variable {x}

lemma hydrate_cases (accountId orderId : Uuid) (hspares : x.Spares .claimed) :
    ((x.hydrate (hydrateSnapshotTx accountId orderId) db).1 = .error .retry ∨
      (x.hydrate (hydrateSnapshotTx accountId orderId) db).1 =
        (postgres.atomically (hydrateSnapshotTx accountId orderId) db).1) ∧
    (x.hydrate (hydrateSnapshotTx accountId orderId) db).2 = db := by
  have hread : (postgres.atomically (hydrateSnapshotTx accountId orderId) db).2 = db := by
    rw [atomically_hydrate]
  simp only [Interruption.hydrate]
  have hends : (hydrateSnapshotTx accountId orderId).FailsAs .transactionAborted _ :=
    failsAs_hydrateSnapshotTx
  rcases transaction_cases x db hends with hbegin | hclean | ⟨⟨γ, q, n, hfails, hend⟩, hdb⟩
  · simp [hbegin]
  · simp [hclean, hread]
  · rcases hend with hretry | hlock
    · simp [hretry, hdb]
    · exact (hfails (hspares γ q n hlock)).elim

lemma write_cases {C : ∀ γ : Type, Statement γ → Prop} {p : WorkerTx Unit}
    (hp : p.FailsAs .transactionAborted fun γ q r => r = .error .retry ∨ (C γ q ∧ r = .ok ()))
    (hspares : (∀ γ (q : Statement γ) n, C γ q → x.statements.error? q n = none) ∨
      x.commit ≠ .answered) :
    ((x.write p db).1 = .error .retry ∨ (x.write p db).1 = (postgres.atomically p db).1) ∧
    ((x.write p db).2 = db ∨ (x.write p db).2 = (postgres.atomically p db).2) := by
  simp only [Interruption.write]
  rcases transaction_cases x db hp with hbegin | hclean | ⟨⟨γ, q, n, hfails, hend⟩, hdb⟩
  · simp [hbegin]
  · rw [hclean]
    rcases postgres.atomically p db with ⟨e | ⟨⟩, db'⟩
    · simp
    · rcases x.commit with _ | _ | _ <;> simp
  · rcases htx : x.transaction p db with ⟨r, db'⟩
    rw [htx] at hend hdb
    simp only at hend hdb
    subst hdb
    rcases hend with rfl | ⟨hC, rfl⟩
    · simp
    · -- the transaction has failed and reports none, unless the commit is not answered
      rcases hspares with hnone | hlost
      · exact (hfails (hnone γ q n hC)).elim
      · rcases hcommit : x.commit with _ | _ | _
        · exact (hlost hcommit).elim
        · simp
        · simp

variable {db} {supervisor : Supervisor} {cmd : ClaimedCommand} {stage stage' : Stage} {db' : Db}

/-- Where the calls are spared, a step with failures is retried or goes on as without them. -/
lemma interrupted_cases (hspares : x.Spares stage)
    (h : x.advance supervisor cmd stage db = some (stage', db')) :
    (stage' = .dispatched (.error .retry) ∨
      ∃ db₁, advance supervisor cmd stage db = some (some stage', db₁)) ∧
    (db' = db ∨ ∃ next, advance supervisor cmd stage db = some (next, db')) ∧
    marks supervisor cmd stage = false := by
  cases stage with
  | claimed =>
    simp only [Interruption.advance] at h
    cases hadapter : supervisor.resolve cmd.exchangeMode with
    | none => simp [hadapter] at h
    | some adapter =>
      cases horder : extractOrderId cmd with
      | none => cases htype : cmd.commandType <;> simp [hadapter, horder, htype] at h
      | some orderId =>
        cases htype : cmd.commandType with
        | unknown name => simp [hadapter, horder, htype] at h
        | _ =>
          simp only [hadapter, horder, htype, Option.some.injEq, Prod.mk.injEq] at h
          obtain ⟨rfl, rfl⟩ := h
          obtain ⟨hresult, hdb⟩ := hydrate_cases db cmd.accountId orderId hspares
          refine ⟨?_, .inl hdb, by simp [marks, hadapter]⟩
          rcases hresult with hretry | hclean
          · left
            rw [hretry]
            rfl
          · right
            rw [hclean]
            simp [advance, hadapter, beginDispatch, htype, horder]
  | accepted orderId =>
    simp only [Interruption.advance, Option.some.injEq, Prod.mk.injEq] at h
    obtain ⟨rfl, rfl⟩ := h
    have hretried : (acceptedTx cmd orderId).FailsAs .transactionAborted fun γ q r =>
        r = .error .retry ∨ ((fun (γ : Type) (_ : Statement γ) => False) γ q ∧ r = .ok ()) := by
      refine (passes_acceptedTx cmd).mono ?_
      rintro γ q _ ⟨e, rfl, rfl⟩
      exact .inl rfl
    obtain ⟨hresult, hdb⟩ := write_cases db hretried (.inl fun _ _ _ h => h.elim)
    refine ⟨?_, ?_, rfl⟩
    · rcases hresult with hretry | hclean
      · exact .inl (by rw [hretry])
      · exact .inr ⟨_, by rw [hclean]; rfl⟩
    · rcases hdb with hsame | hclean
      · exact .inl hsame
      · exact .inr ⟨_, by rw [hclean]; rfl⟩
  | reconciled orderId snapshot result =>
    simp only [Interruption.advance, Option.some.injEq, Prod.mk.injEq] at h
    obtain ⟨rfl, rfl⟩ := h
    have hdropped : (persistReconcileResultTx cmd.accountId orderId snapshot result).FailsAs
        .transactionAborted _ := failsAs_persistReconcileResultTx snapshot result
    obtain ⟨hresult, hdb⟩ := write_cases db hdropped hspares
    refine ⟨?_, ?_, rfl⟩
    · rcases hresult with hretry | hclean
      · exact .inl (by rw [hretry])
      · exact .inr ⟨_, by rw [hclean]; rfl⟩
    · rcases hdb with hsame | hclean
      · exact .inl hsame
      · exact .inr ⟨_, by rw [hclean]; rfl⟩
  | hydrated | dispatched | rejecting | auditing => cases h

end

end Confluence
