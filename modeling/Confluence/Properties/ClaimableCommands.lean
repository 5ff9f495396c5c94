import Confluence.Properties.SettledCommands
import Confluence.Server.Interruptions

/-!
# Claimable commands

Calls of the database fail while workers hydrate, dispatch and persist. As long as the failures that
are not retried are spared, a command stays claimable until something decides about it: the command
itself, its order, the answer of the venue, or a transaction that goes through.
-/

namespace Confluence

/-- The command can be claimed, now or when its lease has expired. -/
def CommandRecord.StaysClaimable (r : CommandRecord) : Prop := ∃ now, r.claimable now = true

/-- The rejections that come again with every attempt. -/
def ExchangeError.isDeterministic : ExchangeError → Bool
  | .insufficientBalance .. | .filterViolation _ | .symbolNotFound _ => true
  | _ => false

/-- The status that is written for the outcome of a dispatch. -/
def outcomeStatus : Except DispatchOutcome Unit → CommandStatus
  | .ok () => .delivered
  | .error .retry => .pending
  | .error .permanentlyRejected => .permanentlyRejected
  | .error .reconciliationRequired => .reconciliationRequired

/-- What decides about a command at the next step of its worker, and for which status. -/
inductive Decides (supervisor : Supervisor) (db : Db) (cmd : ClaimedCommand) :
    Stage → CommandStatus → Prop
  | noAdapter (h : supervisor.resolve cmd.exchangeMode = none) :
    Decides supervisor db cmd .claimed .reconciliationRequired
  | unknownType {stage : Stage} {name : String} (h : cmd.commandType = .unknown name) :
    Decides supervisor db cmd stage .reconciliationRequired
  | malformed {stage : Stage} (h : extractOrderId cmd = none) :
    Decides supervisor db cmd stage .reconciliationRequired
  | noOrder {orderId : Uuid} (horder : extractOrderId cmd = some orderId)
      (h : db.order? cmd.accountId orderId = none) :
    Decides supervisor db cmd .claimed .reconciliationRequired
  | submissionRejected {adapter : ExchangeAdapter} {orderId : Uuid} {snapshot : ReconcileSnapshot}
      {e : ExchangeError} (hadapter : supervisor.resolve cmd.exchangeMode = some adapter)
      (htype : cmd.commandType = .submitOrder) (h : adapter.submit snapshot.order = .error e)
      (he : e.isDeterministic = true) :
    Decides supervisor db cmd (.hydrated orderId snapshot) .permanentlyRejected
  | reconciliationRejected {adapter : ExchangeAdapter} {orderId : Uuid}
      {snapshot : ReconcileSnapshot} {e : ExchangeError}
      (hadapter : supervisor.resolve cmd.exchangeMode = some adapter)
      (htype : cmd.commandType = .reconcileOrder)
      (h : adapter.reconcileOrder snapshot = .error e) (he : e.isDeterministic = true) :
    Decides supervisor db cmd (.hydrated orderId snapshot) .permanentlyRejected
  | illegalTransition {orderId : Uuid} {snapshot : ReconcileSnapshot} {result : ReconcileResult}
      {o : OrderRecord} {status : OrderStatus} (ho : db.order? cmd.accountId orderId = some o)
      (hstatus : result.newStatus = some status)
      (h : OrderStateMachine.legal o.status status = false) :
    Decides supervisor db cmd (.reconciled orderId snapshot result) .reconciliationRequired
  | recordedTrades {orderId : Uuid} {snapshot : ReconcileSnapshot} {result : ReconcileResult}
      (hne : result.fillsToAdd ≠ [])
      (h : ∀ fill ∈ result.fillsToAdd, db.hasTradeId cmd.accountId fill.exchangeTradeId) :
    Decides supervisor db cmd (.reconciled orderId snapshot result) .reconciliationRequired
  | accepted {orderId : Uuid} (h : (postgres.atomically (acceptedTx cmd orderId) db).1 = .ok ()) :
    Decides supervisor db cmd (.accepted orderId) .delivered
  | persisted {orderId : Uuid} {snapshot : ReconcileSnapshot} {result : ReconcileResult}
      (h : (postgres.atomically
        (persistReconcileResultTx cmd.accountId orderId snapshot result) db).1 = .ok ()) :
    Decides supervisor db cmd (.reconciled orderId snapshot result) .delivered

/-- The action is a step of a worker, with or without failures. -/
def InterruptedAction.Moves (a : InterruptedAction) (i : ℕ) (supervisor : Supervisor) : Prop :=
  a = .act (.advance i supervisor) ∨ ∃ x, a = .interrupted i supervisor x

/-- On the way from `s` along `as`, a worker took a step at which the status was decided. -/
def Decided (s : Server) (as : List InterruptedAction) (cmd : ClaimedCommand)
    (status : CommandStatus) : Prop :=
  ∃ as₁ a as₂ t i supervisor task, as = as₁ ++ a :: as₂ ∧
    (interruptedServer Unclaimed).Run (fun _ _ => True) s as₁ t ∧ a.Moves i supervisor ∧
    t.tasks[i]? = some task ∧ task.cmd = cmd ∧ Decides supervisor t.db cmd task.stage status

/-- Failures that are not retried are spared. -/
def SparesCalls (s : Server) : InterruptedAction → Prop
  | .interrupted i _ x => ∀ t ∈ s.tasks[i]?, x.Spares t.stage
  | .act _ => True

/-- The outcome that a worker is about to write is decided, or it is to try again. -/
def Task.Grounded (s : Server) (as : List InterruptedAction) (t : Task) : Prop :=
  match t.stage with
  | .accepted _ => t.cmd.commandType = .submitOrder ∨ t.cmd.commandType = .cancelOrder
  | .dispatched outcome =>
    outcome = .error .retry ∨ Decided s as t.cmd (outcomeStatus outcome)
  | _ => True

/-- The command can be claimed, or never could, or it has been decided about. -/
def CommandRecord.Justified (s : Server) (as : List InterruptedAction) (r : CommandRecord) : Prop :=
  r.StaysClaimable ∨
    (∃ r₀ ∈ s.db.exchangeCommands, ¬ r₀.StaysClaimable ∧ r₀.claimed = r.claimed ∧
      r₀.status = r.status) ∨
    Decided s as r.claimed r.status

/-- What holds of the server after the actions `as` from `s`. -/
structure Grounded (s : Server) (as : List InterruptedAction) (t : Server) : Prop where
  ids : (t.db.exchangeCommands.map (·.id)).Nodup
  known : ∀ task ∈ t.tasks, ∃ r ∈ t.db.exchangeCommands, r.claimed = task.cmd
  tasks : ∀ task ∈ t.tasks, task.Grounded s as
  commands : ∀ r ∈ t.db.exchangeCommands, r.Justified s as

section

variable {supervisor : Supervisor} {cmd : ClaimedCommand} {db db' : Db} {stage : Stage}
  {next : Option Stage} {outcome : Except DispatchOutcome Unit}

/-! ### What decides the outcome of a dispatch -/

lemma classifyExchangeError_eq (e : ExchangeError) :
    classifyExchangeError e =
      if e.isDeterministic = true then .permanentlyRejected else .retry := by
  cases e <;> rfl

/-- Fills of which none is inserted were all recorded. -/
lemma recorded_of_insertFills {accountId orderId : Uuid} {fills : List Fill}
    (h : postgres.Commits (insertFills accountId orderId fills) db [] db') :
    ∀ fill ∈ fills, db.hasTradeId accountId fill.exchangeTradeId := by
  induction fills with
  | nil => simp
  | cons fill fills ih =>
    simp only [insertFills, Engine.commits_bind, Engine.commits_mapError, commits_insertFill,
      Engine.commits_pure] at h
    obtain ⟨_, db₁, ⟨q, p, f, -, -, -, -, hfill⟩, _, _, hrest, hnone, rfl⟩ := h
    rcases hfill with ⟨hknown, rfl, rfl⟩ | ⟨-, rfl, -⟩
    · simp only [Bool.false_eq_true, if_false] at hnone
      subst hnone
      exact List.forall_mem_cons.mpr ⟨hknown, ih hrest⟩
    · simp at hnone

lemma decides_of_callAdapter {adapter : ExchangeAdapter} {orderId : Uuid}
    {snapshot : ReconcileSnapshot} (hadapter : supervisor.resolve cmd.exchangeMode = some adapter)
    (h : callAdapter cmd adapter orderId snapshot = .dispatched outcome) :
    outcome = .error .retry ∨
      Decides supervisor db cmd (.hydrated orderId snapshot) (outcomeStatus outcome) := by
  unfold callAdapter at h
  cases htype : cmd.commandType with
  | submitOrder =>
    rw [htype] at h
    cases hcall : adapter.submit snapshot.order with
    | ok _ => simp [hcall, Except.mapError, Stage.after] at h
    | error e =>
      simp only [hcall, Except.mapError, Stage.after, Stage.dispatched.injEq] at h
      subst h
      rw [classifyExchangeError_eq]
      split_ifs with he
      · exact .inr (.submissionRejected hadapter htype hcall he)
      · exact .inl rfl
  | reconcileOrder =>
    rw [htype] at h
    cases hcall : adapter.reconcileOrder snapshot with
    | ok _ => simp [hcall, Except.mapError, Stage.after] at h
    | error e =>
      simp only [hcall, Except.mapError, Stage.after, Stage.dispatched.injEq] at h
      subst h
      rw [classifyExchangeError_eq]
      split_ifs with he
      · exact .inr (.reconciliationRejected hadapter htype hcall he)
      · exact .inl rfl
  | cancelOrder =>
    rw [htype] at h
    cases hcall : adapter.cancel snapshot.order with
    | ok _ => simp [hcall, Except.mapError, Stage.after] at h
    | error e =>
      simp only [hcall, Except.mapError, Stage.after, Stage.dispatched.injEq] at h
      exact .inl h.symm
  | unknown name =>
    rw [htype] at h
    obtain rfl := Stage.dispatched.inj h
    exact .inr (.unknownType htype)

lemma decides_of_accepted {orderId : Uuid}
    (htype : cmd.commandType = .submitOrder ∨ cmd.commandType = .cancelOrder) :
    (postgres.atomically (acceptedTx cmd orderId) db).1 = .error .retry ∨
      Decides supervisor db cmd (.accepted orderId)
        (outcomeStatus (postgres.atomically (acceptedTx cmd orderId) db).1) := by
  have herrors : postgres.ErrorsIn (· = .retry) (acceptedTx cmd orderId) := by
    rcases htype with htype | htype
    · simpa only [acceptedTx, htype] using errorsIn_submitTx cmd orderId
    · simpa only [acceptedTx, htype] using errorsIn_cancelTx cmd orderId
  cases hresult : (postgres.atomically (acceptedTx cmd orderId) db).1 with
  | ok _ => exact .inr (.accepted hresult)
  | error e => exact .inl (by rw [herrors.atomically hresult])

/-- An order that is gone is looked for again. -/
lemma persist_of_noOrder {orderId : Uuid} {snapshot : ReconcileSnapshot} {result : ReconcileResult}
    (h : db.order? cmd.accountId orderId = none) :
    (postgres.atomically (persistReconcileResultTx cmd.accountId orderId snapshot result) db).1 =
      .error .retry := by
  have hlock : postgres.run ((lockOrder cmd.accountId orderId).mapError fun _ =>
      DispatchOutcome.retry) ⟨db, false⟩ = (.error .retry, ⟨db, false⟩) := by
    rw [Engine.run_mapError, run_lockOrder, h]
    rfl
  simp only [Engine.atomically, persistReconcileResultTx, Engine.run_bind, hlock]

lemma decides_of_persist {orderId : Uuid} {snapshot : ReconcileSnapshot}
    {result : ReconcileResult} :
    (postgres.atomically (persistReconcileResultTx cmd.accountId orderId snapshot result) db).1 =
        .error .retry ∨
      Decides supervisor db cmd (.reconciled orderId snapshot result)
        (outcomeStatus (postgres.atomically
          (persistReconcileResultTx cmd.accountId orderId snapshot result) db).1) := by
  have herrors := errorsIn_persistReconcileResultTx cmd.accountId orderId snapshot result
  cases hresult : (postgres.atomically
      (persistReconcileResultTx cmd.accountId orderId snapshot result) db).1 with
  | ok _ => exact .inr (.persisted hresult)
  | error e =>
    cases e with
    | retry => exact .inl rfl
    | permanentlyRejected => exact (herrors.atomically hresult rfl).elim
    | reconciliationRequired =>
      right
      cases ho : db.order? cmd.accountId orderId with
      | none =>
        rw [persist_of_noOrder ho] at hresult
        cases hresult
      | some o =>
        obtain ⟨-, -, ⟨hne, db', hfills⟩ | ⟨status, hstatus, hlegal⟩⟩ :=
          escalated_of_persist ho hresult
        · exact .recordedTrades hne (recorded_of_insertFills hfills)
        · exact .illegalTransition ho hstatus hlegal

/-- Without failures, an outcome is decided by the step that comes to it. -/
lemma decides_of_advance (h : advance supervisor cmd stage db = some (some (.dispatched outcome), db'))
    (htype : ∀ orderId, stage = .accepted orderId →
      cmd.commandType = .submitOrder ∨ cmd.commandType = .cancelOrder) :
    outcome = .error .retry ∨ Decides supervisor db cmd stage (outcomeStatus outcome) := by
  cases stage with
  | claimed =>
    have hstep := workerStep_of_advance h
    generalize hnext : some (Stage.dispatched outcome) = next at hstep
    cases hstep with
    | noAdapter => simp at hnext
    | hydrated => simp at hnext
    | notHydrated hadapter hnone =>
      simp only [Option.some.injEq, Stage.dispatched.injEq] at hnext
      subst hnext
      right
      cases horder : extractOrderId cmd with
      | none => exact .malformed horder
      | some orderId =>
        rcases hnone orderId horder with ⟨name, htype⟩ | ho
        · exact .unknownType htype
        · exact .noOrder horder ho
  | hydrated orderId snapshot =>
    simp only [advance] at h
    obtain ⟨adapter, hadapter, h⟩ := Option.map_eq_some_iff.mp h
    simp only [Prod.mk.injEq, Option.some.injEq] at h
    exact decides_of_callAdapter hadapter h.1
  | accepted orderId =>
    simp only [advance, Option.some.injEq, Prod.mk.injEq, Stage.dispatched.injEq] at h
    obtain ⟨rfl, -⟩ := h
    exact decides_of_accepted (htype orderId rfl)
  | reconciled orderId snapshot result =>
    simp only [advance, Option.some.injEq, Prod.mk.injEq, Stage.dispatched.injEq] at h
    obtain ⟨rfl, -⟩ := h
    exact decides_of_persist
  | dispatched outcome' =>
    have hstep := workerStep_of_advance h
    generalize hnext : some (Stage.dispatched outcome) = next at hstep
    cases hstep with
    | delivered | requeued | reconciliationRequired => simp at hnext
    | permanentlyRejected =>
      obtain ⟨orderId, -, hstage⟩ := Option.map_eq_some_iff.mp hnext.symm
      cases hstage
  | rejecting | auditing => simp [advance] at h

/-! ### What is written -/

/-- The status that the step writes of its command. -/
inductive Writes (supervisor : Supervisor) (cmd : ClaimedCommand) : Stage → CommandStatus → Prop
  | noAdapter (h : supervisor.resolve cmd.exchangeMode = none) :
    Writes supervisor cmd .claimed .reconciliationRequired
  | outcome (outcome : Except DispatchOutcome Unit) :
    Writes supervisor cmd (.dispatched outcome) (outcomeStatus outcome)

/-- Commands are kept, under identifiers of their own. Those that cannot be claimed were there
before, or such a status has been written. -/
structure Db.Turns (db db' : Db) (writes : ℕ → CommandStatus → Prop) : Prop where
  ids : (db.exchangeCommands.map (·.id)).Nodup → (db'.exchangeCommands.map (·.id)).Nodup
  kept : ∀ r ∈ db.exchangeCommands, ∃ r' ∈ db'.exchangeCommands, r'.claimed = r.claimed
  rows : ∀ r' ∈ db'.exchangeCommands, r'.StaysClaimable ∨ r' ∈ db.exchangeCommands ∨
    ∃ r ∈ db.exchangeCommands, r'.claimed = r.claimed ∧ writes r.id r'.status

variable {writes : ℕ → CommandStatus → Prop} {r : CommandRecord}

lemma staysClaimable_of_pending (h : r.status = .pending) : r.StaysClaimable :=
  ⟨0, by simp [CommandRecord.claimable, h]⟩

lemma staysClaimable_of_leased {expiry : Timestamp} (h : r.status = .leased)
    (hlease : r.leasedUntil = some expiry) : r.StaysClaimable :=
  ⟨expiry + 1, by simp [CommandRecord.claimable, h, hlease]⟩

lemma turns_of_same (h : db'.exchangeCommands = db.exchangeCommands) : db.Turns db' writes := by
  constructor
  · rw [h]
    exact id
  · intro r hr
    exact ⟨r, h ▸ hr, rfl⟩
  · intro r' hr'
    exact .inr (.inl (h ▸ hr'))

lemma Enqueues.turns (h : Enqueues db db') : db.Turns db' writes := by
  rcases h.commands with hsame | ⟨accountId, commandType, mode, key, payload, -, -, hnew⟩
  · exact turns_of_same hsame
  · constructor
    · intro hids
      rw [hnew, List.map_append, List.map_singleton]
      refine List.nodup_append.mpr ⟨hids, by simp, ?_⟩
      intro i hi j hj
      rw [List.mem_singleton.mp hj]
      exact (lt_freshId hi).ne
    · intro r hr
      exact ⟨r, hnew ▸ List.mem_append_left _ hr, rfl⟩
    · intro r' hr'
      rw [hnew] at hr'
      rcases List.mem_append.mp hr' with hr' | hr'
      · exact .inr (.inl hr')
      · rw [List.mem_singleton.mp hr']
        exact .inl (staysClaimable_of_pending rfl)

lemma turns_updateWhere {p : CommandRecord → Bool} {f : CommandRecord → CommandRecord}
    (hclaimed : ∀ r, (f r).claimed = r.claimed)
    (hwrites : ∀ r, p r = true → (f r).StaysClaimable ∨ writes r.id (f r).status) :
    db.Turns { db with exchangeCommands := updateWhere p f db.exchangeCommands } writes := by
  constructor
  · intro hids
    have hsame : (updateWhere p f db.exchangeCommands).map (·.id) =
        db.exchangeCommands.map (·.id) :=
      map_updateWhere fun r => congrArg ClaimedCommand.id (hclaimed r)
    exact hsame.symm ▸ hids
  · intro r hr
    refine ⟨if p r = true then f r else r, mem_updateWhere.mpr ⟨r, hr, rfl⟩, ?_⟩
    split_ifs
    · exact hclaimed r
    · rfl
  · intro r' hr'
    obtain ⟨r, hr, rfl⟩ := mem_updateWhere.mp hr'
    split_ifs with hp
    · rcases hwrites r hp with hclaimable | hwrite
      · exact .inl hclaimable
      · exact .inr (.inr ⟨r, hr, hclaimed r, hwrite⟩)
    · exact .inr (.inl hr)

lemma turns_withCommandStatus {id : ℕ} {status : CommandStatus} (h : writes id status) :
    db.Turns (db.withCommandStatus id status) writes := by
  refine turns_updateWhere (fun _ => rfl) fun r hp => .inr ?_
  obtain rfl : r.id = id := of_decide_eq_true hp
  exact h

lemma WorkerStep.turns (h : WorkerStep supervisor cmd db stage next db') :
    db.Turns db' fun i status => i = cmd.id ∧ Writes supervisor cmd stage status := by
  by_cases hmarks : marks supervisor cmd stage = true
  · cases h with
    | noAdapter hadapter => exact turns_withCommandStatus ⟨rfl, .noAdapter hadapter⟩
    | delivered => exact turns_withCommandStatus ⟨rfl, .outcome (.ok ())⟩
    | permanentlyRejected =>
      exact turns_withCommandStatus ⟨rfl, .outcome (.error .permanentlyRejected)⟩
    | reconciliationRequired =>
      exact turns_withCommandStatus ⟨rfl, .outcome (.error .reconciliationRequired)⟩
    | requeued =>
      exact turns_updateWhere (fun _ => rfl) fun _ _ => .inl (staysClaimable_of_pending rfl)
    | notHydrated | hydrated => exact (Enqueues.refl db).turns
    | called | submitted | cancelled | notAccepted | persisted | notPersisted | rejected
    | audited => cases hmarks
  · exact (h.enqueues (by simpa using hmarks)).turns

/-! ### Steps -/

variable {s t t' : Server} {as : List InterruptedAction} {a : InterruptedAction} {task : Task}
  {i : ℕ} {status : CommandStatus}

lemma Decided.append (h : Decided s as cmd status) (bs : List InterruptedAction) :
    Decided s (as ++ bs) cmd status := by
  obtain ⟨as₁, a, as₂, t, i, supervisor, task, rfl, hrest⟩ := h
  exact ⟨as₁, a, as₂ ++ bs, t, i, supervisor, task, by simp, hrest⟩

lemma Task.Grounded.append (h : task.Grounded s as) (bs : List InterruptedAction) :
    task.Grounded s (as ++ bs) := by
  obtain ⟨cmd, lease, stage⟩ := task
  cases stage with
  | dispatched outcome => exact h.imp_right fun hdecided => hdecided.append bs
  | _ => exact h

lemma CommandRecord.Justified.append (h : r.Justified s as) (bs : List InterruptedAction) :
    r.Justified s (as ++ bs) :=
  h.imp_right fun h => h.imp_right fun hdecided => hdecided.append bs

/-- A command is known by its identifier. -/
lemma Grounded.claimed_eq (h : Grounded s as t) (htask : task ∈ t.tasks)
    (hr : r ∈ t.db.exchangeCommands) (hid : r.id = task.cmd.id) : r.claimed = task.cmd := by
  obtain ⟨r₁, hr₁, hclaimed⟩ := h.known task htask
  have hsame : r = r₁ := by
    refine List.inj_on_of_nodup_map h.ids hr hr₁ ?_
    rw [hid, ← hclaimed]
    rfl
  rw [hsame, hclaimed]

/-- The step of a worker that decides, decides from then on. -/
lemma decided_of_step (hrun : (interruptedServer Unclaimed).Run (fun _ _ => True) s as t)
    (hmoves : a.Moves i supervisor) (htask : t.tasks[i]? = some task)
    (h : Decides supervisor t.db task.cmd task.stage status) :
    Decided s (as ++ [a]) task.cmd status :=
  ⟨as, a, [], t, i, supervisor, task, rfl, hrun, hmoves, htask, rfl, h⟩

/-- What a worker writes is decided, or lets the command be claimed again. -/
lemma Grounded.of_writes (h : Grounded s as t)
    (hrun : (interruptedServer Unclaimed).Run (fun _ _ => True) s as t)
    (hmoves : a.Moves i supervisor) (htask : t.tasks[i]? = some task)
    (hwrites : Writes supervisor task.cmd task.stage status) :
    status = .pending ∨ Decided s (as ++ [a]) task.cmd status := by
  have hgrounded := h.tasks task (List.mem_of_getElem? htask)
  have hdecided (hdecides : Decides supervisor t.db task.cmd task.stage status) :
      Decided s (as ++ [a]) task.cmd status := decided_of_step hrun hmoves htask hdecides
  obtain ⟨cmd, lease, stage⟩ := task
  cases hwrites with
  | noAdapter hadapter => exact .inr (hdecided (.noAdapter hadapter))
  | outcome outcome =>
    rcases hgrounded with rfl | hbefore
    · exact .inl rfl
    · exact .inr (hbefore.append [a])

/-- A worker that goes on without a failure is grounded. -/
lemma Grounded.of_advance (h : Grounded s as t)
    (hrun : (interruptedServer Unclaimed).Run (fun _ _ => True) s as t)
    (hmoves : a.Moves i supervisor) (htask : t.tasks[i]? = some task) {stage' : Stage}
    (hadvance : advance supervisor task.cmd task.stage t.db = some (some stage', db')) :
    Task.Grounded s (as ++ [a]) { task with stage := stage' } := by
  have hgrounded := h.tasks task (List.mem_of_getElem? htask)
  cases stage' with
  | dispatched outcome =>
    have htype (orderId : Uuid) (hstage : task.stage = .accepted orderId) :
        task.cmd.commandType = .submitOrder ∨ task.cmd.commandType = .cancelOrder := by
      simpa only [Task.Grounded, hstage] using hgrounded
    rcases decides_of_advance hadvance htype with hretry | hdecides
    · exact .inl hretry
    · have hdecided := decided_of_step hrun hmoves htask hdecides
      exact .inr hdecided
  | accepted orderId =>
    have hstep := workerStep_of_advance hadvance
    generalize hnext : some (Stage.accepted orderId) = next at hstep
    generalize task.stage = stage at hstep
    cases hstep with
    | @called adapter orderId' snapshot hadapter =>
      rcases callAdapter_cases task.cmd adapter orderId' snapshot
        with ⟨e, hcall⟩ | ⟨htype, -⟩ | ⟨-, result, -, hcall⟩
      · simp [hcall] at hnext
      · exact htype
      · simp [hcall] at hnext
    | permanentlyRejected =>
      obtain ⟨orderId', -, hstage⟩ := Option.map_eq_some_iff.mp hnext.symm
      cases hstage
    | _ => simp at hnext
  | claimed | hydrated | reconciled | rejecting | auditing => trivial

/-- What a step keeps: its writes are decided, its new tasks known and grounded. -/
lemma Grounded.step (h : Grounded s as t) (hturns : t.db.Turns t'.db writes)
    (hwrites : ∀ r ∈ t.db.exchangeCommands, ∀ status, writes r.id status →
      status = .pending ∨ Decided s (as ++ [a]) r.claimed status)
    (htasks : ∀ task' ∈ t'.tasks, task' ∈ t.tasks ∨
      ((∃ r ∈ t.db.exchangeCommands, r.claimed = task'.cmd) ∧ task'.Grounded s (as ++ [a]))) :
    Grounded s (as ++ [a]) t' := by
  constructor
  · exact hturns.ids h.ids
  · intro task' htask'
    have hknown : ∃ r ∈ t.db.exchangeCommands, r.claimed = task'.cmd := by
      rcases htasks task' htask' with hold | ⟨hknown, -⟩
      · exact h.known task' hold
      · exact hknown
    obtain ⟨r, hr, hclaimed⟩ := hknown
    obtain ⟨r', hr', hsame⟩ := hturns.kept r hr
    exact ⟨r', hr', hsame.trans hclaimed⟩
  · intro task' htask'
    rcases htasks task' htask' with hold | ⟨-, hgrounded⟩
    · exact (h.tasks task' hold).append [a]
    · exact hgrounded
  · intro r' hr'
    rcases hturns.rows r' hr' with hclaimable | hold | ⟨r, hr, hclaimed, hwrite⟩
    · exact .inl hclaimable
    · exact (h.commands r' hold).append [a]
    · rcases hwrites r hr _ hwrite with hpending | hdecided
      · exact .inl (staysClaimable_of_pending hpending)
      · rw [← hclaimed] at hdecided
        exact .inr (.inr hdecided)

/-- The tasks when one of them has moved on. -/
lemma Grounded.of_updateTask (h : Grounded s as t) (htask : t.tasks[i]? = some task)
    (hnext : ∀ stage', next = some stage' →
      Task.Grounded s (as ++ [a]) { task with stage := stage' }) :
    ∀ task' ∈ updateTask t.tasks i task next, task' ∈ t.tasks ∨
      ((∃ r ∈ t.db.exchangeCommands, r.claimed = task'.cmd) ∧ task'.Grounded s (as ++ [a])) := by
  intro task' htask'
  rcases mem_updateTask htask htask' with hold | ⟨stage', hstage, rfl⟩
  · exact .inl hold
  · exact .inr ⟨h.known task (List.mem_of_getElem? htask), hnext stage' hstage⟩

/-- A step of a worker writes what is decided. -/
lemma Grounded.advanced (h : Grounded s as t)
    (hrun : (interruptedServer Unclaimed).Run (fun _ _ => True) s as t)
    (hmoves : a.Moves i supervisor) (htask : t.tasks[i]? = some task)
    (hadvance : advance supervisor task.cmd task.stage t.db = some (next, db')) :
    Grounded s (as ++ [a]) ⟨db', updateTask t.tasks i task next⟩ := by
  refine h.step (workerStep_of_advance hadvance).turns ?_ (h.of_updateTask htask ?_)
  · rintro r hr status ⟨hid, hwrites⟩
    rw [h.claimed_eq (List.mem_of_getElem? htask) hr hid]
    exact h.of_writes hrun hmoves htask hwrites
  · rintro stage' rfl
    exact h.of_advance hrun hmoves htask hadvance

/-- A step whose failures are spared writes nothing about commands. -/
lemma Grounded.interrupted {x : Interruption} {stage' : Stage} (h : Grounded s as t)
    (hrun : (interruptedServer Unclaimed).Run (fun _ _ => True) s as t)
    (hmoves : a.Moves i supervisor) (htask : t.tasks[i]? = some task)
    (hspares : x.Spares task.stage)
    (hadvance : x.advance supervisor task.cmd task.stage t.db = some (stage', db')) :
    Grounded s (as ++ [a]) ⟨db', updateTask t.tasks i task (some stage')⟩ := by
  obtain ⟨hstage, hdb, hmarks⟩ := interrupted_cases hspares hadvance
  have henqueues : Enqueues t.db db' := by
    rcases hdb with rfl | ⟨next, hclean⟩
    · exact .refl _
    · exact (workerStep_of_advance hclean).enqueues hmarks
  have hturns : t.db.Turns db' fun _ _ => False := henqueues.turns
  have hnext (stage'' : Stage) (hsame : some stage' = some stage'') :
      Task.Grounded s (as ++ [a]) { task with stage := stage'' } := by
    obtain rfl := Option.some.inj hsame
    rcases hstage with rfl | ⟨db₁, hclean⟩
    · exact .inl rfl
    · exact h.of_advance hrun hmoves htask hclean
  exact h.step hturns (fun _ _ _ hfalse => hfalse.elim) (h.of_updateTask htask hnext)

/-- Every step keeps the commands justified. -/
lemma Grounded.interruptedStep (h : Grounded s as t)
    (hrun : (interruptedServer Unclaimed).Run (fun _ _ => True) s as t)
    (hok : SparesCalls t a) (hstep : t.interruptedStep a = some t') :
    Grounded s (as ++ [a]) t' := by
  cases a with
  | interrupted i supervisor x =>
    simp only [Server.interruptedStep, Option.bind_eq_bind, Option.bind_eq_some_iff] at hstep
    obtain ⟨task, htask, ⟨stage', db'⟩, hadvance, hstep⟩ := hstep
    obtain rfl := Option.some.inj hstep
    exact h.interrupted hrun (.inr ⟨x, rfl⟩) htask (hok task htask) hadvance
  | act a =>
    have hquiet {t' : Server} (hturns : t.db.Turns t'.db fun _ _ => False)
        (htasks : ∀ task' ∈ t'.tasks, task' ∈ t.tasks ∨
          ((∃ r ∈ t.db.exchangeCommands, r.claimed = task'.cmd) ∧
            task'.Grounded s (as ++ [.act a]))) : Grounded s (as ++ [.act a]) t' :=
      h.step hturns (fun _ _ _ hfalse => hfalse.elim) htasks
    cases serverStep_of_step hstep with
    | tick seconds => exact hquiet (turns_of_same rfl) fun _ htask => .inl htask
    | request hrequest => exact hquiet hrequest.enqueues.turns fun _ htask => .inl htask
    | enqueueCancel accountId orderId mode tag =>
      have hknown : ∀ name, CommandType.cancelOrder ≠ .unknown name := by simp
      exact hquiet (enqueues_withCommand t.db accountId hknown ..).turns fun _ htask => .inl htask
    | crash hi =>
      exact hquiet (turns_of_same rfl) fun _ htask => .inl (List.mem_of_mem_eraseIdx htask)
    | claim limit locked =>
      refine hquiet (turns_updateWhere (fun _ => rfl) fun _ _ =>
        .inl (staysClaimable_of_leased rfl rfl)) fun task' htask' => ?_
      rcases List.mem_append.mp htask' with hold | hnew
      · exact .inl hold
      · obtain ⟨cmd, hcmd, rfl⟩ := List.mem_map.mp hnew
        obtain ⟨r, hr, -, hclaimed⟩ := mem_claimedCommands hcmd
        exact .inr ⟨⟨r, hr, hclaimed⟩, trivial⟩
    | @advance i supervisor task next db' htask hworker =>
      simp only [Server.interruptedStep, Server.step, htask, Option.bind_eq_bind,
        Option.bind_some, Option.bind_eq_some_iff] at hstep
      obtain ⟨⟨next', db''⟩, hadvance, hstep⟩ := hstep
      have hresult := Option.some.inj hstep
      rw [← hresult]
      exact h.advanced hrun (.inl rfl) htask hadvance

/-- In every run in which failures that are not retried are spared, a command stays claimable, unless
it could not be claimed from the start, until a worker comes to what decides about it. -/
theorem commands_stay_claimable {s s' : Server} {as : List InterruptedAction} (hs : Unclaimed s)
    (hrun : (interruptedServer Unclaimed).Run SparesCalls s as s') :
    ∀ r ∈ s'.db.exchangeCommands, r.StaysClaimable ∨
      (∃ r₀ ∈ s.db.exchangeCommands, ¬ r₀.StaysClaimable ∧ r₀.claimed = r.claimed ∧
        r₀.status = r.status) ∨
      Decided s as r.claimed r.status := by
  have hinit : Grounded s [] s := by
    refine ⟨hs.1, by simp [hs.2], by simp [hs.2], fun r hr => ?_⟩
    by_cases hclaimable : r.StaysClaimable
    · exact .inl hclaimable
    · exact .inr (.inl ⟨r, hr, hclaimable, rfl, rfl⟩)
  have hground := hrun.history hinit fun as t a t' hbefore h hok hstep =>
    h.interruptedStep (hbefore.mono fun _ _ _ => trivial) hok hstep
  exact hground.commands

end

/-! ### A failure that is retried and one that is not -/

/-- The statements that fail, and nothing else. -/
def Interruption.ofStatements (fails : ∀ {β : Type}, Statement β → Bool) : Interruption where
  beginFails := false
  statements := ⟨fun q _ => if fails q then some .transactionAborted else none⟩
  commit := .answered

def Statement.isFillQuery {β : Type} : Statement β → Bool
  | .selectFills .. => true
  | _ => false

/-- The fills cannot be loaded, and the next attempt delivers the command. -/
def retryOne : List InterruptedAction :=
  [.act (.claim 1 []), .interrupted 0 paperAt100 (.ofStatements Statement.isFillQuery),
    .act (.advance 0 paperAt100)] ++ deliverOne.map .act

/-- The order cannot be locked, and the command is left for manual review. -/
def strandOne : List InterruptedAction :=
  [.act (.claim 1 []), .interrupted 0 paperAt100 (.ofStatements Statement.isOrderLock),
    .act (.advance 0 paperAt100)]

lemma staysClaimable_submittedOne {r : CommandRecord} (hr : r ∈ submittedOne.db.exchangeCommands) :
    r.StaysClaimable := by
  rw [List.mem_singleton.mp hr]
  exact staysClaimable_of_pending rfl

lemma not_staysClaimable_of_isSettled {r : CommandRecord} (h : r.status.isSettled = true) :
    ¬ r.StaysClaimable := by
  rintro ⟨now, hclaimable⟩
  cases hstatus : r.status <;>
    simp [CommandRecord.claimable, CommandStatus.isSettled, hstatus] at h hclaimable

lemma spares_isFillQuery (stage : Stage) :
    (Interruption.ofStatements Statement.isFillQuery).Spares stage := by
  cases stage with
  | claimed =>
    intro β q n hq
    cases q <;> first | rfl | cases hq
  | reconciled =>
    left
    intro β q n hq
    cases q <;> first | rfl | cases hq
  | hydrated | accepted | dispatched | rejecting | auditing => trivial

/-- The delivery after a failed attempt is decided. -/
theorem commands_stay_claimable_retryOne :
    ∃ s, (interruptedServer Unclaimed).Run SparesCalls submittedOne retryOne s ∧
      ∃ r ∈ s.db.exchangeCommands, r.status = .delivered ∧
        Decided submittedOne retryOne r.claimed .delivered := by
  have hexec : ((interruptedServer Unclaimed).exec (fun _ _ => True) submittedOne retryOne).any
      (reaches .delivered) = true := by
    decide +kernel
  obtain ⟨s, hrun, hs⟩ := Machine.exists_run_of_exec hexec
  have hspared : ∀ a ∈ retryOne, ∀ s, SparesCalls s a := by
    intro a ha s
    have hcases : (∃ b, a = .act b) ∨
        a = .interrupted 0 paperAt100 (.ofStatements Statement.isFillQuery) := by
      simp only [retryOne, deliverOne, List.map_cons, List.map_nil, List.cons_append,
        List.nil_append, List.mem_cons, List.not_mem_nil, or_false] at ha
      rcases ha with ha | ha | ha | ha | ha | ha | ha | ha <;> simp [ha]
    rcases hcases with ⟨b, rfl⟩ | rfl
    · trivial
    · exact fun t _ => spares_isFillQuery t.stage
  have hrun := (hrun.of_actions hspared).mono fun s a h => h.1 s
  obtain ⟨r, hr, -, hstatus⟩ := hasStatus_of_reaches hs
  refine ⟨s, hrun, r, hr, hstatus, ?_⟩
  rcases commands_stay_claimable ⟨by decide, rfl⟩ hrun r hr with hclaimable | ⟨r₀, hr₀, hnot, -⟩ | h
  · exact (not_staysClaimable_of_isSettled (by rw [hstatus]; rfl) hclaimable).elim
  · exact (hnot (staysClaimable_submittedOne hr₀)).elim
  · rwa [hstatus] at h

/-- A worker is at the start or at the end of its dispatch of a command whose order is there. -/
def undecided (s : Server) : Bool :=
  s.tasks.all fun task =>
    (match task.stage with
      | .claimed | .dispatched _ => true
      | _ => false) &&
    (decide (task.cmd.commandType = .reconcileOrder ∧ task.cmd.exchangeMode = .paper) &&
      (extractOrderId task.cmd).any fun i => (s.db.order? task.cmd.accountId i).isSome)

lemma not_decides_of_undecided {s : Server} {task : Task} (h : undecided s = true)
    (htask : task ∈ s.tasks) :
    ¬ Decides paperAt100 s.db task.cmd task.stage .reconciliationRequired := by
  have htest := List.all_eq_true.mp h task htask
  rw [Bool.and_eq_true, Bool.and_eq_true, decide_eq_true_eq, Option.any_eq_true] at htest
  obtain ⟨hstage, ⟨htype, hmode⟩, i, horder, ho⟩ := htest
  intro hdecides
  generalize hstatus : CommandStatus.reconciliationRequired = status at hdecides
  generalize task.stage = stage at hdecides hstage
  cases hdecides with
  | noAdapter hnone =>
    rw [hmode] at hnone
    cases hnone
  | unknownType hunknown => simp [hunknown] at htype
  | malformed hmalformed => simp [hmalformed] at horder
  | noOrder horder' hnone =>
    obtain rfl := Option.some.inj (horder.symm.trans horder')
    simp [hnone] at ho
  | submissionRejected | reconciliationRejected | accepted | persisted => cases hstatus
  | illegalTransition | recordedTrades => cases hstage

/-- A failure to lock the order ends in manual review, and nothing has decided it. -/
theorem command_not_claimable_after_failure :
    ¬ ∀ (s s' : Server) (as : List InterruptedAction), Unclaimed s →
      (interruptedServer Unclaimed).Run (fun _ _ => True) s as s' →
        ∀ r ∈ s'.db.exchangeCommands, r.StaysClaimable ∨
          (∃ r₀ ∈ s.db.exchangeCommands, ¬ r₀.StaysClaimable ∧ r₀.claimed = r.claimed ∧
            r₀.status = r.status) ∨
          Decided s as r.claimed r.status := by
  intro h
  have hexec : ((interruptedServer Unclaimed).exec (fun _ _ => True) submittedOne strandOne).any
      (reaches .reconciliationRequired) = true := by
    decide +kernel
  obtain ⟨s, hrun, hs⟩ := Machine.exists_run_of_exec hexec
  obtain ⟨r, hr, -, hstatus⟩ := hasStatus_of_reaches hs
  rcases h _ _ _ ⟨by decide, rfl⟩ hrun r hr with hclaimable | ⟨r₀, hr₀, hnot, -⟩ | hdecided
  · exact not_staysClaimable_of_isSettled (by rw [hstatus]; rfl) hclaimable
  · exact hnot (staysClaimable_submittedOne hr₀)
  · rw [hstatus] at hdecided
    obtain ⟨as₁, a, as₂, t, i, supervisor, task, heq, hrun₁, hmoves, htask, hcmd, hdecides⟩ := hdecided
    rw [← hcmd] at hdecides
    -- every step of the run is one of this worker, which finds nothing to decide
    have hfirst : ∀ n ≤ 2, ((interruptedServer Unclaimed).exec (fun _ _ => True) submittedOne
        (strandOne.take n)).all undecided = true := by
      decide +kernel
    have htake : as₁ = strandOne.take as₁.length := by
      rw [heq, List.take_left]
    have hlength : as₁.length ≤ 2 := by
      have hlen := congrArg List.length heq
      simp only [strandOne, List.length_cons, List.length_nil, List.length_append] at hlen
      omega
    have hundecided : undecided t = true := by
      rw [htake] at hrun₁
      exact hrun₁.of_exec (hfirst _ hlength)
    have hsupervisor : supervisor = paperAt100 := by
      have ha : a ∈ strandOne := heq ▸ by simp
      simp only [strandOne, List.mem_cons, List.not_mem_nil, or_false] at ha
      rcases hmoves with rfl | ⟨x, rfl⟩ <;> simp at ha
      · exact ha.2
      · exact ha.2.1
    subst hsupervisor
    exact not_decides_of_undecided hundecided (List.mem_of_getElem? htask) hdecides

end Confluence
