import Confluence.Properties.MarketPrice
import Confluence.Server.AuditLog
import Confluence.Server.Orders

/-!
# Audited changes

A run of the routes and the workers is a run of transactions. The events of each agree with its
changes, but for three kinds: configurations that switch the mode and give credentials at once, or
do neither; cancellations that the venue has pending; and rejections of orders that cannot be
rejected any more.
-/

namespace Confluence

/-- The actions of the server, and the routes that no worker depends on. -/
inductive RouteAction
  | act (a : Action)
  | createAccount (id : Uuid) (equity : Option Decimal)
  | putCorrelationGroups (accountId : Uuid) (groups : List (Uuid × CorrelationGroupDef))

def Server.routeStep (s : Server) : RouteAction → Option Server
  | .act a => s.step a
  | .createAccount id equity => some { s with db := (createAccount id equity s.db).2 }
  | .putCorrelationGroups accountId groups =>
    some { s with db := (putCorrelationGroups accountId groups s.db).2 }

/-- The server that starts with any tables and no worker. -/
def routes : Machine Server RouteAction where
  init s := s.tasks = []
  step := Server.routeStep

/-- Workers use the two adapters, and ciphertexts are fresh. -/
def AdaptersAndCiphers (s : Server) : RouteAction → Prop
  | .act (.advance _ supervisor) => supervisor.UsesAdapters
  | .act (.request _ accountId (.putExchangeConfig encrypt _)) => s.db.FreshFor accountId encrypt
  | _ => True

/-- A configuration that is stored either switches the mode or gives credentials. -/
def ConfigReportable (accountId : Uuid) (encrypt : String → Except ApiError (List UInt8))
    (body : PutExchangeConfig) (db : Db) : Prop :=
  (putExchangeConfig encrypt accountId body db).1.isOk = true →
    (body.SwitchesMode (db.configRow accountId) ↔ ¬ body.GivesCredentials)

/-- The next transaction of the worker is none that is reported as something else: a result that is
persisted is no pending cancellation, and an order that is rejected can be. -/
def Task.Reportable (t : Task) (db : Db) : Prop :=
  match t.stage with
  | .reconciled orderId snapshot result =>
    (postgres.atomically (persistReconcileResultTx t.cmd.accountId orderId snapshot result)
      db).1.isOk = true → result.newStatus ≠ some .cancelRequested
  | .rejecting orderId => ∃ o, db.order? t.cmd.accountId orderId = some o ∧
    OrderStateMachine.legal o.status .rejected = true
  | _ => True

/-- Whether the action's events can agree with its changes. -/
def Reportable (s : Server) : RouteAction → Prop
  | .act (.request _ accountId (.putExchangeConfig encrypt body)) =>
    ConfigReportable accountId encrypt body s.db
  | .act (.advance i _) => ∀ t ∈ s.tasks[i]?, t.Reportable s.db
  | _ => True

/-- What the worker holds is about its order. -/
def Task.Announces (t : Task) : Prop :=
  match t.stage with
  | .hydrated orderId snapshot => snapshot.order.orderId = orderId
  | .reconciled orderId snapshot result =>
    snapshot.order.orderId = orderId ∧ result.Announces snapshot
  | _ => True

section

variable {s s' : Server} {db db' : Db} {t : Task} {supervisor : Supervisor} {next : Option Stage}

/-! ### What workers hold -/

lemma Supervisor.UsesAdapters.announces (h : supervisor.UsesAdapters) {mode : ExchangeMode}
    {adapter : ExchangeAdapter} (hadapter : supervisor.resolve mode = some adapter)
    {snapshot : ReconcileSnapshot} {result : ReconcileResult}
    (hresult : adapter.reconcileOrder snapshot = .ok result) : result.Announces snapshot := by
  cases mode with
  | paper =>
    obtain ⟨md, now, rfl⟩ := h.1 adapter hadapter
    exact PaperAdapter.announces hresult
  | live =>
    obtain ⟨parse, answer, rfl⟩ := h.2 adapter hadapter
    exact BinanceAdapter.announces hresult

lemma WorkerStep.announces (h : WorkerStep supervisor t.cmd db t.stage next db')
    (hadapters : supervisor.UsesAdapters) (ht : t.Announces) {stage : Stage}
    (hnext : next = some stage) : Task.Announces { t with stage } := by
  obtain ⟨cmd, lease, before⟩ := t
  cases h with
  | hydrated hadapter horder htype ho =>
    obtain rfl := Option.some.inj hnext
    exact (Db.mem_of_order? ho).2.1
  | @called adapter orderId snapshot hadapter =>
    obtain rfl := Option.some.inj hnext
    rcases callAdapter_cases cmd adapter orderId snapshot
      with ⟨e, hcall⟩ | ⟨-, hcall⟩ | ⟨-, result, hresult, hcall⟩
    · rw [hcall]
      trivial
    · rw [hcall]
      trivial
    · rw [hcall]
      exact ⟨ht, hadapters.announces hadapter hresult⟩
  | permanentlyRejected =>
    obtain ⟨orderId, -, rfl⟩ := Option.map_eq_some_iff.mp hnext
    trivial
  | delivered | requeued | rejected | audited => cases hnext
  | noAdapter | notHydrated | submitted | cancelled | notAccepted | persisted | notPersisted
  | reconciliationRequired =>
    obtain rfl := Option.some.inj hnext
    trivial

/-- Every worker holds what is about its order. -/
def TasksAnnounce (s : Server) : Prop := ∀ t ∈ s.tasks, t.Announces

lemma TasksAnnounce.step {a : RouteAction} (h : TasksAnnounce s) (hok : AdaptersAndCiphers s a)
    (hstep : s.routeStep a = some s') : TasksAnnounce s' := by
  intro t ht
  match a with
  | .createAccount _ _ | .putCorrelationGroups _ _ =>
    obtain rfl := Option.some.inj hstep
    exact h t ht
  | .act a =>
    cases serverStep_of_step hstep with
    | tick | enqueueCancel | request => exact h t ht
    | claim limit locked =>
      rcases List.mem_append.mp ht with ht | ht
      · exact h t ht
      · obtain ⟨cmd, -, rfl⟩ := List.mem_map.mp ht
        trivial
    | crash hi => exact h t ((List.eraseIdx_sublist ..).subset ht)
    | advance htask hworker =>
      rcases mem_updateTask htask ht with ht | ⟨stage, hnext, rfl⟩
      · exact h t ht
      · exact hworker.announces hok (h _ (List.mem_of_getElem? htask)) hnext

/-! ### Transactions of the workers -/

lemma ReconcileResult.Announces.events_mem {snapshot : ReconcileSnapshot}
    {result : ReconcileResult} (h : result.Announces snapshot) :
    ∀ event ∈ result.events, event.eventType ∈ riskEventTypes := by
  rcases h with rfl | ⟨status, payload, -, -, hevents, -⟩
  · simp
  · rw [hevents]
    simpa using mem_riskEventTypes (BinanceAdapter.eventTypeOf_mem status)

/-- The events of a worker's transaction agree with its changes exactly when they can. -/
lemma auditAgrees_advance_iff (ht : t.Announces)
    (h : advance supervisor t.cmd t.stage db = some (next, db')) :
    db.AuditAgrees db' ↔ t.Reportable db := by
  have hworker := workerStep_of_advance h
  obtain ⟨cmd, lease, stage⟩ := t
  simp only at h hworker
  cases stage with
  | claimed =>
    refine iff_of_true ?_ trivial
    cases hworker with
    | noAdapter | notHydrated | hydrated =>
      exact .of_unchanged rfl (AuditedTable.kept_of_eq rfl rfl rfl)
  | hydrated orderId snapshot =>
    refine iff_of_true ?_ trivial
    cases hworker with
    | called => exact .refl db
  | accepted orderId =>
    refine iff_of_true ?_ trivial
    cases h
    refine .atomically fun _ db' hcommit => ?_
    cases htype : cmd.commandType with
    | submitOrder =>
      simp only [acceptedTx, htype] at hcommit
      exact auditAgrees_submitTx hcommit
    | cancelOrder =>
      simp only [acceptedTx, htype] at hcommit
      exact auditAgrees_cancelTx hcommit
    | reconcileOrder | unknown =>
      simp only [acceptedTx, htype] at hcommit
      exact (Engine.not_commits_fail hcommit).elim
  | reconciled orderId snapshot result =>
    obtain ⟨horder, hresult⟩ := ht
    obtain rfl : (postgres.atomically (persistReconcileResultTx cmd.accountId orderId snapshot
      result) db).2 = db' := congrArg Prod.snd (Option.some.inj h)
    set p := persistReconcileResultTx cmd.accountId orderId snapshot result with hp
    have hstrict : postgres.Strict p :=
      strict_persistReconcileResultTx cmd.accountId orderId snapshot hresult.events_mem
    cases houtcome : (postgres.atomically p db).1 with
    | ok u =>
      rw [auditAgrees_persist_iff hresult horder (hstrict.commits houtcome)]
      simp only [Task.Reportable, ← hp, houtcome]
      simp [Except.isOk, Except.toBool]
    | error e =>
      rw [Engine.atomically_of_error houtcome]
      refine iff_of_true (.refl db) ?_
      simp only [Task.Reportable, ← hp, houtcome]
      simp [Except.isOk, Except.toBool]
  | dispatched outcome =>
    refine iff_of_true ?_ trivial
    cases hworker with
    | delivered | requeued | permanentlyRejected | reconciliationRequired =>
      exact .of_unchanged rfl (AuditedTable.kept_of_eq rfl rfl rfl)
  | rejecting orderId =>
    obtain rfl : (postgres.atomically (rejectOrderTx cmd orderId) db).2 = db' :=
      congrArg Prod.snd (Option.some.inj h)
    exact auditAgrees_rejectOrderTx_iff cmd orderId db
  | auditing reason =>
    refine iff_of_true ?_ trivial
    cases h
    refine .atomically fun _ db' hcommit => ?_
    obtain ⟨payload, rfl⟩ := of_commits_reconciliationRequiredTx hcommit
    exact .of_event rfl rfl (AuditedTable.kept_withEvents db _)

/-! ### Transactions of the routes -/

lemma auditAgrees_putExchangeConfig_iff {accountId : Uuid}
    {encrypt : String → Except ApiError (List UInt8)} {body : PutExchangeConfig}
    (hfresh : db.FreshFor accountId encrypt) :
    db.AuditAgrees (putExchangeConfig encrypt accountId body db).2 ↔
      ConfigReportable accountId encrypt body db := by
  unfold ConfigReportable putExchangeConfig
  split_ifs with hmode
  · exact iff_of_true (.refl db) fun h => nomatch h
  · have hmode : body.mode = "paper" ∨ body.mode = "live" := by
      rwa [not_and_or, not_not, not_not] at hmode
    cases houtcome : (postgres.atomically (putExchangeConfigTx encrypt accountId body) db).1 with
    | ok view =>
      have hcommit := (strict_putExchangeConfigTx encrypt accountId body).commits houtcome
      rw [auditAgrees_putExchangeConfigTx_iff hmode hfresh hcommit]
      simp [Except.isOk, Except.toBool]
    | error e =>
      rw [Engine.atomically_of_error houtcome]
      exact iff_of_true (.refl db) fun h => nomatch h

lemma auditAgrees_step_iff {a : RouteAction} (h : TasksAnnounce s) (hok : AdaptersAndCiphers s a)
    (hstep : s.routeStep a = some s') : s.db.AuditAgrees s'.db ↔ Reportable s a := by
  match a with
  | .createAccount id equity =>
    obtain rfl := Option.some.inj hstep
    exact iff_of_true (auditAgrees_createAccount id equity s.db) trivial
  | .putCorrelationGroups accountId groups =>
    obtain rfl := Option.some.inj hstep
    exact iff_of_true (auditAgrees_putCorrelationGroups accountId groups s.db) trivial
  | .act (.tick seconds) =>
    obtain rfl := Option.some.inj hstep
    exact iff_of_true (.of_unchanged rfl (AuditedTable.kept_of_eq rfl rfl rfl)) trivial
  | .act (.enqueueCancel accountId orderId mode tag) =>
    obtain rfl := Option.some.inj hstep
    refine iff_of_true (.atomically fun _ db' hcommit => ?_) trivial
    obtain ⟨-, rfl⟩ := commits_insertExchangeCommand.mp hcommit
    exact .of_unchanged rfl (AuditedTable.kept_of_eq rfl rfl rfl)
  | .act (.claim limit locked) =>
    obtain rfl := Option.some.inj hstep
    exact iff_of_true (.of_unchanged rfl (AuditedTable.kept_of_eq rfl rfl rfl)) trivial
  | .act (.crash i) =>
    simp only [Server.routeStep, Server.step] at hstep
    split_ifs at hstep
    obtain rfl := Option.some.inj hstep
    exact iff_of_true (.refl s.db) trivial
  | .act (.advance i supervisor) =>
    obtain ⟨t, ht, hstep⟩ := Option.bind_eq_some_iff.mp hstep
    obtain ⟨⟨next, db'⟩, hadvance, hstep⟩ := Option.bind_eq_some_iff.mp hstep
    obtain rfl := Option.some.inj hstep
    rw [auditAgrees_advance_iff (h t (List.mem_of_getElem? ht)) hadvance]
    simp [Reportable, ht]
  | .act (.request env accountId r) =>
    obtain rfl := Option.some.inj hstep
    cases r with
    | placeOrder orderId body =>
      exact iff_of_true (auditAgrees_placeOrder env accountId orderId body s.db) trivial
    | evaluateTrade intent =>
      exact iff_of_true (auditAgrees_evaluateTrade env accountId intent s.db) trivial
    | putEquity equity => exact iff_of_true (auditAgrees_putEquity accountId equity s.db) trivial
    | putRiskConfig body =>
      exact iff_of_true (auditAgrees_putRiskConfig accountId body s.db) trivial
    | engageKillSwitch => exact iff_of_true (auditAgrees_engageKillSwitch accountId s.db) trivial
    | releaseKillSwitch => exact iff_of_true (auditAgrees_releaseKillSwitch accountId s.db) trivial
    | putExchangeConfig encrypt body => exact auditAgrees_putExchangeConfig_iff hok

/-- In every run, the events of the next transaction agree with its changes exactly when they
can. -/
theorem audit_log_agrees_iff {a : RouteAction} (h : routes.Reachable AdaptersAndCiphers s)
    (hok : AdaptersAndCiphers s a) (hstep : s.routeStep a = some s') :
    s.db.AuditAgrees s'.db ↔ Reportable s a := by
  obtain ⟨s₀, as, hinit, hrun⟩ := h
  have hstart : TasksAnnounce s₀ := by
    intro t ht
    rw [show s₀.tasks = [] from hinit] at ht
    cases ht
  have hkeep (s : Server) (a : RouteAction) (s' : Server) (h : TasksAnnounce s)
      (hok : AdaptersAndCiphers s a) (hstep : routes.step s a = some s') : TasksAnnounce s' :=
    h.step hok hstep
  exact auditAgrees_step_iff (hrun.preserves hkeep hstart) hok hstep

end

/-! ### A new account that goes live -/

/-- An account that has just been created. -/
def newAccount : Server := { db := (createAccount ⟨1⟩ none Db.empty).2, tasks := [] }

/-- A first configuration of the account. -/
def firstConfiguration (keys : Option String) : RouteAction :=
  .act (.request quotedAt100 ⟨1⟩ (.putExchangeConfig (fun _ => .ok [1])
    { mode := "live", testnet := true, apiKey := keys, apiSecret := keys, version := 0 }))

lemma adaptersAndCiphers_firstConfiguration (keys : Option String) :
    AdaptersAndCiphers newAccount (firstConfiguration keys) := by
  have hnone : newAccount.db.configRow ⟨1⟩ = none :=
    Option.isNone_iff_eq_none.mp (by decide +kernel)
  intro text ct _
  rw [Db.apiKey, Db.apiSecret, hnone]
  simp

lemma reachable_newAccount : routes.Reachable AdaptersAndCiphers newAccount :=
  ⟨{ db := Db.empty, tasks := [] }, [.createAccount ⟨1⟩ none], rfl, .cons trivial rfl (.nil _)⟩

/-- Without credentials, the switch is what is reported. -/
theorem audit_log_agrees_withoutCredentials :
    ∃ s', newAccount.routeStep (firstConfiguration none) = some s' ∧
      s'.db.riskEvents.map (·.eventType) = ["account_created", "exchange_mode_switched"] ∧
      newAccount.db.AuditAgrees s'.db := by
  refine ⟨_, rfl, by decide +kernel, ?_⟩
  refine (audit_log_agrees_iff reachable_newAccount
    (adaptersAndCiphers_firstConfiguration none) rfl).mpr ?_
  intro _
  decide +kernel

/-- With credentials, the switch is reported and they are not. -/
theorem audit_log_not_agrees :
    ¬ ∀ s a s', routes.Reachable AdaptersAndCiphers s → AdaptersAndCiphers s a →
      s.routeStep a = some s' → s.db.AuditAgrees s'.db := by
  intro h
  have hfresh := adaptersAndCiphers_firstConfiguration (some "key")
  have hagrees := h _ _ _ reachable_newAccount hfresh rfl
  have hreportable := (auditAgrees_putExchangeConfig_iff hfresh).mp hagrees (by decide +kernel)
  exact absurd hreportable (by decide +kernel)

end Confluence
