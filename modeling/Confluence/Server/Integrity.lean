import Confluence.Server.TenantTransactions

/-!
# Integrity of the running service

From the empty tables on, no run of the service leaves a row without its account, and every command
that a worker holds is one of an account that exists.
-/

namespace Confluence

open Engine

/-- What a step of the server does to the database: one transaction of an account, one statement of the
owner role about rows of accounts that exist, or the passing of time. -/
inductive DbTransaction (db : Db) : Db → Prop
  | none : DbTransaction db db
  | tick (seconds : ℕ) : DbTransaction db { db with now := db.now + seconds }
  | tenant {accountId : Uuid} {ε α : Type} {p : Program Statement SqlError ε α}
      (h : postgres.Asks (Admitted accountId) p db) : DbTransaction db (postgres.atomically p db).2
  | owner {β : Type} {q : Statement β} (hq : q.Touches db.HasAccount db) :
    DbTransaction db (postgres.atomically (sql q) db).2

section

variable {accountId : Uuid} {db db' : Db}

/-- The statements of the owner role find commands of accounts that exist. -/
lemma dbTransaction_updateStatus (hs : db.Sound) (id : ℕ) (status : CommandStatus) :
    DbTransaction db (autocommit (sql (.updateCommandStatus id status)) db) := by
  have hq : (Statement.updateCommandStatus id status).Touches db.HasAccount db :=
    fun r hr _ => hs.foreignKeys.commands r hr
  exact .owner hq

/-- A step of a worker whose account is there. -/
lemma dbTransaction_advance {supervisor : Supervisor} {cmd : ClaimedCommand} {stage : Stage}
    {next : Option Stage} (hs : db.SoundFor cmd.accountId)
    (h : advance supervisor cmd stage db = some (next, db')) : DbTransaction db db' := by
  cases stage with
  | claimed =>
    simp only [advance] at h
    cases hadapter : supervisor.resolve cmd.exchangeMode with
    | none =>
      rw [hadapter] at h
      obtain rfl := congrArg Prod.snd (Option.some.inj h)
      exact dbTransaction_updateStatus hs.1 _ _
    | some adapter =>
      rw [hadapter] at h
      obtain rfl := congrArg Prod.snd (Option.some.inj h)
      unfold beginDispatch
      cases cmd.commandType with
      | unknown name => exact .none
      | _ =>
        cases extractOrderId cmd with
        | none => exact .none
        | some orderId => exact .tenant ((keepsKeysSound_hydrateSnapshotTx orderId).asks db hs.1)
  | hydrated orderId snapshot =>
    simp only [advance] at h
    obtain ⟨adapter, -, h⟩ := Option.map_eq_some_iff.mp h
    obtain rfl := congrArg Prod.snd h
    exact .none
  | accepted orderId =>
    obtain rfl := congrArg Prod.snd (Option.some.inj h)
    simp only [acceptedTx]
    cases cmd.commandType with
    | submitOrder => exact .tenant ((keepsKeysSound_submitTx orderId).asks db hs.1)
    | cancelOrder => exact .tenant ((keepsKeysSound_cancelTx orderId).asks db hs.1)
    | reconcileOrder => exact .none
    | unknown name => exact .none
  | reconciled orderId snapshot result =>
    obtain rfl := congrArg Prod.snd (Option.some.inj h)
    exact .tenant ((keepsKeysSound_persistReconcileResultTx orderId snapshot result).asks db hs.1)
  | dispatched outcome =>
    rcases outcome with e | ⟨⟨⟩⟩
    · cases e with
      | retry =>
        obtain rfl := congrArg Prod.snd (Option.some.inj h)
        have hq : (Statement.requeueCommand cmd.id).Touches db.HasAccount db :=
          fun r hr _ => hs.1.foreignKeys.commands r hr
        exact .owner hq
      | permanentlyRejected | reconciliationRequired =>
        obtain rfl := congrArg Prod.snd (Option.some.inj h)
        exact dbTransaction_updateStatus hs.1 _ _
    · obtain rfl := congrArg Prod.snd (Option.some.inj h)
      exact dbTransaction_updateStatus hs.1 _ _
  | rejecting orderId =>
    obtain rfl := congrArg Prod.snd (Option.some.inj h)
    exact .tenant ((keepsSound_rejectOrderTx orderId).asks db hs)
  | auditing reason =>
    obtain rfl := congrArg Prod.snd (Option.some.inj h)
    exact .tenant ((keepsSound_reconciliationRequiredTx reason).asks db hs)

lemma dbTransaction_handle (env : Surroundings) (accountId : Uuid) (r : Request) (hs : db.Sound) :
    DbTransaction db (r.handle env accountId db) := by
  cases r with
  | placeOrder orderId body =>
    rw [Request.handle]
    cases hvalid : validateRequest env body with
    | ok u =>
      rw [placeOrder_db orderId db hvalid]
      exact .tenant ((keepsKeysSound_placeOrderTx env orderId body).asks db hs)
    | error e =>
      simp only [placeOrder, hvalid]
      exact .none
  | evaluateTrade intent =>
    rw [Request.handle, Confluence.evaluateTrade]
    split_ifs
    · exact .none
    · exact .none
    · exact .tenant ((keepsKeysSound_evaluateTradeTx env intent).asks db hs)
  | putEquity equity =>
    rw [Request.handle, Confluence.putEquity]
    split_ifs
    · exact .none
    · exact .tenant ((keepsKeysSound_putEquityTx equity).asks db hs)
  | putRiskConfig body =>
    rw [Request.handle, Confluence.putRiskConfig]
    cases validateRiskConfig body with
    | error e => exact .none
    | ok u => exact .tenant ((keepsKeysSound_putRiskConfigTx body).asks db hs)
  | engageKillSwitch => exact .tenant (keepsKeysSound_engageKillSwitchTx.asks db hs)
  | releaseKillSwitch => exact .tenant (keepsKeysSound_releaseKillSwitchTx.asks db hs)
  | putExchangeConfig encrypt body =>
    rw [Request.handle, Confluence.putExchangeConfig]
    split_ifs
    · exact .none
    · exact .tenant ((keepsKeysSound_putExchangeConfigTx encrypt body).asks db hs)

/-- What changes to rows of existing accounts and the clock keep, every transaction keeps. -/
lemma DbTransaction.keeps {I : Db → Prop} (h : DbTransaction db db')
    (hI : ∀ db db', I db → TableStep db.HasAccount db db' → I db')
    (htick : ∀ db seconds, I db → I { db with now := db.now + seconds }) (hdb : I db) : I db' := by
  cases h with
  | none => exact hdb
  | tick seconds => exact htick db seconds hdb
  | tenant h => exact h.keeps (fun _ _ _ _ _ hq hs hexec => hI _ _ hs (hq.tableStep hexec)) hdb
  | @owner β q hq =>
    rcases atomically_cases postgres (sql q) db with hsame | ⟨_, -, hcommit⟩
    · rw [hsame]
      exact hdb
    · obtain ⟨change, hexec, heq⟩ := commits_sql.mp hcommit
      rw [heq]
      exact hI _ _ hdb (Statement.tableStep hq hexec)

lemma DbTransaction.sound (h : DbTransaction db db') (hs : db.Sound) : db'.Sound :=
  h.keeps (fun _ _ hs hstep => hstep.sound hs)
    (fun _ _ hs => ⟨{ hs.constrained with }, { hs.foreignKeys with }⟩) hs

end

/-! ### Runs -/

/-- The keys hold, and the accounts of the claimed commands exist. -/
structure Server.Sound (s : Server) : Prop where
  db : s.db.Sound
  tasks : ∀ t ∈ s.tasks, s.db.HasAccount t.cmd.accountId

/-- Cancellations are enqueued for accounts that exist. -/
def CancelsKnown (s : Server) : ServiceAction → Prop
  | .act (.act (.enqueueCancel accountId _ _ _)) => s.db.HasAccount accountId
  | _ => True

lemma sound_fresh : Server.fresh.Sound where
  db := ⟨constrained_empty, by constructor <;> rintro _ ⟨⟩⟩
  tasks _ h := by cases h

section

variable {s s' : Server}

lemma hasAccount_of_serviceStep {a : ServiceAction} (h : s.serviceStep a = some s') {accountId : Uuid}
    (ha : s.db.HasAccount accountId) : s'.db.HasAccount accountId :=
  keeps_serviceStep (I := fun db => db.HasAccount accountId)
    (fun _ _ ha hstep => hstep.keepsAccounts ha) (fun _ _ ha => ha) h ha

lemma constrained_of_serviceStep {a : ServiceAction} (h : s.serviceStep a = some s')
    (hc : s.db.Constrained) : s'.db.Constrained :=
  keeps_serviceStep (I := Db.Constrained) (fun _ _ hc hstep => hstep.constrained hc)
    (fun _ _ hc => { hc with }) h hc

lemma constrained_of_reachable (h : (service (· = .fresh)).Reachable (fun _ _ => True) s) :
    s.db.Constrained := by
  refine h.invariant (I := fun s => s.db.Constrained) ?_ ?_
  · rintro _ rfl
    exact constrained_empty
  · intro t a t' ht _ hstep
    exact constrained_of_serviceStep hstep ht

lemma dbTransaction_of_step {a : Action} (hs : s.Sound) (hok : CancelsKnown s (.act (.act a)))
    (h : s.step a = some s') : DbTransaction s.db s'.db := by
  cases a with
  | tick seconds =>
    cases h
    exact .tick seconds
  | request env accountId r =>
    cases h
    exact dbTransaction_handle env accountId r hs.db
  | enqueueCancel accountId orderId mode tag =>
    obtain rfl := Option.some.inj h
    have henqueue : KeepsSound accountId (enqueueCancelTx accountId orderId mode tag) :=
      .sql fun _ => rfl
    exact .tenant (henqueue.asks s.db ⟨hs.db, hok⟩)
  | claim limit locked =>
    have hown : (Statement.claimCommands limit leaseSeconds locked).Touches s.db.HasAccount s.db :=
      hs.db.foreignKeys.commands
    have hclaim := DbTransaction.owner hown
    simp only [Server.step] at h
    split at h
    · rename_i heq
      obtain rfl := Option.some.inj h
      rw [claimPendingCommands] at heq
      rwa [heq] at hclaim
    · rename_i heq
      obtain rfl := Option.some.inj h
      rw [claimPendingCommands] at heq
      rwa [heq] at hclaim
  | advance i supervisor =>
    simp only [Server.step, Option.bind_eq_bind, Option.bind_eq_some_iff] at h
    obtain ⟨task, htask, ⟨next, db'⟩, hadvance, h⟩ := h
    cases h
    exact dbTransaction_advance ⟨hs.db, hs.tasks task (List.mem_of_getElem? htask)⟩ hadvance
  | crash i =>
    simp only [Server.step] at h
    split_ifs at h
    cases h
    exact .none

/-- The commands of the tasks are claimed ones. -/
lemma tasks_of_step {a : Action} (hs : s.Sound) (h : s.step a = some s') {t : Task}
    (ht : t ∈ s'.tasks) : s.db.HasAccount t.cmd.accountId := by
  cases serverStep_of_step h with
  | tick | request | enqueueCancel => exact hs.tasks t ht
  | claim limit locked =>
    rcases List.mem_append.mp ht with ht | ht
    · exact hs.tasks t ht
    · obtain ⟨cmd, hcmd, rfl⟩ := List.mem_map.mp ht
      obtain ⟨r, hr, -, rfl⟩ := mem_claimedCommands hcmd
      exact hs.db.foreignKeys.commands r hr
  | @advance _ _ task _ _ htask hworker =>
    rcases mem_updateTask htask ht with ht | ⟨stage, -, rfl⟩
    · exact hs.tasks t ht
    · exact hs.tasks task (List.mem_of_getElem? htask)
  | crash => exact hs.tasks t (List.mem_of_mem_eraseIdx ht)

/-- Every step of the service keeps the keys and the foreign keys. -/
lemma sound_of_serviceStep {a : ServiceAction} (hs : s.Sound) (hok : CancelsKnown s a)
    (h : s.serviceStep a = some s') : s'.Sound := by
  cases a with
  | act a =>
    cases a with
    | act a =>
      refine ⟨(dbTransaction_of_step hs hok h).sound hs.db, fun t ht => ?_⟩
      exact hasAccount_of_serviceStep (a := .act (.act a)) h (tasks_of_step hs h ht)
    | fault i supervisor n =>
      simp only [Server.serviceStep, Server.faultyStep, Option.bind_eq_bind,
        Option.bind_eq_some_iff] at h
      obtain ⟨task, htask, next, -, h⟩ := h
      cases h
      refine ⟨hs.db, fun t ht => ?_⟩
      rcases mem_updateTask htask ht with ht | ⟨stage, -, rfl⟩
      · exact hs.tasks t ht
      · exact hs.tasks task (List.mem_of_getElem? htask)
  | createAccount accountId equity =>
    have hkept {accountId : Uuid} (ha : s.db.HasAccount accountId) : s'.db.HasAccount accountId :=
      hasAccount_of_serviceStep h ha
    have hconstrained := constrained_of_serviceStep h hs.db.constrained
    cases h
    refine ⟨?_, fun t ht => hkept (hs.tasks t ht)⟩
    rcases createAccount_cases accountId equity s.db with hdb | ⟨r, e, hid, hevent, hdb⟩
    · rw [hdb]
      exact hs.db
    · rw [hdb]
      have hk := hs.db.foreignKeys
      have hnew : { s.db with accounts := s.db.accounts ++ [r] : Db }.HasAccount accountId :=
        ⟨r, List.mem_append_right _ (List.mem_singleton.mpr rfl), hid⟩
      refine ⟨?_, ?_⟩
      · rw [← hdb]
        exact hconstrained
      exact ⟨forall_append (fun c hc => (hk.riskConfigs c hc).append r) hnew,
        fun g hg => (hk.groups g hg).append r, fun a ha => (hk.assets a ha).append r,
        fun p hp => (hk.positions p hp).append r, fun d hd => (hk.dailyPnl d hd).append r,
        fun o ho => (hk.orders o ho).append r, fun f hf => (hk.fills f hf).append r,
        fun c hc => (hk.configs c hc).append r, fun c hc => (hk.commands c hc).append r,
        forall_append (fun e he => (hk.events e he).append r) (hevent ▸ hnew)⟩
  | putCorrelationGroups accountId groups =>
    have hkept {accountId : Uuid} (ha : s.db.HasAccount accountId) : s'.db.HasAccount accountId :=
      hasAccount_of_serviceStep h ha
    cases h
    refine ⟨?_, fun t ht => hkept (hs.tasks t ht)⟩
    simp only [Confluence.putCorrelationGroups]
    split
    · exact hs.db
    · exact (DbTransaction.tenant
        ((keepsKeysSound_putCorrelationGroupsTx _).asks s.db hs.db)).sound hs.db

lemma sound_of_reachable (h : (service (· = .fresh)).Reachable CancelsKnown s) : s.Sound := by
  refine h.invariant ?_ ?_
  · rintro _ rfl
    exact sound_fresh
  · intro t a t' ht hok hstep
    exact sound_of_serviceStep ht hok hstep

end

end Confluence
