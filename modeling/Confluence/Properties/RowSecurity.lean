import Confluence.Properties.SchemaConstraints
import Confluence.Server.RowSecurity

/-!
# Row-level security

The policies confine every transaction to the rows of the account in its setting, whatever its
statements name. For the transactions that the service opens, they change nothing: each behaves as it
would without them.
-/

namespace Confluence

open Engine

/-! ### Any transaction -/

section

variable {tenant : Option Uuid} {ε α : Type}

/-- A transaction leaves the rows of every account alone that is not the one in its setting, and all
tables when the setting is not set. -/
theorem rowSecurity_confines (p : Program Statement SqlError ε α) (db : Db) :
    (∀ b, tenant ≠ some b → ((postgresAs tenant).atomically p db).2.rowsOf b = db.rowsOf b) ∧
      (tenant = none → ((postgresAs tenant).atomically p db).2 = db) := by
  constructor
  · intro b hb
    have hadvances : (postgresAs tenant).Advances fun db db' => db'.rowsOf b = db.rowsOf b := by
      intro β q db r change h
      exact (Statement.tableStep_as h).rowsOf_other hb
    exact hadvances.atomically (fun _ => rfl) (fun _ _ _ h h' => h'.trans h) p db
  · rintro rfl
    have hadvances : (postgresAs none).Advances fun db db' => db' = db := by
      intro β q db r change h
      exact (Statement.tableStep_as h).eq_of_none fun _ ha => by cases ha
    exact hadvances.atomically (fun _ => rfl) (fun _ _ _ h h' => h'.trans h) p db

end

/-- Under the setting of another account, and without one, a forged statement engages nothing. -/
theorem rowSecurity_confines_forged :
    (postgres.atomically (sql (.engageKillSwitch ⟨1⟩)) equity1000).2 ≠ equity1000 ∧
      ((postgresAs (some ⟨2⟩)).atomically (sql (.engageKillSwitch ⟨1⟩)) equity1000).2.rowsOf ⟨1⟩ =
        equity1000.rowsOf ⟨1⟩ ∧
      ((postgresAs none).atomically (sql (.engageKillSwitch ⟨1⟩)) equity1000).2 = equity1000 := by
  refine ⟨fun h => ?_, ?_, ?_⟩
  · have hstatus := congrArg (fun db => db.accounts.map (·.status)) h
    revert hstatus
    decide +kernel
  · exact (rowSecurity_confines (sql (.engageKillSwitch ⟨1⟩)) equity1000).1 ⟨1⟩ (by decide)
  · exact (rowSecurity_confines (sql (.engageKillSwitch ⟨1⟩)) equity1000).2 rfl

/-! ### The transactions of the service -/

/-- The transactions that the handlers and the workers of `s` open with `tenant_tx` for the account. -/
inductive TenantTx (s : Server) (accountId : Uuid) :
    ∀ {ε α : Type}, Program Statement SqlError ε α → Prop
  | createAccount (equity : Decimal) : TenantTx s accountId (createAccountTx accountId equity)
  | getAccount : TenantTx s accountId (getAccountTx accountId)
  | placeOrder (env : Surroundings) (orderId : Uuid) (body : PlaceOrderRequest) :
    TenantTx s accountId (placeOrderTx env accountId orderId body)
  | evaluateTrade (env : Surroundings) (intent : TradeIntent) :
    TenantTx s accountId (evaluateTradeTx env accountId intent)
  | putEquity (equity : Decimal) : TenantTx s accountId (putEquityTx accountId equity)
  | getRiskConfig : TenantTx s accountId (getRiskConfigTx accountId)
  | putRiskConfig (body : RiskConfigView) : TenantTx s accountId (putRiskConfigTx accountId body)
  | putCorrelationGroups (groups : List (Uuid × CorrelationGroupDef)) :
    TenantTx s accountId (putCorrelationGroupsTx accountId groups)
  | engageKillSwitch : TenantTx s accountId (engageKillSwitchTx accountId)
  | releaseKillSwitch : TenantTx s accountId (releaseKillSwitchTx accountId)
  | getExchangeConfig : TenantTx s accountId (getExchangeConfigTx accountId)
  | putExchangeConfig (encrypt : String → Except ApiError (List UInt8)) (body : PutExchangeConfig) :
    TenantTx s accountId (putExchangeConfigTx encrypt accountId body)
  | listRiskEvents (columns : ℕ → Uuid × Timestamp) (before : Option Uuid) (limit : ℕ) :
    TenantTx s accountId (sql (.selectRiskEvents columns accountId before limit))
  | hydrate (orderId : Uuid) : TenantTx s accountId (hydrateSnapshotTx accountId orderId)
  | submit {cmd : ClaimedCommand} (orderId : Uuid) (hcmd : cmd.accountId = accountId) :
    TenantTx s accountId (submitTx cmd orderId)
  | cancel {cmd : ClaimedCommand} (orderId : Uuid) (hcmd : cmd.accountId = accountId) :
    TenantTx s accountId (cancelTx cmd orderId)
  | persist (orderId : Uuid) (snapshot : ReconcileSnapshot) (result : ReconcileResult) :
    TenantTx s accountId (persistReconcileResultTx accountId orderId snapshot result)
  | reject {t : Task} (orderId : Uuid) (ht : t ∈ s.tasks) (hcmd : t.cmd.accountId = accountId) :
    TenantTx s accountId (rejectOrderTx t.cmd orderId)
  | reconciliationRequired {t : Task} (reason : Option String) (ht : t ∈ s.tasks)
      (hcmd : t.cmd.accountId = accountId) :
    TenantTx s accountId (reconciliationRequiredTx t.cmd reason)

section

variable {s : Server} {accountId : Uuid} {ε α : Type} {p : Program Statement SqlError ε α}

/-- Every statement of these transactions is about rows of the account. -/
lemma TenantTx.asks (h : TenantTx s accountId p) (hs : s.Sound) :
    postgres.Asks (fun _ q db => q.Touches (fun a => a = accountId) db) p s.db := by
  have hadmitted {ε α : Type} {p : Program Statement SqlError ε α}
      (h : postgres.Asks (Admitted accountId) p s.db) :
      postgres.Asks (fun _ q db => q.Touches (fun a => a = accountId) db) p s.db :=
    h.mono fun _ _ _ hq => hq.1
  have hknown {t : Task} (ht : t ∈ s.tasks) : s.db.SoundFor t.cmd.accountId :=
    ⟨hs.db, hs.tasks t ht⟩
  cases h with
  | createAccount equity => exact (touches_createAccountTx equity).asks s.db trivial
  | getAccount => exact hadmitted (keepsKeysSound_getAccountTx.asks s.db hs.db)
  | placeOrder env orderId body =>
    exact hadmitted ((keepsKeysSound_placeOrderTx env orderId body).asks s.db hs.db)
  | evaluateTrade env intent =>
    exact hadmitted ((keepsKeysSound_evaluateTradeTx env intent).asks s.db hs.db)
  | putEquity equity => exact hadmitted ((keepsKeysSound_putEquityTx equity).asks s.db hs.db)
  | getRiskConfig => exact hadmitted (keepsKeysSound_getRiskConfigTx.asks s.db hs.db)
  | putRiskConfig body => exact hadmitted ((keepsKeysSound_putRiskConfigTx body).asks s.db hs.db)
  | putCorrelationGroups groups =>
    exact hadmitted ((keepsKeysSound_putCorrelationGroupsTx groups).asks s.db hs.db)
  | engageKillSwitch => exact hadmitted (keepsKeysSound_engageKillSwitchTx.asks s.db hs.db)
  | releaseKillSwitch => exact hadmitted (keepsKeysSound_releaseKillSwitchTx.asks s.db hs.db)
  | getExchangeConfig => exact hadmitted (keepsKeysSound_getExchangeConfigTx.asks s.db hs.db)
  | putExchangeConfig encrypt body =>
    exact hadmitted ((keepsKeysSound_putExchangeConfigTx encrypt body).asks s.db hs.db)
  | listRiskEvents columns before limit =>
    have hread : KeepsKeysSound accountId (sql (.selectRiskEvents columns accountId before limit)) :=
      keepsKeysSound_read (fun _ => rfl) rfl
    exact hadmitted (hread.asks s.db hs.db)
  | hydrate orderId => exact hadmitted ((keepsKeysSound_hydrateSnapshotTx orderId).asks s.db hs.db)
  | submit orderId hcmd =>
    subst hcmd
    exact hadmitted ((keepsKeysSound_submitTx orderId).asks s.db hs.db)
  | cancel orderId hcmd =>
    subst hcmd
    exact hadmitted ((keepsKeysSound_cancelTx orderId).asks s.db hs.db)
  | persist orderId snapshot result =>
    exact hadmitted ((keepsKeysSound_persistReconcileResultTx orderId snapshot result).asks s.db hs.db)
  | reject orderId ht hcmd =>
    subst hcmd
    exact hadmitted ((keepsSound_rejectOrderTx orderId).asks s.db (hknown ht))
  | reconciliationRequired reason ht hcmd =>
    subst hcmd
    exact hadmitted ((keepsSound_reconciliationRequiredTx reason).asks s.db (hknown ht))

/-- Transactions that ask about rows of the account only do not notice the policies. -/
lemma atomically_as {db : Db} (hc : db.Constrained)
    (h : postgres.Asks (fun _ q db => q.Touches (fun a => a = accountId) db) p db) :
    (postgresAs (some accountId)).atomically p db = postgres.atomically p db := by
  -- the constraints hold whenever a statement is asked, which the policies on groups of symbols need
  have hconstrained := h.and_keeps (I := Db.Constrained)
    (fun _ q db _ _ hq hc hexec => (Statement.tableStep hq hexec).constrained hc) hc
  have hagree ⦃β : Type⦄ (q : Statement β) (db : Db)
      (hq : q.Touches (fun a => a = accountId) db ∧ db.Constrained) :
      postgres.answer q db = (postgresAs (some accountId)).answer q db :=
    (Statement.answer_as hq.2.keyed hq.1).symm
  exact (hconstrained.atomically_congr hagree rfl).symm

/-- In every database that the service reaches, its transactions for an account have the same result
and the same effect with the policies as without. -/
theorem rowSecurity_transparent (h : (service (· = .fresh)).Reachable CancelsKnown s)
    (hp : TenantTx s accountId p) :
    (postgresAs (some accountId)).atomically p s.db = postgres.atomically p s.db :=
  atomically_as (sound_of_reachable h).db.constrained (hp.asks (sound_of_reachable h))

end

/-- The account that has traded is killed, with the policies as without. -/
theorem rowSecurity_transparent_engaged :
    ∃ s, (service (· = .fresh)).Reachable CancelsKnown s ∧
      TenantTx s ⟨1⟩ (engageKillSwitchTx ⟨1⟩) ∧
      (postgresAs (some ⟨1⟩)).atomically (engageKillSwitchTx ⟨1⟩) s.db =
        postgres.atomically (engageKillSwitchTx ⟨1⟩) s.db ∧
      ((postgresAs (some ⟨1⟩)).atomically (engageKillSwitchTx ⟨1⟩) s.db).2.accounts.map (·.status) =
        [.killed] := by
  have hexec : ((service (· = .fresh)).exec (fun _ _ => True) .fresh (openAndTrade.take 12)).any
      (fun s : Server => decide ((postgres.atomically (engageKillSwitchTx ⟨1⟩) s.db).2.accounts.map
        (·.status) = [.killed])) = true := by
    decide +kernel
  obtain ⟨s, hreach, hs⟩ := reachable_openAndTrade hexec
  have hp : TenantTx s ⟨1⟩ (engageKillSwitchTx ⟨1⟩) := .engageKillSwitch
  have htransparent := rowSecurity_transparent hreach hp
  refine ⟨s, hreach, hp, htransparent, ?_⟩
  rw [htransparent]
  exact of_decide_eq_true hs

end Confluence
