import Confluence.Properties.FrozenModes
import Confluence.Properties.SchemaConstraints
import Confluence.Properties.Settings
import Confluence.Server.Views

/-!
# Settings are read back

In every run from the empty tables, what the reading routes answer for an account, and what the engine
and the order routes find of its groups and its mode, is what one gets by applying the account's own
successful requests one after another. Restarts, workers, failing calls and the requests of other
accounts do not show.
-/

namespace Confluence

/-- The actions of a run that are answered with success. -/
def Server.log (s : Server) : List ServiceAction → List ServiceAction
  | [] => []
  | a :: as =>
    match s.serviceStep a with
    | none => []
    | some s' => if a.accepted s.db then a :: s'.log as else s'.log as

/-- The settings of an account after the log. -/
def replay (accountId : Uuid) (log : List ServiceAction) : Option Settings :=
  log.foldl (Settings.apply accountId) none

/-- What is read of an account are these settings. -/
structure Db.Shows (db : Db) (accountId : Uuid) (x : Option Settings) : Prop where
  account : (getAccount accountId db).1 = (x.map fun x =>
    { id := accountId, status := x.account.status, equity := x.account.equity
      killSwitchEngaged := x.account.killSwitchEngaged : AccountView }).elim (.error .notFound) .ok
  riskConfig : (getRiskConfig accountId db).1 = (x.map (·.risk)).elim (.error .notFound) .ok
  exchangeConfig : (getExchangeConfig accountId db).1 = ((x.bind (·.exchange)).map fun e =>
    { mode := modeStr e.mode, testnet := e.testnet, hasCredentials := e.apiKeyCiphertext.isSome
      version := e.version : ExchangeConfigView }).elim (.error .notFound) .ok
  exchangeMode : db.exchangeMode accountId = ((x.bind (·.exchange)).map (·.mode)).getD .paper
  groups : ∀ row day, (db.snapshot accountId row day).correlationGroups =
    (x.map (·.groups)).getD fun _ => none

section

variable {db : Db} {accountId : Uuid} {s s' : Server} {as : List ServiceAction}

/-! ### Reading -/

lemma getAccount_eq (accountId : Uuid) (db : Db) :
    (getAccount accountId db).1 = ((db.accountRow accountId).map fun row =>
      { id := accountId, status := row.status, equity := row.equity
        killSwitchEngaged := row.killSwitchEngaged : AccountView }).elim (.error .notFound) .ok := by
  simp only [getAccount, getAccountTx, Engine.atomically, Engine.run_bind, sql, Engine.run_ask]
  cases h : db.accountRow accountId with
  | none =>
    rw [Db.accountRow] at h
    simp [postgres, Statement.exec, h]
  | some row =>
    rw [Db.accountRow] at h
    simp [postgres, Statement.exec, h]

lemma getRiskConfig_eq (accountId : Uuid) (db : Db) :
    (getRiskConfig accountId db).1 =
      (db.riskConfigView accountId).elim (.error .notFound) .ok := by
  simp only [getRiskConfig, getRiskConfigTx, loadRiskConfig, Engine.atomically, Engine.run_bind, sql,
    Engine.run_ask]
  cases h : db.riskConfig accountId with
  | none =>
    rw [Db.riskConfigView, h]
    rw [Db.riskConfig] at h
    simp [postgres, Statement.exec, h]
  | some row =>
    rw [Db.riskConfigView, h]
    rw [Db.riskConfig] at h
    simp [postgres, Statement.exec, h]

lemma getExchangeConfig_eq (accountId : Uuid) (db : Db) :
    (getExchangeConfig accountId db).1 = ((db.configRow accountId).map fun row =>
      { mode := modeStr row.mode, testnet := row.testnet
        hasCredentials := row.apiKeyCiphertext.isSome
        version := row.version : ExchangeConfigView }).elim (.error .notFound) .ok := by
  simp only [getExchangeConfig, getExchangeConfigTx, Engine.atomically, Engine.run_bind, sql,
    Engine.run_ask]
  cases h : db.configRow accountId with
  | none =>
    rw [Db.configRow] at h
    simp [postgres, Statement.exec, h]
  | some row =>
    rw [Db.configRow] at h
    simp [postgres, Statement.exec, h]

lemma hasAccount_of_accountRow {row : AccountRow} (h : db.accountRow accountId = some row) :
    db.HasAccount accountId := by
  obtain ⟨r, hr, -⟩ := Option.map_eq_some_iff.mp h
  exact ⟨r, List.mem_of_find?_eq_some hr, by simpa using List.find?_some hr⟩

/-- The tables of an account that has not been created say nothing of it. -/
lemma settings_eq_none (hs : db.Sound) (hconfigured : db.AccountsConfigured)
    (h : db.settings accountId = none) :
    db.accountRow accountId = none ∧ db.riskConfigView accountId = none ∧
      db.configRow accountId = none ∧ db.groupsOf accountId = fun _ => none := by
  have hnone : ¬ db.HasAccount accountId := by
    rintro ⟨r, hr, hid⟩
    obtain ⟨c, hc, hcid⟩ := hconfigured r hr
    have haccount : (db.accountRow accountId).isSome := by
      simp only [Db.accountRow, Option.isSome_map, List.find?_isSome]
      exact ⟨r, hr, by simpa using hid⟩
    have hrisk : (db.riskConfigView accountId).isSome := by
      simp only [Db.riskConfigView, Db.riskConfig, Option.isSome_map, List.find?_isSome]
      exact ⟨c, hc, by simpa using hcid.trans hid⟩
    obtain ⟨account, haccount⟩ := Option.isSome_iff_exists.mp haccount
    obtain ⟨risk, hrisk⟩ := Option.isSome_iff_exists.mp hrisk
    simp [Db.settings, haccount, hrisk] at h
  refine ⟨?_, ?_, ?_, ?_⟩
  · cases haccount : db.accountRow accountId with
    | none => rfl
    | some row => exact (hnone (hasAccount_of_accountRow haccount)).elim
  · simp only [Db.riskConfigView, Db.riskConfig, Option.map_eq_none_iff, List.find?_eq_none]
    rintro r hr hid
    have hid : r.accountId = accountId := by simpa using hid
    exact hnone (hid ▸ hs.foreignKeys.riskConfigs r hr)
  · simp only [Db.configRow, List.find?_eq_none]
    rintro r hr hid
    have hid : r.accountId = accountId := by simpa using hid
    exact hnone (hid ▸ hs.foreignKeys.configs r hr)
  · have hassets : db.correlationGroupAssets.filter (fun r => r.accountId = accountId) = [] := by
      refine List.filter_eq_nil_iff.mpr fun r hr hid => hnone ?_
      have hid : r.accountId = accountId := by simpa using hid
      exact hid ▸ hs.foreignKeys.assets r hr
    rw [Db.groupsOf, hassets]
    rfl

/-- What is read are the settings that the tables hold. -/
lemma shows_settings (hs : db.Sound) (hconfigured : db.AccountsConfigured) (accountId : Uuid) :
    db.Shows accountId (db.settings accountId) := by
  have hmode : db.exchangeMode accountId =
      ((db.configRow accountId).map (·.mode)).getD .paper := rfl
  cases h : db.settings accountId with
  | none =>
    obtain ⟨haccount, hrisk, hconfig, hgroups⟩ := settings_eq_none hs hconfigured h
    refine ⟨?_, ?_, ?_, ?_, fun row day => ?_⟩
    · rw [getAccount_eq, haccount]
      rfl
    · rw [getRiskConfig_eq, hrisk]
      rfl
    · rw [getExchangeConfig_eq, hconfig]
      rfl
    · rw [hmode, hconfig]
      rfl
    · rw [snapshot_correlationGroups, hgroups]
      rfl
  | some x =>
    simp only [Db.settings, Option.bind_eq_bind, Option.bind_eq_some_iff] at h
    obtain ⟨account, haccount, risk, hrisk, hx⟩ := h
    obtain rfl := Option.some.inj hx
    refine ⟨?_, ?_, ?_, ?_, fun row day => rfl⟩
    · rw [getAccount_eq, haccount]
      rfl
    · rw [getRiskConfig_eq, hrisk]
      rfl
    · rw [getExchangeConfig_eq]
      cases db.configRow accountId <;> rfl
    · rw [hmode]
      cases db.configRow accountId <;> rfl

/-! ### Runs -/

/-- What holds of the tables while the service runs. -/
lemma sound_of_run (hs : s.Sound ∧ s.db.AccountsConfigured) {init : Server → Prop}
    (hrun : (service init).Run CancelsKnown s as s') : s'.Sound ∧ s'.db.AccountsConfigured := by
  refine hrun.preserves (I := fun s => s.Sound ∧ s.db.AccountsConfigured) ?_ hs
  rintro t a t' ⟨ht, hconfigured⟩ hok hstep
  exact ⟨sound_of_serviceStep ht hok hstep,
    accountsConfigured_of_serviceStep ht hok hstep hconfigured⟩

/-- The settings after a run are those before it, changed by its log. -/
lemma settings_of_run {init : Server → Prop} (hs : s.Sound)
    (hrun : (service init).Run CancelsKnown s as s') (accountId : Uuid) :
    s'.db.settings accountId =
      (s.log as).foldl (Settings.apply accountId) (s.db.settings accountId) := by
  induction hrun with
  | nil => rfl
  | @cons s s₁ s' a as hok hstep _ ih =>
    replace hstep : s.serviceStep a = some s₁ := hstep
    rw [ih (sound_of_serviceStep hs hok hstep), settings_of_serviceStep hs hstep, Server.log, hstep]
    simp only
    split_ifs with haccepted
    · rfl
    · rfl

/-- In every run from the empty tables, what is read of an account is what its own successful requests
have set, one after another. -/
theorem settings_read_back (hrun : (service (· = .fresh)).Run CancelsKnown .fresh as s)
    (accountId : Uuid) : s.db.Shows accountId (replay accountId (Server.fresh.log as)) := by
  have hfresh : Server.fresh.Sound ∧ Server.fresh.db.AccountsConfigured := by
    refine ⟨sound_fresh, ?_⟩
    rintro _ ⟨⟩
  obtain ⟨hs, hconfigured⟩ := sound_of_run hfresh hrun
  have hsettings : s.db.settings accountId = replay accountId (Server.fresh.log as) :=
    settings_of_run hfresh.1 hrun accountId
  rw [← hsettings]
  exact shows_settings hs.db hconfigured accountId

end

/-! ### A few requests -/

def majors : List (Uuid × CorrelationGroupDef) := [(⟨7⟩, ⟨"majors", ["BTCUSDT", "ETHUSDT"]⟩)]

/-- Settings of an account; the second risk configuration is of an old version. -/
def settleAccount : List ServiceAction :=
  let request (r : Request) : ServiceAction := .act (.act (.request quotedAt100 ⟨1⟩ r))
  [.createAccount ⟨1⟩ (some 1000), request (.putEquity (1 / 3)),
    request (.putRiskConfig ⟨⟨2, 5, 3, 10⟩, 1⟩), request (.putRiskConfig ⟨⟨9, 9, 9, 9⟩, 1⟩),
    .putCorrelationGroups ⟨1⟩ majors, request .engageKillSwitch, configureAs "live" 0,
    .act (.act (.request quotedAt100 ⟨2⟩ (.putEquity 5)))]

theorem settings_read_back_settleAccount :
    ∃ s, (service (· = .fresh)).Run CancelsKnown .fresh settleAccount s ∧
      (replay ⟨1⟩ (Server.fresh.log settleAccount)).map (fun x =>
          (x.account.equity, x.risk.config.maxConcurrentPositions, x.groups "ETHUSDT")) =
        some (3333333333 / 10000000000, 3, some "majors") ∧
      s.db.Shows ⟨1⟩ (replay ⟨1⟩ (Server.fresh.log settleAccount)) := by
  have hexec : ((service (· = .fresh)).exec (fun _ _ => True) .fresh settleAccount).any
      (fun _ => true) = true := by
    decide +kernel
  obtain ⟨s, hrun, -⟩ := Machine.exists_run_of_exec hexec
  have hgood (a : ServiceAction) (ha : a ∈ settleAccount) (t : Server) : CancelsKnown t a := by
    fin_cases ha <;> trivial
  have hrun : (service (· = .fresh)).Run CancelsKnown .fresh settleAccount s :=
    (hrun.of_actions hgood).mono fun t _ h => h.1 t
  exact ⟨s, hrun, by decide +kernel, settings_read_back hrun ⟨1⟩⟩

end Confluence
