import Confluence.Properties.ConfigChanges
import Confluence.Properties.KillSwitch
import Confluence.Server.CorrelationGroups
import Confluence.Server.Integrity

/-!
# The settings of an account

What an account's own routes set: its equity, kill switch, risk configuration, correlation groups and
exchange configuration. A request that is answered with success changes them as it says, and nothing
else does: no other request, no worker, no account beside it.
-/

namespace Confluence

structure ExchangeSettings where
  mode : ExchangeMode
  testnet : Bool
  apiKeyCiphertext : Option (List UInt8)
  apiSecretCiphertext : Option (List UInt8)
  version : ℤ

structure Settings where
  account : AccountRow
  risk : RiskConfigView
  groups : String → Option String
  exchange : Option ExchangeSettings

def ExchangeConfigRecord.settings (r : ExchangeConfigRecord) : ExchangeSettings :=
  ⟨r.mode, r.testnet, r.apiKeyCiphertext, r.apiSecretCiphertext, r.version⟩

/-- The settings that the tables hold. -/
def Db.settings (db : Db) (accountId : Uuid) : Option Settings := do
  let account ← db.accountRow accountId
  let risk ← db.riskConfigView accountId
  return { account, risk, groups := db.groupsOf accountId
           exchange := (db.configRow accountId).map (·.settings) }

/-! ### What requests ask for -/

/-- A new account, with the defaults of the columns. -/
def Settings.initial (equity : Decimal) : Settings where
  account := { status := .active, equity, killSwitchEngaged := false }
  risk := ⟨(RiskConfigRecord.placeholder ⟨0⟩).config, 1⟩
  groups := fun _ => none
  exchange := none

def AccountRow.released (row : AccountRow) : AccountRow :=
  if row.killSwitchEngaged then { row with status := .active, killSwitchEngaged := false } else row

/-- The ciphertext of a text that is given. -/
def encrypted (encrypt : String → Except ApiError (List UInt8)) (text : Option String) :
    Option (List UInt8) :=
  text.bind fun s => (encrypt s).toOption

/-- The configuration after a request, which keeps the credentials that are not given. -/
def PutExchangeConfig.settings (encrypt : String → Except ApiError (List UInt8))
    (body : PutExchangeConfig) (old : Option ExchangeSettings) : ExchangeSettings where
  mode := parseMode body.mode
  testnet := body.testnet
  apiKeyCiphertext := encrypted encrypt body.apiKey <|> old.bind (·.apiKeyCiphertext)
  apiSecretCiphertext := encrypted encrypt body.apiSecret <|> old.bind (·.apiSecretCiphertext)
  version := (old.map (·.version)).getD 0 + 1

/-- The settings after a request that succeeds. Equity has ten decimals, percentages have four. -/
def Settings.after (x : Settings) : Request → Settings
  | .placeOrder _ _ | .evaluateTrade _ => x
  | .putEquity equity => { x with account := { x.account with equity := Numeric.roundTo 10 equity } }
  | .putRiskConfig body => { x with risk := ⟨body.config.rounded, body.version + 1⟩ }
  | .engageKillSwitch =>
    { x with account := { x.account with status := .killed, killSwitchEngaged := true } }
  | .releaseKillSwitch => { x with account := x.account.released }
  | .putExchangeConfig encrypt body => { x with exchange := some (body.settings encrypt x.exchange) }

/-- The account's settings after an action that succeeds. -/
def Settings.apply (accountId : Uuid) (x : Option Settings) : ServiceAction → Option Settings
  | .act (.act (.request _ a r)) => if a = accountId then x.map (·.after r) else x
  | .createAccount a equity =>
    if a = accountId then some (.initial (Numeric.roundTo 10 (equity.getD 0))) else x
  | .putCorrelationGroups a groups =>
    if a = accountId then x.map fun x => { x with groups := groupListing (groups.map (·.2)) } else x
  | _ => x

/-- The request is answered with success. -/
def Request.accepted (env : Surroundings) (accountId : Uuid) (db : Db) : Request → Bool
  | .placeOrder orderId body => (Confluence.placeOrder env accountId orderId body db).1.isOk
  | .evaluateTrade intent => (Confluence.evaluateTrade env accountId intent db).1.isOk
  | .putEquity equity => (Confluence.putEquity accountId equity db).1.isOk
  | .putRiskConfig body => (Confluence.putRiskConfig accountId body db).1.isOk
  | .engageKillSwitch => (Confluence.engageKillSwitch accountId db).1.isOk
  | .releaseKillSwitch => (Confluence.releaseKillSwitch accountId db).1.isOk
  | .putExchangeConfig encrypt body =>
    (Confluence.putExchangeConfig encrypt accountId body db).1.isOk

def ServiceAction.accepted (db : Db) : ServiceAction → Bool
  | .act (.act (.request env accountId r)) => r.accepted env accountId db
  | .createAccount accountId equity => (Confluence.createAccount accountId equity db).1.isOk
  | .putCorrelationGroups accountId groups =>
    (Confluence.putCorrelationGroups accountId groups db).1.isOk
  | _ => false

section

variable {db db' : Db} {accountId a : Uuid} {events : List RiskEventRecord}

/-! ### What the settings depend on -/

lemma Db.settings_congr (haccounts : db'.accounts = db.accounts)
    (hrisk : db'.riskConfigs = db.riskConfigs)
    (hgroups : db'.correlationGroups = db.correlationGroups)
    (hassets : db'.correlationGroupAssets = db.correlationGroupAssets)
    (hconfigs : db'.exchangeConfigs = db.exchangeConfigs) (a : Uuid) :
    db'.settings a = db.settings a := by
  simp only [settings, accountRow, riskConfigView, riskConfig, groupsOf, configRow, haccounts, hrisk,
    hgroups, hassets, hconfigs]

/-- A transaction that changes the settings in one way when it commits. -/
lemma settings_atomically {α : Type} {p : Tx α} {f : Option Settings → Option Settings}
    (hp : postgres.Strict p)
    (h : ∀ x db', postgres.Commits p db x db' → db'.settings a = f (db.settings a)) :
    (postgres.atomically p db).2.settings a =
      if (postgres.atomically p db).1.isOk then f (db.settings a) else db.settings a := by
  cases hanswer : (postgres.atomically p db).1 with
  | error e =>
    rw [Engine.atomically_of_error hanswer]
    rfl
  | ok x => exact h x _ (hp.commits hanswer)

section

variable {f : AccountRecord → AccountRecord} (hf : ∀ r, (f r).id = r.id) {row : AccountRow}
  {g : AccountRow → AccountRow} (hg : ∀ r, db.accountRow accountId = some r.row →
    (f r).row = g r.row)

include hf hg

/-- An update of the account's row. -/
lemma settings_withAccount (hrow : db.accountRow accountId = some row) :
    ((db.withAccount accountId f).withEvents events).settings a =
      if accountId = a then (db.settings a).map fun x => { x with account := g x.account }
      else db.settings a := by
  have hrest : ((db.withAccount accountId f).withEvents events).settings a =
      ((db.withAccount accountId f).accountRow a).bind fun account =>
        (db.riskConfigView a).bind fun risk =>
          some ⟨account, risk, db.groupsOf a, (db.configRow a).map (·.settings)⟩ := rfl
  rw [hrest]
  split_ifs with ha
  · subst ha
    obtain ⟨r, rfl, hnew⟩ := accountRow_withAccount_self hf hrow
    rw [hnew, Db.settings, hrow, hg r hrow]
    cases db.riskConfigView accountId <;> rfl
  · rw [accountRow_withAccount_of_ne hf (Ne.symm ha)]
    rfl

end

/-! ### The account's row -/

lemma strict_putEquityTx (accountId : Uuid) (equity : Decimal) :
    postgres.Strict (putEquityTx accountId equity) :=
  .bind (strict_lockAccount _) fun _ => .bind (strict_sql _) fun _ => strict_sql _

lemma strict_releaseKillSwitchTx (accountId : Uuid) :
    postgres.Strict (releaseKillSwitchTx accountId) := by
  refine .bind (strict_lockAccount _) fun _ => .ite ?_ (Engine.strict_pure _)
  exact .bind (strict_sql _) fun _ => .bind (strict_sql _) fun _ => Engine.strict_pure _

lemma settings_of_putEquityTx {equity : Decimal} {u : Unit}
    (h : postgres.Commits (putEquityTx accountId equity) db u db') :
    db'.settings a = if accountId = a then (db.settings a).map (·.after (.putEquity equity))
      else db.settings a := by
  simp only [putEquityTx, Engine.commits_bind, commits_lockAccount, commits_sql,
    Statement.exec, column_bind_eq_ok, require_bind_eq_ok, commits_insertRiskEvent] at h
  obtain ⟨row, _, ⟨hrow, rfl⟩, _, _, ⟨change, ⟨y, hy, -, hexec⟩, rfl⟩, -, rfl⟩ := h
  cases hexec
  obtain rfl := Numeric.eq_roundTo_of_store hy
  exact settings_withAccount (f := fun r => { r with equity := Numeric.roundTo 10 equity })
    (g := fun row => { row with equity := Numeric.roundTo 10 equity }) (fun _ => rfl)
    (fun _ _ => rfl) hrow

/-- The status of an account that is read tells whether its kill switch is engaged. -/
lemma status_of_accountRow (hc : db.Constrained) {row : AccountRow}
    (h : db.accountRow accountId = some row) :
    row.status = .killed ↔ row.killSwitchEngaged = true := by
  obtain ⟨r, hr, rfl⟩ := Option.map_eq_some_iff.mp h
  exact (hc.accounts r (List.mem_of_find?_eq_some hr)).1

lemma settings_of_engageKillSwitchTx (hc : db.Constrained) {view : AccountView}
    (h : postgres.Commits (engageKillSwitchTx accountId) db view db') :
    db'.settings a = if accountId = a then (db.settings a).map (·.after .engageKillSwitch)
      else db.settings a := by
  obtain ⟨row, hrow, ⟨hengaged, rfl⟩ | ⟨-, rfl⟩⟩ := of_commits_engageKillSwitchTx h
  · split_ifs with ha
    · subst ha
      have hstatus := (status_of_accountRow hc hrow).mpr hengaged
      obtain ⟨status, equity, engaged⟩ := row
      obtain rfl : status = .killed := hstatus
      obtain rfl : engaged = true := hengaged
      simp only [Db.settings, hrow, Option.bind_eq_bind, Option.bind_some]
      cases db'.riskConfigView accountId <;> rfl
    · rfl
  · exact settings_withAccount (f := fun r =>
        { r with status := .killed, killSwitchEngagedAt := some db.now })
      (g := fun row => { row with status := .killed, killSwitchEngaged := true }) (fun _ => rfl)
      (fun _ _ => rfl) hrow

lemma settings_of_releaseKillSwitchTx {view : AccountView}
    (h : postgres.Commits (releaseKillSwitchTx accountId) db view db') :
    db'.settings a = if accountId = a then (db.settings a).map (·.after .releaseKillSwitch)
      else db.settings a := by
  obtain ⟨row, hrow, ⟨hengaged, rfl⟩ | ⟨hengaged, rfl⟩⟩ := of_commits_releaseKillSwitchTx h
  · split_ifs with ha
    · subst ha
      simp only [Db.settings, hrow, Option.bind_eq_bind, Option.bind_some]
      cases db'.riskConfigView accountId with
      | none => rfl
      | some risk => simp [Settings.after, AccountRow.released, hengaged]
    · rfl
  · refine settings_withAccount (f := fun r =>
        { r with status := .active, killSwitchEngagedAt := none })
      (g := AccountRow.released) (fun _ => rfl) (fun r hr => ?_) hrow
    obtain rfl := Option.some.inj (hrow.symm.trans hr)
    rw [AccountRow.released, if_pos hengaged]
    rfl

/-! ### The risk configuration -/

lemma riskConfigView_withRiskConfig_of_ne {version : ℤ} {view : RiskConfigView}
    (hne : a ≠ accountId) :
    (db.withRiskConfig accountId version view).riskConfigView a = db.riskConfigView a := by
  unfold Db.riskConfigView Db.riskConfig Db.withRiskConfig
  rw [find?_updateWhere]
  · cases hrow : db.riskConfigs.find? fun r => r.accountId = a with
    | none => rfl
    | some r =>
      have hid : r.accountId = a := by simpa using List.find?_some hrow
      simp [atVersion, hid, hne]
  · exact fun _ => rfl

lemma settings_of_putRiskConfigTx {body view : RiskConfigView}
    (h : postgres.Commits (putRiskConfigTx accountId body) db view db') :
    db'.settings a = if accountId = a then (db.settings a).map (·.after (.putRiskConfig body))
      else db.settings a := by
  obtain ⟨old, hrow, rfl, -, rfl⟩ := of_commits_change h
  have hview : (db.withRiskConfig accountId body.version
      ⟨body.config, body.version + 1⟩).riskConfigView accountId =
        some ⟨body.config.rounded, body.version + 1⟩ := riskConfigView_of_commits h
  have hrest : Db.settings { db.withRiskConfig accountId body.version
        ⟨body.config, body.version + 1⟩ with
      riskEvents := db.riskEvents ++ [ConfigChange.event accountId
        ⟨⟨old, body.version⟩, ⟨body.config, body.version + 1⟩⟩] } a =
      (db.accountRow a).bind fun account =>
        ((db.withRiskConfig accountId body.version
          ⟨body.config, body.version + 1⟩).riskConfigView a).bind fun risk =>
            some ⟨account, risk, db.groupsOf a, (db.configRow a).map (·.settings)⟩ := rfl
  rw [hrest]
  split_ifs with ha
  · subst ha
    rw [hview, Db.settings, hrow]
    cases db.accountRow accountId <;> rfl
  · rw [riskConfigView_withRiskConfig_of_ne (Ne.symm ha)]
    rfl

/-! ### The exchange configuration -/

lemma eq_of_commits_encryptOptional {encrypt : String → Except ApiError (List UInt8)}
    {text : Option String} {ct : Option (List UInt8)}
    (h : postgres.Commits (encryptOptional encrypt text) db ct db') :
    db' = db ∧ ct = encrypted encrypt text := by
  cases text with
  | none =>
    obtain ⟨rfl, rfl⟩ := Engine.commits_pure.mp h
    exact ⟨rfl, rfl⟩
  | some s =>
    simp only [encryptOptional] at h
    cases hct : encrypt s with
    | ok c =>
      rw [hct] at h
      obtain ⟨rfl, rfl⟩ := Engine.commits_pure.mp h
      exact ⟨rfl, by simp [encrypted, hct, Except.toOption]⟩
    | error e =>
      rw [hct] at h
      exact (Engine.not_commits_fail h).elim

/-- The row that is written says what the request says. -/
lemma configRow_of_commits_writeExchangeConfig {body : PutExchangeConfig}
    {keyCt secretCt : Option (List UInt8)} {newVersion : ℤ} {u : Unit}
    (h : postgres.Commits (writeExchangeConfig accountId body keyCt secretCt newVersion
      (((db.configRow accountId).map (·.version)).getD 0) (db.configRow accountId)) db u db') :
    db'.configRow accountId = some
      { accountId, mode := parseMode body.mode, testnet := body.testnet
        apiKeyCiphertext := keyCt <|> (db.configRow accountId).bind (·.apiKeyCiphertext)
        apiSecretCiphertext := secretCt <|> (db.configRow accountId).bind (·.apiSecretCiphertext)
        version := newVersion } := by
  cases hrow : db.configRow accountId with
  | none =>
    rw [hrow] at h
    simp only [writeExchangeConfig, commits_sql, Statement.exec, require_bind_eq_ok] at h
    obtain ⟨change, ⟨hunique, hexec⟩, rfl⟩ := h
    cases hexec
    have hnone : (db.exchangeConfigs.find? fun r => r.accountId = accountId) = none := hrow
    simp [Db.configRow, List.find?_append, hnone]
  | some row =>
    rw [hrow] at h
    simp only [writeExchangeConfig, commits_sql, Statement.exec, require_bind_eq_ok] at h
    obtain ⟨change, ⟨-, hexec⟩, rfl⟩ := h
    cases hexec
    have hfind : (db.exchangeConfigs.find? fun r => r.accountId = accountId) = some row := hrow
    have hid : row.accountId = accountId := by simpa using List.find?_some hrow
    simp only [Db.configRow]
    rw [find?_updateWhere]
    · simp [hfind, hid]
    · exact fun _ => rfl

lemma settings_of_putExchangeConfigTx {encrypt : String → Except ApiError (List UInt8)}
    {body : PutExchangeConfig} {view : ExchangeConfigView}
    (h : postgres.Commits (putExchangeConfigTx encrypt accountId body) db view db') :
    db'.settings a =
      if accountId = a then (db.settings a).map (·.after (.putExchangeConfig encrypt body))
      else db.settings a := by
  simp only [putExchangeConfigTx, Engine.commits_bind, commits_lockAccount,
    commits_selectExchangeConfig, commits_insertRiskEvent, Engine.commits_pure] at h
  obtain ⟨account, db₀, ⟨-, rfl⟩, row, db₁, ⟨rfl, rfl⟩, _, db₂, hguard, keyCt, db₃, hkey,
    secretCt, db₄, hsecret, _, db₅, hwrite, _, _, ⟨-, rfl⟩, -, rfl⟩ := h
  obtain rfl := of_commits_guardExchangeConfig hguard
  obtain ⟨rfl, rfl⟩ := eq_of_commits_encryptOptional hkey
  obtain ⟨rfl, rfl⟩ := eq_of_commits_encryptOptional hsecret
  have hrow : (db₅.configRow accountId).map (·.settings) =
      some (body.settings encrypt ((db₄.configRow accountId).map (·.settings))) := by
    rw [configRow_of_commits_writeExchangeConfig hwrite]
    cases hold : db₄.configRow accountId with
    | none =>
      rw [Db.configRow] at hold
      simp [PutExchangeConfig.settings, ExchangeConfigRecord.settings, hold]
    | some row =>
      rw [Db.configRow] at hold
      simp [PutExchangeConfig.settings, ExchangeConfigRecord.settings, hold]
  obtain ⟨hconfigured, -⟩ := of_commits_writeExchangeConfig hwrite
  have hothers := hconfigured.others a
  obtain ⟨exchangeConfigs, rfl⟩ := hconfigured.frame
  have hrest (events : List RiskEventRecord) :
      Db.settings { db₄ with exchangeConfigs, riskEvents := events } a =
        (db₄.accountRow a).bind fun account => (db₄.riskConfigView a).bind fun risk =>
          some ⟨account, risk, db₄.groupsOf a,
            (Db.configRow { db₄ with exchangeConfigs } a).map (·.settings)⟩ := rfl
  rw [hrest]
  split_ifs with ha
  · subst ha
    rw [hrow, Db.settings]
    cases db₄.accountRow accountId with
    | none => rfl
    | some account =>
      cases db₄.riskConfigView accountId <;> rfl
  · rw [hothers (Ne.symm ha)]
    rfl

/-! ### Every request -/

/-- A request changes the settings as it says when it succeeds, and not at all otherwise. -/
lemma settings_handle (hc : db.Constrained) (env : Surroundings) (accountId : Uuid) (r : Request)
    (a : Uuid) :
    (r.handle env accountId db).settings a =
      if r.accepted env accountId db then
        if accountId = a then (db.settings a).map (·.after r) else db.settings a
      else db.settings a := by
  -- what each transaction does when it commits
  have hcommitted {α : Type} {p : Tx α} {r : Request} (hp : postgres.Strict p)
      (h : ∀ x db', postgres.Commits p db x db' → db'.settings a =
        if accountId = a then (db.settings a).map (·.after r) else db.settings a) :
      (postgres.atomically p db).2.settings a =
        if (postgres.atomically p db).1.isOk then
          if accountId = a then (db.settings a).map (·.after r) else db.settings a
        else db.settings a :=
    settings_atomically (f := fun x => if accountId = a then x.map (·.after r) else x) hp h
  have hsame {db' : Db} {r : Request} (hr : ∀ x : Settings, x.after r = x)
      (h : db'.settings a = db.settings a) :
      db'.settings a = if r.accepted env accountId db then
        if accountId = a then (db.settings a).map (·.after r) else db.settings a
      else db.settings a := by
    simp [h, hr]
  cases r with
  | placeOrder orderId body =>
    rw [Request.handle]
    apply hsame (fun _ => rfl)
    rcases placeOrder_cases env accountId orderId body db
      with ⟨_, hdb⟩ | ⟨_, _, _, _, _, _, _, _, _, _, hdb⟩
    · rw [hdb]
      exact Db.settings_congr rfl rfl rfl rfl rfl a
    · rw [hdb]
      exact Db.settings_congr rfl rfl rfl rfl rfl a
  | evaluateTrade intent =>
    rw [Request.handle]
    apply hsame (fun _ => rfl)
    rcases evaluateTrade_cases env accountId intent db with hdb | ⟨account, cfg, -, -, hdb⟩
    · rw [hdb]
    · obtain ⟨dailyPnl, riskEvents, hframe⟩ := db.evaluatedTrade_frame env accountId intent
        (db.snapshot accountId account env.snapshotDay) cfg.1
      rw [hdb, hframe]
      exact Db.settings_congr rfl rfl rfl rfl rfl a
  | putEquity equity =>
    simp only [Request.handle, Request.accepted, putEquity]
    by_cases hneg : equity < 0
    · simp only [if_pos hneg]
      rfl
    · simp only [if_neg hneg]
      exact hcommitted (strict_putEquityTx accountId equity) fun _ _ h => settings_of_putEquityTx h
  | putRiskConfig body =>
    cases hvalid : validateRiskConfig body with
    | error e =>
      have hrequest : putRiskConfig accountId body db = (.error e, db) := by
        simp only [putRiskConfig, hvalid]
      simp only [Request.handle, Request.accepted, hrequest]
      rfl
    | ok u =>
      have hrequest : putRiskConfig accountId body db =
          postgres.atomically (putRiskConfigTx accountId body) db := by
        simp only [putRiskConfig, hvalid]
      simp only [Request.handle, Request.accepted, hrequest]
      exact hcommitted (strict_putRiskConfigTx accountId body) fun _ _ h =>
        settings_of_putRiskConfigTx h
  | engageKillSwitch =>
    exact hcommitted (strict_engageKillSwitchTx accountId) fun _ _ h =>
      settings_of_engageKillSwitchTx hc h
  | releaseKillSwitch =>
    exact hcommitted (strict_releaseKillSwitchTx accountId) fun _ _ h =>
      settings_of_releaseKillSwitchTx h
  | putExchangeConfig encrypt body =>
    simp only [Request.handle, Request.accepted, putExchangeConfig]
    by_cases hmode : body.mode ≠ "paper" ∧ body.mode ≠ "live"
    · simp only [if_pos hmode]
      rfl
    · simp only [if_neg hmode]
      exact hcommitted (strict_putExchangeConfigTx encrypt accountId body) fun _ _ h =>
        settings_of_putExchangeConfigTx h

lemma strict_createAccountTx (accountId : Uuid) (equity : Decimal) :
    postgres.Strict (createAccountTx accountId equity) :=
  .bind (strict_sql _) fun _ => .bind (strict_sql _) fun _ => .bind (strict_sql _) fun _ =>
    Engine.strict_pure _

lemma settings_of_createAccountTx (hs : db.Sound) {equity : Decimal} {view : AccountView}
    (h : postgres.Commits (createAccountTx accountId equity) db view db') :
    db'.settings a =
      if accountId = a then some (.initial (Numeric.roundTo 10 equity)) else db.settings a := by
  simp only [createAccountTx, Engine.commits_bind, commits_sql, Statement.exec,
    column_bind_eq_ok, require_bind_eq_ok, commits_insertRiskEvent, Engine.commits_pure] at h
  obtain ⟨_, _, ⟨_, ⟨y, hy, -, hnew, hexec⟩, rfl⟩, _, _, ⟨_, ⟨hnorisk, hexec'⟩, rfl⟩, _, _,
    ⟨-, rfl⟩, -, rfl⟩ := h
  cases hexec
  cases hexec'
  obtain rfl := Numeric.eq_roundTo_of_store hy
  simp only at hnorisk
  split_ifs with ha
  · subst ha
    have hnone : ¬ db.HasAccount accountId := by
      rintro ⟨r, hr, hid⟩
      exact hnew r hr hid
    have haccount : db.accounts.find? (fun r => r.id = accountId) = none := by
      simpa using hnew
    have hrisk : db.riskConfigs.find? (fun r => r.accountId = accountId) = none := by
      simpa using hnorisk
    have hconfig : db.exchangeConfigs.find? (fun r => r.accountId = accountId) = none := by
      refine List.find?_eq_none.mpr fun r hr hid => hnone ?_
      have hid : r.accountId = accountId := by simpa using hid
      exact hid ▸ hs.foreignKeys.configs r hr
    have hassets : db.correlationGroupAssets.filter (fun r => r.accountId = accountId) = [] := by
      refine List.filter_eq_nil_iff.mpr fun r hr hid => hnone ?_
      have hid : r.accountId = accountId := by simpa using hid
      exact hid ▸ hs.foreignKeys.assets r hr
    simp only [Db.settings, Db.accountRow, Db.riskConfigView, Db.riskConfig, Db.groupsOf,
      Db.configRow, List.find?_append, haccount, hrisk, hconfig, hassets]
    simp [RiskConfigRecord.placeholder, Settings.initial]
    rfl
  · simp [Db.settings, Db.accountRow, Db.riskConfigView, Db.riskConfig, Db.groupsOf,
      Db.configRow, List.find?_append, ha, RiskConfigRecord.placeholder]

/-- A new account has the settings of its request, and the others keep theirs. -/
lemma settings_createAccount (hs : db.Sound) (accountId : Uuid) (equity : Option Decimal) (a : Uuid) :
    (createAccount accountId equity db).2.settings a =
      if (createAccount accountId equity db).1.isOk then
        if accountId = a then some (.initial (Numeric.roundTo 10 (equity.getD 0)))
        else db.settings a
      else db.settings a := by
  unfold createAccount
  by_cases hneg : equity.getD 0 < 0
  · simp only [if_pos hneg]
    rfl
  · simp only [if_neg hneg]
    exact settings_atomically
      (f := fun x => if accountId = a then some (.initial (Numeric.roundTo 10 (equity.getD 0))) else x)
      (strict_createAccountTx accountId _) fun _ _ h => settings_of_createAccountTx hs h

/-- New groups are those of the request, and other accounts keep theirs. -/
lemma settings_putCorrelationGroups (hc : db.Constrained) {groups : List (Uuid × CorrelationGroupDef)}
    (hc' : (putCorrelationGroups accountId groups db).2.Constrained) (a : Uuid) :
    (putCorrelationGroups accountId groups db).2.settings a =
      if (putCorrelationGroups accountId groups db).1.isOk then
        if accountId = a then
          (db.settings a).map fun x => { x with groups := groupListing (groups.map (·.2)) }
        else db.settings a
      else db.settings a := by
  cases hchecked : checkGroups [] (groups.map (·.2)) with
  | error e =>
    have hrequest : putCorrelationGroups accountId groups db = (.error e, db) := by
      simp only [putCorrelationGroups, hchecked]
    rw [hrequest]
    rfl
  | ok u =>
    have hrequest : putCorrelationGroups accountId groups db =
        postgres.atomically (putCorrelationGroupsTx accountId groups) db := by
      simp only [putCorrelationGroups, hchecked]
    rw [hrequest] at hc' ⊢
    cases hanswer : (postgres.atomically (putCorrelationGroupsTx accountId groups) db).1 with
    | error e =>
      rw [Engine.atomically_of_error hanswer]
      rfl
    | ok u =>
      have hcommit := (strict_putCorrelationGroupsTx accountId groups).commits hanswer
      obtain ⟨row, riskEvents, -, hdb⟩ := eq_of_commits_putCorrelationGroupsTx hcommit
      rw [hdb] at hc' ⊢
      have hids := hc'.groupIds
      have hrest : Db.settings { db.withGroups accountId groups with riskEvents } a =
          (db.accountRow a).bind fun account => (db.riskConfigView a).bind fun risk =>
            some ⟨account, risk, (db.withGroups accountId groups).groupsOf a,
              (db.configRow a).map (·.settings)⟩ := rfl
      rw [hrest]
      simp only [Except.isOk, Except.toBool, if_true]
      split_ifs with ha
      · subst ha
        rw [groupsOf_withGroups hc hids hchecked, Db.settings]
        cases db.accountRow accountId with
        | none => rfl
        | some account => cases db.riskConfigView accountId <;> rfl
      · rw [groupsOf_withGroups_of_ne hc hids (Ne.symm ha)]
        rfl

/-! ### Every step -/

/-- Actions that succeed change the settings as they say, and nothing else changes them. -/
theorem settings_of_serviceStep {s s' : Server} {act : ServiceAction} (hs : s.Sound)
    (h : s.serviceStep act = some s') (a : Uuid) :
    s'.db.settings a =
      if act.accepted s.db then Settings.apply a (s.db.settings a) act else s.db.settings a := by
  have hc' := constrained_of_serviceStep h hs.db.constrained
  cases act with
  | createAccount accountId equity =>
    cases h
    exact settings_createAccount hs.db accountId equity a
  | putCorrelationGroups accountId groups =>
    cases h
    exact settings_putCorrelationGroups hs.db.constrained hc' a
  | act act =>
    cases act with
    | fault i supervisor n =>
      cases serviceStep_of_step h with
      | fault => rfl
    | act act =>
      cases act with
      | request env accountId r =>
        cases h
        exact settings_handle hs.db.constrained env accountId r a
      | tick | enqueueCancel | claim | crash =>
        cases serviceStep_of_step h with
        | server h =>
          cases h with
          | _ => exact Db.settings_congr rfl rfl rfl rfl rfl a
      | advance =>
        cases serviceStep_of_step h with
        | server h =>
          cases h with
          | advance _ hworker =>
            obtain ⟨_, _, _, _, _, hdb⟩ := hworker.frame
            subst hdb
            exact Db.settings_congr rfl rfl rfl rfl rfl a

end

end Confluence
