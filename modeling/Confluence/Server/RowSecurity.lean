import Confluence.Library.Hoare
import Confluence.Server.Confinement
import Confluence.Server.TableSteps

/-!
# Row-level security

Statements of the role `confluence_app`, under the policies `tenant_isolation`: a transaction sees and
changes the rows of the account in its setting `app.account_id` only, and inserts no others. Unique
indexes and foreign keys look at all rows.
-/

namespace Confluence

/-- The rows that the policies show under the setting, none while it is unset. -/
def Db.visible (tenant : Option Uuid) (db : Db) : Db :=
  match tenant with
  | some accountId => db.rowsOf accountId
  | none => { Db.empty with now := db.now }

/-- `WITH CHECK` of the policies: a new row belongs to the account in the setting. -/
def checkPolicy (tenant : Option Uuid) (accountId : Uuid) : Except SqlError Unit :=
  require (tenant = some accountId) (.raised "tenant_isolation")

/-- A statement under the policies. -/
def Statement.execAs {β : Type} (tenant : Option Uuid) (q : Statement β) (db : Db) :
    Except SqlError (β × (Db → Db)) :=
  let shown (accountId : Uuid) : Bool := decide (tenant = some accountId)
  let visible := db.visible tenant
  match q with
  | .selectAccountForUpdate accountId => (Statement.selectAccountForUpdate accountId).exec visible
  | .selectRiskConfig accountId => (Statement.selectRiskConfig accountId).exec visible
  | .selectOpenPositions accountId => (Statement.selectOpenPositions accountId).exec visible
  | .selectCorrelationGroups accountId => (Statement.selectCorrelationGroups accountId).exec visible
  | .selectDailyPnl accountId today => (Statement.selectDailyPnl accountId today).exec visible
  | .selectExchangeConfig accountId => (Statement.selectExchangeConfig accountId).exec visible
  | .countOpenOrders accountId => (Statement.countOpenOrders accountId).exec visible
  | .countOpenPositions accountId => (Statement.countOpenPositions accountId).exec visible
  | .selectOrderForUpdate accountId orderId =>
    (Statement.selectOrderForUpdate accountId orderId).exec visible
  | .selectFills accountId orderId => (Statement.selectFills accountId orderId).exec visible
  | .selectOpenPosition accountId symbol => (Statement.selectOpenPosition accountId symbol).exec visible
  | .selectRiskEvents columns accountId before limit =>
    (Statement.selectRiskEvents columns accountId before limit).exec visible
  | .insertAccount id equity => do
    checkPolicy tenant id
    (Statement.insertAccount id equity).exec db
  | .insertRiskConfig accountId => do
    checkPolicy tenant accountId
    (Statement.insertRiskConfig accountId).exec db
  | .insertCorrelationGroup id accountId name => do
    checkPolicy tenant accountId
    (Statement.insertCorrelationGroup id accountId name).exec db
  | .insertCorrelationGroupAsset groupId accountId symbol => do
    checkPolicy tenant accountId
    (Statement.insertCorrelationGroupAsset groupId accountId symbol).exec db
  | .upsertCircuitBreaker accountId today => do
    -- a row of the same day in conflict is one of the same account
    checkPolicy tenant accountId
    (Statement.upsertCircuitBreaker accountId today).exec db
  | .insertExchangeConfig row => do
    checkPolicy tenant row.accountId
    (Statement.insertExchangeConfig row).exec db
  | .insertOrder id accountId clientOrderId symbol side orderType quantity price exchangeMode => do
    checkPolicy tenant accountId
    (Statement.insertOrder id accountId clientOrderId symbol side orderType quantity price
      exchangeMode).exec db
  | .insertFill accountId orderId fill => do
    checkPolicy tenant accountId
    (Statement.insertFill accountId orderId fill).exec db
  | .insertCommand accountId commandType exchangeMode idempotencyKey payload => do
    checkPolicy tenant accountId
    (Statement.insertCommand accountId commandType exchangeMode idempotencyKey payload).exec db
  | .insertPosition accountId symbol side quantity avgEntryPrice => do
    checkPolicy tenant accountId
    (Statement.insertPosition accountId symbol side quantity avgEntryPrice).exec db
  | .insertRiskEvent accountId eventType payload => do
    checkPolicy tenant accountId
    (Statement.insertRiskEvent accountId eventType payload).exec db
  | .updateEquity accountId equity => do
    let equity ← column 30 10 equity
    let p (r : AccountRecord) := decide (r.id = accountId) && shown r.id
    let f (r : AccountRecord) : AccountRecord := { r with equity }
    require (∀ r ∈ db.accounts.filter p, (f r).Checked) (.checkViolation "accounts")
    return ((), fun db => { db with accounts := updateWhere p f db.accounts })
  | .engageKillSwitch accountId => do
    let p (r : AccountRecord) := decide (r.id = accountId) && shown r.id
    let f (r : AccountRecord) : AccountRecord :=
      { r with status := .killed, killSwitchEngagedAt := some db.now }
    require (∀ r ∈ db.accounts.filter p, (f r).Checked) (.checkViolation "accounts")
    return ((), fun db => { db with accounts := updateWhere p f db.accounts })
  | .releaseKillSwitch accountId => do
    let p (r : AccountRecord) := decide (r.id = accountId) && shown r.id
    let f (r : AccountRecord) : AccountRecord := { r with status := .active, killSwitchEngagedAt := none }
    require (∀ r ∈ db.accounts.filter p, (f r).Checked) (.checkViolation "accounts")
    return ((), fun db => { db with accounts := updateWhere p f db.accounts })
  | .updateRiskConfig accountId config newVersion currentVersion => do
    let dailyMaxLossPct ← column 8 4 config.dailyMaxLossPct
    let maxPositionPctEquity ← column 8 4 config.maxPositionPctEquity
    let maxCorrelatedExposurePct ← column 8 4 config.maxCorrelatedExposurePct
    let p (r : RiskConfigRecord) :=
      decide (r.accountId = accountId) && decide (r.version = currentVersion) && shown r.accountId
    let f (r : RiskConfigRecord) : RiskConfigRecord :=
      { r with
        config := {
          dailyMaxLossPct
          maxPositionPctEquity
          maxConcurrentPositions := config.maxConcurrentPositions
          maxCorrelatedExposurePct }
        version := newVersion }
    require (∀ r ∈ db.riskConfigs.filter p, (f r).Checked) (.checkViolation "risk_configs")
    return ((db.riskConfigs.filter p).length,
      fun db => { db with riskConfigs := updateWhere p f db.riskConfigs })
  | .deleteCorrelationGroups accountId =>
    let p (g : CorrelationGroupRecord) := decide (g.accountId = accountId) && shown g.accountId
    .ok ((), fun db => { db with
      correlationGroups := db.correlationGroups.filter fun g => !p g
      correlationGroupAssets := db.correlationGroupAssets.filter fun a =>
        !db.correlationGroups.any fun g => p g &&
          decide (g.id = a.groupId) && decide (g.accountId = a.accountId) })
  | .updateExchangeConfig accountId mode testnet keyCt secretCt newVersion currentVersion => do
    let p (r : ExchangeConfigRecord) :=
      decide (r.accountId = accountId) && decide (r.version = currentVersion) && shown r.accountId
    let f (r : ExchangeConfigRecord) : ExchangeConfigRecord :=
      { r with
        mode
        testnet
        apiKeyCiphertext := keyCt <|> r.apiKeyCiphertext
        apiSecretCiphertext := secretCt <|> r.apiSecretCiphertext
        version := newVersion }
    -- the trigger runs with the rights of its invoker
    require (∀ r ∈ db.exchangeConfigs.filter p, modeSwitchAllowed visible r mode)
      (.raised "exchange_configs_mode_switch_guard")
    return ((), fun db => { db with exchangeConfigs := updateWhere p f db.exchangeConfigs })
  | .updateOrder accountId orderId status filledQuantity => do
    let filledQuantity ← column 30 10 filledQuantity
    let p (r : OrderRecord) :=
      decide (r.id = orderId) && decide (r.accountId = accountId) && shown r.accountId
    let f (r : OrderRecord) : OrderRecord := { r with status, filledQuantity }
    require (∀ r ∈ db.orders.filter p, (f r).Checked) (.checkViolation "orders")
    return ((), fun db => { db with orders := updateWhere p f db.orders })
  | .claimCommands limit leaseSeconds locked =>
    let ids := visible.claimCandidates limit locked
    let p (r : CommandRecord) := ids.contains r.id && shown r.accountId
    let lease (r : CommandRecord) : CommandRecord :=
      { r with status := .leased, leasedUntil := some (db.now + leaseSeconds) }
    .ok ((db.exchangeCommands.filter p).map (·.claimed),
      fun db => { db with exchangeCommands := updateWhere p lease db.exchangeCommands })
  | .updateCommandStatus id status =>
    .ok ((), fun db => { db with
      exchangeCommands := updateWhere (fun r => decide (r.id = id) && shown r.accountId)
        (fun r => { r with status }) db.exchangeCommands })
  | .requeueCommand id =>
    .ok ((), fun db => { db with
      exchangeCommands := updateWhere (fun r => decide (r.id = id) && shown r.accountId)
        (fun r => { r with status := .pending, leasedUntil := none, attempts := r.attempts + 1 })
        db.exchangeCommands })
  | .closePosition id => do
    let p (r : PositionRecord) := decide (r.id = id) && shown r.accountId
    let f (r : PositionRecord) : PositionRecord :=
      { r with status := .closed, quantity := 0, closedAt := some db.now }
    require (∀ r ∈ db.positions.filter p, (f r).Checked) (.checkViolation "positions")
    return ((), fun db => { db with positions := updateWhere p f db.positions })
  | .updatePosition id side quantity avgEntryPrice => do
    let quantity ← column 30 10 quantity
    let avgEntryPrice ← column 30 10 avgEntryPrice
    let p (r : PositionRecord) := decide (r.id = id) && shown r.accountId
    let f (r : PositionRecord) : PositionRecord := { r with side, quantity, avgEntryPrice }
    require (∀ r ∈ db.positions.filter p, (f r).Checked) (.checkViolation "positions")
    return ((), fun db => { db with positions := updateWhere p f db.positions })

/-- The database as a transaction of `tenant_tx` finds it. -/
def postgresAs (tenant : Option Uuid) : Engine Statement Db SqlError where
  exec := Statement.execAs tenant
  aborted := .transactionAborted

/-! ### Changes -/

section

variable {tenant : Option Uuid} {accountId : Uuid} {db db' : Db} {β : Type}

lemma openOrders_rowsOf : (db.rowsOf accountId).openOrders accountId = db.openOrders accountId := by
  simp only [Db.openOrders, Db.rowsOf, List.filter_filter]
  refine List.filter_congr fun r _ => ?_
  cases decide (r.accountId = accountId) <;> simp

lemma openPositions_rowsOf :
    (db.rowsOf accountId).openPositions accountId = db.openPositions accountId := by
  simp only [Db.openPositions, Db.rowsOf, List.filter_filter]
  refine List.filter_congr fun r _ => ?_
  cases decide (r.accountId = accountId) <;> simp

/-- The trigger sees what concerns the row. -/
lemma modeSwitchAllowed_visible {r : ExchangeConfigRecord} {mode : ExchangeMode}
    (h : tenant = some r.accountId) :
    modeSwitchAllowed (db.visible tenant) r mode ↔ modeSwitchAllowed db r mode := by
  simp only [modeSwitchAllowed, h, Db.visible, openOrders_rowsOf, openPositions_rowsOf]

/-- Rows that an update picks out among those shown. -/
lemma own_of_shown {ρ : Type} {rows : List ρ} {account : ρ → Uuid} {p : ρ → Bool} :
    ∀ r ∈ rows, (p r && decide (tenant = some (account r))) = true → tenant = some (account r) := by
  intro r _ hr
  exact of_decide_eq_true (Bool.and_eq_true_iff.mp hr).2

/-- A statement that succeeds under the policies changes rows of the account in the setting. -/
theorem Statement.tableStep_as {q : Statement β} {b : β} {change : Db → Db}
    (h : q.execAs tenant db = .ok (b, change)) :
    TableStep (fun a => tenant = some a) db (change db) := by
  cases q with
  | selectAccountForUpdate | selectRiskConfig | selectOpenPositions | selectCorrelationGroups
  | selectDailyPnl | selectExchangeConfig | countOpenOrders | countOpenPositions
  | selectOrderForUpdate | selectFills | selectOpenPosition | selectRiskEvents =>
    cases h
    exact .unchanged
  | insertAccount | insertRiskConfig | insertCorrelationGroup | insertCorrelationGroupAsset
  | upsertCircuitBreaker | insertExchangeConfig | insertOrder | insertFill | insertCommand
  | insertPosition | insertRiskEvent =>
    obtain ⟨hpolicy, h⟩ := require_bind_eq_ok.mp h
    refine Statement.tableStep ?_ h
    exact hpolicy
  | updateEquity accountId equity =>
    simp only [Statement.execAs, require_bind_eq_ok, column_bind_eq_ok] at h
    obtain ⟨equity, -, hchecked, h⟩ := h
    cases h
    exact .accountsUpdated own_of_shown hchecked fun _ => rfl
  | engageKillSwitch accountId | releaseKillSwitch accountId =>
    simp only [Statement.execAs, require_bind_eq_ok] at h
    obtain ⟨hchecked, h⟩ := h
    cases h
    exact .accountsUpdated own_of_shown hchecked fun _ => rfl
  | updateRiskConfig accountId config newVersion currentVersion =>
    simp only [Statement.execAs, require_bind_eq_ok, column_bind_eq_ok] at h
    obtain ⟨_, -, _, -, _, -, hchecked, h⟩ := h
    cases h
    exact .riskConfigsUpdated own_of_shown hchecked fun _ => rfl
  | deleteCorrelationGroups accountId =>
    cases h
    by_cases htenant : tenant = some accountId
    · have hshown (g : CorrelationGroupRecord) :
          (decide (g.accountId = accountId) && decide (tenant = some g.accountId)) =
            decide (g.accountId = accountId) := by
        by_cases hg : g.accountId = accountId <;> simp [hg, htenant]
      simp only [hshown]
      have hdelete : TableStep (fun a => tenant = some a) db _ := .groupsDeleted htenant
      simpa only [ne_eq, decide_not] using hdelete
    · have hnone (g : CorrelationGroupRecord) :
          (decide (g.accountId = accountId) && decide (tenant = some g.accountId)) = false := by
        by_cases hg : g.accountId = accountId <;> simp [hg, htenant]
      have hany : (db.correlationGroups.any fun _ => false) = false := by simp
      simp only [hnone, Bool.false_and, hany, Bool.not_false, List.filter_true]
      exact .unchanged
  | updateExchangeConfig accountId mode testnet keyCt secretCt newVersion currentVersion =>
    simp only [Statement.execAs, require_bind_eq_ok] at h
    obtain ⟨hmode, h⟩ := h
    cases h
    refine .configsUpdated own_of_shown (fun _ => rfl) fun r hr hp => ?_
    have hshown : tenant = some r.accountId := of_decide_eq_true (Bool.and_eq_true_iff.mp hp).2
    exact (modeSwitchAllowed_visible hshown).mp (hmode r (List.mem_filter.mpr ⟨hr, hp⟩))
  | updateOrder accountId orderId status filledQuantity =>
    simp only [Statement.execAs, require_bind_eq_ok, column_bind_eq_ok] at h
    obtain ⟨q, -, hchecked, h⟩ := h
    cases h
    exact .ordersUpdated own_of_shown hchecked
  | claimCommands limit leaseSeconds locked =>
    cases h
    exact .commandsUpdated own_of_shown fun _ => ⟨rfl, rfl, rfl, le_rfl⟩
  | updateCommandStatus id status =>
    cases h
    exact .commandsUpdated own_of_shown fun _ => ⟨rfl, rfl, rfl, le_rfl⟩
  | requeueCommand id =>
    cases h
    exact .commandsUpdated own_of_shown fun _ => ⟨rfl, rfl, rfl, Nat.le_succ _⟩
  | closePosition id =>
    simp only [Statement.execAs, require_bind_eq_ok] at h
    obtain ⟨hchecked, h⟩ := h
    cases h
    simp only [updateWhere_closed hchecked]
    exact .unchanged
  | updatePosition id side quantity avgEntryPrice =>
    simp only [Statement.execAs, require_bind_eq_ok, column_bind_eq_ok] at h
    obtain ⟨quantity, hquantity, price, hprice, hchecked, h⟩ := h
    cases h
    exact .positionsUpdated own_of_shown
      ⟨Numeric.fits_of_store hquantity, Numeric.fits_of_store hprice⟩ hchecked

end

/-! ### Whose rows -/

namespace Table

variable {ρ : Type} (t : Table ρ) {b : Uuid} {db : Db}

/-- A table in which the account's rows stay. -/
lemma rowsOf_set_other {l : List ρ} (h : l.filter (fun r => decide (t.account r = b)) =
    (t.get db).filter fun r => decide (t.account r = b)) : (t.set l db).rowsOf b = db.rowsOf b := by
  rw [t.rowsOf_set, h, ← t.get_rowsOf, t.set_get]

lemma rowsOf_append_other {r : ρ} (h : t.account r ≠ b) :
    (t.set (t.get db ++ [r]) db).rowsOf b = db.rowsOf b := by
  apply t.rowsOf_set_other
  simp [List.filter_append, h]

lemma rowsOf_updateWhere_other {p : ρ → Bool} {f : ρ → ρ} (hf : ∀ r, t.account (f r) = t.account r)
    (hp : ∀ r ∈ t.get db, p r = true → t.account r ≠ b) :
    (t.set (updateWhere p f (t.get db)) db).rowsOf b = db.rowsOf b := by
  apply t.rowsOf_set_other
  rw [filter_updateWhere fun r => by rw [hf]]
  refine updateWhere_eq_self fun r hr => ?_
  obtain ⟨hmem, hacc⟩ := List.mem_filter.mp hr
  by_contra hpr
  exact hp r hmem (by simpa using hpr) (of_decide_eq_true hacc)

end Table

section

variable {own : Uuid → Prop} {db db' : Db}

/-- The rows of every other account stay as they are. -/
lemma TableStep.rowsOf_other (h : TableStep own db db') {b : Uuid} (hb : ¬ own b) :
    db'.rowsOf b = db.rowsOf b := by
  have hne {a : Uuid} (ha : own a) : a ≠ b := by
    rintro rfl
    exact hb ha
  cases h with
  | unchanged => rfl
  | accountInserted hown => exact Table.accounts.rowsOf_append_other (hne hown)
  | riskConfigInserted hown => exact Table.riskConfigs.rowsOf_append_other (hne hown)
  | groupInserted hown => exact Table.groups.rowsOf_append_other (hne hown)
  | assetInserted hown => exact Table.assets.rowsOf_append_other (hne hown)
  | dayInserted hown => exact Table.dailyPnl.rowsOf_append_other (hne hown)
  | configInserted hown => exact Table.exchangeConfigs.rowsOf_append_other (hne hown)
  | orderInserted hown => exact Table.orders.rowsOf_append_other (hne hown)
  | fillInserted hown => exact Table.orderFills.rowsOf_append_other (hne hown)
  | commandInserted hown => exact Table.exchangeCommands.rowsOf_append_other (hne hown)
  | positionInserted hown => exact Table.positions.rowsOf_append_other (hne hown)
  | eventInserted hown => exact Table.riskEvents.rowsOf_append_other (hne hown)
  | accountsUpdated hown _ hkey =>
    exact Table.accounts.rowsOf_updateWhere_other hkey fun r hr hp => hne (hown r hr hp)
  | riskConfigsUpdated hown _ hkey =>
    exact Table.riskConfigs.rowsOf_updateWhere_other hkey fun r hr hp => hne (hown r hr hp)
  | daysTripped hown =>
    refine Table.dailyPnl.rowsOf_updateWhere_other ?_ fun r hr hp => hne (hown r hr hp)
    intro r
    rfl
  | configsUpdated hown hkey _ =>
    exact Table.exchangeConfigs.rowsOf_updateWhere_other hkey fun r hr hp => hne (hown r hr hp)
  | ordersUpdated hown _ =>
    refine Table.orders.rowsOf_updateWhere_other ?_ fun r hr hp => hne (hown r hr hp)
    intro r
    rfl
  | commandsUpdated hown hkey =>
    refine Table.exchangeCommands.rowsOf_updateWhere_other ?_ fun r hr hp => hne (hown r hr hp)
    intro r
    exact congrArg ClaimedCommand.accountId (hkey r).1
  | positionsUpdated hown _ _ =>
    refine Table.positions.rowsOf_updateWhere_other ?_ fun r hr hp => hne (hown r hr hp)
    intro r
    rfl
  | @groupsDeleted accountId hown =>
    exact (db.confined_deleteGroups accountId).other b (hne hown).symm

/-- A change to no account's rows is none. -/
lemma TableStep.eq_of_none (h : TableStep own db db') (hnone : ∀ a, ¬ own a) : db' = db := by
  have hsame {ρ : Type} {rows : List ρ} {account : ρ → Uuid} {p : ρ → Bool} {f : ρ → ρ}
      (hown : ∀ r ∈ rows, p r = true → own (account r)) : updateWhere p f rows = rows := by
    refine updateWhere_eq_self fun r hr => ?_
    by_contra hp
    exact hnone _ (hown r hr (by simpa using hp))
  cases h with
  | unchanged => rfl
  | accountInserted hown | riskConfigInserted hown | groupsDeleted hown | groupInserted hown
  | assetInserted hown | dayInserted hown | configInserted hown | orderInserted hown
  | fillInserted hown | commandInserted hown | positionInserted hown | eventInserted hown =>
    exact (hnone _ hown).elim
  | accountsUpdated hown | riskConfigsUpdated hown | daysTripped hown | configsUpdated hown
  | ordersUpdated hown | commandsUpdated hown | positionsUpdated hown => simp only [hsame hown]

end

/-! ### Statements about the account in the setting -/

section

variable {accountId : Uuid} {db : Db} {β : Type}

lemma checkPolicy_own (accountId : Uuid) : checkPolicy (some accountId) accountId = .ok () := by
  simp [checkPolicy, require]

/-- A condition that implies the policy. -/
lemma and_shown {c : Bool} {a : Uuid} (h : c = true → a = accountId) :
    (c && decide (some accountId = some a)) = c := by
  cases c with
  | false => rfl
  | true => simp [h rfl]

lemma updateWhere_congr {ρ : Type} {rows : List ρ} {p p' : ρ → Bool} {f : ρ → ρ}
    (h : ∀ r ∈ rows, p r = p' r) : updateWhere p f rows = updateWhere p' f rows :=
  List.map_congr_left fun r hr => by rw [h r hr]

/-- The rows that are shown, as far as a search of the account is concerned. -/
lemma find?_shown {ρ : Type} {rows : List ρ} {account : ρ → Uuid} {p : ρ → Bool}
    (h : ∀ r, p r = true → account r = accountId) :
    (rows.filter fun r => decide (account r = accountId)).find? p = rows.find? p := by
  rw [List.find?_filter]
  refine List.find?_congr fun r _ => ?_
  cases hp : p r with
  | false => simp
  | true => simp [h r hp]

lemma filter_shown {ρ : Type} {rows : List ρ} {account : ρ → Uuid} {p : ρ → Bool}
    (h : ∀ r, p r = true → account r = accountId) :
    (rows.filter fun r => decide (account r = accountId)).filter p = rows.filter p := by
  rw [List.filter_filter]
  refine List.filter_congr fun r _ => ?_
  cases hp : p r with
  | false => simp
  | true => simp [h r hp]

/-- The groups of the account's symbols are shown with the symbols. -/
lemma correlationGroups_visible (hk : db.Keyed) :
    (Statement.selectCorrelationGroups accountId).exec (db.rowsOf accountId) =
      (Statement.selectCorrelationGroups accountId).exec db := by
  simp only [Statement.exec, Db.rowsOf, List.filter_filter, Bool.and_self]
  have hrows : (db.correlationGroupAssets.filter fun a => decide (a.accountId = accountId)).filterMap
      (fun a => ((db.correlationGroups.filter fun g => decide (g.accountId = accountId)).find?
        fun g => g.id = a.groupId).map fun g => (a.symbol, g.name)) =
      (db.correlationGroupAssets.filter fun a => decide (a.accountId = accountId)).filterMap
        fun a => (db.correlationGroups.find? fun g => g.id = a.groupId).map
          fun g => (a.symbol, g.name) := by
    refine List.filterMap_congr fun a ha => ?_
    obtain ⟨hmem, hacc⟩ := List.mem_filter.mp ha
    have hacc := of_decide_eq_true hacc
    rw [List.find?_filter]
    congr 1
    refine List.find?_congr fun g hg => ?_
    by_cases hid : g.id = a.groupId
    · simp [hid, hk.group_own hmem hg hid, hacc]
    · simp [hid]
  rw [hrows]

/-- A statement about rows of the account answers under the policies as it does without them. -/
theorem Statement.answer_as {q : Statement β} (hk : db.Keyed)
    (hq : q.Touches (fun a => a = accountId) db) :
    (postgresAs (some accountId)).answer q db = postgres.answer q db := by
  show (q.execAs (some accountId) db).map _ = (q.exec db).map _
  cases q with
  | selectAccountForUpdate a =>
    obtain rfl : a = accountId := hq
    simp only [Statement.execAs, Statement.exec, Db.visible, Db.rowsOf]
    rw [find?_shown fun r hr => of_decide_eq_true hr]
  | selectRiskConfig a =>
    obtain rfl : a = accountId := hq
    simp only [Statement.execAs, Statement.exec, Db.visible, Db.rowsOf]
    rw [find?_shown fun r hr => of_decide_eq_true hr]
  | selectExchangeConfig a =>
    obtain rfl : a = accountId := hq
    simp only [Statement.execAs, Statement.exec, Db.visible, Db.rowsOf]
    rw [find?_shown fun r hr => of_decide_eq_true hr]
  | selectDailyPnl a today =>
    obtain rfl : a = accountId := hq
    simp only [Statement.execAs, Statement.exec, Db.visible, Db.rowsOf]
    rw [find?_shown fun r hr => of_decide_eq_true (Bool.and_eq_true_iff.mp hr).1]
  | selectOrderForUpdate a orderId =>
    obtain rfl : a = accountId := hq
    simp only [Statement.execAs, Statement.exec, Db.visible, Db.rowsOf, Db.order?]
    rw [find?_shown fun r hr => of_decide_eq_true (Bool.and_eq_true_iff.mp hr).2]
  | selectOpenPositions a =>
    obtain rfl : a = accountId := hq
    simp only [Statement.execAs, Statement.exec, Db.visible, openPositions_rowsOf]
  | countOpenPositions a =>
    obtain rfl : a = accountId := hq
    simp only [Statement.execAs, Statement.exec, Db.visible, openPositions_rowsOf]
  | countOpenOrders a =>
    obtain rfl : a = accountId := hq
    simp only [Statement.execAs, Statement.exec, Db.visible, openOrders_rowsOf]
  | selectCorrelationGroups a =>
    obtain rfl : a = accountId := hq
    rw [Statement.execAs, Db.visible, correlationGroups_visible hk]
  | selectFills a orderId =>
    obtain rfl : a = accountId := hq
    simp only [Statement.execAs, Statement.exec, Db.visible, Db.rowsOf, Db.fillsOf]
    rw [filter_shown fun r hr => of_decide_eq_true (Bool.and_eq_true_iff.mp hr).1]
  | selectOpenPosition a symbol =>
    obtain rfl : a = accountId := hq
    simp only [Statement.execAs, Statement.exec, Db.visible, Db.rowsOf, Db.openOn]
    rw [filter_shown fun r hr => of_decide_eq_true
      (Bool.and_eq_true_iff.mp (Bool.and_eq_true_iff.mp hr).1).1]
  | selectRiskEvents columns a before limit =>
    obtain rfl : a = accountId := hq
    simp only [Statement.execAs, Statement.exec, Db.visible, Db.rowsOf, Db.riskEventPage,
      List.filter_filter, Bool.and_self]
  | insertAccount a | insertRiskConfig a | upsertCircuitBreaker a =>
    obtain rfl : a = accountId := hq
    rw [Statement.execAs, checkPolicy_own]
    rfl
  | insertCorrelationGroup id a | insertCorrelationGroupAsset id a | insertOrder id a =>
    obtain rfl : a = accountId := hq
    rw [Statement.execAs, checkPolicy_own]
    rfl
  | insertFill a | insertCommand a | insertPosition a | insertRiskEvent a =>
    obtain rfl : a = accountId := hq
    rw [Statement.execAs, checkPolicy_own]
    rfl
  | insertExchangeConfig row =>
    obtain rfl : row.accountId = accountId := hq
    rw [Statement.execAs, checkPolicy_own]
    rfl
  | updateEquity a | engageKillSwitch a | releaseKillSwitch a =>
    obtain rfl : a = accountId := hq
    simp only [Statement.execAs, Statement.exec, and_shown of_decide_eq_true]
  | updateRiskConfig a config newVersion currentVersion =>
    obtain rfl : a = accountId := hq
    have hp (r : RiskConfigRecord) : (decide (r.accountId = a) && decide (r.version = currentVersion) &&
        decide (some a = some r.accountId)) =
          (decide (r.accountId = a) && decide (r.version = currentVersion)) :=
      and_shown fun h => of_decide_eq_true (Bool.and_eq_true_iff.mp h).1
    simp only [Statement.execAs, Statement.exec, hp]
  | deleteCorrelationGroups a =>
    obtain rfl : a = accountId := hq
    simp only [Statement.execAs, Statement.exec, and_shown of_decide_eq_true, ne_eq, decide_not]
  | updateExchangeConfig a mode testnet keyCt secretCt newVersion currentVersion =>
    obtain rfl : a = accountId := hq
    have hp (r : ExchangeConfigRecord) :
        (decide (r.accountId = a) && decide (r.version = currentVersion) &&
          decide (some a = some r.accountId)) =
            (decide (r.accountId = a) && decide (r.version = currentVersion)) :=
      and_shown fun h => of_decide_eq_true (Bool.and_eq_true_iff.mp h).1
    have hguard : (∀ r ∈ db.exchangeConfigs.filter fun r =>
          decide (r.accountId = a) && decide (r.version = currentVersion),
          modeSwitchAllowed (db.visible (some a)) r mode) ↔
        ∀ r ∈ db.exchangeConfigs.filter fun r =>
          decide (r.accountId = a) && decide (r.version = currentVersion),
          modeSwitchAllowed db r mode := by
      refine forall₂_congr fun r hr => modeSwitchAllowed_visible ?_
      rw [of_decide_eq_true (Bool.and_eq_true_iff.mp (List.mem_filter.mp hr).2).1]
    simp only [Statement.execAs, Statement.exec, hp, hguard]
  | updateOrder a orderId status filledQuantity =>
    obtain rfl : a = accountId := hq
    have hp (r : OrderRecord) : (decide (r.id = orderId) && decide (r.accountId = a) &&
        decide (some a = some r.accountId)) = (decide (r.id = orderId) && decide (r.accountId = a)) :=
      and_shown fun h => of_decide_eq_true (Bool.and_eq_true_iff.mp h).2
    simp only [Statement.execAs, Statement.exec, hp]
  | claimCommands limit leaseSeconds locked =>
    have hall : (db.rowsOf accountId).exchangeCommands = db.exchangeCommands :=
      List.filter_eq_self.mpr fun r hr => decide_eq_true (hq r hr)
    have hids : (db.rowsOf accountId).claimCandidates limit locked =
        db.claimCandidates limit locked := by
      rw [Db.claimCandidates, hall]
      rfl
    have hp : ∀ r ∈ db.exchangeCommands, ((db.claimCandidates limit locked).contains r.id &&
        decide (some accountId = some r.accountId)) =
          (db.claimCandidates limit locked).contains r.id :=
      fun r hr => and_shown fun _ => hq r hr
    simp only [Statement.execAs, Statement.exec, Db.visible, hids, Except.map, List.filter_congr hp,
      updateWhere_congr hp]
  | updateCommandStatus id status | requeueCommand id =>
    have hp : ∀ r ∈ db.exchangeCommands,
        (decide (r.id = id) && decide (some accountId = some r.accountId)) = decide (r.id = id) :=
      fun r hr => and_shown fun h => hq r hr (of_decide_eq_true h)
    simp only [Statement.execAs, Statement.exec, Except.map, updateWhere_congr hp]
  | closePosition id =>
    have hp : ∀ r ∈ db.positions,
        (decide (r.id = id) && decide (some accountId = some r.accountId)) = decide (r.id = id) :=
      fun r hr => and_shown fun h => hq r hr (of_decide_eq_true h)
    simp only [Statement.execAs, Statement.exec, List.filter_congr hp, require]
    split_ifs
    · simp only [bind, Except.bind, pure, Except.pure, Except.map, updateWhere_congr hp]
    · rfl
  | updatePosition id side quantity avgEntryPrice =>
    have hp : ∀ r ∈ db.positions,
        (decide (r.id = id) && decide (some accountId = some r.accountId)) = decide (r.id = id) :=
      fun r hr => and_shown fun h => hq r hr (of_decide_eq_true h)
    simp only [Statement.execAs, Statement.exec, List.filter_congr hp]
    cases column 30 10 quantity with
    | error e => rfl
    | ok quantity =>
      cases column 30 10 avgEntryPrice with
      | error e => rfl
      | ok price =>
        simp only [bind, Except.bind, require]
        split_ifs
        · simp only [pure, Except.pure, Except.map, updateWhere_congr hp]
        · rfl

end

end Confluence
