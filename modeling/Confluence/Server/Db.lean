import Confluence.Server.Statement

/-!
# Data access

The functions that the handlers and the worker call inside their transactions, as programs of SQL
statements.
-/

namespace Confluence

open Program

inductive ApiError
  | notFound
  | conflict (msg : Message)
  | invalid (msg : Message)
  | db (e : SqlError)
  | exchange (e : ExchangeError)
deriving DecidableEq

/-- Programs of the data layer. -/
abbrev Tx := Program Statement SqlError ApiError

/-- One statement, with `?` on its error. -/
def sql {β : Type} (q : Statement β) : Tx β := ask .db q

/-! ### Audit log and account state -/

def insertRiskEvent (accountId : Uuid) (eventType : String) (payload : Payload) : Tx Unit :=
  sql (.insertRiskEvent accountId eventType payload)

def lockAccount (accountId : Uuid) : Tx AccountRow := do
  required .notFound (← sql (.selectAccountForUpdate accountId))

def loadRiskConfig (accountId : Uuid) : Tx (RiskConfig × ℤ) := do
  required .notFound (← sql (.selectRiskConfig accountId))

/-- The group of a symbol among the rows of `correlation_group_assets`; a later row wins. -/
def groupOf (rows : List (String × String)) (symbol : String) : Option String :=
  ((rows.filter fun r => r.1 = symbol).getLast?).map (·.2)

/-- Assemble the engine's snapshot. `today` is the UTC day on the clock of the server. -/
def loadSnapshot (accountId : Uuid) (account : AccountRow) (today : Date) : Tx AccountSnapshot := do
  let positions ← sql (.selectOpenPositions accountId)
  let groups ← sql (.selectCorrelationGroups accountId)
  let pnl ← sql (.selectDailyPnl accountId today)
  let (todayRealizedLoss, circuitBreakerTripped) := pnl.getD (0, false)
  return {
    equity := account.equity
    todayRealizedLoss
    killSwitchEngaged := account.killSwitchEngaged
    circuitBreakerTripped
    openPositions := positions
    correlationGroups := groupOf groups }

/-- Persist a trip for `today`; the first trip's timestamp stays. -/
def tripCircuitBreaker (accountId : Uuid) (today : Date) : Tx Unit :=
  sql (.upsertCircuitBreaker accountId today)

/-! ### Exchange mode -/

/-- The configured mode, `paper` while no row exists. -/
def loadExchangeMode (accountId : Uuid) : Tx ExchangeMode := do
  let row ← sql (.selectExchangeConfig accountId)
  return (row.map (·.mode)).getD .paper

/-- First layer of the mode-switch guard. -/
def hasOpenActivity (accountId : Uuid) : Tx Bool := do
  let openOrders ← sql (.countOpenOrders accountId)
  if openOrders > 0 then return true
  let openPositions ← sql (.countOpenPositions accountId)
  return decide (openPositions > 0)

/-! ### Orders and fills -/

def insertOrder (id accountId : Uuid) (clientOrderId symbol : String) (side : OrderSide)
    (orderType : OrderType) (quantity : Decimal) (price : Option Decimal)
    (exchangeMode : ExchangeMode) : Tx Unit :=
  sql (.insertOrder id accountId clientOrderId symbol side orderType quantity price exchangeMode)

def lockOrder (accountId orderId : Uuid) : Tx OrderRecord := do
  required .notFound (← sql (.selectOrderForUpdate accountId orderId))

def updateOrderStatus (accountId orderId : Uuid) (status : OrderStatus)
    (filledQuantity : Decimal) : Tx Unit :=
  sql (.updateOrder accountId orderId status filledQuantity)

def loadFillsForOrder (accountId orderId : Uuid) : Tx (List Fill) :=
  sql (.selectFills accountId orderId)

/-- True if the row was newly inserted, false if its trade id was there already. -/
def insertFill (accountId orderId : Uuid) (fill : Fill) : Tx Bool := do
  let rowsAffected ← sql (.insertFill accountId orderId fill)
  return decide (rowsAffected > 0)

/-! ### Outbox -/

def insertExchangeCommand (accountId : Uuid) (commandType : CommandType)
    (exchangeMode : ExchangeMode) (idempotencyKey : String) (payload : Json) : Tx Unit :=
  sql (.insertCommand accountId commandType exchangeMode idempotencyKey payload)

/-- Claim up to `limit` commands that no other claim has locked at this moment. -/
def claimPendingCommands (limit leaseSeconds : ℕ) (locked : List ℕ) : Tx (List ClaimedCommand) :=
  sql (.claimCommands limit leaseSeconds locked)

def markCommandDelivered (id : ℕ) : Tx Unit := sql (.updateCommandStatus id .delivered)

def markCommandPermanentlyRejected (id : ℕ) : Tx Unit :=
  sql (.updateCommandStatus id .permanentlyRejected)

def requeueCommand (id : ℕ) : Tx Unit := sql (.requeueCommand id)

def markCommandReconciliationRequired (id : ℕ) : Tx Unit :=
  sql (.updateCommandStatus id .reconciliationRequired)

/-! ### Positions -/

/-- Apply a signed quantity to the open position on `symbol`: open, grow, shrink, flip or close
it. -/
def applyPositionDelta (accountId : Uuid) (symbol : String) (quantityDelta fillPrice : Decimal) :
    Tx Unit :=
  if quantityDelta = 0 then pure ()
  else do
    match ← sql (.selectOpenPosition accountId symbol) with
    | none =>
      let side : PositionSide := if quantityDelta > 0 then .long else .short
      sql (.insertPosition accountId symbol side |quantityDelta| fillPrice)
    | some row =>
      let signedCurrent := if row.side = .short then -row.quantity else row.quantity
      let newSigned := signedCurrent + quantityDelta
      if newSigned = 0 then sql (.closePosition row.id)
      else
        let newSide : PositionSide := if newSigned > 0 then .long else .short
        let newQty := |newSigned|
        -- a flip takes the fill price, the same direction keeps the cost basis
        let sameDirection : Prop := row.side = .long ↔ newSigned > 0
        let avgPrice := if sameDirection then row.avgEntryPrice else fillPrice
        sql (.updatePosition row.id newSide newQty avgPrice)

/-! ### What the functions commit -/

section

variable {accountId orderId : Uuid} {db db' : Db}

lemma commits_sql {β : Type} {q : Statement β} {b : β} :
    postgres.Commits (sql q) db b db' ↔ ∃ change, q.exec db = .ok (b, change) ∧ db' = change db :=
  Engine.commits_ask

lemma strict_sql {β : Type} (q : Statement β) : postgres.Strict (sql q) :=
  Engine.strict_ask _ _

lemma strict_lockAccount (accountId : Uuid) : postgres.Strict (lockAccount accountId) :=
  .bind (strict_sql _) fun _ => Engine.strict_required _ _

lemma strict_loadRiskConfig (accountId : Uuid) : postgres.Strict (loadRiskConfig accountId) :=
  .bind (strict_sql _) fun _ => Engine.strict_required _ _

lemma strict_loadExchangeMode (accountId : Uuid) : postgres.Strict (loadExchangeMode accountId) :=
  .bind (strict_sql _) fun _ => Engine.strict_pure _

lemma strict_loadSnapshot (accountId : Uuid) (account : AccountRow) (today : Date) :
    postgres.Strict (loadSnapshot accountId account today) :=
  .bind (strict_sql _) fun _ => .bind (strict_sql _) fun _ => .bind (strict_sql _) fun _ =>
    Engine.strict_pure _

lemma strict_lockOrder (accountId orderId : Uuid) : postgres.Strict (lockOrder accountId orderId) :=
  .bind (strict_sql _) fun _ => Engine.strict_required _ _

lemma strict_applyPositionDelta (accountId : Uuid) (symbol : String) (delta price : Decimal) :
    postgres.Strict (applyPositionDelta accountId symbol delta price) := by
  unfold applyPositionDelta
  refine .ite (Engine.strict_pure ()) (.bind (strict_sql _) fun row => ?_)
  cases row with
  | none => exact strict_sql _
  | some row => exact .ite (strict_sql _) (strict_sql _)

/-- A statement that only reads. -/
lemma commits_read {β : Type} {q : Statement β} {answer b : β} (h : q.exec db = .ok (answer, id)) :
    postgres.Commits (sql q) db b db' ↔ b = answer ∧ db' = db := by
  rw [commits_sql, h]
  constructor
  · rintro ⟨change, hexec, rfl⟩
    cases hexec
    exact ⟨rfl, rfl⟩
  · rintro ⟨rfl, rfl⟩
    exact ⟨id, rfl, rfl⟩

variable {symbol : String} {today : Date}

@[simp] lemma commits_selectAccount {b : Option AccountRow} :
    postgres.Commits (sql (.selectAccountForUpdate accountId)) db b db' ↔
      b = ((db.accounts.find? fun r => r.id = accountId).map fun r =>
        ⟨r.status, r.equity, r.killSwitchEngagedAt.isSome⟩) ∧ db' = db :=
  commits_read rfl

@[simp] lemma commits_selectRiskConfig {b : Option (RiskConfig × ℤ)} :
    postgres.Commits (sql (.selectRiskConfig accountId)) db b db' ↔
      b = ((db.riskConfigs.find? fun r => r.accountId = accountId).map fun r =>
        (r.config, r.version)) ∧ db' = db :=
  commits_read rfl

@[simp] lemma commits_selectExchangeConfig {b : Option ExchangeConfigRecord} :
    postgres.Commits (sql (.selectExchangeConfig accountId)) db b db' ↔
      b = (db.exchangeConfigs.find? fun r => r.accountId = accountId) ∧ db' = db :=
  commits_read rfl

@[simp] lemma commits_countOpenOrders {n : ℕ} :
    postgres.Commits (sql (.countOpenOrders accountId)) db n db' ↔
      n = (db.openOrders accountId).length ∧ db' = db :=
  commits_read rfl

@[simp] lemma commits_countOpenPositions {n : ℕ} :
    postgres.Commits (sql (.countOpenPositions accountId)) db n db' ↔
      n = ((db.openPositions accountId).filter fun r => r.quantity > 0).length ∧ db' = db :=
  commits_read rfl

@[simp] lemma commits_selectOrder {o : Option OrderRecord} :
    postgres.Commits (sql (.selectOrderForUpdate accountId orderId)) db o db' ↔
      o = db.order? accountId orderId ∧ db' = db :=
  commits_read rfl

@[simp] lemma commits_loadFillsForOrder {fills : List Fill} :
    postgres.Commits (loadFillsForOrder accountId orderId) db fills db' ↔
      fills = db.fillsOf accountId orderId ∧ db' = db :=
  commits_read rfl

@[simp] lemma commits_selectOpenPosition {r : Option PositionRecord} :
    postgres.Commits (sql (.selectOpenPosition accountId symbol)) db r db' ↔
      r = (db.openOn accountId symbol).head? ∧ db' = db :=
  commits_read rfl

/-- The account row that `lock_account` reads. -/
def Db.accountRow (db : Db) (accountId : Uuid) : Option AccountRow :=
  (db.accounts.find? fun r => r.id = accountId).map fun r =>
    ⟨r.status, r.equity, r.killSwitchEngagedAt.isSome⟩

def Db.riskConfig (db : Db) (accountId : Uuid) : Option (RiskConfig × ℤ) :=
  (db.riskConfigs.find? fun r => r.accountId = accountId).map fun r => (r.config, r.version)

/-- The account's mode, `paper` without a configuration row. -/
def Db.exchangeMode (db : Db) (accountId : Uuid) : ExchangeMode :=
  ((db.exchangeConfigs.find? fun r => r.accountId = accountId).map (·.mode)).getD .paper

/-- The snapshot that `load_snapshot` assembles. -/
def Db.snapshot (db : Db) (accountId : Uuid) (account : AccountRow) (today : Date) :
    AccountSnapshot :=
  let pnl := (db.dailyPnl.find? fun r =>
    decide (r.accountId = accountId) && decide (r.tradingDate = today)).map fun r =>
      (r.realizedLoss, r.circuitBreakerTrippedAt.isSome)
  { equity := account.equity
    todayRealizedLoss := (pnl.getD (0, false)).1
    killSwitchEngaged := account.killSwitchEngaged
    circuitBreakerTripped := (pnl.getD (0, false)).2
    openPositions := (db.openPositions accountId).map fun r =>
      ⟨r.symbol, r.side, r.quantity, r.quantity * r.avgEntryPrice⟩
    correlationGroups := groupOf
      ((db.correlationGroupAssets.filter fun a => a.accountId = accountId).filterMap fun a =>
        (db.correlationGroups.find? fun g => g.id = a.groupId).map fun g => (a.symbol, g.name)) }

@[simp] lemma commits_lockAccount {row : AccountRow} :
    postgres.Commits (lockAccount accountId) db row db' ↔
      db.accountRow accountId = some row ∧ db' = db := by
  simp only [lockAccount, Engine.commits_bind, commits_selectAccount, Engine.commits_required,
    Db.accountRow]
  constructor
  · rintro ⟨_, _, ⟨rfl, rfl⟩, hrow, rfl⟩
    exact ⟨hrow, rfl⟩
  · rintro ⟨hrow, rfl⟩
    exact ⟨_, _, ⟨rfl, rfl⟩, hrow, rfl⟩

@[simp] lemma commits_loadRiskConfig {cfg : RiskConfig × ℤ} :
    postgres.Commits (loadRiskConfig accountId) db cfg db' ↔
      db.riskConfig accountId = some cfg ∧ db' = db := by
  simp only [loadRiskConfig, Engine.commits_bind, commits_selectRiskConfig,
    Engine.commits_required, Db.riskConfig]
  constructor
  · rintro ⟨_, _, ⟨rfl, rfl⟩, hrow, rfl⟩
    exact ⟨hrow, rfl⟩
  · rintro ⟨hrow, rfl⟩
    exact ⟨_, _, ⟨rfl, rfl⟩, hrow, rfl⟩

@[simp] lemma commits_loadExchangeMode {mode : ExchangeMode} :
    postgres.Commits (loadExchangeMode accountId) db mode db' ↔
      mode = db.exchangeMode accountId ∧ db' = db := by
  simp only [loadExchangeMode, Engine.commits_bind, commits_selectExchangeConfig,
    Engine.commits_pure, Db.exchangeMode]
  constructor
  · rintro ⟨_, _, ⟨rfl, rfl⟩, rfl, rfl⟩
    exact ⟨rfl, rfl⟩
  · rintro ⟨rfl, rfl⟩
    exact ⟨_, _, ⟨rfl, rfl⟩, rfl, rfl⟩

@[simp] lemma commits_loadSnapshot {account : AccountRow} {snapshot : AccountSnapshot} :
    postgres.Commits (loadSnapshot accountId account today) db snapshot db' ↔
      snapshot = db.snapshot accountId account today ∧ db' = db := by
  simp only [loadSnapshot, Engine.commits_bind, Engine.commits_pure]
  constructor
  · rintro ⟨_, _, hpositions, _, _, hgroups, _, _, hpnl, hsnapshot, rfl⟩
    obtain ⟨rfl, rfl⟩ := (commits_read rfl).mp hpositions
    obtain ⟨rfl, rfl⟩ := (commits_read rfl).mp hgroups
    obtain ⟨rfl, rfl⟩ := (commits_read rfl).mp hpnl
    exact ⟨hsnapshot.symm, rfl⟩
  · rintro ⟨rfl, rfl⟩
    exact ⟨_, _, (commits_read rfl).mpr ⟨rfl, rfl⟩, _, _, (commits_read rfl).mpr ⟨rfl, rfl⟩,
      _, _, (commits_read rfl).mpr ⟨rfl, rfl⟩, rfl, rfl⟩

@[simp] lemma commits_hasOpenActivity {b : Bool} :
    postgres.Commits (hasOpenActivity accountId) db b db' ↔
      b = (decide (db.openOrders accountId ≠ []) ||
        decide ((db.openPositions accountId).filter (fun r => r.quantity > 0) ≠ [])) ∧
        db' = db := by
  simp only [hasOpenActivity, Engine.commits_bind, commits_countOpenOrders]
  constructor
  · rintro ⟨_, _, ⟨rfl, rfl⟩, h⟩
    split_ifs at h with hpos
    · obtain ⟨rfl, rfl⟩ := Engine.commits_pure.mp h
      simp [List.ne_nil_of_length_pos hpos]
    · simp only [Engine.commits_bind, commits_countOpenPositions, Engine.commits_pure] at h
      obtain ⟨_, _, ⟨rfl, rfl⟩, rfl, rfl⟩ := h
      have hnil := List.length_eq_zero_iff.mp (Nat.eq_zero_of_not_pos hpos)
      simp [hnil, List.length_pos_iff]
  · rintro ⟨rfl, rfl⟩
    refine ⟨_, _, ⟨rfl, rfl⟩, ?_⟩
    split_ifs with hpos
    · simp [List.ne_nil_of_length_pos hpos]
    · have hnil := List.length_eq_zero_iff.mp (Nat.eq_zero_of_not_pos hpos)
      simp only [Engine.commits_bind, commits_countOpenPositions, Engine.commits_pure]
      exact ⟨_, _, ⟨rfl, rfl⟩, by simp [hnil, List.length_pos_iff], rfl⟩

/-- The row that `lock_order` reads. -/
@[simp] lemma commits_lockOrder {o : OrderRecord} :
    postgres.Commits (lockOrder accountId orderId) db o db' ↔
      db.order? accountId orderId = some o ∧ db' = db := by
  simp only [lockOrder, Engine.commits_bind, commits_selectOrder, Engine.commits_required]
  constructor
  · rintro ⟨_, _, ⟨rfl, rfl⟩, ho, rfl⟩
    exact ⟨ho, rfl⟩
  · rintro ⟨ho, rfl⟩
    exact ⟨_, _, ⟨rfl, rfl⟩, ho, rfl⟩

/-- The database with these events at the end of the audit log. -/
def Db.withEvents (db : Db) (events : List RiskEventRecord) : Db :=
  { db with riskEvents := db.riskEvents ++ events }

@[simp] lemma Db.withEvents_nil (db : Db) : db.withEvents [] = db := by
  simp only [Db.withEvents, List.append_nil]

/-- Committing an event appends one row of an admitted type. -/
lemma commits_insertRiskEvent {eventType : String} {payload : Payload} {u : Unit} :
    postgres.Commits (insertRiskEvent accountId eventType payload) db u db' ↔
      eventType ∈ riskEventTypes ∧
        db' = { db with riskEvents := db.riskEvents ++ [⟨accountId, eventType, payload⟩] } := by
  simp only [insertRiskEvent, commits_sql, Statement.exec, require_bind_eq_ok]
  constructor
  · rintro ⟨change, ⟨hchecked, hexec⟩, rfl⟩
    cases hexec
    exact ⟨hchecked, rfl⟩
  · rintro ⟨hchecked, rfl⟩
    exact ⟨_, ⟨hchecked, rfl⟩, rfl⟩

end

end Confluence
