import Confluence.Server.Schema
import Confluence.Library.Program
import Mathlib.Data.List.Sort

/-!
# SQL statements

Each constructor is one statement of the program; `Statement.exec` gives its answer and the change
that it makes, with the column types, checks, unique indexes and triggers of the migrations.
-/

namespace Confluence

inductive SqlError
  | numericOverflow
  | checkViolation (table : String)
  | uniqueViolation (index : String)
  | foreignKeyViolation (constraint : String)
  | raised (trigger : String)
  | transactionAborted
deriving DecidableEq

structure AccountRow where
  status : AccountStatus
  equity : Decimal
  killSwitchEngaged : Bool
deriving DecidableEq

structure ClaimedCommand where
  id : ℕ
  accountId : Uuid
  commandType : CommandType
  exchangeMode : ExchangeMode
  payload : Json

/-- A row of the audit log as it is listed. -/
structure RiskEventView where
  id : Uuid
  eventType : String
  payload : Payload
  createdAt : Timestamp

inductive Statement : Type → Type
  -- accounts
  | selectAccountForUpdate (accountId : Uuid) : Statement (Option AccountRow)
  | insertAccount (id : Uuid) (equity : Decimal) : Statement Unit
  | updateEquity (accountId : Uuid) (equity : Decimal) : Statement Unit
  | engageKillSwitch (accountId : Uuid) : Statement Unit
  | releaseKillSwitch (accountId : Uuid) : Statement Unit
  -- risk state
  | selectRiskConfig (accountId : Uuid) : Statement (Option (RiskConfig × ℤ))
  | insertRiskConfig (accountId : Uuid) : Statement Unit
  | updateRiskConfig (accountId : Uuid) (config : RiskConfig) (newVersion currentVersion : ℤ) :
      Statement ℕ
  | selectOpenPositions (accountId : Uuid) : Statement (List OpenPosition)
  | selectCorrelationGroups (accountId : Uuid) : Statement (List (String × String))
  | deleteCorrelationGroups (accountId : Uuid) : Statement Unit
  | insertCorrelationGroup (id accountId : Uuid) (name : String) : Statement Unit
  | insertCorrelationGroupAsset (groupId accountId : Uuid) (symbol : String) : Statement Unit
  | selectDailyPnl (accountId : Uuid) (today : Date) : Statement (Option (Decimal × Bool))
  | upsertCircuitBreaker (accountId : Uuid) (today : Date) : Statement Unit
  -- exchange configuration
  | selectExchangeConfig (accountId : Uuid) : Statement (Option ExchangeConfigRecord)
  | insertExchangeConfig (row : ExchangeConfigRecord) : Statement Unit
  | updateExchangeConfig (accountId : Uuid) (mode : ExchangeMode) (testnet : Bool)
      (keyCt secretCt : Option (List UInt8)) (newVersion currentVersion : ℤ) : Statement Unit
  | countOpenOrders (accountId : Uuid) : Statement ℕ
  | countOpenPositions (accountId : Uuid) : Statement ℕ
  -- orders and fills
  | insertOrder (id accountId : Uuid) (clientOrderId symbol : String) (side : OrderSide)
      (orderType : OrderType) (quantity : Decimal) (price : Option Decimal)
      (exchangeMode : ExchangeMode) : Statement Unit
  | selectOrderForUpdate (accountId orderId : Uuid) : Statement (Option OrderRecord)
  | updateOrder (accountId orderId : Uuid) (status : OrderStatus) (filledQuantity : Decimal) :
      Statement Unit
  | selectFills (accountId orderId : Uuid) : Statement (List Fill)
  | insertFill (accountId orderId : Uuid) (fill : Fill) : Statement ℕ
  -- outbox
  | insertCommand (accountId : Uuid) (commandType : CommandType) (exchangeMode : ExchangeMode)
      (idempotencyKey : String) (payload : Json) : Statement Unit
  | claimCommands (limit leaseSeconds : ℕ) (locked : List ℕ) : Statement (List ClaimedCommand)
  | updateCommandStatus (id : ℕ) (status : CommandStatus) : Statement Unit
  | requeueCommand (id : ℕ) : Statement Unit
  -- positions
  | selectOpenPosition (accountId : Uuid) (symbol : String) : Statement (Option PositionRecord)
  | insertPosition (accountId : Uuid) (symbol : String) (side : PositionSide)
      (quantity avgEntryPrice : Decimal) : Statement Unit
  | closePosition (id : ℕ) : Statement Unit
  | updatePosition (id : ℕ) (side : PositionSide) (quantity avgEntryPrice : Decimal) :
      Statement Unit
  -- audit
  | insertRiskEvent (accountId : Uuid) (eventType : String) (payload : Payload) : Statement Unit
  | selectRiskEvents (columns : ℕ → Uuid × Timestamp) (accountId : Uuid) (before : Option Uuid)
      (limit : ℕ) : Statement (List RiskEventView)

/-! ### Columns and constraints -/

/-- The value that a `NUMERIC(p, s)` column keeps. -/
def column (p s : ℕ) (x : Decimal) : Except SqlError Decimal :=
  match Numeric.store p s x with
  | some y => .ok y
  | none => .error .numericOverflow

def optionalColumn (p s : ℕ) : Option Decimal → Except SqlError (Option Decimal)
  | none => .ok none
  | some x => do return some (← column p s x)

/-- Refuse the statement unless `c` holds. -/
def require (c : Prop) [Decidable c] (e : SqlError) : Except SqlError Unit :=
  if c then .ok () else .error e

/-- An identifier that no row has. -/
def freshId (ids : List ℕ) : ℕ := ids.foldr max 0 + 1

/-- `UPDATE .. WHERE p`. -/
def updateWhere {ρ : Type} (p : ρ → Bool) (f : ρ → ρ) (rows : List ρ) : List ρ :=
  rows.map fun r => if p r then f r else r

/-- Pending, or leased with an expired lease. -/
def CommandRecord.claimable (now : Timestamp) (r : CommandRecord) : Bool :=
  decide (r.status = .pending) ||
    (decide (r.status = .leased) && r.leasedUntil.any fun t => decide (t < now))

def CommandRecord.claimed (r : CommandRecord) : ClaimedCommand :=
  { id := r.id, accountId := r.accountId, commandType := r.commandType,
    exchangeMode := r.exchangeMode, payload := r.payload }

namespace Db

/-- The rows that a claim takes: the oldest claimable ones that no other transaction has locked. -/
def claimCandidates (db : Db) (limit : ℕ) (locked : List ℕ) : List ℕ :=
  (((db.exchangeCommands.filter fun r => r.claimable db.now && !locked.contains r.id).insertionSort
    fun a b => a.createdAt ≤ b.createdAt).take limit).map (·.id)

/-- Orders that are neither filled, cancelled nor rejected. -/
def openOrders (db : Db) (accountId : Uuid) : List OrderRecord :=
  db.orders.filter fun r => decide (r.accountId = accountId) && !r.status.isTerminal

def openPositions (db : Db) (accountId : Uuid) : List PositionRecord :=
  db.positions.filter fun r => decide (r.accountId = accountId) && decide (r.status = .open)

/-- The row with the order's id and account. -/
def order? (db : Db) (accountId orderId : Uuid) : Option OrderRecord :=
  db.orders.find? fun r => decide (r.id = orderId) && decide (r.accountId = accountId)

def fillsOf (db : Db) (accountId orderId : Uuid) : List Fill :=
  (db.orderFills.filter fun r =>
    decide (r.accountId = accountId) && decide (r.orderId = orderId)).map (·.fill)

/-- The account's events, newest first, from below `before` and at most `limit` of them. `columns`
holds what the rows of the table have besides: the identifier and the time of the account's `n`-th
event. -/
def riskEventPage (db : Db) (columns : ℕ → Uuid × Timestamp) (accountId : Uuid)
    (before : Option Uuid) (limit : ℕ) : List RiskEventView :=
  let rows := (db.riskEvents.filter fun r => decide (r.accountId = accountId)).zipIdx.map fun (r, n) =>
    ({ id := (columns n).1, eventType := r.eventType, payload := r.payload
       createdAt := (columns n).2 } : RiskEventView)
  ((rows.filter fun r => before.all fun cursor => decide (r.id.bits < cursor.bits)).insertionSort
    fun a b => b.id.bits ≤ a.id.bits).take limit

end Db

/-! ### Execution -/

/-- The trigger `exchange_configs_mode_switch_guard` lets the update of `row` pass. -/
def modeSwitchAllowed (db : Db) (row : ExchangeConfigRecord) (mode : ExchangeMode) : Prop :=
  mode = row.mode ∨
    (db.openOrders row.accountId = [] ∧
      (db.openPositions row.accountId).filter (fun r => decide (r.quantity > 0)) = [])

instance (db : Db) (row : ExchangeConfigRecord) (mode : ExchangeMode) :
    Decidable (modeSwitchAllowed db row mode) :=
  haveI := fun l : List OrderRecord => decidable_of_iff _ (List.isEmpty_iff (l := l))
  haveI := fun l : List PositionRecord => decidable_of_iff _ (List.isEmpty_iff (l := l))
  inferInstanceAs (Decidable (_ ∨ _))

def Statement.exec {β : Type} (q : Statement β) (db : Db) : Except SqlError (β × (Db → Db)) :=
  match q with
  | .selectAccountForUpdate accountId =>
    .ok ((db.accounts.find? fun r => r.id = accountId).map fun r =>
      { status := r.status, equity := r.equity, killSwitchEngaged := r.killSwitchEngagedAt.isSome },
      id)
  | .insertAccount id equity => do
    let equity ← column 30 10 equity
    let row : AccountRecord := { id, status := .active, equity, killSwitchEngagedAt := none }
    require row.Checked (.checkViolation "accounts")
    require (∀ r ∈ db.accounts, r.id ≠ id) (.uniqueViolation "accounts_pkey")
    return ((), fun db => { db with accounts := db.accounts ++ [row] })
  | .updateEquity accountId equity => do
    let equity ← column 30 10 equity
    let p (r : AccountRecord) := decide (r.id = accountId)
    let f (r : AccountRecord) : AccountRecord := { r with equity }
    require (∀ r ∈ db.accounts.filter p, (f r).Checked) (.checkViolation "accounts")
    return ((), fun db => { db with accounts := updateWhere p f db.accounts })
  | .engageKillSwitch accountId => do
    let p (r : AccountRecord) := decide (r.id = accountId)
    let f (r : AccountRecord) : AccountRecord :=
      { r with status := .killed, killSwitchEngagedAt := some db.now }
    require (∀ r ∈ db.accounts.filter p, (f r).Checked) (.checkViolation "accounts")
    return ((), fun db => { db with accounts := updateWhere p f db.accounts })
  | .releaseKillSwitch accountId => do
    let p (r : AccountRecord) := decide (r.id = accountId)
    let f (r : AccountRecord) : AccountRecord := { r with status := .active, killSwitchEngagedAt := none }
    require (∀ r ∈ db.accounts.filter p, (f r).Checked) (.checkViolation "accounts")
    return ((), fun db => { db with accounts := updateWhere p f db.accounts })
  | .selectRiskConfig accountId =>
    .ok ((db.riskConfigs.find? fun r => r.accountId = accountId).map fun r =>
      (r.config, r.version), id)
  | .insertRiskConfig accountId => do
    require (∀ r ∈ db.riskConfigs, r.accountId ≠ accountId) (.uniqueViolation "risk_configs_pkey")
    return ((), fun db => { db with
      riskConfigs := db.riskConfigs ++ [.placeholder accountId] })
  | .updateRiskConfig accountId config newVersion currentVersion => do
    let dailyMaxLossPct ← column 8 4 config.dailyMaxLossPct
    let maxPositionPctEquity ← column 8 4 config.maxPositionPctEquity
    let maxCorrelatedExposurePct ← column 8 4 config.maxCorrelatedExposurePct
    let p (r : RiskConfigRecord) :=
      decide (r.accountId = accountId) && decide (r.version = currentVersion)
    let f (r : RiskConfigRecord) : RiskConfigRecord :=
      { r with
        config := {
          dailyMaxLossPct
          maxPositionPctEquity
          maxConcurrentPositions := config.maxConcurrentPositions
          maxCorrelatedExposurePct }
        version := newVersion }
    require (∀ r ∈ db.riskConfigs.filter p, (f r).Checked) (.checkViolation "risk_configs")
    return ((db.riskConfigs.filter p).length,
      fun db => { db with riskConfigs := updateWhere p f db.riskConfigs })
  | .selectOpenPositions accountId =>
    .ok ((db.openPositions accountId).map fun r =>
      { symbol := r.symbol, side := r.side, quantity := r.quantity,
        notional := r.quantity * r.avgEntryPrice }, id)
  | .selectCorrelationGroups accountId =>
    .ok ((db.correlationGroupAssets.filter fun a => a.accountId = accountId).filterMap fun a =>
      (db.correlationGroups.find? fun g => g.id = a.groupId).map fun g => (a.symbol, g.name), id)
  | .deleteCorrelationGroups accountId =>
    -- the assets of the groups go with them
    .ok ((), fun db => { db with
      correlationGroups := db.correlationGroups.filter fun g => decide (g.accountId ≠ accountId)
      correlationGroupAssets := db.correlationGroupAssets.filter fun a =>
        !db.correlationGroups.any fun g => decide (g.accountId = accountId) &&
          decide (g.id = a.groupId) && decide (g.accountId = a.accountId) })
  | .insertCorrelationGroup id accountId name => do
    require (∀ g ∈ db.correlationGroups, g.id ≠ id) (.uniqueViolation "correlation_groups_pkey")
    require (∀ g ∈ db.correlationGroups, g.accountId = accountId → g.name ≠ name)
      (.uniqueViolation "correlation_groups_account_id_name_key")
    return ((), fun db => { db with
      correlationGroups := db.correlationGroups ++ [{ id, accountId, name }] })
  | .insertCorrelationGroupAsset groupId accountId symbol => do
    require (∀ a ∈ db.correlationGroupAssets, a.groupId = groupId → a.symbol ≠ symbol)
      (.uniqueViolation "correlation_group_assets_pkey")
    require (∀ a ∈ db.correlationGroupAssets, a.accountId = accountId → a.symbol ≠ symbol)
      (.uniqueViolation "correlation_group_assets_account_id_symbol_key")
    require (∃ g ∈ db.correlationGroups, g.id = groupId ∧ g.accountId = accountId)
      (.foreignKeyViolation "correlation_group_assets_group_fk")
    return ((), fun db => { db with
      correlationGroupAssets := db.correlationGroupAssets ++ [{ groupId, accountId, symbol }] })
  | .selectDailyPnl accountId today =>
    .ok ((db.dailyPnl.find? fun r =>
      decide (r.accountId = accountId) && decide (r.tradingDate = today)).map fun r =>
        (r.realizedLoss, r.circuitBreakerTrippedAt.isSome), id)
  | .upsertCircuitBreaker accountId today =>
    let p (r : DailyPnlRecord) :=
      decide (r.accountId = accountId) && decide (r.tradingDate = today)
    let trip (r : DailyPnlRecord) : DailyPnlRecord :=
      { r with circuitBreakerTrippedAt := r.circuitBreakerTrippedAt <|> some db.now }
    if db.dailyPnl.any p then
      .ok ((), fun db => { db with dailyPnl := updateWhere p trip db.dailyPnl })
    else
      .ok ((), fun db => { db with
        dailyPnl := db.dailyPnl ++ [{
          accountId, tradingDate := today, realizedLoss := 0
          circuitBreakerTrippedAt := some db.now }] })
  | .selectExchangeConfig accountId =>
    .ok (db.exchangeConfigs.find? fun r => r.accountId = accountId, id)
  | .insertExchangeConfig row => do
    require (∀ r ∈ db.exchangeConfigs, r.accountId ≠ row.accountId)
      (.uniqueViolation "exchange_configs_pkey")
    return ((), fun db => { db with exchangeConfigs := db.exchangeConfigs ++ [row] })
  | .updateExchangeConfig accountId mode testnet keyCt secretCt newVersion currentVersion => do
    let p (r : ExchangeConfigRecord) :=
      decide (r.accountId = accountId) && decide (r.version = currentVersion)
    let f (r : ExchangeConfigRecord) : ExchangeConfigRecord :=
      { r with
        mode
        testnet
        apiKeyCiphertext := keyCt <|> r.apiKeyCiphertext
        apiSecretCiphertext := secretCt <|> r.apiSecretCiphertext
        version := newVersion }
    require (∀ r ∈ db.exchangeConfigs.filter p, modeSwitchAllowed db r mode)
      (.raised "exchange_configs_mode_switch_guard")
    return ((), fun db => { db with exchangeConfigs := updateWhere p f db.exchangeConfigs })
  | .countOpenOrders accountId => .ok ((db.openOrders accountId).length, id)
  | .countOpenPositions accountId =>
    .ok (((db.openPositions accountId).filter fun r => r.quantity > 0).length, id)
  | .insertOrder id accountId clientOrderId symbol side orderType quantity price exchangeMode => do
    let quantity ← column 30 10 quantity
    let price ← optionalColumn 30 10 price
    let row : OrderRecord :=
      { id, accountId, clientOrderId, symbol, side, orderType, quantity, price,
        status := .pending, exchangeMode, filledQuantity := 0 }
    require row.Checked (.checkViolation "orders")
    require (∀ r ∈ db.orders, r.id ≠ id) (.uniqueViolation "orders_pkey")
    require (∀ r ∈ db.orders, r.accountId = accountId → r.clientOrderId ≠ clientOrderId)
      (.uniqueViolation "orders_account_client_order_id")
    return ((), fun db => { db with orders := db.orders ++ [row] })
  | .selectOrderForUpdate accountId orderId => .ok (db.order? accountId orderId, id)
  | .updateOrder accountId orderId status filledQuantity => do
    let filledQuantity ← column 30 10 filledQuantity
    let p (r : OrderRecord) := decide (r.id = orderId) && decide (r.accountId = accountId)
    let f (r : OrderRecord) : OrderRecord := { r with status, filledQuantity }
    require (∀ r ∈ db.orders.filter p, (f r).Checked) (.checkViolation "orders")
    return ((), fun db => { db with orders := updateWhere p f db.orders })
  | .selectFills accountId orderId => .ok (db.fillsOf accountId orderId, id)
  | .insertFill accountId orderId fill => do
    let quantity ← column 30 10 fill.quantity
    let price ← column 30 10 fill.price
    let fee ← column 30 10 fill.fee
    let row : FillRecord := { accountId, orderId, fill := { fill with quantity, price, fee } }
    require row.Checked (.checkViolation "order_fills")
    if db.orderFills.any fun r =>
        decide (r.accountId = accountId) &&
          decide (r.fill.exchangeTradeId = fill.exchangeTradeId) then
      return (0, id)
    else return (1, fun db => { db with orderFills := db.orderFills ++ [row] })
  | .insertCommand accountId commandType exchangeMode idempotencyKey payload => do
    let row : CommandRecord :=
      { id := freshId (db.exchangeCommands.map (·.id)), accountId, commandType, exchangeMode
        status := .pending, idempotencyKey, payload, attempts := 0, leasedUntil := none
        createdAt := db.now }
    require row.Checked (.checkViolation "exchange_commands")
    if db.exchangeCommands.any fun r =>
        decide (r.accountId = accountId) && decide (r.idempotencyKey = idempotencyKey) then
      return ((), id)
    else return ((), fun db => { db with exchangeCommands := db.exchangeCommands ++ [row] })
  | .claimCommands limit leaseSeconds locked =>
    let ids := db.claimCandidates limit locked
    let p (r : CommandRecord) := ids.contains r.id
    let lease (r : CommandRecord) : CommandRecord :=
      { r with status := .leased, leasedUntil := some (db.now + leaseSeconds) }
    .ok ((db.exchangeCommands.filter p).map (·.claimed),
      fun db => { db with exchangeCommands := updateWhere p lease db.exchangeCommands })
  | .updateCommandStatus id status =>
    .ok ((), fun db => { db with
      exchangeCommands := updateWhere (fun r => decide (r.id = id)) (fun r => { r with status })
        db.exchangeCommands })
  | .requeueCommand id =>
    .ok ((), fun db => { db with
      exchangeCommands := updateWhere (fun r => decide (r.id = id))
        (fun r => { r with status := .pending, leasedUntil := none, attempts := r.attempts + 1 })
        db.exchangeCommands })
  | .selectOpenPosition accountId symbol => .ok ((db.openOn accountId symbol).head?, id)
  | .insertPosition accountId symbol side quantity avgEntryPrice => do
    let quantity ← column 30 10 quantity
    let avgEntryPrice ← column 30 10 avgEntryPrice
    let row : PositionRecord :=
      { id := freshId (db.positions.map (·.id)), accountId, symbol, side, quantity, avgEntryPrice
        status := .open, closedAt := none }
    require row.Checked (.checkViolation "positions")
    require ((db.openOn accountId symbol).isEmpty = true)
      (.uniqueViolation "positions_one_open_per_symbol")
    return ((), fun db => { db with positions := db.positions ++ [row] })
  | .closePosition id => do
    let p (r : PositionRecord) := decide (r.id = id)
    let f (r : PositionRecord) : PositionRecord :=
      { r with status := .closed, quantity := 0, closedAt := some db.now }
    require (∀ r ∈ db.positions.filter p, (f r).Checked) (.checkViolation "positions")
    return ((), fun db => { db with positions := updateWhere p f db.positions })
  | .updatePosition id side quantity avgEntryPrice => do
    let quantity ← column 30 10 quantity
    let avgEntryPrice ← column 30 10 avgEntryPrice
    let p (r : PositionRecord) := decide (r.id = id)
    let f (r : PositionRecord) : PositionRecord := { r with side, quantity, avgEntryPrice }
    require (∀ r ∈ db.positions.filter p, (f r).Checked) (.checkViolation "positions")
    return ((), fun db => { db with positions := updateWhere p f db.positions })
  | .insertRiskEvent accountId eventType payload => do
    let row : RiskEventRecord := { accountId, eventType, payload }
    require row.Checked (.checkViolation "risk_events")
    return ((), fun db => { db with riskEvents := db.riskEvents ++ [row] })
  | .selectRiskEvents columns accountId before limit =>
    .ok (db.riskEventPage columns accountId before limit, id)

/-- The database as an engine for transaction programs. -/
def postgres : Engine Statement Db SqlError where
  exec := Statement.exec
  aborted := .transactionAborted

/-! ### Constraints in inverted form -/

section

variable {β : Type} {c : Prop} [Decidable c] {e : SqlError} {p s : ℕ} {x : Decimal} {r : β}

@[simp] lemma require_bind_eq_ok {k : Unit → Except SqlError β} :
    (require c e >>= k) = .ok r ↔ c ∧ k () = .ok r := by
  unfold require
  split_ifs with h
  · simp [h, bind, Except.bind]
  · simp [h, bind, Except.bind]

@[simp] lemma column_bind_eq_ok {k : Decimal → Except SqlError β} :
    (column p s x >>= k) = .ok r ↔ ∃ y, Numeric.store p s x = some y ∧ k y = .ok r := by
  unfold column
  cases Numeric.store p s x <;> simp [bind, Except.bind]

end

lemma lt_freshId {ids : List ℕ} {i : ℕ} (h : i ∈ ids) : i < freshId ids := by
  induction ids with
  | nil => simp at h
  | cons j ids ih =>
    simp only [freshId, List.foldr_cons]
    rcases List.mem_cons.mp h with rfl | h
    · omega
    · have := ih h
      simp only [freshId] at this
      omega

section

variable {ρ κ : Type} {p : ρ → Bool} {f : ρ → ρ} {rows : List ρ}

lemma mem_updateWhere {r' : ρ} :
    r' ∈ updateWhere p f rows ↔ ∃ r ∈ rows, r' = if p r then f r else r := by
  simp only [updateWhere, List.mem_map, eq_comm]

lemma updateWhere_eq_self (h : ∀ r ∈ rows, p r = false) : updateWhere p f rows = rows := by
  calc rows.map (fun r => if p r then f r else r) = rows.map id :=
        List.map_congr_left fun r hr => by simp [h r hr]
    _ = rows := List.map_id rows

/-- An update that a filter does not see commutes with it. -/
lemma filter_updateWhere {q : ρ → Bool} (h : ∀ r, q (f r) = q r) :
    (updateWhere p f rows).filter q = updateWhere p f (rows.filter q) := by
  induction rows with
  | nil => rfl
  | cons r rows ih =>
    have hhead : q (if p r then f r else r) = q r := by split_ifs <;> simp [h]
    simp only [updateWhere, List.map_cons, List.filter_cons, hhead] at ih ⊢
    split_ifs <;> simp [*]

/-- An update that a search does not see leaves what the search finds, updated. -/
lemma find?_updateWhere {q : ρ → Bool} (h : ∀ r, q (f r) = q r) :
    (updateWhere p f rows).find? q = (rows.find? q).map fun r => if p r then f r else r := by
  induction rows with
  | nil => rfl
  | cons r rows ih =>
    have hhead : q (if p r then f r else r) = q r := by split_ifs <;> simp [h]
    simp only [updateWhere, List.map_cons, List.find?_cons, hhead] at ih ⊢
    cases q r
    · exact ih
    · rfl

/-- Columns that an update leaves alone. -/
lemma map_updateWhere {key : ρ → κ} (h : ∀ r, key (f r) = key r) :
    (updateWhere p f rows).map key = rows.map key := by
  simp only [updateWhere, List.map_map]
  refine List.map_congr_left fun r _ => ?_
  simp only [Function.comp_apply]
  split_ifs <;> simp [h]

/-- A total over rows of which one is rewritten. -/
lemma sum_updateWhere [DecidableEq κ] {key : ρ → κ} (hkeys : (rows.map key).Nodup) {row : ρ} (h : row ∈ rows)
    (g : ρ → Decimal) :
    ((updateWhere (fun r => decide (key r = key row)) f rows).map g).sum + g row =
      (rows.map g).sum + g (f row) := by
  induction rows with
  | nil => cases h
  | cons r rows ih =>
    obtain ⟨hr, hkeys⟩ := List.nodup_cons.mp hkeys
    rw [updateWhere, List.map_cons, List.map_cons, List.sum_cons, List.map_cons, List.sum_cons]
    rcases List.mem_cons.mp h with rfl | hmem
    · have hrest : updateWhere (fun r => decide (key r = key row)) f rows = rows := by
        refine updateWhere_eq_self fun r' hr' => ?_
        have hne : key r' ≠ key row := fun heq => hr (heq ▸ List.mem_map_of_mem hr')
        simp [hne]
      rw [updateWhere] at hrest
      rw [hrest]
      simp only [decide_true, if_true]
      ring
    · have hne : key r ≠ key row := fun heq => hr (heq ▸ List.mem_map_of_mem hmem)
      have hsum := ih hkeys hmem
      rw [updateWhere] at hsum
      simp only [hne, decide_false, Bool.false_eq_true, if_false]
      linarith

end

end Confluence
