import Confluence.Server.Positions
import Confluence.Server.Routes

/-!
# What requests change

For each request, the two or three ways in which it can leave the database.
-/

namespace Confluence

open Program

section

variable {db db' : Db} {accountId orderId : Uuid} {u : Unit}

/-! ### Statements on orders, commands and risk state -/

/-- The row that `insert_order` writes. -/
def newOrder (id accountId : Uuid) (clientOrderId symbol : String) (side : OrderSide)
    (orderType : OrderType) (quantity : Decimal) (price : Option Decimal)
    (exchangeMode : ExchangeMode) : OrderRecord :=
  { id, accountId, clientOrderId, symbol, side, orderType, quantity, price, status := .pending,
    exchangeMode, filledQuantity := 0 }

lemma commits_insertOrder {clientOrderId symbol : String} {side : OrderSide}
    {orderType : OrderType} {quantity : Decimal} {price : Option Decimal} {mode : ExchangeMode}
    (h : postgres.Commits
      (insertOrder orderId accountId clientOrderId symbol side orderType quantity price mode)
      db u db') :
    ∃ q p, Numeric.store 30 10 quantity = some q ∧ optionalColumn 30 10 price = .ok p ∧ q > 0 ∧
      (∀ r ∈ db.orders, r.id ≠ orderId) ∧
      (∀ r ∈ db.orders, r.accountId = accountId → r.clientOrderId ≠ clientOrderId) ∧
      db' = { db with
        orders := db.orders ++
          [newOrder orderId accountId clientOrderId symbol side orderType q p mode] } := by
  simp only [insertOrder, commits_sql, Statement.exec, column_bind_eq_ok] at h
  obtain ⟨change, ⟨q, hq, hexec⟩, rfl⟩ := h
  cases hp : optionalColumn 30 10 price with
  | error e =>
    rw [hp] at hexec
    cases hexec
  | ok p =>
    rw [hp] at hexec
    obtain ⟨hchecked, hexec⟩ := require_bind_eq_ok.mp hexec
    obtain ⟨hid, hexec⟩ := require_bind_eq_ok.mp hexec
    obtain ⟨hclient, hexec⟩ := require_bind_eq_ok.mp hexec
    cases hexec
    exact ⟨q, p, hq, rfl, hchecked.1, hid, hclient, rfl⟩

/-- The row that `insert_exchange_command` writes. -/
def Db.newCommand (db : Db) (accountId : Uuid) (commandType : CommandType)
    (exchangeMode : ExchangeMode) (idempotencyKey : String) (payload : Json) : CommandRecord :=
  { id := freshId (db.exchangeCommands.map (·.id)), accountId, commandType, exchangeMode
    status := .pending, idempotencyKey, payload, attempts := 0, leasedUntil := none
    createdAt := db.now }

/-- The account has a command with the key. -/
def Db.hasKey (db : Db) (accountId : Uuid) (key : String) : Prop :=
  ∃ r ∈ db.exchangeCommands, r.accountId = accountId ∧ r.idempotencyKey = key

/-- The commands after an insertion: unchanged when the key is there already. -/
def Db.withCommand (db : Db) (accountId : Uuid) (commandType : CommandType)
    (exchangeMode : ExchangeMode) (idempotencyKey : String) (payload : Json) : Db :=
  { db with
    exchangeCommands :=
      if db.exchangeCommands.any fun r =>
          decide (r.accountId = accountId) && decide (r.idempotencyKey = idempotencyKey) then
        db.exchangeCommands
      else db.exchangeCommands ++
        [db.newCommand accountId commandType exchangeMode idempotencyKey payload] }

lemma commits_insertExchangeCommand {commandType : CommandType} {mode : ExchangeMode}
    {key : String} {payload : Json} :
    postgres.Commits (insertExchangeCommand accountId commandType mode key payload) db u db' ↔
      (∀ name, commandType ≠ .unknown name) ∧
        db' = db.withCommand accountId commandType mode key payload := by
  simp only [insertExchangeCommand, commits_sql, Statement.exec, require_bind_eq_ok]
  have hchecked : CommandRecord.Checked (db.newCommand accountId commandType mode key payload) ↔
      ∀ name, commandType ≠ .unknown name := by
    cases commandType <;> simp [CommandRecord.Checked, Db.newCommand]
  constructor
  · rintro ⟨change, ⟨hc, hexec⟩, rfl⟩
    refine ⟨hchecked.mp hc, ?_⟩
    unfold Db.withCommand
    split_ifs at hexec ⊢ with hany <;> cases hexec <;> rfl
  · rintro ⟨hc, rfl⟩
    unfold Db.withCommand
    split_ifs with hany
    · exact ⟨id, ⟨hchecked.mpr hc, rfl⟩, rfl⟩
    · exact ⟨_, ⟨hchecked.mpr hc, rfl⟩, rfl⟩

lemma Db.withCommand_cases (db : Db) (accountId : Uuid) (commandType : CommandType)
    (mode : ExchangeMode) (key : String) (payload : Json) :
    (db.hasKey accountId key ∧ db.withCommand accountId commandType mode key payload = db) ∨
    (¬ db.hasKey accountId key ∧ db.withCommand accountId commandType mode key payload =
      { db with
        exchangeCommands := db.exchangeCommands ++
          [db.newCommand accountId commandType mode key payload] }) := by
  have hiff : (db.exchangeCommands.any fun r =>
      decide (r.accountId = accountId) && decide (r.idempotencyKey = key)) = true ↔
        db.hasKey accountId key := by
    simp [Db.hasKey]
  unfold Db.withCommand
  split_ifs with h
  · exact .inl ⟨hiff.mp h, rfl⟩
  · exact .inr ⟨fun hk => h (hiff.mpr hk), rfl⟩

/-! ### Placing orders -/

/-- What `place_order` hands to the engine, and the engine's decision, when it gets that far. -/
def evaluated (env : Surroundings) (accountId : Uuid) (body : PlaceOrderRequest) (db : Db) :
    Option (TradeIntent × Decision) :=
  match validateRequest env body with
  | .error _ => none
  | .ok () => do
    let account ← db.accountRow accountId
    let (cfg, _) ← db.riskConfig accountId
    let intent := coreIntent body (priceEstimate env body)
    return (intent, evaluate intent (db.snapshot accountId account env.snapshotDay) cfg)

/-- The database after an approved order: the order, its submission and the event. -/
def Db.placed (db : Db) (env : Surroundings) (accountId orderId : Uuid) (body : PlaceOrderRequest)
    (quantity : Decimal) (price : Option Decimal) : Db :=
  let mode := db.exchangeMode accountId
  let order := newOrder orderId accountId orderId.simple body.symbol body.side body.orderType
    quantity price mode
  let db := { db with orders := db.orders ++ [order] }
  let db := db.withCommand accountId .submitOrder mode (toString orderId ++ ":submit")
    (orderPayload orderId)
  { db with
    riskEvents := db.riskEvents ++ [⟨accountId, "order_placed",
      [("order_id", .uuid orderId), ("intent", .intent (coreIntent body (priceEstimate env body)))]⟩] }

/-- The event of an order that the engine refuses, which names no order. -/
def refusedEvent (accountId : Uuid) (intent : TradeIntent) (decision : Decision) : RiskEventRecord :=
  ⟨accountId, "order_rejected", [("intent", .intent intent), ("decision", .decision decision)]⟩

/-- A committed placement either records a rejection or inserts a pending order for which the
engine's decision is approval. -/
lemma of_commits_placeOrderTx {env : Surroundings} {body : PlaceOrderRequest} {decision : Decision}
    (h : postgres.Commits (placeOrderTx env accountId orderId body) db decision db') :
    ∃ account cfg, db.accountRow accountId = some account ∧ db.riskConfig accountId = some cfg ∧
      decision = evaluate (coreIntent body (priceEstimate env body))
        (db.snapshot accountId account env.snapshotDay) cfg.1 ∧
      ((decision ≠ .approved ∧ db' = db.withEvents
          [refusedEvent accountId (coreIntent body (priceEstimate env body)) decision]) ∨
       (decision = .approved ∧ ∃ q p, Numeric.store 30 10 body.quantity = some q ∧
          optionalColumn 30 10 body.price = .ok p ∧ q > 0 ∧
          (∀ r ∈ db.orders, r.id ≠ orderId) ∧
          (∀ r ∈ db.orders, r.accountId = accountId → r.clientOrderId ≠ orderId.simple) ∧
          db' = db.placed env accountId orderId body q p)) := by
  simp only [placeOrderTx, Engine.commits_bind, commits_lockAccount, commits_loadRiskConfig,
    commits_loadExchangeMode, commits_loadSnapshot] at h
  obtain ⟨account, _, ⟨haccount, rfl⟩, cfg, _, ⟨hcfg, rfl⟩, mode, _, ⟨rfl, rfl⟩, snapshot, _,
    ⟨rfl, rfl⟩, h⟩ := h
  refine ⟨account, cfg, haccount, hcfg, ?_⟩
  split_ifs at h with happroved
  · simp only [Engine.commits_bind, commits_insertExchangeCommand, commits_insertRiskEvent,
      Engine.commits_pure] at h
    obtain ⟨_, _, hinsert, _, _, ⟨-, rfl⟩, _, _, ⟨-, rfl⟩, rfl, rfl⟩ := h
    obtain ⟨q, p, hq, hp, hpos, hid, hclient, rfl⟩ := commits_insertOrder hinsert
    exact ⟨rfl, .inr ⟨Decision.isApproved_iff.mp happroved, q, p, hq, hp, hpos, hid, hclient, rfl⟩⟩
  · simp only [Engine.commits_bind, commits_insertRiskEvent, Engine.commits_pure] at h
    obtain ⟨_, _, ⟨-, rfl⟩, rfl, rfl⟩ := h
    exact ⟨rfl, .inl ⟨fun h => happroved (Decision.isApproved_iff.mpr h), rfl⟩⟩

lemma strict_placeOrderTx (env : Surroundings) (accountId orderId : Uuid)
    (body : PlaceOrderRequest) :
    postgres.Strict (placeOrderTx env accountId orderId body) := by
  refine .bind (strict_lockAccount _) fun _ => .bind (strict_loadRiskConfig _) fun _ =>
    .bind (strict_loadExchangeMode _) fun _ => .bind (strict_loadSnapshot _ _ _) fun _ => ?_
  refine .ite ?_ ?_
  · exact .bind (strict_sql _) fun _ => .bind (strict_sql _) fun _ => .bind (strict_sql _) fun _ =>
      Engine.strict_pure _
  · exact .bind (strict_sql _) fun _ => Engine.strict_pure _

/-- What the transaction of `place_order` answers is the decision that the engine gave. -/
lemma evaluated_of_placeOrderTx {env : Surroundings} {body : PlaceOrderRequest}
    {decision : Decision} (hvalid : validateRequest env body = .ok ())
    (h : (postgres.atomically (placeOrderTx env accountId orderId body) db).1 = .ok decision) :
    evaluated env accountId body db =
      some (coreIntent body (priceEstimate env body), decision) := by
  obtain ⟨account, cfg, haccount, hcfg, rfl, -⟩ :=
    of_commits_placeOrderTx ((strict_placeOrderTx env accountId orderId body).commits h)
  simp [evaluated, hvalid, haccount, hcfg]

lemma placeOrder_db {env : Surroundings} {body : PlaceOrderRequest} (orderId : Uuid) (db : Db)
    (h : validateRequest env body = .ok ()) :
    (placeOrder env accountId orderId body db).2 =
      (postgres.atomically (placeOrderTx env accountId orderId body) db).2 := by
  simp only [placeOrder, h]
  rcases postgres.atomically (placeOrderTx env accountId orderId body) db
    with ⟨_ | ⟨_ | violations⟩, db'⟩ <;> rfl

/-- A request that succeeds has been validated and approved, and its order is placed. -/
lemma of_placeOrder_isOk {env : Surroundings} {body : PlaceOrderRequest}
    (h : (placeOrder env accountId orderId body db).1.isOk = true) :
    validateRequest env body = .ok () ∧
    ∃ account cfg, db.accountRow accountId = some account ∧ db.riskConfig accountId = some cfg ∧
      evaluate (coreIntent body (priceEstimate env body))
        (db.snapshot accountId account env.snapshotDay) cfg.1 = .approved ∧
      ∃ q p, Numeric.store 30 10 body.quantity = some q ∧
        optionalColumn 30 10 body.price = .ok p ∧ q > 0 ∧ (∀ r ∈ db.orders, r.id ≠ orderId) ∧
        (placeOrder env accountId orderId body db).2 =
          db.placed env accountId orderId body q p := by
  cases hvalid : validateRequest env body with
  | error e =>
    rw [placeOrder, hvalid] at h
    cases h
  | ok _ =>
    rw [placeOrder_db orderId db hvalid]
    simp only [placeOrder, hvalid] at h
    rcases htx : postgres.atomically (placeOrderTx env accountId orderId body) db
      with ⟨e | ⟨_ | violations⟩, db'⟩
    · rw [htx] at h
      cases h
    · have hcommit := (strict_placeOrderTx env accountId orderId body).commits
        (show (postgres.atomically (placeOrderTx env accountId orderId body) db).1 = _ by rw [htx])
      rw [htx] at hcommit
      obtain ⟨account, cfg, haccount, hcfg, happroved,
        ⟨hne, -⟩ | ⟨-, q, p, hq, hp, hpos, hid, -, hdb⟩⟩ := of_commits_placeOrderTx hcommit
      · exact (hne rfl).elim
      · exact ⟨rfl, account, cfg, haccount, hcfg, happroved.symm, q, p, hq, hp, hpos, hid, hdb⟩
    · rw [htx] at h
      cases h

/-- The ways in which `place_order` leaves the database. -/
lemma placeOrder_cases (env : Surroundings) (accountId orderId : Uuid) (body : PlaceOrderRequest)
    (db : Db) :
    (∃ riskEvents, (placeOrder env accountId orderId body db).2 = { db with riskEvents }) ∨
    (∃ intent, evaluated env accountId body db = some (intent, .approved) ∧
      intent = coreIntent body (priceEstimate env body) ∧
      ∃ q p, Numeric.store 30 10 body.quantity = some q ∧
        optionalColumn 30 10 body.price = .ok p ∧ q > 0 ∧
        (∀ r ∈ db.orders, r.id ≠ orderId) ∧
        (∀ r ∈ db.orders, r.accountId = accountId → r.clientOrderId ≠ orderId.simple) ∧
        (placeOrder env accountId orderId body db).2 =
          db.placed env accountId orderId body q p) := by
  cases hvalid : validateRequest env body with
  | error e => exact .inl ⟨db.riskEvents, by rw [placeOrder, hvalid]⟩
  | ok _ =>
    rw [placeOrder_db orderId db hvalid]
    rcases Engine.atomically_cases postgres (placeOrderTx env accountId orderId body) db
      with h | ⟨decision, -, h⟩
    · exact .inl ⟨db.riskEvents, h⟩
    · obtain ⟨account, cfg, haccount, hcfg, hdecision, hrest⟩ := of_commits_placeOrderTx h
      rcases hrest with ⟨-, hevents⟩ | ⟨happroved, hplaced⟩
      · exact .inl ⟨_, hevents⟩
      · refine .inr ⟨_, ?_, rfl, hplaced⟩
        rw [hdecision] at happroved
        simp [evaluated, hvalid, haccount, hcfg, happroved]

/-! ### Requests on the risk state -/

/-- The day's row after `trip_circuit_breaker`. -/
def Db.trippedOn (db : Db) (accountId : Uuid) (today : Date) : Db :=
  let p (r : DailyPnlRecord) :=
    decide (r.accountId = accountId) && decide (r.tradingDate = today)
  let trip (r : DailyPnlRecord) : DailyPnlRecord :=
    { r with circuitBreakerTrippedAt := r.circuitBreakerTrippedAt <|> some db.now }
  if db.dailyPnl.any p then { db with dailyPnl := updateWhere p trip db.dailyPnl }
  else
    { db with dailyPnl := db.dailyPnl ++ [⟨accountId, today, 0, some db.now⟩] }

lemma commits_tripCircuitBreaker {today : Date} :
    postgres.Commits (tripCircuitBreaker accountId today) db u db' ↔
      db' = db.trippedOn accountId today := by
  simp only [tripCircuitBreaker, commits_sql, Statement.exec, Db.trippedOn]
  split_ifs with hany
  · constructor
    · rintro ⟨change, hexec, rfl⟩
      cases hexec
      rfl
    · rintro rfl
      exact ⟨_, rfl, rfl⟩
  · constructor
    · rintro ⟨change, hexec, rfl⟩
      cases hexec
      rfl
    · rintro rfl
      exact ⟨_, rfl, rfl⟩

/-- The database after an evaluation: the breaker tripped if the limit is newly reached, and the
events. -/
def Db.evaluatedTrade (db : Db) (env : Surroundings) (accountId : Uuid) (intent : TradeIntent)
    (snapshot : AccountSnapshot) (cfg : RiskConfig) : Db :=
  let evaluatedEvent : RiskEventRecord :=
    ⟨accountId, "trade_evaluated", evaluatedPayload intent (evaluate intent snapshot cfg) snapshot⟩
  if !snapshot.circuitBreakerTripped && circuitBreakerShouldTrip snapshot cfg then
    { db.trippedOn accountId env.tripDay with
      riskEvents := (db.trippedOn accountId env.tripDay).riskEvents ++
        [⟨accountId, "circuit_breaker_tripped", trippedPayload snapshot cfg⟩] ++ [evaluatedEvent] }
  else { db with riskEvents := db.riskEvents ++ [evaluatedEvent] }

lemma Db.trippedOn_frame (db : Db) (accountId : Uuid) (today : Date) :
    ∃ dailyPnl, db.trippedOn accountId today = { db with dailyPnl } := by
  simp only [Db.trippedOn]
  split_ifs
  · exact ⟨_, rfl⟩
  · exact ⟨_, rfl⟩

/-- An evaluation changes the day's row and the events. -/
lemma Db.evaluatedTrade_frame (db : Db) (env : Surroundings) (accountId : Uuid)
    (intent : TradeIntent) (snapshot : AccountSnapshot) (cfg : RiskConfig) :
    ∃ dailyPnl riskEvents, db.evaluatedTrade env accountId intent snapshot cfg =
      { db with dailyPnl, riskEvents } := by
  obtain ⟨dailyPnl, htrip⟩ := db.trippedOn_frame accountId env.tripDay
  simp only [Db.evaluatedTrade, htrip]
  split_ifs
  · exact ⟨_, _, rfl⟩
  · exact ⟨_, _, rfl⟩

/-- An evaluation always commits once the account and its configuration exist. -/
lemma evaluateTradeTx_commits {account : AccountRow} {cfg : RiskConfig × ℤ}
    (haccount : db.accountRow accountId = some account)
    (hcfg : db.riskConfig accountId = some cfg) (env : Surroundings) (intent : TradeIntent) :
    postgres.Commits (evaluateTradeTx env accountId intent) db
      (evaluate intent (db.snapshot accountId account env.snapshotDay) cfg.1)
      (db.evaluatedTrade env accountId intent (db.snapshot accountId account env.snapshotDay)
        cfg.1) := by
  simp only [evaluateTradeTx, Engine.commits_bind, commits_lockAccount, commits_loadRiskConfig,
    commits_loadSnapshot, Db.evaluatedTrade]
  refine ⟨account, db, ⟨haccount, rfl⟩, cfg, db, ⟨hcfg, rfl⟩,
    db.snapshot accountId account env.snapshotDay, db, ⟨rfl, rfl⟩, ?_⟩
  split_ifs with htrip
  · simp only [Engine.commits_bind, commits_tripCircuitBreaker, commits_insertRiskEvent,
      Engine.commits_pure]
    exact ⟨(), _, rfl, (), _, ⟨by decide, rfl⟩, (), _, ⟨by decide, rfl⟩, trivial, rfl⟩
  · simp only [Engine.commits_bind, commits_insertRiskEvent, Engine.commits_pure]
    exact ⟨(), _, ⟨by decide, rfl⟩, trivial, rfl⟩

lemma of_commits_evaluateTradeTx {env : Surroundings} {intent : TradeIntent} {decision : Decision}
    (h : postgres.Commits (evaluateTradeTx env accountId intent) db decision db') :
    ∃ account cfg, db.accountRow accountId = some account ∧ db.riskConfig accountId = some cfg ∧
      decision = evaluate intent (db.snapshot accountId account env.snapshotDay) cfg.1 ∧
      db' = db.evaluatedTrade env accountId intent
        (db.snapshot accountId account env.snapshotDay) cfg.1 := by
  have hstart := h
  simp only [evaluateTradeTx, Engine.commits_bind, commits_lockAccount,
    commits_loadRiskConfig] at hstart
  obtain ⟨account, _, ⟨haccount, rfl⟩, cfg, _, ⟨hcfg, rfl⟩, -⟩ := hstart
  have hcommit := evaluateTradeTx_commits haccount hcfg env intent
  exact ⟨account, cfg, haccount, hcfg, h.unique hcommit⟩

/-- The ways in which `evaluate_trade` leaves the database. -/
lemma evaluateTrade_cases (env : Surroundings) (accountId : Uuid) (intent : TradeIntent)
    (db : Db) :
    (evaluateTrade env accountId intent db).2 = db ∨
      ∃ account cfg, db.accountRow accountId = some account ∧
        db.riskConfig accountId = some cfg ∧
        (evaluateTrade env accountId intent db).2 =
          db.evaluatedTrade env accountId intent
            (db.snapshot accountId account env.snapshotDay) cfg.1 := by
  unfold evaluateTrade
  split_ifs with hblank hneg
  · exact .inl rfl
  · exact .inl rfl
  · rcases Engine.atomically_cases postgres (evaluateTradeTx env accountId intent) db
      with h | ⟨decision, -, h⟩
    · exact .inl h
    · obtain ⟨account, cfg, haccount, hcfg, -, hdb⟩ := of_commits_evaluateTradeTx h
      exact .inr ⟨account, cfg, haccount, hcfg, hdb⟩

/-- The database with another row of the account. -/
def Db.withAccount (db : Db) (accountId : Uuid) (f : AccountRecord → AccountRecord) : Db :=
  { db with accounts := updateWhere (fun r => decide (r.id = accountId)) f db.accounts }

lemma of_commits_putEquityTx {equity : Decimal}
    (h : postgres.Commits (putEquityTx accountId equity) db u db') :
    ∃ account stored payload, db.accountRow accountId = some account ∧
      db' = (db.withAccount accountId fun r => { r with equity := stored }).withEvents
        [⟨accountId, "equity_changed", payload⟩] := by
  simp only [putEquityTx, Engine.commits_bind, commits_lockAccount, commits_sql,
    Statement.exec, column_bind_eq_ok, require_bind_eq_ok, commits_insertRiskEvent] at h
  obtain ⟨account, _, ⟨haccount, rfl⟩, _, _, ⟨change, ⟨y, -, -, hexec⟩, rfl⟩, -, rfl⟩ := h
  cases hexec
  exact ⟨account, y, _, haccount, rfl⟩

lemma of_commits_putRiskConfigTx {body view : RiskConfigView}
    (h : postgres.Commits (putRiskConfigTx accountId body) db view db') :
    ∃ riskConfigs payload, db' = ({ db with riskConfigs } : Db).withEvents
      [⟨accountId, "risk_config_changed", payload⟩] := by
  simp only [putRiskConfigTx, Engine.commits_bind, commits_loadRiskConfig] at h
  obtain ⟨_, _, ⟨-, rfl⟩, h⟩ := h
  split_ifs at h with hversion
  · exact (Engine.not_commits_fail h).elim
  · simp only [Engine.commits_bind] at h
    obtain ⟨updated, _, hupdate, h⟩ := h
    split_ifs at h with hupdated
    · exact (Engine.not_commits_fail h).elim
    · simp only [Engine.commits_bind, commits_insertRiskEvent, Engine.commits_pure] at h
      obtain ⟨_, _, ⟨-, rfl⟩, -, rfl⟩ := h
      simp only [commits_sql, Statement.exec, column_bind_eq_ok, require_bind_eq_ok] at hupdate
      obtain ⟨change, ⟨_, -, _, -, _, -, -, hexec⟩, rfl⟩ := hupdate
      cases hexec
      exact ⟨_, _, rfl⟩

lemma of_commits_engageKillSwitchTx {view : AccountView}
    (h : postgres.Commits (engageKillSwitchTx accountId) db view db') :
    ∃ account, db.accountRow accountId = some account ∧
      ((account.killSwitchEngaged = true ∧ db' = db) ∨
        account.killSwitchEngaged = false ∧ db' = (db.withAccount accountId fun r =>
          { r with status := .killed, killSwitchEngagedAt := some db.now }).withEvents
            [⟨accountId, "kill_switch_engaged", []⟩]) := by
  simp only [engageKillSwitchTx, Engine.commits_bind, commits_lockAccount] at h
  obtain ⟨account, _, ⟨haccount, rfl⟩, h⟩ := h
  refine ⟨account, haccount, ?_⟩
  split_ifs at h with hengaged
  · simp only [Engine.commits_bind, commits_insertRiskEvent, commits_sql, Statement.exec,
      require_bind_eq_ok, Engine.commits_pure] at h
    obtain ⟨_, _, ⟨change, ⟨-, hexec⟩, rfl⟩, _, _, ⟨-, rfl⟩, -, rfl⟩ := h
    cases hexec
    exact .inr ⟨by simpa using hengaged, rfl⟩
  · obtain ⟨-, rfl⟩ := Engine.commits_pure.mp h
    exact .inl ⟨by simpa using hengaged, rfl⟩

lemma of_commits_releaseKillSwitchTx {view : AccountView}
    (h : postgres.Commits (releaseKillSwitchTx accountId) db view db') :
    ∃ account, db.accountRow accountId = some account ∧
      ((account.killSwitchEngaged = false ∧ db' = db) ∨
        account.killSwitchEngaged = true ∧ db' = (db.withAccount accountId fun r =>
          { r with status := .active, killSwitchEngagedAt := none }).withEvents
            [⟨accountId, "kill_switch_released", []⟩]) := by
  simp only [releaseKillSwitchTx, Engine.commits_bind, commits_lockAccount] at h
  obtain ⟨account, _, ⟨haccount, rfl⟩, h⟩ := h
  refine ⟨account, haccount, ?_⟩
  split_ifs at h with hengaged
  · simp only [Engine.commits_bind, commits_insertRiskEvent, commits_sql, Statement.exec,
      require_bind_eq_ok, Engine.commits_pure] at h
    obtain ⟨_, _, ⟨change, ⟨-, hexec⟩, rfl⟩, _, _, ⟨-, rfl⟩, -, rfl⟩ := h
    cases hexec
    exact .inr ⟨by simpa using hengaged, rfl⟩
  · obtain ⟨-, rfl⟩ := Engine.commits_pure.mp h
    exact .inl ⟨by simpa using hengaged, rfl⟩

/-- The requests on equity, limits and the kill switch leave the other tables alone. -/
lemma putEquity_cases (accountId : Uuid) (equity : Decimal) (db : Db) :
    ∃ accounts riskEvents, (putEquity accountId equity db).2 = { db with accounts, riskEvents } := by
  unfold putEquity
  split_ifs with hneg
  · exact ⟨_, _, rfl⟩
  · rcases Engine.atomically_cases postgres (putEquityTx accountId equity) db with h | ⟨_, -, h⟩
    · exact ⟨_, _, h⟩
    · obtain ⟨account, stored, payload, -, hdb⟩ := of_commits_putEquityTx h
      exact ⟨_, _, hdb⟩

lemma putRiskConfig_cases (accountId : Uuid) (body : RiskConfigView) (db : Db) :
    ∃ riskConfigs riskEvents,
      (putRiskConfig accountId body db).2 = { db with riskConfigs, riskEvents } := by
  unfold putRiskConfig
  cases validateRiskConfig body with
  | error e => exact ⟨_, _, rfl⟩
  | ok _ =>
    rcases Engine.atomically_cases postgres (putRiskConfigTx accountId body) db
      with h | ⟨_, -, h⟩
    · exact ⟨_, _, h⟩
    · obtain ⟨riskConfigs, payload, hdb⟩ := of_commits_putRiskConfigTx h
      exact ⟨_, _, hdb⟩

lemma engageKillSwitch_cases (accountId : Uuid) (db : Db) :
    ∃ accounts riskEvents,
      (engageKillSwitch accountId db).2 = { db with accounts, riskEvents } := by
  rcases Engine.atomically_cases postgres (engageKillSwitchTx accountId) db with h | ⟨_, -, h⟩
  · exact ⟨_, _, h⟩
  · obtain ⟨account, -, ⟨-, hdb⟩ | ⟨-, hdb⟩⟩ := of_commits_engageKillSwitchTx h
    · exact ⟨_, _, hdb⟩
    · exact ⟨_, _, hdb⟩

lemma releaseKillSwitch_cases (accountId : Uuid) (db : Db) :
    ∃ accounts riskEvents,
      (releaseKillSwitch accountId db).2 = { db with accounts, riskEvents } := by
  rcases Engine.atomically_cases postgres (releaseKillSwitchTx accountId) db with h | ⟨_, -, h⟩
  · exact ⟨_, _, h⟩
  · obtain ⟨account, -, ⟨-, hdb⟩ | ⟨-, hdb⟩⟩ := of_commits_releaseKillSwitchTx h
    · exact ⟨_, _, hdb⟩
    · exact ⟨_, _, hdb⟩

/-! ### The exchange configuration -/

/-- The guard on a mode switch only reads. -/
lemma of_commits_guardExchangeConfig {body : PutExchangeConfig}
    {row : Option ExchangeConfigRecord}
    (h : postgres.Commits (guardExchangeConfig accountId body row) db u db') : db' = db := by
  have hblocked {b : Bool} {db₁ : Db} (h : postgres.Commits
      (if b = true then fail (.conflict
        ["cannot switch exchange mode: account has open orders or positions"]) else pure () : Tx Unit)
      db₁ u db') : db' = db₁ := by
    split_ifs at h
    · exact (Engine.not_commits_fail h).elim
    · exact (Engine.commits_pure.mp h).2.symm
  cases row with
  | none => exact (Engine.commits_pure.mp h).2.symm
  | some row =>
    simp only [guardExchangeConfig] at h
    split_ifs at h with hversion hmode
    · exact (Engine.not_commits_fail h).elim
    · rw [Engine.commits_bind] at h
      obtain ⟨b, db₁, hactivity, h⟩ := h
      obtain ⟨-, rfl⟩ := commits_hasOpenActivity.mp hactivity
      exact hblocked h
    · rw [Engine.commits_bind] at h
      obtain ⟨b, db₁, hpure, h⟩ := h
      obtain ⟨-, rfl⟩ := Engine.commits_pure.mp hpure
      exact hblocked h

lemma of_commits_encryptOptional {encrypt : String → Except ApiError (List UInt8)}
    {text : Option String} {ct : Option (List UInt8)}
    (h : postgres.Commits (encryptOptional encrypt text) db ct db') :
    db' = db ∧ ct.isSome = text.isSome ∧ ∀ c ∈ ct, ∃ s, encrypt s = .ok c := by
  cases text with
  | none =>
    obtain ⟨rfl, rfl⟩ := Engine.commits_pure.mp h
    exact ⟨rfl, rfl, fun _ hc => nomatch hc⟩
  | some s =>
    simp only [encryptOptional] at h
    cases hct : encrypt s with
    | ok c =>
      rw [hct] at h
      obtain ⟨rfl, rfl⟩ := Engine.commits_pure.mp h
      refine ⟨rfl, rfl, fun c' hc => ⟨s, ?_⟩⟩
      rw [hct, Option.some.inj hc]
    | error e =>
      rw [hct] at h
      exact (Engine.not_commits_fail h).elim

/-- The row that the account reads. -/
def Db.configRow (db : Db) (accountId : Uuid) : Option ExchangeConfigRecord :=
  db.exchangeConfigs.find? fun r => r.accountId = accountId

/-- The account has no open order and no open position. -/
def Db.Idle (db : Db) (accountId : Uuid) : Prop :=
  db.openOrders accountId = [] ∧
    (db.openPositions accountId).filter (fun r => decide (r.quantity > 0)) = []

/-- The configuration of the account has this mode, and the ciphertexts that are given, or else the
ones that it had. -/
structure Db.Configured (db : Db) (accountId : Uuid) (mode : ExchangeMode)
    (keyCt secretCt : Option (List UInt8)) (db' : Db) : Prop where
  frame : ∃ exchangeConfigs, db' = { db with exchangeConfigs }
  others : ∀ a, a ≠ accountId → db'.configRow a = db.configRow a
  row : ∃ row, db'.configRow accountId = some row ∧ row.mode = mode ∧
    row.apiKeyCiphertext = (keyCt <|> (db.configRow accountId).bind (·.apiKeyCiphertext)) ∧
    row.apiSecretCiphertext = (secretCt <|> (db.configRow accountId).bind (·.apiSecretCiphertext))

lemma Db.Configured.exchangeMode {mode : ExchangeMode} {keyCt secretCt : Option (List UInt8)}
    (h : db.Configured accountId mode keyCt secretCt db') (a : Uuid) :
    db'.exchangeMode a = if a = accountId then mode else db.exchangeMode a := by
  have hmode (db : Db) : db.exchangeMode a = ((db.configRow a).map (·.mode)).getD .paper := rfl
  rw [hmode, hmode]
  split_ifs with ha
  · obtain ⟨row, hrow, rfl, -⟩ := h.row
    rw [ha, hrow]
    rfl
  · rw [h.others a ha]

/-- The row that is read is the one of the checked version, so that an update reaches it; unless it
is the account's first row, the mode stays or the account is idle. -/
lemma of_commits_writeExchangeConfig {body : PutExchangeConfig}
    {keyCt secretCt : Option (List UInt8)} {newVersion : ℤ}
    (h : postgres.Commits (writeExchangeConfig accountId body keyCt secretCt newVersion
      (((db.configRow accountId).map (·.version)).getD 0) (db.configRow accountId)) db u db') :
    db.Configured accountId (parseMode body.mode) keyCt secretCt db' ∧
    (db.configRow accountId = none ∨ parseMode body.mode = db.exchangeMode accountId ∨
      db.Idle accountId) := by
  cases hrow : db.configRow accountId with
  | none =>
    rw [hrow] at h
    simp only [writeExchangeConfig, commits_sql, Statement.exec, require_bind_eq_ok] at h
    obtain ⟨change, ⟨hunique, hexec⟩, rfl⟩ := h
    cases hexec
    refine ⟨⟨⟨_, rfl⟩, fun a ha => ?_, ?_⟩, .inl rfl⟩
    · have hne : accountId ≠ a := fun h => ha h.symm
      simp [Db.configRow, List.find?_append, hne]
    · have hnone : (db.exchangeConfigs.find? fun r => r.accountId = accountId) = none := hrow
      simp [Db.configRow, List.find?_append, hnone]
  | some row =>
    rw [hrow] at h
    simp only [writeExchangeConfig, commits_sql, Statement.exec, require_bind_eq_ok] at h
    obtain ⟨change, ⟨hallowed, hexec⟩, rfl⟩ := h
    cases hexec
    have hfind : (db.exchangeConfigs.find? fun r => r.accountId = accountId) = some row := hrow
    have hmem : row ∈ db.exchangeConfigs := List.mem_of_find?_eq_some hrow
    have hid : row.accountId = accountId := by simpa using List.find?_some hrow
    refine ⟨⟨⟨_, rfl⟩, fun a ha => ?_, ?_⟩, .inr ?_⟩
    · simp only [Db.configRow]
      rw [find?_updateWhere]
      · cases hother : db.exchangeConfigs.find? fun r => r.accountId = a with
        | none => rfl
        | some r =>
          have hr : r.accountId = a := by simpa using List.find?_some hother
          simp [ha, hr]
      · exact fun _ => rfl
    · simp only [Db.configRow]
      rw [find?_updateWhere]
      · simp [hfind, hid]
      · exact fun _ => rfl
    · have hmode : db.exchangeMode accountId = row.mode := by
        simp [Db.exchangeMode, hfind]
      have := hallowed row (by simp [hmem, hid])
      rw [hmode, ← hid]
      exact this

/-- The type of the one event of a new configuration. -/
def configEventType (row : Option ExchangeConfigRecord) (body : PutExchangeConfig) : String :=
  if row.map (fun r => modeStr r.mode) ≠ some body.mode then "exchange_mode_switched"
  else if body.apiKey.isSome || body.apiSecret.isSome then "exchange_credentials_rotated"
  else "exchange_mode_switched"

/-- A committed configuration has ciphertexts from the cipher for the texts that are given. -/
lemma of_commits_putExchangeConfigTx {encrypt : String → Except ApiError (List UInt8)}
    {body : PutExchangeConfig} {view : ExchangeConfigView}
    (h : postgres.Commits (putExchangeConfigTx encrypt accountId body) db view db') :
    ∃ keyCt secretCt db₁ payload,
      (keyCt.isSome = body.apiKey.isSome ∧ ∀ c ∈ keyCt, ∃ s, encrypt s = .ok c) ∧
      (secretCt.isSome = body.apiSecret.isSome ∧ ∀ c ∈ secretCt, ∃ s, encrypt s = .ok c) ∧
      db.Configured accountId (parseMode body.mode) keyCt secretCt db₁ ∧
      (db.configRow accountId = none ∨ parseMode body.mode = db.exchangeMode accountId ∨
        db.Idle accountId) ∧
      db' = db₁.withEvents
        [⟨accountId, configEventType (db.configRow accountId) body, payload⟩] := by
  simp only [putExchangeConfigTx, Engine.commits_bind, commits_lockAccount,
    commits_selectExchangeConfig, commits_insertRiskEvent, Engine.commits_pure] at h
  obtain ⟨account, db₀, ⟨-, rfl⟩, row, db₁, ⟨rfl, rfl⟩, _, db₂, hguard, keyCt, db₃, hkey,
    secretCt, db₄, hsecret, _, db₅, hwrite, _, _, ⟨-, rfl⟩, -, rfl⟩ := h
  obtain rfl := of_commits_guardExchangeConfig hguard
  obtain ⟨rfl, hkeyCt⟩ := of_commits_encryptOptional hkey
  obtain ⟨rfl, hsecretCt⟩ := of_commits_encryptOptional hsecret
  obtain ⟨hconfigured, hidle⟩ := of_commits_writeExchangeConfig hwrite
  rw [configEventType, ← hkeyCt.1, ← hsecretCt.1]
  exact ⟨keyCt, secretCt, db₅, _, ⟨rfl, hkeyCt.2⟩, ⟨rfl, hsecretCt.2⟩, hconfigured, hidle, rfl⟩

lemma strict_putExchangeConfigTx (encrypt : String → Except ApiError (List UInt8))
    (accountId : Uuid) (body : PutExchangeConfig) :
    postgres.Strict (putExchangeConfigTx encrypt accountId body) := by
  have hencrypt (text : Option String) : postgres.Strict (encryptOptional encrypt text) := by
    cases text with
    | none => exact Engine.strict_pure _
    | some s =>
      simp only [encryptOptional]
      cases encrypt s with
      | ok ct => exact Engine.strict_pure _
      | error e => exact Engine.strict_done _
  have hactivity : postgres.Strict (hasOpenActivity accountId) :=
    .bind (strict_sql _) fun _ => .ite (Engine.strict_pure _) <|
      .bind (strict_sql _) fun _ => Engine.strict_pure _
  have hguard (row : Option ExchangeConfigRecord) :
      postgres.Strict (guardExchangeConfig accountId body row) := by
    cases row with
    | none => exact Engine.strict_pure _
    | some row =>
      have hblocked (blocked : Bool) : postgres.Strict
          (if blocked then Program.fail (.conflict
            ["cannot switch exchange mode: account has open orders or positions"])
          else pure () : Tx Unit) :=
        .ite (Engine.strict_done _) (Engine.strict_pure _)
      exact .ite (Engine.strict_done _) <|
        .ite (.bind hactivity hblocked) (.bind (Engine.strict_pure _) hblocked)
  have hwrite (keyCt secretCt : Option (List UInt8)) (newVersion currentVersion : ℤ)
      (row : Option ExchangeConfigRecord) : postgres.Strict
        (writeExchangeConfig accountId body keyCt secretCt newVersion currentVersion row) := by
    cases row <;> exact strict_sql _
  refine .bind (strict_lockAccount _) fun _ => .bind (strict_sql _) fun row =>
    .bind (hguard row) fun _ => .bind (hencrypt _) fun _ => .bind (hencrypt _) fun _ =>
      .bind (hwrite _ _ _ _ _) fun _ => .bind (strict_sql _) fun _ => Engine.strict_pure _

/-- The ways in which `put_exchange_config` leaves the database. -/
lemma putExchangeConfig_cases (encrypt : String → Except ApiError (List UInt8)) (accountId : Uuid)
    (body : PutExchangeConfig) (db : Db) :
    (putExchangeConfig encrypt accountId body db).2 = db ∨
    ((∃ exchangeConfigs riskEvents, (putExchangeConfig encrypt accountId body db).2 =
        { db with exchangeConfigs, riskEvents }) ∧
      (∀ a, (putExchangeConfig encrypt accountId body db).2.exchangeMode a =
        if a = accountId then parseMode body.mode else db.exchangeMode a) ∧
      (db.configRow accountId = none ∨ parseMode body.mode = db.exchangeMode accountId ∨
        db.Idle accountId)) := by
  unfold putExchangeConfig
  split_ifs with hmode
  · exact .inl rfl
  · rcases Engine.atomically_cases postgres (putExchangeConfigTx encrypt accountId body) db
      with h | ⟨_, -, h⟩
    · exact .inl h
    · obtain ⟨_, _, db₁, _, -, -, hconfigured, hidle, hdb⟩ := of_commits_putExchangeConfigTx h
      obtain ⟨exchangeConfigs, rfl⟩ := hconfigured.frame
      rw [hdb]
      exact .inr ⟨⟨_, _, rfl⟩, hconfigured.exchangeMode, hidle⟩

end

end Confluence
