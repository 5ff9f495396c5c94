import Confluence.Core.Engine
import Confluence.Server.Db
import Confluence.Server.Validators

/-!
# Routes

The handlers that read or change an account's risk state, orders and exchange mode. A handler
takes what it reads outside the database as `Surroundings`, runs its one transaction and answers.
-/

namespace Confluence

/-- What a handler reads outside the database: the shared stores and the clocks of the server, each
as of the moment it is read. -/
structure Surroundings where
  symbols : SymbolMetadataStore
  marketData : MarketDataProvider
  symbolsReadAt : Instant
  marketReadAt : Instant
  snapshotDay : Date
  tripDay : Date

/-- The characters that `str::trim` removes. -/
def isTrimmed (c : Char) : Bool :=
  (0x9 ≤ c.val && c.val ≤ 0xD) || c.val == 0x20 || c.val == 0x85 || c.val == 0xA0 ||
    c.val == 0x1680 || (0x2000 ≤ c.val && c.val ≤ 0x200A) || c.val == 0x2028 ||
    c.val == 0x2029 || c.val == 0x202F || c.val == 0x205F || c.val == 0x3000

/-- `s.trim().is_empty()`. -/
def isBlank (s : String) : Bool := s.toList.all isTrimmed

/-! ### Accounts -/

structure AccountView where
  id : Uuid
  status : AccountStatus
  equity : Decimal
  killSwitchEngaged : Bool
deriving DecidableEq

def createAccountTx (id : Uuid) (equity : Decimal) : Tx AccountView := do
  sql (.insertAccount id equity)
  sql (.insertRiskConfig id)
  insertRiskEvent id "account_created" [("equity", .decimal equity)]
  return { id, status := .active, equity, killSwitchEngaged := false }

/-- `id` is the identifier that the handler draws. -/
def createAccount (id : Uuid) (equity : Option Decimal) (db : Db) : Except ApiError AccountView × Db :=
  if equity.getD 0 < 0 then (.error (.invalid ["equity must be >= 0"]), db)
  else postgres.atomically (createAccountTx id (equity.getD 0)) db

/-! ### Placing orders -/

structure PlaceOrderRequest where
  symbol : String
  side : OrderSide
  orderType : OrderType
  quantity : Decimal
  price : Option Decimal
deriving DecidableEq

structure OrderView where
  id : Uuid
  status : String
deriving DecidableEq

def OrderSide.tradeSide : OrderSide → TradeSide
  | buy => .buy
  | sell => .sell

/-- The price that the engine sizes the order with. -/
def evaluationPrice (body : PlaceOrderRequest) (priceEst : Option PriceEstimate) : Decimal :=
  body.price.getD ((priceEst.map (·.price)).getD 0)

def coreIntent (body : PlaceOrderRequest) (priceEst : Option PriceEstimate) : TradeIntent :=
  { symbol := body.symbol, side := body.side.tradeSide, quantity := body.quantity,
    price := evaluationPrice body priceEst }

/-- The conservative estimate for the order's side of the book. -/
def priceEstimate (env : Surroundings) (body : PlaceOrderRequest) : Option PriceEstimate :=
  let isBuy := decide (body.side = .buy)
  (env.marketData.conservativeEstimate body.symbol isBuy env.marketReadAt).map fun est =>
    { price := est.price
      source := if isBuy then .bestAsk else .bestBid
      isFresh := est.isFresh }

/-- Steps 1-3: request and filter validation, without the database. -/
def validateRequest (env : Surroundings) (body : PlaceOrderRequest) : Except ApiError Unit :=
  if isBlank body.symbol then .error (.invalid ["symbol must not be empty"])
  else if body.quantity ≤ 0 then .error (.invalid ["quantity must be > 0"])
  else
    let intent : OrderIntent :=
      { symbol := body.symbol, side := body.side, orderType := body.orderType,
        quantity := body.quantity, price := body.price }
    match env.symbols.get body.symbol env.symbolsReadAt with
    | none => .error (.invalid ["unknown or stale symbol metadata: ", body.symbol])
    | some symbolMeta =>
      (validateOrder intent symbolMeta (priceEstimate env body)).mapError fun e => .invalid e.msg

/-- Steps 4-9: risk evaluation and insertion, one transaction. A rejection commits its event. -/
def placeOrderTx (env : Surroundings) (accountId orderId : Uuid) (body : PlaceOrderRequest) :
    Tx Decision := do
  let account ← lockAccount accountId
  let (riskCfg, _) ← loadRiskConfig accountId
  let exchangeMode ← loadExchangeMode accountId
  let snapshot ← loadSnapshot accountId account env.snapshotDay
  let intent := coreIntent body (priceEstimate env body)
  let decision := evaluate intent snapshot riskCfg
  if decision.isApproved then do
    insertOrder orderId accountId orderId.simple body.symbol body.side body.orderType
      body.quantity body.price exchangeMode
    insertExchangeCommand accountId .submitOrder exchangeMode (toString orderId ++ ":submit")
      (orderPayload orderId)
    insertRiskEvent accountId "order_placed"
      [("order_id", .uuid orderId), ("intent", .intent intent)]
    return decision
  else do
    insertRiskEvent accountId "order_rejected"
      [("intent", .intent intent), ("decision", .decision decision)]
    return decision

/-- `orderId` is the identifier that the handler draws. -/
def placeOrder (env : Surroundings) (accountId orderId : Uuid) (body : PlaceOrderRequest)
    (db : Db) : Except ApiError OrderView × Db :=
  match validateRequest env body with
  | .error e => (.error e, db)
  | .ok () =>
    match postgres.atomically (placeOrderTx env accountId orderId body) db with
    | (.ok .approved, db') => (.ok { id := orderId, status := "pending" }, db')
    | (.ok decision, db') => (.error (.invalid ["order rejected: ", .decision decision]), db')
    | (.error e, db') => (.error e, db')

/-! ### Evaluating trades -/

/-- The payload of `circuit_breaker_tripped`. -/
def trippedPayload (snapshot : AccountSnapshot) (cfg : RiskConfig) : Payload :=
  [("today_realized_loss", .decimal snapshot.todayRealizedLoss),
    ("equity", .decimal snapshot.equity),
    ("daily_max_loss_pct", .decimal cfg.dailyMaxLossPct)]

/-- The payload of `trade_evaluated`. -/
def evaluatedPayload (intent : TradeIntent) (decision : Decision) (snapshot : AccountSnapshot) :
    Payload :=
  [("intent", .intent intent), ("decision", .decision decision),
    ("snapshot", .obj [
      ("equity", .decimal snapshot.equity),
      ("today_realized_loss", .decimal snapshot.todayRealizedLoss),
      ("kill_switch_engaged", .bool snapshot.killSwitchEngaged),
      ("circuit_breaker_tripped", .bool snapshot.circuitBreakerTripped),
      ("open_position_count", .int snapshot.openPositions.length)])]

def evaluateTradeTx (env : Surroundings) (accountId : Uuid) (intent : TradeIntent) :
    Tx Decision := do
  let account ← lockAccount accountId
  let (cfg, _) ← loadRiskConfig accountId
  let snapshot ← loadSnapshot accountId account env.snapshotDay
  let decision := evaluate intent snapshot cfg
  -- persist a newly detected trip, so that the halt outlives this call
  if !snapshot.circuitBreakerTripped && circuitBreakerShouldTrip snapshot cfg then do
    tripCircuitBreaker accountId env.tripDay
    insertRiskEvent accountId "circuit_breaker_tripped" (trippedPayload snapshot cfg)
  insertRiskEvent accountId "trade_evaluated" (evaluatedPayload intent decision snapshot)
  return decision

def evaluateTrade (env : Surroundings) (accountId : Uuid) (intent : TradeIntent) (db : Db) :
    Except ApiError Decision × Db :=
  if isBlank intent.symbol then (.error (.invalid ["symbol must not be empty"]), db)
  else if intent.quantity < 0 ∨ intent.price < 0 then
    (.error (.invalid ["quantity and price must be >= 0"]), db)
  else postgres.atomically (evaluateTradeTx env accountId intent) db

/-! ### Equity and risk configuration -/

def putEquityTx (accountId : Uuid) (equity : Decimal) : Tx Unit := do
  let account ← lockAccount accountId
  sql (.updateEquity accountId equity)
  insertRiskEvent accountId "equity_changed"
    [("old", .decimal account.equity), ("new", .decimal equity)]

def putEquity (accountId : Uuid) (equity : Decimal) (db : Db) : Except ApiError Unit × Db :=
  if equity < 0 then (.error (.invalid ["equity must be >= 0"]), db)
  else postgres.atomically (putEquityTx accountId equity) db

structure RiskConfigView where
  config : RiskConfig
  version : ℤ
deriving DecidableEq

/-- The fields of a configuration in an audit event. -/
def RiskConfigView.payload (view : RiskConfigView) : Payload :=
  [("daily_max_loss_pct", .decimal view.config.dailyMaxLossPct),
    ("max_position_pct_equity", .decimal view.config.maxPositionPctEquity),
    ("max_concurrent_positions", .int view.config.maxConcurrentPositions),
    ("max_correlated_exposure_pct", .decimal view.config.maxCorrelatedExposurePct),
    ("version", .int view.version)]

def checkPct (name : String) (v : Decimal) : Except ApiError Unit :=
  if v ≤ 0 ∨ v > 100 then .error (.invalid [name, " must be in (0, 100]"]) else .ok ()

def validateRiskConfig (body : RiskConfigView) : Except ApiError Unit := do
  checkPct "daily_max_loss_pct" body.config.dailyMaxLossPct
  checkPct "max_position_pct_equity" body.config.maxPositionPctEquity
  checkPct "max_correlated_exposure_pct" body.config.maxCorrelatedExposurePct
  if body.config.maxConcurrentPositions ≤ 0 then
    throw (.invalid ["max_concurrent_positions must be > 0"])

def putRiskConfigTx (accountId : Uuid) (body : RiskConfigView) : Tx RiskConfigView := do
  let (old, currentVersion) ← loadRiskConfig accountId
  if currentVersion ≠ body.version then
    Program.fail (.conflict
      ["risk config version is ", currentVersion, ", request had ", body.version])
  else do
    let newVersion := currentVersion + 1
    let updated ← sql (.updateRiskConfig accountId body.config newVersion currentVersion)
    -- a concurrent writer may have taken the version between the read and the update
    if updated ≠ 1 then
      Program.fail (.conflict ["risk config was modified concurrently; re-read and retry"])
    else do
      insertRiskEvent accountId "risk_config_changed"
        [("old", .obj (RiskConfigView.payload ⟨old, currentVersion⟩)),
          ("new", .obj (RiskConfigView.payload ⟨body.config, newVersion⟩))]
      return { body with version := newVersion }

def putRiskConfig (accountId : Uuid) (body : RiskConfigView) (db : Db) :
    Except ApiError RiskConfigView × Db :=
  match validateRiskConfig body with
  | .error e => (.error e, db)
  | .ok () => postgres.atomically (putRiskConfigTx accountId body) db

/-! ### Correlation groups -/

structure CorrelationGroupDef where
  name : String
  symbols : List String
deriving DecidableEq

def CorrelationGroupDef.datum (group : CorrelationGroupDef) : Datum :=
  .obj [("name", .text group.name), ("symbols", .arr (group.symbols.map .text))]

/-- Check the symbols of one group and add them to those seen so far. -/
def checkGroupSymbols : List String → List String → Except ApiError (List String)
  | seen, [] => .ok seen
  | seen, s :: symbols =>
    if isBlank s then .error (.invalid ["symbol must not be empty"])
    else if s ∈ seen then .error (.invalid ["symbol ", s, " appears in more than one group"])
    else checkGroupSymbols (s :: seen) symbols

def checkGroups : List String → List CorrelationGroupDef → Except ApiError Unit
  | _, [] => .ok ()
  | seen, g :: groups =>
    if isBlank g.name then .error (.invalid ["group name must not be empty"])
    else do
      let seen ← checkGroupSymbols seen g.symbols
      checkGroups seen groups

def insertGroupAssets (groupId accountId : Uuid) : List String → Tx Unit
  | [] => pure ()
  | s :: symbols => do
    sql (.insertCorrelationGroupAsset groupId accountId s)
    insertGroupAssets groupId accountId symbols

/-- Insert the groups with the identifiers that the handler draws for them. -/
def insertGroups (accountId : Uuid) : List (Uuid × CorrelationGroupDef) → Tx Unit
  | [] => pure ()
  | (groupId, g) :: groups => do
    sql (.insertCorrelationGroup groupId accountId g.name)
    insertGroupAssets groupId accountId g.symbols
    insertGroups accountId groups

def putCorrelationGroupsTx (accountId : Uuid) (groups : List (Uuid × CorrelationGroupDef)) :
    Tx Unit := do
  let _ ← lockAccount accountId
  sql (.deleteCorrelationGroups accountId)
  insertGroups accountId groups
  insertRiskEvent accountId "risk_config_changed"
    [("correlation_groups", .arr (groups.map fun g => g.2.datum))]

/-- Replace all correlation groups of the account. -/
def putCorrelationGroups (accountId : Uuid) (groups : List (Uuid × CorrelationGroupDef)) (db : Db) :
    Except ApiError Unit × Db :=
  match checkGroups [] (groups.map (·.2)) with
  | .error e => (.error e, db)
  | .ok () => postgres.atomically (putCorrelationGroupsTx accountId groups) db

/-! ### Kill switch -/

def engageKillSwitchTx (accountId : Uuid) : Tx AccountView := do
  let account ← lockAccount accountId
  if !account.killSwitchEngaged then do
    sql (.engageKillSwitch accountId)
    insertRiskEvent accountId "kill_switch_engaged" []
  return { id := accountId, status := .killed, equity := account.equity, killSwitchEngaged := true }

def engageKillSwitch (accountId : Uuid) (db : Db) : Except ApiError AccountView × Db :=
  postgres.atomically (engageKillSwitchTx accountId) db

def releaseKillSwitchTx (accountId : Uuid) : Tx AccountView := do
  let account ← lockAccount accountId
  if account.killSwitchEngaged then do
    sql (.releaseKillSwitch accountId)
    insertRiskEvent accountId "kill_switch_released" []
  let status := if account.killSwitchEngaged then .active else account.status
  return { id := accountId, status, equity := account.equity, killSwitchEngaged := false }

def releaseKillSwitch (accountId : Uuid) (db : Db) : Except ApiError AccountView × Db :=
  postgres.atomically (releaseKillSwitchTx accountId) db

/-! ### Exchange configuration -/

structure PutExchangeConfig where
  mode : String
  testnet : Bool
  apiKey : Option String
  apiSecret : Option String
  version : ℤ
deriving DecidableEq

structure ExchangeConfigView where
  mode : String
  testnet : Bool
  hasCredentials : Bool
  version : ℤ
deriving DecidableEq

def parseMode (s : String) : ExchangeMode := if s = "live" then .live else .paper

def modeStr : ExchangeMode → String
  | .paper => "paper"
  | .live => "live"

/-- Optional text through the cipher. -/
def encryptOptional (encrypt : String → Except ApiError (List UInt8)) :
    Option String → Tx (Option (List UInt8))
  | none => pure none
  | some s =>
    match encrypt s with
    | .ok ct => pure (some ct)
    | .error e => Program.fail e

/-- For an existing row, the version check and the first layer of the mode-switch guard; the trigger
is the second. -/
def guardExchangeConfig (accountId : Uuid) (body : PutExchangeConfig) :
    Option ExchangeConfigRecord → Tx Unit
  | none => pure ()
  | some row =>
    if row.version ≠ body.version then
      Program.fail (.conflict
        ["exchange config version is ", row.version, ", request had ", body.version])
    else do
      let blocked ← if modeStr row.mode ≠ body.mode then hasOpenActivity accountId else pure false
      if blocked then
        Program.fail (.conflict
          ["cannot switch exchange mode: account has open orders or positions"])
      else pure ()

/-- Insert the first row, or update the one that exists. -/
def writeExchangeConfig (accountId : Uuid) (body : PutExchangeConfig)
    (keyCt secretCt : Option (List UInt8)) (newVersion currentVersion : ℤ) :
    Option ExchangeConfigRecord → Tx Unit
  | some _ =>
    sql (.updateExchangeConfig accountId (parseMode body.mode) body.testnet keyCt secretCt
      newVersion currentVersion)
  | none =>
    sql (.insertExchangeConfig
      { accountId, mode := parseMode body.mode, testnet := body.testnet
        apiKeyCiphertext := keyCt, apiSecretCiphertext := secretCt, version := newVersion })

/-- `encrypt` is the cipher under the configured key and the account's id, with its errors. -/
def putExchangeConfigTx (encrypt : String → Except ApiError (List UInt8)) (accountId : Uuid)
    (body : PutExchangeConfig) : Tx ExchangeConfigView := do
  let _ ← lockAccount accountId
  let existing ← sql (.selectExchangeConfig accountId)
  let currentVersion := (existing.map (·.version)).getD 0
  let hadCredentials := (existing.map (·.apiKeyCiphertext.isSome)).getD false
  guardExchangeConfig accountId body existing
  let keyCt ← encryptOptional encrypt body.apiKey
  let secretCt ← encryptOptional encrypt body.apiSecret
  let newVersion := currentVersion + 1
  writeExchangeConfig accountId body keyCt secretCt newVersion currentVersion existing
  let eventType :=
    if existing.map (fun r => modeStr r.mode) ≠ some body.mode then "exchange_mode_switched"
    else if keyCt.isSome || secretCt.isSome then "exchange_credentials_rotated"
    else "exchange_mode_switched"
  insertRiskEvent accountId eventType
    [("mode", .text body.mode), ("testnet", .bool body.testnet), ("version", .int newVersion)]
  return { mode := body.mode, testnet := body.testnet
           hasCredentials := keyCt.isSome || hadCredentials, version := newVersion }

def putExchangeConfig (encrypt : String → Except ApiError (List UInt8)) (accountId : Uuid)
    (body : PutExchangeConfig) (db : Db) : Except ApiError ExchangeConfigView × Db :=
  if body.mode ≠ "paper" ∧ body.mode ≠ "live" then
    (.error (.invalid ["mode must be 'paper' or 'live'"]), db)
  else postgres.atomically (putExchangeConfigTx encrypt accountId body) db

/-! ### Audit log -/

structure EventsQuery where
  limit : Option ℤ
  before : Option Uuid

/-- `columns` are the identifiers and times of the account's events. -/
def listRiskEvents (columns : ℕ → Uuid × Timestamp) (accountId : Uuid) (q : EventsQuery) (db : Db) :
    Except ApiError (List RiskEventView) × Db :=
  let limit := min (max (q.limit.getD 50) 1) 500
  postgres.atomically (sql (.selectRiskEvents columns accountId q.before limit.toNat)) db

end Confluence
