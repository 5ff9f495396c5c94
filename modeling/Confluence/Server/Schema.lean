import Confluence.Exchange.Adapter
import Confluence.Library.Numeric

/-!
# Tables

The rows of the tables with the columns that the program reads or writes, and the constraints
that the migrations put on them. Enumerated text columns are enumerations here, so that their
checks hold by type. Foreign keys are left out, except for the groups of symbols: every other
insertion below comes after a read or the insertion of the row that it refers to.
-/

namespace Confluence

/-- The clock of the database. -/
abbrev Timestamp := ℕ

/-- A trading day (UTC). -/
abbrev Date := ℕ

/-! ### Accounts and risk configuration -/

inductive AccountStatus
  | active
  | killed
  | suspended
deriving DecidableEq

structure AccountRecord where
  id : Uuid
  status : AccountStatus
  equity : Decimal
  killSwitchEngagedAt : Option Timestamp
deriving DecidableEq

def AccountRecord.Checked (r : AccountRecord) : Prop :=
  (r.status = .killed ↔ r.killSwitchEngagedAt.isSome) ∧ r.equity ≥ 0

structure RiskConfigRecord where
  accountId : Uuid
  config : RiskConfig
  version : ℤ
deriving DecidableEq

/-- The row that an account is born with: the placeholder defaults of the columns. -/
def RiskConfigRecord.placeholder (accountId : Uuid) : RiskConfigRecord where
  accountId
  config := {
    dailyMaxLossPct := 2
    maxPositionPctEquity := 5
    maxConcurrentPositions := 5
    maxCorrelatedExposurePct := 10 }
  version := 1

def RiskConfigRecord.Checked (r : RiskConfigRecord) : Prop :=
  (r.config.dailyMaxLossPct > 0 ∧ r.config.dailyMaxLossPct ≤ 100) ∧
  (r.config.maxPositionPctEquity > 0 ∧ r.config.maxPositionPctEquity ≤ 100) ∧
  r.config.maxConcurrentPositions > 0 ∧
  (r.config.maxCorrelatedExposurePct > 0 ∧ r.config.maxCorrelatedExposurePct ≤ 100)

structure CorrelationGroupRecord where
  id : Uuid
  accountId : Uuid
  name : String
deriving DecidableEq

structure CorrelationGroupAssetRecord where
  groupId : Uuid
  accountId : Uuid
  symbol : String
deriving DecidableEq

structure DailyPnlRecord where
  accountId : Uuid
  tradingDate : Date
  realizedLoss : Decimal
  circuitBreakerTrippedAt : Option Timestamp
deriving DecidableEq

/-! ### Positions -/

inductive PositionStatus
  | open
  | closed
deriving DecidableEq

structure PositionRecord where
  id : ℕ
  accountId : Uuid
  symbol : String
  side : PositionSide
  quantity : Decimal
  avgEntryPrice : Decimal
  status : PositionStatus
  closedAt : Option Timestamp
deriving DecidableEq

def PositionRecord.Checked (r : PositionRecord) : Prop :=
  r.quantity > 0 ∧ r.avgEntryPrice ≥ 0 ∧ (r.status = .closed ↔ r.closedAt.isSome)

/-- Long positive, short negative. -/
def PositionRecord.signed (r : PositionRecord) : Decimal :=
  if r.side = .short then -r.quantity else r.quantity

/-! ### Orders, fills and commands -/

structure OrderRecord where
  id : Uuid
  accountId : Uuid
  clientOrderId : String
  symbol : String
  side : OrderSide
  orderType : OrderType
  quantity : Decimal
  price : Option Decimal
  status : OrderStatus
  exchangeMode : ExchangeMode
  filledQuantity : Decimal
deriving DecidableEq

def OrderRecord.Checked (r : OrderRecord) : Prop :=
  r.quantity > 0 ∧ (∀ p ∈ r.price, p > 0) ∧ r.filledQuantity ≥ 0 ∧ r.filledQuantity ≤ r.quantity

structure FillRecord where
  accountId : Uuid
  orderId : Uuid
  fill : Fill
deriving DecidableEq

def FillRecord.Checked (r : FillRecord) : Prop :=
  r.fill.quantity > 0 ∧ r.fill.price > 0 ∧ r.fill.fee ≥ 0

inductive CommandType
  | submitOrder
  | cancelOrder
  | reconcileOrder
  | unknown (name : String)
deriving DecidableEq

inductive CommandStatus
  | pending
  | leased
  | delivered
  | reconciliationRequired
  | permanentlyRejected
deriving DecidableEq

structure CommandRecord where
  id : ℕ
  accountId : Uuid
  commandType : CommandType
  exchangeMode : ExchangeMode
  status : CommandStatus
  idempotencyKey : String
  payload : Json
  attempts : ℕ
  leasedUntil : Option Timestamp
  createdAt : Timestamp

def CommandRecord.Checked (r : CommandRecord) : Prop :=
  r.commandType = .submitOrder ∨ r.commandType = .cancelOrder ∨ r.commandType = .reconcileOrder

structure ExchangeConfigRecord where
  accountId : Uuid
  mode : ExchangeMode
  testnet : Bool
  apiKeyCiphertext : Option (List UInt8)
  apiSecretCiphertext : Option (List UInt8)
  version : ℤ
deriving DecidableEq

/-! ### Audit events -/

structure RiskEventRecord where
  accountId : Uuid
  eventType : String
  payload : Payload

/-- The event types that `risk_events` admits. -/
def riskEventTypes : List String :=
  ["trade_evaluated", "circuit_breaker_tripped", "kill_switch_engaged", "kill_switch_released",
    "risk_config_changed", "equity_changed", "account_created", "order_placed", "order_rejected",
    "order_filled", "order_partially_filled", "order_cancel_requested", "order_cancelled",
    "exchange_reconciliation_required", "exchange_mode_switched", "exchange_credentials_rotated"]

def RiskEventRecord.Checked (r : RiskEventRecord) : Prop := r.eventType ∈ riskEventTypes

instance (r : AccountRecord) : Decidable r.Checked := inferInstanceAs (Decidable (_ ∧ _))
instance (r : RiskConfigRecord) : Decidable r.Checked := inferInstanceAs (Decidable (_ ∧ _))
instance (r : PositionRecord) : Decidable r.Checked := inferInstanceAs (Decidable (_ ∧ _))
instance (r : OrderRecord) : Decidable r.Checked := inferInstanceAs (Decidable (_ ∧ _))
instance (r : FillRecord) : Decidable r.Checked := inferInstanceAs (Decidable (_ ∧ _))
instance (r : CommandRecord) : Decidable r.Checked := inferInstanceAs (Decidable (_ ∨ _))
instance (r : RiskEventRecord) : Decidable r.Checked := inferInstanceAs (Decidable (_ ∈ _))

/-! ### The database -/

/-- The tables, and the clock that `now()` reads. -/
structure Db where
  now : Timestamp
  accounts : List AccountRecord
  riskConfigs : List RiskConfigRecord
  correlationGroups : List CorrelationGroupRecord
  correlationGroupAssets : List CorrelationGroupAssetRecord
  positions : List PositionRecord
  dailyPnl : List DailyPnlRecord
  orders : List OrderRecord
  orderFills : List FillRecord
  exchangeConfigs : List ExchangeConfigRecord
  exchangeCommands : List CommandRecord
  riskEvents : List RiskEventRecord

namespace Db

/-- The tables after the migrations. -/
def empty : Db where
  now := 0
  accounts := []
  riskConfigs := []
  correlationGroups := []
  correlationGroupAssets := []
  positions := []
  dailyPnl := []
  orders := []
  orderFills := []
  exchangeConfigs := []
  exchangeCommands := []
  riskEvents := []

/-- The open position rows of an account on a symbol. -/
def openOn (db : Db) (accountId : Uuid) (symbol : String) : List PositionRecord :=
  db.positions.filter fun r =>
    decide (r.accountId = accountId) && decide (r.symbol = symbol) && decide (r.status = .open)

/-- The signed open quantity of an account on a symbol, zero when no position is open. -/
def signedOpen (db : Db) (accountId : Uuid) (symbol : String) : Decimal :=
  ((db.openOn accountId symbol).map (·.signed)).sum

end Db

end Confluence
