import Confluence.Library.ReadCommitted
import Confluence.Server.Statement

/-!
# Row locks

What a statement locks until its transaction ends. A statement that finds one of these locks in the
hands of another transaction waits for it. The shared locks of foreign keys are left out, which
could only make a transaction wait more.
-/

namespace Confluence

/-- A row, or the entry of a unique index that an insertion claims. -/
inductive RowLock
  | account (id : Uuid)
  | riskConfig (accountId : Uuid)
  | dailyPnl (accountId : Uuid) (day : Date)
  | exchangeConfig (accountId : Uuid)
  | order (id : Uuid)
  | clientOrderId (accountId : Uuid) (clientOrderId : String)
  | fill (accountId : Uuid) (exchangeTradeId : String)
  | command (id : ℕ)
  | idempotencyKey (accountId : Uuid) (key : String)
  | position (id : ℕ)
  | openPosition (accountId : Uuid) (symbol : String)
  | correlationGroup (id : Uuid)
  | correlationGroupName (accountId : Uuid) (name : String)
  | correlationGroupAsset (groupId : Uuid) (symbol : String)
  | correlatedSymbol (accountId : Uuid) (symbol : String)
deriving DecidableEq

def Db.accountLocks (db : Db) (accountId : Uuid) : List RowLock :=
  (db.accounts.filter fun r => r.id = accountId).map fun r => .account r.id

def Db.orderLocks (db : Db) (accountId orderId : Uuid) : List RowLock :=
  (db.orders.filter fun r => decide (r.id = orderId) && decide (r.accountId = accountId)).map
    fun r => .order r.id

def Db.commandLocks (db : Db) (id : ℕ) : List RowLock :=
  (db.exchangeCommands.filter fun r => r.id = id).map fun r => .command r.id

def Db.positionLocks (db : Db) (id : ℕ) : List RowLock :=
  (db.positions.filter fun r => r.id = id).map fun r => .position r.id

def Statement.locks {β : Type} (q : Statement β) (db : Db) : List RowLock :=
  match q with
  | .selectAccountForUpdate accountId => db.accountLocks accountId
  | .insertAccount id _ => [.account id]
  | .updateEquity accountId _ => db.accountLocks accountId
  | .engageKillSwitch accountId => db.accountLocks accountId
  | .releaseKillSwitch accountId => db.accountLocks accountId
  | .insertRiskConfig accountId => [.riskConfig accountId]
  | .updateRiskConfig accountId .. =>
    (db.riskConfigs.filter fun r => r.accountId = accountId).map fun r => .riskConfig r.accountId
  | .upsertCircuitBreaker accountId today => [.dailyPnl accountId today]
  | .insertExchangeConfig row => [.exchangeConfig row.accountId]
  | .updateExchangeConfig accountId .. =>
    (db.exchangeConfigs.filter fun r => r.accountId = accountId).map
      fun r => .exchangeConfig r.accountId
  | .insertOrder id accountId clientOrderId .. =>
    [.order id, .clientOrderId accountId clientOrderId]
  | .selectOrderForUpdate accountId orderId => db.orderLocks accountId orderId
  | .updateOrder accountId orderId .. => db.orderLocks accountId orderId
  | .insertFill accountId _ fill => [.fill accountId fill.exchangeTradeId]
  | .insertCommand accountId _ _ idempotencyKey _ => [.idempotencyKey accountId idempotencyKey]
  | .claimCommands limit _ locked => (db.claimCandidates limit locked).map .command
  | .updateCommandStatus id _ => db.commandLocks id
  | .requeueCommand id => db.commandLocks id
  | .insertPosition accountId symbol .. => [.openPosition accountId symbol]
  | .closePosition id => db.positionLocks id
  | .updatePosition id .. => db.positionLocks id
  | .deleteCorrelationGroups accountId =>
    ((db.correlationGroups.filter fun g => g.accountId = accountId).map fun g =>
      .correlationGroup g.id) ++
    (db.correlationGroupAssets.filter fun a => a.accountId = accountId).map fun a =>
      .correlationGroupAsset a.groupId a.symbol
  | .insertCorrelationGroup id accountId name =>
    [.correlationGroup id, .correlationGroupName accountId name]
  | .insertCorrelationGroupAsset groupId accountId symbol =>
    [.correlationGroupAsset groupId symbol, .correlatedSymbol accountId symbol]
  | .selectRiskConfig _ | .selectOpenPositions _ | .selectCorrelationGroups _ | .selectDailyPnl ..
  | .selectExchangeConfig _ | .countOpenOrders _ | .countOpenPositions _ | .selectFills ..
  | .selectOpenPosition .. | .insertRiskEvent .. | .selectRiskEvents .. => []

end Confluence
