import Confluence.Server.Db

/-!
# Outbox worker

The transactions that the worker runs for a claimed command, `dispatch` and `run_once` as one
worker runs them, and the same work cut into the stages between which other workers and requests
may run.
-/

namespace Confluence

open Program

structure Supervisor where
  paperAdapter : Option ExchangeAdapter
  liveAdapter : Option ExchangeAdapter

def Supervisor.resolve (supervisor : Supervisor) : ExchangeMode → Option ExchangeAdapter
  | .paper => supervisor.paperAdapter
  | .live => supervisor.liveAdapter

inductive DispatchOutcome
  | retry
  | permanentlyRejected
  | reconciliationRequired
deriving DecidableEq

/-- Deterministic rejections are permanent, everything else is retried. -/
def classifyExchangeError : ExchangeError → DispatchOutcome
  | .insufficientBalance .. => .permanentlyRejected
  | .filterViolation _ => .permanentlyRejected
  | .symbolNotFound _ => .permanentlyRejected
  | _ => .retry

def extractOrderId (cmd : ClaimedCommand) : Option Uuid :=
  (cmd.payload.getStr "order_id").bind Uuid.parseStr

/-- Programs of the worker. -/
abbrev WorkerTx := Program Statement SqlError DispatchOutcome

/-! ### Transactions -/

def OrderRecord.snapshot (order : OrderRecord) : OrderSnapshot :=
  { orderId := order.id, clientOrderId := order.clientOrderId, symbol := order.symbol,
    side := order.side, orderType := order.orderType, quantity := order.quantity,
    price := order.price, status := order.status }

def Fill.snapshot (fill : Fill) : FillSnapshot :=
  { exchangeTradeId := fill.exchangeTradeId, quantity := fill.quantity, price := fill.price }

/-- Load an order and its recorded fills. -/
def hydrateSnapshotTx (accountId orderId : Uuid) : WorkerTx ReconcileSnapshot := do
  let order ← (lockOrder accountId orderId).mapError fun _ => .reconciliationRequired
  let fills ← (loadFillsForOrder accountId orderId).mapError fun _ => .retry
  return { order := order.snapshot, fills := fills.map Fill.snapshot }

/-- Insert the fills one by one and keep those that were not there already. -/
def insertFills (accountId orderId : Uuid) : List Fill → WorkerTx (List Fill)
  | [] => pure []
  | fill :: fills => do
    let inserted ← (insertFill accountId orderId fill).mapError fun _ => .retry
    let insertedFills ← insertFills accountId orderId fills
    return if inserted then fill :: insertedFills else insertedFills

def applyPositionDeltas (accountId : Uuid) (fillPrice : Decimal) : List PositionDelta → WorkerTx Unit
  | [] => pure ()
  | delta :: deltas => do
    (applyPositionDelta accountId delta.symbol delta.quantityDelta fillPrice).mapError
      fun _ => .retry
    applyPositionDeltas accountId fillPrice deltas

/-- The errors of these insertions are dropped. -/
def insertRiskEvents (accountId : Uuid) : List RiskEvent → WorkerTx Unit
  | [] => pure ()
  | event :: events => do
    let _ ← (insertRiskEvent accountId event.eventType event.payload).attempt
    insertRiskEvents accountId events

def persistStatus (accountId orderId : Uuid) (locked : OrderRecord) (insertedFills : List Fill) :
    Option OrderStatus → WorkerTx Unit
  | none => pure ()
  | some newStatus =>
    if (OrderStateMachine.transition locked.status newStatus).isOk then
      let newFillQty := (insertedFills.map (·.quantity)).sum
      let filledQty := locked.filledQuantity + newFillQty
      (updateOrderStatus accountId orderId newStatus filledQty).mapError fun _ => .retry
    else fail .reconciliationRequired

/-- Persist new fills, position deltas, status and events, unless the order has changed since the
snapshot. -/
def persistReconcileResultTx (accountId orderId : Uuid) (snapshot : ReconcileSnapshot)
    (result : ReconcileResult) : WorkerTx Unit := do
  let locked ← (lockOrder accountId orderId).mapError fun _ => .retry
  if locked.filledQuantity ≠ snapshot.filled ∨ locked.status ≠ snapshot.order.status then
    fail .retry
  else do
    let insertedFills ← insertFills accountId orderId result.fillsToAdd
    if !result.fillsToAdd.isEmpty && insertedFills.isEmpty then
      fail .reconciliationRequired
    else do
      let fillPrice := (insertedFills.head?.map (·.price)).getD 0
      applyPositionDeltas accountId fillPrice result.positionsDelta
      persistStatus accountId orderId locked insertedFills result.newStatus
      insertRiskEvents accountId result.events

/-- After the venue accepted the submission. -/
def submitTx (cmd : ClaimedCommand) (orderId : Uuid) : WorkerTx Unit := do
  let locked ← (lockOrder cmd.accountId orderId).mapError fun _ => .retry
  if (OrderStateMachine.transition locked.status .submitted).isOk then
    (updateOrderStatus cmd.accountId orderId .submitted locked.filledQuantity).mapError
      fun _ => .retry
  (insertExchangeCommand cmd.accountId .reconcileOrder cmd.exchangeMode
    (toString orderId ++ ":reconcile:initial") (orderPayload orderId)).mapError fun _ => .retry

/-- After the venue accepted the cancellation. -/
def cancelTx (cmd : ClaimedCommand) (orderId : Uuid) : WorkerTx Unit := do
  let locked ← (lockOrder cmd.accountId orderId).mapError fun _ => .retry
  if (OrderStateMachine.transition locked.status .cancelRequested).isOk then do
    (updateOrderStatus cmd.accountId orderId .cancelRequested locked.filledQuantity).mapError
      fun _ => .retry
    (insertRiskEvent cmd.accountId "order_cancel_requested"
      [("command_id", .commandId cmd.id), ("order_id", .uuid orderId)]).mapError fun _ => .retry
  (insertExchangeCommand cmd.accountId .reconcileOrder cmd.exchangeMode
    (toString orderId ++ ":reconcile:post-cancel") (orderPayload orderId)).mapError
    fun _ => .retry

/-- The order of a permanently rejected command; errors are dropped. -/
def rejectOrderTx (cmd : ClaimedCommand) (orderId : Uuid) : WorkerTx Unit := do
  match ← (lockOrder cmd.accountId orderId).attempt with
  | .ok locked =>
    if (OrderStateMachine.transition locked.status .rejected).isOk then do
      let _ ← (updateOrderStatus cmd.accountId orderId .rejected locked.filledQuantity).attempt
      pure ()
    else pure ()
  | .error _ => pure ()
  let _ ← (insertRiskEvent cmd.accountId "order_rejected"
    [("command_id", .commandId cmd.id), ("order_id", .uuid orderId)]).attempt
  pure ()

/-- The manual-review event, with the reason when no adapter was configured. -/
def reconciliationRequiredTx (cmd : ClaimedCommand) (reason : Option String) : WorkerTx Unit := do
  let _ ← (insertRiskEvent cmd.accountId "exchange_reconciliation_required"
    (("command_id", .commandId cmd.id) ::
      (reason.map fun r => ("reason", Datum.text r)).toList)).attempt
  pure ()

/-- The reason given when no adapter is configured. -/
def noAdapter : String := "no adapter configured for resolved exchange_mode"

/-- A statement outside any transaction, its error dropped. -/
def autocommit (p : Tx Unit) (db : Db) : Db := (postgres.atomically p db).2

/-! ### One worker alone -/

/-- Dispatch a command to its adapter. -/
def dispatch (cmd : ClaimedCommand) (adapter : ExchangeAdapter) (db : Db) :
    Except DispatchOutcome Unit × Db :=
  match cmd.commandType with
  | .submitOrder =>
    match extractOrderId cmd with
    | none => (.error .reconciliationRequired, db)
    | some orderId =>
      match postgres.atomically (hydrateSnapshotTx cmd.accountId orderId) db with
      | (.error e, db) => (.error e, db)
      | (.ok snapshot, db) =>
        match adapter.submit snapshot.order with
        | .error e => (.error (classifyExchangeError e), db)
        | .ok _ => postgres.atomically (submitTx cmd orderId) db
  | .reconcileOrder =>
    match extractOrderId cmd with
    | none => (.error .reconciliationRequired, db)
    | some orderId =>
      match postgres.atomically (hydrateSnapshotTx cmd.accountId orderId) db with
      | (.error e, db) => (.error e, db)
      | (.ok snapshot, db) =>
        match adapter.reconcileOrder snapshot with
        | .error e => (.error (classifyExchangeError e), db)
        | .ok result =>
          postgres.atomically (persistReconcileResultTx cmd.accountId orderId snapshot result) db
  | .cancelOrder =>
    match extractOrderId cmd with
    | none => (.error .reconciliationRequired, db)
    | some orderId =>
      match postgres.atomically (hydrateSnapshotTx cmd.accountId orderId) db with
      | (.error e, db) => (.error e, db)
      | (.ok snapshot, db) =>
        match adapter.cancel snapshot.order with
        | .error _ => (.error .retry, db)
        | .ok _ => postgres.atomically (cancelTx cmd orderId) db
  | .unknown _ => (.error .reconciliationRequired, db)

/-- Write the outcome of a dispatch. -/
def settle (cmd : ClaimedCommand) (outcome : Except DispatchOutcome Unit) (db : Db) : Db :=
  match outcome with
  | .ok () => autocommit (markCommandDelivered cmd.id) db
  | .error .retry => autocommit (requeueCommand cmd.id) db
  | .error .permanentlyRejected =>
    let db := autocommit (markCommandPermanentlyRejected cmd.id) db
    match extractOrderId cmd with
    | none => db
    | some orderId => (postgres.atomically (rejectOrderTx cmd orderId) db).2
  | .error .reconciliationRequired =>
    let db := autocommit (markCommandReconciliationRequired cmd.id) db
    (postgres.atomically (reconciliationRequiredTx cmd none) db).2

def processCommand (supervisor : Supervisor) (cmd : ClaimedCommand) (db : Db) : Db :=
  match supervisor.resolve cmd.exchangeMode with
  | none =>
    let db := autocommit (markCommandReconciliationRequired cmd.id) db
    (postgres.atomically (reconciliationRequiredTx cmd (some noAdapter)) db).2
  | some adapter =>
    let (outcome, db) := dispatch cmd adapter db
    settle cmd outcome db

/-- The lease of a claim, in seconds. -/
def leaseSeconds : ℕ := 30

/-- One claim-and-dispatch pass. -/
def runOnce (supervisor : Supervisor) (batchSize : ℕ) (locked : List ℕ) (db : Db) : ℕ × Db :=
  match postgres.atomically (claimPendingCommands batchSize leaseSeconds locked) db with
  | (.error _, db) => (0, db)
  | (.ok claimed, db) =>
    (claimed.length, claimed.foldl (fun db cmd => processCommand supervisor cmd db) db)

/-! ### Stages -/

/-- How far a worker is with a claimed command. -/
inductive Stage
  | claimed
  | hydrated (orderId : Uuid) (snapshot : ReconcileSnapshot)
  | accepted (orderId : Uuid)
  | reconciled (orderId : Uuid) (snapshot : ReconcileSnapshot) (result : ReconcileResult)
  | dispatched (outcome : Except DispatchOutcome Unit)
  | rejecting (orderId : Uuid)
  | auditing (reason : Option String)

/-- A command in the hands of a worker. `lease` is the expiry that its claim wrote, which the
worker itself does not keep. -/
structure Task where
  cmd : ClaimedCommand
  lease : Timestamp
  stage : Stage

/-- The stage after a transaction of `dispatch`. -/
def Stage.after {α : Type} (next : α → Stage) : Except DispatchOutcome α → Stage
  | .ok a => next a
  | .error e => .dispatched (.error e)

/-- The first step of `dispatch`: find the order and hydrate its snapshot. -/
def beginDispatch (cmd : ClaimedCommand) (db : Db) : Stage × Db :=
  match cmd.commandType with
  | .unknown _ => (.dispatched (.error .reconciliationRequired), db)
  | _ =>
    match extractOrderId cmd with
    | none => (.dispatched (.error .reconciliationRequired), db)
    | some orderId =>
      let (result, db) := postgres.atomically (hydrateSnapshotTx cmd.accountId orderId) db
      (.after (.hydrated orderId) result, db)

/-- The second step: the call of the adapter. -/
def callAdapter (cmd : ClaimedCommand) (adapter : ExchangeAdapter) (orderId : Uuid)
    (snapshot : ReconcileSnapshot) : Stage :=
  match cmd.commandType with
  | .submitOrder =>
    .after (fun _ => .accepted orderId)
      ((adapter.submit snapshot.order).mapError classifyExchangeError)
  | .reconcileOrder =>
    .after (fun result => .reconciled orderId snapshot result)
      ((adapter.reconcileOrder snapshot).mapError classifyExchangeError)
  | .cancelOrder =>
    .after (fun _ => .accepted orderId) ((adapter.cancel snapshot.order).mapError fun _ => .retry)
  | .unknown _ => .dispatched (.error .reconciliationRequired)

/-- The transaction behind an accepted submission or cancellation. -/
def acceptedTx (cmd : ClaimedCommand) (orderId : Uuid) : WorkerTx Unit :=
  match cmd.commandType with
  | .submitOrder => submitTx cmd orderId
  | .cancelOrder => cancelTx cmd orderId
  | _ => fail .reconciliationRequired

/-- One step of the worker that holds the command. The next stage is `none` when the worker is
done with it; there is no step when no adapter answers a hydrated snapshot. -/
def advance (supervisor : Supervisor) (cmd : ClaimedCommand) (stage : Stage) (db : Db) :
    Option (Option Stage × Db) :=
  match stage with
  | .claimed =>
    match supervisor.resolve cmd.exchangeMode with
    | none =>
      some (some (.auditing (some noAdapter)),
        autocommit (markCommandReconciliationRequired cmd.id) db)
    | some _ =>
      let (stage, db) := beginDispatch cmd db
      some (some stage, db)
  | .hydrated orderId snapshot =>
    (supervisor.resolve cmd.exchangeMode).map fun adapter =>
      (some (callAdapter cmd adapter orderId snapshot), db)
  | .accepted orderId =>
    let (outcome, db) := postgres.atomically (acceptedTx cmd orderId) db
    some (some (.dispatched outcome), db)
  | .reconciled orderId snapshot result =>
    let (outcome, db) :=
      postgres.atomically (persistReconcileResultTx cmd.accountId orderId snapshot result) db
    some (some (.dispatched outcome), db)
  | .dispatched (.ok ()) => some (none, autocommit (markCommandDelivered cmd.id) db)
  | .dispatched (.error .retry) => some (none, autocommit (requeueCommand cmd.id) db)
  | .dispatched (.error .permanentlyRejected) =>
    some ((extractOrderId cmd).map .rejecting, autocommit (markCommandPermanentlyRejected cmd.id) db)
  | .dispatched (.error .reconciliationRequired) =>
    some (some (.auditing none), autocommit (markCommandReconciliationRequired cmd.id) db)
  | .rejecting orderId => some (none, (postgres.atomically (rejectOrderTx cmd orderId) db).2)
  | .auditing reason =>
    some (none, (postgres.atomically (reconciliationRequiredTx cmd reason) db).2)

end Confluence
