import Confluence.Server.Effects
import Confluence.Server.OutboxWorker

/-!
# What workers change

One inversion for the steps of a worker, and for each of its transactions what a commit of it
leaves.
-/

namespace Confluence

section

variable {db db' : Db} {accountId orderId : Uuid} {u : Unit}

/-! ### Orders and fills -/

/-- The database with another status and filled quantity of the order. -/
def Db.withStatus (db : Db) (accountId orderId : Uuid) (status : OrderStatus)
    (filledQuantity : Decimal) : Db :=
  { db with
    orders := updateWhere (fun r => decide (r.id = orderId) && decide (r.accountId = accountId))
      (fun r => { r with status, filledQuantity }) db.orders }

lemma Db.mem_of_order? {o : OrderRecord} (h : db.order? accountId orderId = some o) :
    o ∈ db.orders ∧ o.id = orderId ∧ o.accountId = accountId := by
  have hp := List.find?_some h
  simp only [Bool.and_eq_true, decide_eq_true_eq] at hp
  exact ⟨List.mem_of_find?_eq_some h, hp⟩

lemma commits_updateOrderStatus {status : OrderStatus} {filled : Decimal} :
    postgres.Commits (updateOrderStatus accountId orderId status filled) db u db' ↔
      ∃ q, Numeric.store 30 10 filled = some q ∧
        (∀ r ∈ db.orders, r.id = orderId → r.accountId = accountId →
          OrderRecord.Checked { r with status, filledQuantity := q }) ∧
        db' = db.withStatus accountId orderId status q := by
  simp only [updateOrderStatus, commits_sql, Statement.exec, column_bind_eq_ok, require_bind_eq_ok]
  simp only [List.mem_filter, Bool.and_eq_true, decide_eq_true_eq]
  constructor
  · rintro ⟨change, ⟨q, hq, hchecked, hexec⟩, rfl⟩
    cases hexec
    exact ⟨q, hq, fun r hr hid ha => hchecked r ⟨hr, hid, ha⟩, rfl⟩
  · rintro ⟨q, hq, hchecked, rfl⟩
    exact ⟨_, ⟨q, hq, fun r hr => hchecked r hr.1 hr.2.1 hr.2.2, rfl⟩, rfl⟩

/-- The account has a fill with the trade id. -/
def Db.hasTradeId (db : Db) (accountId : Uuid) (tradeId : String) : Prop :=
  ∃ r ∈ db.orderFills, r.accountId = accountId ∧ r.fill.exchangeTradeId = tradeId

lemma commits_insertFill {fill : Fill} {inserted : Bool} :
    postgres.Commits (insertFill accountId orderId fill) db inserted db' ↔
      ∃ q p f, Numeric.store 30 10 fill.quantity = some q ∧
        Numeric.store 30 10 fill.price = some p ∧ Numeric.store 30 10 fill.fee = some f ∧
        (q > 0 ∧ p > 0 ∧ f ≥ 0) ∧
        ((db.hasTradeId accountId fill.exchangeTradeId ∧ inserted = false ∧ db' = db) ∨
          (¬ db.hasTradeId accountId fill.exchangeTradeId ∧ inserted = true ∧
            db' = { db with
              orderFills := db.orderFills ++
                [⟨accountId, orderId, { fill with quantity := q, price := p, fee := f }⟩] })) := by
  have hiff : (db.orderFills.any fun r => decide (r.accountId = accountId) &&
      decide (r.fill.exchangeTradeId = fill.exchangeTradeId)) = true ↔
        db.hasTradeId accountId fill.exchangeTradeId := by
    simp [Db.hasTradeId]
  simp only [insertFill, Engine.commits_bind, commits_sql, Statement.exec, column_bind_eq_ok,
    require_bind_eq_ok, Engine.commits_pure]
  constructor
  · rintro ⟨n, _, ⟨change, ⟨q, hq, p, hp, f, hf, hchecked, hexec⟩, rfl⟩, rfl, rfl⟩
    refine ⟨q, p, f, hq, hp, hf, hchecked, ?_⟩
    split_ifs at hexec with hany
    · cases hexec
      exact .inl ⟨hiff.mp hany, rfl, rfl⟩
    · cases hexec
      exact .inr ⟨fun h => hany (hiff.mpr h), rfl, rfl⟩
  · rintro ⟨q, p, f, hq, hp, hf, hchecked, ⟨hdup, rfl, rfl⟩ | ⟨hnew, rfl, rfl⟩⟩
    · refine ⟨0, _, ⟨id, ⟨q, hq, p, hp, f, hf, hchecked, ?_⟩, rfl⟩, rfl, rfl⟩
      rw [if_pos (hiff.mpr hdup)]
      rfl
    · refine ⟨1, _, ⟨fun db => { db with
          orderFills := db.orderFills ++
            [⟨accountId, orderId, { fill with quantity := q, price := p, fee := f }⟩] },
        ⟨q, hq, p, hp, f, hf, hchecked, ?_⟩, rfl⟩, rfl, rfl⟩
      rw [if_neg (fun h => hnew (hiff.mp h))]
      rfl

/-! ### Commands -/

@[simp] lemma extractOrderId_orderPayload (id : ℕ) (accountId orderId : Uuid)
    (commandType : CommandType) (mode : ExchangeMode) :
    extractOrderId ⟨id, accountId, commandType, mode, orderPayload orderId⟩ = some orderId := by
  simp [extractOrderId, orderPayload, Json.getStr, Json.get, Json.asStr, Uuid.parseStr_toString]

/-- The database with another status of the command. -/
def Db.withCommandStatus (db : Db) (id : ℕ) (status : CommandStatus) : Db :=
  { db with
    exchangeCommands := updateWhere (fun r => decide (r.id = id)) (fun r => { r with status })
      db.exchangeCommands }

/-- The database with the command pending again. -/
def Db.requeued (db : Db) (id : ℕ) : Db :=
  { db with
    exchangeCommands := updateWhere (fun r => decide (r.id = id))
      (fun r => { r with status := .pending, leasedUntil := none, attempts := r.attempts + 1 })
      db.exchangeCommands }

/-- The database after a claim of the rows with the given ids. -/
def Db.leased (db : Db) (ids : List ℕ) : Db :=
  { db with
    exchangeCommands := updateWhere (fun r => ids.contains r.id)
      (fun r => { r with status := .leased, leasedUntil := some (db.now + leaseSeconds) })
      db.exchangeCommands }

/-- A claim always succeeds. -/
lemma atomically_claim (limit : ℕ) (locked : List ℕ) (db : Db) :
    postgres.atomically (claimPendingCommands limit leaseSeconds locked) db =
      (.ok ((db.exchangeCommands.filter fun r =>
          (db.claimCandidates limit locked).contains r.id).map (·.claimed)),
        db.leased (db.claimCandidates limit locked)) := rfl

/-! ### Events -/

/-- An attempted event that commits was inserted. -/
lemma of_commits_attempt_insertRiskEvent {ε : Type} {eventType : String} {payload : Payload}
    {r : Except ApiError Unit}
    (h : postgres.Commits
      ((insertRiskEvent accountId eventType payload).attempt : Program _ _ ε _) db r db') :
    db' = db.withEvents [⟨accountId, eventType, payload⟩] := by
  obtain ⟨_, -, hcommit⟩ := Engine.commits_attempt_ask.mp h
  exact (commits_insertRiskEvent.mp hcommit).2

/-- The row of an event of the account. -/
def RiskEvent.record (accountId : Uuid) (event : RiskEvent) : RiskEventRecord :=
  ⟨accountId, event.eventType, event.payload⟩

lemma of_commits_insertRiskEvents {events : List RiskEvent}
    (h : postgres.Commits (insertRiskEvents accountId events) db u db') :
    db' = db.withEvents (events.map (·.record accountId)) := by
  induction events generalizing db with
  | nil =>
    simp only [insertRiskEvents, Engine.commits_pure] at h
    simp [Db.withEvents, h.2]
  | cons event events ih =>
    rw [insertRiskEvents, Engine.commits_bind] at h
    obtain ⟨r, db₁, hevent, hrest⟩ := h
    obtain rfl := of_commits_attempt_insertRiskEvent hevent
    rw [ih hrest]
    simp [Db.withEvents, RiskEvent.record]

/-! ### Hydrating and accepting -/

/-- The snapshot of an order and its recorded fills. -/
def Db.reconcileSnapshot (db : Db) (o : OrderRecord) : ReconcileSnapshot :=
  { order := o.snapshot, fills := (db.fillsOf o.accountId o.id).map Fill.snapshot }

lemma atomically_hydrate (accountId orderId : Uuid) (db : Db) :
    postgres.atomically (hydrateSnapshotTx accountId orderId) db =
      ((db.order? accountId orderId).elim (.error .reconciliationRequired)
        (fun o => .ok (db.reconcileSnapshot o)), db) := by
  cases h : db.order? accountId orderId with
  | none =>
    have hrun : postgres.run (lockOrder accountId orderId) ⟨db, false⟩ =
        (.error .notFound, ⟨db, false⟩) := by
      rw [lockOrder, Engine.run_bind, sql, Engine.run_ask]
      simp [postgres, Statement.exec, h]
    simp only [Engine.atomically, hydrateSnapshotTx, Engine.run_bind, Engine.run_mapError, hrun]
    rfl
  | some o =>
    obtain ⟨-, rfl, rfl⟩ := Db.mem_of_order? h
    have hcommit : postgres.Commits (hydrateSnapshotTx o.accountId o.id) db
        (db.reconcileSnapshot o) db := by
      simp only [hydrateSnapshotTx, Engine.commits_bind, Engine.commits_mapError,
        commits_lockOrder, commits_loadFillsForOrder, Engine.commits_pure]
      exact ⟨o, db, ⟨h, rfl⟩, _, db, ⟨rfl, rfl⟩, rfl, rfl⟩
    rw [Engine.atomically_of_commits hcommit]
    rfl

/-- The order `o` moves to `status` when that is legal, and stays as it is otherwise. -/
def Db.MovedIfLegal (db : Db) (o : OrderRecord) (status : OrderStatus) (db' : Db) : Prop :=
  if OrderStateMachine.legal o.status status then
    ∃ q, Numeric.store 30 10 o.filledQuantity = some q ∧ 0 ≤ q ∧ q ≤ o.quantity ∧
      db' = db.withStatus o.accountId o.id status q
  else db' = db

lemma movedIfLegal_of_commits {o : OrderRecord} {status : OrderStatus}
    (ho : db.order? accountId orderId = some o)
    (h : OrderStateMachine.legal o.status status = true)
    (hcommit : postgres.Commits (updateOrderStatus accountId orderId status o.filledQuantity)
      db u db') : db.MovedIfLegal o status db' := by
  obtain ⟨hmem, rfl, rfl⟩ := Db.mem_of_order? ho
  obtain ⟨q, hq, hchecked, rfl⟩ := commits_updateOrderStatus.mp hcommit
  obtain ⟨-, -, hnonneg, hle⟩ := hchecked o hmem rfl rfl
  rw [Db.MovedIfLegal, if_pos h]
  exact ⟨q, hq, hnonneg, hle, rfl⟩

lemma of_commits_submitTx {cmd : ClaimedCommand}
    (h : postgres.Commits (submitTx cmd orderId) db u db') :
    ∃ o db₁, db.order? cmd.accountId orderId = some o ∧ db.MovedIfLegal o .submitted db₁ ∧
      db' = db₁.withCommand cmd.accountId .reconcileOrder cmd.exchangeMode
        (toString orderId ++ ":reconcile:initial") (orderPayload orderId) := by
  simp only [submitTx, Engine.commits_bind, Engine.commits_mapError, commits_lockOrder,
    OrderStateMachine.transition_isOk] at h
  obtain ⟨o, db₀, ⟨ho, rfl⟩, h⟩ := h
  refine ⟨o, ?_⟩
  split_ifs at h with hlegal
  · simp only [Engine.commits_bind, Engine.commits_mapError, commits_insertExchangeCommand] at h
    obtain ⟨_, db₁, hupdate, -, rfl⟩ := h
    exact ⟨db₁, ho, movedIfLegal_of_commits ho hlegal hupdate, rfl⟩
  · simp only [Engine.commits_mapError, commits_insertExchangeCommand] at h
    obtain ⟨-, rfl⟩ := h
    exact ⟨db₀, ho, by rw [Db.MovedIfLegal, if_neg hlegal], rfl⟩

lemma of_commits_cancelTx {cmd : ClaimedCommand}
    (h : postgres.Commits (cancelTx cmd orderId) db u db') :
    ∃ o db₁, db.order? cmd.accountId orderId = some o ∧
      db.MovedIfLegal o .cancelRequested db₁ ∧
      db' = (db₁.withCommand cmd.accountId .reconcileOrder cmd.exchangeMode
        (toString orderId ++ ":reconcile:post-cancel") (orderPayload orderId)).withEvents
          (if OrderStateMachine.legal o.status .cancelRequested then
            [⟨cmd.accountId, "order_cancel_requested",
              [("command_id", .commandId cmd.id), ("order_id", .uuid orderId)]⟩] else []) := by
  simp only [cancelTx, Engine.commits_bind, Engine.commits_mapError, commits_lockOrder,
    OrderStateMachine.transition_isOk] at h
  obtain ⟨o, db₀, ⟨ho, rfl⟩, h⟩ := h
  refine ⟨o, ?_⟩
  split_ifs at h with hlegal
  · simp only [Engine.commits_bind, Engine.commits_mapError, commits_insertExchangeCommand,
      commits_insertRiskEvent] at h
    obtain ⟨_, db₁, hupdate, _, _, ⟨-, rfl⟩, -, rfl⟩ := h
    refine ⟨db₁, ho, movedIfLegal_of_commits ho hlegal hupdate, ?_⟩
    rw [if_pos hlegal]
    rfl
  · simp only [Engine.commits_mapError, commits_insertExchangeCommand] at h
    obtain ⟨-, rfl⟩ := h
    refine ⟨db₀, ho, by rw [Db.MovedIfLegal, if_neg hlegal], ?_⟩
    rw [if_neg hlegal, Db.withEvents_nil]

/-! ### Rejecting and auditing -/

lemma of_commits_reconciliationRequiredTx {cmd : ClaimedCommand} {reason : Option String}
    (h : postgres.Commits (reconciliationRequiredTx cmd reason) db u db') :
    ∃ payload, db' =
      db.withEvents [⟨cmd.accountId, "exchange_reconciliation_required", payload⟩] := by
  rw [reconciliationRequiredTx, Engine.commits_bind] at h
  obtain ⟨_, db₁, hevent, hpure⟩ := h
  obtain ⟨-, rfl⟩ := Engine.commits_pure.mp hpure
  exact ⟨_, of_commits_attempt_insertRiskEvent hevent⟩

/-- A manual-review event changes the audit log only. -/
lemma reconciliationRequired_cases (cmd : ClaimedCommand) (reason : Option String) (db : Db) :
    ∃ riskEvents, (postgres.atomically (reconciliationRequiredTx cmd reason) db).2 =
      { db with riskEvents } := by
  rcases Engine.atomically_cases postgres (reconciliationRequiredTx cmd reason) db
    with h | ⟨_, -, h⟩
  · exact ⟨db.riskEvents, h⟩
  · obtain ⟨payload, hdb⟩ := of_commits_reconciliationRequiredTx h
    exact ⟨_, hdb⟩

lemma run_lockOrder (accountId orderId : Uuid) (db : Db) :
    postgres.run (lockOrder accountId orderId) ⟨db, false⟩ =
      ((db.order? accountId orderId).elim (.error .notFound) .ok, ⟨db, false⟩) := by
  rw [lockOrder, Engine.run_bind, sql, Engine.run_ask]
  cases h : db.order? accountId orderId <;> simp [postgres, Statement.exec, h]

/-- The event of a permanently rejected command, which is there even if the order is not rejected. -/
def rejectedEvent (cmd : ClaimedCommand) (orderId : Uuid) : RiskEventRecord :=
  ⟨cmd.accountId, "order_rejected", [("command_id", .commandId cmd.id), ("order_id", .uuid orderId)]⟩

lemma of_commits_rejectOrderTx {cmd : ClaimedCommand}
    (h : postgres.Commits (rejectOrderTx cmd orderId) db u db') :
    ∃ db₁, db' = db₁.withEvents [rejectedEvent cmd orderId] ∧
      ((db.order? cmd.accountId orderId = none ∧ db₁ = db) ∨
        ∃ o, db.order? cmd.accountId orderId = some o ∧ db.MovedIfLegal o .rejected db₁) := by
  have haudit {db₁ : Db} (h : postgres.Commits (do
      let _ ← ((insertRiskEvent cmd.accountId "order_rejected"
        [("command_id", .commandId cmd.id), ("order_id", .uuid orderId)]).attempt :
          WorkerTx (Except ApiError Unit))
      pure ()) db₁ u db') : db' = db₁.withEvents [rejectedEvent cmd orderId] := by
    rw [Engine.commits_bind] at h
    obtain ⟨_, db₂, hevent, hpure⟩ := h
    obtain ⟨-, rfl⟩ := Engine.commits_pure.mp hpure
    exact of_commits_attempt_insertRiskEvent hevent
  rw [rejectOrderTx, Engine.commits_bind] at h
  obtain ⟨locked, db₀, hlock, h⟩ := h
  rw [Engine.commits_attempt, run_lockOrder] at hlock
  obtain ⟨hlocked, hview⟩ := Prod.mk.inj hlock
  obtain ⟨rfl, -⟩ := View.mk.inj hview
  cases ho : db.order? cmd.accountId orderId with
  | none =>
    obtain rfl : Except.error .notFound = locked := by rw [← hlocked, ho]; rfl
    exact ⟨db, haudit h, .inl ⟨rfl, rfl⟩⟩
  | some o =>
    obtain rfl : Except.ok o = locked := by rw [← hlocked, ho]; rfl
    simp only [OrderStateMachine.transition_isOk] at h
    split_ifs at h with hlegal
    · rw [Engine.commits_bind] at h
      obtain ⟨_, db₁, hupdate, h⟩ := h
      obtain ⟨_, -, hupdate⟩ := Engine.commits_attempt_ask.mp hupdate
      exact ⟨db₁, haudit h, .inr ⟨o, rfl, movedIfLegal_of_commits ho hlegal hupdate⟩⟩
    · exact ⟨db, haudit h, .inr ⟨o, rfl, by rw [Db.MovedIfLegal, if_neg hlegal]⟩⟩

/-- Rejecting an order moves it to `rejected` if that is legal. -/
lemma rejectOrder_cases (cmd : ClaimedCommand) (orderId : Uuid) (db : Db) :
    ∃ db₁ riskEvents, (postgres.atomically (rejectOrderTx cmd orderId) db).2 =
        { db₁ with riskEvents } ∧
      (db₁ = db ∨ ∃ o, db.order? cmd.accountId orderId = some o ∧
        db.MovedIfLegal o .rejected db₁) := by
  rcases Engine.atomically_cases postgres (rejectOrderTx cmd orderId) db with h | ⟨_, -, h⟩
  · exact ⟨db, db.riskEvents, h, .inl rfl⟩
  · obtain ⟨db₁, hdb, ⟨-, rfl⟩ | hmove⟩ := of_commits_rejectOrderTx h
    · exact ⟨_, _, hdb, .inl rfl⟩
    · exact ⟨db₁, _, hdb, .inr hmove⟩

/-! ### Persisting a reconciliation -/

/-- Inserted fills belong to the order. -/
lemma of_commits_insertFills {fills inserted : List Fill}
    (h : postgres.Commits (insertFills accountId orderId fills) db inserted db') :
    ∃ rows, db' = { db with orderFills := db.orderFills ++ rows } ∧
      ∀ r ∈ rows, r.accountId = accountId ∧ r.orderId = orderId := by
  induction fills generalizing db inserted with
  | nil =>
    rw [insertFills, Engine.commits_pure] at h
    refine ⟨[], ?_, by simp⟩
    rw [List.append_nil]
    exact h.2.symm
  | cons fill fills ih =>
    simp only [insertFills, Engine.commits_bind, Engine.commits_mapError, commits_insertFill,
      Engine.commits_pure] at h
    obtain ⟨_, db₁, ⟨q, p, f, -, -, -, -, hfill⟩, _, _, hrest, -, rfl⟩ := h
    obtain ⟨rows, rfl, hrows⟩ := ih hrest
    rcases hfill with ⟨-, -, rfl⟩ | ⟨-, -, rfl⟩
    · exact ⟨rows, rfl, hrows⟩
    · refine ⟨⟨accountId, orderId, { fill with quantity := q, price := p, fee := f }⟩ :: rows, ?_, ?_⟩
      · simp
      · exact List.forall_mem_cons.mpr ⟨⟨rfl, rfl⟩, hrows⟩

/-- A statement on positions, or none, in the end. -/
lemma positions_of_commits_applyPositionDelta {symbol : String} {delta price : Decimal}
    (h : postgres.Commits (applyPositionDelta accountId symbol delta price) db u db') :
    ∃ positions, db' = { db with positions } := by
  by_cases hzero : delta = 0
  · rw [applyPositionDelta, if_pos hzero, Engine.commits_pure] at h
    exact ⟨db.positions, h.2.symm⟩
  · rw [applyPositionDelta, if_neg hzero, Engine.commits_bind] at h
    obtain ⟨row, db₀, hselect, h⟩ := h
    obtain ⟨-, rfl⟩ := commits_selectOpenPosition.mp hselect
    cases row with
    | none =>
      obtain ⟨q, p, -, -, -, -, -, rfl⟩ := commits_insertPosition.mp h
      exact ⟨_, rfl⟩
    | some row =>
      simp only at h
      by_cases hnet : (if row.side = .short then -row.quantity else row.quantity) + delta = 0
      · rw [if_pos hnet] at h
        simp only [commits_sql, Statement.exec, require_bind_eq_ok] at h
        obtain ⟨change, ⟨-, hexec⟩, rfl⟩ := h
        cases hexec
        exact ⟨_, rfl⟩
      · rw [if_neg hnet] at h
        simp only [commits_sql, Statement.exec, column_bind_eq_ok, require_bind_eq_ok] at h
        obtain ⟨change, ⟨q, -, p, -, -, hexec⟩, rfl⟩ := h
        cases hexec
        exact ⟨_, rfl⟩

lemma of_commits_applyPositionDeltas {price : Decimal} {deltas : List PositionDelta}
    (h : postgres.Commits (applyPositionDeltas accountId price deltas) db u db') :
    ∃ positions, db' = { db with positions } := by
  induction deltas generalizing db with
  | nil =>
    rw [applyPositionDeltas, Engine.commits_pure] at h
    exact ⟨db.positions, h.2.symm⟩
  | cons delta deltas ih =>
    rw [applyPositionDeltas, Engine.commits_bind] at h
    obtain ⟨_, db₁, hdelta, hrest⟩ := h
    rw [Engine.commits_mapError] at hdelta
    obtain ⟨_, rfl⟩ := positions_of_commits_applyPositionDelta hdelta
    obtain ⟨positions, rfl⟩ := ih hrest
    exact ⟨positions, rfl⟩

/-- The status of the order `o` after a reconciliation that inserted the given fills. -/
def Db.StatusPersisted (db : Db) (o : OrderRecord) (insertedFills : List Fill) (db' : Db) :
    Option OrderStatus → Prop
  | none => db' = db
  | some status =>
    OrderStateMachine.legal o.status status = true ∧
      ∃ q, Numeric.store 30 10 (o.filledQuantity + (insertedFills.map (·.quantity)).sum) = some q ∧
        0 ≤ q ∧ q ≤ o.quantity ∧ db' = db.withStatus o.accountId o.id status q

lemma of_commits_persistStatus {o : OrderRecord} {insertedFills : List Fill}
    {newStatus : Option OrderStatus} (ho : db.order? accountId orderId = some o)
    (h : postgres.Commits (persistStatus accountId orderId o insertedFills newStatus) db u db') :
    db.StatusPersisted o insertedFills db' newStatus := by
  cases newStatus with
  | none =>
    obtain ⟨-, rfl⟩ := Engine.commits_pure.mp h
    rfl
  | some status =>
    simp only [persistStatus, OrderStateMachine.transition_isOk] at h
    split_ifs at h with hlegal
    · rw [Engine.commits_mapError, commits_updateOrderStatus] at h
      obtain ⟨q, hq, hchecked, rfl⟩ := h
      obtain ⟨hmem, rfl, rfl⟩ := Db.mem_of_order? ho
      obtain ⟨-, -, hnonneg, hle⟩ := hchecked o hmem rfl rfl
      exact ⟨hlegal, q, hq, hnonneg, hle, rfl⟩
    · exact (Engine.not_commits_fail h).elim

/-- The statements of a committed reconciliation, one group after another. -/
lemma stages_of_commits_persistReconcileResultTx {snapshot : ReconcileSnapshot}
    {result : ReconcileResult}
    (h : postgres.Commits (persistReconcileResultTx accountId orderId snapshot result) db u db') :
    ∃ o insertedFills db₁ db₂ db₃,
      db.order? accountId orderId = some o ∧ o.filledQuantity = snapshot.filled ∧
      o.status = snapshot.order.status ∧
      postgres.Commits (insertFills accountId orderId result.fillsToAdd) db insertedFills db₁ ∧
      (result.fillsToAdd ≠ [] → insertedFills ≠ []) ∧
      postgres.Commits
        (applyPositionDeltas accountId ((insertedFills.head?.map (·.price)).getD 0)
          result.positionsDelta) db₁ () db₂ ∧
      postgres.Commits (persistStatus accountId orderId o insertedFills result.newStatus) db₂ ()
        db₃ ∧
      postgres.Commits (insertRiskEvents accountId result.events) db₃ u db' := by
  simp only [persistReconcileResultTx, Engine.commits_bind, Engine.commits_mapError,
    commits_lockOrder] at h
  obtain ⟨o, db₀, ⟨ho, rfl⟩, h⟩ := h
  split_ifs at h with hchanged
  · exact (Engine.not_commits_fail h).elim
  · rw [not_or, not_not, not_not] at hchanged
    rw [Engine.commits_bind] at h
    obtain ⟨insertedFills, db₁, hfills, h⟩ := h
    split_ifs at h with hdup
    · exact (Engine.not_commits_fail h).elim
    · simp only [Engine.commits_bind] at h
      obtain ⟨_, db₂, hdeltas, _, db₃, hstatus, hevents⟩ := h
      refine ⟨o, insertedFills, db₁, db₂, db₃, ho, hchanged.1, hchanged.2, hfills, ?_, hdeltas,
        hstatus, hevents⟩
      intro hne hempty
      simp [hne, hempty] at hdup

/-- What a committed reconciliation found and left: the order as in the snapshot; then the inserted
fills, the position deltas, the status, and events. -/
lemma of_commits_persistReconcileResultTx {snapshot : ReconcileSnapshot} {result : ReconcileResult}
    (h : postgres.Commits (persistReconcileResultTx accountId orderId snapshot result) db u db') :
    ∃ o insertedFills orderFills positions db₁ riskEvents,
      db.order? accountId orderId = some o ∧ o.filledQuantity = snapshot.filled ∧
      o.status = snapshot.order.status ∧
      postgres.Commits (insertFills accountId orderId result.fillsToAdd) db insertedFills
        { db with orderFills } ∧
      (result.fillsToAdd ≠ [] → insertedFills ≠ []) ∧
      postgres.Commits
        (applyPositionDeltas accountId ((insertedFills.head?.map (·.price)).getD 0)
          result.positionsDelta)
        { db with orderFills } () { db with orderFills, positions } ∧
      Db.StatusPersisted { db with orderFills, positions } o insertedFills db₁ result.newStatus ∧
      db' = { db₁ with riskEvents } := by
  obtain ⟨o, insertedFills, _, _, db₁, ho, hfilled, hsame, hfills, hnew, hdeltas, hstatus,
    hevents⟩ := stages_of_commits_persistReconcileResultTx h
  obtain ⟨rows, rfl, -⟩ := of_commits_insertFills hfills
  obtain ⟨positions, rfl⟩ := of_commits_applyPositionDeltas hdeltas
  exact ⟨o, insertedFills, _, positions, db₁, _, ho, hfilled, hsame, hfills, hnew, hdeltas,
    of_commits_persistStatus ho hstatus, of_commits_insertRiskEvents hevents⟩

end

/-! ### How the transactions end -/

lemma strict_submitTx (cmd : ClaimedCommand) (orderId : Uuid) :
    postgres.Strict (submitTx cmd orderId) := by
  refine .bind (.mapError (strict_lockOrder _ _)) fun locked => .ite ?_ ?_
  · exact .bind (.mapError (strict_sql _)) fun _ => .mapError (strict_sql _)
  · exact .mapError (strict_sql _)

lemma strict_cancelTx (cmd : ClaimedCommand) (orderId : Uuid) :
    postgres.Strict (cancelTx cmd orderId) := by
  refine .bind (.mapError (strict_lockOrder _ _)) fun locked => .ite ?_ ?_
  · exact .bind (.mapError (strict_sql _)) fun _ => .bind (.mapError (strict_sql _)) fun _ =>
      .mapError (strict_sql _)
  · exact .mapError (strict_sql _)

lemma strict_acceptedTx (cmd : ClaimedCommand) (orderId : Uuid) :
    postgres.Strict (acceptedTx cmd orderId) := by
  unfold acceptedTx
  cases cmd.commandType with
  | submitOrder => exact strict_submitTx cmd orderId
  | cancelOrder => exact strict_cancelTx cmd orderId
  | reconcileOrder => exact Engine.strict_done _
  | unknown name => exact Engine.strict_done _

lemma strict_insertFills (accountId orderId : Uuid) (fills : List Fill) :
    postgres.Strict (insertFills accountId orderId fills) := by
  induction fills with
  | nil => exact Engine.strict_pure _
  | cons fill fills ih =>
    refine .bind (.mapError ?_) fun inserted => .bind ih fun _ => Engine.strict_pure _
    exact .bind (strict_sql _) fun _ => Engine.strict_pure _

lemma strict_applyPositionDeltas (accountId : Uuid) (price : Decimal)
    (deltas : List PositionDelta) :
    postgres.Strict (applyPositionDeltas accountId price deltas) := by
  induction deltas with
  | nil => exact Engine.strict_pure _
  | cons delta deltas ih =>
    exact .bind (.mapError (strict_applyPositionDelta _ _ _ _)) fun _ => ih

/-- Events of admitted types do not fail. -/
lemma strict_insertRiskEvents (accountId : Uuid) {events : List RiskEvent}
    (h : ∀ event ∈ events, event.eventType ∈ riskEventTypes) :
    postgres.Strict (insertRiskEvents accountId events) := by
  induction events with
  | nil => exact Engine.strict_pure _
  | cons event events ih =>
    have hevent : postgres.Strict ((insertRiskEvent accountId event.eventType
        event.payload).attempt : WorkerTx (Except ApiError Unit)) := by
      intro db r v hrun
      have hcommit : postgres.Commits (insertRiskEvent accountId event.eventType event.payload) db
          () _ := commits_insertRiskEvent.mpr ⟨h event (by simp), rfl⟩
      rw [Engine.run_attempt, hcommit] at hrun
      obtain ⟨-, rfl⟩ := Prod.mk.inj hrun
      rfl
    exact .bind hevent fun _ => ih fun event' h' => h event' (by simp [h'])

lemma strict_persistReconcileResultTx (accountId orderId : Uuid) (snapshot : ReconcileSnapshot)
    {result : ReconcileResult} (h : ∀ event ∈ result.events, event.eventType ∈ riskEventTypes) :
    postgres.Strict (persistReconcileResultTx accountId orderId snapshot result) := by
  refine .bind (.mapError (strict_lockOrder _ _)) fun locked => .ite (Engine.strict_done _) ?_
  refine .bind (strict_insertFills _ _ _) fun insertedFills => .ite (Engine.strict_done _) ?_
  refine .bind (strict_applyPositionDeltas _ _ _) fun _ => .bind ?_ fun _ =>
    strict_insertRiskEvents accountId h
  cases result.newStatus with
  | none => exact Engine.strict_pure _
  | some status => exact .ite (.mapError (strict_sql _)) (Engine.strict_done _)

/-- Only the answer of a venue can reject a command for good. -/
def NotRejected (e : DispatchOutcome) : Prop := e ≠ .permanentlyRejected

/-- Whatever fails behind an accepted submission or cancellation is retried. -/
lemma errorsIn_submitTx (cmd : ClaimedCommand) (orderId : Uuid) :
    postgres.ErrorsIn (· = .retry) (submitTx cmd orderId) := by
  refine .bind (Engine.errorsIn_mapError fun _ => rfl) fun locked => .ite ?_ ?_
  · exact .bind (Engine.errorsIn_mapError fun _ => rfl) fun _ =>
      Engine.errorsIn_mapError fun _ => rfl
  · exact Engine.errorsIn_mapError fun _ => rfl

lemma errorsIn_cancelTx (cmd : ClaimedCommand) (orderId : Uuid) :
    postgres.ErrorsIn (· = .retry) (cancelTx cmd orderId) := by
  refine .bind (Engine.errorsIn_mapError fun _ => rfl) fun locked => .ite ?_ ?_
  · exact .bind (Engine.errorsIn_mapError fun _ => rfl) fun _ =>
      .bind (Engine.errorsIn_mapError fun _ => rfl) fun _ => Engine.errorsIn_mapError fun _ => rfl
  · exact Engine.errorsIn_mapError fun _ => rfl

lemma errorsIn_acceptedTx (cmd : ClaimedCommand) (orderId : Uuid) :
    postgres.ErrorsIn NotRejected (acceptedTx cmd orderId) := by
  have hretry : ∀ e, e = .retry → NotRejected e := fun _ he => he ▸ fun h => nomatch h
  have hrequired : NotRejected .reconciliationRequired := fun h => nomatch h
  unfold acceptedTx
  cases cmd.commandType with
  | submitOrder => exact (errorsIn_submitTx cmd orderId).mono hretry
  | cancelOrder => exact (errorsIn_cancelTx cmd orderId).mono hretry
  | reconcileOrder => exact Engine.errorsIn_fail hrequired
  | unknown name => exact Engine.errorsIn_fail hrequired

lemma errorsIn_insertFills (accountId orderId : Uuid) (fills : List Fill) :
    postgres.ErrorsIn (· = .retry) (insertFills accountId orderId fills) := by
  induction fills with
  | nil => exact Engine.errorsIn_pure _
  | cons fill fills ih =>
    exact .bind (Engine.errorsIn_mapError fun _ => rfl) fun _ => .bind ih fun _ =>
      Engine.errorsIn_pure _

lemma errorsIn_applyPositionDeltas (accountId : Uuid) (price : Decimal)
    (deltas : List PositionDelta) :
    postgres.ErrorsIn (· = .retry) (applyPositionDeltas accountId price deltas) := by
  induction deltas with
  | nil => exact Engine.errorsIn_pure _
  | cons delta deltas ih => exact .bind (Engine.errorsIn_mapError fun _ => rfl) fun _ => ih

lemma errorsIn_insertRiskEvents (accountId : Uuid) (events : List RiskEvent) :
    postgres.ErrorsIn (· = .retry) (insertRiskEvents accountId events) := by
  induction events with
  | nil => exact Engine.errorsIn_pure _
  | cons event events ih => exact .bind Engine.errorsIn_attempt fun _ => ih

lemma errorsIn_persistReconcileResultTx (accountId orderId : Uuid) (snapshot : ReconcileSnapshot)
    (result : ReconcileResult) :
    postgres.ErrorsIn NotRejected
      (persistReconcileResultTx accountId orderId snapshot result) := by
  have hretry : NotRejected .retry := fun h => nomatch h
  have hrequired : NotRejected .reconciliationRequired := fun h => nomatch h
  have hnotRejected : ∀ e, e = .retry → NotRejected e := fun _ he => he ▸ hretry
  refine .bind (Engine.errorsIn_mapError fun _ => hretry) fun locked =>
    .ite (Engine.errorsIn_fail hretry) ?_
  refine .bind ((errorsIn_insertFills _ _ _).mono hnotRejected) fun insertedFills =>
    .ite (Engine.errorsIn_fail hrequired) ?_
  refine .bind ((errorsIn_applyPositionDeltas _ _ _).mono hnotRejected) fun _ => .bind ?_ fun _ =>
    (errorsIn_insertRiskEvents _ _).mono hnotRejected
  cases result.newStatus with
  | none => exact Engine.errorsIn_pure _
  | some status =>
    exact .ite (Engine.errorsIn_mapError fun _ => hretry) (Engine.errorsIn_fail hrequired)

section

variable {db : Db} {accountId orderId : Uuid} {snapshot : ReconcileSnapshot}
  {result : ReconcileResult} {o : OrderRecord}

/-- A reconciliation is escalated when its fills are recorded already, or when the lifecycle does not
admit its status. -/
lemma escalated_of_persist (ho : db.order? accountId orderId = some o)
    (h : (postgres.atomically (persistReconcileResultTx accountId orderId snapshot result) db).1 =
      .error .reconciliationRequired) :
    o.filledQuantity = snapshot.filled ∧ o.status = snapshot.order.status ∧
      ((result.fillsToAdd ≠ [] ∧ ∃ db',
          postgres.Commits (insertFills accountId orderId result.fillsToAdd) db [] db') ∨
        ∃ status, result.newStatus = some status ∧
          OrderStateMachine.legal o.status status = false) := by
  rcases hrun : postgres.run (persistReconcileResultTx accountId orderId snapshot result) ⟨db, false⟩
    with ⟨e | u, v⟩
  · have he : e = .reconciliationRequired := by
      rw [Engine.atomically, hrun] at h
      exact Except.error.inj h
    subst he
    have hlock : postgres.run ((lockOrder accountId orderId).mapError fun _ =>
        DispatchOutcome.retry) ⟨db, false⟩ = (.ok o, ⟨db, false⟩) := by
      rw [Engine.run_mapError, run_lockOrder, ho]
      rfl
    rw [persistReconcileResultTx, Engine.run_bind, hlock] at hrun
    simp only at hrun
    split_ifs at hrun with hchanged
    · cases hrun
    · rw [not_or, not_not, not_not] at hchanged
      refine ⟨hchanged.1, hchanged.2, ?_⟩
      rcases Engine.of_run_bind_error hrun with hfills | ⟨inserted, t, hfills, hrun⟩
      · cases errorsIn_insertFills _ _ _ _ _ _ hfills
      · obtain ⟨db', failed⟩ := t
        obtain rfl : failed = false := strict_insertFills _ _ _ _ _ _ hfills
        split_ifs at hrun with hdup
        · rw [Bool.and_eq_true, Bool.not_eq_true', List.isEmpty_eq_false_iff,
            List.isEmpty_iff] at hdup
          obtain ⟨hne, rfl⟩ := hdup
          exact .inl ⟨hne, db', hfills⟩
        · rcases Engine.of_run_bind_error hrun with hdeltas | ⟨_, t, -, hrun⟩
          · cases errorsIn_applyPositionDeltas _ _ _ _ _ _ hdeltas
          · rcases Engine.of_run_bind_error hrun with hstatus | ⟨_, t', -, hevents⟩
            · cases hnew : result.newStatus with
              | none =>
                rw [hnew] at hstatus
                cases hstatus
              | some status =>
                rw [hnew, persistStatus, OrderStateMachine.transition_isOk] at hstatus
                split_ifs at hstatus with hlegal
                · have hretry (q : Decimal) : postgres.ErrorsIn (· = DispatchOutcome.retry)
                      ((updateOrderStatus accountId orderId status q).mapError fun _ => .retry) :=
                    Engine.errorsIn_mapError fun _ => rfl
                  cases hretry _ _ _ _ hstatus
                · exact .inr ⟨status, rfl, by simpa using hlegal⟩
            · cases errorsIn_insertRiskEvents _ _ _ _ _ hevents
  · rw [Engine.atomically, hrun] at h
    cases h

end

/-- The venue refuses, or accepts a submission or cancellation, or answers a reconciliation. -/
lemma callAdapter_cases (cmd : ClaimedCommand) (adapter : ExchangeAdapter) (orderId : Uuid)
    (snapshot : ReconcileSnapshot) :
    (∃ e, callAdapter cmd adapter orderId snapshot = .dispatched (.error e)) ∨
    ((cmd.commandType = .submitOrder ∨ cmd.commandType = .cancelOrder) ∧
      callAdapter cmd adapter orderId snapshot = .accepted orderId) ∨
    (cmd.commandType = .reconcileOrder ∧ ∃ result, adapter.reconcileOrder snapshot = .ok result ∧
      callAdapter cmd adapter orderId snapshot = .reconciled orderId snapshot result) := by
  unfold callAdapter
  cases cmd.commandType with
  | submitOrder =>
    cases adapter.submit snapshot.order with
    | ok _ => exact .inr (.inl ⟨.inl rfl, rfl⟩)
    | error e => exact .inl ⟨_, rfl⟩
  | cancelOrder =>
    cases adapter.cancel snapshot.order with
    | ok _ => exact .inr (.inl ⟨.inr rfl, rfl⟩)
    | error e => exact .inl ⟨_, rfl⟩
  | reconcileOrder =>
    cases adapter.reconcileOrder snapshot with
    | ok result => exact .inr (.inr ⟨rfl, result, rfl, rfl⟩)
    | error e => exact .inl ⟨_, rfl⟩
  | unknown name => exact .inl ⟨_, rfl⟩

/-! ### The steps of a worker -/

/-- The steps of a worker that holds the command: what each finds and what it leaves. -/
inductive WorkerStep (supervisor : Supervisor) (cmd : ClaimedCommand) (db : Db) :
    Stage → Option Stage → Db → Prop
  | noAdapter (h : supervisor.resolve cmd.exchangeMode = none) :
    WorkerStep supervisor cmd db .claimed (some (.auditing (some noAdapter)))
      (db.withCommandStatus cmd.id .reconciliationRequired)
  | notHydrated (hadapter : (supervisor.resolve cmd.exchangeMode).isSome)
      (h : ∀ orderId, extractOrderId cmd = some orderId →
      (∃ name, cmd.commandType = .unknown name) ∨ db.order? cmd.accountId orderId = none) :
    WorkerStep supervisor cmd db .claimed (some (.dispatched (.error .reconciliationRequired))) db
  | hydrated {orderId : Uuid} {o : OrderRecord}
      (hadapter : (supervisor.resolve cmd.exchangeMode).isSome)
      (horder : extractOrderId cmd = some orderId)
      (htype : ∀ name, cmd.commandType ≠ .unknown name)
      (ho : db.order? cmd.accountId orderId = some o) :
    WorkerStep supervisor cmd db .claimed (some (.hydrated orderId (db.reconcileSnapshot o))) db
  | called {adapter : ExchangeAdapter} {orderId : Uuid} {snapshot : ReconcileSnapshot}
      (h : supervisor.resolve cmd.exchangeMode = some adapter) :
    WorkerStep supervisor cmd db (.hydrated orderId snapshot)
      (some (callAdapter cmd adapter orderId snapshot)) db
  | submitted {orderId : Uuid} {o : OrderRecord} {db₁ : Db}
      (htype : cmd.commandType = .submitOrder) (ho : db.order? cmd.accountId orderId = some o)
      (hmove : db.MovedIfLegal o .submitted db₁) :
    WorkerStep supervisor cmd db (.accepted orderId) (some (.dispatched (.ok ())))
      (db₁.withCommand cmd.accountId .reconcileOrder cmd.exchangeMode
        (toString orderId ++ ":reconcile:initial") (orderPayload orderId))
  | cancelled {orderId : Uuid} {o : OrderRecord} {db₁ : Db} {riskEvents : List RiskEventRecord}
      (htype : cmd.commandType = .cancelOrder) (ho : db.order? cmd.accountId orderId = some o)
      (hmove : db.MovedIfLegal o .cancelRequested db₁) :
    WorkerStep supervisor cmd db (.accepted orderId) (some (.dispatched (.ok ())))
      { db₁.withCommand cmd.accountId .reconcileOrder cmd.exchangeMode
        (toString orderId ++ ":reconcile:post-cancel") (orderPayload orderId) with riskEvents }
  | notAccepted {orderId : Uuid} {e : DispatchOutcome} (h : NotRejected e) :
    WorkerStep supervisor cmd db (.accepted orderId) (some (.dispatched (.error e))) db
  | persisted {orderId : Uuid} {snapshot : ReconcileSnapshot} {result : ReconcileResult} {db' : Db}
      (h : postgres.Commits
        (persistReconcileResultTx cmd.accountId orderId snapshot result) db () db') :
    WorkerStep supervisor cmd db (.reconciled orderId snapshot result)
      (some (.dispatched (.ok ()))) db'
  | notPersisted {orderId : Uuid} {snapshot : ReconcileSnapshot} {result : ReconcileResult}
      {outcome : Except DispatchOutcome Unit}
      (herror : (∀ event ∈ result.events, event.eventType ∈ riskEventTypes) →
        ∃ e, outcome = .error e)
      (hrejected : ∀ e, outcome = .error e → NotRejected e) :
    WorkerStep supervisor cmd db (.reconciled orderId snapshot result)
      (some (.dispatched outcome)) db
  | delivered :
    WorkerStep supervisor cmd db (.dispatched (.ok ())) none (db.withCommandStatus cmd.id .delivered)
  | requeued :
    WorkerStep supervisor cmd db (.dispatched (.error .retry)) none (db.requeued cmd.id)
  | permanentlyRejected :
    WorkerStep supervisor cmd db (.dispatched (.error .permanentlyRejected))
      ((extractOrderId cmd).map .rejecting) (db.withCommandStatus cmd.id .permanentlyRejected)
  | reconciliationRequired :
    WorkerStep supervisor cmd db (.dispatched (.error .reconciliationRequired))
      (some (.auditing none)) (db.withCommandStatus cmd.id .reconciliationRequired)
  | rejected {orderId : Uuid} {db₁ : Db} {riskEvents : List RiskEventRecord}
      (h : db₁ = db ∨ ∃ o, db.order? cmd.accountId orderId = some o ∧
        db.MovedIfLegal o .rejected db₁) :
    WorkerStep supervisor cmd db (.rejecting orderId) none { db₁ with riskEvents }
  | audited {reason : Option String} {riskEvents : List RiskEventRecord} :
    WorkerStep supervisor cmd db (.auditing reason) none { db with riskEvents }

section

variable {supervisor : Supervisor} {cmd : ClaimedCommand} {db db' : Db}

lemma workerStep_begin (hadapter : (supervisor.resolve cmd.exchangeMode).isSome) :
    WorkerStep supervisor cmd db .claimed (some (beginDispatch cmd db).1) (beginDispatch cmd db).2 := by
  cases horder : extractOrderId cmd with
  | none =>
    have hbegin : beginDispatch cmd db = (.dispatched (.error .reconciliationRequired), db) := by
      unfold beginDispatch
      cases cmd.commandType <;> simp only [horder]
    rw [hbegin]
    exact .notHydrated hadapter (by simp [horder])
  | some orderId =>
    by_cases hunknown : ∃ name, cmd.commandType = .unknown name
    · obtain ⟨name, htype⟩ := hunknown
      simp only [beginDispatch, htype]
      exact .notHydrated hadapter fun _ _ => .inl ⟨name, htype⟩
    · have htype : ∀ name, cmd.commandType ≠ .unknown name := fun name h => hunknown ⟨name, h⟩
      have hbegin : beginDispatch cmd db =
          (.after (.hydrated orderId)
            (postgres.atomically (hydrateSnapshotTx cmd.accountId orderId) db).1,
          (postgres.atomically (hydrateSnapshotTx cmd.accountId orderId) db).2) := by
        unfold beginDispatch
        cases h : cmd.commandType with
        | unknown name => exact (htype name h).elim
        | _ => simp only [horder]
      rw [hbegin, atomically_hydrate]
      cases ho : db.order? cmd.accountId orderId with
      | none =>
        refine .notHydrated hadapter fun orderId' h => .inr ?_
        obtain rfl := Option.some.inj (horder.symm.trans h)
        exact ho
      | some o => exact .hydrated hadapter horder htype ho

lemma workerStep_accepted (orderId : Uuid) :
    WorkerStep supervisor cmd db (.accepted orderId)
      (some (.dispatched (postgres.atomically (acceptedTx cmd orderId) db).1))
      (postgres.atomically (acceptedTx cmd orderId) db).2 := by
  cases hresult : (postgres.atomically (acceptedTx cmd orderId) db).1 with
  | ok _ =>
    have hcommit := (strict_acceptedTx cmd orderId).commits hresult
    cases htype : cmd.commandType with
    | submitOrder =>
      simp only [acceptedTx, htype] at hcommit ⊢
      obtain ⟨o, db₁, ho, hmove, hdb⟩ := of_commits_submitTx hcommit
      rw [hdb]
      exact .submitted htype ho hmove
    | cancelOrder =>
      simp only [acceptedTx, htype] at hcommit ⊢
      obtain ⟨o, db₁, ho, hmove, hdb⟩ := of_commits_cancelTx hcommit
      rw [hdb]
      exact .cancelled htype ho hmove
    | reconcileOrder =>
      simp only [acceptedTx, htype] at hcommit
      exact (Engine.not_commits_fail hcommit).elim
    | unknown name =>
      simp only [acceptedTx, htype] at hcommit
      exact (Engine.not_commits_fail hcommit).elim
  | error e =>
    rw [Engine.atomically_of_error hresult]
    exact .notAccepted ((errorsIn_acceptedTx cmd orderId).atomically hresult)

lemma workerStep_reconciled (orderId : Uuid) (snapshot : ReconcileSnapshot)
    (result : ReconcileResult) :
    WorkerStep supervisor cmd db (.reconciled orderId snapshot result)
      (some (.dispatched (postgres.atomically
        (persistReconcileResultTx cmd.accountId orderId snapshot result) db).1))
      (postgres.atomically
        (persistReconcileResultTx cmd.accountId orderId snapshot result) db).2 := by
  set p := persistReconcileResultTx cmd.accountId orderId snapshot result with hp
  by_cases hcommit : postgres.Commits p db () (postgres.atomically p db).2
  · rw [Engine.atomically_of_commits hcommit]
    exact .persisted hcommit
  · have hdb : (postgres.atomically p db).2 = db := by
      rcases Engine.atomically_cases postgres p db with h | ⟨_, -, h⟩
      · exact h
      · exact (hcommit h).elim
    rw [hdb]
    refine .notPersisted (fun hevents => ?_) fun e he =>
      (errorsIn_persistReconcileResultTx _ _ _ _).atomically he
    cases hresult : (postgres.atomically p db).1 with
    | ok _ =>
      have hstrict := strict_persistReconcileResultTx cmd.accountId orderId snapshot hevents
      exact (hcommit (hstrict.commits hresult)).elim
    | error e => exact ⟨e, rfl⟩

/-- Every step of a worker is one of these. -/
theorem workerStep_of_advance {stage : Stage} {next : Option Stage}
    (h : advance supervisor cmd stage db = some (next, db')) :
    WorkerStep supervisor cmd db stage next db' := by
  cases stage with
  | claimed =>
    simp only [advance] at h
    cases hadapter : supervisor.resolve cmd.exchangeMode with
    | none =>
      rw [hadapter] at h
      cases h
      exact .noAdapter hadapter
    | some adapter =>
      rw [hadapter] at h
      cases h
      exact workerStep_begin (by simp [hadapter])
  | hydrated orderId snapshot =>
    simp only [advance] at h
    obtain ⟨adapter, hadapter, h⟩ := Option.map_eq_some_iff.mp h
    cases h
    exact .called hadapter
  | accepted orderId =>
    cases h
    exact workerStep_accepted orderId
  | reconciled orderId snapshot result =>
    cases h
    exact workerStep_reconciled orderId snapshot result
  | dispatched outcome =>
    match outcome with
    | .ok () =>
      cases h
      exact .delivered
    | .error .retry =>
      cases h
      exact .requeued
    | .error .permanentlyRejected =>
      cases h
      exact .permanentlyRejected
    | .error .reconciliationRequired =>
      cases h
      exact .reconciliationRequired
  | rejecting orderId =>
    cases h
    obtain ⟨db₁, riskEvents, hdb, hmove⟩ := rejectOrder_cases cmd orderId db
    rw [hdb]
    exact .rejected hmove
  | auditing reason =>
    cases h
    obtain ⟨riskEvents, hdb⟩ := reconciliationRequired_cases cmd reason db
    rw [hdb]
    exact .audited

end

end Confluence
