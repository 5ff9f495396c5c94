import Confluence.Exchange.Results
import Confluence.Server.Steps

/-!
# Snapshots of orders

A worker computes its result from a snapshot that may be stale by the time it is persisted. What does
not go stale: the terms of the order, and the snapshot's fills as the first of those recorded.
-/

namespace Confluence

/-- The rows differ in status and filled quantity at most. -/
def OrderRecord.SameTerms (o o' : OrderRecord) : Prop :=
  o' = { o with status := o'.status, filledQuantity := o'.filledQuantity }

/-- The snapshot was taken of this order, at some earlier time. -/
def SnapshotOf (db : Db) (accountId orderId : Uuid) (snapshot : ReconcileSnapshot) : Prop :=
  ∃ o, db.order? accountId orderId = some o ∧
    snapshot.order = { o.snapshot with status := snapshot.order.status } ∧
    snapshot.fills <+: (db.fillsOf accountId orderId).map Fill.snapshot

/-- What a worker carries comes from a snapshot of its order. -/
def Task.Agrees (db : Db) (t : Task) : Prop :=
  match t.stage with
  | .hydrated orderId snapshot => SnapshotOf db t.cmd.accountId orderId snapshot
  | .reconciled orderId snapshot result =>
    SnapshotOf db t.cmd.accountId orderId snapshot ∧ AdapterResult snapshot result
  | _ => True

/-- Orders keep their terms and fills stay recorded. -/
structure Db.Extends (db db' : Db) : Prop where
  orders : ∀ accountId orderId o, db.order? accountId orderId = some o →
    ∃ o', db'.order? accountId orderId = some o' ∧ o.SameTerms o'
  fills : ∃ rows, db'.orderFills = db.orderFills ++ rows

/-- Every adapter of the supervisor keeps to the results of reconciliations. -/
def Supervisor.Sound (supervisor : Supervisor) : Prop :=
  ∀ mode adapter, supervisor.resolve mode = some adapter → ∀ snapshot result,
    adapter.reconcileOrder snapshot = .ok result → AdapterResult snapshot result

/-- Paper trading only, with any book at any instant. -/
def Supervisor.IsPaper (supervisor : Supervisor) : Prop :=
  ∃ md now, supervisor =
    { paperAdapter := some (Confluence.paperAdapter md now), liveAdapter := none }

/-- The only requests are orders, and workers trade on paper. -/
def TradesOnPaper : Action → Prop
  | .request _ _ (.placeOrder _ _) => True
  | .request _ _ _ => False
  | .advance _ supervisor => supervisor.IsPaper
  | _ => True

lemma Supervisor.IsPaper.sound {supervisor : Supervisor} (h : supervisor.IsPaper) :
    supervisor.Sound := by
  obtain ⟨md, now, rfl⟩ := h
  intro mode adapter hadapter snapshot result hresult
  cases mode with
  | paper =>
    obtain rfl := Option.some.inj hadapter
    exact PaperAdapter.adapterResult hresult
  | live => cases hadapter

section

variable {db db' db₁ : Db} {accountId orderId : Uuid} {o o' : OrderRecord}

lemma OrderRecord.SameTerms.refl (o : OrderRecord) : o.SameTerms o := rfl

lemma Db.Extends.of_same (horders : db'.orders = db.orders)
    (hfills : db'.orderFills = db.orderFills) : db.Extends db' := by
  constructor
  · intro accountId orderId o ho
    refine ⟨o, ?_, .refl o⟩
    rw [Db.order?, horders]
    exact ho
  · exact ⟨[], by rw [hfills, List.append_nil]⟩

lemma SnapshotOf.extends {snapshot : ReconcileSnapshot}
    (h : SnapshotOf db accountId orderId snapshot) (hdb : db.Extends db') :
    SnapshotOf db' accountId orderId snapshot := by
  obtain ⟨o, ho, hterms, hfills⟩ := h
  obtain ⟨o', ho', hsame⟩ := hdb.orders accountId orderId o ho
  refine ⟨o', ho', ?_, ?_⟩
  · rw [hterms, hsame]
    rfl
  · obtain ⟨rows, hrows⟩ := hdb.fills
    have hmore : db.fillsOf accountId orderId <+: db'.fillsOf accountId orderId := by
      rw [Db.fillsOf, Db.fillsOf, hrows, List.filter_append, List.map_append]
      exact List.prefix_append _ _
    exact hfills.trans (hmore.map _)

lemma Task.Agrees.extends {t : Task} (h : t.Agrees db) (hdb : db.Extends db') : t.Agrees db' := by
  unfold Task.Agrees at h ⊢
  cases hstage : t.stage with
  | hydrated orderId snapshot =>
    rw [hstage] at h
    exact SnapshotOf.extends h hdb
  | reconciled orderId snapshot result =>
    rw [hstage] at h
    exact ⟨h.1.extends hdb, h.2⟩
  | _ => trivial

/-! ### Every step extends the tables -/

lemma order?_append {rows : List OrderRecord} (ho : db.order? accountId orderId = some o) :
    Db.order? { db with orders := db.orders ++ rows } accountId orderId = some o := by
  unfold Db.order? at ho ⊢
  rw [List.find?_append, ho]
  rfl

lemma order?_append_self (hid : ∀ r ∈ db.orders, r.id ≠ o.id) :
    Db.order? { db with orders := db.orders ++ [o] } o.accountId o.id = some o := by
  have hnone : db.orders.find? (fun r =>
      decide (r.id = o.id) && decide (r.accountId = o.accountId)) = none := by
    rw [List.find?_eq_none]
    intro r hr
    simp [hid r hr]
  rw [Db.order?, List.find?_append, hnone]
  simp

lemma MovesOrder.order? (h : MovesOrder accountId db db') {a i : Uuid}
    (ho : db.order? a i = some o) : ∃ o', db'.order? a i = some o' ∧ o.SameTerms o' := by
  rcases h with hsame | ⟨orderId, _, status, q, -, -, -, -, hmoved⟩
  · refine ⟨o, ?_, .refl o⟩
    rw [Db.order?, hsame]
    exact ho
  · refine ⟨if decide (o.id = orderId) && decide (o.accountId = accountId) then
      { o with status, filledQuantity := q } else o, ?_, ?_⟩
    · rw [Db.order?, hmoved, Db.withStatus, find?_updateWhere]
      · rw [Db.order?] at ho
        rw [ho]
        rfl
      · exact fun _ => rfl
    · split_ifs <;> rfl

/-- Workers add fills and take none away. -/
lemma WorkerStep.appendsFills {supervisor : Supervisor} {cmd : ClaimedCommand} {stage : Stage}
    {next : Option Stage} (h : WorkerStep supervisor cmd db stage next db') :
    ∃ rows, db'.orderFills = db.orderFills ++ rows := by
  cases h with
  | noAdapter | delivered | requeued | permanentlyRejected | reconciliationRequired | notHydrated
  | hydrated | called | notAccepted | notPersisted | audited =>
    exact ⟨[], (List.append_nil _).symm⟩
  | submitted htype ho hmove =>
    obtain ⟨orders, rfl⟩ := hmove.frame
    exact ⟨[], (List.append_nil _).symm⟩
  | cancelled htype ho hmove =>
    obtain ⟨orders, rfl⟩ := hmove.frame
    exact ⟨[], (List.append_nil _).symm⟩
  | persisted h =>
    obtain ⟨o, _, _, _, db₁, _, -, -, -, hfills, -, -, hstatus, rfl⟩ :=
      of_commits_persistReconcileResultTx h
    obtain ⟨orders, rfl⟩ := hstatus.frame
    obtain ⟨rows, hrows, -⟩ := of_commits_insertFills hfills
    exact ⟨rows, congrArg Db.orderFills hrows⟩
  | rejected h =>
    rcases h with rfl | ⟨o, -, hmove⟩
    · exact ⟨[], (List.append_nil _).symm⟩
    · obtain ⟨orders, rfl⟩ := hmove.frame
      exact ⟨[], (List.append_nil _).symm⟩

/-- Every step of the server keeps terms and fills. -/
lemma ServerStep.extends {s s' : Server} {a : Action} (h : ServerStep s a s') :
    s.db.Extends s'.db := by
  cases h with
  | tick | enqueueCancel | claim | crash => exact .of_same rfl rfl
  | advance htask hworker =>
    exact ⟨fun _ _ _ ho => hworker.movesOrder.order? ho, hworker.appendsFills⟩
  | request hrequest =>
    cases hrequest with
    | audited => exact .of_same rfl rfl
    | riskState => exact .of_same rfl rfl
    | configured => exact .of_same rfl rfl
    | placed =>
      refine ⟨fun _ _ o ho => ⟨o, ?_, .refl o⟩, [], (List.append_nil _).symm⟩
      exact order?_append ho

/-! ### What workers carry agrees -/

/-- Fresh snapshots agree, and sound adapters return results of the snapshot. -/
lemma WorkerStep.agrees {supervisor : Supervisor} {t : Task} {next : Option Stage}
    (hsound : supervisor.Sound) (h : WorkerStep supervisor t.cmd db t.stage next db')
    (hextends : db.Extends db') (hagrees : t.Agrees db) {stage : Stage} (hnext : next = some stage) :
    Task.Agrees db' { t with stage } := by
  obtain ⟨cmd, lease, before⟩ := t
  refine Task.Agrees.extends ?_ hextends
  cases h with
  | @hydrated orderId o _ _ _ ho =>
    obtain rfl := Option.some.inj hnext
    obtain ⟨-, rfl, hacc⟩ := Db.mem_of_order? ho
    refine ⟨o, ho, rfl, ?_⟩
    rw [← hacc]
    exact List.prefix_refl _
  | @called adapter orderId snapshot hadapter =>
    obtain rfl := Option.some.inj hnext
    have hsnapshot : SnapshotOf db cmd.accountId orderId snapshot := hagrees
    unfold callAdapter
    cases cmd.commandType with
    | submitOrder =>
      simp only
      cases adapter.submit snapshot.order <;> trivial
    | reconcileOrder =>
      simp only
      cases hresult : adapter.reconcileOrder snapshot with
      | ok result => exact ⟨hsnapshot, hsound _ _ hadapter _ _ hresult⟩
      | error e => trivial
    | cancelOrder =>
      simp only
      cases adapter.cancel snapshot.order <;> trivial
    | unknown name => trivial
  | permanentlyRejected =>
    obtain ⟨orderId, -, rfl⟩ := Option.map_eq_some_iff.mp hnext
    trivial
  | delivered | requeued | rejected | audited => cases hnext
  | _ =>
    obtain rfl := Option.some.inj hnext
    trivial

/-- What every worker carries agrees. -/
def TasksAgree (s : Server) : Prop := ∀ t ∈ s.tasks, t.Agrees s.db

lemma TasksAgree.step {s s' : Server} {a : Action} (h : TasksAgree s)
    (hsound : ∀ i supervisor, a = .advance i supervisor → supervisor.Sound)
    (hstep : ServerStep s a s') : TasksAgree s' := by
  have hextends := hstep.extends
  intro t ht
  cases hstep with
  | tick seconds => exact (h t ht).extends hextends
  | enqueueCancel => exact (h t ht).extends hextends
  | request => exact (h t ht).extends hextends
  | claim limit locked =>
    rcases List.mem_append.mp ht with ht | ht
    · exact (h t ht).extends hextends
    · obtain ⟨cmd, -, rfl⟩ := List.mem_map.mp ht
      trivial
  | crash hi => exact (h t ((List.eraseIdx_sublist ..).subset ht)).extends hextends
  | @advance i supervisor task next db' htask hworker =>
    rcases mem_updateTask htask ht with ht | ⟨stage, hnext, rfl⟩
    · exact (h t ht).extends hextends
    · exact hworker.agrees (hsound i supervisor rfl) hextends
        (h task (List.mem_of_getElem? htask)) hnext

/-! ### Persisting a sound result -/

lemma mem_riskEventTypes {eventType : String} (h : eventType ∈ reconcileEventTypes) :
    eventType ∈ riskEventTypes := by
  have hsub : ∀ eventType ∈ reconcileEventTypes, eventType ∈ riskEventTypes := by decide
  exact hsub eventType h

/-- What persisting a result leaves of the database: events only; the order with another status; or
one more fill, its effect on the position, and the order with another status and filled quantity. -/
inductive Persisted (db : Db) (o : OrderRecord) : ReconcileResult → Db → Prop
  | unchanged {riskEvents : List RiskEventRecord} : Persisted db o {} { db with riskEvents }
  | moved {status : OrderStatus} {events : List RiskEvent} {q : Decimal}
      {riskEvents : List RiskEventRecord}
      (hlegal : OrderStateMachine.legal o.status status = true)
      (hq : Numeric.store 30 10 o.filledQuantity = some q) (hnonneg : 0 ≤ q)
      (hle : q ≤ o.quantity) :
    Persisted db o { newStatus := some status, events }
      { db.withStatus o.accountId o.id status q with riskEvents }
  | filled {status : OrderStatus} {fill stored : Fill} {events : List RiskEvent} {q : Decimal}
      {positions : List PositionRecord} {riskEvents : List RiskEventRecord}
      (hlegal : OrderStateMachine.legal o.status status = true)
      (hnew : ¬ db.hasTradeId o.accountId fill.exchangeTradeId)
      (hid : stored.exchangeTradeId = fill.exchangeTradeId)
      (hstored : Numeric.store 30 10 fill.quantity = some stored.quantity)
      (hpos : stored.quantity > 0)
      (hdelta : postgres.Commits
        (applyPositionDelta o.accountId o.symbol (o.side.signed fill.quantity) fill.price)
        { db with orderFills := db.orderFills ++ [⟨o.accountId, o.id, stored⟩] } ()
        { db with orderFills := db.orderFills ++ [⟨o.accountId, o.id, stored⟩], positions })
      (hq : Numeric.store 30 10 (o.filledQuantity + fill.quantity) = some q) (hnonneg : 0 ≤ q)
      (hle : q ≤ o.quantity) :
    Persisted db o
      { newStatus := some status
        fillsToAdd := [fill]
        positionsDelta := [⟨o.symbol, o.side.signed fill.quantity⟩]
        events }
      { Db.withStatus
          { db with orderFills := db.orderFills ++ [⟨o.accountId, o.id, stored⟩], positions }
          o.accountId o.id status q with
        riskEvents }

/-- Inserting a single fill either finds its trade id or adds it. -/
lemma of_commits_insertFills_singleton {fill : Fill} {inserted : List Fill}
    (h : postgres.Commits (insertFills accountId orderId [fill]) db inserted db') :
    (db.hasTradeId accountId fill.exchangeTradeId ∧ inserted = [] ∧ db' = db) ∨
      (¬ db.hasTradeId accountId fill.exchangeTradeId ∧ inserted = [fill] ∧
        ∃ stored : Fill, stored.exchangeTradeId = fill.exchangeTradeId ∧
          Numeric.store 30 10 fill.quantity = some stored.quantity ∧ stored.quantity > 0 ∧
          db' = { db with orderFills := db.orderFills ++ [⟨accountId, orderId, stored⟩] }) := by
  simp only [insertFills, Engine.commits_bind, Engine.commits_mapError, commits_insertFill,
    Engine.commits_pure] at h
  obtain ⟨_, db₁, ⟨q, p, f, hq, hp, hf, hchecked, hcase⟩, _, _, ⟨rfl, rfl⟩, rfl, rfl⟩ := h
  rcases hcase with ⟨hdup, rfl, rfl⟩ | ⟨hnew, rfl, rfl⟩
  · exact .inl ⟨hdup, rfl, rfl⟩
  · exact .inr ⟨hnew, rfl, { fill with quantity := q, price := p, fee := f }, rfl, hq,
      hchecked.1, rfl⟩

lemma of_commits_applyPositionDeltas_singleton {price : Decimal} {delta : PositionDelta} {u : Unit}
    (h : postgres.Commits (applyPositionDeltas accountId price [delta]) db u db') :
    postgres.Commits (applyPositionDelta accountId delta.symbol delta.quantityDelta price) db ()
      db' := by
  simp only [applyPositionDeltas, Engine.commits_bind, Engine.commits_mapError,
    Engine.commits_pure] at h
  obtain ⟨_, _, hdelta, -, rfl⟩ := h
  exact hdelta

lemma persisted_of_commits {snapshot : ReconcileSnapshot} {result : ReconcileResult} {u : Unit}
    (hsnapshot : SnapshotOf db accountId orderId snapshot) (hresult : AdapterResult snapshot result)
    (h : postgres.Commits (persistReconcileResultTx accountId orderId snapshot result) db u db') :
    ∃ o, db.order? accountId orderId = some o ∧ o.filledQuantity = snapshot.filled ∧
      o.status = snapshot.order.status ∧ Persisted db o result db' := by
  obtain ⟨o, inserted, orderFills, positions, db₁, riskEvents, ho, hfilled, hstatus, hfills, hnodup,
    hdeltas, hpersisted, rfl⟩ := of_commits_persistReconcileResultTx h
  refine ⟨o, ho, hfilled, hstatus, ?_⟩
  obtain ⟨-, rfl, rfl⟩ := Db.mem_of_order? ho
  obtain ⟨o', ho', hterms, -⟩ := hsnapshot
  obtain rfl : o = o' := Option.some.inj (ho.symm.trans ho')
  cases hresult with
  | unchanged =>
    obtain ⟨rfl, hsame⟩ := Engine.commits_pure.mp hfills
    obtain ⟨-, hsame'⟩ := Engine.commits_pure.mp hdeltas
    rw [show db₁ = _ from hpersisted, ← hsame', ← hsame]
    exact .unchanged
  | moved hevents =>
    obtain ⟨rfl, hsame⟩ := Engine.commits_pure.mp hfills
    obtain ⟨-, hsame'⟩ := Engine.commits_pure.mp hdeltas
    obtain ⟨hlegal, q, hq, hnonneg, hle, hdb₁⟩ := hpersisted
    rw [← hsame', ← hsame] at hdb₁
    rw [hdb₁]
    refine .moved hlegal ?_ hnonneg hle
    rw [← hq, List.map_nil, List.sum_nil, add_zero]
  | @filled status fill events hevents hid hpos hscaled =>
    obtain ⟨hlegal, q, hq, hnonneg, hle, rfl⟩ := hpersisted
    rcases of_commits_insertFills_singleton hfills
      with ⟨-, rfl, -⟩ | ⟨hnew, rfl, stored, hid', hstored, hpos', hdb⟩
    · exact (hnodup (by simp) rfl).elim
    · obtain rfl : orderFills = _ := congrArg Db.orderFills hdb
      have hdelta := of_commits_applyPositionDeltas_singleton hdeltas
      rw [hterms] at hdelta ⊢
      refine .filled hlegal hnew hid' hstored hpos' hdelta ?_ hnonneg hle
      rw [← hq, List.map_singleton, List.sum_singleton]

end

end Confluence
