import Confluence.Server.Snapshots

/-!
# What becomes of one order

A step of the server leaves an order and its fills as they are, or moves the order by a legal
transition. Fills are recorded only together with such a move.
-/

namespace Confluence

/-- The recorded fills of an order. -/
def Db.fillRows (db : Db) (orderId : Uuid) : List FillRecord :=
  db.orderFills.filter fun f => decide (f.orderId = orderId)

/-- The order is there, and its fills are those that it had before. -/
def Db.Keeps (db db' : Db) (o : OrderRecord) : Prop :=
  o ∈ db'.orders ∧ db'.fillRows o.id = db.fillRows o.id

/-- The paper and the live adapter, with any book and any answer of the venue. -/
def Supervisor.UsesAdapters (supervisor : Supervisor) : Prop :=
  (∀ adapter, supervisor.paperAdapter = some adapter →
    ∃ md now, adapter = Confluence.paperAdapter md now) ∧
  ∀ adapter, supervisor.liveAdapter = some adapter →
    ∃ parse answer, adapter = binanceAdapter parse answer

/-- Workers use the two adapters; everything else may happen. -/
def UsesAdapters : Action → Prop
  | .advance _ supervisor => supervisor.UsesAdapters
  | _ => True

/-- The result that the worker is to persist records fills with a new status only. -/
def Task.Settles (t : Task) : Prop :=
  match t.stage with
  | .reconciled _ _ result => result.Settles
  | _ => True

section

variable {db db' : Db} {accountId orderId : Uuid} {o o' : OrderRecord} {status : OrderStatus}
  {supervisor : Supervisor} {t : Task} {next : Option Stage}

lemma Supervisor.UsesAdapters.settles (h : supervisor.UsesAdapters) {mode : ExchangeMode}
    {adapter : ExchangeAdapter} (hadapter : supervisor.resolve mode = some adapter)
    {snapshot : ReconcileSnapshot} {result : ReconcileResult}
    (hresult : adapter.reconcileOrder snapshot = .ok result) : result.Settles := by
  cases mode with
  | paper =>
    obtain ⟨md, now, rfl⟩ := h.1 adapter hadapter
    exact PaperAdapter.settles hresult
  | live =>
    obtain ⟨parse, answer, rfl⟩ := h.2 adapter hadapter
    exact BinanceAdapter.settles hresult

/-! ### Workers carry results that settle -/

lemma WorkerStep.settles (h : WorkerStep supervisor t.cmd db t.stage next db')
    (hadapters : supervisor.UsesAdapters) {stage : Stage} (hnext : next = some stage) :
    Task.Settles { t with stage } := by
  obtain ⟨cmd, lease, before⟩ := t
  cases h with
  | @called adapter orderId snapshot hadapter =>
    obtain rfl := Option.some.inj hnext
    unfold callAdapter
    cases cmd.commandType with
    | submitOrder =>
      simp only
      cases adapter.submit snapshot.order <;> trivial
    | reconcileOrder =>
      simp only
      cases hresult : adapter.reconcileOrder snapshot with
      | ok result => exact hadapters.settles hadapter hresult
      | error e => trivial
    | cancelOrder =>
      simp only
      cases adapter.cancel snapshot.order <;> trivial
    | unknown name => trivial
  | permanentlyRejected =>
    obtain ⟨orderId, -, rfl⟩ := Option.map_eq_some_iff.mp hnext
    trivial
  | delivered | requeued | rejected | audited => cases hnext
  | _ =>
    obtain rfl := Option.some.inj hnext
    trivial

/-- Every worker carries such a result. -/
def TasksSettle (s : Server) : Prop := ∀ t ∈ s.tasks, t.Settles

lemma TasksSettle.step {s s' : Server} {a : Action} (h : TasksSettle s) (hok : UsesAdapters a)
    (hstep : ServerStep s a s') : TasksSettle s' := by
  intro t ht
  cases hstep with
  | tick | enqueueCancel | request => exact h t ht
  | claim limit locked =>
    rcases List.mem_append.mp ht with ht | ht
    · exact h t ht
    · obtain ⟨cmd, -, rfl⟩ := List.mem_map.mp ht
      trivial
  | crash hi => exact h t ((List.eraseIdx_sublist ..).subset ht)
  | advance htask hworker =>
    rcases mem_updateTask htask ht with ht | ⟨stage, hnext, rfl⟩
    · exact h t ht
    · exact hworker.settles hok hnext

/-! ### Orders that stay and orders that move -/

lemma mem_withStatus_of_ne (ho : o ∈ db.orders) (hne : o.id ≠ orderId) (status : OrderStatus)
    (q : Decimal) : o ∈ (db.withStatus accountId orderId status q).orders := by
  refine mem_updateWhere.mpr ⟨o, ho, ?_⟩
  rw [if_neg (by simp [hne])]

lemma mem_withStatus_self (ho : o ∈ db.orders) (status : OrderStatus) (q : Decimal) :
    { o with status, filledQuantity := q } ∈
      (db.withStatus o.accountId o.id status q).orders := by
  refine mem_updateWhere.mpr ⟨o, ho, ?_⟩
  rw [if_pos (by simp)]

/-- How a worker moves an order: it submits, cancels or rejects it, or persists a reconciliation of
it as it is. -/
inductive WorkerMoves (db db' : Db) (t : Task) (o : OrderRecord) : OrderStatus → Decimal → Prop
  | directly {status : OrderStatus} {q : Decimal}
      (hstatus : status = .submitted ∨ status = .cancelRequested ∨ status = .rejected)
      (hq : Numeric.store 30 10 o.filledQuantity = some q)
      (hfills : db'.fillRows o.id = db.fillRows o.id) : WorkerMoves db db' t o status q
  | reconciled {status : OrderStatus} {q : Decimal} {snapshot : ReconcileSnapshot}
      {result : ReconcileResult} (hstage : t.stage = .reconciled o.id snapshot result)
      (haccount : t.cmd.accountId = o.accountId) (hsame : o.status = snapshot.order.status)
      (hstatus : result.newStatus = some status)
      (hnone : result.fillsToAdd = [] → Numeric.store 30 10 o.filledQuantity = some q ∧
        db'.fillRows o.id = db.fillRows o.id) :
    WorkerMoves db db' t o status q

/-- What becomes of the order `o`. -/
def Db.OrderFate (db db' : Db) (t : Task) (o : OrderRecord) : Prop :=
  db.Keeps db' o ∨ ∃ status q, OrderStateMachine.legal o.status status = true ∧
    { o with status, filledQuantity := q } ∈ db'.orders ∧ WorkerMoves db db' t o status q

/-- Only orders and fills matter. -/
lemma Db.OrderFate.congr {db₁ : Db} (h : db.OrderFate db₁ t o) (horders : db'.orders = db₁.orders)
    (hfills : db'.orderFills = db₁.orderFills) : db.OrderFate db' t o := by
  have hrows : db'.fillRows o.id = db₁.fillRows o.id := by
    rw [Db.fillRows, hfills]
    rfl
  rcases h with ⟨ho, hkept⟩ | ⟨status, q, hlegal, hmem, hmoves⟩
  · exact .inl ⟨horders ▸ ho, hrows.trans hkept⟩
  · refine .inr ⟨status, q, hlegal, horders ▸ hmem, ?_⟩
    cases hmoves with
    | directly hstatus hq hkept => exact .directly hstatus hq (hrows.trans hkept)
    | reconciled hstage haccount hsame hstatus hnone =>
      refine .reconciled hstage haccount hsame hstatus fun hempty => ?_
      exact ⟨(hnone hempty).1, hrows.trans (hnone hempty).2⟩

lemma Db.MovedIfLegal.fate (h : db.MovedIfLegal o' status db') (hids : (db.orders.map (·.id)).Nodup)
    (ho' : db.order? accountId orderId = some o') (ho : o ∈ db.orders) (t : Task)
    (hstatus : status = .submitted ∨ status = .cancelRequested ∨ status = .rejected) :
    db.OrderFate db' t o := by
  obtain ⟨hmem, -, -⟩ := Db.mem_of_order? ho'
  unfold Db.MovedIfLegal at h
  by_cases hlegal : OrderStateMachine.legal o'.status status = true
  · rw [if_pos hlegal] at h
    obtain ⟨q, hq, -, -, rfl⟩ := h
    by_cases hid : o.id = o'.id
    · obtain rfl := List.inj_on_of_nodup_map hids ho hmem hid
      exact .inr ⟨status, q, hlegal, mem_withStatus_self ho status q, .directly hstatus hq rfl⟩
    · exact .inl ⟨mem_withStatus_of_ne ho hid status q, rfl⟩
  · rw [if_neg hlegal] at h
    rw [h]
    exact .inl ⟨ho, rfl⟩

/-- Rows of other orders do not count. -/
lemma fillRows_append {rows : List FillRecord} (hrows : ∀ r ∈ rows, r.orderId = orderId) {i : Uuid}
    (hne : i ≠ orderId) : Db.fillRows { db with orderFills := db.orderFills ++ rows } i =
      db.fillRows i := by
  have hnone : rows.filter (fun f => decide (f.orderId = i)) = [] := by
    rw [List.filter_eq_nil_iff]
    intro r hr
    rw [hrows r hr]
    simpa using hne.symm
  rw [Db.fillRows, List.filter_append, hnone, List.append_nil]
  rfl

lemma orderFate_of_persisted {snapshot : ReconcileSnapshot} {result : ReconcileResult} {u : Unit}
    (hids : (db.orders.map (·.id)).Nodup) (ho : o ∈ db.orders) (hsettles : result.Settles)
    (hstage : t.stage = .reconciled orderId snapshot result)
    (h : postgres.Commits (persistReconcileResultTx t.cmd.accountId orderId snapshot result) db u
      db') : db.OrderFate db' t o := by
  obtain ⟨o', inserted, orderFills, positions, db₁, riskEvents, ho', -, hsame, hfills, -, -,
    hstatus, rfl⟩ := of_commits_persistReconcileResultTx h
  obtain ⟨hmem, rfl, hacc⟩ := Db.mem_of_order? ho'
  obtain ⟨rows, hrows, howner⟩ := of_commits_insertFills hfills
  obtain rfl : orderFills = db.orderFills ++ rows := congrArg Db.orderFills hrows
  by_cases hid : o.id = o'.id
  · obtain rfl := List.inj_on_of_nodup_map hids ho hmem hid
    -- without fills to add, none is recorded
    have hnone (hempty : result.fillsToAdd = []) : inserted = [] ∧ rows = [] := by
      rw [hempty] at hfills
      obtain ⟨hinserted, hdb⟩ := Engine.commits_pure.mp hfills
      have happend := congrArg Db.orderFills hdb
      exact ⟨hinserted.symm, List.append_right_eq_self.mp happend.symm⟩
    cases hnew : result.newStatus with
    | none =>
      rw [hnew] at hstatus
      have hempty : result.fillsToAdd = [] := by
        rcases hsettles with hempty | hsome
        · exact hempty
        · rw [hnew] at hsome
          cases hsome
      obtain ⟨-, rfl⟩ := hnone hempty
      rw [show db₁ = _ from hstatus]
      refine .inl ⟨ho, ?_⟩
      simp [Db.fillRows]
    | some status =>
      rw [hnew] at hstatus
      obtain ⟨hlegal, q, hq, -, -, rfl⟩ := hstatus
      refine .inr ⟨status, q, hlegal, mem_withStatus_self ho status q,
        .reconciled hstage hacc.symm hsame hnew fun hempty => ?_⟩
      obtain ⟨rfl, rfl⟩ := hnone hempty
      refine ⟨?_, ?_⟩
      · rw [← hq, List.map_nil, List.sum_nil, add_zero]
      · simp [Db.fillRows, Db.withStatus]
  · have hrows' : ∀ r ∈ rows, r.orderId = o'.id := fun r hr => (howner r hr).2
    have hfillRows : Db.fillRows { db with orderFills := db.orderFills ++ rows } o.id =
        db.fillRows o.id := fillRows_append hrows' hid
    cases hnew : result.newStatus with
    | none =>
      rw [hnew] at hstatus
      rw [show db₁ = _ from hstatus]
      exact .inl ⟨ho, hfillRows⟩
    | some status =>
      rw [hnew] at hstatus
      obtain ⟨-, q, -, -, -, rfl⟩ := hstatus
      exact .inl ⟨mem_withStatus_of_ne ho hid status q, hfillRows⟩

lemma WorkerStep.orderFate (h : WorkerStep supervisor t.cmd db t.stage next db')
    (hsettles : t.Settles) (hids : (db.orders.map (·.id)).Nodup) (ho : o ∈ db.orders) :
    db.OrderFate db' t o := by
  obtain ⟨cmd, lease, before⟩ := t
  cases h with
  | noAdapter | delivered | requeued | permanentlyRejected | reconciliationRequired | notHydrated
  | hydrated | called | notAccepted | notPersisted | audited => exact .inl ⟨ho, rfl⟩
  | @submitted orderId o' db₁ htype ho' hmove =>
    have hfate := hmove.fate hids ho' ho ⟨cmd, lease, .accepted orderId⟩ (.inl rfl)
    exact hfate.congr rfl rfl
  | @cancelled orderId o' db₁ riskEvents htype ho' hmove =>
    have hfate := hmove.fate hids ho' ho ⟨cmd, lease, .accepted orderId⟩ (.inr (.inl rfl))
    exact hfate.congr rfl rfl
  | persisted hcommit => exact orderFate_of_persisted hids ho hsettles rfl hcommit
  | @rejected orderId db₁ riskEvents h =>
    rcases h with rfl | ⟨o', ho', hmove⟩
    · exact .inl ⟨ho, rfl⟩
    · have hfate := hmove.fate hids ho' ho ⟨cmd, lease, .rejecting orderId⟩ (.inr (.inr rfl))
      exact hfate.congr rfl rfl

/-- A step of the server that is not a worker's leaves every order and its fills alone. -/
lemma ServerStep.orderFate {s s' : Server} {a : Action} (h : ServerStep s a s')
    (hsettle : TasksSettle s) (hids : (s.db.orders.map (·.id)).Nodup) (ho : o ∈ s.db.orders) :
    s.db.Keeps s'.db o ∨ ∃ i supervisor t, a = .advance i supervisor ∧ s.tasks[i]? = some t ∧
      s.db.OrderFate s'.db t o := by
  cases h with
  | tick | enqueueCancel | claim | crash => exact .inl ⟨ho, rfl⟩
  | @advance i supervisor t next db' htask hworker =>
    have hfate := hworker.orderFate (hsettle t (List.mem_of_getElem? htask)) hids ho
    exact .inr ⟨i, supervisor, t, rfl, htask, hfate⟩
  | request hrequest =>
    cases hrequest with
    | audited => exact .inl ⟨ho, rfl⟩
    | riskState => exact .inl ⟨ho, rfl⟩
    | configured => exact .inl ⟨ho, rfl⟩
    | placed => exact .inl ⟨List.mem_append_left _ ho, rfl⟩

/-- Identifiers of orders stay distinct. -/
lemma ServerStep.nodup_ids {s s' : Server} {a : Action} (h : ServerStep s a s')
    (hids : (s.db.orders.map (·.id)).Nodup) : (s'.db.orders.map (·.id)).Nodup := by
  cases h with
  | tick | enqueueCancel | claim | crash => exact hids
  | advance htask hworker =>
    rw [hworker.movesOrder.ids]
    exact hids
  | request hrequest =>
    cases hrequest with
    | audited => exact hids
    | riskState => exact hids
    | configured => exact hids
    | placed happroved hq hp hpos hid hclient => exact ids_placed hids hid _ _ _ _ _

/-- Orders keep identifiers of their own, and results that workers carry settle. -/
structure Orderly (s : Server) : Prop where
  ids : (s.db.orders.map (·.id)).Nodup
  settle : TasksSettle s

lemma Orderly.step {s s' : Server} {a : Action} (h : Orderly s) (hok : UsesAdapters a) (hstep : ServerStep s a s') :
    Orderly s' :=
  ⟨hstep.nodup_ids h.ids, h.settle.step hok hstep⟩

/-- No step moves a closed order. -/
lemma keeps_of_isTerminal {s s' : Server} {a : Action} (h : Orderly s) (hstep : ServerStep s a s') (ho : o ∈ s.db.orders)
    (hclosed : o.status.isTerminal = true) : s.db.Keeps s'.db o := by
  rcases hstep.orderFate h.settle h.ids ho with
    hkeeps | ⟨i, supervisor, t, -, -, hkeeps | ⟨status, q, hlegal, -, -⟩⟩
  · exact hkeeps
  · exact hkeeps
  · rw [OrderStateMachine.not_legal_of_isTerminal hclosed] at hlegal
    cases hlegal

end

end Confluence
