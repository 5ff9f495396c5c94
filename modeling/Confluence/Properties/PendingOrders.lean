import Confluence.Properties.OrderLifecycle
import Confluence.Properties.Outbox

/-!
# Pending orders are sent

As long as the workers have an adapter that takes the orders of a mode, no order of the mode is left
pending. Whatever crashes and whichever calls fail, except the one that locks an order before its
command is dispatched: the command that submits a pending order waits to be claimed, and a worker that
claims it and goes through moves the order on.
-/

namespace Confluence

/-- The worker's adapter of the mode refuses no order. -/
def Supervisor.Takes (supervisor : Supervisor) (mode : ExchangeMode) : Prop :=
  ∃ adapter, supervisor.resolve mode = some adapter ∧
    ∀ order, ∃ result, adapter.submit order = .ok result

/-- Workers take the orders of the mode, and no failure ends in manual review. -/
def TakesOrders (mode : ExchangeMode) (s : Server) : ServiceAction → Prop
  | .act (.act (.advance _ supervisor)) => supervisor.Takes mode
  | .act (.fault i supervisor n) => supervisor.Takes mode ∧ ∀ t ∈ s.tasks[i]?,
      (t.afterFault supervisor)[n]? ≠ some (some (.dispatched (.error .reconciliationRequired)))
  | _ => True

/-- The command submits an order of the mode. -/
structure ClaimedCommand.Submits (cmd : ClaimedCommand) (mode : ExchangeMode) : Prop where
  type : cmd.commandType = .submitOrder
  mode : cmd.exchangeMode = mode

/-- The order that the command names is not pending any more. -/
def Db.Sent (db : Db) (cmd : ClaimedCommand) : Prop :=
  ∀ o ∈ db.orders, o.accountId = cmd.accountId → extractOrderId cmd = some o.id → o.status ≠ .pending

/-- Where a worker may be with a submission. -/
def Task.Sends (t : Task) (db : Db) : Prop :=
  match t.stage with
  | .claimed | .dispatched (.error .retry) => True
  | .hydrated orderId _ | .accepted orderId => extractOrderId t.cmd = some orderId
  | .dispatched (.ok ()) => db.Sent t.cmd
  | _ => False

/-- The command can be claimed, at the latest when a lease written now has expired. -/
def CommandRecord.Waits (r : CommandRecord) (now : Timestamp) : Prop :=
  ∀ later, now + leaseSeconds < later → r.claimable later = true

/-- What holds of orders and commands however far the workers are. -/
structure Db.Outgoing (db : Db) : Prop where
  constrained : db.Constrained
  outbox : db.OutboxComplete
  unfilled : ∀ o ∈ db.orders, o.status = .pending → o.filledQuantity = 0

/-- Submissions of the mode are on their way. -/
structure Sending (mode : ExchangeMode) (s : Server) : Prop where
  db : s.db.Outgoing
  known : ∀ t ∈ s.tasks, ∃ r ∈ s.db.exchangeCommands, r.claimed = t.cmd
  tasks : ∀ t ∈ s.tasks, t.cmd.Submits mode → t.Sends s.db
  commands : ∀ r ∈ s.db.exchangeCommands, r.claimed.Submits mode →
    r.Waits s.db.now ∨ s.db.Sent r.claimed

section

variable {mode : ExchangeMode} {db db' : Db} {cmd : ClaimedCommand} {supervisor : Supervisor}
  {t : Task} {next : Option Stage} {s s' : Server} {a : ServiceAction}

/-! ### Submissions and their orders -/

/-- The order of a submission. -/
lemma Db.Outgoing.order (h : db.Outgoing) (hcmd : ∃ r ∈ db.exchangeCommands, r.claimed = cmd)
    (htype : cmd.commandType = .submitOrder) :
    ∃ o, db.order? cmd.accountId o.id = some o ∧ extractOrderId cmd = some o.id := by
  obtain ⟨r, hr, rfl⟩ := hcmd
  have hmem : r.submission ∈ db.submissions :=
    List.mem_map_of_mem (List.mem_filter.mpr ⟨hr, decide_eq_true htype⟩)
  rw [h.outbox.submissions] at hmem
  obtain ⟨o, ho, heq⟩ := List.mem_map.mp hmem
  have haccount : o.accountId = r.accountId := congrArg (·.1) heq
  have hid : some o.id = extractOrderId r.claimed := congrArg (·.2.1) heq
  refine ⟨o, ?_, hid.symm⟩
  rw [show r.claimed.accountId = o.accountId from haccount.symm]
  exact Db.order?_of_mem h.constrained.orderIds ho

lemma pending_of_legal {status target : OrderStatus}
    (h : OrderStateMachine.legal status target = true) : target ≠ .pending := by
  rintro rfl
  cases status <;> cases h

lemma legal_submitted {status : OrderStatus} :
    OrderStateMachine.legal status .submitted = true ↔ status = .pending := by
  cases status <;> simp [OrderStateMachine.legal]

/-- An order that has been sent stays so. -/
lemma Db.Sent.orderStep (h : db.Sent cmd) (hdb : db.Outgoing)
    (hcmd : ∃ r ∈ db.exchangeCommands, r.claimed = cmd) (htype : cmd.commandType = .submitOrder)
    (hids : (db'.orders.map (·.id)).Nodup) (hstep : OrderStep db.orders db'.orders) :
    db'.Sent cmd := by
  obtain ⟨o₀, hfound, hid₀⟩ := hdb.order hcmd htype
  have hmem₀ := (Db.mem_of_order? hfound).1
  unfold Db.Sent
  generalize db'.orders = orders' at hids hstep
  cases hstep with
  | same => exact h
  | @placed o hstatus hfilled =>
    refine forall_append h fun _ hid => ?_
    have heq : o₀.id = o.id := Option.some.inj (hid₀.symm.trans hid)
    rw [List.map_append, List.nodup_append] at hids
    exact (hids.2.2 o₀.id (List.mem_map_of_mem hmem₀) o.id (by simp) heq).elim
  | @moved o status x q ho hlegal hx hq =>
    intro o' ho' haccount hid
    obtain ⟨r, hr, rfl⟩ := mem_updateWhere.mp ho'
    split_ifs at haccount hid ⊢ with hrow
    · exact pending_of_legal hlegal
    · exact h r hr haccount hid

/-- What a step keeps of orders and commands. -/
lemma Db.Outgoing.step (hdb : s.db.Outgoing) (h : s.serviceStep a = some s') : s'.db.Outgoing where
  constrained := constrained_of_serviceStep h hdb.constrained
  outbox := outboxComplete_of_serviceStep h hdb.outbox
  unfilled := by
    have hstep := orderStep_of_serviceStep h
    generalize s'.db.orders = orders' at hstep
    cases hstep with
    | same => exact hdb.unfilled
    | placed hstatus hfilled => exact forall_append hdb.unfilled fun _ => hfilled
    | moved ho hlegal hx hq =>
      refine forall_updateWhere hdb.unfilled fun r _ _ hpending => ?_
      exact (pending_of_legal hlegal hpending).elim

/-! ### A worker with a submission -/

/-- The transaction behind a submission that the venue took goes through. -/
lemma submitTx_commits (hdb : db.Outgoing) {o : OrderRecord}
    (ho : db.order? cmd.accountId o.id = some o) :
    ∃ db', postgres.Commits (submitTx cmd o.id) db () db' := by
  obtain ⟨hmem, -, haccount⟩ := Db.mem_of_order? ho
  simp only [submitTx, Engine.commits_bind, Engine.commits_mapError, commits_lockOrder,
    OrderStateMachine.transition_isOk]
  by_cases hpending : o.status = .pending
  · have hlegal := legal_submitted.mpr hpending
    have hfilled := hdb.unfilled o hmem hpending
    have hstore : Numeric.store 30 10 o.filledQuantity = some 0 := by
      rw [hfilled]
      decide +kernel
    have hupdate : postgres.Commits (updateOrderStatus cmd.accountId o.id .submitted o.filledQuantity)
        db () (db.withStatus cmd.accountId o.id .submitted 0) := by
      refine commits_updateOrderStatus.mpr ⟨0, hstore, fun r hr _ _ => ?_, rfl⟩
      obtain ⟨hquantity, hprice, -, -⟩ := hdb.constrained.orders r hr
      exact ⟨hquantity, hprice, le_refl _, hquantity.le⟩
    refine ⟨(db.withStatus cmd.accountId o.id .submitted 0).withCommand cmd.accountId .reconcileOrder
      cmd.exchangeMode (toString o.id ++ ":reconcile:initial") (orderPayload o.id), o, db, ⟨ho, rfl⟩, ?_⟩
    rw [if_pos hlegal]
    simp only [Engine.commits_bind, Engine.commits_mapError, commits_insertExchangeCommand]
    exact ⟨(), _, hupdate, by simp, rfl⟩
  · refine ⟨db.withCommand cmd.accountId .reconcileOrder cmd.exchangeMode
      (toString o.id ++ ":reconcile:initial") (orderPayload o.id), o, db, ⟨ho, rfl⟩, ?_⟩
    rw [if_neg (fun hlegal => hpending (legal_submitted.mp hlegal))]
    simp only [Engine.commits_mapError, commits_insertExchangeCommand]
    exact ⟨by simp, trivial⟩

/-- Afterwards the order is not pending. -/
lemma sent_of_submitTx {orderId : Uuid} (horder : extractOrderId cmd = some orderId)
    (hids : (db.orders.map (·.id)).Nodup) {u : Unit}
    (h : postgres.Commits (submitTx cmd orderId) db u db') : db'.Sent cmd := by
  obtain ⟨o, db₁, ho, hmove, rfl⟩ := of_commits_submitTx h
  obtain ⟨hmem, rfl, haccount⟩ := Db.mem_of_order? ho
  have horders : (db₁.withCommand cmd.accountId .reconcileOrder cmd.exchangeMode
      (toString o.id ++ ":reconcile:initial") (orderPayload o.id)).orders = db₁.orders := by
    rcases db₁.withCommand_cases cmd.accountId .reconcileOrder cmd.exchangeMode
      (toString o.id ++ ":reconcile:initial") (orderPayload o.id) with ⟨-, hdb⟩ | ⟨-, hdb⟩
    · rw [hdb]
    · rw [hdb]
  intro o' ho' haccount' hid'
  have hid : o'.id = o.id := Option.some.inj (hid'.symm.trans horder)
  rw [horders] at ho'
  unfold Db.MovedIfLegal at hmove
  split_ifs at hmove with hlegal
  · obtain ⟨q, -, -, -, rfl⟩ := hmove
    obtain ⟨r, hr, rfl⟩ := mem_updateWhere.mp ho'
    split_ifs at haccount' hid ⊢ with hrow
    · simp
    · simp [hid, haccount', haccount] at hrow
  · rw [hmove] at ho'
    obtain rfl := List.inj_on_of_nodup_map hids ho' hmem hid
    exact fun hpending => hlegal (legal_submitted.mpr hpending)

/-- A step of a worker with a submission of the mode: it writes the outcome, or it comes closer to the
order's being sent, without being told to try again. -/
lemma sends_of_advance (hdb : db.Outgoing) (hcmd : ∃ r ∈ db.exchangeCommands, r.claimed = t.cmd)
    (hsubmits : t.cmd.Submits mode) (htakes : supervisor.Takes mode) (ht : t.Sends db)
    (h : advance supervisor t.cmd t.stage db = some (next, db')) :
    (next = none ∧ (t.stage = .dispatched (.error .retry) ∨ db.Sent t.cmd)) ∨
      ∃ stage, next = some stage ∧ Task.Sends { t with stage } db' ∧
        stage ≠ .dispatched (.error .retry) := by
  obtain ⟨cmd, lease, before⟩ := t
  obtain ⟨htype, rfl⟩ := hsubmits
  obtain ⟨adapter, hadapter, htakes⟩ := htakes
  obtain ⟨o, ho, horder⟩ := hdb.order hcmd htype
  simp only at htype hadapter h horder ho
  cases before with
  | claimed =>
    have hbegin : beginDispatch cmd db = (.hydrated o.id (db.reconcileSnapshot o), db) := by
      simp only [beginDispatch, htype, horder, atomically_hydrate, ho]
      rfl
    simp only [advance, hadapter, hbegin, Option.some.injEq, Prod.mk.injEq] at h
    obtain ⟨rfl, rfl⟩ := h
    exact .inr ⟨_, rfl, horder, by simp⟩
  | hydrated orderId snapshot =>
    obtain ⟨result, hresult⟩ := htakes snapshot.order
    have hcall : callAdapter cmd adapter orderId snapshot = .accepted orderId := by
      simp only [callAdapter, htype, hresult]
      rfl
    simp only [advance, hadapter, Option.map_some, hcall, Option.some.injEq, Prod.mk.injEq] at h
    obtain ⟨rfl, rfl⟩ := h
    exact .inr ⟨_, rfl, ht, by simp⟩
  | accepted orderId =>
    obtain rfl : orderId = o.id := Option.some.inj (ht.symm.trans horder)
    obtain ⟨db₁, hcommit⟩ := submitTx_commits hdb ho
    simp only [advance, acceptedTx, htype, Engine.atomically_of_commits hcommit, Option.some.injEq,
      Prod.mk.injEq] at h
    obtain ⟨rfl, rfl⟩ := h
    exact .inr ⟨_, rfl, sent_of_submitTx horder hdb.constrained.orderIds hcommit, by simp⟩
  | dispatched outcome =>
    cases outcome with
    | ok =>
      cases h
      exact .inl ⟨rfl, .inr ht⟩
    | error e =>
      cases e with
      | retry =>
        cases h
        exact .inl ⟨rfl, .inl rfl⟩
      | permanentlyRejected | reconciliationRequired => exact ht.elim
  | reconciled | rejecting | auditing => exact ht.elim

/-! ### Every step keeps submissions on their way -/

lemma CommandRecord.Waits.mono {r : CommandRecord} {now later : Timestamp} (h : r.Waits now)
    (hle : now ≤ later) : r.Waits later :=
  fun _ hlt => h _ ((Nat.add_le_add_right hle leaseSeconds).trans_lt hlt)

lemma CommandRecord.waits_of_pending {r : CommandRecord} {now : Timestamp}
    (h : r.status = .pending) : r.Waits now := by
  intro later _
  simp [CommandRecord.claimable, h]

lemma Db.Sent.step (h : s.db.Sent cmd) (hdb : s.db.Outgoing)
    (hcmd : ∃ r ∈ s.db.exchangeCommands, r.claimed = cmd) (htype : cmd.commandType = .submitOrder)
    (hstep : s.serviceStep a = some s') : s'.db.Sent cmd :=
  h.orderStep hdb hcmd htype (constrained_of_serviceStep hstep hdb.constrained).orderIds
    (orderStep_of_serviceStep hstep)

/-- A worker whom a step does not concern. -/
lemma Sending.kept (hs : Sending mode s) (h : s.serviceStep a = some s') (ht : t ∈ s.tasks)
    (hsubmits : t.cmd.Submits mode) : t.Sends s'.db := by
  have hknown := hs.known t ht
  have hsends := hs.tasks t ht hsubmits
  obtain ⟨cmd, lease, stage⟩ := t
  cases stage with
  | dispatched outcome =>
    cases outcome with
    | ok => exact Db.Sent.step hsends hs.db hknown hsubmits.type h
    | error e =>
      cases e with
      | retry => trivial
      | permanentlyRejected | reconciliationRequired => exact hsends.elim
  | claimed | hydrated | accepted | reconciled | rejecting | auditing => exact hsends

/-- A failed call sends the worker of a submission back, or ends its work. -/
lemma sends_of_fault {n : ℕ} (ht : t.Sends db) (htakes : supervisor.Takes t.cmd.exchangeMode)
    (hreview : (t.afterFault supervisor)[n]? ≠
      some (some (.dispatched (.error .reconciliationRequired)))) {stage : Stage}
    (hnext : (t.afterFault supervisor)[n]? = some (some stage)) :
    Task.Sends { t with stage } db := by
  obtain ⟨adapter, hadapter, -⟩ := htakes
  have hfault := faultStep_of_mem (List.mem_of_getElem? hnext)
  rw [hnext] at hreview
  obtain ⟨cmd, lease, before⟩ := t
  cases hfault with
  | noAdapter hnone =>
    rw [hadapter] at hnone
    cases hnone
  | @notHydrated e _ he =>
    cases e with
    | retry => trivial
    | permanentlyRejected => exact (he rfl).elim
    | reconciliationRequired => exact (hreview rfl).elim
  | notAccepted => trivial
  | notPersisted | rejecting | auditing => exact ht.elim

lemma Sending.tasks_fault {i n : ℕ} (hs : Sending mode s)
    (hok : TakesOrders mode s (.act (.fault i supervisor n)))
    (h : s.serviceStep (.act (.fault i supervisor n)) = some s') :
    ∀ t ∈ s'.tasks, t.cmd.Submits mode → t.Sends s'.db := by
  simp only [Server.serviceStep, Server.faultyStep, Option.bind_eq_bind,
    Option.bind_eq_some_iff] at h
  obtain ⟨task, htask, next, hnext, h⟩ := h
  cases h
  obtain ⟨htakes, hreview⟩ := hok
  intro t ht hsubmits
  rcases mem_updateTask htask ht with ht | ⟨stage, rfl, rfl⟩
  · exact hs.tasks t ht hsubmits
  · have hsends := hs.tasks task (List.mem_of_getElem? htask) hsubmits
    have hmode : task.cmd.exchangeMode = mode := hsubmits.mode
    exact sends_of_fault hsends (hmode ▸ htakes) (hreview task htask) hnext

lemma Sending.tasks_advance {i : ℕ} (hs : Sending mode s) (htakes : supervisor.Takes mode)
    (h : s.serviceStep (.act (.act (.advance i supervisor))) = some s') :
    ∀ t ∈ s'.tasks, t.cmd.Submits mode → t.Sends s'.db := by
  intro t ht hsubmits
  have hkept (ht : t ∈ s.tasks) : t.Sends s'.db := hs.kept h ht hsubmits
  simp only [Server.serviceStep, Server.faultyStep, Server.step, Option.bind_eq_bind,
    Option.bind_eq_some_iff] at h
  obtain ⟨task, htask, ⟨next, db'⟩, hadvance, h⟩ := h
  cases h
  rcases mem_updateTask htask ht with ht | ⟨stage, rfl, rfl⟩
  · exact hkept ht
  · have hmem := List.mem_of_getElem? htask
    rcases sends_of_advance hs.db (hs.known task hmem) hsubmits htakes
      (hs.tasks task hmem hsubmits) hadvance with ⟨hnone, -⟩ | ⟨_, hstage, hsends, -⟩
    · cases hnone
    · obtain rfl := Option.some.inj hstage
      exact hsends

/-- The workers after every step. -/
lemma Sending.tasks_step (hs : Sending mode s) (hok : TakesOrders mode s a)
    (h : s.serviceStep a = some s') : ∀ t ∈ s'.tasks, t.cmd.Submits mode → t.Sends s'.db := by
  intro t ht hsubmits
  have hkept (ht : t ∈ s.tasks) : t.Sends s'.db := hs.kept h ht hsubmits
  cases serviceStep_of_step h with
  | refused | created | regrouped => exact hkept ht
  | fault => exact hs.tasks_fault hok h t ht hsubmits
  | server hserver =>
    cases hserver with
    | tick | enqueueCancel | request => exact hkept ht
    | crash hi => exact hkept ((List.eraseIdx_sublist ..).subset ht)
    | claim limit locked =>
      rcases List.mem_append.mp ht with ht | ht
      · exact hkept ht
      · obtain ⟨cmd, -, rfl⟩ := List.mem_map.mp ht
        trivial
    | advance => exact hs.tasks_advance hok h t ht hsubmits

/-- A worker marks the command of a submission as delivered, or makes it pending again. -/
lemma WorkerStep.keepsSending (h : WorkerStep supervisor t.cmd db t.stage next db')
    (htakes : supervisor.Takes mode) (ht : t.cmd.Submits mode → t.Sends db)
    (hrow : ∀ r ∈ db.exchangeCommands, r.id = t.cmd.id → r.claimed = t.cmd)
    (hkept : ∀ r ∈ db.exchangeCommands, r.claimed.Submits mode →
      r.Waits db'.now ∨ db'.Sent r.claimed) :
    ∀ r ∈ db'.exchangeCommands, r.claimed.Submits mode → r.Waits db'.now ∨ db'.Sent r.claimed := by
  obtain ⟨cmd, lease, before⟩ := t
  by_cases hmarks : marks supervisor cmd before = true
  · -- the marked row is the one of the worker's command
    have hcmd {r : CommandRecord} (hr : r ∈ db.exchangeCommands)
        (hp : decide (r.id = cmd.id) = true) : r.claimed = cmd := hrow r hr (of_decide_eq_true hp)
    cases h with
    | noAdapter hnone =>
      refine forall_updateWhere hkept fun r hr hp hsubmits => ?_
      have hmode : r.claimed.exchangeMode = mode := hsubmits.mode
      obtain ⟨adapter, hadapter, -⟩ := htakes
      rw [hcmd hr hp] at hmode
      simp only at hnone
      rw [hmode, hadapter] at hnone
      cases hnone
    | delivered =>
      refine forall_updateWhere hkept fun r hr hp hsubmits => .inr ?_
      have hsent : db.Sent cmd := ht (hcmd hr hp ▸ hsubmits)
      rw [← hcmd hr hp] at hsent
      exact hsent
    | requeued => exact forall_updateWhere hkept fun _ _ _ _ => .inl (CommandRecord.waits_of_pending rfl)
    | permanentlyRejected | reconciliationRequired =>
      refine forall_updateWhere hkept fun r hr hp hsubmits => ?_
      exact (ht (hcmd hr hp ▸ hsubmits)).elim
    | notHydrated | hydrated => exact hkept
    | called | submitted | cancelled | notAccepted | persisted | notPersisted | rejected | audited =>
      cases hmarks
  · exact (h.enqueues (by simpa using hmarks)).rows hkept
      fun _ hpending _ => .inl (CommandRecord.waits_of_pending hpending)

/-- The commands after every step. -/
lemma Sending.commands_step (hs : Sending mode s) (hok : TakesOrders mode s a)
    (h : s.serviceStep a = some s') : ∀ r ∈ s'.db.exchangeCommands, r.claimed.Submits mode →
      r.Waits s'.db.now ∨ s'.db.Sent r.claimed := by
  have hkept : ∀ r ∈ s.db.exchangeCommands, r.claimed.Submits mode →
      r.Waits s'.db.now ∨ s'.db.Sent r.claimed := by
    intro r hr hsubmits
    rcases hs.commands r hr hsubmits with hwaits | hsent
    · exact .inl (hwaits.mono (growsTo_of_serviceStep h).now)
    · exact .inr (hsent.step hs.db ⟨r, hr, rfl⟩ hsubmits.type h)
  have hpending (r : CommandRecord) (hr : r.status = .pending) (_ : r.claimed.Submits mode) :
      r.Waits s'.db.now ∨ s'.db.Sent r.claimed := .inl (CommandRecord.waits_of_pending hr)
  cases serviceStep_of_step h with
  | refused | created | regrouped | fault => exact hkept
  | server hserver =>
    cases hserver with
    | tick | crash => exact hkept
    | enqueueCancel accountId orderId orderMode tag =>
      have henqueues := enqueues_withCommand s.db accountId (by simp : ∀ name, CommandType.cancelOrder ≠ .unknown name)
        orderMode (toString orderId ++ ":cancel:" ++ tag) (orderPayload orderId)
      exact henqueues.rows hkept hpending
    | request hrequest => exact hrequest.enqueues.rows hkept hpending
    | claim =>
      refine forall_updateWhere hkept fun r _ _ _ => .inl ?_
      intro later (hlt : s.db.now + leaseSeconds < later)
      simp [CommandRecord.claimable, hlt]
    | @advance i supervisor task next db' htask hworker =>
      have hmem := List.mem_of_getElem? htask
      refine hworker.keepsSending hok (hs.tasks task hmem) (fun r hr hid => ?_) hkept
      obtain ⟨r', hr', hcmd⟩ := hs.known task hmem
      have hid' : r.id = r'.id := hid.trans (congrArg ClaimedCommand.id hcmd).symm
      rw [List.inj_on_of_nodup_map hs.db.constrained.commandIds hr hr' hid']
      exact hcmd

lemma Sending.step (hs : Sending mode s) (hok : TakesOrders mode s a)
    (h : s.serviceStep a = some s') : Sending mode s' :=
  ⟨hs.db.step h, claimed_of_serviceStep hs.known h, hs.tasks_step hok h, hs.commands_step hok h⟩

lemma sending_of_reachable (h : (service (· = .fresh)).Reachable (TakesOrders mode) s) :
    Sending mode s := by
  refine h.invariant ?_ fun s a s' hs hok hstep => hs.step hok hstep
  rintro _ rfl
  refine ⟨⟨constrained_empty, ⟨by rintro _ ⟨⟩, rfl⟩, ?_⟩, ?_, ?_, ?_⟩ <;> rintro _ ⟨⟩

/-! ### A pass of a worker -/

/-- The order of the command has been sent, or a worker has the command and will not be told to try
again. -/
def Server.Handles (s : Server) (cmd : ClaimedCommand) : Prop :=
  s.db.Sent cmd ∨ ∃ t ∈ s.tasks, t.cmd = cmd ∧ t.stage ≠ .dispatched (.error .retry)

/-- A worker that takes one more step handles the command still. -/
lemma Server.Handles.advance {i : ℕ} (h : s.Handles cmd) (hs : Sending mode s)
    (hcmd : ∃ r ∈ s.db.exchangeCommands, r.claimed = cmd) (hsubmits : cmd.Submits mode)
    (htakes : supervisor.Takes mode) (hstep : s.step (.advance i supervisor) = some s') :
    s'.Handles cmd := by
  have hservice : s.serviceStep (.act (.act (.advance i supervisor))) = some s' := hstep
  have hsent (h : s.db.Sent cmd) : s'.Handles cmd :=
    .inl (h.step hs.db hcmd hsubmits.type hservice)
  rcases h with h | ⟨t, ht, rfl, hstage⟩
  · exact hsent h
  · simp only [Server.step, Option.bind_eq_bind, Option.bind_eq_some_iff] at hstep
    obtain ⟨task, htask, ⟨next, db'⟩, hadvance, hstep⟩ := hstep
    cases hstep
    obtain ⟨front, back, htasks, hupdate⟩ := updateTask_eq htask
    rw [htasks, List.mem_append, List.mem_cons] at ht
    rcases ht with ht | rfl | ht
    · exact .inr ⟨t, by simp [hupdate, ht], rfl, hstage⟩
    · have hmem := List.mem_of_getElem? htask
      rcases sends_of_advance hs.db hcmd hsubmits htakes (hs.tasks t hmem hsubmits) hadvance with
        ⟨-, hretry | h⟩ | ⟨stage, rfl, -, hstage'⟩
      · exact (hstage hretry).elim
      · exact hsent h
      · exact .inr ⟨{ t with stage }, by simp [hupdate], rfl, hstage'⟩
    · exact .inr ⟨t, by simp [hupdate, ht], rfl, hstage⟩

/-- A pass that claims a submission of the mode sends its order. -/
lemma sent_of_runOnce {limit : ℕ} {locked : List ℕ} {r : CommandRecord} (hs : Sending mode s)
    (htakes : supervisor.Takes mode) (hr : r ∈ s.db.exchangeCommands)
    (hsubmits : r.claimed.Submits mode) (hclaim : r.id ∈ s.db.claimCandidates limit locked) :
    s.db.GrowsTo (runOnce supervisor limit locked s.db).2 ∧
      (runOnce supervisor limit locked s.db).2.Sent r.claimed := by
  -- the pass of a worker that is on its own
  have halone : Sending mode ⟨s.db, []⟩ :=
    ⟨hs.db, by rintro _ ⟨⟩, by rintro _ ⟨⟩, hs.commands⟩
  have hstep : Server.serviceStep ⟨s.db, []⟩ (.act (.act (.claim limit locked))) =
      some ⟨s.db.leased (s.db.claimCandidates limit locked),
        newTasks s.db.now (s.db.claimedCommands limit locked)⟩ := by
    simp only [Server.serviceStep, Server.faultyStep, Server.step, atomically_claim,
      List.nil_append]
    rfl
  have hmem : r.claimed ∈ s.db.claimedCommands limit locked :=
    List.mem_map_of_mem (List.mem_filter.mpr ⟨hr, List.contains_iff_mem.mpr hclaim⟩)
  obtain ⟨as, hrun⟩ := @processCommands_run (fun _ => True) (fun _ a => ∃ i, a = .advance i supervisor)
    supervisor (fun _ i => ⟨i, rfl⟩) (s.db.claimedCommands limit locked) s.db.now
    (s.db.leased (s.db.claimCandidates limit locked))
  have hend := hrun.preserves
    (I := fun t => Sending mode t ∧ s.db.GrowsTo t.db ∧ t.Handles r.claimed) ?_ ?_
  · obtain ⟨-, hgrows, hsent | ⟨t, ht, -⟩⟩ := hend
    · exact ⟨hgrows, hsent⟩
    · cases ht
  · rintro t _ t' ⟨ht, hgrows, hhandles⟩ ⟨i, rfl⟩ hstep
    obtain ⟨r', hr', hlater⟩ := hgrows.exchangeCommands.exists_mem hr
    have hservice : t.serviceStep (.act (.act (.advance i supervisor))) = some t' := hstep
    exact ⟨ht.step (a := .act (.act (.advance i supervisor))) htakes hservice, hgrows.trans (growsTo_of_serviceStep hservice),
      hhandles.advance ht ⟨r', hr', hlater.claimed⟩ hsubmits htakes hstep⟩
  · have hgrows := growsTo_of_serviceStep hstep
    refine ⟨halone.step (a := .act (.act (.claim limit locked))) trivial hstep, hgrows, .inr ?_⟩
    exact ⟨_, List.mem_map_of_mem hmem, rfl, by simp⟩

/-- As long as workers take the orders of a mode, the submission of each of its pending orders can be
claimed, at the latest when a lease written now has expired, and a pass that claims it leaves the
order in another status. -/
theorem pending_orders_sent (h : (service (· = .fresh)).Reachable (TakesOrders mode) s) :
    ∀ o ∈ s.db.orders, o.exchangeMode = mode → o.status = .pending →
      ∃ r ∈ s.db.exchangeCommands, r.commandType = .submitOrder ∧ r.submission = o.submission ∧
        (∀ later, s.db.now + leaseSeconds < later → r.claimable later = true) ∧
        ∀ supervisor limit locked, supervisor.Takes mode →
          r.id ∈ s.db.claimCandidates limit locked →
            ∃ o' ∈ (runOnce supervisor limit locked s.db).2.orders,
              o'.terms = o.terms ∧ o'.status ≠ .pending := by
  intro o ho hmode hpending
  have hs := sending_of_reachable h
  have hsubmission : o.submission ∈ s.db.submissions := by
    rw [hs.db.outbox.submissions]
    exact List.mem_map_of_mem ho
  obtain ⟨r, hr, hsame⟩ := List.mem_map.mp hsubmission
  obtain ⟨hr, htype⟩ := List.mem_filter.mp hr
  have haccount : o.accountId = r.claimed.accountId := (congrArg (·.1) hsame).symm
  have hid : extractOrderId r.claimed = some o.id := congrArg (·.2.1) hsame
  have hsubmits : r.claimed.Submits mode :=
    ⟨of_decide_eq_true htype, (congrArg (·.2.2) hsame).trans hmode⟩
  refine ⟨r, hr, hsubmits.type, hsame, ?_, fun supervisor limit locked htakes hclaim => ?_⟩
  · rcases hs.commands r hr hsubmits with hwaits | hsent
    · exact hwaits
    · exact (hsent o ho haccount hid hpending).elim
  · obtain ⟨hgrows, hsent⟩ := sent_of_runOnce hs htakes hr hsubmits hclaim
    obtain ⟨o', ho', hterms⟩ := List.mem_map.mp (hgrows.orders.subset (List.mem_map_of_mem ho))
    have haccount' : o'.terms.accountId = o.terms.accountId := congrArg OrderRecord.accountId hterms
    have hid' : o.terms.id = o'.terms.id := congrArg OrderRecord.id hterms.symm
    exact ⟨o', ho', hterms, hsent o' ho' (haccount'.trans haccount) (hid.trans (congrArg some hid'))⟩

end

/-- The adapter for paper trading takes every order. -/
lemma takes_paper (md : MarketDataProvider) (now : Instant) (live : Option ExchangeAdapter) :
    Supervisor.Takes ⟨some (paperAdapter md now), live⟩ .paper :=
  ⟨_, rfl, fun _ => ⟨_, rfl⟩⟩

/-- A new account's paper order, which a pass of one worker sends. -/
theorem pending_orders_sent_openAndTrade :
    ∃ s : Server, (service (· = .fresh)).Reachable (TakesOrders .paper) s ∧
      ∃ o ∈ s.db.orders, o.status = .pending ∧
        ∃ o' ∈ (runOnce paperAt100 1 [] s.db).2.orders, o'.terms = o.terms ∧ o'.status ≠ .pending := by
  have htest : ((service (· = .fresh)).exec (fun _ _ => True) .fresh (openAndTrade.take 2)).any
      (fun s => decide (s.db.orders.map (fun o => (o.status, o.exchangeMode)) = [(.pending, .paper)]) &&
        decide (s.db.exchangeCommands.map (·.id) = s.db.claimCandidates 1 [])) = true := by
    decide +kernel
  obtain ⟨s, hrun, hs⟩ := Machine.exists_run_of_exec htest
  rw [Bool.and_eq_true, decide_eq_true_eq, decide_eq_true_eq] at hs
  obtain ⟨horders, hcommands⟩ := hs
  -- no worker has moved so far
  have hidle : ∀ a ∈ openAndTrade.take 2, ∀ s, TakesOrders .paper s a := by
    intro a ha s
    rcases List.mem_pair.mp ha with rfl | rfl
    · trivial
    · trivial
  have hreach : (service (· = .fresh)).Reachable (TakesOrders .paper) s :=
    ⟨_, _, rfl, (hrun.of_actions hidle).mono fun s _ h => h.1 s⟩
  obtain ⟨o, ho, hplaced⟩ := List.map_eq_singleton_iff.mp horders
  obtain ⟨hpending, hmode⟩ := Prod.mk.inj hplaced
  have hmem : o ∈ s.db.orders := by simp [ho]
  obtain ⟨r, hr, -, -, -, hsent⟩ := pending_orders_sent hreach o hmem hmode hpending
  refine ⟨s, hreach, o, hmem, hpending, hsent paperAt100 1 [] (takes_paper _ _ _) ?_⟩
  rw [← hcommands]
  exact List.mem_map_of_mem hr

end Confluence
