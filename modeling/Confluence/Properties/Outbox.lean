import Confluence.Properties.History
import Confluence.Server.Attendance
import Confluence.Server.Constraints

/-!
# The outbox

The order and the command that submits it are written by one transaction, and commands are neither
lost nor doubled: the submissions are, one by one and in their order, those of the orders. Every key
names the order of its command and what the command does to it.
-/

namespace Confluence

/-- The command does to the order of its payload what its key says. -/
def CommandRecord.NamesItsOrder (r : CommandRecord) : Prop :=
  ∃ orderId, r.payload = orderPayload orderId ∧
    ((r.commandType = .submitOrder ∧ r.idempotencyKey = toString orderId ++ ":submit") ∨
      (r.commandType = .reconcileOrder ∧
        (r.idempotencyKey = toString orderId ++ ":reconcile:initial" ∨
          r.idempotencyKey = toString orderId ++ ":reconcile:post-cancel")) ∨
      (r.commandType = .cancelOrder ∧
        ∃ tag, r.idempotencyKey = toString orderId ++ ":cancel:" ++ tag))

/-- What a submission carries to the venue's adapter: the account, the order and the mode. -/
def CommandRecord.submission (r : CommandRecord) : Uuid × Option Uuid × ExchangeMode :=
  (r.accountId, extractOrderId r.claimed, r.exchangeMode)

def OrderRecord.submission (o : OrderRecord) : Uuid × Option Uuid × ExchangeMode :=
  (o.accountId, some o.id, o.exchangeMode)

def Db.submissions (db : Db) : List (Uuid × Option Uuid × ExchangeMode) :=
  (db.exchangeCommands.filter fun r => decide (r.commandType = .submitOrder)).map (·.submission)

/-- Commands and orders correspond. -/
structure Db.OutboxComplete (db : Db) : Prop where
  named : ∀ r ∈ db.exchangeCommands, r.NamesItsOrder
  submissions : db.submissions = db.orders.map (·.submission)

section

variable {db db' : Db} {accountId orderId : Uuid}

lemma extractOrderId_of_payload {r : CommandRecord} (h : r.payload = orderPayload orderId) :
    extractOrderId r.claimed = some orderId := by
  rw [CommandRecord.claimed, h]
  exact extractOrderId_orderPayload ..

/-- A key with the suffix of submissions belongs to the submission of an order. -/
lemma Db.OutboxComplete.order_of_key (h : db.OutboxComplete) {r : CommandRecord}
    (hr : r ∈ db.exchangeCommands) (hkey : r.idempotencyKey = toString orderId ++ ":submit") :
    ∃ o ∈ db.orders, o.id = orderId := by
  obtain ⟨i, hpayload, ⟨htype, hkey'⟩ | ⟨-, hkey' | hkey'⟩ | ⟨-, tag, hkey'⟩⟩ := h.named r hr
  · obtain ⟨rfl, -⟩ := toString_append_inj (hkey'.symm.trans hkey)
    have hmem : r.submission ∈ db.submissions :=
      List.mem_map_of_mem (List.mem_filter.mpr ⟨hr, decide_eq_true htype⟩)
    rw [h.submissions] at hmem
    obtain ⟨o, ho, heq⟩ := List.mem_map.mp hmem
    refine ⟨o, ho, ?_⟩
    have hid : some o.id = extractOrderId r.claimed := congrArg (·.2.1) heq
    rw [extractOrderId_of_payload hpayload] at hid
    exact Option.some.inj hid
  · obtain ⟨-, hsuffix⟩ := toString_append_inj (hkey'.symm.trans hkey)
    exact absurd hsuffix (by decide)
  · obtain ⟨-, hsuffix⟩ := toString_append_inj (hkey'.symm.trans hkey)
    exact absurd hsuffix (by decide)
  · rw [String.append_assoc] at hkey'
    obtain ⟨-, hsuffix⟩ := toString_append_inj (hkey'.symm.trans hkey)
    have hhead := congrArg (fun t => t.toList[1]?) hsuffix
    simp at hhead

/-! ### Changes -/

/-- An update of commands that leaves alone what they say. -/
lemma Db.OutboxComplete.updateWhere (h : db.OutboxComplete) {p : CommandRecord → Bool}
    {f : CommandRecord → CommandRecord}
    (hf : ∀ r, (f r).claimed = r.claimed ∧ (f r).idempotencyKey = r.idempotencyKey) :
    Db.OutboxComplete
      { db with exchangeCommands := Confluence.updateWhere p f db.exchangeCommands } := by
  have htype (r : CommandRecord) : (f r).commandType = r.commandType :=
    congrArg ClaimedCommand.commandType (hf r).1
  have hsubmission (r : CommandRecord) : (f r).submission = r.submission := by
    have hacc : (f r).accountId = r.accountId := congrArg ClaimedCommand.accountId (hf r).1
    have hmode : (f r).exchangeMode = r.exchangeMode :=
      congrArg ClaimedCommand.exchangeMode (hf r).1
    rw [CommandRecord.submission, (hf r).1, hacc, hmode]
    rfl
  constructor
  · refine forall_updateWhere h.named fun r hr _ => ?_
    obtain ⟨i, hpayload, hkey⟩ := h.named r hr
    have hpayload' : (f r).payload = r.payload := congrArg ClaimedCommand.payload (hf r).1
    refine ⟨i, hpayload'.trans hpayload, ?_⟩
    rw [htype, (hf r).2]
    exact hkey
  · rw [← h.submissions]
    simp only [Db.submissions]
    rw [filter_updateWhere fun r => by rw [htype], map_updateWhere hsubmission]

/-- Orders that change their progress only. -/
lemma Db.OutboxComplete.ordersMoved (h : db.OutboxComplete) {orders : List OrderRecord}
    (horders : orders.map (·.submission) = db.orders.map (·.submission)) :
    Db.OutboxComplete { db with orders } :=
  ⟨h.named, h.submissions.trans horders.symm⟩

/-- A new command that submits nothing. -/
lemma Db.OutboxComplete.withCommand (h : db.OutboxComplete) {commandType : CommandType}
    (mode : ExchangeMode) {key : String}
    (hnamed : (db.newCommand accountId commandType mode key (orderPayload orderId)).NamesItsOrder)
    (htype : commandType ≠ .submitOrder) :
    (db.withCommand accountId commandType mode key (orderPayload orderId)).OutboxComplete := by
  rcases db.withCommand_cases accountId commandType mode key (orderPayload orderId)
    with ⟨-, hdb⟩ | ⟨-, hdb⟩
  · rw [hdb]
    exact h
  · rw [hdb]
    refine ⟨forall_append h.named hnamed, ?_⟩
    simp only [Db.submissions, List.filter_append, Db.newCommand, htype, List.filter_cons,
      decide_false, Bool.false_eq_true, if_false, List.filter_nil, List.append_nil]
    exact h.submissions

/-- A new order with its submission. -/
lemma Db.OutboxComplete.placed (h : db.OutboxComplete) {o : OrderRecord}
    (hid : ∀ r ∈ db.orders, r.id ≠ o.id) :
    (Db.withCommand { db with orders := db.orders ++ [o] } o.accountId .submitOrder o.exchangeMode
      (toString o.id ++ ":submit") (orderPayload o.id)).OutboxComplete := by
  rcases Db.withCommand_cases { db with orders := db.orders ++ [o] } o.accountId .submitOrder
    o.exchangeMode (toString o.id ++ ":submit") (orderPayload o.id) with ⟨⟨r, hr, -, hkey⟩, -⟩ | ⟨-, hdb⟩
  · obtain ⟨o', ho', hid'⟩ := h.order_of_key hr hkey
    exact (hid o' ho' hid').elim
  · rw [hdb]
    refine ⟨forall_append h.named ⟨o.id, rfl, .inl ⟨rfl, rfl⟩⟩, ?_⟩
    simp only [Db.submissions, List.filter_append, List.map_append]
    have hnew : ([Db.newCommand { db with orders := db.orders ++ [o] } o.accountId .submitOrder
        o.exchangeMode (toString o.id ++ ":submit") (orderPayload o.id)].filter fun r =>
          decide (r.commandType = .submitOrder)).map (·.submission) = [o.submission] := by
      simp only [Db.newCommand, List.filter_cons, decide_true, if_true, List.filter_nil, List.map_cons,
        List.map_nil, CommandRecord.submission, CommandRecord.claimed, extractOrderId_orderPayload,
        OrderRecord.submission]
    rw [hnew]
    exact congrArg (· ++ [o.submission]) h.submissions

lemma map_submission_withStatus (status : OrderStatus) (q : Decimal) :
    (db.withStatus accountId orderId status q).orders.map (·.submission) =
      db.orders.map (·.submission) := by
  rw [Db.withStatus, map_updateWhere]
  intro r
  rfl

lemma MovesOrder.submissions (h : MovesOrder accountId db db') :
    db'.orders.map (·.submission) = db.orders.map (·.submission) := by
  rcases h with hsame | ⟨orderId, o, status, q, -, -, -, -, hmoved⟩
  · rw [hsame]
  · rw [hmoved, map_submission_withStatus]

/-- Only the orders and the commands matter. -/
lemma Db.OutboxComplete.congr (h : db.OutboxComplete) (horders : db'.orders = db.orders)
    (hcommands : db'.exchangeCommands = db.exchangeCommands) : db'.OutboxComplete := by
  constructor
  · rw [hcommands]
    exact h.named
  · simp only [Db.submissions, hcommands, horders]
    exact h.submissions

/-! ### Steps -/

/-- A transition of an order, and a command to reconcile it. -/
lemma Db.OutboxComplete.enqueueReconcile (h : db.OutboxComplete) {o : OrderRecord}
    {status : OrderStatus} {db₁ : Db} (hmove : db.MovedIfLegal o status db₁) (mode : ExchangeMode)
    {suffix : String} (hsuffix : suffix = ":reconcile:initial" ∨ suffix = ":reconcile:post-cancel") :
    (db₁.withCommand accountId .reconcileOrder mode (toString orderId ++ suffix)
      (orderPayload orderId)).OutboxComplete := by
  have hmoved : db₁.OutboxComplete := by
    unfold Db.MovedIfLegal at hmove
    split_ifs at hmove
    · obtain ⟨q, -, -, -, rfl⟩ := hmove
      exact h.ordersMoved (map_submission_withStatus ..)
    · rw [hmove]
      exact h
  refine hmoved.withCommand mode ⟨orderId, rfl, .inr (.inl ⟨rfl, ?_⟩)⟩ (by simp)
  rcases hsuffix with rfl | rfl
  · exact .inl rfl
  · exact .inr rfl

lemma WorkerStep.outboxComplete {supervisor : Supervisor} {cmd : ClaimedCommand} {stage : Stage}
    {next : Option Stage} (h : WorkerStep supervisor cmd db stage next db')
    (hdb : db.OutboxComplete) : db'.OutboxComplete := by
  have hmoves := h.movesOrder.submissions
  cases h with
  | noAdapter | delivered | permanentlyRejected | reconciliationRequired =>
    exact hdb.updateWhere fun _ => ⟨rfl, rfl⟩
  | requeued => exact hdb.updateWhere fun _ => ⟨rfl, rfl⟩
  | notHydrated | hydrated | called | notAccepted | notPersisted | audited => exact hdb.congr rfl rfl
  | submitted htype ho hmove => exact hdb.enqueueReconcile hmove _ (.inl rfl)
  | cancelled htype ho hmove =>
    exact (hdb.enqueueReconcile hmove _ (.inr rfl)).congr rfl rfl
  | persisted h =>
    obtain ⟨o, _, _, _, db₁, _, -, -, -, -, -, -, hstatus, rfl⟩ :=
      of_commits_persistReconcileResultTx h
    obtain ⟨orders, rfl⟩ := hstatus.frame
    exact (hdb.ordersMoved hmoves).congr rfl rfl
  | rejected h =>
    rcases h with rfl | ⟨o, -, hmove⟩
    · exact hdb.congr rfl rfl
    · obtain ⟨orders, rfl⟩ := hmove.frame
      exact (hdb.ordersMoved hmoves).congr rfl rfl

lemma RequestStep.outboxComplete {env : Surroundings} {r : Request}
    (h : RequestStep env accountId db r db') (hdb : db.OutboxComplete) : db'.OutboxComplete := by
  cases h with
  | audited | riskState | configured => exact hdb.congr rfl rfl
  | @placed orderId body q p _ _ _ _ hid _ =>
    have hplaced := hdb.placed (o := newOrder orderId accountId orderId.simple body.symbol body.side
      body.orderType q p (db.exchangeMode accountId)) hid
    exact hplaced.congr rfl rfl

variable {s s' : Server}

lemma outboxComplete_of_serviceStep {a : ServiceAction} (h : s.serviceStep a = some s')
    (hdb : s.db.OutboxComplete) : s'.db.OutboxComplete := by
  cases serviceStep_of_step h with
  | fault | refused | created | regrouped => exact hdb.congr rfl rfl
  | server h =>
    cases h with
    | tick | crash => exact hdb.congr rfl rfl
    | claim => exact hdb.updateWhere fun _ => ⟨rfl, rfl⟩
    | enqueueCancel accountId orderId mode tag =>
      exact hdb.withCommand mode ⟨orderId, rfl, .inr (.inr ⟨rfl, tag, rfl⟩)⟩ (by simp)
    | request hreq => exact hreq.outboxComplete hdb
    | advance htask hworker => exact hworker.outboxComplete hdb

/-- In every database that the service reaches, the submissions are those of the orders, and the key
of every command names its order. -/
theorem outbox_complete (h : (service (· = .fresh)).Reachable (fun _ _ => True) s) :
    s.db.OutboxComplete := by
  refine h.invariant (I := fun s => s.db.OutboxComplete) ?_ ?_
  · rintro _ rfl
    exact ⟨by rintro _ ⟨⟩, rfl⟩
  · intro t a t' ht _ hstep
    exact outboxComplete_of_serviceStep hstep ht

end

/-- The order that has been filled, with its submission and its reconciliation. -/
theorem outbox_complete_openAndTrade :
    ∃ s : Server, (service (· = .fresh)).Reachable (fun _ _ => True) s ∧
      s.db.exchangeCommands.map (·.commandType) = [.submitOrder, .reconcileOrder] ∧
      s.db.OutboxComplete := by
  have hexec : ((service (· = .fresh)).exec (fun _ _ => True) .fresh openAndTrade).any
      (fun s => decide (s.db.exchangeCommands.map (·.commandType) = [.submitOrder, .reconcileOrder])) =
        true := by
    decide +kernel
  obtain ⟨s, hrun, hs⟩ := Machine.exists_run_of_exec hexec
  have hreach : (service (· = .fresh)).Reachable (fun _ _ => True) s := ⟨_, _, rfl, hrun⟩
  exact ⟨s, hreach, of_decide_eq_true hs, outbox_complete hreach⟩

end Confluence
