import Confluence.Properties.SentOrders
import Confluence.Server.Faults

/-!
# Marked commands

`run_once` writes the status of a command before what should come with it, in a statement of its
own. So a command is accounted for in every reachable state only if that is so whenever it is
marked.
-/

namespace Confluence

/-- The order that the command names, if there is one, is closed. -/
def CommandRecord.OrderClosed (db : Db) (r : CommandRecord) : Prop :=
  ∀ o ∈ db.orders, extractOrderId r.claimed = some o.id → o.status.isTerminal = true

def Datum.isCommandId (id : ℕ) : Datum → Bool
  | .commandId i => i == id
  | _ => false

/-- An event for manual review names the command. -/
def Db.Audited (db : Db) (id : ℕ) : Prop :=
  ∃ e ∈ db.riskEvents, e.eventType = "exchange_reconciliation_required" ∧
    ∃ field ∈ e.payload, field.1 = "command_id" ∧ field.2.isCommandId id = true

instance (db : Db) (r : CommandRecord) : Decidable (r.OrderClosed db) :=
  inferInstanceAs (Decidable (∀ o ∈ db.orders, _))

instance (db : Db) (id : ℕ) : Decidable (db.Audited id) :=
  inferInstanceAs (Decidable (∃ e ∈ db.riskEvents, _))

/-- Rejected commands have closed orders, and commands for manual review have their events. -/
structure Db.Accounted (db : Db) : Prop where
  rejected : ∀ r ∈ db.exchangeCommands, r.status = .permanentlyRejected → r.OrderClosed db
  review : ∀ r ∈ db.exchangeCommands, r.status = .reconciliationRequired → db.Audited r.id

/-- If the next step of the worker marks its command, the command is accounted for. -/
def Task.MarksAccounted (supervisor : Supervisor) (db : Db) (t : Task) : Prop :=
  match t.stage with
  | .claimed => (supervisor.resolve t.cmd.exchangeMode).isNone → db.Audited t.cmd.id
  | .dispatched (.error .reconciliationRequired) => db.Audited t.cmd.id
  | .dispatched (.error .permanentlyRejected) =>
    ∀ r ∈ db.exchangeCommands, r.id = t.cmd.id → r.OrderClosed db
  | _ => True

/-- Commands are marked only once they are accounted for, and a new order is not the one that a
rejected command names. -/
def MarksAccounted (s : Server) : FaultyAction → Prop
  | .act (.advance i supervisor) => ∀ t ∈ s.tasks[i]?, t.MarksAccounted supervisor s.db
  | .act (.request _ _ (.placeOrder orderId _)) =>
    ∀ r ∈ s.db.exchangeCommands, r.status = .permanentlyRejected →
      extractOrderId r.claimed ≠ some orderId
  | _ => True

instance (supervisor : Supervisor) (db : Db) (t : Task) :
    Decidable (t.MarksAccounted supervisor db) :=
  match t with
  | ⟨cmd, _, .claimed⟩ =>
    inferInstanceAs (Decidable ((supervisor.resolve cmd.exchangeMode).isNone → db.Audited cmd.id))
  | ⟨cmd, _, .dispatched (.error .reconciliationRequired)⟩ =>
    inferInstanceAs (Decidable (db.Audited cmd.id))
  | ⟨cmd, _, .dispatched (.error .permanentlyRejected)⟩ =>
    inferInstanceAs (Decidable (∀ r ∈ db.exchangeCommands, r.id = cmd.id → r.OrderClosed db))
  | ⟨_, _, .dispatched (.ok ())⟩ | ⟨_, _, .dispatched (.error .retry)⟩ | ⟨_, _, .hydrated ..⟩
  | ⟨_, _, .accepted _⟩ | ⟨_, _, .reconciled ..⟩ | ⟨_, _, .rejecting _⟩ | ⟨_, _, .auditing _⟩ =>
    isTrue trivial

instance (s : Server) (a : FaultyAction) : Decidable (MarksAccounted s a) :=
  match a with
  | .act (.advance i supervisor) =>
    inferInstanceAs (Decidable (∀ t ∈ s.tasks[i]?, t.MarksAccounted supervisor s.db))
  | .act (.request _ _ (.placeOrder orderId _)) =>
    inferInstanceAs (Decidable (∀ r ∈ s.db.exchangeCommands, r.status = .permanentlyRejected →
      extractOrderId r.claimed ≠ some orderId))
  | .act (.tick _) | .act (.enqueueCancel _ _ _ _) | .act (.claim _ _) | .act (.crash _)
  | .fault _ _ _ | .act (.request _ _ (.evaluateTrade _)) | .act (.request _ _ (.putEquity _))
  | .act (.request _ _ (.putRiskConfig _)) | .act (.request _ _ .engageKillSwitch)
  | .act (.request _ _ .releaseKillSwitch) | .act (.request _ _ (.putExchangeConfig _ _)) =>
    isTrue trivial

/-- Orders have identifiers of their own, and commands are accounted for. -/
structure Accounting (s : Server) : Prop where
  ids : (s.db.orders.map (·.id)).Nodup
  accounted : s.db.Accounted

section

variable {db db' : Db} {supervisor : Supervisor} {cmd : ClaimedCommand} {stage : Stage}
  {next : Option Stage} {r r' : CommandRecord}

/-! ### What marks a command -/

/-- The step writes this status of the command. -/
inductive Marks (supervisor : Supervisor) (cmd : ClaimedCommand) : Stage → CommandStatus → Prop
  | rejected :
    Marks supervisor cmd (.dispatched (.error .permanentlyRejected)) .permanentlyRejected
  | review : Marks supervisor cmd (.dispatched (.error .reconciliationRequired)) .reconciliationRequired
  | noAdapter (h : supervisor.resolve cmd.exchangeMode = none) :
    Marks supervisor cmd .claimed .reconciliationRequired

/-- A rejected command, or one for manual review, was so before, or is marked. -/
def Db.MarkedBy (db : Db) (r' : CommandRecord) (marks : ℕ → CommandStatus → Prop) : Prop :=
  r'.status = .permanentlyRejected ∨ r'.status = .reconciliationRequired →
    ∃ r ∈ db.exchangeCommands, r'.claimed = r.claimed ∧
      (r'.status = r.status ∨ marks r.id r'.status)

variable {marks : ℕ → CommandStatus → Prop}

lemma Enqueues.markedBy (h : Enqueues db db') (hr' : r' ∈ db'.exchangeCommands) :
    db.MarkedBy r' marks := by
  intro hstatus
  rcases h.commands with hsame | ⟨a, c, m, k, p, -, -, hnew⟩
  · exact ⟨r', hsame ▸ hr', rfl, .inl rfl⟩
  · rw [hnew] at hr'
    rcases List.mem_append.mp hr' with hr' | hr'
    · exact ⟨r', hr', rfl, .inl rfl⟩
    · rw [List.mem_singleton.mp hr'] at hstatus
      rcases hstatus with hstatus | hstatus
      · cases hstatus
      · cases hstatus

lemma markedBy_updateWhere {p : CommandRecord → Bool} {f : CommandRecord → CommandRecord}
    (hr' : r' ∈ updateWhere p f db.exchangeCommands) (hclaimed : ∀ r, (f r).claimed = r.claimed)
    (hmarks : ∀ r, p r = true →
      (f r).status = .permanentlyRejected ∨ (f r).status = .reconciliationRequired →
        marks r.id (f r).status) : db.MarkedBy r' marks := by
  intro hstatus
  obtain ⟨r, hr, rfl⟩ := mem_updateWhere.mp hr'
  refine ⟨r, hr, ?_⟩
  by_cases hp : p r = true
  · rw [if_pos hp] at hstatus ⊢
    exact ⟨hclaimed r, .inr (hmarks r hp hstatus)⟩
  · rw [if_neg hp]
    exact ⟨rfl, .inl rfl⟩

lemma WorkerStep.markedBy (h : WorkerStep supervisor cmd db stage next db')
    (hr' : r' ∈ db'.exchangeCommands) :
    db.MarkedBy r' fun i status => i = cmd.id ∧ Marks supervisor cmd stage status := by
  by_cases hmarks : marks supervisor cmd stage = true
  · cases h with
    | noAdapter hadapter =>
      refine markedBy_updateWhere hr' (fun _ => rfl) fun r hp _ => ?_
      exact ⟨of_decide_eq_true hp, .noAdapter hadapter⟩
    | permanentlyRejected =>
      refine markedBy_updateWhere hr' (fun _ => rfl) fun r hp _ => ?_
      exact ⟨of_decide_eq_true hp, .rejected⟩
    | reconciliationRequired =>
      refine markedBy_updateWhere hr' (fun _ => rfl) fun r hp _ => ?_
      exact ⟨of_decide_eq_true hp, .review⟩
    | delivered =>
      refine markedBy_updateWhere hr' (fun _ => rfl) fun r _ hstatus => ?_
      rcases hstatus with hstatus | hstatus
      · cases hstatus
      · cases hstatus
    | requeued =>
      refine markedBy_updateWhere hr' (fun _ => rfl) fun r _ hstatus => ?_
      rcases hstatus with hstatus | hstatus
      · cases hstatus
      · cases hstatus
    | notHydrated | hydrated => exact fun _ => ⟨r', hr', rfl, .inl rfl⟩
    | called | submitted | cancelled | notAccepted | persisted | notPersisted | rejected
    | audited => cases hmarks
  · exact (h.enqueues (by simpa using hmarks)).markedBy hr'

lemma Task.MarksAccounted.of_marks {t : Task} {status : CommandStatus}
    (h : t.MarksAccounted supervisor db) (hmark : Marks supervisor t.cmd t.stage status) :
    (status = .permanentlyRejected →
      ∀ r ∈ db.exchangeCommands, r.id = t.cmd.id → r.OrderClosed db) ∧
    (status = .reconciliationRequired → db.Audited t.cmd.id) := by
  obtain ⟨cmd, lease, stage⟩ := t
  cases hmark with
  | rejected => exact ⟨fun _ => h, by simp⟩
  | review => exact ⟨by simp, fun _ => h⟩
  | noAdapter hadapter => exact ⟨by simp, fun _ => h (by simp [hadapter])⟩

/-! ### What stays accounted for -/

/-- A closed order does not move. -/
lemma CommandRecord.OrderClosed.step {accountId : Uuid} (h : r.OrderClosed db)
    (hids : (db.orders.map (·.id)).Nodup) (hmoves : MovesOrder accountId db db')
    (hclaimed : r'.claimed = r.claimed) : r'.OrderClosed db' := by
  intro o' ho' hnames
  rw [hclaimed] at hnames
  obtain ⟨o, ho, rfl | ⟨status, q, hlegal, -, -, -, rfl⟩⟩ := hmoves.of_mem hids ho'
  · exact h o' ho hnames
  · rw [OrderStateMachine.not_legal_of_isTerminal (h o ho hnames)] at hlegal
    cases hlegal

lemma CommandRecord.OrderClosed.congr (h : r.OrderClosed db) (horders : db'.orders = db.orders)
    (hclaimed : r'.claimed = r.claimed) : r'.OrderClosed db' := by
  intro o ho hnames
  rw [hclaimed] at hnames
  exact h o (horders ▸ ho) hnames

lemma Db.Audited.mono {id : ℕ} (h : db.Audited id) (hevents : db.riskEvents ⊆ db'.riskEvents) :
    db'.Audited id := by
  obtain ⟨e, he, hnames⟩ := h
  exact ⟨e, hevents he, hnames⟩

/-- Every command stays accounted for when orders stay closed, events stay, and what is marked is
accounted for. -/
lemma Db.Accounted.step (h : db.Accounted) (marks : ℕ → CommandStatus → Prop)
    (hmarked : ∀ r' ∈ db'.exchangeCommands, db.MarkedBy r' marks)
    (hclosed : ∀ r ∈ db.exchangeCommands, r.status = .permanentlyRejected ∨
      marks r.id .permanentlyRejected → ∀ r' : CommandRecord, r'.claimed = r.claimed → r'.OrderClosed db')
    (hevents : db.riskEvents ⊆ db'.riskEvents)
    (haudited : ∀ i, marks i .reconciliationRequired → db.Audited i) : db'.Accounted := by
  constructor
  · intro r' hr' hstatus
    obtain ⟨r, hr, hclaimed, hbefore⟩ := hmarked r' hr' (.inl hstatus)
    rw [hstatus] at hbefore
    exact hclosed r hr (hbefore.imp_left Eq.symm) r' hclaimed
  · intro r' hr' hstatus
    obtain ⟨r, hr, hclaimed, hbefore⟩ := hmarked r' hr' (.inr hstatus)
    have hid : r'.id = r.id := congrArg ClaimedCommand.id hclaimed
    rw [hstatus] at hbefore
    rw [hid]
    rcases hbefore with hsame | hmark
    · exact (h.review r hr hsame.symm).mono hevents
    · exact (haudited r.id hmark).mono hevents

lemma Accounting.step {s s' : Server} {a : Action} (h : Accounting s)
    (hok : MarksAccounted s (.act a)) (hstep : s.step a = some s') : Accounting s' := by
  have hevents := subset_riskEvents_of_step hstep
  have hstep := serverStep_of_step hstep
  refine ⟨hstep.nodup_ids h.ids, ?_⟩
  cases hstep with
  | tick seconds =>
    exact ⟨fun r hr hstatus => (h.accounted.rejected r hr hstatus).congr rfl rfl,
      fun r hr hstatus => (h.accounted.review r hr hstatus).mono hevents⟩
  | crash hi => exact h.accounted
  | enqueueCancel accountId orderId mode tag =>
    have hknown : ∀ name, CommandType.cancelOrder ≠ .unknown name := by simp
    have henqueues := enqueues_withCommand s.db accountId hknown mode
      (toString orderId ++ ":cancel:" ++ tag) (orderPayload orderId)
    refine h.accounted.step (fun _ _ => False) (fun r' hr' => henqueues.markedBy hr')
      (fun r hr hstatus r' hclaimed => ?_) hevents (fun _ hmark => hmark.elim)
    exact (h.accounted.rejected r hr (by simpa using hstatus)).congr rfl hclaimed
  | claim limit locked =>
    refine h.accounted.step (fun _ _ => False) (fun r' hr' => ?_)
      (fun r hr hstatus r' hclaimed => ?_) hevents (fun _ hmark => hmark.elim)
    · refine markedBy_updateWhere hr' (fun _ => rfl) fun r _ hstatus => ?_
      rcases hstatus with hstatus | hstatus
      · cases hstatus
      · cases hstatus
    · exact (h.accounted.rejected r hr (by simpa using hstatus)).congr rfl hclaimed
  | request hrequest =>
    refine h.accounted.step (fun _ _ => False)
      (fun r' hr' => hrequest.enqueues.markedBy hr')
      (fun r hr hstatus r' hclaimed => ?_) hevents (fun _ hmark => hmark.elim)
    have hclosed := h.accounted.rejected r hr (by simpa using hstatus)
    cases hrequest with
    | audited | riskState | configured => exact hclosed.congr rfl hclaimed
    | placed =>
      intro o ho hnames
      rw [hclaimed] at hnames
      rcases List.mem_append.mp ho with ho | ho
      · exact hclosed o ho hnames
      · rw [List.mem_singleton.mp ho] at hnames
        exact (hok r hr (by simpa using hstatus) hnames).elim
  | @advance i supervisor t next db' htask hworker =>
    have hok := hok t htask
    refine h.accounted.step _ (fun r' hr' => hworker.markedBy hr')
      (fun r hr hstatus r' hclaimed => ?_) hevents ?_
    · refine CommandRecord.OrderClosed.step ?_ h.ids hworker.movesOrder hclaimed
      rcases hstatus with hstatus | ⟨hid, hmark⟩
      · exact h.accounted.rejected r hr hstatus
      · exact (hok.of_marks hmark).1 rfl r hr hid
    · rintro i ⟨rfl, hmark⟩
      exact (hok.of_marks hmark).2 rfl

end

/-! ### Rejections of a closed and of an open order -/

/-- A venue that knows no symbol. -/
def knowsNoSymbol : Supervisor :=
  { paperAdapter := some {
      mode := .paper
      submit := fun order => .error (.symbolNotFound order.symbol)
      cancel := fun order => .error (.symbolNotFound order.symbol)
      reconcileOrder := fun snapshot => .error (.symbolNotFound snapshot.order.symbol) }
    liveAdapter := none }

/-- The order is filled, and the command to reconcile it is pending. -/
def filledOne : Server :=
  { submittedOne with
    db := { submittedOne.db with
      orders := [{ submittedOrder with status := .filled, filledQuantity := 1 }] } }

/-- A worker fails to read the order and gives the command back, and another one has it rejected. -/
def rejectFilled : List FaultyAction :=
  [.act (.claim 1 []), .fault 0 knowsNoSymbol 0, .act (.advance 0 knowsNoSymbol),
    .act (.claim 1 []), .act (.advance 0 knowsNoSymbol), .act (.advance 0 knowsNoSymbol),
    .act (.advance 0 knowsNoSymbol), .act (.advance 0 knowsNoSymbol)]

/-- An order is placed, its submission is rejected, and the worker crashes. -/
def rejectAndCrash : List FaultyAction :=
  [.act (.request quotedAt100 ⟨1⟩ (.placeOrder ⟨2⟩ { buyTen with quantity := 1 })),
    .act (.claim 1 []), .act (.advance 0 knowsNoSymbol), .act (.advance 0 knowsNoSymbol),
    .act (.advance 0 knowsNoSymbol), .act (.crash 0)]

end Confluence
