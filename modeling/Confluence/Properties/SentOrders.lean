import Confluence.Properties.CancelledOrders
import Confluence.Server.Ledger
import Confluence.Server.Submissions

/-!
# Orders that are sent to a venue

`dispatch` hands the hydrated order of a `submit_order` command to the adapter whatever its status
is. So what is sent is pending only as long as submissions are claimed while their orders are, and
nobody moves an order between the claim of its submission and the hydration.
-/

namespace Confluence

/-- The order that the worker is about to send, with the account. -/
def Task.sends (supervisor : Supervisor) (t : Task) : Option (Uuid × OrderSnapshot) :=
  match t.stage with
  | .hydrated _ snapshot =>
    if t.cmd.commandType = .submitOrder ∧ (supervisor.resolve t.cmd.exchangeMode).isSome then
      some (t.cmd.accountId, snapshot.order)
    else none
  | _ => none

/-- The order that an action sends to a venue, with the account. -/
def Server.sends (s : Server) : Action → Option (Uuid × OrderSnapshot)
  | .advance i supervisor => s.tasks[i]?.bind (Task.sends supervisor)
  | _ => none

/-- The order whose status the next step of a worker may write. -/
def Stage.writesOrder : Stage → Option Uuid
  | .accepted orderId | .rejecting orderId => some orderId
  | .reconciled orderId _ result => if result.newStatus.isSome then some orderId else none
  | _ => none

/-- The order of the command is pending. -/
def ClaimedCommand.FindsPending (db : Db) (cmd : ClaimedCommand) : Prop :=
  ∀ orderId ∈ extractOrderId cmd, ∀ o ∈ db.order? cmd.accountId orderId, o.status = .pending

/-- The worker has claimed the submission of the order and has not hydrated it yet. -/
def Task.IsAbout (accountId orderId : Uuid) (t : Task) : Prop :=
  t.stage.isClaimed = true ∧ t.cmd.commandType = .submitOrder ∧ t.cmd.accountId = accountId ∧
    extractOrderId t.cmd = some orderId

instance (db : Db) (cmd : ClaimedCommand) : Decidable (cmd.FindsPending db) :=
  inferInstanceAs (Decidable (∀ orderId ∈ extractOrderId cmd, _))

instance (accountId orderId : Uuid) (t : Task) : Decidable (t.IsAbout accountId orderId) :=
  inferInstanceAs (Decidable (_ ∧ _))

/-- A submission is claimed only while its order is pending, and no worker writes the status of an
order while another one has claimed its submission and not hydrated it yet. -/
def ClaimsPending (s : Server) : Action → Prop
  | .claim limit locked =>
    ∀ cmd ∈ s.db.claimedCommands limit locked, cmd.commandType = .submitOrder →
      cmd.FindsPending s.db
  | .advance i _ =>
    ∀ t ∈ s.tasks[i]?, ∀ orderId ∈ t.stage.writesOrder, ∀ t' ∈ s.tasks,
      ¬ t'.IsAbout t.cmd.accountId orderId
  | _ => True

instance (s : Server) (a : Action) : Decidable (ClaimsPending s a) :=
  match a with
  | .claim limit locked =>
    inferInstanceAs (Decidable (∀ cmd ∈ s.db.claimedCommands limit locked, _))
  | .advance i _ => inferInstanceAs (Decidable (∀ t ∈ s.tasks[i]?, _))
  | .tick _ | .request _ _ _ | .enqueueCancel _ _ _ _ | .crash _ => isTrue trivial

/-- No worker holds a command yet. -/
def NoWorkers (s : Server) : Prop := s.tasks = []

/-- What a worker with a submission is to hydrate, or has hydrated, is pending. -/
structure Task.HasPending (db : Db) (t : Task) : Prop where
  claimed : t.stage.isClaimed = true → t.cmd.FindsPending db
  hydrated : ∀ orderId snapshot, t.stage = .hydrated orderId snapshot →
    snapshot.order.status = .pending

def SubmitsPending (s : Server) : Prop :=
  ∀ t ∈ s.tasks, t.cmd.commandType = .submitOrder → t.HasPending s.db

section

variable {db db' : Db} {accountId orderId : Uuid} {supervisor : Supervisor} {cmd : ClaimedCommand}
  {stage : Stage} {next : Option Stage} {o : OrderRecord} {status : OrderStatus}

/-! ### Orders that a step does not write -/

lemma Db.MovedIfLegal.order?_eq (h : db.MovedIfLegal o status db')
    (ho : db.order? accountId orderId = some o) {a i : Uuid}
    (hne : ¬ (orderId = i ∧ a = accountId)) : db'.order? a i = db.order? a i := by
  obtain ⟨-, rfl, rfl⟩ := Db.mem_of_order? ho
  unfold Db.MovedIfLegal at h
  split_ifs at h with hlegal
  · obtain ⟨q, -, -, -, rfl⟩ := h
    exact order?_withStatus_of_ne hne q
  · rw [h]

/-- A step writes one order at most. -/
lemma WorkerStep.order?_eq (h : WorkerStep supervisor cmd db stage next db') {a i : Uuid}
    (hne : ¬ (stage.writesOrder = some i ∧ a = cmd.accountId)) :
    db'.order? a i = db.order? a i := by
  have hother {orderId : Uuid} (hstage : stage.writesOrder = some orderId) :
      ¬ (orderId = i ∧ a = cmd.accountId) := by
    rintro ⟨rfl, haccount⟩
    exact hne ⟨hstage, haccount⟩
  cases h with
  | noAdapter | delivered | requeued | permanentlyRejected | reconciliationRequired | notHydrated
  | hydrated | called | notAccepted | notPersisted | audited => rfl
  | submitted htype ho hmove => exact hmove.order?_eq ho (hother rfl)
  | cancelled htype ho hmove => exact hmove.order?_eq ho (hother rfl)
  | @persisted orderId snapshot result _ hcommit =>
    obtain ⟨o, _, orderFills, positions, db₁, riskEvents, ho, -, -, -, -, -, hstatus, rfl⟩ :=
      of_commits_persistReconcileResultTx hcommit
    obtain ⟨-, rfl, haccount⟩ := Db.mem_of_order? ho
    cases hnew : result.newStatus with
    | none =>
      rw [hnew] at hstatus
      rw [show db₁ = _ from hstatus]
      rfl
    | some status =>
      rw [hnew] at hstatus
      obtain ⟨-, q, -, -, -, rfl⟩ := hstatus
      rw [haccount]
      exact order?_withStatus_of_ne (hother (by simp [Stage.writesOrder, hnew])) q
  | @rejected orderId db₁ riskEvents hmove =>
    rcases hmove with rfl | ⟨o, ho, hmove⟩
    · rfl
    · exact hmove.order?_eq ho (hother rfl)

/-- A request adds pending orders only. -/
lemma RequestStep.order?_cases {env : Surroundings} {r : Request}
    (h : RequestStep env accountId db r db') {a i : Uuid} (ho : db'.order? a i = some o) :
    db.order? a i = some o ∨ o.status = .pending := by
  cases h with
  | audited => exact .inl ho
  | riskState => exact .inl ho
  | configured => exact .inl ho
  | placed =>
    simp only [Db.order?, Db.placed, Db.withCommand, List.find?_append] at ho
    rcases Option.or_eq_some_iff.mp ho with hold | ⟨-, hnew⟩
    · exact .inl hold
    · right
      rw [List.mem_singleton.mp (List.mem_of_find?_eq_some hnew)]
      rfl

/-! ### What is about to be sent -/

/-- A worker that has hydrated a submission has found its order, when it was just claimed. -/
lemma WorkerStep.hasPending {t : Task} (h : WorkerStep supervisor t.cmd db t.stage next db')
    (ht : t.HasPending db) (hnext : next = some stage) : Task.HasPending db' { t with stage } := by
  obtain ⟨cmd, lease, before⟩ := t
  cases h with
  | @hydrated orderId o hadapter horder htype ho =>
    obtain rfl := Option.some.inj hnext
    refine ⟨(fun hclaimed => nomatch hclaimed), fun orderId' snapshot hstage => ?_⟩
    obtain ⟨-, rfl⟩ := Stage.hydrated.inj hstage
    exact ht.claimed rfl orderId horder o ho
  | @called adapter orderId snapshot hadapter =>
    obtain rfl := Option.some.inj hnext
    rcases callAdapter_cases cmd adapter orderId snapshot with
      ⟨e, hcall⟩ | ⟨-, hcall⟩ | ⟨-, result, -, hcall⟩
    all_goals
      rw [hcall]
      exact ⟨(fun hclaimed => nomatch hclaimed), by simp⟩
  | permanentlyRejected =>
    obtain ⟨orderId, -, rfl⟩ := Option.map_eq_some_iff.mp hnext
    exact ⟨(fun hclaimed => nomatch hclaimed), by simp⟩
  | delivered | requeued | rejected | audited => cases hnext
  | _ =>
    obtain rfl := Option.some.inj hnext
    exact ⟨(fun hclaimed => nomatch hclaimed), by simp⟩

/-- What other orders become does not matter. -/
lemma Task.HasPending.congr {t : Task} (h : t.HasPending db)
    (horder : t.stage.isClaimed = true → ∀ orderId ∈ extractOrderId t.cmd, ∀ o,
      db'.order? t.cmd.accountId orderId = some o →
        db.order? t.cmd.accountId orderId = some o ∨ o.status = .pending) : t.HasPending db' := by
  refine ⟨fun hclaimed orderId hid o ho => ?_, h.hydrated⟩
  rcases horder hclaimed orderId hid o ho with hold | hpending
  · exact h.claimed hclaimed orderId hid o hold
  · exact hpending

lemma SubmitsPending.step {s s' : Server} {a : Action} (h : SubmitsPending s)
    (hok : ClaimsPending s a) (hstep : ServerStep s a s') : SubmitsPending s' := by
  intro t ht htype
  cases hstep with
  | tick | enqueueCancel => exact (h t ht htype).congr fun _ _ _ _ ho => .inl ho
  | request hrequest => exact (h t ht htype).congr fun _ _ _ _ ho => hrequest.order?_cases ho
  | crash hi => exact h t ((List.eraseIdx_sublist ..).subset ht) htype
  | claim limit locked =>
    rcases List.mem_append.mp ht with ht | ht
    · exact (h t ht htype).congr fun _ _ _ _ ho => .inl ho
    · obtain ⟨cmd, hcmd, rfl⟩ := List.mem_map.mp ht
      exact ⟨fun _ => hok cmd hcmd htype, by simp⟩
  | @advance i supervisor task next db' htask hworker =>
    rcases mem_updateTask htask ht with ht | ⟨stage, hnext, rfl⟩
    · refine (h t ht htype).congr fun hclaimed orderId hid o ho => .inl ?_
      rw [← ho]
      refine (hworker.order?_eq ?_).symm
      rintro ⟨hwrites, haccount⟩
      exact hok task htask orderId hwrites t ht ⟨hclaimed, htype, haccount, hid⟩
    · exact hworker.hasPending (h task (List.mem_of_getElem? htask) htype) hnext

/-- Whatever is sent to a venue is pending. -/
theorem sent_orders_pending {s : Server} {a : Action} {order : OrderSnapshot}
    (hreach : (server NoWorkers).Reachable ClaimsPending s)
    (hsends : s.sends a = some (accountId, order)) : order.status = .pending := by
  have hinit (s : Server) (hs : NoWorkers s) : SubmitsPending s := by
    intro t ht
    rw [hs] at ht
    cases ht
  have hkeep (s : Server) (a : Action) (s' : Server) (hs : SubmitsPending s)
      (hok : ClaimsPending s a) (hstep : (server NoWorkers).step s a = some s') :
      SubmitsPending s' :=
    hs.step hok (serverStep_of_step hstep)
  have hs := hreach.invariant hinit hkeep
  cases a with
  | advance i supervisor =>
    obtain ⟨t, htask, hsends⟩ := Option.bind_eq_some_iff.mp hsends
    unfold Task.sends at hsends
    split at hsends
    · rename_i orderId snapshot hstage
      split_ifs at hsends with hsubmit
      obtain ⟨-, rfl⟩ := Prod.mk.inj (Option.some.inj hsends)
      exact (hs t (List.mem_of_getElem? htask) hsubmit.1).hydrated orderId snapshot hstage
    · cases hsends
  | tick | request | enqueueCancel | claim | crash => cases hsends

/-! ### Orders that are still pending when they are sent -/

/-- No command has been enqueued yet. -/
structure NoCommands (s : Server) : Prop where
  commands : s.db.exchangeCommands = []
  tasks : s.tasks = []

lemma submissions_of_noCommands {s : Server} (h : NoCommands s) : Submissions s := by
  obtain ⟨db, tasks⟩ := s
  obtain ⟨hcommands, htasks⟩ := h
  constructor <;> simp_all

/-- As long as submissions are taken over and overtaken only when they cannot be sent twice, an
order is still pending in the database when it is sent. -/
theorem sent_while_pending {s : Server} {a : Action} {order : OrderSnapshot}
    (hreach : (server NoCommands).Reachable KeepsSubmissions s)
    (hsends : s.sends a = some (accountId, order)) (ho : o ∈ s.db.orders)
    (haccount : o.accountId = accountId) (hid : o.id = order.orderId) : o.status = .pending := by
  have hkeep (s : Server) (a : Action) (s' : Server) (hs : Submissions s)
      (hok : KeepsSubmissions s a) (hstep : (server NoCommands).step s a = some s') :
      Submissions s' :=
    hs.step hok (serverStep_of_step hstep)
  have hs := hreach.invariant (fun _ => submissions_of_noCommands) hkeep
  cases a with
  | advance i supervisor =>
    obtain ⟨t, htask, hsends⟩ := Option.bind_eq_some_iff.mp hsends
    have ht := List.mem_of_getElem? htask
    unfold Task.sends at hsends
    split at hsends
    · rename_i orderId snapshot hstage
      split_ifs at hsends with hsubmit
      obtain ⟨rfl, rfl⟩ := Prod.mk.inj (Option.some.inj hsends)
      have hnames := (hs.names t ht).1
      rw [Task.NamesOrder, hstage] at hnames
      obtain ⟨r, hr, hclaimed⟩ := hs.known t ht
      refine hs.unsent r hr o ho ((submits_of_claimed hclaimed).mpr ?_) (.inr ⟨t, ht, ?_, ?_⟩)
      · exact ⟨hsubmit.1, haccount.symm, by rw [hnames.1, hid, hnames.2]⟩
      · exact (congrArg ClaimedCommand.id hclaimed).symm
      · rw [hstage]
        rfl
    · cases hsends
  | tick | request | enqueueCancel | claim | crash => cases hsends

end

/-! ### A submission after a cancellation -/

/-- The order is placed, and a worker claims and hydrates its submission. -/
def submitOne : List Action :=
  [.request quotedAt100 ⟨1⟩ (.placeOrder ⟨2⟩ { buyTen with quantity := 1 }),
    .claim 1 [], .advance 0 paperAt100]

/-- The order is placed and then cancelled, and one worker claims both commands and cancels the
order first. -/
def cancelFirst : List Action :=
  [.request quotedAt100 ⟨1⟩ (.placeOrder ⟨2⟩ { buyTen with quantity := 1 }),
    .enqueueCancel ⟨1⟩ ⟨2⟩ .paper "1", .claim 2 [],
    .advance 1 paperAt100, .advance 1 paperAt100, .advance 1 paperAt100, .advance 0 paperAt100]

/-- The order is pending when it is sent. -/
theorem sent_orders_pending_one :
    ∃ s order, (server NoWorkers).Reachable ClaimsPending s ∧
      s.sends (.advance 0 paperAt100) = some (⟨1⟩, order) ∧ order.status = .pending := by
  have hexec : ((server NoWorkers).exec ClaimsPending unusedOne submitOne).any (fun s =>
      (s.sends (.advance 0 paperAt100)).any fun sent => decide (sent.1 = ⟨1⟩)) = true := by
    decide +kernel
  obtain ⟨s, hrun, hs⟩ := Machine.exists_run_of_exec hexec
  obtain ⟨sent, hsends, haccount⟩ := (Option.any_eq_true _ _).mp hs
  obtain ⟨accountId, order⟩ := sent
  obtain rfl : accountId = ⟨1⟩ := of_decide_eq_true haccount
  have hreach : (server NoWorkers).Reachable ClaimsPending s := ⟨unusedOne, _, rfl, hrun⟩
  exact ⟨s, order, hreach, hsends, sent_orders_pending hreach hsends⟩

/-- An order that is to be cancelled is sent. -/
theorem cancelled_order_sent :
    ¬ ∀ (s s' : Server) (a : Action) (accountId : Uuid) (order : OrderSnapshot),
      (server NoWorkers).Reachable (fun _ _ => True) s → (server NoWorkers).step s a = some s' →
        s.sends a = some (accountId, order) → order.status = .pending := by
  intro h
  have hexec : ((server NoWorkers).exec (fun _ _ => True) unusedOne cancelFirst).any (fun s =>
      ((server NoWorkers).step s (.advance 0 paperAt100)).isSome &&
        (s.sends (.advance 0 paperAt100)).any fun sent =>
          decide (sent.2.status = .cancelRequested)) = true := by
    decide +kernel
  obtain ⟨s, hrun, hs⟩ := Machine.exists_run_of_exec hexec
  rw [Bool.and_eq_true] at hs
  obtain ⟨s', hstep⟩ := Option.isSome_iff_exists.mp hs.1
  obtain ⟨sent, hsends, hstatus⟩ := (Option.any_eq_true _ _).mp hs.2
  obtain ⟨accountId, order⟩ := sent
  have hpending := h s s' _ accountId order ⟨unusedOne, _, rfl, hrun⟩ hstep hsends
  rw [of_decide_eq_true hstatus] at hpending
  cases hpending

end Confluence
