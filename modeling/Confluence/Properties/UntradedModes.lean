import Confluence.Properties.FrozenModes
import Confluence.Properties.SchemaConstraints
import Confluence.Properties.SentOrders
import Confluence.Server.CommandModes

/-!
# Modes that nobody trades

The program starts its workers without an adapter for live trading. The routes take live orders all
the same: they stay pending and unfilled, and their commands go to manual review. What holds of live
trading here holds of any mode for which no worker has an adapter.
-/

namespace Confluence

/-- No worker has an adapter for the mode, and cancellations are enqueued for orders of the account,
with their mode. -/
def Lacks (mode : ExchangeMode) (s : Server) : ServiceAction → Prop
  | .act (.act (.advance _ supervisor)) => supervisor.resolve mode = none
  | .act (.act a) => CancelsMatch s a
  | .act (.fault _ supervisor _) => supervisor.resolve mode = none
  | .createAccount .. | .putCorrelationGroups .. => True

instance (mode : ExchangeMode) (s : Server) (a : ServiceAction) : Decidable (Lacks mode s a) :=
  match a with
  | .act (.act (.advance _ _)) => inferInstanceAs (Decidable (_ = none))
  | .act (.act (.tick _)) | .act (.act (.request ..)) | .act (.act (.claim ..))
  | .act (.act (.crash _)) => isTrue trivial
  | .act (.act (.enqueueCancel accountId orderId mode tag)) =>
    inferInstanceAs (Decidable (CancelsMatch s (.enqueueCancel accountId orderId mode tag)))
  | .act (.fault ..) => inferInstanceAs (Decidable (_ = none))
  | .createAccount .. | .putCorrelationGroups .. => isTrue trivial

/-- A worker with a command of the mode has come to its manual review at most, and an order is
rejected for its own command. -/
structure Task.Parked (mode : ExchangeMode) (t : Task) : Prop where
  stage : t.cmd.exchangeMode = mode → t.stage = .claimed ∨ ∃ reason, t.stage = .auditing reason
  rejecting : ∀ orderId, t.stage = .rejecting orderId → extractOrderId t.cmd = some orderId

/-- The commands of the mode are pending, leased, or in review. -/
def Db.Reviewed (mode : ExchangeMode) (db : Db) : Prop :=
  ∀ r ∈ db.exchangeCommands, r.exchangeMode = mode →
    r.status ≠ .delivered ∧ r.status ≠ .permanentlyRejected

/-- Nothing has become of the orders of the mode. -/
structure Untraded (mode : ExchangeMode) (s : Server) : Prop where
  modes : ModesMatch s
  parked : ∀ t ∈ s.tasks, t.Parked mode
  claimed : ∀ t ∈ s.tasks, ∃ r ∈ s.db.exchangeCommands, r.claimed = t.cmd
  orders : ∀ o ∈ s.db.orders, o.exchangeMode = mode → o.status = .pending ∧ o.filledQuantity = 0
  fills : ∀ f ∈ s.db.orderFills, ∃ o ∈ s.db.orders, o.id = f.orderId ∧ o.exchangeMode ≠ mode
  reviewed : s.db.Reviewed mode

section

variable {s s' : Server} {mode : ExchangeMode} {db db' : Db} {t : Task} {supervisor : Supervisor}
  {next : Option Stage} {stage : Stage}

/-! ### Workers -/

lemma WorkerStep.parked (h : WorkerStep supervisor t.cmd db t.stage next db')
    (hlacks : supervisor.resolve mode = none) (ht : t.Parked mode) (hnext : next = some stage) :
    Task.Parked mode { t with stage } := by
  obtain ⟨cmd, lease, before⟩ := t
  -- a command of the mode goes from its claim to the review, and no further
  have hother {before : Stage} (ht : Task.Parked mode ⟨cmd, lease, before⟩)
      (hclaimed : before = .claimed → (supervisor.resolve cmd.exchangeMode).isSome = true)
      (haudit : ∀ reason, before ≠ .auditing reason) : cmd.exchangeMode ≠ mode := by
    rintro rfl
    rcases ht.stage rfl with hstage | ⟨reason, hstage⟩
    · have hsome := hclaimed hstage
      rw [hlacks] at hsome
      cases hsome
    · exact haudit reason hstage
  cases h with
  | noAdapter | reconciliationRequired =>
    obtain rfl := Option.some.inj hnext
    exact ⟨fun _ => .inr ⟨_, rfl⟩, by simp⟩
  | notHydrated hadapter | hydrated hadapter =>
    obtain rfl := Option.some.inj hnext
    refine ⟨fun hmode => ?_, by simp⟩
    exact (hother ht (fun _ => hadapter) (by simp) hmode).elim
  | @called adapter orderId snapshot hadapter =>
    obtain rfl := Option.some.inj hnext
    refine ⟨fun hmode => (hother ht (by simp) (by simp) hmode).elim, ?_⟩
    rcases callAdapter_cases cmd adapter orderId snapshot with
      ⟨e, hcall⟩ | ⟨-, hcall⟩ | ⟨-, result, -, hcall⟩
    all_goals
      rw [hcall]
      simp
  | permanentlyRejected =>
    obtain ⟨orderId, horder, rfl⟩ := Option.map_eq_some_iff.mp hnext
    refine ⟨fun hmode => (hother ht (by simp) (by simp) hmode).elim, fun i hi => ?_⟩
    obtain rfl := Stage.rejecting.inj hi
    exact horder
  | delivered | requeued | rejected | audited => cases hnext
  | submitted | cancelled | notAccepted | persisted | notPersisted =>
    obtain rfl := Option.some.inj hnext
    exact ⟨fun hmode => (hother ht (by simp) (by simp) hmode).elim, by simp⟩

/-- A call of the database that fails brings a command of the mode no further. -/
lemma Task.Parked.fault (ht : t.Parked mode) (hlacks : supervisor.resolve mode = none)
    (h : FaultStep supervisor t.cmd t.stage stage) :
    Task.Parked mode { t with stage } ∧ (t.NamesOrder → Task.NamesOrder { t with stage }) := by
  obtain ⟨cmd, lease, before⟩ := t
  cases h with
  | noAdapter | auditing => exact ⟨⟨fun _ => .inr ⟨_, rfl⟩, by simp⟩, fun _ => trivial⟩
  | notHydrated hadapter =>
    refine ⟨⟨?_, by simp⟩, fun _ => trivial⟩
    rintro rfl
    rw [hlacks] at hadapter
    cases hadapter
  | notAccepted | notPersisted =>
    exact ⟨⟨fun hmode => by simpa using ht.stage hmode, by simp⟩, fun _ => trivial⟩
  | rejecting horder =>
    refine ⟨⟨fun hmode => by simpa using ht.stage hmode, fun i hi => ?_⟩, fun _ => trivial⟩
    obtain rfl := Stage.rejecting.inj hi
    exact horder

/-- The order that a worker writes is the one of its command. -/
lemma Task.Parked.extractOrderId (ht : t.Parked mode) (hnames : t.NamesOrder) {orderId : Uuid}
    (hwrites : t.stage.writesOrder = some orderId) : extractOrderId t.cmd = some orderId := by
  obtain ⟨cmd, lease, before⟩ := t
  cases before with
  | accepted i =>
    obtain rfl := Option.some.inj hwrites
    exact hnames
  | reconciled i snapshot result =>
    simp only [Stage.writesOrder] at hwrites
    split_ifs at hwrites
    obtain rfl := Option.some.inj hwrites
    exact hnames
  | rejecting i =>
    obtain rfl := Option.some.inj hwrites
    exact ht.rejecting i rfl
  | claimed | hydrated | dispatched | auditing => cases hwrites

/-- A worker that writes an order, or fills, has no command of the mode. -/
lemma Task.Parked.ne_mode (ht : t.Parked mode) (hclaimed : t.stage ≠ .claimed)
    (haudit : ∀ reason, t.stage ≠ .auditing reason) : t.cmd.exchangeMode ≠ mode := by
  intro hmode
  rcases ht.stage hmode with hstage | ⟨reason, hstage⟩
  · exact hclaimed hstage
  · exact haudit reason hstage

/-! ### The tables -/

/-- Workers write orders of other modes only. -/
lemma WorkerStep.untradedOrders (h : WorkerStep supervisor t.cmd db t.stage next db')
    (ht : t.Parked mode) (hnames : t.NamesOrder) (hmatches : t.cmd.Matches db')
    (hids : (db'.orders.map (·.id)).Nodup)
    (horders : ∀ o ∈ db.orders, o.exchangeMode = mode → o.status = .pending ∧ o.filledQuantity = 0) :
    ∀ o ∈ db'.orders, o.exchangeMode = mode → o.status = .pending ∧ o.filledQuantity = 0 := by
  intro o ho hmode
  have hfound := Db.order?_of_mem hids ho
  by_cases hwrites : t.stage.writesOrder = some o.id ∧ o.accountId = t.cmd.accountId
  · obtain ⟨hstage, hacc⟩ := hwrites
    obtain ⟨o', ho', hmode'⟩ := hmatches o.id (ht.extractOrderId hnames hstage)
    rw [← hacc, hfound] at ho'
    obtain rfl := Option.some.inj ho'
    refine absurd (hmode'.symm.trans hmode) (ht.ne_mode ?_ ?_)
    · intro hclaimed
      simp [hclaimed, Stage.writesOrder] at hstage
    · intro reason haudit
      simp [haudit, Stage.writesOrder] at hstage
  · rw [h.order?_eq hwrites] at hfound
    exact horders o (Db.mem_of_order? hfound).1 hmode

/-- Workers record fills of orders of other modes only. -/
lemma WorkerStep.untradedFills (h : WorkerStep supervisor t.cmd db t.stage next db')
    (ht : t.Parked mode) (hnames : t.NamesOrder) (hmatches : t.cmd.Matches db') :
    ∃ rows, db'.orderFills = db.orderFills ++ rows ∧
      ∀ f ∈ rows, ∃ o ∈ db'.orders, o.id = f.orderId ∧ o.exchangeMode ≠ mode := by
  obtain ⟨rows, hrows, hof⟩ := h.fills
  refine ⟨rows, hrows, fun f hf => ?_⟩
  obtain ⟨snapshot, result, hstage, -, -, -⟩ := hof f hf
  have hid : Confluence.extractOrderId t.cmd = some f.orderId := by
    simp only [Task.NamesOrder, hstage] at hnames
    exact hnames
  obtain ⟨o, ho, hmode⟩ := hmatches f.orderId hid
  obtain ⟨hmem, hoid, -⟩ := Db.mem_of_order? ho
  refine ⟨o, hmem, hoid, ?_⟩
  rw [hmode]
  exact ht.ne_mode (by simp [hstage]) (by simp [hstage])

lemma Db.Reviewed.enqueues (h : db.Reviewed mode) (henqueues : Enqueues db db') :
    db'.Reviewed mode :=
  henqueues.rows h fun r hpending _ => ⟨by simp [hpending], by simp [hpending]⟩

lemma Db.Reviewed.updateWhere (h : db.Reviewed mode) {p : CommandRecord → Bool}
    {f : CommandRecord → CommandRecord} (hmode : ∀ r, (f r).exchangeMode = r.exchangeMode)
    (hf : ∀ r ∈ db.exchangeCommands, p r = true → r.exchangeMode = mode →
      (f r).status ≠ .delivered ∧ (f r).status ≠ .permanentlyRejected) :
    Db.Reviewed mode
      { db with exchangeCommands := Confluence.updateWhere p f db.exchangeCommands } := by
  refine forall_updateWhere h fun r hr hp hmode' => ?_
  rw [hmode] at hmode'
  exact hf r hr hp hmode'

lemma WorkerStep.reviewed (h : WorkerStep supervisor t.cmd db t.stage next db')
    (hreviewed : db.Reviewed mode) (ht : t.Parked mode)
    (hclaimed : ∀ r ∈ db.exchangeCommands, r.id = t.cmd.id → r.exchangeMode = t.cmd.exchangeMode) :
    db'.Reviewed mode := by
  obtain ⟨cmd, lease, before⟩ := t
  by_cases hmarks : marks supervisor cmd before = true
  · cases h with
    | noAdapter | reconciliationRequired | requeued =>
      exact hreviewed.updateWhere (fun _ => rfl) fun _ _ _ _ => ⟨by simp, by simp⟩
    | delivered | permanentlyRejected =>
      refine hreviewed.updateWhere (fun _ => rfl) fun r hr hp hmode => ?_
      have hcmd := hclaimed r hr (of_decide_eq_true hp)
      exact (ht.ne_mode (by simp) (by simp) (hcmd.symm.trans hmode)).elim
    | notHydrated | hydrated => exact hreviewed
    | called | submitted | cancelled | notAccepted | persisted | notPersisted | rejected | audited =>
      cases hmarks
  · exact hreviewed.enqueues (h.enqueues (by simpa using hmarks))

/-! ### Every step -/

lemma Lacks.cancelsMatch {a : Action} (h : Lacks mode s (.act (.act a))) : CancelsMatch s a := by
  cases a with
  | advance => trivial
  | _ => exact h

lemma ModesMatch.serviceStep {a : ServiceAction} (hs : Untraded mode s) (hok : Lacks mode s a)
    (h : ServiceStep s a s') : ModesMatch s' := by
  cases h with
  | server h => exact hs.modes.step hok.cancelsMatch h
  | refused => exact hs.modes
  | created =>
    refine ⟨hs.modes.ids, fun r hr => ?_, fun t ht => ⟨?_, (hs.modes.tasks t ht).2⟩⟩
    · exact (hs.modes.commands r hr).extends (.of_same rfl rfl)
    · exact (hs.modes.tasks t ht).1.extends (.of_same rfl rfl)
  | regrouped =>
    refine ⟨hs.modes.ids, fun r hr => ?_, fun t ht => ⟨?_, (hs.modes.tasks t ht).2⟩⟩
    · exact (hs.modes.commands r hr).extends (.of_same rfl rfl)
    · exact (hs.modes.tasks t ht).1.extends (.of_same rfl rfl)
  | @fault i supervisor n task next htask hnext =>
    refine ⟨hs.modes.ids, hs.modes.commands, fun t ht => ?_⟩
    have hmem := List.mem_of_getElem? htask
    rcases mem_updateTask htask ht with ht | ⟨stage, rfl, rfl⟩
    · exact hs.modes.tasks t ht
    · obtain ⟨hmatches, hnames⟩ := hs.modes.tasks task hmem
      exact ⟨hmatches, ((hs.parked task hmem).fault hok (faultStep_of_mem hnext)).2 hnames⟩

lemma parked_of_serviceStep {a : ServiceAction} (hs : Untraded mode s) (hok : Lacks mode s a)
    (h : ServiceStep s a s') : ∀ t ∈ s'.tasks, t.Parked mode := by
  intro t ht
  cases h with
  | refused | created | regrouped => exact hs.parked t ht
  | @fault i supervisor n task next htask hnext =>
    rcases mem_updateTask htask ht with ht | ⟨stage, rfl, rfl⟩
    · exact hs.parked t ht
    · exact ((hs.parked task (List.mem_of_getElem? htask)).fault hok (faultStep_of_mem hnext)).1
  | server h =>
    cases h with
    | tick | enqueueCancel | request => exact hs.parked t ht
    | crash hi => exact hs.parked t ((List.eraseIdx_sublist ..).subset ht)
    | claim limit locked =>
      rcases List.mem_append.mp ht with ht | ht
      · exact hs.parked t ht
      · obtain ⟨cmd, hcmd, rfl⟩ := List.mem_map.mp ht
        exact ⟨fun _ => .inl rfl, by simp⟩
    | @advance i supervisor task next db' htask hworker =>
      rcases mem_updateTask htask ht with ht | ⟨stage, hstage, rfl⟩
      · exact hs.parked t ht
      · exact hworker.parked hok (hs.parked task (List.mem_of_getElem? htask))
          hstage

lemma orders_of_serviceStep {a : ServiceAction} (hs : Untraded mode s) (hmodes : ModesMatch s')
    (h : ServiceStep s a s') :
    ∀ o ∈ s'.db.orders, o.exchangeMode = mode → o.status = .pending ∧ o.filledQuantity = 0 := by
  cases h with
  | refused | created | regrouped | fault => exact hs.orders
  | server h =>
    have hextends := h.extends
    cases h with
    | tick | enqueueCancel | claim | crash => exact hs.orders
    | request hrequest =>
      cases hrequest with
      | audited => exact hs.orders
      | riskState => exact hs.orders
      | configured => exact hs.orders
      | placed => exact forall_append hs.orders fun _ => ⟨rfl, rfl⟩
    | advance htask hworker =>
      have hmem := List.mem_of_getElem? htask
      obtain ⟨hmatches, hnames⟩ := hs.modes.tasks _ hmem
      exact hworker.untradedOrders (hs.parked _ hmem) hnames (hmatches.extends hextends) hmodes.ids
        hs.orders

lemma fills_of_serviceStep {a : ServiceAction} (hs : Untraded mode s)
    (h : s.serviceStep a = some s') :
    ∀ f ∈ s'.db.orderFills, ∃ o ∈ s'.db.orders, o.id = f.orderId ∧ o.exchangeMode ≠ mode := by
  have hkept : ∀ f ∈ s.db.orderFills, ∃ o ∈ s'.db.orders, o.id = f.orderId ∧
      o.exchangeMode ≠ mode := by
    intro f hf
    obtain ⟨o, ho, hid, hmode⟩ := hs.fills f hf
    have hterms := (growsTo_of_serviceStep h).orders.subset (List.mem_map_of_mem ho)
    obtain ⟨o', ho', heq⟩ := List.mem_map.mp hterms
    have hmode' : o'.terms.exchangeMode = o.terms.exchangeMode :=
      congrArg OrderRecord.exchangeMode heq
    refine ⟨o', ho', (congrArg OrderRecord.id heq).trans hid, fun h' => hmode ?_⟩
    exact hmode'.symm.trans h'
  cases serviceStep_of_step h with
  | refused | created | regrouped | fault => exact hkept
  | server h =>
    have hextends := h.extends
    cases h with
    | tick | enqueueCancel | claim | crash => exact hkept
    | request hrequest =>
      cases hrequest with
      | audited => exact hkept
      | riskState => exact hkept
      | configured => exact hkept
      | placed => exact hkept
    | advance htask hworker =>
      have hmem := List.mem_of_getElem? htask
      obtain ⟨hmatches, hnames⟩ := hs.modes.tasks _ hmem
      obtain ⟨rows, hrows, hof⟩ :=
        hworker.untradedFills (hs.parked _ hmem) hnames (hmatches.extends hextends)
      intro f hf
      rw [hrows] at hf
      rcases List.mem_append.mp hf with hf | hf
      · exact hkept f hf
      · exact hof f hf

lemma reviewed_of_serviceStep {a : ServiceAction} (hs : Untraded mode s)
    (hids : (s.db.exchangeCommands.map (·.id)).Nodup) (h : ServiceStep s a s') :
    s'.db.Reviewed mode := by
  cases h with
  | refused | created | regrouped | fault => exact hs.reviewed
  | server h =>
    cases h with
    | tick | crash => exact hs.reviewed
    | enqueueCancel => exact hs.reviewed.enqueues (enqueues_withCommand _ _ (by simp) _ _ _)
    | claim => exact hs.reviewed.updateWhere (fun _ => rfl) fun _ _ _ _ => ⟨by simp, by simp⟩
    | request hrequest => exact hs.reviewed.enqueues hrequest.enqueues
    | advance htask hworker =>
      have hmem := List.mem_of_getElem? htask
      refine hworker.reviewed hs.reviewed (hs.parked _ hmem) fun r hr hid => ?_
      obtain ⟨r', hr', hcmd⟩ := hs.claimed _ hmem
      have hid' : r.id = r'.id := hid.trans (congrArg ClaimedCommand.id hcmd).symm
      rw [List.inj_on_of_nodup_map hids hr hr' hid']
      exact congrArg ClaimedCommand.exchangeMode hcmd

lemma Untraded.step {a : ServiceAction} (hs : Untraded mode s)
    (hids : (s.db.exchangeCommands.map (·.id)).Nodup) (hok : Lacks mode s a)
    (h : s.serviceStep a = some s') : Untraded mode s' := by
  have hstep := serviceStep_of_step h
  have hmodes := ModesMatch.serviceStep hs hok hstep
  exact ⟨hmodes, parked_of_serviceStep hs hok hstep, claimed_of_serviceStep hs.claimed h,
    orders_of_serviceStep hs hmodes hstep, fills_of_serviceStep hs h,
    reviewed_of_serviceStep hs hids hstep⟩

/-- Without an adapter for a mode, its orders stay pending and unfilled in every run, and no command
of the mode is ever delivered or rejected for good. -/
theorem orders_untraded (h : (service (· = .fresh)).Reachable (Lacks mode) s) :
    (∀ o ∈ s.db.orders, o.exchangeMode = mode →
      o.status = .pending ∧ o.filledQuantity = 0 ∧ ∀ f ∈ s.db.orderFills, f.orderId ≠ o.id) ∧
      ∀ r ∈ s.db.exchangeCommands, r.exchangeMode = mode →
        r.status ≠ .delivered ∧ r.status ≠ .permanentlyRejected := by
  have hinv : s.db.Constrained ∧ Untraded mode s := by
    refine h.invariant (I := fun s => s.db.Constrained ∧ Untraded mode s) ?_ ?_
    · rintro _ rfl
      refine ⟨constrained_empty, ⟨.nil, ?_, ?_⟩, ?_, ?_, ?_, ?_, ?_⟩ <;> rintro _ ⟨⟩
    · rintro s a s' ⟨hc, hs⟩ hok hstep
      exact ⟨constrained_of_serviceStep hstep hc, hs.step hc.commandIds hok hstep⟩
  obtain ⟨hc, hs⟩ := hinv
  refine ⟨fun o ho hmode => ?_, hs.reviewed⟩
  obtain ⟨hpending, hfilled⟩ := hs.orders o ho hmode
  refine ⟨hpending, hfilled, fun f hf hid => ?_⟩
  obtain ⟨o', ho', hid', hmode'⟩ := hs.fills f hf
  obtain rfl := List.inj_on_of_nodup_map hc.orderIds ho' ho (hid'.trans hid)
  exact hmode' hmode

end

/-- An account that is configured for live trading, its order, and a worker that trades on paper. -/
def openAndTradeLive : List ServiceAction :=
  .createAccount ⟨1⟩ (some 10000) :: configureAs "live" 0 ::
    [.act (.act (.request quotedAt100 ⟨1⟩ (.placeOrder ⟨2⟩ { buyTen with quantity := 1 }))),
      .act (.act (.claim 1 [])), .act (.act (.advance 0 paperAt100)),
      .act (.act (.advance 0 paperAt100))]

/-- The live order after its review: pending, and its command is left to an operator. -/
theorem orders_untraded_live :
    ∃ s : Server, (service (· = .fresh)).Reachable (Lacks .live) s ∧
      s.db.orders.map (·.exchangeMode) = [.live] ∧
      s.db.exchangeCommands.map (·.status) = [.reconciliationRequired] ∧
      ∀ o ∈ s.db.orders, o.exchangeMode = .live →
        o.status = .pending ∧ o.filledQuantity = 0 ∧ ∀ f ∈ s.db.orderFills, f.orderId ≠ o.id := by
  have htest : ((service (· = .fresh)).exec (Lacks .live) .fresh openAndTradeLive).any (fun s =>
      decide (s.db.orders.map (·.exchangeMode) = [.live]) &&
        decide (s.db.exchangeCommands.map (·.status) = [.reconciliationRequired])) = true := by
    decide +kernel
  obtain ⟨s, hrun, hs⟩ := Machine.exists_run_of_exec htest
  rw [Bool.and_eq_true, decide_eq_true_eq, decide_eq_true_eq] at hs
  have hreach : (service (· = .fresh)).Reachable (Lacks .live) s := ⟨_, _, rfl, hrun⟩
  exact ⟨s, hreach, hs.1, hs.2, (orders_untraded hreach).1⟩

end Confluence
