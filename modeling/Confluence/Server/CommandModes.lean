import Confluence.Server.Orders

/-!
# Commands and the modes of their orders

A command that names an order carries the order's account and exchange mode, and so does every
command that a worker creates while it processes one that does.
-/

namespace Confluence

/-- If the command names an order, that order is one of its account, with its exchange mode. -/
def ClaimedCommand.Matches (db : Db) (cmd : ClaimedCommand) : Prop :=
  ∀ i, extractOrderId cmd = some i →
    ∃ o, db.order? cmd.accountId i = some o ∧ o.exchangeMode = cmd.exchangeMode

/-- The order that the worker is about is the one that its command names. -/
def Task.NamesOrder (t : Task) : Prop :=
  match t.stage with
  | .hydrated orderId snapshot =>
    extractOrderId t.cmd = some orderId ∧ snapshot.order.orderId = orderId
  | .accepted orderId => extractOrderId t.cmd = some orderId
  | .reconciled orderId _ _ => extractOrderId t.cmd = some orderId
  | _ => True

/-- Commands and workers match their orders. -/
structure ModesMatch (s : Server) : Prop where
  ids : (s.db.orders.map (·.id)).Nodup
  commands : ∀ r ∈ s.db.exchangeCommands, r.claimed.Matches s.db
  tasks : ∀ t ∈ s.tasks, t.cmd.Matches s.db ∧ t.NamesOrder

/-- Cancellations are enqueued for orders of the account, with their exchange mode; everything else
may happen. -/
def CancelsMatch (s : Server) : Action → Prop
  | .enqueueCancel accountId orderId mode _ =>
    ∃ o, s.db.order? accountId orderId = some o ∧ o.exchangeMode = mode
  | _ => True

instance (s : Server) (a : Action) : Decidable (CancelsMatch s a) :=
  match a with
  | .enqueueCancel accountId orderId mode _ =>
    decidable_of_iff
      (((s.db.order? accountId orderId).any fun o => decide (o.exchangeMode = mode)) = true)
      (by simp [CancelsMatch, Option.any_eq_true])
  | .tick _ | .request _ _ _ | .claim _ _ | .advance _ _ | .crash _ => isTrue trivial

section

variable {db db' : Db} {accountId orderId : Uuid} {cmd : ClaimedCommand} {t : Task}
  {supervisor : Supervisor} {next : Option Stage}

lemma ClaimedCommand.Matches.extends (h : cmd.Matches db) (hdb : db.Extends db') :
    cmd.Matches db' := by
  intro i hid
  obtain ⟨o, ho, hmode⟩ := h i hid
  obtain ⟨o', ho', hterms⟩ := hdb.orders _ _ _ ho
  refine ⟨o', ho', ?_⟩
  rw [hterms]
  exact hmode

/-- The commands are those that were there, and one that matches at most. -/
def Db.AddsMatching (db db' : Db) : Prop :=
  ∀ r' ∈ db'.exchangeCommands,
    (∃ r ∈ db.exchangeCommands, r'.claimed = r.claimed) ∨ r'.claimed.Matches db'

lemma Db.AddsMatching.of_same (h : db'.exchangeCommands = db.exchangeCommands) :
    db.AddsMatching db' := by
  intro r' hr'
  rw [h] at hr'
  exact .inl ⟨r', hr', rfl⟩

/-- Statuses, leases and attempts do not matter. -/
lemma addsMatching_updateWhere {p : CommandRecord → Bool} {f : CommandRecord → CommandRecord}
    (hclaimed : ∀ r, (f r).claimed = r.claimed) :
    db.AddsMatching { db with exchangeCommands := updateWhere p f db.exchangeCommands } := by
  intro r' hr'
  obtain ⟨r, hr, rfl⟩ := mem_updateWhere.mp hr'
  refine .inl ⟨r, hr, ?_⟩
  split_ifs
  · exact hclaimed r
  · rfl

/-- A new command about an order of the account, with its mode. -/
lemma addsMatching_withCommand {db₁ : Db} {o : OrderRecord}
    (ho : db₁.order? accountId orderId = some o)
    (hsame : db₁.exchangeCommands = db.exchangeCommands) (commandType : CommandType) (key : String) :
    db.AddsMatching (db₁.withCommand accountId commandType o.exchangeMode key
      (orderPayload orderId)) := by
  intro r' hr'
  rcases db₁.withCommand_cases accountId commandType o.exchangeMode key (orderPayload orderId)
    with ⟨-, hdb⟩ | ⟨-, hdb⟩
  · rw [hdb, hsame] at hr'
    exact .inl ⟨r', hr', rfl⟩
  · rw [hdb] at hr'
    rcases List.mem_append.mp hr' with hr' | hr'
    · exact .inl ⟨r', hsame ▸ hr', rfl⟩
    · refine .inr ?_
      rw [List.mem_singleton.mp hr']
      intro i hid
      have hpayload := extractOrderId_orderPayload (freshId (db₁.exchangeCommands.map (·.id)))
        accountId orderId commandType o.exchangeMode
      obtain rfl : orderId = i := Option.some.inj (hpayload.symm.trans hid)
      exact ⟨o, ho, rfl⟩

/-! ### Workers -/

lemma WorkerStep.namesOrder (h : WorkerStep supervisor t.cmd db t.stage next db')
    (ht : t.NamesOrder) {stage : Stage} (hnext : next = some stage) :
    Task.NamesOrder { t with stage } := by
  obtain ⟨cmd, lease, before⟩ := t
  cases h with
  | @hydrated orderId o _ horder _ ho =>
    obtain rfl := Option.some.inj hnext
    exact ⟨horder, (Db.mem_of_order? ho).2.1⟩
  | @called adapter orderId snapshot hadapter =>
    obtain rfl := Option.some.inj hnext
    have hid : extractOrderId cmd = some orderId := ht.1
    unfold callAdapter
    cases cmd.commandType with
    | submitOrder =>
      simp only
      cases adapter.submit snapshot.order with
      | ok _ => exact hid
      | error e => trivial
    | reconcileOrder =>
      simp only
      cases adapter.reconcileOrder snapshot with
      | ok _ => exact hid
      | error e => trivial
    | cancelOrder =>
      simp only
      cases adapter.cancel snapshot.order with
      | ok _ => exact hid
      | error e => trivial
    | unknown name => trivial
  | permanentlyRejected =>
    obtain ⟨orderId, -, rfl⟩ := Option.map_eq_some_iff.mp hnext
    trivial
  | delivered | requeued | rejected | audited => cases hnext
  | _ =>
    obtain rfl := Option.some.inj hnext
    trivial

/-- The order is there, with its mode, after a move. -/
lemma Db.MovedIfLegal.exchangeMode {o : OrderRecord} {status : OrderStatus}
    (h : db.MovedIfLegal o status db') (ho : db.order? accountId orderId = some o) :
    ∃ o', db'.order? accountId orderId = some o' ∧ o'.exchangeMode = o.exchangeMode := by
  obtain ⟨o', ho', hterms⟩ := (h.movesOrder ho).order? ho
  refine ⟨o', ho', ?_⟩
  rw [hterms]

lemma WorkerStep.addsMatching (h : WorkerStep supervisor t.cmd db t.stage next db')
    (hmatches : t.cmd.Matches db) (hnames : t.NamesOrder) : db.AddsMatching db' := by
  obtain ⟨cmd, lease, before⟩ := t
  cases h with
  | notHydrated | hydrated | called | notAccepted | notPersisted | audited => exact .of_same rfl
  | noAdapter | delivered | requeued | permanentlyRejected | reconciliationRequired =>
    exact addsMatching_updateWhere fun _ => rfl
  | @submitted orderId o db₁ htype ho hmove =>
    obtain ⟨o₁, ho₁, hmode₁⟩ := hmatches orderId hnames
    obtain rfl : o = o₁ := Option.some.inj (ho.symm.trans ho₁)
    obtain ⟨o', ho', hmode⟩ := hmove.exchangeMode ho
    obtain ⟨orders, rfl⟩ := hmove.frame
    simp only at hmode₁ ⊢
    rw [← hmode₁, ← hmode]
    exact addsMatching_withCommand ho' rfl _ _
  | @cancelled orderId o db₁ riskEvents htype ho hmove =>
    obtain ⟨o₁, ho₁, hmode₁⟩ := hmatches orderId hnames
    obtain rfl : o = o₁ := Option.some.inj (ho.symm.trans ho₁)
    obtain ⟨o', ho', hmode⟩ := hmove.exchangeMode ho
    obtain ⟨orders, rfl⟩ := hmove.frame
    simp only at hmode₁ ⊢
    rw [← hmode₁, ← hmode]
    exact addsMatching_withCommand ho' rfl _ _
  | persisted hcommit =>
    obtain ⟨o, _, _, _, db₁, _, -, -, -, -, -, -, hstatus, rfl⟩ :=
      of_commits_persistReconcileResultTx hcommit
    obtain ⟨orders, rfl⟩ := hstatus.frame
    exact .of_same rfl
  | rejected h =>
    rcases h with rfl | ⟨o, -, hmove⟩
    · exact .of_same rfl
    · obtain ⟨orders, rfl⟩ := hmove.frame
      exact .of_same rfl

/-! ### Every step -/

lemma ServerStep.addsMatching {s s' : Server} {a : Action} (h : ServerStep s a s')
    (hs : ModesMatch s) (hok : CancelsMatch s a) : s.db.AddsMatching s'.db := by
  cases h with
  | tick | crash => exact .of_same rfl
  | claim limit locked => exact addsMatching_updateWhere fun _ => rfl
  | enqueueCancel accountId orderId mode tag =>
    obtain ⟨o, ho, rfl⟩ := hok
    exact addsMatching_withCommand ho rfl _ _
  | advance htask hworker =>
    obtain ⟨hmatches, hnames⟩ := hs.tasks _ (List.mem_of_getElem? htask)
    exact hworker.addsMatching hmatches hnames
  | @request env accountId r db' hrequest =>
    cases hrequest with
    | audited => exact .of_same rfl
    | riskState => exact .of_same rfl
    | configured => exact .of_same rfl
    | @placed orderId body q p happroved hq hp hpos hid hclient =>
      have hfound := order?_append_self (o := newOrder orderId accountId orderId.simple
        body.symbol body.side body.orderType q p (s.db.exchangeMode accountId)) hid
      have hadds := addsMatching_withCommand hfound rfl .submitOrder (toString orderId ++ ":submit")
      exact hadds

lemma ModesMatch.step {s s' : Server} {a : Action} (hs : ModesMatch s) (hok : CancelsMatch s a)
    (hstep : ServerStep s a s') : ModesMatch s' := by
  have hextends := hstep.extends
  have hadds := hstep.addsMatching hs hok
  refine ⟨hstep.nodup_ids hs.ids, fun r' hr' => ?_, fun t ht => ?_⟩
  · rcases hadds r' hr' with ⟨r, hr, hclaimed⟩ | hmatches
    · rw [hclaimed]
      exact (hs.commands r hr).extends hextends
    · exact hmatches
  · cases hstep with
    | tick | enqueueCancel | request =>
      exact ⟨(hs.tasks t ht).1.extends hextends, (hs.tasks t ht).2⟩
    | claim limit locked =>
      rcases List.mem_append.mp ht with ht | ht
      · exact ⟨(hs.tasks t ht).1.extends hextends, (hs.tasks t ht).2⟩
      · obtain ⟨cmd, hcmd, rfl⟩ := List.mem_map.mp ht
        obtain ⟨r, hr, rfl⟩ := List.mem_map.mp hcmd
        exact ⟨(hs.commands r (List.mem_of_mem_filter hr)).extends hextends, trivial⟩
    | crash hi =>
      have ht := (List.eraseIdx_sublist ..).subset ht
      exact ⟨(hs.tasks t ht).1.extends hextends, (hs.tasks t ht).2⟩
    | @advance i supervisor task next db' htask hworker =>
      have hmem : task ∈ s.tasks := List.mem_of_getElem? htask
      rcases mem_updateTask htask ht with ht | ⟨stage, hstage, rfl⟩
      · exact ⟨(hs.tasks t ht).1.extends hextends, (hs.tasks t ht).2⟩
      · exact ⟨(hs.tasks task hmem).1.extends hextends,
          hworker.namesOrder (hs.tasks task hmem).2 hstage⟩

end

end Confluence
