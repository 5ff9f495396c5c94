import Confluence.Properties.MarketPrice
import Confluence.Server.Attendance

/-!
# Attended orders on paper

A paper reconciliation that finds no fill changes nothing and counts as delivered, with no command to
follow. As long as every book that is consulted touches its order, every open order keeps a command
that will process it again.
-/

namespace Confluence

/-- Where the next step of the task is to reconcile an open order that is not to be cancelled, the
book of that instant touches it. -/
def Task.Touched (md : MarketDataProvider) (now : Instant) (t : Task) : Prop :=
  match t.stage with
  | .hydrated _ snapshot =>
    t.cmd.commandType = .reconcileOrder → snapshot.order.status.isTerminal = true ∨
      snapshot.order.status = .cancelRequested ∨ md.touches now snapshot.order = true
  | _ => True

instance (md : MarketDataProvider) (now : Instant) (t : Task) : Decidable (t.Touched md now) := by
  unfold Task.Touched
  split <;> infer_instance

/-- The only requests are orders, and workers trade on paper, with books that touch the orders that
they reconcile. -/
def TradesTouched (s : Server) : Action → Prop
  | .request _ _ (.placeOrder _ _) => True
  | .request _ _ _ => False
  | .advance i supervisor => ∃ md now,
    supervisor = { paperAdapter := some (paperAdapter md now), liveAdapter := none } ∧
      ∀ t ∈ s.tasks[i]?, t.Touched md now
  | _ => True

/-- No orders, commands or workers yet. -/
structure Unused (s : Server) : Prop where
  orders : s.db.orders = []
  commands : s.db.exchangeCommands = []
  fills : s.db.orderFills = []
  positions : PositionsValid s.db.positions
  tasks : s.tasks = []

/-- Every order is attended, and every worker brings its order further. -/
structure Attending (opening : Uuid → String → Decimal) (s : Server) : Prop where
  agree : TasksAgree s
  balanced : s.db.Balanced opening
  attended : s.db.Attended
  claimed : ∀ t ∈ s.tasks, ∃ r ∈ s.db.exchangeCommands, r.claimed = t.cmd
  progress : ∀ t ∈ s.tasks, t.Progresses s.db

lemma TradesTouched.sound {s : Server} {i : ℕ} {supervisor : Supervisor}
    (h : TradesTouched s (.advance i supervisor)) : supervisor.Sound := by
  obtain ⟨md, now, rfl, -⟩ := h
  exact Supervisor.IsPaper.sound ⟨md, now, rfl⟩

section

variable {db db' : Db} {cmd : ClaimedCommand} {orderId : Uuid} {o : OrderRecord}
  {opening : Uuid → String → Decimal}

/-! ### The transactions of workers -/

/-- A submission moves a pending order on, and finds any other one further on. -/
lemma keepsAttended_submitted (h : db.Attended) (hb : db.Balanced opening)
    (ho : db.order? cmd.accountId orderId = some o) {db₁ : Db}
    (hmove : db.MovedIfLegal o .submitted db₁) :
    db.KeepsAttended (db₁.withCommand cmd.accountId .reconcileOrder cmd.exchangeMode
        (toString orderId ++ ":reconcile:initial") (orderPayload orderId)) ∧
      ∃ o', db₁.order? cmd.accountId orderId = some o' ∧ o'.status ≠ .pending := by
  obtain ⟨hmem, rfl, hacc⟩ := Db.mem_of_order? ho
  rw [← hacc] at ho ⊢
  unfold Db.MovedIfLegal at hmove
  by_cases hlegal : OrderStateMachine.legal o.status .submitted = true
  · rw [if_pos hlegal] at hmove
    obtain ⟨q, hq, -, -, rfl⟩ := hmove
    obtain rfl := Numeric.eq_of_store (hb.isScaled_filled hmem) hq
    have hpending : o.status = .pending := by
      cases hstatus : o.status <;> rw [hstatus] at hlegal <;> first | rfl | cases hlegal
    have hleads : o.status.Leads .submitted := by
      rw [hpending]
      exact .submitted
    have hfound := order?_withStatus_self ho .submitted o.filledQuantity
    refine ⟨?_, _, hfound, by simp⟩
    refine h.enqueueReconcile hb.ids hmem (by rw [hpending]; rfl) hleads rfl cmd.exchangeMode ?_ ?_
    · -- a pending order has no such command yet
      rintro ⟨r, hr, hracc, hkey⟩
      obtain ⟨o', ho', hne⟩ := (h.keys r hr).initial o.id hkey
      rw [hracc, ho] at ho'
      obtain rfl := Option.some.inj ho'
      exact hne hpending
    · exact .of_key rfl (by simp) (fun _ => ⟨_, hfound, by simp⟩) (by simp)
  · rw [if_neg hlegal] at hmove
    have hne : o.status ≠ .pending := by
      intro hpending
      rw [hpending] at hlegal
      exact hlegal rfl
    rw [hmove]
    refine ⟨?_, o, ho, hne⟩
    apply h.withCommand
    exact .of_key rfl (by simp) (fun _ => ⟨o, ho, hne⟩) (by simp)

/-- An open order that is not to be cancelled yet can be. -/
lemma legal_cancelRequested {status : OrderStatus} :
    OrderStateMachine.legal status .cancelRequested = true ↔
      ¬ (status = .cancelRequested ∨ status.isTerminal = true) := by
  cases status <;> decide

/-- A cancellation moves an open order on, and finds any other one further on. -/
lemma keepsAttended_cancelled (h : db.Attended) (hb : db.Balanced opening)
    (ho : db.order? cmd.accountId orderId = some o) {db₁ : Db}
    (hmove : db.MovedIfLegal o .cancelRequested db₁) :
    db.KeepsAttended (db₁.withCommand cmd.accountId .reconcileOrder cmd.exchangeMode
      (toString orderId ++ ":reconcile:post-cancel") (orderPayload orderId)) := by
  obtain ⟨hmem, rfl, hacc⟩ := Db.mem_of_order? ho
  rw [← hacc] at ho ⊢
  unfold Db.MovedIfLegal at hmove
  by_cases hlegal : OrderStateMachine.legal o.status .cancelRequested = true
  · rw [if_pos hlegal] at hmove
    obtain ⟨q, hq, -, -, rfl⟩ := hmove
    obtain rfl := Numeric.eq_of_store (hb.isScaled_filled hmem) hq
    rw [legal_cancelRequested, not_or] at hlegal
    have hopen : o.status.isTerminal = false := by simpa using hlegal.2
    have hfound := order?_withStatus_self ho .cancelRequested o.filledQuantity
    refine h.enqueueReconcile hb.ids hmem hopen (.cancelRequested hopen) rfl cmd.exchangeMode ?_ ?_
    · -- an order that is not to be cancelled yet has no such command
      rintro ⟨r, hr, hracc, hkey⟩
      obtain ⟨o', ho', hcancel⟩ := (h.keys r hr).postCancel o.id hkey
      rw [hracc, ho] at ho'
      obtain rfl := Option.some.inj ho'
      exact not_or.mpr hlegal hcancel
    · exact .of_key rfl (by simp) (by simp) (fun _ => ⟨_, hfound, .inl rfl⟩)
  · rw [if_neg hlegal] at hmove
    rw [legal_cancelRequested, not_not] at hlegal
    rw [hmove]
    apply h.withCommand
    exact .of_key rfl (by simp) (by simp) (fun _ => ⟨o, ho, hlegal⟩)

/-- What a reconciliation persists closes the order, unless it is closed. -/
lemma keepsAttended_persisted (h : db.Attended) (hb : db.Balanced opening) {accountId : Uuid}
    (ho : db.order? accountId orderId = some o) {result : ReconcileResult}
    (hclosed : o.status.isTerminal = true ∨
      ∃ status : OrderStatus, status.isTerminal = true ∧ result.newStatus = some status)
    (hpersisted : Persisted db o result db') :
    db.KeepsAttended db' ∧
      ∃ o', db'.order? accountId orderId = some o' ∧ o'.status.isTerminal = true := by
  obtain ⟨hmem, rfl, rfl⟩ := Db.mem_of_order? ho
  have hopen {status : OrderStatus} (hlegal : OrderStateMachine.legal o.status status = true) :
      o.status.isTerminal = false := by
    by_contra hterminal
    rw [OrderStateMachine.not_legal_of_isTerminal (by simpa using hterminal)] at hlegal
    cases hlegal
  cases hpersisted with
  | unchanged =>
    refine ⟨h.congr rfl rfl, o, ho, ?_⟩
    rcases hclosed with hclosed | ⟨status, -, hnone⟩
    · exact hclosed
    · cases hnone
  | @moved status events q riskEvents hlegal =>
    have hterminal : status.isTerminal = true := by
      rcases hclosed with hclosed | ⟨status', hterminal, hsome⟩
      · rw [hopen hlegal] at hclosed
        cases hclosed
      · rw [Option.some.inj hsome]
        exact hterminal
    refine ⟨(h.close hb.ids hmem (hopen hlegal) hterminal q).congr rfl rfl, _,
      order?_withStatus_self ho status q, hterminal⟩
  | @filled status fill stored events q positions riskEvents hlegal =>
    have hterminal : status.isTerminal = true := by
      rcases hclosed with hclosed | ⟨status', hterminal, hsome⟩
      · rw [hopen hlegal] at hclosed
        cases hclosed
      · rw [Option.some.inj hsome]
        exact hterminal
    refine ⟨(h.close hb.ids hmem (hopen hlegal) hterminal q).congr rfl rfl, _,
      order?_withStatus_self ho status q, hterminal⟩

/-! ### The steps of workers -/

/-- A paper adapter brings the order of the task further. -/
lemma progresses_called {md : MarketDataProvider} {now : Instant} {t : Task}
    {snapshot : ReconcileSnapshot} (hstage : t.stage = .hydrated orderId snapshot)
    (hprogress : t.Progresses db) (htouched : t.Touched md now) :
    Task.Progresses db { t with stage := callAdapter t.cmd (paperAdapter md now) orderId snapshot } := by
  unfold Task.Progresses at hprogress
  unfold Task.Touched at htouched
  rw [hstage] at hprogress htouched
  obtain ⟨hid, hunfilled⟩ := hprogress
  unfold callAdapter
  cases htype : t.cmd.commandType with
  | submitOrder => exact hid
  | cancelOrder => exact hid
  | unknown name =>
    intro h
    cases h
  | reconcileOrder =>
    obtain ⟨result, hresult⟩ := PaperAdapter.reconcileOrder_isOk md now snapshot
    have hcall : (paperAdapter md now).reconcileOrder snapshot = .ok result := hresult
    simp only [hcall]
    exact ⟨hid, htype, PaperAdapter.closes hresult hunfilled (htouched htype)⟩

/-- A command that succeeded is one that its order does not need any more. -/
lemma passed_of_dispatched {t : Task} {r : CommandRecord} (hids : (db.orders.map (·.id)).Nodup)
    (hstage : t.stage = .dispatched (.ok ())) (hprogress : t.Progresses db)
    (hclaimed : r.claimed = t.cmd) {o : OrderRecord} (ho : o ∈ db.orders) (hrefers : r.RefersTo o) :
    o.Passed r.commandType := by
  unfold Task.Progresses at hprogress
  rw [hstage] at hprogress
  obtain ⟨i, o', hid, ho', hpassed⟩ := hprogress
  obtain ⟨hacc, horder⟩ := hrefers
  rw [hclaimed, hid] at horder
  rw [← hclaimed, Option.some.inj horder] at ho'
  have hsame : db.order? r.accountId o.id = some o := by
    rw [hacc]
    exact Db.order?_of_mem hids ho
  obtain rfl : o = o' := Option.some.inj (hsame.symm.trans ho')
  rw [← hclaimed] at hpassed
  exact hpassed

/-- The status of a live command changes to another live one. -/
lemma Db.Attended.liven (h : db.Attended) {p : CommandRecord → Bool}
    {f : CommandRecord → CommandRecord} (hclaimed : ∀ r, (f r).claimed = r.claimed)
    (hkey : ∀ r, (f r).idempotencyKey = r.idempotencyKey)
    (hlive : ∀ r, (f r).status.isLive = true) :
    db.KeepsAttended { db with exchangeCommands := updateWhere p f db.exchangeCommands } :=
  h.updateCommands hclaimed hkey fun r _ _ => .inl (hlive r)

lemma WorkerStep.keepsAttended {md : MarketDataProvider} {now : Instant} {s : Server} {t : Task}
    {next : Option Stage}
    (h : WorkerStep { paperAdapter := some (paperAdapter md now), liveAdapter := none } t.cmd s.db
      t.stage next db')
    (hs : Attending opening s) (ht : t ∈ s.tasks) (htouched : t.Touched md now) :
    s.db.KeepsAttended db' ∧
      ∀ stage, next = some stage → Task.Progresses db' { t with stage } := by
  have hprogress := hs.progress t ht
  have hagree := hs.agree t ht
  have hids := hs.balanced.ids
  obtain ⟨cmd, lease, stage⟩ := t
  cases h with
  | noAdapter =>
    refine ⟨hs.attended.liven (fun _ => rfl) (fun _ => rfl) (fun _ => rfl), ?_⟩
    rintro _ ⟨⟩
    trivial
  | notHydrated =>
    refine ⟨hs.attended.congr rfl rfl, ?_⟩
    rintro _ ⟨⟩ hrejected
    cases hrejected
  | @hydrated orderId o _ horder _ ho =>
    refine ⟨hs.attended.congr rfl rfl, ?_⟩
    rintro _ ⟨⟩
    obtain ⟨hmem, -, -⟩ := Db.mem_of_order? ho
    refine ⟨horder, fun hopen => ?_⟩
    rw [filled_reconcileSnapshot hs.balanced hmem]
    have hopen : o.status.isTerminal = false := hopen
    exact ((hs.attended.orders o hmem).resolve_left (by simp [hopen])).1
  | @called adapter orderId snapshot hadapter =>
    refine ⟨hs.attended.congr rfl rfl, ?_⟩
    rintro _ ⟨⟩
    cases hmode : cmd.exchangeMode with
    | paper =>
      rw [hmode] at hadapter
      obtain rfl := Option.some.inj hadapter
      exact progresses_called rfl hprogress htouched
    | live =>
      rw [hmode] at hadapter
      cases hadapter
  | @submitted orderId o db₁ htype ho hmove =>
    obtain ⟨hkeeps, o', ho', hne⟩ := keepsAttended_submitted hs.attended hs.balanced ho hmove
    refine ⟨hkeeps, ?_⟩
    rintro _ ⟨⟩
    refine ⟨orderId, o', hprogress, ho', ?_⟩
    rw [htype]
    exact hne
  | @cancelled orderId o db₁ riskEvents htype ho hmove =>
    have hkeeps := keepsAttended_cancelled hs.attended hs.balanced ho hmove
    refine ⟨hkeeps.congr rfl rfl, ?_⟩
    rintro _ ⟨⟩
    obtain ⟨o', ho', -⟩ := hkeeps.leads _ _ _ ho
    refine ⟨orderId, o', hprogress, ho', ?_⟩
    rw [htype]
    trivial
  | notAccepted hrejected =>
    refine ⟨hs.attended.congr rfl rfl, ?_⟩
    rintro _ ⟨⟩
    exact hrejected
  | @persisted orderId snapshot result db' hcommit =>
    obtain ⟨hsnapshot, hresult⟩ := hagree
    obtain ⟨hid, htype, hclosed⟩ := hprogress
    obtain ⟨o, ho, -, hstatus, hpersisted⟩ := persisted_of_commits hsnapshot hresult hcommit
    rw [← hstatus] at hclosed
    obtain ⟨hkeeps, o', ho', hterminal⟩ :=
      keepsAttended_persisted hs.attended hs.balanced ho hclosed hpersisted
    refine ⟨hkeeps, ?_⟩
    rintro _ ⟨⟩
    refine ⟨orderId, o', hid, ho', ?_⟩
    rw [htype]
    exact hterminal
  | @notPersisted orderId snapshot result outcome herror hrejected =>
    refine ⟨hs.attended.congr rfl rfl, ?_⟩
    rintro _ ⟨⟩
    obtain ⟨-, hresult⟩ := hagree
    obtain ⟨e, rfl⟩ := herror fun event hevent => mem_riskEventTypes (hresult.events_mem event hevent)
    exact hrejected e rfl
  | delivered =>
    refine ⟨hs.attended.updateCommands (fun _ => rfl) (fun _ => rfl) ?_, by simp⟩
    intro r hr hrow
    obtain ⟨r', hr', hclaimed⟩ := hs.claimed _ ht
    have hsame : r.id = r'.id := (of_decide_eq_true hrow).trans
      (congrArg ClaimedCommand.id hclaimed).symm
    obtain rfl := List.inj_on_of_nodup_map hs.attended.ids hr hr' hsame
    exact .inr fun o ho hrefers => passed_of_dispatched hids rfl hprogress hclaimed ho hrefers
  | requeued =>
    exact ⟨hs.attended.liven (fun _ => rfl) (fun _ => rfl) (fun _ => rfl), by simp⟩
  | permanentlyRejected => exact (hprogress rfl).elim
  | reconciliationRequired =>
    refine ⟨hs.attended.liven (fun _ => rfl) (fun _ => rfl) (fun _ => rfl), ?_⟩
    rintro _ ⟨⟩
    trivial
  | rejected => exact hprogress.elim
  | audited =>
    exact ⟨hs.attended.congr rfl rfl, by simp⟩

/-! ### Every run -/

lemma attending_of_unused {s : Server} (h : Unused s) : Attending s.db.signedOpen s where
  agree := by
    intro t ht
    rw [h.tasks] at ht
    cases ht
  balanced := by
    apply Unfilled.balanced
    exact ⟨by simp [h.orders], by simp [h.orders], by simp [h.orders], h.positions, h.fills, h.tasks⟩
  attended := ⟨by simp [h.commands], by simp [h.orders], by simp [h.commands]⟩
  claimed := by simp [h.tasks]
  progress := by simp [h.tasks]

/-- After a write, the workers that go on do so from where they are. -/
lemma Attending.of_keeps {s s' : Server} (hs : Attending opening s) (hagree : TasksAgree s')
    (hbalanced : s'.db.Balanced opening) (hkeeps : s.db.KeepsAttended s'.db)
    (htasks : ∀ t ∈ s'.tasks, (∃ t' ∈ s.tasks, t.cmd = t'.cmd ∧
      (t = t' ∨ t.Progresses s'.db)) ∨
        ((∃ r ∈ s.db.exchangeCommands, r.claimed = t.cmd) ∧ t.stage = .claimed)) :
    Attending opening s' := by
  refine ⟨hagree, hbalanced, hkeeps.attended, ?_, ?_⟩
  · intro t ht
    have hbefore : ∃ r ∈ s.db.exchangeCommands, r.claimed = t.cmd := by
      rcases htasks t ht with ⟨t', ht', hcmd, -⟩ | ⟨hclaimed, -⟩
      · rw [hcmd]
        exact hs.claimed t' ht'
      · exact hclaimed
    obtain ⟨r, hr, hcmd⟩ := hbefore
    obtain ⟨r', hr', hsame⟩ := hkeeps.claimed r hr
    exact ⟨r', hr', hsame.trans hcmd⟩
  · intro t ht
    rcases htasks t ht with ⟨t', ht', -, rfl | hprogress⟩ | ⟨-, hstage⟩
    · exact (hs.progress t ht').leads hkeeps.leads
    · exact hprogress
    · unfold Task.Progresses
      rw [hstage]
      trivial

lemma Attending.step {s s' : Server} {a : Action} (hs : Attending opening s)
    (hok : TradesTouched s a) (hstep : ServerStep s a s') : Attending opening s' := by
  have hagree : TasksAgree s' := by
    apply hs.agree.step _ hstep
    rintro i supervisor rfl
    exact hok.sound
  have hbalanced := hstep.balanced hs.agree hs.balanced
  cases hstep with
  | tick seconds =>
    refine hs.of_keeps hagree hbalanced (hs.attended.congr rfl rfl) ?_
    exact fun t ht => .inl ⟨t, ht, rfl, .inl rfl⟩
  | enqueueCancel accountId orderId mode tag =>
    have hkeeps : s.db.KeepsAttended (s.db.withCommand accountId .cancelOrder mode
        (toString orderId ++ ":cancel:" ++ tag) (orderPayload orderId)) := by
      apply hs.attended.withCommand
      have hsuffix {k : String} (hk : k.toList[1]? ≠ some 'c') : ":cancel:" ++ tag ≠ k := by
        rintro rfl
        exact hk (by simp)
      refine .of_key (String.append_assoc ..) (fun h => ?_) (fun h => ?_) (fun h => ?_)
      · exact (hsuffix (by decide) h).elim
      · exact (hsuffix (by decide) h).elim
      · exact (hsuffix (by decide) h).elim
    refine hs.of_keeps hagree hbalanced hkeeps ?_
    exact fun t ht => .inl ⟨t, ht, rfl, .inl rfl⟩
  | claim limit locked =>
    have hkeeps := hs.attended.liven
      (p := fun r => (s.db.claimCandidates limit locked).contains r.id)
      (f := fun r => { r with status := .leased, leasedUntil := some (s.db.now + leaseSeconds) })
      (fun _ => rfl) (fun _ => rfl) (fun _ => rfl)
    refine hs.of_keeps hagree hbalanced hkeeps fun t ht => ?_
    rcases List.mem_append.mp ht with ht | ht
    · exact .inl ⟨t, ht, rfl, .inl rfl⟩
    · obtain ⟨cmd, hcmd, rfl⟩ := List.mem_map.mp ht
      obtain ⟨r, hr, rfl⟩ := List.mem_map.mp hcmd
      exact .inr ⟨⟨r, List.mem_of_mem_filter hr, rfl⟩, rfl⟩
  | crash hi =>
    refine hs.of_keeps hagree hbalanced (hs.attended.congr rfl rfl) ?_
    exact fun t ht => .inl ⟨t, (List.eraseIdx_sublist ..).subset ht, rfl, .inl rfl⟩
  | @advance i supervisor task next db' htask hworker =>
    obtain ⟨md, now, rfl, htouched⟩ := hok
    have hmem : task ∈ s.tasks := List.mem_of_getElem? htask
    obtain ⟨hkeeps, hnext⟩ := hworker.keepsAttended hs hmem (htouched task (by simp [htask]))
    refine hs.of_keeps hagree hbalanced hkeeps fun t ht => ?_
    rcases mem_updateTask htask ht with ht | ⟨stage, hstage, rfl⟩
    · exact .inl ⟨t, ht, rfl, .inl rfl⟩
    · exact .inl ⟨task, hmem, rfl, .inr (hnext stage hstage)⟩
  | @request env accountId r db' hrequest =>
    have hkeeps : s.db.KeepsAttended db' := by
      cases hrequest with
      | audited => exact hs.attended.congr rfl rfl
      | riskState => exact hs.attended.congr rfl rfl
      | configured => exact hs.attended.congr rfl rfl
      | @placed orderId body q p happroved hq hp hpos hid hclient =>
        have hplaced := hs.attended.place (o := newOrder orderId accountId orderId.simple body.symbol
          body.side body.orderType q p (s.db.exchangeMode accountId)) hid rfl hpos
          (s.db.exchangeMode accountId)
        exact hplaced.congr rfl rfl
    refine hs.of_keeps hagree hbalanced hkeeps ?_
    exact fun t ht => .inl ⟨t, ht, rfl, .inl rfl⟩

/-- In the runs in which books touch the orders that are reconciled against them, every open order has
a command that is still to be processed. -/
theorem open_orders_attended {s : Server} (h : (server Unused).Reachable TradesTouched s) :
    ∀ o ∈ s.db.orders, o.status.isTerminal = false →
      ∃ r ∈ s.db.exchangeCommands, r.RefersTo o ∧ r.status.isLive = true := by
  obtain ⟨s₀, as, hinit, hrun⟩ := h
  have hkeep (s : Server) (a : Action) (s' : Server) (hs : Attending s₀.db.signedOpen s)
      (hok : TradesTouched s a) (hstep : (server Unused).step s a = some s') :
      Attending s₀.db.signedOpen s' :=
    hs.step hok (serverStep_of_step hstep)
  have hs := hrun.preserves hkeep (attending_of_unused hinit)
  intro o ho hopen
  obtain ⟨-, r, hr, hrefers, -, hlive⟩ :=
    (hs.attended.orders o ho).resolve_left (by simp [hopen])
  exact ⟨r, hr, hrefers, hlive⟩

end

/-! ### An order that the book does not touch -/

/-- Equity of 10000, so that an order of one unit at 100 is within the limits. -/
def unusedOne : Server :=
  { db := { equity1000 with accounts := [⟨⟨1⟩, .active, 10000, none⟩] }, tasks := [] }

/-- The order, and a worker that takes the oldest command from its claim to its delivery, twice. -/
def orderAndReconcile (body : PlaceOrderRequest) : List Action :=
  [.request quotedAt100 ⟨1⟩ (.placeOrder ⟨2⟩ body),
    .claim 1 [], .advance 0 paperAt100, .advance 0 paperAt100, .advance 0 paperAt100,
    .advance 0 paperAt100,
    .claim 1 [], .advance 0 paperAt100, .advance 0 paperAt100, .advance 0 paperAt100,
    .advance 0 paperAt100]

/-- The book at 100 touches the order of the task that moves on. -/
def TouchedAt100 (s : Server) : Action → Prop
  | .advance i _ => ∀ t ∈ s.tasks[i]?, t.Touched quotedAt100.marketData 0
  | _ => True

instance (s : Server) (a : Action) : Decidable (TouchedAt100 s a) :=
  match a with
  | .advance i _ =>
    inferInstanceAs (Decidable (∀ t ∈ s.tasks[i]?, t.Touched quotedAt100.marketData 0))
  | .tick _ | .request _ _ _ | .enqueueCancel _ _ _ _ | .claim _ _ | .crash _ => isTrue trivial

/-- Paper trading at 100, without crashes. -/
def TradesAt100 : Action → Prop
  | .request _ _ (.placeOrder _ _) => True
  | .request _ _ _ => False
  | .advance _ supervisor => supervisor = paperAt100
  | .crash _ => False
  | _ => True

lemma tradesTouched_of_touchedAt100 {s : Server} {a : Action} (h : TradesAt100 a ∧ TouchedAt100 s a) :
    TradesTouched s a := by
  obtain ⟨htrades, htouched⟩ := h
  cases a with
  | advance i supervisor => exact ⟨_, _, htrades, htouched⟩
  | request env accountId r =>
    cases r with
    | placeOrder orderId body => trivial
    | _ => exact htrades.elim
  | _ => trivial

lemma tradesAt100_orderAndReconcile (body : PlaceOrderRequest) :
    ∀ a ∈ orderAndReconcile body, TradesAt100 a := by
  simp [orderAndReconcile, TradesAt100]

lemma unused_unusedOne : Unused unusedOne where
  orders := rfl
  commands := rfl
  fills := rfl
  positions := ⟨List.nodup_nil, by simp [unusedOne, equity1000, Db.empty],
    by simp [unusedOne, equity1000, Db.empty], by simp [unusedOne, equity1000, Db.empty]⟩
  tasks := rfl

/-- A submitted order of one unit that awaits its reconciliation. -/
theorem open_orders_attended_unusedOne :
    ∃ s, (server Unused).Reachable TradesTouched s ∧
      (∃ o ∈ s.db.orders, o.status = .submitted) ∧
      ∀ o ∈ s.db.orders, o.status.isTerminal = false →
        ∃ r ∈ s.db.exchangeCommands, r.RefersTo o ∧ r.status.isLive = true := by
  have hexec : ((server Unused).exec TouchedAt100 unusedOne
      ((orderAndReconcile { buyTen with quantity := 1 }).take 9)).any
        (fun s => s.db.orders.any fun o => decide (o.status = .submitted)) = true := by
    decide +kernel
  obtain ⟨s, hrun, hs⟩ := Machine.exists_run_of_exec hexec
  have htrades := hrun.of_actions fun a ha =>
    tradesAt100_orderAndReconcile _ a (List.mem_of_mem_take ha)
  have hreach : (server Unused).Reachable TradesTouched s :=
    ⟨unusedOne, _, unused_unusedOne, htrades.mono fun _ _ => tradesTouched_of_touchedAt100⟩
  obtain ⟨o, ho, hstatus⟩ := List.any_eq_true.mp hs
  exact ⟨s, hreach, ⟨o, ho, of_decide_eq_true hstatus⟩, open_orders_attended hreach⟩

/-- A limit order below the book is reconciled once, without a fill, and never again. -/
theorem open_order_not_attended :
    ¬ ∀ s, (server Unused).Reachable (fun _ a => TradesOnPaper a ∧ ∀ i, a ≠ .crash i) s →
      ∀ o ∈ s.db.orders, o.status.isTerminal = false →
        ∃ r ∈ s.db.exchangeCommands, r.RefersTo o ∧ r.status.isLive = true := by
  intro h
  have hexec : ((server Unused).exec (fun _ _ => True) unusedOne
      (orderAndReconcile { buyTen with orderType := .limit, quantity := 1, price := some 90 })).any
        (fun s => (s.db.orders.any fun o => !o.status.isTerminal) &&
          s.db.exchangeCommands.all fun r => !r.status.isLive) = true := by
    decide +kernel
  obtain ⟨s, hrun, hs⟩ := Machine.exists_run_of_exec hexec
  have hpaper (a : Action) (ha : TradesAt100 a) : TradesOnPaper a ∧ ∀ i, a ≠ .crash i := by
    cases a with
    | advance i supervisor => exact ⟨⟨_, _, ha⟩, by simp⟩
    | request env accountId r =>
      cases r with
      | placeOrder orderId body => exact ⟨trivial, by simp⟩
      | _ => exact ha.elim
    | crash i => exact ha.elim
    | _ => exact ⟨trivial, by simp⟩
  have hreach : (server Unused).Reachable (fun _ a => TradesOnPaper a ∧ ∀ i, a ≠ .crash i) s :=
    ⟨unusedOne, _, unused_unusedOne, (hrun.of_actions (tradesAt100_orderAndReconcile _)).mono
      fun _ a ha => hpaper a ha.1⟩
  rw [Bool.and_eq_true] at hs
  obtain ⟨o, ho, hopen⟩ := List.any_eq_true.mp hs.1
  obtain ⟨r, hr, -, hlive⟩ := h s hreach o ho (by simpa using hopen)
  have hsettled := List.all_eq_true.mp hs.2 r hr
  rw [hlive] at hsettled
  cases hsettled

end Confluence
