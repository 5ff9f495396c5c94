import Confluence.Properties.ClosedOrders
import Confluence.Properties.OrderVenues

/-!
# Cancelled paper orders

Once a paper order is to be cancelled it fills no more: a pass that computed a fill before finds the
order changed, and every pass after that finds it to be cancelled.
-/

namespace Confluence

/-- Filled quantities are numbers that their column holds. -/
def Db.FilledFits (db : Db) : Prop := ∀ o ∈ db.orders, Numeric.Fits 30 10 o.filledQuantity

/-- What the worker of a paper order is to persist, the paper adapter has returned. -/
def Task.OnPaper (t : Task) : Prop :=
  match t.stage with
  | .reconciled _ snapshot result =>
    t.cmd.exchangeMode = .paper →
      ∃ md now, PaperAdapter.reconcileOrder md now snapshot = .ok result
  | _ => True

/-- Tables that satisfy the schema, with commands that match their orders, and no worker yet. -/
structure Booked (s : Server) : Prop extends CommandsMatch s where
  filled : s.db.FilledFits

/-- Workers use the two adapters, and cancellations match their orders. -/
def Trades (s : Server) (a : Action) : Prop := UsesAdapters a ∧ CancelsMatch s a

/-- What holds while the server trades. -/
structure Trading (s : Server) : Prop extends ModesMatch s where
  settle : TasksSettle s
  paper : ∀ t ∈ s.tasks, t.OnPaper
  filled : s.db.FilledFits

section

variable {db db' : Db} {t : Task} {next : Option Stage} {supervisor : Supervisor}
  {accountId orderId : Uuid} {o o' : OrderRecord} {status : OrderStatus}

/-! ### Filled quantities -/

lemma Db.FilledFits.withStatus (h : db.FilledFits) {q : Decimal} (hq : Numeric.Fits 30 10 q)
    (accountId orderId : Uuid) (status : OrderStatus) :
    (db.withStatus accountId orderId status q).FilledFits := by
  intro r' hr'
  obtain ⟨r, hr, rfl⟩ := mem_updateWhere.mp hr'
  split_ifs
  · exact hq
  · exact h r hr

lemma Db.MovedIfLegal.filledFits (h : db.MovedIfLegal o status db') (hdb : db.FilledFits) :
    db'.FilledFits := by
  unfold Db.MovedIfLegal at h
  by_cases hlegal : OrderStateMachine.legal o.status status = true
  · rw [if_pos hlegal] at h
    obtain ⟨q, hq, -, -, rfl⟩ := h
    exact hdb.withStatus (Numeric.fits_of_store hq) _ _ _
  · rw [if_neg hlegal] at h
    rw [h]
    exact hdb

lemma WorkerStep.filledFits {cmd : ClaimedCommand} {stage : Stage}
    (h : WorkerStep supervisor cmd db stage next db') (hdb : db.FilledFits) : db'.FilledFits := by
  cases h with
  | noAdapter | delivered | requeued | permanentlyRejected | reconciliationRequired | notHydrated
  | hydrated | called | notAccepted | notPersisted | audited => exact hdb
  | submitted htype ho hmove =>
    have hfits := hmove.filledFits hdb
    exact hfits
  | cancelled htype ho hmove =>
    have hfits := hmove.filledFits hdb
    exact hfits
  | @persisted orderId snapshot result db' hcommit =>
    obtain ⟨o, inserted, orderFills, positions, db₁, riskEvents, -, -, -, -, -, -, hstatus, rfl⟩ :=
      of_commits_persistReconcileResultTx hcommit
    cases hnew : result.newStatus with
    | none =>
      rw [hnew] at hstatus
      rw [show db₁ = _ from hstatus]
      exact hdb
    | some status =>
      rw [hnew] at hstatus
      obtain ⟨-, q, hq, -, -, rfl⟩ := hstatus
      have hwritten : Db.FilledFits { db with orderFills, positions } := hdb
      have hfits := hwritten.withStatus (Numeric.fits_of_store hq) o.accountId o.id status
      exact hfits
  | rejected h =>
    rcases h with rfl | ⟨o, -, hmove⟩
    · exact hdb
    · have hfits := hmove.filledFits hdb
      exact hfits

lemma ServerStep.filledFits {s s' : Server} {a : Action} (h : ServerStep s a s')
    (hdb : s.db.FilledFits) : s'.db.FilledFits := by
  cases h with
  | tick | enqueueCancel | claim | crash => exact hdb
  | advance htask hworker => exact hworker.filledFits hdb
  | request hrequest =>
    cases hrequest with
    | audited => exact hdb
    | riskState => exact hdb
    | configured => exact hdb
    | placed =>
      intro r hr
      rcases List.mem_append.mp hr with hr | hr
      · exact hdb r hr
      · rw [List.mem_singleton.mp hr]
        exact ⟨Numeric.isScaled_zero 10, by norm_num [newOrder]⟩

/-! ### Results of the paper adapter -/

/-- Nothing is left to do for a closed order, and an order to be cancelled is cancelled. -/
lemma PaperAdapter.of_reconcileOrder {md : MarketDataProvider} {now : Instant}
    {snapshot : ReconcileSnapshot} {result : ReconcileResult}
    (h : reconcileOrder md now snapshot = .ok result)
    (hstatus : snapshot.order.status = .cancelRequested ∨
      snapshot.order.status.isTerminal = true) :
    result.fillsToAdd = [] ∧ result.positionsDelta = [] ∧
      (snapshot.order.status = .cancelRequested → result.newStatus = some .cancelled) := by
  simp only [reconcileOrder] at h
  by_cases hterminal : snapshot.order.status.isTerminal = true
  · rw [if_pos hterminal] at h
    cases h
    refine ⟨rfl, rfl, fun hcancel => ?_⟩
    rw [hcancel] at hterminal
    cases hterminal
  · have hcancel := hstatus.resolve_right hterminal
    rw [if_neg hterminal, if_pos hcancel] at h
    cases h
    exact ⟨rfl, rfl, fun _ => rfl⟩

lemma WorkerStep.onPaper (h : WorkerStep supervisor t.cmd db t.stage next db')
    (hadapters : supervisor.UsesAdapters) {stage : Stage} (hnext : next = some stage) :
    Task.OnPaper { t with stage } := by
  obtain ⟨cmd, lease, before⟩ := t
  cases h with
  | @called adapter orderId snapshot hadapter =>
    obtain rfl := Option.some.inj hnext
    unfold callAdapter
    cases cmd.commandType with
    | submitOrder =>
      simp only
      cases adapter.submit snapshot.order <;> trivial
    | reconcileOrder =>
      simp only
      cases hresult : adapter.reconcileOrder snapshot with
      | ok result =>
        intro hpaper
        simp only at hadapter hpaper
        rw [hpaper] at hadapter
        obtain ⟨md, now, rfl⟩ := hadapters.1 adapter hadapter
        exact ⟨md, now, hresult⟩
      | error e => trivial
    | cancelOrder =>
      simp only
      cases adapter.cancel snapshot.order <;> trivial
    | unknown name => trivial
  | permanentlyRejected =>
    obtain ⟨orderId, -, rfl⟩ := Option.map_eq_some_iff.mp hnext
    trivial
  | delivered | requeued | rejected | audited => cases hnext
  | _ =>
    obtain rfl := Option.some.inj hnext
    trivial

lemma Trading.step {s s' : Server} {a : Action} (hs : Trading s) (hok : Trades s a)
    (hstep : ServerStep s a s') : Trading s' := by
  refine ⟨hs.toModesMatch.step hok.2 hstep, hs.settle.step hok.1 hstep, fun t ht => ?_,
    hstep.filledFits hs.filled⟩
  cases hstep with
  | tick | enqueueCancel | request => exact hs.paper t ht
  | claim limit locked =>
    rcases List.mem_append.mp ht with ht | ht
    · exact hs.paper t ht
    · obtain ⟨cmd, -, rfl⟩ := List.mem_map.mp ht
      trivial
  | crash hi => exact hs.paper t ((List.eraseIdx_sublist ..).subset ht)
  | advance htask hworker =>
    rcases mem_updateTask htask ht with ht | ⟨stage, hnext, rfl⟩
    · exact hs.paper t ht
    · exact hworker.onPaper hok.1 hnext

lemma trading_of_reachable {s : Server} (h : (server Booked).Reachable Trades s) : Trading s := by
  have hinit (s : Server) (hs : Booked s) : Trading s := by
    refine ⟨modesMatch_of_commandsMatch hs.toCommandsMatch, ?_, ?_, hs.filled⟩
    · exact fun t ht => by simp [hs.tasks] at ht
    · exact fun t ht => by simp [hs.tasks] at ht
  have hkeep (s : Server) (a : Action) (s' : Server) (hs : Trading s) (hok : Trades s a)
      (hstep : (server Booked).step s a = some s') : Trading s' :=
    hs.step hok (serverStep_of_step hstep)
  exact h.invariant hinit hkeep

/-! ### The order to be cancelled -/

/-- What the worker of a paper order is to persist was returned for the order in its snapshot. -/
lemma Trading.onPaper {s : Server} (hs : Trading s) (ht : t ∈ s.tasks) (ho : o ∈ s.db.orders)
    (hpaper : o.exchangeMode = .paper) {snapshot : ReconcileSnapshot} {result : ReconcileResult}
    (hstage : t.stage = .reconciled o.id snapshot result) :
    ∃ md now, PaperAdapter.reconcileOrder md now snapshot = .ok result := by
  obtain ⟨hmatches, hnames⟩ := hs.tasks t ht
  have honPaper := hs.paper t ht
  unfold Task.NamesOrder at hnames
  unfold Task.OnPaper at honPaper
  rw [hstage] at hnames honPaper
  have hmode := (hmatches.of_mem hs.ids ho hnames).2
  exact honPaper (hmode.trans hpaper)

/-- The order stays as it is, or it is cancelled. -/
lemma keeps_or_cancels {s s' : Server} {a : Action} (hs : Trading s) (hstep : ServerStep s a s')
    (ho : o ∈ s.db.orders) (hpaper : o.exchangeMode = .paper)
    (hcancel : o.status = .cancelRequested) :
    s.db.Keeps s'.db o ∨ { o with status := .cancelled } ∈ s'.db.orders ∧
      s'.db.fillRows o.id = s.db.fillRows o.id := by
  rcases hstep.orderFate hs.settle hs.ids ho with
    hkeeps | ⟨i, supervisor, t, -, htask, hkeeps | ⟨status, q, hlegal, hmem, hmoves⟩⟩
  · exact .inl hkeeps
  · exact .inl hkeeps
  · cases hmoves with
    | directly hstatus =>
      -- neither submission nor rejection nor another request moves the order
      rw [hcancel] at hlegal
      rcases hstatus with rfl | rfl | rfl <;> cases hlegal
    | @reconciled snapshot result hstage haccount hsame hstatus hnone =>
      obtain ⟨md, now, hresult⟩ := hs.onPaper (List.mem_of_getElem? htask) ho hpaper hstage
      have hsnapshot : snapshot.order.status = .cancelRequested := hsame.symm.trans hcancel
      obtain ⟨hfills, -, hnew⟩ := PaperAdapter.of_reconcileOrder hresult (.inl hsnapshot)
      obtain ⟨hq, hrows⟩ := hnone hfills
      obtain rfl : OrderStatus.cancelled = status :=
        Option.some.inj ((hnew hsnapshot).symm.trans hstatus)
      obtain rfl := Numeric.eq_of_store (hs.filled o ho).1 hq
      exact .inr ⟨hmem, hrows⟩

/-- No worker of the order moves the position. -/
lemma positions_kept {s s' : Server} {i : ℕ} (hs : Trading s)
    (hstep : ServerStep s (.advance i supervisor) s') (htask : s.tasks[i]? = some t)
    (ho : o ∈ s.db.orders) (hpaper : o.exchangeMode = .paper)
    (hcancel : o.status = .cancelRequested ∨ o.status.isTerminal = true)
    (hid : extractOrderId t.cmd = some o.id) : s'.db.positions = s.db.positions := by
  have hmem : t ∈ s.tasks := List.mem_of_getElem? htask
  obtain ⟨hmatches, hnames⟩ := hs.tasks t hmem
  have honPaper : ∀ snapshot result, t.stage = .reconciled o.id snapshot result →
      ∃ md now, PaperAdapter.reconcileOrder md now snapshot = .ok result :=
    fun _ _ => hs.onPaper hmem ho hpaper
  cases hstep with
  | @advance i supervisor t' next db' htask' hworker =>
    obtain rfl : t = t' := Option.some.inj (htask.symm.trans htask')
    obtain ⟨cmd, lease, stage⟩ := t
    cases hworker with
    | noAdapter | delivered | requeued | permanentlyRejected | reconciliationRequired
    | notHydrated | hydrated | called | notAccepted | notPersisted | audited => rfl
    | submitted htype ho' hmove =>
      obtain ⟨orders, rfl⟩ := hmove.frame
      rfl
    | cancelled htype ho' hmove =>
      obtain ⟨orders, rfl⟩ := hmove.frame
      rfl
    | @persisted orderId snapshot result db' hcommit =>
      obtain ⟨o', inserted, orderFills, positions, db₁, riskEvents, ho', -, hsame, -, -, hdeltas,
        hstatus, rfl⟩ := of_commits_persistReconcileResultTx hcommit
      have hnames : extractOrderId cmd = some orderId := hnames
      obtain rfl : o.id = orderId := Option.some.inj (hid.symm.trans hnames)
      obtain ⟨hmem', hid', -⟩ := Db.mem_of_order? ho'
      obtain rfl := List.inj_on_of_nodup_map hs.ids hmem' ho hid'
      obtain ⟨md, now, hresult⟩ := honPaper snapshot result rfl
      rw [hsame] at hcancel
      obtain ⟨-, hnone, -⟩ := PaperAdapter.of_reconcileOrder hresult hcancel
      rw [hnone] at hdeltas
      have hsamePositions := congrArg Db.positions (Engine.commits_pure.mp hdeltas).2
      obtain ⟨orders, rfl⟩ := hstatus.frame
      exact hsamePositions.symm
    | rejected h =>
      rcases h with rfl | ⟨o', -, hmove⟩
      · rfl
      · obtain ⟨orders, rfl⟩ := hmove.frame
        rfl

/-- A paper order that is to be cancelled keeps its filled quantity and its fills in every run, becomes
cancelled if anything, and none of its workers moves the position. -/
theorem cancel_requested_order_kept {s s' : Server} {as : List Action}
    (hreach : (server Booked).Reachable Trades s) (ho : o ∈ s.db.orders)
    (hpaper : o.exchangeMode = .paper) (hcancel : o.status = .cancelRequested)
    (hrun : (server Booked).Run Trades s as s') :
    (∃ o' ∈ s'.db.orders, (o' = o ∨ o' = { o with status := .cancelled }) ∧
      ∀ r ∈ s'.db.orders, r.id = o.id → r = o') ∧
    s'.db.fillRows o.id = s.db.fillRows o.id ∧
    ∀ i supervisor t s'', s'.tasks[i]? = some t → extractOrderId t.cmd = some o.id →
      (server Booked).step s' (.advance i supervisor) = some s'' →
      s''.db.positions = s'.db.positions := by
  have hkeep (s₁ : Server) (a : Action) (s₂ : Server)
      (h : Trading s₁ ∧ (∃ o' ∈ s₁.db.orders, o' = o ∨ o' = { o with status := .cancelled }) ∧
        s₁.db.fillRows o.id = s.db.fillRows o.id)
      (hok : Trades s₁ a) (hstep : (server Booked).step s₁ a = some s₂) :
      Trading s₂ ∧ (∃ o' ∈ s₂.db.orders, o' = o ∨ o' = { o with status := .cancelled }) ∧
        s₂.db.fillRows o.id = s.db.fillRows o.id := by
    obtain ⟨hs₁, ⟨o', hmem, ho'⟩, hrows⟩ := h
    have hstep := serverStep_of_step hstep
    refine ⟨hs₁.step hok hstep, ?_⟩
    rcases ho' with rfl | rfl
    · rcases keeps_or_cancels hs₁ hstep hmem hpaper hcancel with ⟨hmem', hrows'⟩ | ⟨hmem', hrows'⟩
      · exact ⟨⟨_, hmem', .inl rfl⟩, hrows'.trans hrows⟩
      · exact ⟨⟨_, hmem', .inr rfl⟩, hrows'.trans hrows⟩
    · obtain ⟨hmem', hrows'⟩ := keeps_of_isTerminal ⟨hs₁.ids, hs₁.settle⟩ hstep hmem rfl
      exact ⟨⟨_, hmem', .inr rfl⟩, hrows'.trans hrows⟩
  obtain ⟨hs', ⟨o', hmem, ho'⟩, hrows⟩ :=
    hrun.preserves hkeep ⟨trading_of_reachable hreach, ⟨o, ho, .inl rfl⟩, rfl⟩
  have hid : o'.id = o.id := by rcases ho' with rfl | rfl <;> rfl
  have hmode : o'.exchangeMode = .paper := by rcases ho' with rfl | rfl <;> exact hpaper
  have hstatus : o'.status = .cancelRequested ∨ o'.status.isTerminal = true := by
    rcases ho' with rfl | rfl
    · exact .inl hcancel
    · exact .inr rfl
  refine ⟨⟨o', hmem, ho', fun r hr hr' => ?_⟩, hrows, ?_⟩
  · exact List.inj_on_of_nodup_map hs'.ids hr hmem (hr'.trans hid.symm)
  · intro i supervisor t s'' htask hnames hstep
    rw [← hid] at hnames
    exact positions_kept hs' (serverStep_of_step hstep) htask hmem hmode hstatus hnames

end

/-! ### A fill that comes too late -/

/-- One worker computes a fill of the submitted order, and then another cancels the order. -/
def cancelBeforeFill : List Action :=
  (orderAndReconcile { buyTen with quantity := 1 }).take 6 ++
    [.enqueueCancel ⟨1⟩ ⟨2⟩ .paper "1", .claim 1 [], .advance 0 paperAt100, .advance 0 paperAt100,
      .claim 1 [], .advance 1 paperAt100, .advance 1 paperAt100, .advance 1 paperAt100]

lemma usesAdapters_cancelBeforeFill : ∀ a ∈ cancelBeforeFill, UsesAdapters a := by
  simp [cancelBeforeFill, orderAndReconcile, UsesAdapters, usesAdapters_paperAt100]

/-- The fill is not recorded any more. -/
theorem cancel_requested_order_kept_beforeFill :
    ∃ s s' o, (server Booked).Reachable Trades s ∧ o ∈ s.db.orders ∧ o.status = .cancelRequested ∧
      (server Booked).Run Trades s [.advance 0 paperAt100, .advance 0 paperAt100] s' ∧
      (∃ o' ∈ s'.db.orders, o' = o ∨ o' = { o with status := .cancelled }) ∧
      s'.db.fillRows o.id = s.db.fillRows o.id := by
  have hexec : ((server Booked).exec CancelsMatch unusedOne cancelBeforeFill).any (fun s =>
      (s.db.orders.any fun o =>
        decide (o.status = .cancelRequested) && decide (o.exchangeMode = .paper)) &&
        ((server Booked).exec CancelsMatch s
          [.advance 0 paperAt100, .advance 0 paperAt100]).isSome) = true := by
    decide +kernel
  obtain ⟨s, hrun, hs⟩ := Machine.exists_run_of_exec hexec
  rw [Bool.and_eq_true] at hs
  obtain ⟨o, ho, hstatus⟩ := List.any_eq_true.mp hs.1
  rw [Bool.and_eq_true, decide_eq_true_eq, decide_eq_true_eq] at hstatus
  obtain ⟨s', hlater⟩ := Option.isSome_iff_exists.mp hs.2
  have hadapters : ∀ a ∈ [Action.advance 0 paperAt100, .advance 0 paperAt100], UsesAdapters a := by
    simp [UsesAdapters, usesAdapters_paperAt100]
  have hbooked : Booked unusedOne :=
    ⟨⟨List.nodup_nil, by simp [unusedOne, equity1000, Db.empty], rfl⟩,
      by simp [Db.FilledFits, unusedOne, equity1000, Db.empty]⟩
  have hreach : (server Booked).Reachable Trades s :=
    ⟨unusedOne, _, hbooked, hrun.of_actions usesAdapters_cancelBeforeFill⟩
  have hrun' : (server Booked).Run Trades s _ s' := (Machine.run_of_exec hlater).of_actions hadapters
  obtain ⟨⟨o', ho', hkept, -⟩, hrows, -⟩ :=
    cancel_requested_order_kept hreach ho hstatus.2 hstatus.1 hrun'
  exact ⟨s, s', o, hreach, ho, hstatus.1, hrun', ⟨o', ho', hkept⟩, hrows⟩

end Confluence
