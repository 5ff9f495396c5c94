import Confluence.Properties.FillNotional
import Confluence.Properties.OrderLifecycle
import Confluence.Properties.SchemaConstraints
import Confluence.Server.Ledger

/-!
# Paper orders fill at once

The matching engine fills all that remains of an order, at the price of the book's worse side, and
only when a limit is touched. Through retries, leases that expire, snapshots that are stale and calls
that fail, an order is filled as a whole by one fill, or not at all; and the price of its fill is one
that the market data showed, on the right side of the order's limit.
-/

namespace Confluence

open Numeric

/-- What the market data has shown: a symbol with its bid and its ask. -/
abbrev Quotes := String → Decimal → Decimal → Prop

/-- The side of the book that an order of this side meets. -/
def OrderSide.worse (side : OrderSide) (bid ask : Decimal) : Decimal :=
  if side = .buy then ask else bid

/-- Every book has been quoted. -/
def MarketDataProvider.Shows (md : MarketDataProvider) (quoted : Quotes) : Prop :=
  ∀ symbol top, md.books symbol = some top → quoted symbol top.bid top.ask

/-- The workers trade on paper, with quoted books. -/
def Supervisor.TradesOn (quoted : Quotes) (supervisor : Supervisor) : Prop :=
  ∃ (md : MarketDataProvider) (now : Instant), md.Shows quoted ∧
    supervisor = { paperAdapter := some (Confluence.paperAdapter md now), liveAdapter := none }

def TradesOnQuotes (quoted : Quotes) : ServiceAction → Prop
  | .act (.act (.advance _ supervisor)) => supervisor.TradesOn quoted
  | .act (.fault _ supervisor _) => supervisor.TradesOn quoted
  | _ => True

/-- The price is that of a quote, as the column keeps it, and within the limit of the order. -/
structure OrderRecord.PricedBy (quoted : Quotes) (o : OrderRecord) (price : Decimal) : Prop where
  quote : ∃ bid ask, quoted o.symbol bid ask ∧ store 30 10 (o.side.worse bid ask) = some price
  limit : o.orderType = .limit → ∃ limit, o.price = some limit ∧
    (o.side = .buy → price ≤ limit) ∧ (o.side = .sell → limit ≤ price)

/-- The order has been filled as a whole, by one fill, or not at all. -/
inductive Db.FilledWhole (quoted : Quotes) (db : Db) (o : OrderRecord) : Prop
  | unfilled (hstatus : o.status ∈ [.pending, .submitted, .cancelRequested, .cancelled])
      (hfilled : o.filledQuantity = 0) (hfills : db.fillsOf o.accountId o.id = [])
  | filled (hstatus : o.status = .filled) (hfilled : o.filledQuantity = o.quantity) {fill : Fill}
      (hfills : db.fillsOf o.accountId o.id = [fill]) (hquantity : fill.quantity = o.quantity)
      (hprice : o.PricedBy quoted fill.price)

/-- The terms of the order are as the columns keep them. -/
def OrderRecord.Storable (o : OrderRecord) : Prop :=
  IsScaled 10 o.quantity ∧ ∀ p ∈ o.price, IsScaled 10 p

/-- What a worker has from the adapter, the adapter has returned for a quoted book; no command is
about to be rejected. -/
def Task.OnQuotes (quoted : Quotes) (t : Task) : Prop :=
  match t.stage with
  | .reconciled _ snapshot result =>
    ∃ md now, MarketDataProvider.Shows md quoted ∧
      PaperAdapter.reconcileOrder md now snapshot = .ok result
  | .dispatched (.error .permanentlyRejected) | .rejecting _ => False
  | _ => True

section

variable {quoted : Quotes} {md : MarketDataProvider} {now : Instant} {snapshot : ReconcileSnapshot}
  {result : ReconcileResult} {fill : Fill} {o : OrderRecord} {db db' : Db} {supervisor : Supervisor}
  {t : Task} {stage : Stage} {next : Option Stage}

/-! ### The adapter -/

lemma MatchingEngine.price_of_tryFill {orderType : OrderType} {side : OrderSide} {quantity : Decimal}
    {limitPrice : Option Decimal} {estimate : Option ConservativePriceEstimate} {tradeId : String}
    (h : tryFill orderType side quantity limitPrice estimate tradeId = some fill) :
    ∃ est, estimate = some est ∧ fill.price = est.price := by
  cases orderType with
  | market =>
    simp only [tryFill, Option.bind_eq_bind, Option.bind_eq_some_iff] at h
    obtain ⟨est, hest, h⟩ := h
    split_ifs at h
    cases h
    exact ⟨est, hest, rfl⟩
  | limit =>
    obtain ⟨est, -, hest, -, hprice, -⟩ := limit_of_tryFill h
    exact ⟨est, hest, hprice⟩

/-- The offered price is that of the worse side of a book. -/
lemma PaperAdapter.quote_of_fillOf (h : fillOf md now snapshot = some fill) :
    ∃ top, md.books snapshot.order.symbol = some top ∧
      fill.price = snapshot.order.side.worse top.bid top.ask := by
  obtain ⟨est, hest, hprice⟩ := MatchingEngine.price_of_tryFill h
  obtain ⟨top, htop, rfl⟩ := Option.map_eq_some_iff.mp hest
  refine ⟨top, htop, ?_⟩
  rw [hprice]
  simp [OrderSide.worse]

lemma PaperAdapter.limit_of_fillOf (h : fillOf md now snapshot = some fill)
    (hlimit : snapshot.order.orderType = .limit) :
    ∃ limit, snapshot.order.price = some limit ∧
      (snapshot.order.side = .buy → fill.price ≤ limit) ∧
      (snapshot.order.side = .sell → limit ≤ fill.price) := by
  rw [fillOf, hlimit] at h
  obtain ⟨est, limit, -, hprice, heq, hbuy, hsell⟩ := MatchingEngine.limit_of_tryFill h
  rw [heq]
  exact ⟨limit, hprice, hbuy, hsell⟩

/-- Nothing, the cancellation that was asked for, or one fill of all that remains. -/
lemma PaperAdapter.cases_of_reconcileOrder (h : reconcileOrder md now snapshot = .ok result) :
    (result.newStatus = none ∧ result.fillsToAdd = []) ∨
    (snapshot.order.status = .cancelRequested ∧ result.newStatus = some .cancelled ∧
      result.fillsToAdd = []) ∨
    (snapshot.order.status.isTerminal = false ∧ result.newStatus = some .filled ∧
      ∃ fill, fillOf md now snapshot = some fill ∧ result.fillsToAdd = [fill]) := by
  simp only [reconcileOrder] at h
  split_ifs at h with hterminal hcancel hremaining
  · cases h
    exact .inl ⟨rfl, rfl⟩
  · cases h
    exact .inr (.inl ⟨hcancel, rfl, rfl⟩)
  · cases h
    exact .inl ⟨rfl, rfl⟩
  · cases hfill : fillOf md now snapshot with
    | none =>
      rw [hfill] at h
      cases h
      exact .inl ⟨rfl, rfl⟩
    | some fill =>
      obtain ⟨-, hquantity, -⟩ := eq_of_fillOf hfill
      have hall : snapshot.filled + fill.quantity ≥ snapshot.order.quantity := by
        rw [hquantity]
        linarith
      simp only [hfill, if_pos hall] at h
      cases h
      exact .inr (.inr ⟨by simpa using hterminal, rfl, fill, rfl, rfl⟩)

/-- The columns keep the price on the right side of the limit. -/
lemma pricedBy_of_fillOf (h : PaperAdapter.fillOf md now snapshot = some fill)
    (hshows : md.Shows quoted) {status : OrderStatus}
    (horder : snapshot.order = { o.snapshot with status }) (hstorable : o.Storable)
    (hchecked : o.Checked) {p : Decimal} (hp : store 30 10 fill.price = some p) (hpos : p > 0) :
    o.PricedBy quoted p := by
  have hprice : 0 ≤ fill.price := by
    rw [eq_roundTo_of_store hp] at hpos
    exact (pos_of_roundTo_pos hpos).le
  constructor
  · obtain ⟨top, htop, hquote⟩ := PaperAdapter.quote_of_fillOf h
    rw [horder] at htop hquote
    refine ⟨top.bid, top.ask, hshows _ _ htop, ?_⟩
    rw [← hp, hquote]
    rfl
  · intro htype
    obtain ⟨limit, hlimit, hbuy, hsell⟩ := PaperAdapter.limit_of_fillOf h (by rw [horder, ← htype]; rfl)
    rw [horder] at hlimit hbuy hsell
    have hscaled := hstorable.2 limit hlimit
    refine ⟨limit, hlimit, fun hside => ?_, fun hside => ?_⟩
    · rw [eq_roundTo_of_store hp]
      exact roundTo_le_of_isScaled hprice hscaled (hbuy hside)
    · exact le_of_store hscaled (hchecked.2.1 limit hlimit).le (hsell hside) hp

/-! ### Workers -/

lemma Supervisor.TradesOn.of_resolve (h : supervisor.TradesOn quoted) {mode : ExchangeMode}
    {adapter : ExchangeAdapter} (hadapter : supervisor.resolve mode = some adapter) :
    ∃ (md : MarketDataProvider) (now : Instant), md.Shows quoted ∧
      adapter = Confluence.paperAdapter md now := by
  obtain ⟨md, now, hshows, rfl⟩ := h
  cases mode with
  | paper => exact ⟨md, now, hshows, (Option.some.inj hadapter).symm⟩
  | live => cases hadapter

lemma Supervisor.TradesOn.sound (h : supervisor.TradesOn quoted) : supervisor.Sound := by
  obtain ⟨md, now, -, rfl⟩ := h
  exact Supervisor.IsPaper.sound ⟨md, now, rfl⟩

lemma WorkerStep.onQuotes (h : WorkerStep supervisor t.cmd db t.stage next db')
    (htrades : supervisor.TradesOn quoted) (ht : t.OnQuotes quoted) (hnext : next = some stage) :
    Task.OnQuotes quoted { t with stage } := by
  obtain ⟨cmd, lease, before⟩ := t
  cases h with
  | @called adapter orderId snapshot hadapter =>
    obtain rfl := Option.some.inj hnext
    obtain ⟨md, now, hshows, rfl⟩ := htrades.of_resolve hadapter
    unfold callAdapter
    cases cmd.commandType with
    | submitOrder => trivial
    | reconcileOrder =>
      obtain ⟨result, hresult⟩ := PaperAdapter.reconcileOrder_isOk md now snapshot
      simp only [paperAdapter, hresult]
      exact ⟨md, now, hshows, hresult⟩
    | cancelOrder => trivial
    | unknown name => trivial
  | notAccepted he =>
    obtain rfl := Option.some.inj hnext
    rename_i e
    cases e with
    | permanentlyRejected => exact (he rfl).elim
    | _ => trivial
  | @notPersisted orderId snapshot result outcome herror hrejected =>
    obtain rfl := Option.some.inj hnext
    cases outcome with
    | ok _ => trivial
    | error e =>
      cases e with
      | permanentlyRejected => exact (hrejected _ rfl rfl).elim
      | _ => trivial
  | permanentlyRejected => exact ht.elim
  | delivered | requeued | rejected | audited => cases hnext
  | _ =>
    obtain rfl := Option.some.inj hnext
    trivial

/-- A call of the database that fails leaves nothing from the adapter behind. -/
lemma Task.OnQuotes.fault (ht : t.OnQuotes quoted) (db : Db)
    (h : FaultStep supervisor t.cmd t.stage stage) :
    Task.OnQuotes quoted { t with stage } ∧ Task.Agrees db { t with stage } := by
  obtain ⟨cmd, lease, before⟩ := t
  have herror {e : DispatchOutcome} (he : NotRejected e) :
      Task.OnQuotes quoted ⟨cmd, lease, .dispatched (.error e)⟩ := by
    cases e with
    | permanentlyRejected => exact (he rfl).elim
    | retry | reconciliationRequired => trivial
  cases h with
  | noAdapter | auditing | notAccepted => exact ⟨trivial, trivial⟩
  | notHydrated _ he => exact ⟨herror he, trivial⟩
  | @notPersisted _ _ _ outcome h =>
    cases outcome with
    | ok _ => exact ⟨trivial, trivial⟩
    | error e => exact ⟨herror (h e rfl), trivial⟩
  | rejecting => exact ht.elim

/-! ### Orders -/

/-- The orders after one of them has got a new status. -/
lemma forall_withStatus (db : Db) {P : OrderRecord → Prop} (hids : (db.orders.map (·.id)).Nodup)
    (ho : o ∈ db.orders) {status : OrderStatus} {q : Decimal}
    (hself : P { o with status, filledQuantity := q })
    (hothers : ∀ r ∈ db.orders, r.id ≠ o.id → P r) :
    ∀ r ∈ (db.withStatus o.accountId o.id status q).orders, P r := by
  intro r hr
  obtain ⟨r', hr', rfl⟩ := mem_updateWhere.mp hr
  by_cases hid : r'.id = o.id
  · obtain rfl := List.inj_on_of_nodup_map hids hr' ho hid
    simpa using hself
  · simpa [hid] using hothers r' hr' hid

lemma fillsOf_congr (h : db'.orderFills = db.orderFills) (accountId orderId : Uuid) :
    db'.fillsOf accountId orderId = db.fillsOf accountId orderId := by
  simp only [Db.fillsOf, h]

lemma Db.FilledWhole.congr (h : db.FilledWhole quoted o)
    (hfills : db'.fillsOf o.accountId o.id = db.fillsOf o.accountId o.id) :
    db'.FilledWhole quoted o := by
  cases h with
  | unfilled hstatus hfilled hnone => exact .unfilled hstatus hfilled (hfills.trans hnone)
  | filled hstatus hfilled hone hquantity hprice =>
    exact .filled hstatus hfilled (hfills.trans hone) hquantity hprice

/-- Only orders that nothing has been filled of move. -/
lemma Db.FilledWhole.unfilled_of_legal (h : db.FilledWhole quoted o) {status : OrderStatus}
    (hlegal : OrderStateMachine.legal o.status status = true) :
    o.filledQuantity = 0 ∧ db.fillsOf o.accountId o.id = [] := by
  cases h with
  | unfilled _ hfilled hfills => exact ⟨hfilled, hfills⟩
  | filled hstatus =>
    rw [hstatus, OrderStateMachine.not_legal_of_isTerminal rfl] at hlegal
    cases hlegal

/-- A status that fills nothing. -/
lemma filledWhole_withStatus (db : Db) (hids : (db.orders.map (·.id)).Nodup)
    (hwhole : ∀ r ∈ db.orders, db.FilledWhole quoted r) (ho : o ∈ db.orders) {status : OrderStatus}
    (hlegal : OrderStateMachine.legal o.status status = true)
    (hstatus : status ∈ [.pending, .submitted, .cancelRequested, .cancelled]) {q : Decimal}
    (hq : store 30 10 o.filledQuantity = some q) :
    ∀ r ∈ (db.withStatus o.accountId o.id status q).orders,
      (db.withStatus o.accountId o.id status q).FilledWhole quoted r := by
  obtain ⟨hfilled, hfills⟩ := (hwhole o ho).unfilled_of_legal hlegal
  refine forall_withStatus db hids ho (.unfilled hstatus ?_ hfills) fun r hr _ =>
    (hwhole r hr).congr rfl
  rw [hfilled] at hq
  exact eq_of_store (isScaled_zero 10) hq

lemma Db.MovedIfLegal.filledWhole {status : OrderStatus} (h : db.MovedIfLegal o status db')
    (hids : (db.orders.map (·.id)).Nodup) (hwhole : ∀ r ∈ db.orders, db.FilledWhole quoted r)
    (ho : o ∈ db.orders) (hstatus : status ∈ [.pending, .submitted, .cancelRequested, .cancelled]) :
    ∀ r ∈ db'.orders, db'.FilledWhole quoted r := by
  unfold Db.MovedIfLegal at h
  split_ifs at h with hlegal
  · obtain ⟨q, hq, -, -, rfl⟩ := h
    exact filledWhole_withStatus _ hids hwhole ho hlegal hstatus hq
  · rw [h]
    exact hwhole

/-- What one proposed fill leaves behind when it is new. -/
lemma of_commits_insertFill {accountId orderId : Uuid} {inserted : List Fill}
    {orderFills : List FillRecord}
    (h : postgres.Commits (insertFills accountId orderId [fill]) db inserted { db with orderFills })
    (hnew : inserted ≠ []) :
    ∃ q p f, store 30 10 fill.quantity = some q ∧ store 30 10 fill.price = some p ∧ p > 0 ∧
      inserted = [fill] ∧ orderFills = db.orderFills ++
        [⟨accountId, orderId, { fill with quantity := q, price := p, fee := f }⟩] := by
  simp only [insertFills, Engine.commits_bind, Engine.commits_mapError, commits_insertFill,
    Engine.commits_pure] at h
  obtain ⟨isNew, db₁, ⟨q, p, f, hq, hp, -, ⟨-, hpos, -⟩, hfill⟩, _, _, ⟨rfl, rfl⟩, rfl, hdb⟩ := h
  rcases hfill with ⟨-, rfl, -⟩ | ⟨-, rfl, rfl⟩
  · exact (hnew rfl).elim
  · exact ⟨q, p, f, hq, hp, hpos, rfl, (congrArg Db.orderFills hdb).symm⟩

lemma fillsOf_append {accountId orderId a i : Uuid} {orderFills : List FillRecord} {f : Fill}
    (h : orderFills = db.orderFills ++ [⟨accountId, orderId, f⟩]) :
    Db.fillsOf { db with orderFills } a i =
      db.fillsOf a i ++ if accountId = a ∧ orderId = i then [f] else [] := by
  subst h
  by_cases heq : accountId = a ∧ orderId = i
  · simp [Db.fillsOf, heq]
  · simp only [Db.fillsOf, List.filter_append, List.map_append, if_neg heq]
    simpa using heq

/-- A persisted result of the paper adapter fills an order as a whole, cancels it, or does nothing. -/
lemma filledWhole_persisted {cmd : ClaimedCommand} {orderId : Uuid}
    (h : postgres.Commits (persistReconcileResultTx cmd.accountId orderId snapshot result) db ()
      db')
    (hshows : md.Shows quoted) (hresult : PaperAdapter.reconcileOrder md now snapshot = .ok result)
    (hagrees : SnapshotOf db cmd.accountId orderId snapshot) (hc : db.Constrained)
    (hstorable : ∀ r ∈ db.orders, r.Storable)
    (hwhole : ∀ r ∈ db.orders, db.FilledWhole quoted r) :
    ∀ r ∈ db'.orders, db'.FilledWhole quoted r := by
  obtain ⟨o, inserted, orderFills, positions, db₁, riskEvents, ho, hfilled, hsame, hfills, hnew, -,
    hstatus, rfl⟩ := of_commits_persistReconcileResultTx h
  obtain ⟨o', ho', horder, -⟩ := hagrees
  obtain rfl := Option.some.inj (ho.symm.trans ho')
  obtain ⟨hmem, rfl, hacc⟩ := Db.mem_of_order? ho
  have hkeep : orderFills = db.orderFills → ∀ r ∈ db.orders,
      Db.FilledWhole quoted { db with orderFills, positions } r := by
    intro hsame r hr
    exact (hwhole r hr).congr (fillsOf_congr hsame _ _)
  have hnone (hempty : result.fillsToAdd = []) : inserted = [] ∧ orderFills = db.orderFills := by
    rw [hempty, insertFills, Engine.commits_pure] at hfills
    exact ⟨hfills.1.symm, (congrArg Db.orderFills hfills.2).symm⟩
  have hevents : (∀ r ∈ db₁.orders, db₁.FilledWhole quoted r) →
      ∀ r ∈ ({ db₁ with riskEvents } : Db).orders,
        Db.FilledWhole quoted { db₁ with riskEvents } r :=
    fun h r hr => (h r hr).congr rfl
  apply hevents
  rcases PaperAdapter.cases_of_reconcileOrder hresult with ⟨hstay, hempty⟩ |
    ⟨hcancel, hcancelled, hempty⟩ | ⟨hopen, hclosed, fill, hoffer, hfill⟩
  · rw [hstay] at hstatus
    rw [hstatus]
    exact hkeep (hnone hempty).2
  · obtain ⟨rfl, hrows⟩ := hnone hempty
    rw [hcancelled] at hstatus
    obtain ⟨hlegal, q, hq, -, -, rfl⟩ := hstatus
    rw [List.map_nil, List.sum_nil, add_zero] at hq
    exact filledWhole_withStatus { db with orderFills, positions } hc.orderIds (hkeep hrows) hmem
      hlegal (by simp) hq
  · rw [hclosed] at hstatus
    obtain ⟨hlegal, q, hq, -, -, rfl⟩ := hstatus
    have hnew := hnew (by simp [hfill])
    rw [hfill] at hfills
    obtain ⟨quantity, price, fee, hquantity, hprice, hpos, rfl, hrows⟩ :=
      of_commits_insertFill hfills hnew
    obtain ⟨hzero, hnofills⟩ := (hwhole o hmem).unfilled_of_legal hlegal
    obtain ⟨-, hall, -⟩ := PaperAdapter.eq_of_fillOf hoffer
    -- nothing has been filled, so that all of the order remains
    have hwholeQuantity : fill.quantity = o.quantity := by
      rw [hall, ← hfilled, hzero, horder]
      exact sub_zero _
    have hscaled : IsScaled 10 fill.quantity := by
      rw [hwholeQuantity]
      exact (hstorable o hmem).1
    refine forall_withStatus { db with orderFills, positions } hc.orderIds hmem ?_ ?_
    · have hone : Db.fillsOf { db with orderFills } o.accountId o.id =
          [{ fill with quantity, price, fee }] := by
        rw [fillsOf_append hrows, hnofills]
        simp [hacc]
      refine .filled rfl ?_ hone ?_ ?_
      · simp only [List.map_cons, List.map_nil, List.sum_cons, List.sum_nil, add_zero, hzero,
          zero_add] at hq
        exact (eq_of_store hscaled hq).trans hwholeQuantity
      · exact (eq_of_store hscaled hquantity).trans hwholeQuantity
      · obtain ⟨hquote, hlimit⟩ := pricedBy_of_fillOf hoffer hshows horder (hstorable o hmem)
          (hc.orders o hmem) hprice hpos
        exact ⟨hquote, hlimit⟩
    · intro r hr hne
      refine (hwhole r hr).congr ((fillsOf_append hrows).trans ?_)
      rw [if_neg fun h => hne h.2.symm, List.append_nil]

lemma WorkerStep.filledWhole (h : WorkerStep supervisor t.cmd db t.stage next db')
    (ht : t.OnQuotes quoted) (hagrees : t.Agrees db) (hc : db.Constrained)
    (hstorable : ∀ r ∈ db.orders, r.Storable)
    (hwhole : ∀ r ∈ db.orders, db.FilledWhole quoted r) :
    ∀ r ∈ db'.orders, db'.FilledWhole quoted r := by
  obtain ⟨cmd, lease, before⟩ := t
  have hsame {db₁ db₂ : Db} (h : ∀ r ∈ db₁.orders, db₁.FilledWhole quoted r)
      (horders : db₂.orders = db₁.orders) (hfills : db₂.orderFills = db₁.orderFills) :
      ∀ r ∈ db₂.orders, db₂.FilledWhole quoted r := by
    intro r hr
    rw [horders] at hr
    exact (h r hr).congr (fillsOf_congr hfills _ _)
  cases h with
  | noAdapter | delivered | requeued | permanentlyRejected | reconciliationRequired | notHydrated
  | hydrated | called | notAccepted | notPersisted | audited => exact hsame hwhole rfl rfl
  | submitted htype ho hmove =>
    have hmoved := hmove.filledWhole hc.orderIds hwhole (Db.mem_of_order? ho).1 (by simp)
    exact hsame hmoved rfl rfl
  | cancelled htype ho hmove =>
    have hmoved := hmove.filledWhole hc.orderIds hwhole (Db.mem_of_order? ho).1 (by simp)
    exact hsame hmoved rfl rfl
  | persisted hcommit =>
    obtain ⟨md, now, hshows, hresult⟩ := ht
    exact filledWhole_persisted hcommit hshows hresult hagrees.1 hc hstorable hwhole
  | rejected => exact ht.elim

/-! ### Every step -/

/-- What holds while the workers trade on quotes. -/
structure PaperTraded (quoted : Quotes) (s : Server) : Prop where
  constrained : s.db.Constrained
  agree : TasksAgree s
  tasks : ∀ t ∈ s.tasks, t.OnQuotes quoted
  storable : ∀ o ∈ s.db.orders, o.Storable
  fillsOfOrders : s.db.FillsOfOrders
  whole : ∀ o ∈ s.db.orders, s.db.FilledWhole quoted o

variable {s s' : Server} {a : ServiceAction}

lemma tasksAgree_of_serviceStep (hs : PaperTraded quoted s) (hok : TradesOnQuotes quoted a)
    (h : ServiceStep s a s') : TasksAgree s' := by
  cases h with
  | refused => exact hs.agree
  | created => exact fun t ht => (hs.agree t ht).extends (.of_same rfl rfl)
  | regrouped => exact fun t ht => (hs.agree t ht).extends (.of_same rfl rfl)
  | server h =>
    refine hs.agree.step ?_ h
    rintro i supervisor rfl
    exact Supervisor.TradesOn.sound hok
  | @fault i supervisor n task next htask hnext =>
    intro t ht
    rcases mem_updateTask htask ht with ht | ⟨stage, rfl, rfl⟩
    · exact hs.agree t ht
    · exact ((hs.tasks task (List.mem_of_getElem? htask)).fault s.db (faultStep_of_mem hnext)).2

lemma onQuotes_of_serviceStep (hs : PaperTraded quoted s) (hok : TradesOnQuotes quoted a)
    (h : ServiceStep s a s') : ∀ t ∈ s'.tasks, t.OnQuotes quoted := by
  intro t ht
  cases h with
  | refused | created | regrouped => exact hs.tasks t ht
  | @fault i supervisor n task next htask hnext =>
    rcases mem_updateTask htask ht with ht | ⟨stage, rfl, rfl⟩
    · exact hs.tasks t ht
    · have htask := hs.tasks task (List.mem_of_getElem? htask)
      exact (htask.fault s.db (faultStep_of_mem hnext)).1
  | server h =>
    cases h with
    | tick | enqueueCancel | request => exact hs.tasks t ht
    | crash hi => exact hs.tasks t ((List.eraseIdx_sublist ..).subset ht)
    | claim limit locked =>
      rcases List.mem_append.mp ht with ht | ht
      · exact hs.tasks t ht
      · obtain ⟨cmd, -, rfl⟩ := List.mem_map.mp ht
        trivial
    | @advance i supervisor task next db' htask hworker =>
      rcases mem_updateTask htask ht with ht | ⟨stage, hstage, rfl⟩
      · exact hs.tasks t ht
      · exact hworker.onQuotes hok (hs.tasks task (List.mem_of_getElem? htask)) hstage

lemma OrderRecord.Storable.congr {o' : OrderRecord} (h : o.Storable)
    (hquantity : o'.quantity = o.quantity) (hprice : o'.price = o.price) : o'.Storable := by
  unfold OrderRecord.Storable
  rw [hquantity, hprice]
  exact h

/-- A new order is stored as its columns keep it. -/
lemma storable_newOrder {orderId accountId : Uuid} {clientOrderId symbol : String} {side : OrderSide}
    {orderType : OrderType} {mode : ExchangeMode} {quantity q : Decimal} {price p : Option Decimal}
    (hq : store 30 10 quantity = some q) (hp : optionalColumn 30 10 price = .ok p) :
    (newOrder orderId accountId clientOrderId symbol side orderType q p mode).Storable := by
  refine ⟨(fits_of_store hq).1, fun limit hlimit => ?_⟩
  cases price with
  | none =>
    cases hp
    cases hlimit
  | some x =>
    obtain ⟨y, hy, rfl⟩ := optionalColumn_some hp
    obtain rfl := Option.some.inj hlimit
    exact (fits_of_store hy).1

lemma storable_of_serviceStep (hs : PaperTraded quoted s) (h : s.serviceStep a = some s') :
    ∀ o ∈ s'.db.orders, o.Storable := by
  cases serviceStep_of_step h with
  | fault | refused | created | regrouped => exact hs.storable
  | server h =>
    cases h with
    | tick | claim | crash | enqueueCancel => exact hs.storable
    | request hrequest =>
      cases hrequest with
      | audited => exact hs.storable
      | riskState => exact hs.storable
      | configured => exact hs.storable
      | placed _ hq hp => exact forall_append hs.storable (storable_newOrder hq hp)
    | @advance i supervisor task next db' htask hworker =>
      rcases hworker.movesOrder with hsame | ⟨orderId, o, status, q, -, -, -, -, hmoved⟩
      · rw [show ({ db := db', tasks := _ } : Server).db.orders = s.db.orders from hsame]
        exact hs.storable
      · rw [show ({ db := db', tasks := _ } : Server).db.orders = _ from hmoved]
        exact forall_updateWhere hs.storable fun o ho _ => (hs.storable o ho).congr rfl rfl

lemma whole_of_serviceStep (hs : PaperTraded quoted s) (hfills : s'.db.FillsOfOrders)
    (h : ServiceStep s a s') : ∀ o ∈ s'.db.orders, s'.db.FilledWhole quoted o := by
  have hsame {db' : Db} (horders : db'.orders = s.db.orders)
      (hfills : db'.orderFills = s.db.orderFills) : ∀ o ∈ db'.orders, db'.FilledWhole quoted o := by
    intro o ho
    rw [horders] at ho
    exact (hs.whole o ho).congr (fillsOf_congr hfills _ _)
  cases h with
  | fault | refused | created | regrouped => exact hsame rfl rfl
  | server h =>
    cases h with
    | tick | claim | crash => exact hsame rfl rfl
    | enqueueCancel => exact hsame rfl rfl
    | advance htask hworker =>
      have hmem := List.mem_of_getElem? htask
      exact hworker.filledWhole (hs.tasks _ hmem) (hs.agree _ hmem) hs.constrained hs.storable hs.whole
    | request hrequest =>
      cases hrequest with
      | audited => exact hsame rfl rfl
      | riskState => exact hsame rfl rfl
      | configured => exact hsame rfl rfl
      | placed _ _ _ _ hid =>
        refine forall_append (fun o ho => (hs.whole o ho).congr rfl) ?_
        refine .unfilled (by simp [newOrder]) rfl ?_
        -- a fill that were there already would have its order
        rw [List.eq_nil_iff_forall_not_mem]
        intro fill hfill
        obtain ⟨f, hf, -, hforder, -⟩ := mem_fillsOf.mp hfill
        obtain ⟨o, ho, hoid, -⟩ := hs.fillsOfOrders f hf
        exact hid o ho (hoid.trans hforder)

lemma PaperTraded.step (hs : PaperTraded quoted s) (hok : TradesOnQuotes quoted a)
    (h : s.serviceStep a = some s') : PaperTraded quoted s' := by
  have hstep := serviceStep_of_step h
  have hfills := fillsOfOrders_of_serviceStep h hs.fillsOfOrders
  exact ⟨constrained_of_serviceStep h hs.constrained, tasksAgree_of_serviceStep hs hok hstep,
    onQuotes_of_serviceStep hs hok hstep, storable_of_serviceStep hs h, hfills,
    whole_of_serviceStep hs hfills hstep⟩

lemma paperTraded_fresh : PaperTraded quoted .fresh := by
  refine ⟨constrained_empty, ?_, ?_, ?_, ?_, ?_⟩ <;> rintro _ ⟨⟩

lemma paperTraded_of_reachable
    (h : (service (· = .fresh)).Reachable (fun _ => TradesOnQuotes quoted) s) :
    PaperTraded quoted s := by
  refine h.invariant ?_ fun _ _ _ hs hok hstep => hs.step hok hstep
  rintro _ rfl
  exact paperTraded_fresh

/-- In every run with paper workers, every order has been filled as a whole by one fill, at a quoted
price and within its limit, or nothing of it has. -/
theorem filled_whole (h : (service (· = .fresh)).Reachable (fun _ => TradesOnQuotes quoted) s) :
    ∀ o ∈ s.db.orders, s.db.FilledWhole quoted o :=
  (paperTraded_of_reachable h).whole

end

/-- Nothing but books at 100 has been shown. -/
def At100 : Quotes := fun _ bid ask => bid = 100 ∧ ask = 100

lemma tradesOnQuotes_openAndTrade : ∀ a ∈ openAndTrade, TradesOnQuotes At100 a := by
  intro a ha
  rcases List.mem_cons.mp ha with rfl | ha
  · trivial
  · obtain ⟨b, hb, rfl⟩ := List.mem_map.mp ha
    have htrades := tradesAt100_orderAndReconcile _ b hb
    cases b with
    | advance i supervisor =>
      refine ⟨_, _, ?_, htrades⟩
      intro symbol top htop
      obtain rfl := Option.some.inj htop
      exact ⟨rfl, rfl⟩
    | _ => trivial

/-- The order of one unit, after its fill at 100. -/
theorem filled_whole_openAndTrade :
    ∃ s : Server, (service (· = .fresh)).Reachable (fun _ => TradesOnQuotes At100) s ∧
      s.db.orders.map (·.status) = [.filled] ∧ ∀ o ∈ s.db.orders, s.db.FilledWhole At100 o := by
  have htest : ((service (· = .fresh)).exec (fun _ _ => True) .fresh openAndTrade).any
      (fun s => decide (s.db.orders.map (·.status) = [.filled])) = true := by
    decide +kernel
  obtain ⟨s, hrun, hs⟩ := Machine.exists_run_of_exec htest
  have hreach : (service (· = .fresh)).Reachable (fun _ => TradesOnQuotes At100) s :=
    ⟨_, _, rfl, (hrun.of_actions tradesOnQuotes_openAndTrade).mono fun _ _ h => h.1⟩
  exact ⟨s, hreach, of_decide_eq_true hs, filled_whole hreach⟩

end Confluence
