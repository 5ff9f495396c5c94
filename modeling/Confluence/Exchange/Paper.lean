import Confluence.Exchange.Adapter

/-!
# Paper trading

Paper orders are matched against the latest public top of book, all at once and at the worse side
of the book. The adapter below is the paper adapter at one instant with the book of that instant.
-/

namespace Confluence

/-- Instants of the monotonic clock. -/
abbrev Instant := ℕ

structure BookTop where
  bid : Decimal
  ask : Decimal
  lastUpdate : Instant
deriving DecidableEq

/-- Latest public book top per symbol. -/
structure MarketDataProvider where
  books : String → Option BookTop
  maxAge : ℕ

namespace MarketDataProvider

def isFresh (md : MarketDataProvider) (top : BookTop) (now : Instant) : Bool :=
  decide (now - top.lastUpdate ≤ md.maxAge)

/-- Ask for buys, bid for sells. -/
def conservativeEstimate (md : MarketDataProvider) (symbol : String) (isBuy : Bool)
    (now : Instant) : Option ConservativePriceEstimate :=
  (md.books symbol).map fun top =>
    { price := if isBuy then top.ask else top.bid
      isFresh := md.isFresh top now }

end MarketDataProvider

/-- A fill, or `none` when the order cannot fill now. -/
def MatchingEngine.tryFill (orderType : OrderType) (side : OrderSide) (quantity : Decimal)
    (limitPrice : Option Decimal) (estimate : Option ConservativePriceEstimate)
    (tradeId : String) : Option Fill :=
  match orderType with
  | .market => do
    let est ← estimate
    if !est.isFresh then none
    else
      some { exchangeTradeId := tradeId, quantity, price := est.price, fee := 0, feeAsset := "" }
  | .limit => do
    let est ← estimate
    if !est.isFresh then none
    else
      let limit ← limitPrice
      let touched : Bool :=
        match side with
        | .buy => decide (est.price ≤ limit)
        | .sell => decide (est.price ≥ limit)
      if !touched then none
      else
        some { exchangeTradeId := tradeId, quantity, price := est.price, fee := 0, feeAsset := "" }

/-- `{client_order_id}:paper:{n}`. -/
def paperTradeId (clientOrderId : String) (n : ℕ) : String :=
  clientOrderId ++ ":paper:" ++ toString n

namespace PaperAdapter

/-- The fill that the book offers for what remains of the order. -/
def fillOf (md : MarketDataProvider) (now : Instant) (snapshot : ReconcileSnapshot) :
    Option Fill :=
  let order := snapshot.order
  let isBuy := decide (order.side = .buy)
  MatchingEngine.tryFill order.orderType order.side (order.quantity - snapshot.filled) order.price
    (md.conservativeEstimate order.symbol isBuy now)
    (paperTradeId order.clientOrderId snapshot.fills.length)

def reconcileOrder (md : MarketDataProvider) (now : Instant) (snapshot : ReconcileSnapshot) :
    Except ExchangeError ReconcileResult :=
  let order := snapshot.order
  if order.status.isTerminal then .ok {}
  -- fills only happen inside this pass, so that a cancel takes effect at once
  else if order.status = .cancelRequested then
    .ok {
      newStatus := some .cancelled
      events := [{ eventType := "order_cancelled"
                   payload := [("order_id", .uuid order.orderId),
                     ("new_status", .text "Cancelled")] }] }
  else
    let alreadyFilled := snapshot.filled
    let remaining := order.quantity - alreadyFilled
    if remaining ≤ 0 then .ok {}
    else
      match fillOf md now snapshot with
      | none => .ok {}
      | some fill =>
        let newFilled := alreadyFilled + fill.quantity
        let newStatus : OrderStatus :=
          if newFilled ≥ order.quantity then .filled else .partiallyFilled
        .ok {
          newStatus := some newStatus
          fillsToAdd := [fill]
          positionsDelta := [{ symbol := order.symbol
                               quantityDelta := order.side.signed fill.quantity }]
          events := [{ eventType := if newStatus = .filled then "order_filled"
                         else "order_partially_filled"
                       payload := [("order_id", .uuid order.orderId),
                         ("new_status", .text newStatus.debug)] }] }

end PaperAdapter

def paperAdapter (md : MarketDataProvider) (now : Instant) : ExchangeAdapter where
  mode := .paper
  submit _ := .ok { accepted := true, events := [] }
  cancel _ := .ok ()
  reconcileOrder := PaperAdapter.reconcileOrder md now

/-! ### What paper reconciliation returns -/

section

variable {orderType : OrderType} {side : OrderSide} {quantity : Decimal}
  {limitPrice : Option Decimal} {estimate : Option ConservativePriceEstimate} {tradeId : String}
  {fill : Fill}

/-- A paper fill is for the whole quantity and carries the given trade id. -/
lemma MatchingEngine.eq_of_tryFill
    (h : tryFill orderType side quantity limitPrice estimate tradeId = some fill) :
    fill.exchangeTradeId = tradeId ∧ fill.quantity = quantity ∧ fill.fee = 0 := by
  cases orderType
  · simp only [tryFill, Option.bind_eq_bind, Option.bind_eq_some_iff] at h
    obtain ⟨est, -, h⟩ := h
    split_ifs at h with hfresh
    obtain ⟨limit, -, h⟩ := Option.bind_eq_some_iff.mp h
    split_ifs at h with htouched
    cases h
    exact ⟨rfl, rfl, rfl⟩
  · simp only [tryFill, Option.bind_eq_bind, Option.bind_eq_some_iff] at h
    obtain ⟨est, -, h⟩ := h
    split_ifs at h with hfresh
    cases h
    exact ⟨rfl, rfl, rfl⟩

/-- A limit order fills at the price of a fresh estimate that has reached the limit. -/
lemma MatchingEngine.limit_of_tryFill
    (h : tryFill .limit side quantity limitPrice estimate tradeId = some fill) :
    ∃ est limit, estimate = some est ∧ limitPrice = some limit ∧ fill.price = est.price ∧
      (side = .buy → est.price ≤ limit) ∧ (side = .sell → limit ≤ est.price) := by
  simp only [tryFill, Option.bind_eq_bind, Option.bind_eq_some_iff] at h
  obtain ⟨est, hest, h⟩ := h
  split_ifs at h with hfresh
  obtain ⟨limit, hlimit, h⟩ := Option.bind_eq_some_iff.mp h
  split_ifs at h with htouched
  cases h
  refine ⟨est, limit, hest, hlimit, rfl, ?_, ?_⟩
  · rintro rfl
    simpa using htouched
  · rintro rfl
    simpa using htouched

end

/-- A returned fill is the one that the book offers, for an order not yet filled. -/
lemma PaperAdapter.of_mem_fillsToAdd {md : MarketDataProvider} {now : Instant}
    {snapshot : ReconcileSnapshot} {result : ReconcileResult} {fill : Fill}
    (h : reconcileOrder md now snapshot = .ok result) (hfill : fill ∈ result.fillsToAdd) :
    snapshot.filled < snapshot.order.quantity ∧ fillOf md now snapshot = some fill := by
  simp only [reconcileOrder] at h
  split_ifs at h with hterminal hcancel hremaining
  · cases h
    cases hfill
  · cases h
    cases hfill
  · cases h
    cases hfill
  · refine ⟨by linarith, ?_⟩
    cases hoffer : fillOf md now snapshot with
    | none =>
      rw [hoffer] at h
      cases h
      cases hfill
    | some offer =>
      rw [hoffer] at h
      cases h
      rw [List.mem_singleton.mp hfill]

/-- The fill that the book offers an open order is returned. -/
lemma PaperAdapter.exists_fillsToAdd (md : MarketDataProvider) (now : Instant)
    (snapshot : ReconcileSnapshot) (fill : Fill) (hopen : snapshot.order.status.isTerminal = false)
    (hcancel : snapshot.order.status ≠ .cancelRequested)
    (hremaining : snapshot.filled < snapshot.order.quantity)
    (hoffer : fillOf md now snapshot = some fill) :
    ∃ result, reconcileOrder md now snapshot = .ok result ∧ fill ∈ result.fillsToAdd := by
  have hpos : ¬ snapshot.order.quantity - snapshot.filled ≤ 0 := by linarith
  simp [reconcileOrder, hopen, hcancel, hpos, hoffer]

end Confluence
