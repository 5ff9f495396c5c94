import Confluence.Exchange.Binance
import Confluence.Exchange.Paper
import Confluence.Library.Numeric

/-!
# What adapters return

A reconciliation leaves the order as it is, moves it to another status, or adds one fill with the
matching position delta. Both adapters keep to this, and number the fills of an order by how many
are recorded.
-/

namespace Confluence

/-- The event types of reconciliations. -/
def reconcileEventTypes : List String :=
  ["order_filled", "order_partially_filled", "order_cancelled", "order_rejected",
    "exchange_reconciliation_required"]

/-- The trade ids of an order's `n`-th fill, on paper and live. -/
def IsTradeId (clientOrderId : String) (n : ℕ) (tradeId : String) : Prop :=
  tradeId = paperTradeId clientOrderId n ∨ tradeId = reconcileTradeId clientOrderId n

inductive AdapterResult (snapshot : ReconcileSnapshot) : ReconcileResult → Prop
  | unchanged : AdapterResult snapshot {}
  | moved {status : OrderStatus} {events : List RiskEvent}
      (hevents : ∀ event ∈ events, event.eventType ∈ reconcileEventTypes) :
    AdapterResult snapshot { newStatus := some status, events }
  | filled {status : OrderStatus} {fill : Fill} {events : List RiskEvent}
      (hevents : ∀ event ∈ events, event.eventType ∈ reconcileEventTypes)
      (hid : IsTradeId snapshot.order.clientOrderId snapshot.fills.length fill.exchangeTradeId)
      (hpos : 0 < fill.quantity)
      (hscaled : Numeric.IsScaled 10 snapshot.order.quantity →
        Numeric.IsScaled 10 snapshot.filled → Numeric.IsScaled 10 fill.quantity) :
    AdapterResult snapshot
      { newStatus := some status
        fillsToAdd := [fill]
        positionsDelta := [⟨snapshot.order.symbol, snapshot.order.side.signed fill.quantity⟩]
        events }

section

variable {snapshot : ReconcileSnapshot} {result : ReconcileResult}

lemma AdapterResult.events_mem (h : AdapterResult snapshot result) :
    ∀ event ∈ result.events, event.eventType ∈ reconcileEventTypes := by
  cases h with
  | unchanged => simp
  | moved hevents => exact hevents
  | filled hevents => exact hevents

/-- A returned fill carries the next trade id of its order and a positive quantity. -/
lemma AdapterResult.of_fill {fill : Fill} (h : AdapterResult snapshot result)
    (hfill : fill ∈ result.fillsToAdd) :
    IsTradeId snapshot.order.clientOrderId snapshot.fills.length fill.exchangeTradeId ∧
      0 < fill.quantity ∧ (Numeric.IsScaled 10 snapshot.order.quantity →
        Numeric.IsScaled 10 snapshot.filled → Numeric.IsScaled 10 fill.quantity) := by
  cases h with
  | unchanged => cases hfill
  | moved => cases hfill
  | filled hevents hid hpos hscaled =>
    rw [List.mem_singleton.mp hfill]
    exact ⟨hid, hpos, hscaled⟩

/-- The paper adapter never fails. -/
lemma PaperAdapter.reconcileOrder_isOk (md : MarketDataProvider) (now : Instant)
    (snapshot : ReconcileSnapshot) : ∃ result, reconcileOrder md now snapshot = .ok result := by
  simp only [reconcileOrder]
  split_ifs
  · exact ⟨_, rfl⟩
  · exact ⟨_, rfl⟩
  · exact ⟨_, rfl⟩
  · cases fillOf md now snapshot with
    | none => exact ⟨_, rfl⟩
    | some fill => exact ⟨_, rfl⟩

lemma PaperAdapter.eq_of_fillOf {md : MarketDataProvider} {now : Instant} {fill : Fill}
    (h : fillOf md now snapshot = some fill) :
    fill.exchangeTradeId = paperTradeId snapshot.order.clientOrderId snapshot.fills.length ∧
      fill.quantity = snapshot.order.quantity - snapshot.filled ∧ fill.fee = 0 :=
  MatchingEngine.eq_of_tryFill h

lemma PaperAdapter.adapterResult {md : MarketDataProvider} {now : Instant}
    (h : reconcileOrder md now snapshot = .ok result) : AdapterResult snapshot result := by
  simp only [reconcileOrder] at h
  split_ifs at h with hterminal hcancel hremaining
  · cases h
    exact .unchanged
  · cases h
    exact .moved (by simp [reconcileEventTypes])
  · cases h
    exact .unchanged
  · cases hfill : fillOf md now snapshot with
    | none =>
      rw [hfill] at h
      cases h
      exact .unchanged
    | some fill =>
      rw [hfill] at h
      cases h
      obtain ⟨hid, hquantity, -⟩ := eq_of_fillOf hfill
      refine .filled ?_ (.inl hid) ?_ ?_
      · intro event hevent
        rw [List.mem_singleton.mp hevent]
        simp only
        split_ifs <;> simp [reconcileEventTypes]
      · rw [hquantity]
        exact not_le.mp hremaining
      · intro hq hf
        rw [hquantity]
        exact hq.sub hf

/-- The book is fresh and, for a limit order, its worse side touches the limit. -/
def MarketDataProvider.touches (md : MarketDataProvider) (now : Instant) (order : OrderSnapshot) :
    Bool :=
  (md.conservativeEstimate order.symbol (decide (order.side = .buy)) now).any fun est =>
    est.isFresh &&
      match order.orderType with
      | .market => true
      | .limit => order.price.any fun limit =>
        match order.side with
        | .buy => decide (est.price ≤ limit)
        | .sell => decide (est.price ≥ limit)

/-- The book offers a fill exactly when it touches the order. -/
lemma PaperAdapter.fillOf_isSome (md : MarketDataProvider) (now : Instant)
    (snapshot : ReconcileSnapshot) :
    (fillOf md now snapshot).isSome = md.touches now snapshot.order := by
  simp only [fillOf, MarketDataProvider.touches, MatchingEngine.tryFill]
  cases md.conservativeEstimate snapshot.order.symbol (decide (snapshot.order.side = .buy)) now with
  | none => cases snapshot.order.orderType <;> simp
  | some est =>
    cases hfresh : est.isFresh with
    | false => cases snapshot.order.orderType <;> simp [hfresh]
    | true =>
      cases snapshot.order.orderType with
      | market => simp [hfresh]
      | limit =>
        cases snapshot.order.price with
        | none => simp
        | some limit =>
          cases hside : snapshot.order.side with
          | buy => by_cases htouch : est.price ≤ limit <;> simp [hfresh, htouch]
          | sell => by_cases htouch : est.price ≥ limit <;> simp [hfresh, htouch]

/-- An order that the book touches is closed by a reconciliation, and so is one to be cancelled. -/
lemma PaperAdapter.closes {md : MarketDataProvider} {now : Instant}
    (h : reconcileOrder md now snapshot = .ok result)
    (hunfilled : snapshot.order.status.isTerminal = false →
      snapshot.filled < snapshot.order.quantity)
    (htouches : snapshot.order.status.isTerminal = true ∨
      snapshot.order.status = .cancelRequested ∨ md.touches now snapshot.order = true) :
    snapshot.order.status.isTerminal = true ∨
      ∃ status : OrderStatus, status.isTerminal = true ∧ result.newStatus = some status := by
  simp only [reconcileOrder] at h
  split_ifs at h with hterminal hcancel hremaining
  · exact .inl hterminal
  · cases h
    exact .inr ⟨.cancelled, rfl, rfl⟩
  · have hlt := hunfilled (by simpa using hterminal)
    linarith
  · have htouches := (htouches.resolve_left hterminal).resolve_left hcancel
    rw [← fillOf_isSome] at htouches
    obtain ⟨fill, hfill⟩ := Option.isSome_iff_exists.mp htouches
    rw [hfill] at h
    cases h
    obtain ⟨-, hquantity, -⟩ := eq_of_fillOf hfill
    refine .inr ⟨.filled, rfl, ?_⟩
    have hall : snapshot.filled + fill.quantity ≥ snapshot.order.quantity := by
      rw [hquantity]
      linarith
    simp [hall]

/-- The executed quantity of an answer has at most ten digits after the point. -/
def ScaledAnswer (parse : String → Option Decimal) (answer : Except ExchangeError Json) : Prop :=
  ∀ body, answer = .ok body →
    Numeric.IsScaled 10 (BinanceAdapter.decimalField parse body "executedQty")

lemma BinanceAdapter.eventTypeOf_mem (status : OrderStatus) :
    eventTypeOf status ∈ reconcileEventTypes := by
  cases status <;> simp [eventTypeOf, reconcileEventTypes]

lemma BinanceAdapter.adapterResult {parse : String → Option Decimal}
    {answer : Except ExchangeError Json} (hanswer : ScaledAnswer parse answer)
    (h : reconcileOrder parse answer snapshot = .ok result) : AdapterResult snapshot result := by
  simp only [reconcileOrder] at h
  split_ifs at h with hterminal
  · cases h
    exact .unchanged
  · cases hbody : answer with
    | error e =>
      rw [hbody] at h
      cases h
    | ok body =>
      rw [hbody] at h
      simp only [mapOrderStatusResponse] at h
      split at h
      · cases h
      · rename_i statusStr hstatus
        split at h
        · cases h
        · rename_i newStatus hnew
          split_ifs at h with hsame hdelta
          · cases h
            exact .unchanged
          · cases h
            refine .filled ?_ (.inr rfl) hdelta ?_
            · simp [eventTypeOf_mem]
            · intro _ hf
              exact (hanswer body hbody).sub hf
          · cases h
            exact .moved (by simp [eventTypeOf_mem])

/-- Fills come with a new status. -/
def ReconcileResult.Settles (result : ReconcileResult) : Prop :=
  result.fillsToAdd = [] ∨ result.newStatus.isSome = true

lemma PaperAdapter.settles {md : MarketDataProvider} {now : Instant}
    (h : reconcileOrder md now snapshot = .ok result) : result.Settles := by
  cases adapterResult h with
  | unchanged => exact .inl rfl
  | moved => exact .inl rfl
  | filled => exact .inr rfl

/-- For every answer of the venue. -/
lemma BinanceAdapter.settles {parse : String → Option Decimal}
    {answer : Except ExchangeError Json} (h : reconcileOrder parse answer snapshot = .ok result) :
    result.Settles := by
  simp only [reconcileOrder] at h
  split_ifs at h with hterminal
  · cases h
    exact .inl rfl
  · cases hbody : answer with
    | error e =>
      rw [hbody] at h
      cases h
    | ok body =>
      rw [hbody] at h
      simp only [mapOrderStatusResponse] at h
      split at h
      · cases h
      · split at h
        · cases h
        · split_ifs at h
          · cases h
            exact .inl rfl
          · cases h
            exact .inr rfl
          · cases h
            exact .inl rfl

/-- Nothing, or another status with one event, which names the order. -/
def ReconcileResult.Announces (result : ReconcileResult) (snapshot : ReconcileSnapshot) : Prop :=
  result = {} ∨ ∃ status payload, result.newStatus = some status ∧ status ≠ snapshot.order.status ∧
    result.events = [⟨BinanceAdapter.eventTypeOf status, payload⟩] ∧
    payload.lookup "order_id" = some (.uuid snapshot.order.orderId)

lemma PaperAdapter.announces {md : MarketDataProvider} {now : Instant}
    (h : reconcileOrder md now snapshot = .ok result) : result.Announces snapshot := by
  simp only [reconcileOrder] at h
  split_ifs at h with hterminal hcancel hremaining
  · cases h
    exact .inl rfl
  · cases h
    exact .inr ⟨.cancelled, _, rfl, by simp [hcancel], rfl, rfl⟩
  · cases h
    exact .inl rfl
  · cases hfill : fillOf md now snapshot with
    | none =>
      rw [hfill] at h
      cases h
      exact .inl rfl
    | some fill =>
      obtain ⟨-, hquantity, -⟩ := eq_of_fillOf hfill
      have hall : snapshot.filled + fill.quantity ≥ snapshot.order.quantity := by
        rw [hquantity]
        linarith
      simp only [hfill, if_pos hall] at h
      cases h
      refine .inr ⟨.filled, _, rfl, fun hfilled => ?_, rfl, rfl⟩
      rw [← hfilled] at hterminal
      exact hterminal rfl

/-- For every answer of the venue. -/
lemma BinanceAdapter.announces {parse : String → Option Decimal}
    {answer : Except ExchangeError Json} (h : reconcileOrder parse answer snapshot = .ok result) :
    result.Announces snapshot := by
  simp only [reconcileOrder] at h
  split_ifs at h with hterminal
  · cases h
    exact .inl rfl
  · cases hbody : answer with
    | error e =>
      rw [hbody] at h
      cases h
    | ok body =>
      rw [hbody] at h
      simp only [mapOrderStatusResponse] at h
      split at h
      · cases h
      · split at h
        · cases h
        · rename_i status hstatus
          split_ifs at h with hsame
          · cases h
            exact .inl rfl
          · cases h
            exact .inr ⟨status, _, rfl, hsame, rfl, rfl⟩
          · cases h
            exact .inr ⟨status, _, rfl, hsame, rfl, rfl⟩

end

/-! ### Trade ids -/

/-- What follows the last separator determines what precedes it. -/
lemma append_cons_inj_of_notMem_right {α : Type} {xs ys ds es : List α} {c : α} (hds : c ∉ ds)
    (hes : c ∉ es) (h : xs ++ c :: ds = ys ++ c :: es) : xs = ys ∧ ds = es := by
  rw [List.append_eq_append_iff] at h
  rcases h with ⟨_ | ⟨a, as⟩, rfl, has⟩ | ⟨_ | ⟨a, as⟩, rfl, has⟩
  · exact ⟨(List.append_nil xs).symm, List.tail_eq_of_cons_eq has⟩
  · have hin : c ∈ ds := by
      rw [List.tail_eq_of_cons_eq has]
      simp
    exact (hds hin).elim
  · exact ⟨List.append_nil ys, (List.tail_eq_of_cons_eq has).symm⟩
  · have hin : c ∈ es := by
      rw [List.tail_eq_of_cons_eq has]
      simp
    exact (hes hin).elim

lemma colon_notMem_toDigits (n : ℕ) : ':' ∉ Nat.toDigits 10 n := by
  intro h
  have hdigit := Nat.isDigit_of_mem_toDigits (by norm_num) (by norm_num) h
  exact absurd hdigit (by decide)

lemma toDigits_inj {n m : ℕ} (h : Nat.toDigits 10 n = Nat.toDigits 10 m) : n = m := by
  rw [← Nat.ofDigitChars_ten_toDigits (n := n), h, Nat.ofDigitChars_ten_toDigits]

lemma toList_paperTradeId (client : String) (n : ℕ) :
    (paperTradeId client n).toList = (client ++ ":paper").toList ++ ':' :: Nat.toDigits 10 n := by
  simp [paperTradeId]

lemma toList_reconcileTradeId (client : String) (n : ℕ) :
    (reconcileTradeId client n).toList =
      (client ++ ":reconcile").toList ++ ':' :: Nat.toDigits 10 n := by
  simp [reconcileTradeId]

/-- A trade id names its order and its number. -/
lemma isTradeId_inj {client client' : String} {n n' : ℕ} {tradeId : String}
    (h : IsTradeId client n tradeId) (h' : IsTradeId client' n' tradeId) :
    client = client' ∧ n = n' := by
  have hparts {stem stem' : String}
      (heq : stem.toList ++ ':' :: Nat.toDigits 10 n = stem'.toList ++ ':' :: Nat.toDigits 10 n') :
      stem = stem' ∧ n = n' := by
    obtain ⟨hstem, hdigits⟩ := append_cons_inj_of_notMem_right (colon_notMem_toDigits n)
      (colon_notMem_toDigits n') heq
    exact ⟨String.toList_inj.mp hstem, toDigits_inj hdigits⟩
  -- the two kinds of ids end differently before the number
  have hkinds {c c' : String} : c ++ ":paper" ≠ c' ++ ":reconcile" := by
    intro heq
    have hlast := congrArg (fun s : String => s.toList.getLast?) heq
    simp at hlast
  rcases h with rfl | rfl <;> rcases h' with h' | h'
  · have heq := congrArg String.toList h'
    rw [toList_paperTradeId, toList_paperTradeId] at heq
    obtain ⟨hstem, hn⟩ := hparts heq
    exact ⟨(String.append_left_inj _).mp hstem, hn⟩
  · have heq := congrArg String.toList h'
    rw [toList_paperTradeId, toList_reconcileTradeId] at heq
    exact (hkinds (hparts heq).1).elim
  · have heq := congrArg String.toList h'
    rw [toList_reconcileTradeId, toList_paperTradeId] at heq
    exact (hkinds (hparts heq).1.symm).elim
  · have heq := congrArg String.toList h'
    rw [toList_reconcileTradeId, toList_reconcileTradeId] at heq
    obtain ⟨hstem, hn⟩ := hparts heq
    exact ⟨(String.append_left_inj _).mp hstem, hn⟩

end Confluence
