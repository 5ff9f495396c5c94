import Confluence.Exchange.Results
import Confluence.Properties.MarketPrice

/-!
# The notional of a limit fill

A limit order is sized with its limit price. A buy never pays more than that; a sell takes the best
bid, which the limit bounds from below only.
-/

namespace Confluence

/-- The price of the book that an order of the side trades at. -/
def BookTop.priceFor (top : BookTop) : OrderSide → Decimal
  | .buy => top.ask
  | .sell => top.bid

/-- The book's price leaves the fill within what was sized. A buy whose numbers the columns of its
row keep exactly needs no condition. -/
def PricedWithin (body : PlaceOrderRequest) (limit remaining : Decimal) (top : BookTop) : Prop :=
  (body.side = .buy ∧ Numeric.IsScaled 10 body.quantity ∧ Numeric.IsScaled 10 limit) ∨
    top.priceFor body.side ≤ limit * (body.quantity / remaining)

section

variable {env : Surroundings} {accountId orderId : Uuid} {body : PlaceOrderRequest} {db : Db}
variable {md : MarketDataProvider} {now : Instant} {top : BookTop}
variable {snapshot : ReconcileSnapshot} {result : ReconcileResult} {fill : Fill}

lemma price_isSome_of_valid (h : validateRequest env body = .ok ()) (hlimit : body.orderType = .limit) :
    ∃ limit, body.price = some limit := by
  cases hprice : body.price with
  | some limit => exact ⟨limit, rfl⟩
  | none =>
    simp only [validateRequest, hlimit, hprice] at h
    split_ifs at h with hblank hquantity
    cases hsymbol : env.symbols.get body.symbol env.symbolsReadAt with
    | none => simp [hsymbol] at h
    | some symbolMeta =>
      simp only [hsymbol, validateOrder, validateLimit, rejectIf] at h
      split_ifs at h <;> cases h

lemma optionalColumn_some {p s : ℕ} {x : Decimal} {y : Option Decimal}
    (h : optionalColumn p s (some x) = .ok y) : ∃ z, Numeric.store p s x = some z ∧ y = some z := by
  obtain ⟨z, hz, h⟩ := column_bind_eq_ok.mp h
  cases h
  exact ⟨z, hz, rfl⟩

/-- The row of an approved limit order, and the limit price that the engine sized it with. -/
lemma row_of_approved {o : OrderRecord} (h : (placeOrder env accountId orderId body db).1.isOk = true)
    (hlimit : body.orderType = .limit)
    (ho : o ∈ (placeOrder env accountId orderId body db).2.orders) (hid : o.id = orderId) :
    ∃ limit q p, body.price = some limit ∧ 0 ≤ limit ∧ 0 < q ∧
      Numeric.store 30 10 body.quantity = some q ∧ Numeric.store 30 10 limit = some p ∧
      (coreIntent body (priceEstimate env body)).notional = body.quantity * limit ∧
      o.snapshot = { orderId, clientOrderId := orderId.simple, symbol := body.symbol,
                     side := body.side, orderType := .limit, quantity := q, price := some p,
                     status := .pending } := by
  obtain ⟨hvalid, account, cfg, -, -, happroved, q, p', hq, hp', hpos, hnew, hdb⟩ :=
    of_placeOrder_isOk h
  obtain ⟨limit, hprice⟩ := price_isSome_of_valid hvalid hlimit
  have heval : (coreIntent body (priceEstimate env body)).price = limit := by
    simp [coreIntent, evaluationPrice, hprice]
  obtain ⟨-, hlimit₀, -⟩ := of_evaluate_approved happroved
  rw [hprice] at hp'
  obtain ⟨p, hp, rfl⟩ := optionalColumn_some hp'
  refine ⟨limit, q, p, hprice, heval ▸ hlimit₀, hpos, hq, hp, ?_, ?_⟩
  · rw [TradeIntent.notional, heval]
    rfl
  · rw [hdb] at ho
    rcases List.mem_append.mp ho with ho | ho
    · exact absurd hid (hnew o ho)
    · rw [List.mem_singleton.mp ho, ← hlimit]
      rfl

/-- The fill of a limit order takes what remains of it, at the book's price. -/
lemma limit_fill (hresult : PaperAdapter.reconcileOrder md now snapshot = .ok result)
    (hfill : fill ∈ result.fillsToAdd) (htype : snapshot.order.orderType = .limit)
    (hbook : md.books snapshot.order.symbol = some top) :
    0 < snapshot.order.quantity - snapshot.filled ∧
      fill.quantity = snapshot.order.quantity - snapshot.filled ∧
      fill.price = top.priceFor snapshot.order.side ∧
      ∃ limit, snapshot.order.price = some limit ∧
        (snapshot.order.side = .buy → fill.price ≤ limit) := by
  obtain ⟨hlt, hoffer⟩ := PaperAdapter.of_mem_fillsToAdd hresult hfill
  have hquantity := (PaperAdapter.eq_of_fillOf hoffer).2.1
  rw [PaperAdapter.fillOf, htype] at hoffer
  obtain ⟨est, limit, hest, hprice, hfillprice, hbuy, -⟩ := MatchingEngine.limit_of_tryFill hoffer
  have hestprice : est.price = top.priceFor snapshot.order.side := by
    simp only [MarketDataProvider.conservativeEstimate, hbook, Option.map_some,
      Option.some.injEq] at hest
    rw [← hest]
    cases snapshot.order.side <;> rfl
  refine ⟨by linarith, hquantity, hfillprice.trans hestprice, limit, hprice, fun hside => ?_⟩
  rw [hfillprice]
  exact hbuy hside

/-- A fill of an approved limit order is worth at most what the engine sized exactly when it is a
buy whose numbers are stored as given, or the book's price is at most the limit scaled by the
ordered over the remaining quantity. -/
theorem fill_notional_le_iff (env : Surroundings) (accountId orderId : Uuid)
    (body : PlaceOrderRequest) (db : Db) (o : OrderRecord) (md : MarketDataProvider) (now : Instant)
    (top : BookTop) (status : OrderStatus) (fills : List FillSnapshot) (result : ReconcileResult)
    (fill : Fill) (happroved : (placeOrder env accountId orderId body db).1.isOk = true)
    (hlimit : body.orderType = .limit)
    (ho : o ∈ (placeOrder env accountId orderId body db).2.orders) (hid : o.id = orderId)
    (hfills : ∀ f ∈ fills, 0 < f.quantity) (hbook : md.books o.symbol = some top)
    (hresult : PaperAdapter.reconcileOrder md now
      { order := { o.snapshot with status }, fills } = .ok result)
    (hfill : fill ∈ result.fillsToAdd) :
    ∃ limit, body.price = some limit ∧
      (fill.quantity * fill.price ≤ (coreIntent body (priceEstimate env body)).notional ↔
        PricedWithin body limit (o.quantity - (fills.map (·.quantity)).sum) top) := by
  obtain ⟨limit, q, p, hprice, hlimit₀, hq₀, hq, hp, hnotional, hrow⟩ :=
    row_of_approved happroved hlimit ho hid
  obtain ⟨hpos, hquantity, hfillprice, limit', hprice', hbuy⟩ :=
    limit_fill hresult hfill (by rw [hrow]) hbook
  refine ⟨limit, hprice, ?_⟩
  have hoq : o.quantity = q := congrArg OrderSnapshot.quantity hrow
  have hside : o.side = body.side := congrArg OrderSnapshot.side hrow
  have hop : o.price = some p := congrArg OrderSnapshot.price hrow
  change 0 < o.quantity - (fills.map (·.quantity)).sum at hpos
  change fill.quantity = o.quantity - (fills.map (·.quantity)).sum at hquantity
  change fill.price = top.priceFor o.side at hfillprice
  change o.price = some limit' at hprice'
  change o.side = .buy → fill.price ≤ limit' at hbuy
  rw [hnotional, hquantity]
  have hscaled : (o.quantity - (fills.map (·.quantity)).sum) * fill.price ≤ body.quantity * limit ↔
      top.priceFor body.side ≤
        limit * (body.quantity / (o.quantity - (fills.map (·.quantity)).sum)) := by
    rw [hfillprice, hside, ← mul_div_assoc, le_div_iff₀ hpos, mul_comm limit, mul_comm (_ - _)]
  rw [PricedWithin, ← hscaled]
  refine ⟨.inr, ?_⟩
  rintro (⟨hbuyside, hqscaled, hlimitscaled⟩ | h)
  · -- the stored numbers are those of the request, the earlier fills only lower the quantity
    have hq' : q = body.quantity := Numeric.eq_of_store hqscaled hq
    have hp' : p = limit := Numeric.eq_of_store hlimitscaled hp
    have hfilled : 0 ≤ (fills.map (·.quantity)).sum :=
      List.sum_nonneg fun x hx => by
        obtain ⟨f, hf, rfl⟩ := List.mem_map.mp hx
        exact (hfills f hf).le
    have hle : fill.price ≤ limit := by
      rw [← hp', show p = limit' from Option.some.inj (hop.symm.trans hprice')]
      exact hbuy (hside.trans hbuyside)
    calc (o.quantity - (fills.map (·.quantity)).sum) * fill.price
        ≤ (o.quantity - (fills.map (·.quantity)).sum) * limit :=
          mul_le_mul_of_nonneg_left hle hpos.le
      _ ≤ body.quantity * limit := by
          refine mul_le_mul_of_nonneg_right ?_ hlimit₀
          rw [hoq, hq']
          linarith
  · exact h

end

/-! ### Orders on an account with equity 1000 -/

def limitOrder (side : OrderSide) : PlaceOrderRequest :=
  { symbol := "BTCUSDT", side, orderType := .limit, quantity := 1, price := some 50 }

/-- The row of the order. -/
def limitRow (side : OrderSide) : OrderRecord :=
  newOrder ⟨7⟩ ⟨1⟩ (Uuid.simple ⟨7⟩) "BTCUSDT" side .limit 1 (some 50) .paper

def quotedAt (price : Decimal) : MarketDataProvider := ⟨fun _ => some ⟨price, price, 0⟩, 10⟩

/-- The submitted order without fills. -/
def limitSnapshot (side : OrderSide) : ReconcileSnapshot :=
  { order := { (limitRow side).snapshot with status := .submitted }, fills := [] }

def limitFill (price : Decimal) : Fill := ⟨paperTradeId (Uuid.simple ⟨7⟩) 0, 1, price, 0, ""⟩

/-- A buy at 50 that fills at 40. -/
theorem fill_notional_le_iff_buy :
    ∃ limit, (limitOrder .buy).price = some limit ∧
      (1 * 40 ≤ (coreIntent (limitOrder .buy) (priceEstimate quotedAt100 (limitOrder .buy))).notional ↔
        PricedWithin (limitOrder .buy) limit (1 - 0) ⟨40, 40, 0⟩) := by
  obtain ⟨result, hresult, hfill⟩ := PaperAdapter.exists_fillsToAdd (quotedAt 40) 0
    (limitSnapshot .buy) (limitFill 40) rfl (by decide) (by decide +kernel)
    (by decide +kernel)
  exact fill_notional_le_iff quotedAt100 ⟨1⟩ ⟨7⟩ (limitOrder .buy) equity1000 (limitRow .buy)
    (quotedAt 40) 0 ⟨40, 40, 0⟩ .submitted [] result (limitFill 40) (by decide +kernel) rfl
    (by decide +kernel) rfl (by simp) rfl hresult hfill

/-- A sell at 50 into a best bid of 100 is sized at 50, which is all that five percent of the equity
allow, and fills for 100. -/
theorem sell_fills_above_limit :
    ¬ ∀ (env : Surroundings) (accountId orderId : Uuid) (body : PlaceOrderRequest) (db : Db)
      (o : OrderRecord) (md : MarketDataProvider) (now : Instant) (top : BookTop)
      (status : OrderStatus) (fills : List FillSnapshot) (result : ReconcileResult) (fill : Fill),
      (placeOrder env accountId orderId body db).1.isOk = true → body.orderType = .limit →
      o ∈ (placeOrder env accountId orderId body db).2.orders → o.id = orderId →
      (∀ f ∈ fills, 0 < f.quantity) → md.books o.symbol = some top →
      PaperAdapter.reconcileOrder md now { order := { o.snapshot with status }, fills } =
        .ok result →
      fill ∈ result.fillsToAdd →
        fill.quantity * fill.price ≤ (coreIntent body (priceEstimate env body)).notional := by
  intro h
  obtain ⟨result, hresult, hfill⟩ := PaperAdapter.exists_fillsToAdd quotedAt100.marketData
    0 (limitSnapshot .sell) (limitFill 100) rfl (by decide) (by decide +kernel) (by decide +kernel)
  have hle := h quotedAt100 ⟨1⟩ ⟨7⟩ (limitOrder .sell) equity1000 (limitRow .sell)
    quotedAt100.marketData 0 ⟨100, 100, 0⟩ .submitted [] result (limitFill 100)
    (by decide +kernel) rfl (by decide +kernel) rfl (by simp) rfl hresult hfill
  have hlt : ¬ (1 : Decimal) * 100 ≤
      (coreIntent (limitOrder .sell) (priceEstimate quotedAt100 (limitOrder .sell))).notional := by
    decide +kernel
  exact hlt hle

end Confluence
