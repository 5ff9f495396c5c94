import Confluence.Properties.FillLedger

/-!
# Responses that the tables would refuse

The fields of a response are taken as they are: a missing quote leaves the submitted price, zero for
a market order, and nothing compares the executed quantity with the order's.
-/

namespace Confluence

/-- What the tables of orders, fills and positions demand of a result. -/
structure ReconcileResult.Acceptable (snapshot : ReconcileSnapshot) (result : ReconcileResult) :
    Prop where
  fills : ∀ f ∈ result.fillsToAdd, 0 < f.quantity ∧ 0 < f.price
  within : snapshot.filled + (result.fillsToAdd.map (·.quantity)).sum ≤ snapshot.order.quantity
  filled : result.newStatus = some .filled →
    snapshot.filled + (result.fillsToAdd.map (·.quantity)).sum = snapshot.order.quantity
  symbols : ∀ d ∈ result.positionsDelta, d.symbol = snapshot.order.symbol
  deltas : (result.positionsDelta.map (·.quantityDelta)).sum =
    snapshot.order.side.signed (result.fillsToAdd.map (·.quantity)).sum

/-- The fields of a response with a new status fit the order: nothing above the order's quantity is
newly executed, what is newly executed has a price, and an order reported as filled is. -/
def FieldsFit (parse : String → Option Decimal) (snapshot : ReconcileSnapshot) (resp : Json)
    (status : OrderStatus) : Prop :=
  let executed := BinanceAdapter.decimalField parse resp "executedQty"
  (snapshot.filled < executed → executed ≤ snapshot.order.quantity ∧
    (snapshot.quote < BinanceAdapter.decimalField parse resp "cummulativeQuoteQty" ∨
      0 < BinanceAdapter.decimalField parse resp "price")) ∧
  (status = .filled → max executed snapshot.filled = snapshot.order.quantity)

section

variable {parse : String → Option Decimal} {snapshot : ReconcileSnapshot} {resp : Json}
  {result : ReconcileResult} {status : OrderStatus}

lemma acceptable_empty (hfilled : snapshot.filled ≤ snapshot.order.quantity) :
    ReconcileResult.Acceptable snapshot {} where
  fills := by simp
  within := by simpa using hfilled
  filled := by simp
  symbols := by simp
  deltas := by cases snapshot.order.side <;> simp [OrderSide.signed]

/-- A result without fills is acceptable unless it reports an open order as filled. -/
lemma acceptable_of_no_fill (hfilled : snapshot.filled ≤ snapshot.order.quantity)
    (hstatus : result.newStatus = some status) (hfills : result.fillsToAdd = [])
    (hdeltas : result.positionsDelta = []) :
    result.Acceptable snapshot ↔
      (status = .filled → snapshot.filled = snapshot.order.quantity) := by
  constructor
  · intro h hst
    simpa [hfills] using h.filled (by rw [hstatus, hst])
  · intro h
    refine ⟨by simp [hfills], by simpa [hfills] using hfilled, fun hst => ?_, by simp [hdeltas], ?_⟩
    · rw [hstatus, Option.some.injEq] at hst
      simpa [hfills] using h hst
    · cases snapshot.order.side <;> simp [hfills, hdeltas, OrderSide.signed]

/-- A result with one fill is acceptable when the fill has a quantity, a price and room in the
order. -/
lemma acceptable_of_fill {fill : Fill} (hstatus : result.newStatus = some status)
    (hfills : result.fillsToAdd = [fill])
    (hdeltas : result.positionsDelta =
      [⟨snapshot.order.symbol, snapshot.order.side.signed fill.quantity⟩]) :
    result.Acceptable snapshot ↔
      (0 < fill.quantity ∧ 0 < fill.price) ∧
        snapshot.filled + fill.quantity ≤ snapshot.order.quantity ∧
        (status = .filled → snapshot.filled + fill.quantity = snapshot.order.quantity) := by
  constructor
  · intro h
    refine ⟨h.fills fill (by simp [hfills]), by simpa [hfills] using h.within, fun hst => ?_⟩
    simpa [hfills] using h.filled (by rw [hstatus, hst])
  · rintro ⟨hfill, hwithin, hcomplete⟩
    refine ⟨by simp [hfills, hfill], by simpa [hfills] using hwithin, fun hst => ?_,
      by simp [hdeltas], by simp [hdeltas, hfills]⟩
    rw [hstatus, Option.some.injEq] at hst
    simpa [hfills] using hcomplete hst

/-- A response with a new status gives an acceptable result exactly when its fields fit. -/
lemma acceptable_iff_of_ne (hfilled : snapshot.filled ≤ snapshot.order.quantity)
    (h : BinanceAdapter.responseStatus resp = some status) (hne : status ≠ snapshot.order.status) :
    (∀ result, BinanceAdapter.mapOrderStatusResponse parse snapshot resp = .ok result →
      result.Acceptable snapshot) ↔ FieldsFit parse snapshot resp status := by
  obtain ⟨result, hresult, hstatus, hfills⟩ :=
    BinanceAdapter.mapOrderStatusResponse_of_ne parse snapshot h hne
  have hforall : (∀ r, BinanceAdapter.mapOrderStatusResponse parse snapshot resp = .ok r →
      r.Acceptable snapshot) ↔ result.Acceptable snapshot := by
    simp [hresult]
  rw [hforall, FieldsFit]
  by_cases hnew : 0 < BinanceAdapter.newlyExecuted parse snapshot resp
  · rw [if_pos hnew] at hfills
    have hlt : snapshot.filled < BinanceAdapter.decimalField parse resp "executedQty" :=
      sub_pos.mp hnew
    have htotal : snapshot.filled + BinanceAdapter.newlyExecuted parse snapshot resp =
        BinanceAdapter.decimalField parse resp "executedQty" := by
      rw [BinanceAdapter.newlyExecuted]
      ring
    rw [acceptable_of_fill hstatus hfills.1 hfills.2]
    simp only [BinanceAdapter.responseFill, hnew, true_and, htotal, hlt, true_imp_iff,
      BinanceAdapter.fillPrice_pos_iff hnew, max_eq_left hlt.le]
    rw [and_left_comm, and_assoc]
  · rw [if_neg hnew] at hfills
    have hle : BinanceAdapter.decimalField parse resp "executedQty" ≤ snapshot.filled :=
      not_lt.mp fun h => hnew (sub_pos.mpr h)
    rw [acceptable_of_no_fill hfilled hstatus hfills.1 hfills.2, max_eq_right hle]
    simp [hle.not_gt]

end

/-- A submitted market order of two units without fills. -/
def marketOfTwo : ReconcileSnapshot where
  order :=
    { orderId := ⟨2⟩, clientOrderId := "abc123", symbol := "BTCUSDT", side := .buy
      orderType := .market, quantity := 2, price := none, status := .submitted }
  fills := []

/-- A filled market order reported without its quote. -/
def withoutQuote : Json :=
  .obj [("status", .str "FILLED"), ("executedQty", .str "2"), ("price", .str "0.00000000")]

end Confluence
