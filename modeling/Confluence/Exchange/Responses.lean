import Confluence.Exchange.Binance

/-!
# Order-status responses

What reconciliation makes of a response, by the status and the totals that the response gives.
-/

namespace Confluence

/-- The quote that the recorded fills sum to. -/
def ReconcileSnapshot.quote (snapshot : ReconcileSnapshot) : Decimal :=
  (snapshot.fills.map fun f => f.quantity * f.price).sum

namespace BinanceAdapter

/-- The local status that a response stands for. -/
def responseStatus (resp : Json) : Option OrderStatus :=
  (resp.getStr "status").bind statusOf

/-- The quantity that the response adds to the recorded one. -/
def newlyExecuted (parse : String → Option Decimal) (snapshot : ReconcileSnapshot) (resp : Json) :
    Decimal :=
  decimalField parse resp "executedQty" - snapshot.filled

/-- The fill of the newly executed quantity. -/
def responseFill (parse : String → Option Decimal) (snapshot : ReconcileSnapshot) (resp : Json) :
    Fill where
  exchangeTradeId := reconcileTradeId snapshot.order.clientOrderId snapshot.fills.length
  quantity := newlyExecuted parse snapshot resp
  price := fillPrice parse snapshot resp (newlyExecuted parse snapshot resp)
  fee := 0
  feeAsset := ""

variable {parse : String → Option Decimal} {snapshot : ReconcileSnapshot} {resp : Json}
  {result : ReconcileResult} {status : OrderStatus}

/-- A response is refused for its status only. -/
lemma mapOrderStatusResponse_of_none (h : responseStatus resp = none) :
    ¬ ∃ result, mapOrderStatusResponse parse snapshot resp = .ok result := by
  rintro ⟨result, hresult⟩
  simp only [responseStatus, Option.bind_eq_none_iff] at h
  unfold mapOrderStatusResponse at hresult
  cases hstatus : resp.getStr "status" with
  | none => simp [hstatus] at hresult
  | some statusStr => simp [hstatus, h statusStr hstatus] at hresult

/-- A response under the local status changes nothing, whatever its totals. -/
lemma mapOrderStatusResponse_of_same (h : responseStatus resp = some snapshot.order.status) :
    mapOrderStatusResponse parse snapshot resp = .ok {} := by
  obtain ⟨statusStr, hstatus, hnew⟩ := Option.bind_eq_some_iff.mp h
  simp [mapOrderStatusResponse, hstatus, hnew]

/-- A response under another status gives that status and the newly executed quantity as one
fill. -/
lemma mapOrderStatusResponse_of_ne (parse : String → Option Decimal)
    (snapshot : ReconcileSnapshot) (h : responseStatus resp = some status)
    (hne : status ≠ snapshot.order.status) :
    ∃ result, mapOrderStatusResponse parse snapshot resp = .ok result ∧
      result.newStatus = some status ∧
      if 0 < newlyExecuted parse snapshot resp then
        result.fillsToAdd = [responseFill parse snapshot resp] ∧
          result.positionsDelta = [⟨snapshot.order.symbol,
            snapshot.order.side.signed (newlyExecuted parse snapshot resp)⟩]
      else result.fillsToAdd = [] ∧ result.positionsDelta = [] := by
  obtain ⟨statusStr, hstatus, hnew⟩ := Option.bind_eq_some_iff.mp h
  simp only [mapOrderStatusResponse, hstatus, hnew, if_neg hne]
  by_cases hdelta : 0 < newlyExecuted parse snapshot resp
  · have hdelta' : decimalField parse resp "executedQty" - snapshot.filled > 0 := hdelta
    simp only [if_pos hdelta, if_pos hdelta']
    exact ⟨_, rfl, rfl, rfl, rfl⟩
  · have hdelta' : ¬ decimalField parse resp "executedQty" - snapshot.filled > 0 := hdelta
    simp only [if_neg hdelta, if_neg hdelta']
    exact ⟨_, rfl, rfl, rfl, rfl⟩

/-- A quote above the recorded one prices the new quantity. -/
lemma fillPrice_mul (parse : String → Option Decimal) {delta : Decimal} (hdelta : delta ≠ 0)
    (hquote : snapshot.quote < decimalField parse resp "cummulativeQuoteQty") :
    delta * fillPrice parse snapshot resp delta =
      decimalField parse resp "cummulativeQuoteQty" - snapshot.quote := by
  have hpos : decimalField parse resp "cummulativeQuoteQty" - snapshot.quote > 0 := by linarith
  have hpos' : decimalField parse resp "cummulativeQuoteQty" -
      (snapshot.fills.map fun f => f.quantity * f.price).sum > 0 := hpos
  simp only [fillPrice, if_pos hpos']
  exact mul_div_cancel₀ _ hdelta

/-- The price of a fill is positive when the response gives a quote above the recorded one or a
positive submitted price. -/
lemma fillPrice_pos_iff {delta : Decimal} (hdelta : 0 < delta) :
    0 < fillPrice parse snapshot resp delta ↔
      snapshot.quote < decimalField parse resp "cummulativeQuoteQty" ∨
        0 < decimalField parse resp "price" := by
  simp only [fillPrice]
  by_cases hquote : snapshot.quote < decimalField parse resp "cummulativeQuoteQty"
  · have hpos : decimalField parse resp "cummulativeQuoteQty" -
        (snapshot.fills.map fun f => f.quantity * f.price).sum > 0 := sub_pos.mpr hquote
    rw [if_pos hpos]
    exact ⟨fun _ => .inl hquote, fun _ => div_pos hpos hdelta⟩
  · have hneg : ¬ decimalField parse resp "cummulativeQuoteQty" -
        (snapshot.fills.map fun f => f.quantity * f.price).sum > 0 :=
      fun h => hquote (sub_pos.mp h)
    rw [if_neg hneg]
    exact ⟨.inr, fun h => h.resolve_left hquote⟩

end BinanceAdapter

end Confluence
