import Confluence.Exchange.Adapter

/-!
# Live trading

A live order is reconciled from the answer of the venue's order-status endpoint. The decimal
parser of the answer's text fields is a parameter.
-/

namespace Confluence

/-- `{client_order_id}:reconcile:{n}`. -/
def reconcileTradeId (clientOrderId : String) (n : ℕ) : String :=
  clientOrderId ++ ":reconcile:" ++ toString n

namespace BinanceAdapter

/-- The local status that a venue status stands for. -/
def statusOf : String → Option OrderStatus
  | "NEW" => some .submitted
  | "PARTIALLY_FILLED" => some .partiallyFilled
  | "FILLED" => some .filled
  | "CANCELED" => some .cancelled
  | "EXPIRED" => some .cancelled
  | "REJECTED" => some .rejected
  | "PENDING_CANCEL" => some .cancelRequested
  | _ => none

/-- A text field read as a decimal, zero when it is missing or unreadable. -/
def decimalField (parse : String → Option Decimal) (resp : Json) (key : String) : Decimal :=
  ((resp.getStr key).bind parse).getD 0

/-- The event type under which a new status is audited. -/
def eventTypeOf : OrderStatus → String
  | .filled => "order_filled"
  | .partiallyFilled => "order_partially_filled"
  | .cancelled => "order_cancelled"
  | .rejected => "order_rejected"
  | _ => "exchange_reconciliation_required"

/-- The price of a newly executed quantity `delta`: what it added to the cumulative quote, or the
submitted price when the answer lacks a usable quote. -/
def fillPrice (parse : String → Option Decimal) (snapshot : ReconcileSnapshot) (resp : Json)
    (delta : Decimal) : Decimal :=
  let cumulativeQuote := decimalField parse resp "cummulativeQuoteQty"
  let recordedQuote := (snapshot.fills.map fun f => f.quantity * f.price).sum
  let incrementalQuote := cumulativeQuote - recordedQuote
  let submittedPrice := decimalField parse resp "price"
  if incrementalQuote > 0 then incrementalQuote / delta else submittedPrice

/-- Map an order-status answer to what it changes for the order of the snapshot. -/
def mapOrderStatusResponse (parse : String → Option Decimal) (snapshot : ReconcileSnapshot)
    (resp : Json) : Except ExchangeError ReconcileResult :=
  let order := snapshot.order
  match resp.getStr "status" with
  | none => .error (.marketDataError "missing status in order response")
  | some statusStr =>
    match statusOf statusStr with
    | none => .error (.marketDataError ("unrecognized Binance order status: " ++ statusStr))
    | some newStatus =>
      if newStatus = order.status then .ok {}
      else
        let executedQty := decimalField parse resp "executedQty"
        let alreadyRecorded := snapshot.filled
        let delta := executedQty - alreadyRecorded
        let events : List RiskEvent := [{
          eventType := eventTypeOf newStatus
          payload := [("order_id", .uuid order.orderId), ("binance_status", .text statusStr)] }]
        if delta > 0 then
          .ok {
            newStatus := some newStatus
            fillsToAdd := [{
              exchangeTradeId := reconcileTradeId order.clientOrderId snapshot.fills.length
              quantity := delta
              price := fillPrice parse snapshot resp delta
              fee := 0
              feeAsset := "" }]
            positionsDelta := [{ symbol := order.symbol, quantityDelta := order.side.signed delta }]
            events }
        else .ok { newStatus := some newStatus, events }

/-- `answer` is what the request and the reading of its body gave. -/
def reconcileOrder (parse : String → Option Decimal) (answer : Except ExchangeError Json)
    (snapshot : ReconcileSnapshot) : Except ExchangeError ReconcileResult :=
  if snapshot.order.status.isTerminal then .ok {}
  else
    match answer with
    | .error e => .error e
    | .ok body => mapOrderStatusResponse parse snapshot body

end BinanceAdapter

/-- The live adapter at one instant, with the answer that the venue gives then. -/
def binanceAdapter (parse : String → Option Decimal) (answer : Except ExchangeError Json) :
    ExchangeAdapter where
  mode := .live
  submit _ := .ok { accepted := true, events := [] }
  cancel _ := .ok ()
  reconcileOrder := BinanceAdapter.reconcileOrder parse answer

end Confluence
