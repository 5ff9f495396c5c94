import Confluence.Exchange.OrderState
import Confluence.Json

/-!
# Exchange adapters

An adapter answers for one venue. It works on plain snapshots that the server assembles, and
returns what the server is to persist.
-/

namespace Confluence

/-- Plain view of an order row. -/
structure OrderSnapshot where
  orderId : Uuid
  clientOrderId : String
  symbol : String
  side : OrderSide
  orderType : OrderType
  quantity : Decimal
  price : Option Decimal
  status : OrderStatus
deriving DecidableEq

structure FillSnapshot where
  exchangeTradeId : String
  quantity : Decimal
  price : Decimal
deriving DecidableEq

/-- What an adapter needs to reconcile one order. -/
structure ReconcileSnapshot where
  order : OrderSnapshot
  fills : List FillSnapshot
deriving DecidableEq

/-- The quantity that the recorded fills sum to. -/
def ReconcileSnapshot.filled (snapshot : ReconcileSnapshot) : Decimal :=
  (snapshot.fills.map (·.quantity)).sum

structure PositionDelta where
  symbol : String
  quantityDelta : Decimal
deriving DecidableEq

structure RiskEvent where
  eventType : String
  payload : Payload

/-- A follow-up command that reconciliation asks for. -/
structure ExchangeCommand where
  commandType : String
  idempotencyKey : String
  payload : Json

/-- Result of reconciling one order. -/
structure ReconcileResult where
  newStatus : Option OrderStatus := none
  fillsToAdd : List Fill := []
  positionsDelta : List PositionDelta := []
  events : List RiskEvent := []
  command : Option ExchangeCommand := none

instance : Inhabited ReconcileResult := ⟨{}⟩

structure SubmitResult where
  accepted : Bool
  events : List RiskEvent

structure ExchangeAdapter where
  mode : ExchangeMode
  submit : OrderSnapshot → Except ExchangeError SubmitResult
  cancel : OrderSnapshot → Except ExchangeError Unit
  reconcileOrder : ReconcileSnapshot → Except ExchangeError ReconcileResult

/-- The position effect of a fill: bought quantity adds, sold quantity takes away. -/
def OrderSide.signed (side : OrderSide) (quantity : Decimal) : Decimal :=
  match side with
  | .buy => quantity
  | .sell => -quantity

end Confluence
