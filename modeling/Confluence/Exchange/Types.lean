import Confluence.Core.Types

/-!
# Types of the exchange layer
-/

namespace Confluence

inductive OrderSide
  | buy
  | sell
deriving DecidableEq

inductive OrderType
  | limit
  | market
deriving DecidableEq

/-- Order lifecycle state. -/
inductive OrderStatus
  | pending
  | submitted
  | partiallyFilled
  | filled
  | cancelRequested
  | cancelled
  | rejected
deriving DecidableEq

def OrderStatus.isTerminal : OrderStatus → Bool
  | filled | cancelled | rejected => true
  | _ => false

/-- `{:?}`. -/
def OrderStatus.debug : OrderStatus → String
  | pending => "Pending"
  | submitted => "Submitted"
  | partiallyFilled => "PartiallyFilled"
  | filled => "Filled"
  | cancelRequested => "CancelRequested"
  | cancelled => "Cancelled"
  | rejected => "Rejected"

inductive ExchangeMode
  | paper
  | live
deriving DecidableEq

/-- A single fill against an order. -/
structure Fill where
  exchangeTradeId : String
  quantity : Decimal
  price : Decimal
  fee : Decimal
  feeAsset : String
deriving DecidableEq

/-- `LOT_SIZE` or `MARKET_LOT_SIZE`. -/
structure LotSizeFilter where
  minQty : Decimal
  maxQty : Decimal
  stepSize : Decimal
deriving DecidableEq

structure PriceFilter where
  minPrice : Decimal
  maxPrice : Decimal
  tickSize : Decimal
deriving DecidableEq

structure NotionalFilter where
  minNotional : Option Decimal
  maxNotional : Option Decimal
  applyMinToMarket : Bool
  applyMaxToMarket : Bool
deriving DecidableEq

/-- `PERCENT_PRICE` and `PERCENT_PRICE_BY_SIDE`. -/
inductive PercentPriceRule
  | general (multiplierUp multiplierDown : Decimal)
  | bySide (bidMultiplierUp bidMultiplierDown askMultiplierUp askMultiplierDown : Decimal)
deriving DecidableEq

inductive SymbolStatus
  | trading
  | break
  | halt
  | auctionMatch
deriving DecidableEq

/-- Exchange metadata of one trading symbol. -/
structure SymbolMeta where
  symbol : String
  status : SymbolStatus
  allowedOrderTypes : List OrderType
  lotSize : LotSizeFilter
  marketLotSize : LotSizeFilter
  priceFilter : PriceFilter
  notional : NotionalFilter
  percentPrice : PercentPriceRule
deriving DecidableEq

inductive PriceSource
  | bestBid
  | bestAsk
  | lastTrade
deriving DecidableEq

/-- A price estimate for notional checks. -/
structure PriceEstimate where
  price : Decimal
  source : PriceSource
  isFresh : Bool
deriving DecidableEq

/-- The worst-case side of the book. -/
structure ConservativePriceEstimate where
  price : Decimal
  isFresh : Bool
deriving DecidableEq

/-- An intent to place an order. The price is required for `limit` and ignored for `market`. -/
structure OrderIntent where
  symbol : String
  side : OrderSide
  orderType : OrderType
  quantity : Decimal
  price : Option Decimal
deriving DecidableEq

end Confluence
