import Confluence.Exchange.Paper
import Confluence.Exchange.Quantize

/-!
# Order validation

Checks of an order intent against the exchange filters of its symbol. They run before any
transaction opens.
-/

namespace Confluence

def SymbolStatus.debug : SymbolStatus → String
  | trading => "Trading"
  | .break => "Break"
  | halt => "Halt"
  | auctionMatch => "AuctionMatch"

def OrderType.debug : OrderType → String
  | limit => "Limit"
  | market => "Market"

def OrderSide.debug : OrderSide → String
  | buy => "Buy"
  | sell => "Sell"

structure ValidationError where
  msg : Message
deriving DecidableEq

abbrev Validation := Except ValidationError Unit

/-- `return Err(reject(msg))` when `bad` holds. -/
def rejectIf (bad : Prop) [Decidable bad] (msg : Message) : Validation :=
  if bad then .error ⟨msg⟩ else .ok ()

/-- `PERCENT_PRICE` and `PERCENT_PRICE_BY_SIDE`; without a reference price nothing is bounded. -/
def checkPercentPrice (side : OrderSide) (price : Decimal) (rule : PercentPriceRule)
    (priceEst : Option PriceEstimate) : Validation :=
  match priceEst with
  | none => .ok ()
  | some est =>
    let reference := est.price
    match rule with
    | .general multiplierUp multiplierDown =>
      let upper := reference * multiplierUp
      let lower := reference * multiplierDown
      rejectIf (price > upper ∨ price < lower)
        ["price ", price, " outside PERCENT_PRICE bounds [", lower, ", ", upper, "]"]
    | .bySide bidUp bidDown askUp askDown =>
      let (up, down) :=
        match side with
        | .buy => (bidUp, bidDown)
        | .sell => (askUp, askDown)
      let upper := reference * up
      let lower := reference * down
      rejectIf (price > upper ∨ price < lower)
        ["price ", price, " outside PERCENT_PRICE_BY_SIDE bounds [", lower, ", ", upper, "] for ",
          side.debug]

/-- `NOTIONAL`: both bounds, each applied to market orders only under its flag. -/
def checkNotional (quantity price : Decimal) (isMarket : Bool) (filter : NotionalFilter) :
    Validation := do
  let notional := quantity * price
  if let some min := filter.minNotional then
    let applies := !isMarket || filter.applyMinToMarket
    rejectIf (applies ∧ notional < min) ["notional ", notional, " below MIN_NOTIONAL ", min]
  if let some max := filter.maxNotional then
    let applies := !isMarket || filter.applyMaxToMarket
    rejectIf (applies ∧ notional > max) ["notional ", notional, " above MAX_NOTIONAL ", max]

def validateLimit (intent : OrderIntent) (symbol : SymbolMeta)
    (priceEst : Option PriceEstimate) : Validation :=
  match intent.price with
  | none => .error ⟨["limit order requires a price"]⟩
  | some price => do
    let pf := symbol.priceFilter
    rejectIf (price < pf.minPrice ∨ price > pf.maxPrice)
      ["price ", price, " outside [", pf.minPrice, ", ", pf.maxPrice, "] for ", symbol.symbol]
    rejectIf (isAligned price pf.tickSize = false)
      ["price ", price, " not aligned to tick size ", pf.tickSize, "; nearest valid price is ",
        qdown price pf.tickSize]
    checkPercentPrice intent.side price symbol.percentPrice priceEst
    checkNotional intent.quantity price false symbol.notional

def validateMarket (intent : OrderIntent) (symbol : SymbolMeta)
    (priceEst : Option PriceEstimate) : Validation :=
  match priceEst with
  | none => .error ⟨["no price estimate available for market order"]⟩
  | some est => do
    rejectIf (est.isFresh = false) ["market data feed is stale; market order rejected"]
    checkNotional intent.quantity est.price true symbol.notional

/-- Status, type and lot checks, then those of the order type. -/
def validateOrder (intent : OrderIntent) (symbol : SymbolMeta)
    (priceEst : Option PriceEstimate) : Validation := do
  rejectIf (symbol.status ≠ .trading)
    ["symbol ", symbol.symbol, " is not currently trading (status: ", symbol.status.debug, ")"]
  rejectIf (intent.orderType ∉ symbol.allowedOrderTypes)
    ["order type ", intent.orderType.debug, " not allowed for ", symbol.symbol]
  let lot :=
    match intent.orderType with
    | .market => symbol.marketLotSize
    | .limit => symbol.lotSize
  rejectIf (intent.quantity < lot.minQty ∨ intent.quantity > lot.maxQty)
    ["quantity ", intent.quantity, " outside [", lot.minQty, ", ", lot.maxQty, "] for ",
      symbol.symbol]
  rejectIf (isAligned intent.quantity lot.stepSize = false)
    ["quantity ", intent.quantity, " not aligned to step size ", lot.stepSize,
      "; nearest valid quantity is ", qdown intent.quantity lot.stepSize]
  match intent.orderType with
  | .limit => validateLimit intent symbol priceEst
  | .market => validateMarket intent symbol priceEst

/-! ### Symbol metadata -/

/-- Exchange metadata as of its last refresh. -/
structure SymbolMetadataStore where
  symbols : String → Option SymbolMeta
  lastRefreshed : Option Instant
  maxAge : ℕ

/-- The metadata of a symbol, `none` for an unknown symbol and for all of them when stale. -/
def SymbolMetadataStore.get (store : SymbolMetadataStore) (symbol : String) (now : Instant) :
    Option SymbolMeta := do
  let refreshed ← store.lastRefreshed
  if now - refreshed > store.maxAge then none else store.symbols symbol

end Confluence
