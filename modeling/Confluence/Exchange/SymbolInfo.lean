import Confluence.Exchange.OrderState
import Confluence.Json

/-!
# Symbol metadata from `exchangeInfo`

An entry of the venue's symbol list carries an array of filters. They are read one after the other
over defaults, so that the last filter of a type stands.
-/

namespace Confluence

/-- `Decimal::from_str`: a decimal, or the error's text. -/
abbrev DecimalParser := String → Except String Decimal

def decField (parse : DecimalParser) (v : Json) (key : String) : Except ExchangeError Decimal :=
  match v.getStr key with
  | none => .error (.filterViolation ("missing field " ++ key))
  | some s => (parse s).mapError fun e =>
      .filterViolation ("bad decimal for " ++ key ++ ": " ++ e)

/-- The filters of an entry, as far as they have been read. -/
structure SymbolFilters where
  lotSize : LotSizeFilter := ⟨0, maxDecimal, 0⟩
  marketLotSize : LotSizeFilter := ⟨0, maxDecimal, 0⟩
  priceFilter : PriceFilter := ⟨0, maxDecimal, 0⟩
  notional : NotionalFilter := ⟨none, none, false, false⟩
  percentPrice : PercentPriceRule := .general maxDecimal 0

def parseLotSize (parse : DecimalParser) (f : Json) : Except ExchangeError LotSizeFilter := do
  return { minQty := ← decField parse f "minQty", maxQty := ← decField parse f "maxQty"
           stepSize := ← decField parse f "stepSize" }

def parsePriceFilter (parse : DecimalParser) (f : Json) : Except ExchangeError PriceFilter := do
  return { minPrice := ← decField parse f "minPrice", maxPrice := ← decField parse f "maxPrice"
           tickSize := ← decField parse f "tickSize" }

/-- A bound that is missing or unreadable is absent. -/
def parseNotional (parse : DecimalParser) (f : Json) : NotionalFilter where
  minNotional := (f.getStr "minNotional").bind fun s => (parse s).toOption
  maxNotional := (f.getStr "maxNotional").bind fun s => (parse s).toOption
  applyMinToMarket := (f.getBool "applyMinToMarket").getD false
  applyMaxToMarket := (f.getBool "applyMaxToMarket").getD false

def parsePercentPriceBySide (parse : DecimalParser) (f : Json) :
    Except ExchangeError PercentPriceRule := do
  return .bySide (← decField parse f "bidMultiplierUp") (← decField parse f "bidMultiplierDown")
    (← decField parse f "askMultiplierUp") (← decField parse f "askMultiplierDown")

def parsePercentPrice (parse : DecimalParser) (f : Json) :
    Except ExchangeError PercentPriceRule := do
  return .general (← decField parse f "multiplierUp") (← decField parse f "multiplierDown")

/-- One round of the loop over the filters. -/
def readFilter (parse : DecimalParser) (acc : SymbolFilters) (f : Json) :
    Except ExchangeError SymbolFilters :=
  match f.getStr "filterType" with
  | some "LOT_SIZE" => do return { acc with lotSize := ← parseLotSize parse f }
  | some "MARKET_LOT_SIZE" => do return { acc with marketLotSize := ← parseLotSize parse f }
  | some "PRICE_FILTER" => do return { acc with priceFilter := ← parsePriceFilter parse f }
  | some "NOTIONAL" => .ok { acc with notional := parseNotional parse f }
  | some "PERCENT_PRICE_BY_SIDE" => do
    return { acc with percentPrice := ← parsePercentPriceBySide parse f }
  | some "PERCENT_PRICE" => do return { acc with percentPrice := ← parsePercentPrice parse f }
  | _ => .ok acc

def symbolStatusOf : Option String → SymbolStatus
  | some "TRADING" => .trading
  | some "BREAK" => .break
  | some "HALT" => .halt
  | some "AUCTION_MATCH" => .auctionMatch
  | _ => .break

def orderTypeOf : Option String → Option OrderType
  | some "LIMIT" => some .limit
  | some "MARKET" => some .market
  | _ => none

/-- The filter objects of an entry. -/
def entryFilters (entry : Json) : List Json := (entry.getArray "filters").getD []

/-- One entry of the venue's symbol list. -/
def parseSymbolMeta (parse : DecimalParser) (entry : Json) : Except ExchangeError SymbolMeta := do
  let some symbol := entry.getStr "symbol" | .error (.filterViolation "missing symbol")
  let status := symbolStatusOf (entry.getStr "status")
  let allowedOrderTypes :=
    ((entry.getArray "orderTypes").map (·.filterMap fun t => orderTypeOf t.asStr)).getD []
  let filters ← (entryFilters entry).foldlM (readFilter parse) {}
  return { symbol, status, allowedOrderTypes, lotSize := filters.lotSize
           marketLotSize := filters.marketLotSize, priceFilter := filters.priceFilter
           notional := filters.notional, percentPrice := filters.percentPrice }

end Confluence
