import Confluence.Exchange.SymbolInfo

/-!
# Filters as an order sees them

Each filter object of an entry on its own, with what it demands of an order. The parser keeps the
last filter of each kind; the two percent-price filters are of one kind, since they share a slot.
-/

namespace Confluence

inductive FilterKind
  | lotSize
  | marketLotSize
  | priceFilter
  | notional
  | percentPrice
  | other
deriving DecidableEq

/-- A filter object, read. -/
inductive Filter
  | lotSize (f : LotSizeFilter)
  | marketLotSize (f : LotSizeFilter)
  | priceFilter (f : PriceFilter)
  | notional (f : NotionalFilter)
  | percentPrice (rule : PercentPriceRule)
  | other

def Filter.kind : Filter → FilterKind
  | lotSize _ => .lotSize
  | marketLotSize _ => .marketLotSize
  | priceFilter _ => .priceFilter
  | notional _ => .notional
  | percentPrice _ => .percentPrice
  | other => .other

def parseFilter (parse : DecimalParser) (f : Json) : Except ExchangeError Filter :=
  match f.getStr "filterType" with
  | some "LOT_SIZE" => (parseLotSize parse f).map .lotSize
  | some "MARKET_LOT_SIZE" => (parseLotSize parse f).map .marketLotSize
  | some "PRICE_FILTER" => (parsePriceFilter parse f).map .priceFilter
  | some "NOTIONAL" => .ok (.notional (parseNotional parse f))
  | some "PERCENT_PRICE_BY_SIDE" => (parsePercentPriceBySide parse f).map .percentPrice
  | some "PERCENT_PRICE" => (parsePercentPrice parse f).map .percentPrice
  | _ => .ok .other

/-! ### What a filter demands -/

def LotSizeFilter.Admits (f : LotSizeFilter) (quantity : Decimal) : Prop :=
  f.minQty ≤ quantity ∧ quantity ≤ f.maxQty ∧ ∃ k : ℤ, quantity = k * f.stepSize

def PriceFilter.Admits (f : PriceFilter) (price : Decimal) : Prop :=
  f.minPrice ≤ price ∧ price ≤ f.maxPrice ∧ ∃ k : ℤ, price = k * f.tickSize

def NotionalFilter.Admits (f : NotionalFilter) (orderType : OrderType) (notional : Decimal) :
    Prop :=
  (∀ min ∈ f.minNotional, (orderType = .market → f.applyMinToMarket = true) → min ≤ notional) ∧
    ∀ max ∈ f.maxNotional, (orderType = .market → f.applyMaxToMarket = true) → notional ≤ max

def PercentPriceRule.Admits (rule : PercentPriceRule) (side : OrderSide)
    (price reference : Decimal) : Prop :=
  match rule with
  | .general up down => reference * down ≤ price ∧ price ≤ reference * up
  | .bySide bidUp bidDown askUp askDown =>
    match side with
    | .buy => reference * bidDown ≤ price ∧ price ≤ reference * bidUp
    | .sell => reference * askDown ≤ price ∧ price ≤ reference * askUp

/-- The filter is satisfied by an order of this price, or applies to the other order type. -/
def Filter.Admits (f : Filter) (intent : OrderIntent) (price : Decimal) (est : PriceEstimate) :
    Prop :=
  match f with
  | lotSize f => intent.orderType = .limit → f.Admits intent.quantity
  | marketLotSize f => intent.orderType = .market → f.Admits intent.quantity
  | priceFilter f => intent.orderType = .limit → f.Admits price
  | notional f => f.Admits intent.orderType (intent.quantity * price)
  | percentPrice rule => intent.orderType = .limit → rule.Admits intent.side price est.price
  | other => True

/-! ### The filters that the parser keeps -/

/-- The last filter of a kind. -/
def lastOfKind (k : FilterKind) (fs : List Filter) : Option Filter :=
  fs.reverse.find? fun f => f.kind = k

namespace SymbolFilters

def put (acc : SymbolFilters) : Filter → SymbolFilters
  | .lotSize f => { acc with lotSize := f }
  | .marketLotSize f => { acc with marketLotSize := f }
  | .priceFilter f => { acc with priceFilter := f }
  | .notional f => { acc with notional := f }
  | .percentPrice rule => { acc with percentPrice := rule }
  | .other => acc

/-- The filter stands in its slot. -/
def Holds (s : SymbolFilters) : Filter → Prop
  | .lotSize f => s.lotSize = f
  | .marketLotSize f => s.marketLotSize = f
  | .priceFilter f => s.priceFilter = f
  | .notional f => s.notional = f
  | .percentPrice rule => s.percentPrice = rule
  | .other => True

/-- Both have the same filter in the slot of the kind. -/
def Agree (s s' : SymbolFilters) : FilterKind → Prop
  | .lotSize => s.lotSize = s'.lotSize
  | .marketLotSize => s.marketLotSize = s'.marketLotSize
  | .priceFilter => s.priceFilter = s'.priceFilter
  | .notional => s.notional = s'.notional
  | .percentPrice => s.percentPrice = s'.percentPrice
  | .other => True

variable {s : SymbolFilters} {f g : Filter} {k : FilterKind} {fs : List Filter}

lemma holds_put (s : SymbolFilters) (f : Filter) : (s.put f).Holds f := by
  cases f <;> simp [put, Holds]

/-- A filter leaves the slots of the other kinds alone. -/
lemma holds_put_iff (h : g.kind ≠ f.kind) : (s.put g).Holds f ↔ s.Holds f := by
  cases f <;> cases g <;> first | rfl | exact absurd rfl h

lemma agree_refl (s : SymbolFilters) (k : FilterKind) : s.Agree s k := by
  cases k <;> trivial

lemma agree_put_iff (h : g.kind ≠ k) (s' : SymbolFilters) : (s.put g).Agree s' k ↔ s.Agree s' k := by
  cases k <;> cases g <;> first | rfl | exact absurd rfl h

end SymbolFilters

lemma lastOfKind_append (k : FilterKind) (fs : List Filter) (g : Filter) :
    lastOfKind k (fs ++ [g]) = if g.kind = k then some g else lastOfKind k fs := by
  by_cases h : g.kind = k <;> simp [lastOfKind, h]

lemma kind_of_lastOfKind {k : FilterKind} {fs : List Filter} {f : Filter}
    (h : lastOfKind k fs = some f) : f.kind = k := by
  simpa using List.find?_some h

lemma mem_of_lastOfKind {k : FilterKind} {fs : List Filter} {f : Filter}
    (h : lastOfKind k fs = some f) : f ∈ fs :=
  List.mem_reverse.mp (List.mem_of_find?_eq_some h)

lemma lastOfKind_eq_none {k : FilterKind} {fs : List Filter} :
    lastOfKind k fs = none ↔ ∀ f ∈ fs, f.kind ≠ k := by
  simp [lastOfKind, List.find?_eq_none]

/-- The last filter of a kind stands after the loop. -/
lemma holds_foldl_put {k : FilterKind} {fs : List Filter} {f : Filter} (acc : SymbolFilters)
    (h : lastOfKind k fs = some f) : (fs.foldl SymbolFilters.put acc).Holds f := by
  induction fs using List.reverseRecOn with
  | nil => cases h
  | append_singleton fs g ih =>
    rw [List.foldl_append, List.foldl_cons, List.foldl_nil]
    rw [lastOfKind_append] at h
    split_ifs at h with hkind
    · cases h
      exact SymbolFilters.holds_put _ _
    · rw [SymbolFilters.holds_put_iff (by rw [kind_of_lastOfKind h]; exact hkind)]
      exact ih h

/-- The default of a kind without filters stands after the loop. -/
lemma agree_foldl_put {k : FilterKind} {fs : List Filter} (acc : SymbolFilters)
    (h : lastOfKind k fs = none) : (fs.foldl SymbolFilters.put acc).Agree acc k := by
  induction fs using List.reverseRecOn with
  | nil => exact SymbolFilters.agree_refl _ _
  | append_singleton fs g ih =>
    rw [List.foldl_append, List.foldl_cons, List.foldl_nil]
    rw [lastOfKind_append] at h
    split_ifs at h with hkind
    rw [SymbolFilters.agree_put_iff hkind]
    exact ih h

/-- A round of the loop reads the filter and puts it into its slot. -/
lemma readFilter_eq (parse : DecimalParser) (acc : SymbolFilters) (f : Json) :
    readFilter parse acc f = (parseFilter parse f).map acc.put := by
  unfold readFilter parseFilter
  generalize f.getStr "filterType" = filterType
  split
  · cases parseLotSize parse f <;> rfl
  · cases parseLotSize parse f <;> rfl
  · cases parsePriceFilter parse f <;> rfl
  · rfl
  · cases parsePercentPriceBySide parse f <;> rfl
  · cases parsePercentPrice parse f <;> rfl
  · simp_all [Except.map, SymbolFilters.put]

/-- The loop reads every filter, the first error ending it, and puts them in one after the other. -/
lemma foldlM_readFilter (parse : DecimalParser) (acc : SymbolFilters) (fs : List Json) :
    fs.foldlM (readFilter parse) acc =
      (fs.mapM (parseFilter parse)).map (·.foldl SymbolFilters.put acc) := by
  induction fs generalizing acc with
  | nil => rfl
  | cons f fs ih =>
    rw [List.foldlM_cons, List.mapM_cons, readFilter_eq]
    cases parseFilter parse f with
    | error e => rfl
    | ok g =>
      change fs.foldlM (readFilter parse) (acc.put g) = _
      rw [ih]
      cases fs.mapM (parseFilter parse) <;> rfl

/-- The slots of a symbol's metadata. -/
def SymbolMeta.filters (m : SymbolMeta) : SymbolFilters where
  lotSize := m.lotSize
  marketLotSize := m.marketLotSize
  priceFilter := m.priceFilter
  notional := m.notional
  percentPrice := m.percentPrice

/-- An accepted entry has readable filters, and its metadata keeps the last of each kind. -/
lemma of_parseSymbolMeta {parse : DecimalParser} {entry : Json} {m : SymbolMeta}
    (h : parseSymbolMeta parse entry = .ok m) :
    m.status = symbolStatusOf (entry.getStr "status") ∧
      m.allowedOrderTypes = ((entry.getArray "orderTypes").map
        (·.filterMap fun t => orderTypeOf t.asStr)).getD [] ∧
      ∃ fs, (entryFilters entry).mapM (parseFilter parse) = .ok fs ∧
        m.filters = fs.foldl SymbolFilters.put {} := by
  unfold parseSymbolMeta at h
  cases hsymbol : entry.getStr "symbol" with
  | none =>
    rw [hsymbol] at h
    cases h
  | some symbol =>
    rw [hsymbol, foldlM_readFilter] at h
    cases hfilters : (entryFilters entry).mapM (parseFilter parse) with
    | error e =>
      rw [hfilters] at h
      cases h
    | ok fs =>
      rw [hfilters] at h
      cases h
      exact ⟨rfl, rfl, fs, rfl, rfl⟩

end Confluence
