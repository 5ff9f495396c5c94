import Confluence.Exchange.Filters
import Confluence.Server.CheckedValidators

/-!
# Overflow in order validation

An absent percent-price filter is read as the multiplier `Decimal::MAX`, and the validation
multiplies with it: every estimate above one overflows. The other quotients and products of a
validation are those of its filters and of the order.
-/

namespace Confluence

/-- Without a percent-price filter the upper multiplier is the largest decimal. -/
lemma percentPrice_of_absent {parse : DecimalParser} {entry : Json} {m : SymbolMeta}
    {fs : List Filter} (h : parseSymbolMeta parse entry = .ok m)
    (hfs : (entryFilters entry).mapM (parseFilter parse) = .ok fs)
    (hnone : ∀ f ∈ fs, f.kind ≠ .percentPrice) : m.percentPrice = .general maxDecimal 0 := by
  obtain ⟨-, -, fs', hfs', hfilters⟩ := of_parseSymbolMeta h
  obtain rfl : fs = fs' := Except.ok.inj (hfs.symm.trans hfs')
  have hagree := agree_foldl_put {} (lastOfKind_eq_none.mpr hnone)
  rw [← hfilters] at hagree
  exact hagree

/-- Such a filter bounds nothing only while the estimate is at most one. -/
lemma percentFits_of_absent {side : OrderSide} {est : PriceEstimate} (hpos : 0 < est.price) :
    Checked.PercentFits side (.general maxDecimal 0) (some est) ↔ est.price ≤ 1 := by
  have hmax : 0 < maxDecimal := by norm_num [maxDecimal]
  simp only [Checked.PercentFits, PercentPriceRule.multipliers, Option.mem_some_iff, forall_eq',
    FitsDecimal, mul_zero, abs_zero, maxDecimal_nonneg, and_true]
  rw [abs_of_pos (mul_pos hpos hmax)]
  exact mul_le_iff_le_one_left hmax

/-- A validation returns a verdict exactly when the quotients and products of the checks that it
reaches fit a decimal. -/
theorem validateOrder_returns_iff (intent : OrderIntent) (symbol : SymbolMeta)
    (priceEst : Option PriceEstimate) :
    (∃ verdict, (Checked.validateOrder intent symbol priceEst).run = some verdict) ↔
      Checked.OrderFits intent symbol priceEst :=
  (Checked.computes_validateOrder intent symbol priceEst).exists_iff

/-! ### An entry without a percent-price filter -/

def parseBound : DecimalParser
  | "1" => .ok 1
  | "1000" => .ok 1000
  | _ => .error "Invalid decimal: unknown character"

/-- A trading symbol with a lot and a price filter. -/
def entryWithoutPercentPrice : Json :=
  .obj [("symbol", .str "BTCUSDT"), ("status", .str "TRADING"),
    ("orderTypes", .arr [.str "LIMIT", .str "MARKET"]),
    ("filters", .arr [
      .obj [("filterType", .str "LOT_SIZE"), ("minQty", .str "1"), ("maxQty", .str "1000"),
        ("stepSize", .str "1")],
      .obj [("filterType", .str "PRICE_FILTER"), ("minPrice", .str "1"), ("maxPrice", .str "1000"),
        ("tickSize", .str "1")]])]

/-- What the parser makes of it. -/
def metaWithoutPercentPrice : SymbolMeta where
  symbol := "BTCUSDT"
  status := .trading
  allowedOrderTypes := [.limit, .market]
  lotSize := ⟨1, 1000, 1⟩
  marketLotSize := ⟨0, maxDecimal, 0⟩
  priceFilter := ⟨1, 1000, 1⟩
  notional := ⟨none, none, false, false⟩
  percentPrice := .general maxDecimal 0

lemma parseSymbolMeta_withoutPercentPrice :
    parseSymbolMeta parseBound entryWithoutPercentPrice = .ok metaWithoutPercentPrice := rfl

/-- An estimate of 100 times the largest decimal overflows. -/
theorem validateOrder_overflows :
    ¬ ∀ (parse : DecimalParser) (entry : Json) (symbol : SymbolMeta),
      parseSymbolMeta parse entry = .ok symbol →
      ∀ (intent : OrderIntent) (est : PriceEstimate), 0 < est.price →
        ∃ verdict, (Checked.validateOrder intent symbol (some est)).run = some verdict := by
  intro h
  obtain ⟨verdict, hverdict⟩ := h parseBound entryWithoutPercentPrice metaWithoutPercentPrice
    parseSymbolMeta_withoutPercentPrice ⟨"BTCUSDT", .buy, .limit, 1, some 100⟩
    ⟨100, .bestAsk, true⟩ (by norm_num)
  have hnone : (Checked.validateOrder ⟨"BTCUSDT", .buy, .limit, 1, some 100⟩ metaWithoutPercentPrice
      (some ⟨100, .bestAsk, true⟩)).run.isNone = true := by decide +kernel
  rw [hverdict] at hnone
  cases hnone

end Confluence
