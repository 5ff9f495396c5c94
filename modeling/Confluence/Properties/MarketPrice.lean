import Confluence.Server.Effects
import Confluence.Server.OutboxWorker

/-!
# The price of a market order

The price field of a market order is documented as ignored. The engine nevertheless sizes the order
with it: two market requests that differ only in the price are treated alike exactly when the engine
is not reached, or each price is absent or equal to the estimate.
-/

namespace Confluence

section

variable (env : Surroundings) (accountId : Uuid) (db : Db) (body : PlaceOrderRequest)

/-- The conservative market estimate for the order. -/
def estimatePrice : Decimal := ((priceEstimate env body).map (·.price)).getD 0

/-- The request passes validation and the account has its rows, so that the engine is called. -/
def ReachesEngine : Prop :=
  validateRequest env body = .ok () ∧ (db.accountRow accountId).isSome ∧
    (db.riskConfig accountId).isSome

/-- With either price the decision is the same, and the notional that the engine checks is the
quantity times the market estimate. -/
def PriceIgnored (price₁ price₂ : Option Decimal) : Prop :=
  let r₁ := evaluated env accountId { body with price := price₁ } db
  let r₂ := evaluated env accountId { body with price := price₂ } db
  r₁.map (·.2) = r₂.map (·.2) ∧
    ∀ r, r₁ = some r ∨ r₂ = some r → r.1.notional = body.quantity * estimatePrice env body

end

section

variable {env : Surroundings} {accountId : Uuid} {db : Db} {body : PlaceOrderRequest}

/-- Validation does not look at the price of a market order. -/
lemma validateRequest_of_market (h : body.orderType = .market) (price : Option Decimal) :
    validateRequest env { body with price } = validateRequest env body := by
  simp only [validateRequest, validateOrder, validateMarket, h]
  rfl

lemma quantity_pos_of_valid (h : validateRequest env body = .ok ()) : 0 < body.quantity := by
  unfold validateRequest at h
  split_ifs at h with hblank hquantity
  exact not_le.mp hquantity

/-- When the engine is reached, it sizes the order with the request's price, and with the estimate
when there is none. -/
lemma evaluated_eq (h : ReachesEngine env accountId db body) (hmarket : body.orderType = .market)
    (price : Option Decimal) :
    ∃ account cfg, evaluated env accountId { body with price } db =
      some ({ symbol := body.symbol, side := body.side.tradeSide, quantity := body.quantity,
              price := price.getD (estimatePrice env body) },
        evaluate { symbol := body.symbol, side := body.side.tradeSide, quantity := body.quantity,
                   price := price.getD (estimatePrice env body) }
          (db.snapshot accountId account env.snapshotDay) cfg) ∧
      db.accountRow accountId = some account ∧ (db.riskConfig accountId).map (·.1) = some cfg := by
  obtain ⟨hvalid, haccount, hcfg⟩ := h
  obtain ⟨account, haccount⟩ := Option.isSome_iff_exists.mp haccount
  obtain ⟨cfg, hcfg⟩ := Option.isSome_iff_exists.mp hcfg
  refine ⟨account, cfg.1, ?_, haccount, by rw [hcfg]; rfl⟩
  simp only [evaluated, validateRequest_of_market hmarket, hvalid, haccount, hcfg]
  rfl

lemma evaluated_eq_none (h : ¬ ReachesEngine env accountId db body)
    (hmarket : body.orderType = .market) (price : Option Decimal) :
    evaluated env accountId { body with price } db = none := by
  simp only [evaluated, validateRequest_of_market hmarket]
  cases hvalid : validateRequest env body with
  | error e => rfl
  | ok _ =>
    cases haccount : db.accountRow accountId with
    | none => rfl
    | some account =>
      cases hcfg : db.riskConfig accountId with
      | none => rfl
      | some cfg => exact (h ⟨hvalid, by simp [haccount], by simp [hcfg]⟩).elim

/-- The price of a market order is ignored exactly when the engine is not reached, or both requests
carry no price or that of the estimate. -/
theorem market_price_ignored_iff (hmarket : body.orderType = .market)
    (price₁ price₂ : Option Decimal) :
    PriceIgnored env accountId db body price₁ price₂ ↔
      ¬ ReachesEngine env accountId db body ∨
      ((price₁ = none ∨ price₁ = some (estimatePrice env body)) ∧
        (price₂ = none ∨ price₂ = some (estimatePrice env body))) := by
  by_cases h : ReachesEngine env accountId db body
  · have hpos := quantity_pos_of_valid h.1
    obtain ⟨account, cfg, h₁, haccount, hcfg⟩ := evaluated_eq h hmarket price₁
    obtain ⟨account', cfg', h₂, haccount', hcfg'⟩ := evaluated_eq h hmarket price₂
    obtain rfl : account = account' := Option.some.inj (haccount.symm.trans haccount')
    obtain rfl : cfg = cfg' := Option.some.inj (hcfg.symm.trans hcfg')
    have hprice (price : Option Decimal) :
        body.quantity * price.getD (estimatePrice env body) =
          body.quantity * estimatePrice env body ↔
        price = none ∨ price = some (estimatePrice env body) := by
      rw [mul_right_inj' hpos.ne']
      cases price <;> simp
    simp only [h, not_true_eq_false, false_or, PriceIgnored, h₁, h₂]
    rw [← hprice price₁, ← hprice price₂]
    constructor
    · rintro ⟨-, hnotional⟩
      exact ⟨hnotional _ (.inl rfl), hnotional _ (.inr rfl)⟩
    · rintro ⟨hn₁, hn₂⟩
      have hsame : price₁.getD (estimatePrice env body) =
          price₂.getD (estimatePrice env body) :=
        mul_left_cancel₀ hpos.ne' (hn₁.trans hn₂.symm)
      refine ⟨by simp only [hsame], ?_⟩
      rintro r (hr | hr) <;> obtain rfl := Option.some.inj hr
      · exact hn₁
      · exact hn₂
  · have hnone := evaluated_eq_none h hmarket
    simp [h, PriceIgnored, hnone]

end

/-! ### An account with a limit of fifty per order -/

/-- A symbol without notional bounds, quoted at 100. -/
def btcusdt : SymbolMeta :=
  { symbol := "BTCUSDT", status := .trading, allowedOrderTypes := [.limit, .market]
    lotSize := ⟨1, 1000, 1⟩, marketLotSize := ⟨1, 1000, 1⟩, priceFilter := ⟨1, 100000, 1⟩
    notional := ⟨none, none, true, true⟩, percentPrice := .general 2 0 }

/-- Fresh metadata and a fresh book for every symbol. -/
def quotedAt100 : Surroundings :=
  { symbols := ⟨fun _ => some btcusdt, some 0, 60⟩
    marketData := ⟨fun _ => some ⟨100, 100, 0⟩, 10⟩
    symbolsReadAt := 0, marketReadAt := 0, snapshotDay := 0, tripDay := 0 }

/-- An account with equity 1000 and the default limits. -/
def equity1000 : Db :=
  { Db.empty with
    accounts := [⟨⟨1⟩, .active, 1000, none⟩]
    riskConfigs := [⟨⟨1⟩, ⟨2, 5, 5, 10⟩, 1⟩] }

def buyTen : PlaceOrderRequest :=
  { symbol := "BTCUSDT", side := .buy, orderType := .market, quantity := 10, price := none }

/-- Paper trading against that book. -/
def paperAt100 : Supervisor :=
  { paperAdapter := some (paperAdapter quotedAt100.marketData 0), liveAdapter := none }

theorem market_price_ignored_at_estimate :
    PriceIgnored quotedAt100 ⟨1⟩ equity1000 buyTen none (some 100) :=
  (market_price_ignored_iff rfl none (some 100)).mpr
    (.inr ⟨.inl rfl, .inr (by decide +kernel)⟩)

/-- Ten units at the market exceed the limit of fifty, and are approved with a price of one. -/
theorem market_price_not_ignored :
    ¬ ∀ (env : Surroundings) (accountId : Uuid) (db : Db) (body : PlaceOrderRequest)
      (price₁ price₂ : Option Decimal), body.orderType = .market →
        PriceIgnored env accountId db body price₁ price₂ := by
  intro h
  have hsame := (h quotedAt100 ⟨1⟩ equity1000 buyTen none (some 1) rfl).1
  have hdiffer :
      (evaluated quotedAt100 ⟨1⟩ { buyTen with price := none } equity1000).map (·.2) ≠
        (evaluated quotedAt100 ⟨1⟩ { buyTen with price := some 1 } equity1000).map (·.2) := by
    decide +kernel
  exact hdiffer hsame

end Confluence
