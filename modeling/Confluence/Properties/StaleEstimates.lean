import Confluence.Properties.FilterVerdicts
import Confluence.Properties.MarketPrice

/-!
# Stale estimates

A market order is refused when its estimate is stale. The bounds of a limit order are multiples of
the estimate whether it is stale or not: with an estimate and without one, the verdict is the same
exactly when the order is refused before its bounds, or stays within them.
-/

namespace Confluence

open Checked

/-- The limit order passes the checks in front of its bounds, at this price. -/
structure ReachesBounds (intent : OrderIntent) (symbol : SymbolMeta) (price : Decimal) : Prop where
  status : symbol.status = .trading
  allowed : .limit ∈ symbol.allowedOrderTypes
  quantityInLot : symbol.lotSize.minQty ≤ intent.quantity ∧ intent.quantity ≤ symbol.lotSize.maxQty
  quantityAligned : FitsDecimal (intent.quantity / symbol.lotSize.stepSize) ∧
    Confluence.isAligned intent.quantity symbol.lotSize.stepSize = true
  hasPrice : intent.price = some price
  priceInFilter : symbol.priceFilter.minPrice ≤ price ∧ price ≤ symbol.priceFilter.maxPrice
  priceAligned : FitsDecimal (price / symbol.priceFilter.tickSize) ∧
    Confluence.isAligned price symbol.priceFilter.tickSize = true

/-- The bounds that the estimate gives can be computed, and the price lies within them. -/
def WithinBounds (intent : OrderIntent) (symbol : SymbolMeta) (est : PriceEstimate)
    (price : Decimal) : Prop :=
  PercentFits intent.side symbol.percentPrice (some est) ∧
    symbol.percentPrice.Admits intent.side price est.price

/-- The checks of a limit order in front of its bounds. -/
def beforeBounds (intent : OrderIntent) (symbol : SymbolMeta) (price : Decimal) :
    CheckedValidation := do
  ExceptT.mk (some (rejectIf (symbol.status ≠ .trading)
    ["symbol ", symbol.symbol, " is not currently trading (status: ", symbol.status.debug, ")"]))
  ExceptT.mk (some (rejectIf (.limit ∉ symbol.allowedOrderTypes)
    ["order type ", OrderType.limit.debug, " not allowed for ", symbol.symbol]))
  ExceptT.mk (some (rejectIf (intent.quantity < symbol.lotSize.minQty ∨
      intent.quantity > symbol.lotSize.maxQty)
    ["quantity ", intent.quantity, " outside [", symbol.lotSize.minQty, ", ",
      symbol.lotSize.maxQty, "] for ", symbol.symbol]))
  checkAligned intent.quantity symbol.lotSize.stepSize fun nearest =>
    ["quantity ", intent.quantity, " not aligned to step size ", symbol.lotSize.stepSize,
      "; nearest valid quantity is ", nearest]
  ExceptT.mk (some (rejectIf (price < symbol.priceFilter.minPrice ∨
      price > symbol.priceFilter.maxPrice)
    ["price ", price, " outside [", symbol.priceFilter.minPrice, ", ",
      symbol.priceFilter.maxPrice, "] for ", symbol.symbol]))
  checkAligned price symbol.priceFilter.tickSize fun nearest =>
    ["price ", price, " not aligned to tick size ", symbol.priceFilter.tickSize,
      "; nearest valid price is ", nearest]

/-- The two checks of a limit order that are left. -/
def fromBounds (intent : OrderIntent) (symbol : SymbolMeta) (est : Option PriceEstimate)
    (price : Decimal) : CheckedValidation := do
  Checked.checkPercentPrice intent.side price symbol.percentPrice est
  Checked.checkNotional intent.quantity price false symbol.notional

section

variable {intent : OrderIntent} {symbol : SymbolMeta} {est : Option PriceEstimate}
  {price : Decimal} {x y y' : CheckedValidation}

/-! ### Checks in sequence -/

lemma run_seq_eq_ok : (x >>= fun _ => y).run = some (.ok ()) ↔
    x.run = some (.ok ()) ∧ y.run = some (.ok ()) := by
  rw [ExceptT.run_bind]
  rcases x.run with _ | _ | _ <;> simp

/-- What follows a check that does not pass has no influence. -/
lemma seq_congr_of_not_ok (h : x.run ≠ some (.ok ())) (y y' : CheckedValidation) :
    (x >>= fun _ => y) = (x >>= fun _ => y') := by
  apply ExceptT.ext
  rw [ExceptT.run_bind, ExceptT.run_bind]
  rcases hx : x.run with _ | _ | _
  · rfl
  · rfl
  · exact (h hx).elim

lemma run_seq_of_ok (h : x.run = some (.ok ())) : (x >>= fun _ => y).run = y.run := by
  rw [ExceptT.run_bind, h]
  rfl

lemma run_rejectIf_eq_ok {bad : Prop} [Decidable bad] {msg : Message} :
    (ExceptT.mk (some (rejectIf bad msg)) : CheckedValidation).run = some (.ok ()) ↔ ¬ bad := by
  rw [ExceptT.run_mk, Option.some_inj, rejectIf_eq_ok]

lemma run_checkAligned_eq_ok {value step : Decimal} {msg : Decimal → Message} :
    (checkAligned value step msg).run = some (.ok ()) ↔
      FitsDecimal (value / step) ∧ Confluence.isAligned value step = true := by
  rw [computes_checkAligned value step msg, rejectIf_eq_ok, Bool.not_eq_false]
  refine and_congr_left fun haligned => ?_
  have hstep : step ≠ 0 := (isAligned_iff.mp haligned).1
  simp [AlignFits, hstep, haligned]

/-! ### A limit order -/

lemma validateOrder_limit (h : intent.orderType = .limit) (hprice : intent.price = some price) :
    Checked.validateOrder intent symbol est =
      beforeBounds intent symbol price >>= fun _ => fromBounds intent symbol est price := by
  simp [Checked.validateOrder, Checked.validateLimit, beforeBounds, fromBounds, h, hprice, lotFor]

lemma reachesBounds_iff (hprice : intent.price = some price) :
    ReachesBounds intent symbol price ↔
      (beforeBounds intent symbol price).run = some (.ok ()) := by
  simp only [beforeBounds, run_seq_eq_ok, run_rejectIf_eq_ok, run_checkAligned_eq_ok, not_not,
    not_or, not_lt, gt_iff_lt]
  constructor
  · intro h
    exact ⟨h.status, h.allowed, h.quantityInLot, h.quantityAligned, h.priceInFilter,
      h.priceAligned⟩
  · rintro ⟨hstatus, hallowed, hlot, hquantity, hfilter, hprice'⟩
    exact ⟨hstatus, hallowed, hlot, hquantity, hprice, hfilter, hprice'⟩

/-! ### The bounds -/

lemma msg_of_rejectIf {bad : Prop} [Decidable bad] {msg : Message} {e : ValidationError}
    (h : rejectIf bad msg = .error e) : e.msg = msg := by
  unfold rejectIf at h
  split_ifs at h with hbad
  cases h
  rfl

lemma head_checkPercentPrice {e : ValidationError}
    (h : Confluence.checkPercentPrice intent.side price symbol.percentPrice est = .error e) :
    e.msg.head? = some (.text "price ") := by
  unfold Confluence.checkPercentPrice at h
  cases est with
  | none => cases h
  | some est =>
    cases hrule : symbol.percentPrice with
    | general up down =>
      rw [hrule] at h
      rw [msg_of_rejectIf h]
      rfl
    | bySide bidUp bidDown askUp askDown =>
      rw [hrule] at h
      rw [msg_of_rejectIf h]
      rfl

lemma validation_bind_eq_error {x y : Validation} {e : ValidationError}
    (h : (x >>= fun _ => y) = .error e) : x = .error e ∨ y = .error e := by
  cases x with
  | error e' => exact .inl h
  | ok u => exact .inr h

lemma head_checkNotional {e : ValidationError} {quantity : Decimal}
    (h : Confluence.checkNotional quantity price false symbol.notional = .error e) :
    e.msg.head? = some (.text "notional ") := by
  unfold Confluence.checkNotional at h
  cases hmin : symbol.notional.minNotional <;> cases hmax : symbol.notional.maxNotional <;>
    simp only [hmin, hmax] at h
  · cases h
  · rw [msg_of_rejectIf h]
    rfl
  · rcases validation_bind_eq_error h with h | h
    · rw [msg_of_rejectIf h]
      rfl
    · cases h
  · rcases validation_bind_eq_error h with h | h <;>
    · rw [msg_of_rejectIf h]
      rfl

lemma run_fromBounds_none :
    (fromBounds intent symbol none price).run =
      (Checked.checkNotional intent.quantity price false symbol.notional).run := rfl

lemma run_checkNotional_eq_none :
    (Checked.checkNotional intent.quantity price false symbol.notional).run = none ↔
      ¬ FitsDecimal (intent.quantity * price) := by
  have h := (computes_checkNotional intent.quantity price false symbol.notional).exists_iff
  rw [← h, Option.eq_none_iff_forall_ne_some]
  exact not_exists.symm

lemma run_checkNotional_eq_ok :
    (Checked.checkNotional intent.quantity price false symbol.notional).run = some (.ok ()) ↔
      FitsDecimal (intent.quantity * price) ∧
        symbol.notional.Admits .limit (intent.quantity * price) := by
  rw [computes_checkNotional intent.quantity price false symbol.notional,
    checkNotional_eq_ok (show false = true ↔ OrderType.limit = .market by simp)]

/-- With bounds that cannot be computed there is no verdict; a price outside of them is refused; and
within them the notional decides, as without an estimate. -/
lemma run_fromBounds_cases (est : PriceEstimate) :
    (WithinBounds intent symbol est price ∧ (fromBounds intent symbol (some est) price).run =
      (fromBounds intent symbol none price).run) ∨
    (¬ PercentFits intent.side symbol.percentPrice (some est) ∧
      (fromBounds intent symbol (some est) price).run = none) ∨
    ∃ e, ¬ symbol.percentPrice.Admits intent.side price est.price ∧
      PercentFits intent.side symbol.percentPrice (some est) ∧
      e.msg.head? = some (.text "price ") ∧
      (fromBounds intent symbol (some est) price).run = some (.error e) := by
  have hcomputes :=
    computes_checkPercentPrice intent.side price symbol.percentPrice (some est)
  by_cases hfits : PercentFits intent.side symbol.percentPrice (some est)
  · cases hverdict : Confluence.checkPercentPrice intent.side price symbol.percentPrice (some est)
      with
    | ok u =>
      have hadmits := checkPercentPrice_eq_ok.mp hverdict
      have hrun := (hcomputes _).mpr ⟨hfits, hverdict⟩
      exact .inl ⟨⟨hfits, hadmits⟩, run_seq_of_ok hrun⟩
    | error e =>
      have hnot : ¬ symbol.percentPrice.Admits intent.side price est.price := by
        rw [← checkPercentPrice_eq_ok, hverdict]
        exact fun h => nomatch h
      have hrun := (hcomputes _).mpr ⟨hfits, hverdict⟩
      refine .inr (.inr ⟨e, hnot, hfits, head_checkPercentPrice hverdict, ?_⟩)
      rw [fromBounds, ExceptT.run_bind, hrun]
      rfl
  · have hrun : (Checked.checkPercentPrice intent.side price symbol.percentPrice (some est)).run =
        none := by
      rw [Option.eq_none_iff_forall_ne_some]
      exact fun v hv => hfits ((hcomputes v).mp hv).1
    refine .inr (.inl ⟨hfits, ?_⟩)
    rw [fromBounds, ExceptT.run_bind, hrun]
    rfl

lemma fromBounds_eq_iff (est : PriceEstimate) :
    (fromBounds intent symbol (some est) price).run =
      (fromBounds intent symbol none price).run ↔
    WithinBounds intent symbol est price ∨
      (¬ PercentFits intent.side symbol.percentPrice (some est) ∧
        ¬ FitsDecimal (intent.quantity * price)) := by
  obtain ⟨hwithin, hrun⟩ | ⟨hoverflow, hrun⟩ | ⟨e, hnot, hfits, hhead, hrun⟩ :=
    @run_fromBounds_cases intent symbol price est
  · exact iff_of_true hrun (.inl hwithin)
  · have hnot : ¬ WithinBounds intent symbol est price := fun h => hoverflow h.1
    rw [hrun, eq_comm, run_fromBounds_none, run_checkNotional_eq_none]
    simp [hnot, hoverflow]
  · refine iff_of_false ?_ ?_
    · rw [hrun, run_fromBounds_none]
      intro heq
      have hnotional :=
        ((computes_checkNotional intent.quantity price false symbol.notional _).mp heq.symm).2
      have hhead' := head_checkNotional hnotional
      rw [hhead] at hhead'
      exact absurd hhead' (by decide)
    · rintro (hwithin | ⟨hoverflow, -⟩)
      · exact hnot hwithin.2
      · exact hoverflow hfits

lemma fromBounds_ok_iff (est : PriceEstimate) :
    (fromBounds intent symbol (some est) price).run = some (.ok ()) ↔
      WithinBounds intent symbol est price ∧
        (fromBounds intent symbol none price).run = some (.ok ()) := by
  obtain ⟨hwithin, hrun⟩ | ⟨hoverflow, hrun⟩ | ⟨e, hnot, -, -, hrun⟩ :=
    @run_fromBounds_cases intent symbol price est
  · simp [hrun, hwithin]
  · have hnot : ¬ WithinBounds intent symbol est price := fun h => hoverflow h.1
    simp [hrun, hnot]
  · have hnot : ¬ WithinBounds intent symbol est price := fun h => hnot h.2
    simp [hrun, hnot]

/-! ### With and without an estimate -/

/-- The verdict is the same with an estimate and without one exactly when the order is refused
before its bounds, or is within them, or overflows with either; and it is accepted with one exactly
when it is accepted without, unless it is the bounds that refuse it. -/
theorem limit_verdict_same_iff (hlimit : intent.orderType = .limit) (est : PriceEstimate) :
    ((Checked.validateOrder intent symbol (some est)).run =
        (Checked.validateOrder intent symbol none).run ↔
      ∀ price, ReachesBounds intent symbol price → WithinBounds intent symbol est price ∨
        (¬ PercentFits intent.side symbol.percentPrice (some est) ∧
          ¬ FitsDecimal (intent.quantity * price))) ∧
    (((Checked.validateOrder intent symbol (some est)).run = some (.ok ()) ↔
        (Checked.validateOrder intent symbol none).run = some (.ok ())) ↔
      ∀ price, ReachesBounds intent symbol price → FitsDecimal (intent.quantity * price) →
        symbol.notional.Admits .limit (intent.quantity * price) →
          WithinBounds intent symbol est price) := by
  cases hprice : intent.price with
  | none =>
    have hnot (price : Decimal) : ¬ ReachesBounds intent symbol price := by
      intro h
      have hsome := h.hasPrice
      rw [hprice] at hsome
      cases hsome
    have hsame : Checked.validateOrder intent symbol (some est) =
        Checked.validateOrder intent symbol none := by
      simp [Checked.validateOrder, Checked.validateLimit, hlimit, hprice]
    simp [hnot, hsame]
  | some price =>
    have hall {P : Decimal → Prop} : (∀ p, ReachesBounds intent symbol p → P p) ↔
        (ReachesBounds intent symbol price → P price) := by
      constructor
      · exact fun h => h price
      · intro h p hp
        obtain rfl : p = price := Option.some.inj (hp.hasPrice.symm.trans hprice)
        exact h hp
    rw [hall, hall, validateOrder_limit hlimit hprice, validateOrder_limit hlimit hprice]
    by_cases hreaches : ReachesBounds intent symbol price
    · have hbefore := (reachesBounds_iff hprice).mp hreaches
      rw [run_seq_of_ok hbefore, run_seq_of_ok hbefore, fromBounds_eq_iff, fromBounds_ok_iff,
        run_fromBounds_none, run_checkNotional_eq_ok]
      refine ⟨?_, ?_⟩
      · simp [hreaches]
      · simp only [hreaches, true_imp_iff]
        tauto
    · have hbefore := fun h => hreaches ((reachesBounds_iff hprice).mpr h)
      rw [seq_congr_of_not_ok hbefore (fromBounds intent symbol (some est) price)
        (fromBounds intent symbol none price)]
      simp [hreaches]

end

/-! ### A stale book at 100 -/

def staleEstimate : PriceEstimate := ⟨100, .bestAsk, false⟩

/-- A price that the bounds admit is accepted with the estimate and without it. -/
theorem limit_verdict_same_atHundred :
    (Checked.validateOrder buyAtHundred btcusdt (some staleEstimate)).run =
      (Checked.validateOrder buyAtHundred btcusdt none).run := by
  refine (limit_verdict_same_iff rfl staleEstimate).1.mpr fun price hreaches => .inl ?_
  obtain rfl : (100 : Decimal) = price := Option.some.inj hreaches.hasPrice
  refine ⟨fun est hest => ?_, ?_⟩
  · obtain rfl := Option.some.inj hest
    norm_num [FitsDecimal, maxDecimal, staleEstimate, PercentPriceRule.multipliers, btcusdt]
  · norm_num [PercentPriceRule.Admits, btcusdt, staleEstimate, buyAtHundred]

/-- At 300 the order is refused for the stale estimate, and accepted without one. -/
theorem stale_estimate_bounds :
    ¬ ∀ (intent : OrderIntent) (symbol : SymbolMeta) (est : PriceEstimate),
      intent.orderType = .limit → est.isFresh = false →
        (Checked.validateOrder intent symbol (some est)).run =
          (Checked.validateOrder intent symbol none).run := by
  intro h
  have hsame := h { buyAtHundred with price := some 300 } btcusdt staleEstimate rfl rfl
  exact absurd hsame (by decide +kernel)

end Confluence
