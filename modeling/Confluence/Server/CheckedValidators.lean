import Confluence.Core.Overflow
import Confluence.Server.Validators

/-!
# Order validation on machine decimals

The checks of an order once more, with quotients and products that may overflow. A check that is
reached first forms its numbers and then decides as the exact one does.
-/

namespace Confluence

/-- The multipliers that bound an order's price from above and below. -/
def PercentPriceRule.multipliers (rule : PercentPriceRule) (side : OrderSide) : Decimal × Decimal :=
  match rule with
  | .general up down => (up, down)
  | .bySide bidUp bidDown askUp askDown =>
    match side with
    | .buy => (bidUp, bidDown)
    | .sell => (askUp, askDown)

/-- A validation, or nothing after an overflow. -/
abbrev CheckedValidation := ExceptT ValidationError Option Unit

namespace Checked

open Bounded

def isAligned (value step : Decimal) : Option Bool :=
  if step = 0 then some false
  else (div value step).map fun quotient => decide (Int.fract quotient = 0)

def qdown (value step : Decimal) : Option Decimal :=
  if step = 0 then some 0
  else (div value step).bind fun quotient => mul ⌊quotient⌋ step

/-- A value off its step is refused with the nearest valid one. -/
def checkAligned (value step : Decimal) (msg : Decimal → Message) : CheckedValidation :=
  ExceptT.mk <| (isAligned value step).bind fun aligned =>
    if aligned = false then (qdown value step).map fun nearest => .error ⟨msg nearest⟩
    else some (.ok ())

def checkPercentPrice (side : OrderSide) (price : Decimal) (rule : PercentPriceRule)
    (priceEst : Option PriceEstimate) : CheckedValidation :=
  match priceEst with
  | none => pure ()
  | some est =>
    ExceptT.mk <| (mul est.price (rule.multipliers side).1).bind fun _upper =>
      (mul est.price (rule.multipliers side).2).map fun _lower =>
        Confluence.checkPercentPrice side price rule (some est)

def checkNotional (quantity price : Decimal) (isMarket : Bool) (filter : NotionalFilter) :
    CheckedValidation :=
  ExceptT.mk <| (mul quantity price).map fun _notional =>
    Confluence.checkNotional quantity price isMarket filter

def validateLimit (intent : OrderIntent) (symbol : SymbolMeta)
    (priceEst : Option PriceEstimate) : CheckedValidation :=
  match intent.price with
  | none => throw ⟨["limit order requires a price"]⟩
  | some price => do
    let pf := symbol.priceFilter
    ExceptT.mk (some (rejectIf (price < pf.minPrice ∨ price > pf.maxPrice)
      ["price ", price, " outside [", pf.minPrice, ", ", pf.maxPrice, "] for ", symbol.symbol]))
    checkAligned price pf.tickSize fun nearest =>
      ["price ", price, " not aligned to tick size ", pf.tickSize, "; nearest valid price is ",
        nearest]
    checkPercentPrice intent.side price symbol.percentPrice priceEst
    checkNotional intent.quantity price false symbol.notional

def validateMarket (intent : OrderIntent) (symbol : SymbolMeta)
    (priceEst : Option PriceEstimate) : CheckedValidation :=
  match priceEst with
  | none => throw ⟨["no price estimate available for market order"]⟩
  | some est => do
    ExceptT.mk (some (rejectIf (est.isFresh = false)
      ["market data feed is stale; market order rejected"]))
    checkNotional intent.quantity est.price true symbol.notional

/-- The lot filter of an order type. -/
def lotFor (symbol : SymbolMeta) (orderType : OrderType) : LotSizeFilter :=
  match orderType with
  | .market => symbol.marketLotSize
  | .limit => symbol.lotSize

def validateOrder (intent : OrderIntent) (symbol : SymbolMeta)
    (priceEst : Option PriceEstimate) : CheckedValidation := do
  ExceptT.mk (some (rejectIf (symbol.status ≠ .trading)
    ["symbol ", symbol.symbol, " is not currently trading (status: ", symbol.status.debug, ")"]))
  ExceptT.mk (some (rejectIf (intent.orderType ∉ symbol.allowedOrderTypes)
    ["order type ", intent.orderType.debug, " not allowed for ", symbol.symbol]))
  let lot := lotFor symbol intent.orderType
  ExceptT.mk (some (rejectIf (intent.quantity < lot.minQty ∨ intent.quantity > lot.maxQty)
    ["quantity ", intent.quantity, " outside [", lot.minQty, ", ", lot.maxQty, "] for ",
      symbol.symbol]))
  checkAligned intent.quantity lot.stepSize fun nearest =>
    ["quantity ", intent.quantity, " not aligned to step size ", lot.stepSize,
      "; nearest valid quantity is ", nearest]
  match intent.orderType with
  | .limit => validateLimit intent symbol priceEst
  | .market => validateMarket intent symbol priceEst

/-! ### The numbers that the checks form -/

/-- The quotient by the step fits, and so does the nearest multiple where the value is off the
step. -/
def AlignFits (value step : Decimal) : Prop :=
  step ≠ 0 → FitsDecimal (value / step) ∧
    (Confluence.isAligned value step = false → FitsDecimal (⌊value / step⌋ * step))

/-- The bounds on a limit price fit. -/
def PercentFits (side : OrderSide) (rule : PercentPriceRule) (priceEst : Option PriceEstimate) :
    Prop :=
  ∀ est ∈ priceEst, FitsDecimal (est.price * (rule.multipliers side).1) ∧
    FitsDecimal (est.price * (rule.multipliers side).2)

/-- The numbers of a limit order within the price filter. -/
def LimitFits (intent : OrderIntent) (symbol : SymbolMeta) (priceEst : Option PriceEstimate) :
    Prop :=
  ∀ price ∈ intent.price, symbol.priceFilter.minPrice ≤ price →
    price ≤ symbol.priceFilter.maxPrice →
    AlignFits price symbol.priceFilter.tickSize ∧
    (Confluence.isAligned price symbol.priceFilter.tickSize = true →
      PercentFits intent.side symbol.percentPrice priceEst ∧
      ((Confluence.checkPercentPrice intent.side price symbol.percentPrice priceEst).isOk = true →
        FitsDecimal (intent.quantity * price)))

/-- The numbers of a market order with a fresh estimate. -/
def MarketFits (intent : OrderIntent) (priceEst : Option PriceEstimate) : Prop :=
  ∀ est ∈ priceEst, est.isFresh = true → FitsDecimal (intent.quantity * est.price)

/-- The numbers of an order for a trading symbol, of an allowed type and within the lot. -/
def OrderFits (intent : OrderIntent) (symbol : SymbolMeta) (priceEst : Option PriceEstimate) :
    Prop :=
  symbol.status = .trading → intent.orderType ∈ symbol.allowedOrderTypes →
    (lotFor symbol intent.orderType).minQty ≤ intent.quantity →
    intent.quantity ≤ (lotFor symbol intent.orderType).maxQty →
    AlignFits intent.quantity (lotFor symbol intent.orderType).stepSize ∧
    (Confluence.isAligned intent.quantity (lotFor symbol intent.orderType).stepSize = true →
      match intent.orderType with
      | .limit => LimitFits intent symbol priceEst
      | .market => MarketFits intent priceEst)

lemma computes_mul (x y : Decimal) : Computes (mul x y) (FitsDecimal (x * y)) (x * y) :=
  computes_fit _ _

lemma computes_div {x y : Decimal} (h : y ≠ 0) :
    Computes (div x y) (FitsDecimal (x / y)) (x / y) := by
  rw [div, if_neg h]
  exact computes_fit _ _

lemma computes_isAligned (value step : Decimal) :
    Computes (isAligned value step) (step ≠ 0 → FitsDecimal (value / step))
      (Confluence.isAligned value step) := by
  unfold isAligned Confluence.isAligned
  refine (Computes.ite (fun _ => computes_some _) fun hstep =>
    (computes_div hstep).map _).congr ?_ fun _ => rfl
  simp

lemma computes_qdown (value step : Decimal) :
    Computes (qdown value step)
      (step ≠ 0 → FitsDecimal (value / step) ∧ FitsDecimal (⌊value / step⌋ * step))
      (Confluence.qdown value step) := by
  unfold qdown Confluence.qdown
  refine (Computes.ite (fun _ => computes_some 0) fun hstep =>
    (computes_div hstep).bind (computes_mul ⌊value / step⌋ step)).congr ?_ fun _ => rfl
  simp

lemma computes_checkAligned (value step : Decimal) (msg : Decimal → Message) :
    Computes (checkAligned value step msg).run (AlignFits value step)
      (rejectIf (Confluence.isAligned value step = false) (msg (Confluence.qdown value step))) := by
  rw [checkAligned, ExceptT.run_mk, rejectIf]
  refine ((computes_isAligned value step).bind (Computes.ite (fun _ =>
    (computes_qdown value step).map _) fun _ => computes_some _)).congr ?_ fun _ => rfl
  simp only [AlignFits, implies_true, and_true]
  exact ⟨fun h hstep => ⟨h.1 hstep, fun hoff => (h.2 hoff hstep).2⟩,
    fun h => ⟨fun hstep => (h hstep).1, fun hoff hstep => ⟨(h hstep).1, (h hstep).2 hoff⟩⟩⟩

lemma computes_checkPercentPrice (side : OrderSide) (price : Decimal) (rule : PercentPriceRule)
    (priceEst : Option PriceEstimate) :
    Computes (checkPercentPrice side price rule priceEst).run (PercentFits side rule priceEst)
      (Confluence.checkPercentPrice side price rule priceEst) := by
  cases priceEst with
  | none => exact (computes_some _).congr (by simp [PercentFits]) fun _ => rfl
  | some est =>
    refine ((computes_mul _ _).bind ((computes_mul _ _).map _)).congr ?_ fun _ => rfl
    simp [PercentFits]

lemma computes_checkNotional (quantity price : Decimal) (isMarket : Bool)
    (filter : NotionalFilter) :
    Computes (checkNotional quantity price isMarket filter).run (FitsDecimal (quantity * price))
      (Confluence.checkNotional quantity price isMarket filter) :=
  (computes_mul _ _).map _

lemma isOk_rejectIf {bad : Prop} [Decidable bad] {msg : Message} :
    (rejectIf bad msg).isOk = true ↔ ¬ bad := by
  unfold rejectIf
  split_ifs with h <;> simp [h, Except.isOk, Except.toBool]

lemma computes_validateLimit (intent : OrderIntent) (symbol : SymbolMeta)
    (priceEst : Option PriceEstimate) :
    Computes (validateLimit intent symbol priceEst).run (LimitFits intent symbol priceEst)
      (Confluence.validateLimit intent symbol priceEst) := by
  unfold validateLimit Confluence.validateLimit LimitFits
  cases intent.price with
  | none => exact (computes_some _).congr (by simp) fun _ => rfl
  | some price =>
    refine ((Computes.seq (computes_some _) (Computes.seq (computes_checkAligned _ _ _)
      (Computes.seq (computes_checkPercentPrice _ _ _ _)
        (computes_checkNotional _ _ _ _))))).congr ?_ fun _ => rfl
    simp [isOk_rejectIf]

lemma computes_validateMarket (intent : OrderIntent) (symbol : SymbolMeta)
    (priceEst : Option PriceEstimate) :
    Computes (validateMarket intent symbol priceEst).run (MarketFits intent priceEst)
      (Confluence.validateMarket intent symbol priceEst) := by
  unfold validateMarket Confluence.validateMarket MarketFits
  cases priceEst with
  | none => exact (computes_some _).congr (by simp) fun _ => rfl
  | some est =>
    refine (Computes.seq (computes_some _) (computes_checkNotional _ _ _ _)).congr ?_ fun _ => rfl
    simp [isOk_rejectIf]

/-- Where its numbers fit, and only there, a validation comes to its exact verdict. -/
lemma computes_validateOrder (intent : OrderIntent) (symbol : SymbolMeta)
    (priceEst : Option PriceEstimate) :
    Computes (validateOrder intent symbol priceEst).run (OrderFits intent symbol priceEst)
      (Confluence.validateOrder intent symbol priceEst) := by
  unfold validateOrder Confluence.validateOrder OrderFits
  cases intent.orderType with
  | limit =>
    refine (Computes.seq (computes_some _) (Computes.seq (computes_some _)
      (Computes.seq (computes_some _) (Computes.seq (computes_checkAligned _ _ _)
        (computes_validateLimit _ _ _))))).congr ?_ fun _ => rfl
    simp [isOk_rejectIf]
  | market =>
    refine (Computes.seq (computes_some _) (Computes.seq (computes_some _)
      (Computes.seq (computes_some _) (Computes.seq (computes_checkAligned _ _ _)
        (computes_validateMarket _ _ _))))).congr ?_ fun _ => rfl
    simp [isOk_rejectIf]

end Checked

end Confluence
