import Confluence.Core.Rules
import Confluence.Library.Bounded
import Confluence.Library.Numeric

/-!
# Risk evaluation on machine decimals

The functions of the engine once more, with the operations of the machine's decimals: a product, a
quotient or a sum beyond the largest decimal ends the evaluation without a decision.
-/

namespace Confluence

namespace Checked

open Bounded (fit fit_eq_some bind_fit_eq_some)

def add (x y : Decimal) : Option Decimal := fit maxDecimal (x + y)

def mul (x y : Decimal) : Option Decimal := fit maxDecimal (x * y)

def div (x y : Decimal) : Option Decimal := if y = 0 then none else fit maxDecimal (x / y)

def sum (xs : List Decimal) : Option Decimal := Bounded.sum maxDecimal xs

def circuitBreakerShouldTrip (snapshot : AccountSnapshot) (cfg : RiskConfig) : Option Bool :=
  if snapshot.equity ≤ 0 then pure (decide (snapshot.todayRealizedLoss > 0))
  else do
    let limit ← div (← mul snapshot.equity cfg.dailyMaxLossPct) 100
    pure (decide (snapshot.todayRealizedLoss ≥ limit))

def notional (intent : TradeIntent) : Option Decimal := mul intent.quantity intent.price

def checkPositionSize (intent : TradeIntent) (snapshot : AccountSnapshot) (cfg : RiskConfig)
    (violations : List Violation) : Option (List Violation) :=
  if snapshot.equity ≤ 0 then pure (violations ++ [.nonPositiveEquity snapshot.equity])
  else do
    let limitNotional ← div (← mul snapshot.equity cfg.maxPositionPctEquity) 100
    let tradeNotional ← notional intent
    if tradeNotional > limitNotional then
      pure (violations ++
        [.positionSizeExceeded tradeNotional limitNotional cfg.maxPositionPctEquity])
    else pure violations

def checkCorrelatedExposure (intent : TradeIntent) (snapshot : AccountSnapshot) (cfg : RiskConfig)
    (violations : List Violation) : Option (List Violation) :=
  match snapshot.correlationGroups intent.symbol with
  | none => pure violations
  | some group =>
    if snapshot.equity ≤ 0 then pure violations
    else do
      let existing ← sum ((snapshot.openPositions.filter fun p =>
        snapshot.correlationGroups p.symbol = some group).map (·.notional))
      let combined ← add existing (← notional intent)
      let limitNotional ← div (← mul snapshot.equity cfg.maxCorrelatedExposurePct) 100
      if combined > limitNotional then
        pure (violations ++
          [.correlatedExposureExceeded group combined limitNotional cfg.maxCorrelatedExposurePct])
      else pure violations

def dailyLossLimit (snapshot : AccountSnapshot) (cfg : RiskConfig) : Option Decimal :=
  if snapshot.equity > 0 then do div (← mul snapshot.equity cfg.dailyMaxLossPct) 100
  else pure 0

/-- The breaker's test stops at the flag when that is set. -/
def breakerTripped (snapshot : AccountSnapshot) (cfg : RiskConfig) : Option Bool :=
  if snapshot.circuitBreakerTripped then pure true else circuitBreakerShouldTrip snapshot cfg

/-- The three per-trade checks, for a trade that is not exempt from them. -/
def checkSizing (intent : TradeIntent) (snapshot : AccountSnapshot) (cfg : RiskConfig)
    (violations : List Violation) : Option (List Violation) :=
  if reducesExistingPosition intent snapshot then pure violations
  else do
    let violations ← checkPositionSize intent snapshot cfg violations
    checkCorrelatedExposure intent snapshot cfg
      (checkConcurrentPositions intent snapshot cfg violations)

/-- `evaluate`, or `none` when an operation overflows. -/
def evaluate (intent : TradeIntent) (snapshot : AccountSnapshot) (cfg : RiskConfig) :
    Option Decision :=
  if snapshot.killSwitchEngaged then pure (.rejected [.killSwitchEngaged])
  else if intent.quantity < 0 ∨ intent.price < 0 then
    pure (.rejected [.invalidIntent intent.quantity intent.price])
  else do
    let dailyLossLimit ← dailyLossLimit snapshot cfg
    let tripped ← breakerTripped snapshot cfg
    let violations ← checkSizing intent snapshot cfg
      (if tripped then [.circuitBreakerTripped snapshot.todayRealizedLoss dailyLossLimit] else [])
    pure (if violations.isEmpty then .approved else .rejected violations)

/-! ### Checked and exact results -/

variable {α : Type} {x y : Decimal} {f : Decimal → Option α} {z : α}

@[simp] lemma bind_mul_eq_some :
    (mul x y).bind f = some z ↔ FitsDecimal (x * y) ∧ f (x * y) = some z := by
  rw [mul, bind_fit_eq_some, FitsDecimal]

@[simp] lemma bind_add_eq_some :
    (add x y).bind f = some z ↔ FitsDecimal (x + y) ∧ f (x + y) = some z := by
  rw [add, bind_fit_eq_some, FitsDecimal]

@[simp] lemma bind_sum_eq_some {xs : List Decimal} :
    (sum xs).bind f = some z ↔
      (∀ ys, ys <+: xs → FitsDecimal ys.sum) ∧ f xs.sum = some z :=
  Bounded.bind_sum_eq_some maxDecimal_nonneg

/-- A percentage of a product that fits does not overflow. -/
lemma div_hundred (h : FitsDecimal x) : div x 100 = some (x / 100) := by
  rw [div, if_neg (by norm_num), fit_eq_some]
  refine ⟨?_, rfl⟩
  rw [abs_div, abs_of_pos (by norm_num : (0 : ℚ) < 100)]
  have hx := abs_nonneg x
  rw [FitsDecimal] at h
  linarith

variable {intent : TradeIntent} {snapshot : AccountSnapshot} {cfg : RiskConfig}

/-- The limits that are percentages of the equity can be computed. -/
structure LimitsFit (snapshot : AccountSnapshot) (cfg : RiskConfig) : Prop where
  dailyMaxLoss : FitsDecimal (snapshot.equity * cfg.dailyMaxLossPct)
  maxPosition : FitsDecimal (snapshot.equity * cfg.maxPositionPctEquity)
  maxCorrelatedExposure : FitsDecimal (snapshot.equity * cfg.maxCorrelatedExposurePct)

lemma circuitBreakerShouldTrip_eq (hfit : LimitsFit snapshot cfg) :
    circuitBreakerShouldTrip snapshot cfg =
      some (Confluence.circuitBreakerShouldTrip snapshot cfg) := by
  simp only [circuitBreakerShouldTrip, Confluence.circuitBreakerShouldTrip]
  split_ifs with hequity
  · rfl
  · simp [hfit.dailyMaxLoss, div_hundred hfit.dailyMaxLoss]

/-- The size check has a result when there is no equity or the trade's notional fits. -/
lemma checkPositionSize_eq_some (hfit : LimitsFit snapshot cfg) {vs ws : List Violation} :
    checkPositionSize intent snapshot cfg vs = some ws ↔
      (snapshot.equity ≤ 0 ∨ FitsDecimal (intent.quantity * intent.price)) ∧
        Confluence.checkPositionSize intent snapshot cfg vs = ws := by
  simp only [checkPositionSize, Confluence.checkPositionSize, TradeIntent.notional]
  split_ifs with hequity hsize
  · simp [hequity]
  · simp [notional, hfit.maxPosition, div_hundred hfit.maxPosition, hequity, hsize]
  · simp [notional, hfit.maxPosition, div_hundred hfit.maxPosition, hequity, hsize]

/-- The sums of the correlated-exposure check fit. -/
def ExposureFits (intent : TradeIntent) (snapshot : AccountSnapshot) : Prop :=
  ∀ group ∈ snapshot.correlationGroups intent.symbol,
    (∀ notionals, notionals <+: (snapshot.openPositions.filter fun p =>
        snapshot.correlationGroups p.symbol = some group).map (·.notional) →
      FitsDecimal notionals.sum) ∧
    FitsDecimal (groupExposure snapshot group + intent.quantity * intent.price)

lemma checkCorrelatedExposure_eq_some (hfit : LimitsFit snapshot cfg)
    (hnotional : snapshot.equity ≤ 0 ∨ FitsDecimal (intent.quantity * intent.price))
    {vs ws : List Violation} :
    checkCorrelatedExposure intent snapshot cfg vs = some ws ↔
      (snapshot.equity ≤ 0 ∨ ExposureFits intent snapshot) ∧
        Confluence.checkCorrelatedExposure intent snapshot cfg vs = ws := by
  simp only [checkCorrelatedExposure, Confluence.checkCorrelatedExposure, ExposureFits]
  cases hgroup : snapshot.correlationGroups intent.symbol with
  | none => simp
  | some group =>
    by_cases hequity : snapshot.equity ≤ 0
    · simp [hequity]
    · have hnotional' := hnotional.resolve_left hequity
      simp only [hequity, if_false, false_or, Option.bind_eq_bind, bind_sum_eq_some, notional,
        bind_mul_eq_some, bind_add_eq_some, hnotional', hfit.maxCorrelatedExposure,
        div_hundred hfit.maxCorrelatedExposure, true_and, Option.bind_some, Option.mem_some_iff,
        forall_eq', groupExposure, TradeIntent.notional, and_assoc, gt_iff_lt]
      split_ifs with hlimit
      · simp
      · simp

lemma dailyLossLimit_eq (hfit : LimitsFit snapshot cfg) :
    dailyLossLimit snapshot cfg =
      some (if snapshot.equity > 0 then snapshot.equity * cfg.dailyMaxLossPct / 100 else 0) := by
  rw [dailyLossLimit]
  split_ifs with hequity
  · simp [hfit.dailyMaxLoss, div_hundred hfit.dailyMaxLoss]
  · rfl

lemma breakerTripped_eq (hfit : LimitsFit snapshot cfg) :
    breakerTripped snapshot cfg =
      some (snapshot.circuitBreakerTripped || Confluence.circuitBreakerShouldTrip snapshot cfg) := by
  rw [breakerTripped, circuitBreakerShouldTrip_eq hfit]
  cases snapshot.circuitBreakerTripped <;> rfl

/-- The sums and products of the three checks fit, or are not formed. -/
def SizingFits (intent : TradeIntent) (snapshot : AccountSnapshot) : Prop :=
  Exempt intent snapshot ∨ snapshot.equity ≤ 0 ∨
    (FitsDecimal (intent.quantity * intent.price) ∧ ExposureFits intent snapshot)

lemma checkSizing_eq_some (hfit : LimitsFit snapshot cfg) {vs ws : List Violation} :
    checkSizing intent snapshot cfg vs = some ws ↔
      SizingFits intent snapshot ∧
        (if reducesExistingPosition intent snapshot then vs
          else Confluence.checkCorrelatedExposure intent snapshot cfg
            (checkConcurrentPositions intent snapshot cfg
              (Confluence.checkPositionSize intent snapshot cfg vs))) = ws := by
  unfold checkSizing SizingFits
  by_cases hexempt : Exempt intent snapshot
  · simp [reducesExistingPosition_iff.mpr hexempt, hexempt]
  · rw [if_neg (mt reducesExistingPosition_iff.mp hexempt),
      if_neg (mt reducesExistingPosition_iff.mp hexempt), Option.bind_eq_bind,
      Option.bind_eq_some_iff]
    constructor
    · rintro ⟨us, hsize, hexposure⟩
      obtain ⟨hnotional, rfl⟩ := (checkPositionSize_eq_some hfit).mp hsize
      obtain ⟨hfits, rfl⟩ := (checkCorrelatedExposure_eq_some hfit hnotional).mp hexposure
      refine ⟨.inr ?_, rfl⟩
      by_cases hequity : snapshot.equity ≤ 0
      · exact .inl hequity
      · exact .inr ⟨hnotional.resolve_left hequity, hfits.resolve_left hequity⟩
    · rintro ⟨hfits, rfl⟩
      have hfits := hfits.resolve_left hexempt
      have hnotional := hfits.imp_right fun h => h.1
      exact ⟨_, (checkPositionSize_eq_some hfit).mpr ⟨hnotional, rfl⟩,
        (checkCorrelatedExposure_eq_some hfit hnotional).mpr ⟨hfits.imp_right fun h => h.2, rfl⟩⟩

/-- The evaluation of a well-formed trade has a result exactly when the kill switch ends it at once
or the sums and products of its checks fit, and this is the exact result. -/
lemma evaluate_eq_some (hfit : LimitsFit snapshot cfg) (hquantity : 0 ≤ intent.quantity)
    (hprice : 0 ≤ intent.price) {d : Decision} :
    evaluate intent snapshot cfg = some d ↔
      (snapshot.killSwitchEngaged = true ∨ SizingFits intent snapshot) ∧
        Confluence.evaluate intent snapshot cfg = d := by
  simp only [evaluate, Confluence.evaluate, not_lt.mpr hquantity, not_lt.mpr hprice, or_self,
    if_false, dailyLossLimit_eq hfit, breakerTripped_eq hfit, Option.bind_eq_bind,
    Option.bind_some]
  cases hkill : snapshot.killSwitchEngaged with
  | true => simp
  | false =>
    simp only [Bool.false_eq_true, if_false, false_or, Option.bind_eq_some_iff,
      checkSizing_eq_some hfit]
    constructor
    · rintro ⟨ws, ⟨hfits, rfl⟩, hd⟩
      exact ⟨hfits, Option.some.inj hd⟩
    · rintro ⟨hfits, rfl⟩
      exact ⟨_, ⟨hfits, rfl⟩, rfl⟩

end Checked

end Confluence
