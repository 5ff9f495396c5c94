import Mathlib.Data.Rat.Defs
import Mathlib.Tactic

/-!
# Types of the risk engine

Quantities, prices and limits are exact rational numbers: the arithmetic of the engine is
modelled without the bounds of the machine's decimals.
-/

namespace Confluence

abbrev Decimal := ℚ

/-- `Decimal::MAX`, the largest decimal of the machine. -/
def maxDecimal : Decimal := 2 ^ 96 - 1

lemma maxDecimal_nonneg : 0 ≤ maxDecimal := by norm_num [maxDecimal]

/-- The machine has a decimal of this magnitude. -/
def FitsDecimal (x : Decimal) : Prop := |x| ≤ maxDecimal

instance (x : Decimal) : Decidable (FitsDecimal x) := inferInstanceAs (Decidable (_ ≤ _))

/-- Direction of a proposed trade. -/
inductive TradeSide
  | buy
  | sell
deriving DecidableEq

/-- Direction of an existing open position. -/
inductive PositionSide
  | long
  | short
deriving DecidableEq

/-- A proposed trade, before any order exists. -/
structure TradeIntent where
  symbol : String
  side : TradeSide
  quantity : Decimal
  price : Decimal
deriving DecidableEq

def TradeIntent.notional (intent : TradeIntent) : Decimal := intent.quantity * intent.price

/-- An open position as the engine sees it; `notional` is its exposure, computed by the caller. -/
structure OpenPosition where
  symbol : String
  side : PositionSide
  quantity : Decimal
  notional : Decimal
deriving DecidableEq

/-- Limits of an account. The `Pct` values are percentages, not fractions. -/
structure RiskConfig where
  dailyMaxLossPct : Decimal
  maxPositionPctEquity : Decimal
  maxConcurrentPositions : ℤ
  maxCorrelatedExposurePct : Decimal
deriving DecidableEq

/-- What the engine knows about an account. `correlationGroups` gives the group of a symbol, and
`none` for an uncorrelated one. -/
structure AccountSnapshot where
  equity : Decimal
  todayRealizedLoss : Decimal
  killSwitchEngaged : Bool
  circuitBreakerTripped : Bool
  openPositions : List OpenPosition
  correlationGroups : String → Option String

inductive Violation
  | killSwitchEngaged
  | invalidIntent (quantity price : Decimal)
  | circuitBreakerTripped (todayRealizedLoss dailyLossLimit : Decimal)
  | nonPositiveEquity (equity : Decimal)
  | positionSizeExceeded (tradeNotional limitNotional limitPct : Decimal)
  | maxConcurrentPositionsExceeded (openCount limit : ℤ)
  | correlatedExposureExceeded (group : String) (combinedNotional limitNotional limitPct : Decimal)
deriving DecidableEq

inductive Decision
  | approved
  | rejected (violations : List Violation)
deriving DecidableEq

def Decision.isApproved : Decision → Bool
  | approved => true
  | rejected _ => false

lemma Decision.isApproved_iff {d : Decision} : d.isApproved = true ↔ d = approved := by
  cases d <;> simp [isApproved]

end Confluence
