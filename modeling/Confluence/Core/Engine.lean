import Confluence.Core.Types

/-!
# Risk evaluation

`evaluate` checks a trade against the kill switch, the daily circuit breaker and the three sizing
rules. Each check appends its violation to those already found.
-/

namespace Confluence

/-- The realized loss has reached the daily limit. Reaching it exactly trips. -/
def circuitBreakerShouldTrip (snapshot : AccountSnapshot) (cfg : RiskConfig) : Bool :=
  if snapshot.equity ≤ 0 then decide (snapshot.todayRealizedLoss > 0)
  else decide (snapshot.todayRealizedLoss ≥ snapshot.equity * cfg.dailyMaxLossPct / 100)

def opposes : TradeSide → PositionSide → Bool
  | .sell, .long => true
  | .buy, .short => true
  | _, _ => false

/-- The trade goes against an open position on its symbol and does not exceed its quantity. -/
def reducesExistingPosition (intent : TradeIntent) (snapshot : AccountSnapshot) : Bool :=
  snapshot.openPositions.any fun p =>
    p.symbol = intent.symbol && opposes intent.side p.side && decide (intent.quantity ≤ p.quantity)

def checkPositionSize (intent : TradeIntent) (snapshot : AccountSnapshot) (cfg : RiskConfig)
    (violations : List Violation) : List Violation :=
  if snapshot.equity ≤ 0 then violations ++ [.nonPositiveEquity snapshot.equity]
  else
    let limitNotional := snapshot.equity * cfg.maxPositionPctEquity / 100
    let tradeNotional := intent.notional
    if tradeNotional > limitNotional then
      violations ++ [.positionSizeExceeded tradeNotional limitNotional cfg.maxPositionPctEquity]
    else violations

def checkConcurrentPositions (intent : TradeIntent) (snapshot : AccountSnapshot) (cfg : RiskConfig)
    (violations : List Violation) : List Violation :=
  let alreadyOpen := snapshot.openPositions.any fun p => p.symbol = intent.symbol
  if alreadyOpen then violations
  else
    let openCount : ℤ := snapshot.openPositions.length
    if openCount ≥ cfg.maxConcurrentPositions then
      violations ++ [.maxConcurrentPositionsExceeded openCount cfg.maxConcurrentPositions]
    else violations

def checkCorrelatedExposure (intent : TradeIntent) (snapshot : AccountSnapshot) (cfg : RiskConfig)
    (violations : List Violation) : List Violation :=
  match snapshot.correlationGroups intent.symbol with
  | none => violations
  | some group =>
    if snapshot.equity ≤ 0 then violations
    else
      let existing := ((snapshot.openPositions.filter fun p =>
        snapshot.correlationGroups p.symbol = some group).map (·.notional)).sum
      let combined := existing + intent.notional
      let limitNotional := snapshot.equity * cfg.maxCorrelatedExposurePct / 100
      if combined > limitNotional then
        violations ++
          [.correlatedExposureExceeded group combined limitNotional cfg.maxCorrelatedExposurePct]
      else violations

/-- Evaluate a proposed trade against every risk control. -/
def evaluate (intent : TradeIntent) (snapshot : AccountSnapshot) (cfg : RiskConfig) : Decision :=
  if snapshot.killSwitchEngaged then .rejected [.killSwitchEngaged]
  else if intent.quantity < 0 ∨ intent.price < 0 then
    .rejected [.invalidIntent intent.quantity intent.price]
  else
    let dailyLossLimit :=
      if snapshot.equity > 0 then snapshot.equity * cfg.dailyMaxLossPct / 100 else 0
    let violations :=
      if snapshot.circuitBreakerTripped || circuitBreakerShouldTrip snapshot cfg then
        [.circuitBreakerTripped snapshot.todayRealizedLoss dailyLossLimit]
      else []
    let violations :=
      if reducesExistingPosition intent snapshot then violations
      else
        checkCorrelatedExposure intent snapshot cfg
          (checkConcurrentPositions intent snapshot cfg
            (checkPositionSize intent snapshot cfg violations))
    if violations.isEmpty then .approved else .rejected violations

/-! ### What an approval implies -/

variable {intent : TradeIntent} {snapshot : AccountSnapshot} {cfg : RiskConfig}

/-- No check takes a violation back. -/
lemma subset_checkPositionSize (vs : List Violation) :
    vs ⊆ checkPositionSize intent snapshot cfg vs := by
  simp only [checkPositionSize]
  split_ifs <;> simp

lemma subset_checkConcurrentPositions (vs : List Violation) :
    vs ⊆ checkConcurrentPositions intent snapshot cfg vs := by
  simp only [checkConcurrentPositions]
  split_ifs <;> simp

lemma subset_checkCorrelatedExposure (vs : List Violation) :
    vs ⊆ checkCorrelatedExposure intent snapshot cfg vs := by
  simp only [checkCorrelatedExposure]
  split
  · simp
  · split_ifs <;> simp

/-- An account whose breaker has tripped, or must trip now, is approved nothing. -/
lemma evaluate_ne_approved_of_breaker
    (h : (snapshot.circuitBreakerTripped || circuitBreakerShouldTrip snapshot cfg) = true) :
    evaluate intent snapshot cfg ≠ .approved := by
  intro happroved
  simp only [evaluate, h, if_true] at happroved
  generalize Violation.circuitBreakerTripped _ _ = v at happroved
  split_ifs at happroved with hkill hneg hreduce hempty
  · simp at hempty
  · -- the breaker's violation survives the three checks
    have hv : v ∈ checkCorrelatedExposure intent snapshot cfg
        (checkConcurrentPositions intent snapshot cfg
          (checkPositionSize intent snapshot cfg [v])) :=
      subset_checkCorrelatedExposure _ (subset_checkConcurrentPositions _
        (subset_checkPositionSize _ (List.mem_singleton_self v)))
    simp_all

/-- What a trade that reduces no position has passed to be approved. -/
structure PassesSizing (intent : TradeIntent) (snapshot : AccountSnapshot) (cfg : RiskConfig) :
    Prop where
  room : (∃ p ∈ snapshot.openPositions, p.symbol = intent.symbol) ∨
    (snapshot.openPositions.length : ℤ) < cfg.maxConcurrentPositions
  exposure : ∀ group, snapshot.correlationGroups intent.symbol = some group →
    ((snapshot.openPositions.filter fun p =>
      snapshot.correlationGroups p.symbol = some group).map (·.notional)).sum + intent.notional ≤
        snapshot.equity * cfg.maxCorrelatedExposurePct / 100

lemma passesSizing_of_nil (h : checkCorrelatedExposure intent snapshot cfg
      (checkConcurrentPositions intent snapshot cfg
        (checkPositionSize intent snapshot cfg [])) = []) : PassesSizing intent snapshot cfg := by
  have hconcurrent : checkConcurrentPositions intent snapshot cfg
      (checkPositionSize intent snapshot cfg []) = [] := by
    have hsub : checkConcurrentPositions intent snapshot cfg
          (checkPositionSize intent snapshot cfg []) ⊆
        checkCorrelatedExposure intent snapshot cfg (checkConcurrentPositions intent snapshot cfg
          (checkPositionSize intent snapshot cfg [])) := subset_checkCorrelatedExposure _
    rw [h] at hsub
    exact List.subset_nil.mp hsub
  have hsize : checkPositionSize intent snapshot cfg [] = [] := by
    have hsub : checkPositionSize intent snapshot cfg [] ⊆ checkConcurrentPositions intent snapshot
        cfg (checkPositionSize intent snapshot cfg []) := subset_checkConcurrentPositions _
    rw [hconcurrent] at hsub
    exact List.subset_nil.mp hsub
  have hequity : ¬ snapshot.equity ≤ 0 := by
    intro hle
    simp [checkPositionSize, hle] at hsize
  constructor
  · by_cases hopen : ∃ p ∈ snapshot.openPositions, p.symbol = intent.symbol
    · exact .inl hopen
    · by_contra hfull
      have hcount : (snapshot.openPositions.length : ℤ) ≥ cfg.maxConcurrentPositions :=
        not_lt.mp (not_or.mp hfull).2
      simp [hsize, checkConcurrentPositions, hopen, hcount] at hconcurrent
  · intro group hgroup
    by_contra hlimit
    simp [hconcurrent, checkCorrelatedExposure, hgroup, hequity, not_le.mp hlimit] at h

/-- An approved trade reduces a position or has passed the sizing rules. -/
lemma of_evaluate_approved (h : evaluate intent snapshot cfg = .approved) :
    0 ≤ intent.quantity ∧ 0 ≤ intent.price ∧
      (reducesExistingPosition intent snapshot = true ∨ PassesSizing intent snapshot cfg) := by
  by_cases hbreaker :
      (snapshot.circuitBreakerTripped || circuitBreakerShouldTrip snapshot cfg) = true
  · exact (evaluate_ne_approved_of_breaker hbreaker h).elim
  · simp only [evaluate, if_neg hbreaker] at h
    by_cases hneg : intent.quantity < 0 ∨ intent.price < 0
    · rw [if_pos hneg] at h
      split_ifs at h
    · obtain ⟨hquantity, hprice⟩ := not_or.mp hneg
      refine ⟨not_lt.mp hquantity, not_lt.mp hprice, ?_⟩
      by_cases hreduces : reducesExistingPosition intent snapshot = true
      · exact .inl hreduces
      · rw [if_neg hneg, if_neg hreduces] at h
        split_ifs at h with hkill hempty
        exact .inr (passesSizing_of_nil (List.isEmpty_iff.mp hempty))

end Confluence
