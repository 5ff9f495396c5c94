import Confluence.Core.Engine

/-!
# The rules behind the checks

`Rule.Violated` says of each risk rule when a trade breaks it, by the account's figures alone. The
five rules are stated independently of each other and of the order in which `evaluate` checks them.
-/

namespace Confluence

inductive Rule
  | breaker
  | positiveEquity
  | positionSize
  | concurrentPositions
  | correlatedExposure
deriving DecidableEq

/-- The rule an entry reports. The kill switch and a malformed intent are not rules: either one
ends the evaluation. -/
def Violation.rule : Violation → Option Rule
  | .killSwitchEngaged => none
  | .invalidIntent _ _ => none
  | .circuitBreakerTripped _ _ => some .breaker
  | .nonPositiveEquity _ => some .positiveEquity
  | .positionSizeExceeded _ _ _ => some .positionSize
  | .maxConcurrentPositionsExceeded _ _ => some .concurrentPositions
  | .correlatedExposureExceeded _ _ _ _ => some .correlatedExposure

def Decision.violations : Decision → List Violation
  | approved => []
  | rejected violations => violations

/-- Some open position on the symbol has the opposite direction and at least the intent's
quantity. -/
def Exempt (intent : TradeIntent) (snapshot : AccountSnapshot) : Prop :=
  ∃ p ∈ snapshot.openPositions, p.symbol = intent.symbol ∧
    (intent.side = .sell ∧ p.side = .long ∨ intent.side = .buy ∧ p.side = .short) ∧
      intent.quantity ≤ p.quantity

instance (intent : TradeIntent) (snapshot : AccountSnapshot) : Decidable (Exempt intent snapshot) :=
  inferInstanceAs (Decidable (∃ p ∈ snapshot.openPositions, _))

/-- Summed notional of the open positions in a correlation group. -/
def groupExposure (snapshot : AccountSnapshot) (group : String) : Decimal :=
  ((snapshot.openPositions.filter fun p =>
    snapshot.correlationGroups p.symbol = some group).map (·.notional)).sum

/-- The trade breaks the rule. -/
def Rule.Violated (intent : TradeIntent) (snapshot : AccountSnapshot) (cfg : RiskConfig) :
    Rule → Prop
  | breaker =>
    snapshot.circuitBreakerTripped = true ∨
      (snapshot.todayRealizedLoss > 0 ∧ snapshot.equity ≤ 0) ∨
        (snapshot.todayRealizedLoss ≥ snapshot.equity * cfg.dailyMaxLossPct / 100 ∧
          snapshot.equity > 0)
  | positiveEquity => ¬ Exempt intent snapshot ∧ snapshot.equity ≤ 0
  | positionSize =>
    ¬ Exempt intent snapshot ∧ snapshot.equity > 0 ∧
      intent.quantity * intent.price > snapshot.equity * cfg.maxPositionPctEquity / 100
  | concurrentPositions =>
    ¬ Exempt intent snapshot ∧ (∀ p ∈ snapshot.openPositions, p.symbol ≠ intent.symbol) ∧
      (snapshot.openPositions.length : ℤ) ≥ cfg.maxConcurrentPositions
  | correlatedExposure =>
    ¬ Exempt intent snapshot ∧ snapshot.equity > 0 ∧
      ∃ group ∈ snapshot.correlationGroups intent.symbol,
        groupExposure snapshot group + intent.quantity * intent.price >
          snapshot.equity * cfg.maxCorrelatedExposurePct / 100

instance (intent : TradeIntent) (snapshot : AccountSnapshot) (cfg : RiskConfig) :
    (r : Rule) → Decidable (r.Violated intent snapshot cfg)
  | .breaker => inferInstanceAs (Decidable (_ ∨ _))
  | .positiveEquity => inferInstanceAs (Decidable (_ ∧ _))
  | .positionSize => inferInstanceAs (Decidable (_ ∧ _))
  | .concurrentPositions => inferInstanceAs (Decidable (_ ∧ _ ∧ _))
  | .correlatedExposure => inferInstanceAs (Decidable (_ ∧ _ ∧ _))

/-! ### What each check reports -/

/-- `ws` is `vs` with one entry for the rule when the trade breaks it, and `vs` otherwise. -/
def Reports (r : Rule) (broken : Prop) (vs ws : List Violation) : Prop :=
  (broken ∧ ∃ v, v.rule = some r ∧ ws = vs ++ [v]) ∨ (¬ broken ∧ ws = vs)

variable {intent : TradeIntent} {snapshot : AccountSnapshot} {cfg : RiskConfig}
variable {r s : Rule} {broken : Prop} {vs ws : List Violation}

lemma Reports.of_broken {v : Violation} (hv : v.rule = some r) (h : broken) :
    Reports r broken vs (vs ++ [v]) :=
  .inl ⟨h, v, hv, rfl⟩

lemma Reports.of_kept (h : ¬ broken) : Reports r broken vs vs :=
  .inr ⟨h, rfl⟩

/-- Entries for a rule, before and after its check. -/
lemma Reports.count_self [Decidable broken] (h : Reports r broken vs ws) :
    (ws.map Violation.rule).count (some r) =
      (vs.map Violation.rule).count (some r) + if broken then 1 else 0 := by
  rcases h with ⟨hb, v, hv, rfl⟩ | ⟨hb, rfl⟩
  · simp [hb, hv]
  · simp [hb]

/-- A check leaves the entries of the other rules alone. -/
lemma Reports.count_of_ne (h : Reports r broken vs ws) (hne : r ≠ s) :
    (ws.map Violation.rule).count (some s) = (vs.map Violation.rule).count (some s) := by
  rcases h with ⟨_, v, hv, rfl⟩ | ⟨_, rfl⟩
  · simp [hv, hne]
  · rfl

/-- A check adds no entry that names no rule. -/
lemma Reports.isSome (h : Reports r broken vs ws) (hvs : ∀ v ∈ vs, v.rule.isSome = true) :
    ∀ v ∈ ws, v.rule.isSome = true := by
  rcases h with ⟨_, w, hw, rfl⟩ | ⟨_, rfl⟩
  · intro v hv
    rcases List.mem_append.mp hv with hv | hv
    · exact hvs v hv
    · rw [List.mem_singleton.mp hv, hw]
      rfl
  · exact hvs

lemma circuitBreakerShouldTrip_iff :
    circuitBreakerShouldTrip snapshot cfg = true ↔
      (snapshot.todayRealizedLoss > 0 ∧ snapshot.equity ≤ 0) ∨
        (snapshot.todayRealizedLoss ≥ snapshot.equity * cfg.dailyMaxLossPct / 100 ∧
          snapshot.equity > 0) := by
  unfold circuitBreakerShouldTrip
  by_cases hequity : snapshot.equity ≤ 0
  · simp [hequity, not_lt.mpr hequity]
  · simp [hequity, not_le.mp hequity]

lemma reducesExistingPosition_iff :
    reducesExistingPosition intent snapshot = true ↔ Exempt intent snapshot := by
  have hopposes : ∀ (t : TradeSide) (p : PositionSide), opposes t p = true ↔
      (t = .sell ∧ p = .long ∨ t = .buy ∧ p = .short) := by
    intro t p
    cases t <;> cases p <;> simp [opposes]
  simp [reducesExistingPosition, Exempt, hopposes, and_assoc]

/-- The list after the breaker's check. -/
lemma reports_breaker (intent : TradeIntent) (snapshot : AccountSnapshot) (cfg : RiskConfig)
    (loss limit : Decimal) :
    Reports .breaker (Rule.breaker.Violated intent snapshot cfg) []
      (if snapshot.circuitBreakerTripped || circuitBreakerShouldTrip snapshot cfg then
        [.circuitBreakerTripped loss limit]
      else []) := by
  have hiff : (snapshot.circuitBreakerTripped || circuitBreakerShouldTrip snapshot cfg) = true ↔
      Rule.breaker.Violated intent snapshot cfg := by
    rw [Bool.or_eq_true, circuitBreakerShouldTrip_iff]
    rfl
  split_ifs with h
  · exact .of_broken rfl (hiff.mp h)
  · exact .of_kept fun hb => h (hiff.mpr hb)

/-- The size check reports a lack of equity or an excess of size, never both. -/
lemma reports_checkPositionSize (cfg : RiskConfig) (hexempt : ¬ Exempt intent snapshot)
    (vs : List Violation) :
    ∃ us, Reports .positiveEquity (Rule.positiveEquity.Violated intent snapshot cfg) vs us ∧
      Reports .positionSize (Rule.positionSize.Violated intent snapshot cfg) us
        (checkPositionSize intent snapshot cfg vs) := by
  by_cases hequity : snapshot.equity ≤ 0
  · refine ⟨vs ++ [.nonPositiveEquity snapshot.equity], .of_broken rfl ⟨hexempt, hequity⟩, ?_⟩
    rw [checkPositionSize, if_pos hequity]
    exact .of_kept fun hb => not_lt.mpr hequity hb.2.1
  · refine ⟨vs, .of_kept fun hb => hequity hb.2, ?_⟩
    simp only [checkPositionSize, if_neg hequity]
    split_ifs with hsize
    · exact .of_broken rfl ⟨hexempt, not_le.mp hequity, hsize⟩
    · exact .of_kept fun hb => hsize hb.2.2

lemma reports_checkConcurrentPositions (hexempt : ¬ Exempt intent snapshot)
    (vs : List Violation) :
    Reports .concurrentPositions (Rule.concurrentPositions.Violated intent snapshot cfg) vs
      (checkConcurrentPositions intent snapshot cfg vs) := by
  simp only [checkConcurrentPositions]
  split_ifs with hopen hcount
  · refine .of_kept fun hb => ?_
    obtain ⟨p, hp, hsymbol⟩ := List.any_eq_true.mp hopen
    exact hb.2.1 p hp (of_decide_eq_true hsymbol)
  · refine .of_broken rfl ⟨hexempt, fun p hp hsymbol => hopen ?_, hcount⟩
    exact List.any_eq_true.mpr ⟨p, hp, decide_eq_true hsymbol⟩
  · exact .of_kept fun hb => hcount hb.2.2

lemma reports_checkCorrelatedExposure (hexempt : ¬ Exempt intent snapshot)
    (vs : List Violation) :
    Reports .correlatedExposure (Rule.correlatedExposure.Violated intent snapshot cfg) vs
      (checkCorrelatedExposure intent snapshot cfg vs) := by
  simp only [checkCorrelatedExposure]
  split
  next hgroup =>
    refine .of_kept fun hb => ?_
    obtain ⟨group, hmem, _⟩ := hb.2.2
    simp [hgroup] at hmem
  next group hgroup =>
    split_ifs with hequity hlimit
    · exact .of_kept fun hb => not_lt.mpr hequity hb.2.1
    · exact .of_broken rfl ⟨hexempt, not_le.mp hequity, group, hgroup, hlimit⟩
    · refine .of_kept fun hb => hlimit ?_
      obtain ⟨group', hmem, hlimit'⟩ := hb.2.2
      obtain rfl : group = group' := Option.some.inj (hgroup.symm.trans hmem)
      exact hlimit'

/-- An exempt trade breaks none of the sizing rules. -/
lemma Rule.not_violated_of_exempt (hexempt : Exempt intent snapshot) (hr : r ≠ .breaker) :
    ¬ r.Violated intent snapshot cfg := by
  cases r with
  | breaker => exact absurd rfl hr
  | positiveEquity => exact fun h => h.1 hexempt
  | positionSize => exact fun h => h.1 hexempt
  | concurrentPositions => exact fun h => h.1 hexempt
  | correlatedExposure => exact fun h => h.1 hexempt

/-- The violations of a well-formed intent go through one check per rule. -/
lemma reports_evaluate (cfg : RiskConfig) (hkill : snapshot.killSwitchEngaged = false)
    (hquantity : 0 ≤ intent.quantity) (hprice : 0 ≤ intent.price) :
    ∃ us₁ us₂ us₃ us₄,
      Reports .breaker (Rule.breaker.Violated intent snapshot cfg) [] us₁ ∧
      Reports .positiveEquity (Rule.positiveEquity.Violated intent snapshot cfg) us₁ us₂ ∧
      Reports .positionSize (Rule.positionSize.Violated intent snapshot cfg) us₂ us₃ ∧
      Reports .concurrentPositions (Rule.concurrentPositions.Violated intent snapshot cfg) us₃ us₄ ∧
      Reports .correlatedExposure (Rule.correlatedExposure.Violated intent snapshot cfg) us₄
        (evaluate intent snapshot cfg).violations := by
  have hviolations : ∀ us : List Violation,
      (if us.isEmpty = true then Decision.approved else .rejected us).violations = us := by
    intro us
    cases us <;> rfl
  simp only [evaluate, hkill, Bool.false_eq_true, if_false, not_lt.mpr hquantity,
    not_lt.mpr hprice, or_self, hviolations]
  have hbreaker := reports_breaker intent snapshot cfg snapshot.todayRealizedLoss
    (if snapshot.equity > 0 then snapshot.equity * cfg.dailyMaxLossPct / 100 else 0)
  by_cases hexempt : Exempt intent snapshot
  · rw [if_pos (reducesExistingPosition_iff.mpr hexempt)]
    have hkept : ∀ {q : Rule} {us : List Violation}, q ≠ .breaker →
        Reports q (q.Violated intent snapshot cfg) us us := by
      intro q us hq
      exact .of_kept (Rule.not_violated_of_exempt hexempt hq)
    exact ⟨_, _, _, _, hbreaker, hkept (by decide), hkept (by decide), hkept (by decide),
      hkept (by decide)⟩
  · rw [if_neg fun h => hexempt (reducesExistingPosition_iff.mp h)]
    obtain ⟨us, hequity, hsize⟩ := reports_checkPositionSize cfg hexempt _
    exact ⟨_, us, _, _, hbreaker, hequity, hsize, reports_checkConcurrentPositions hexempt _,
      reports_checkCorrelatedExposure hexempt _⟩

end Confluence
