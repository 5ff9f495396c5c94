import Confluence.Core.Rules

/-!
# The decision is the conjunction of the rules

With the kill switch released, the decision lists each broken rule once and nothing else. From that
reading, approval is monotone: a smaller trade on a healthier account under wider limits is
approved when the larger one is.
-/

namespace Confluence

variable {intent : TradeIntent} {snapshot : AccountSnapshot} {cfg : RiskConfig}

/-- Every entry of the list names a rule. -/
lemma isSome_rule_evaluate (hkill : snapshot.killSwitchEngaged = false)
    (hquantity : 0 ≤ intent.quantity) (hprice : 0 ≤ intent.price) :
    ∀ v ∈ (evaluate intent snapshot cfg).violations, v.rule.isSome = true := by
  obtain ⟨us₁, us₂, us₃, us₄, h₁, h₂, h₃, h₄, h₅⟩ := reports_evaluate cfg hkill hquantity
    hprice
  exact h₅.isSome (h₄.isSome (h₃.isSome (h₂.isSome (h₁.isSome (by simp)))))

lemma count_rule_evaluate (cfg : RiskConfig) (hkill : snapshot.killSwitchEngaged = false)
    (hquantity : 0 ≤ intent.quantity) (hprice : 0 ≤ intent.price) (r : Rule) :
    ((evaluate intent snapshot cfg).violations.map Violation.rule).count (some r) =
      if r.Violated intent snapshot cfg then 1 else 0 := by
  obtain ⟨us₁, us₂, us₃, us₄, h₁, h₂, h₃, h₄, h₅⟩ := reports_evaluate cfg hkill hquantity
    hprice
  -- each rule is counted by its own check and skipped by the other four
  cases r with
  | breaker =>
    rw [h₅.count_of_ne (by decide), h₄.count_of_ne (by decide), h₃.count_of_ne (by decide),
      h₂.count_of_ne (by decide), h₁.count_self]
    simp
  | positiveEquity =>
    rw [h₅.count_of_ne (by decide), h₄.count_of_ne (by decide), h₃.count_of_ne (by decide),
      h₂.count_self, h₁.count_of_ne (by decide)]
    simp
  | positionSize =>
    rw [h₅.count_of_ne (by decide), h₄.count_of_ne (by decide), h₃.count_self,
      h₂.count_of_ne (by decide), h₁.count_of_ne (by decide)]
    simp
  | concurrentPositions =>
    rw [h₅.count_of_ne (by decide), h₄.count_self, h₃.count_of_ne (by decide),
      h₂.count_of_ne (by decide), h₁.count_of_ne (by decide)]
    simp
  | correlatedExposure =>
    rw [h₅.count_self, h₄.count_of_ne (by decide), h₃.count_of_ne (by decide),
      h₂.count_of_ne (by decide), h₁.count_of_ne (by decide)]
    simp

lemma Decision.eq_approved_iff_violations {r : Decision} (h : r ≠ .rejected []) :
    r = .approved ↔ r.violations = [] := by
  cases r with
  | approved => simp [Decision.violations]
  | rejected vs =>
    cases vs with
    | nil => exact absurd rfl h
    | cons v vs => simp [Decision.violations]

lemma evaluate_ne_rejected_nil : evaluate intent snapshot cfg ≠ .rejected [] := by
  intro h
  simp only [evaluate] at h
  generalize (if reducesExistingPosition intent snapshot = true then _ else _) = us at h
  cases us <;> split_ifs at h <;> simp_all

/-- A well-formed trade is approved when it breaks no rule, and only then. -/
lemma approved_iff_no_rule (hkill : snapshot.killSwitchEngaged = false)
    (hquantity : 0 ≤ intent.quantity) (hprice : 0 ≤ intent.price) :
    evaluate intent snapshot cfg = .approved ↔ ∀ r : Rule, ¬ r.Violated intent snapshot cfg := by
  rw [Decision.eq_approved_iff_violations evaluate_ne_rejected_nil]
  constructor
  · intro hnil r hr
    have hcount := count_rule_evaluate cfg hkill hquantity hprice r
    simp [hnil, hr] at hcount
  · intro hnone
    rw [List.eq_nil_iff_forall_not_mem]
    intro v hv
    obtain ⟨r, hr⟩ := Option.isSome_iff_exists.mp
      (isSome_rule_evaluate hkill hquantity hprice v hv)
    have hcount := count_rule_evaluate cfg hkill hquantity hprice r
    rw [if_neg (hnone r), List.count_eq_zero] at hcount
    exact hcount (List.mem_map.mpr ⟨v, hv, hr⟩)

/-- A short position of one unit, in the same group as the symbol bought. -/
def shortSnapshot : AccountSnapshot where
  equity := 1000
  todayRealizedLoss := 100
  killSwitchEngaged := false
  circuitBreakerTripped := false
  openPositions := [⟨"ETHUSDT", .short, 1, 90⟩]
  correlationGroups := fun _ => some "majors"

/-- The second account holds the same positions in the same groups and stands no worse. -/
structure NoWorse (snapshot snapshot' : AccountSnapshot) : Prop where
  positions : snapshot'.openPositions = snapshot.openPositions
  groups : snapshot'.correlationGroups = snapshot.correlationGroups
  equity : snapshot.equity ≤ snapshot'.equity
  loss : snapshot'.todayRealizedLoss ≤ snapshot.todayRealizedLoss
  kill : snapshot'.killSwitchEngaged = true → snapshot.killSwitchEngaged = true
  breaker : snapshot'.circuitBreakerTripped = true → snapshot.circuitBreakerTripped = true

/-- The second intent trades the same symbol in the same direction, and no more of it. -/
structure NoLarger (intent intent' : TradeIntent) : Prop where
  symbol : intent'.symbol = intent.symbol
  side : intent'.side = intent.side
  quantity : intent'.quantity ≤ intent.quantity
  price : intent'.price ≤ intent.price

/-- The second configuration allows at least as much. -/
structure Wider (cfg cfg' : RiskConfig) : Prop where
  dailyMaxLossPct : cfg.dailyMaxLossPct ≤ cfg'.dailyMaxLossPct
  maxPositionPctEquity : cfg.maxPositionPctEquity ≤ cfg'.maxPositionPctEquity
  maxConcurrentPositions : cfg.maxConcurrentPositions ≤ cfg'.maxConcurrentPositions
  maxCorrelatedExposurePct : cfg.maxCorrelatedExposurePct ≤ cfg'.maxCorrelatedExposurePct

structure RiskConfig.PositivePct (cfg : RiskConfig) : Prop where
  dailyMaxLossPct : 0 < cfg.dailyMaxLossPct
  maxPositionPctEquity : 0 < cfg.maxPositionPctEquity
  maxCorrelatedExposurePct : 0 < cfg.maxCorrelatedExposurePct

variable {intent' : TradeIntent} {snapshot' : AccountSnapshot} {cfg' : RiskConfig}

lemma NoLarger.notional (h : NoLarger intent intent') (hquantity : 0 ≤ intent'.quantity)
    (hprice : 0 ≤ intent'.price) :
    intent'.quantity * intent'.price ≤ intent.quantity * intent.price :=
  mul_le_mul h.quantity h.price hprice (hquantity.trans h.quantity)

/-- A limit that is a percentage of the equity grows with both. -/
lemma limit_le {equity equity' pct pct' : Decimal} (hequity : equity ≤ equity') (hpct : pct ≤ pct')
    (hpos : 0 < equity) (hpct₀ : 0 < pct) : equity * pct / 100 ≤ equity' * pct' / 100 := by
  have hmul : equity * pct ≤ equity' * pct' :=
    mul_le_mul hequity hpct hpct₀.le (hpos.le.trans hequity)
  linarith

/-- A trade against a position stays one when it shrinks. -/
lemma Exempt.mono (hsnapshot : NoWorse snapshot snapshot') (hintent : NoLarger intent intent')
    (h : Exempt intent snapshot) : Exempt intent' snapshot' := by
  obtain ⟨p, hp, hsymbol, hside, hquantity⟩ := h
  refine ⟨p, ?_, hsymbol.trans hintent.symbol.symm, ?_, hintent.quantity.trans hquantity⟩
  · rw [hsnapshot.positions]
    exact hp
  · rw [hintent.side]
    exact hside

/-- A rule broken by the smaller trade, on the better account under the wider limits, leads to one
broken by the larger trade. -/
lemma Rule.Violated.mono (hsnapshot : NoWorse snapshot snapshot')
    (hintent : NoLarger intent intent') (hcfg : Wider cfg cfg') (hpct : cfg.PositivePct)
    (hquantity : 0 ≤ intent'.quantity) (hprice : 0 ≤ intent'.price) {r : Rule}
    (h : r.Violated intent' snapshot' cfg') : ∃ q : Rule, q.Violated intent snapshot cfg := by
  have hnotional := hintent.notional hquantity hprice
  cases r with
  | breaker =>
    refine ⟨.breaker, ?_⟩
    rcases h with hflag | ⟨hloss, hequity'⟩ | ⟨hloss, hequity'⟩
    · exact .inl (hsnapshot.breaker hflag)
    · exact .inr (.inl ⟨hloss.trans_le hsnapshot.loss, hsnapshot.equity.trans hequity'⟩)
    · rcases le_or_gt snapshot.equity 0 with hequity | hequity
      · -- the better account has equity and a loss, which the worse one has without equity
        have hlimit : 0 < snapshot'.equity * cfg'.dailyMaxLossPct :=
          mul_pos hequity' (hpct.dailyMaxLossPct.trans_le hcfg.dailyMaxLossPct)
        have hloss' := hsnapshot.loss
        exact .inr (.inl ⟨by linarith, hequity⟩)
      · have hlimit := limit_le hsnapshot.equity hcfg.dailyMaxLossPct hequity hpct.dailyMaxLossPct
        have hloss' := hsnapshot.loss
        exact .inr (.inr ⟨by linarith, hequity⟩)
  | positiveEquity =>
    exact ⟨.positiveEquity, fun hexempt => h.1 (hexempt.mono hsnapshot hintent),
      hsnapshot.equity.trans h.2⟩
  | positionSize =>
    obtain ⟨hexempt', hequity', hsize⟩ := h
    have hexempt : ¬ Exempt intent snapshot := fun he => hexempt' (he.mono hsnapshot hintent)
    rcases le_or_gt snapshot.equity 0 with hequity | hequity
    · exact ⟨.positiveEquity, hexempt, hequity⟩
    · have hlimit := limit_le hsnapshot.equity hcfg.maxPositionPctEquity hequity
        hpct.maxPositionPctEquity
      exact ⟨.positionSize, hexempt, hequity, by linarith⟩
  | concurrentPositions =>
    obtain ⟨hexempt', hnone, hcount⟩ := h
    refine ⟨.concurrentPositions, fun he => hexempt' (he.mono hsnapshot hintent), ?_, ?_⟩
    · intro p hp
      rw [← hintent.symbol]
      exact hnone p (hsnapshot.positions ▸ hp)
    · rw [hsnapshot.positions] at hcount
      exact hcfg.maxConcurrentPositions.trans hcount
  | correlatedExposure =>
    obtain ⟨hexempt', hequity', group, hgroup, hlimit'⟩ := h
    have hexempt : ¬ Exempt intent snapshot := fun he => hexempt' (he.mono hsnapshot hintent)
    have hexposure : groupExposure snapshot' group = groupExposure snapshot group := by
      simp only [groupExposure, hsnapshot.positions, hsnapshot.groups]
    rcases le_or_gt snapshot.equity 0 with hequity | hequity
    · exact ⟨.positiveEquity, hexempt, hequity⟩
    · have hlimit := limit_le hsnapshot.equity hcfg.maxCorrelatedExposurePct hequity
        hpct.maxCorrelatedExposurePct
      rw [hsnapshot.groups, hintent.symbol] at hgroup
      exact ⟨.correlatedExposure, hexempt, hequity, group, hgroup, by linarith⟩

lemma killSwitch_of_approved (h : evaluate intent snapshot cfg = .approved) :
    snapshot.killSwitchEngaged = false := by
  cases hkill : snapshot.killSwitchEngaged with
  | false => rfl
  | true => simp [evaluate, hkill] at h

/-- Approval carries over to a smaller trade, a better account and wider limits. -/
theorem approval_mono (intent intent' : TradeIntent) (snapshot snapshot' : AccountSnapshot)
    (cfg cfg' : RiskConfig) (hpct : cfg.PositivePct) (hquantity : 0 ≤ intent'.quantity)
    (hprice : 0 ≤ intent'.price) (hintent : NoLarger intent intent')
    (hsnapshot : NoWorse snapshot snapshot') (hcfg : Wider cfg cfg')
    (happroved : evaluate intent snapshot cfg = .approved) :
    evaluate intent' snapshot' cfg' = .approved := by
  have hkill := killSwitch_of_approved happroved
  have hkill' : snapshot'.killSwitchEngaged = false := by
    by_contra h
    exact absurd (hsnapshot.kill (by simpa using h)) (by simp [hkill])
  have hnone := (approved_iff_no_rule hkill (hquantity.trans hintent.quantity)
    (hprice.trans hintent.price)).mp happroved
  refine (approved_iff_no_rule hkill' hquantity hprice).mpr fun r hr => ?_
  obtain ⟨q, hq⟩ := hr.mono hsnapshot hintent hcfg hpct hquantity hprice
  exact hnone q hq

/-- The account of `shortSnapshot` with more equity and less of a loss. -/
def recoveredSnapshot : AccountSnapshot :=
  { shortSnapshot with equity := 1200, todayRealizedLoss := 0 }

/-- Two units of the symbol held short pass the sizing rules, a single unit only closes it. -/
theorem approval_mono_short :
    evaluate ⟨"ETHUSDT", .buy, 1, 80⟩ recoveredSnapshot ⟨25, 20, 2, 30⟩ = .approved :=
  approval_mono ⟨"ETHUSDT", .buy, 2, 90⟩ ⟨"ETHUSDT", .buy, 1, 80⟩ shortSnapshot recoveredSnapshot
    ⟨20, 20, 2, 30⟩ ⟨25, 20, 2, 30⟩ ⟨by norm_num, by norm_num, by norm_num⟩ (by norm_num)
    (by norm_num) ⟨rfl, rfl, by norm_num, by norm_num⟩
    ⟨rfl, rfl, by norm_num [shortSnapshot, recoveredSnapshot],
      by norm_num [shortSnapshot, recoveredSnapshot], id, id⟩
    ⟨by norm_num, by norm_num, by norm_num, by norm_num⟩ (by decide +kernel)

end Confluence
