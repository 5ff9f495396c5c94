import Confluence.Core.Overflow

/-!
# Overflow in the risk engine

The limits of an account are products of stored numbers and percentages and never overflow. The
notional of a trade is a product of two numbers that nothing bounds from above, and a group's
exposure a sum over any number of positions.
-/

namespace Confluence

/-- The figures of the snapshot come out of `NUMERIC(30, 10)` columns. -/
structure AccountSnapshot.Storable (snapshot : AccountSnapshot) : Prop where
  equity : Numeric.Fits 30 10 snapshot.equity
  todayRealizedLoss : Numeric.Fits 30 10 snapshot.todayRealizedLoss
  openPositions : ∀ p ∈ snapshot.openPositions,
    Numeric.Fits 30 10 p.quantity ∧ Numeric.Fits 30 10 p.notional

/-- The limits are percentages: above zero and at most one hundred. -/
structure RiskConfig.Percentages (cfg : RiskConfig) : Prop where
  dailyMaxLossPct : 0 < cfg.dailyMaxLossPct ∧ cfg.dailyMaxLossPct ≤ 100
  maxPositionPctEquity : 0 < cfg.maxPositionPctEquity ∧ cfg.maxPositionPctEquity ≤ 100
  maxCorrelatedExposurePct :
    0 < cfg.maxCorrelatedExposurePct ∧ cfg.maxCorrelatedExposurePct ≤ 100

/-- A stored number times a percentage has at most twenty-two digits before the point. -/
lemma fitsDecimal_mul_pct {x pct : Decimal} (hx : Numeric.Fits 30 10 x)
    (hpct : 0 < pct ∧ pct ≤ 100) : FitsDecimal (x * pct) := by
  obtain ⟨_, hlt⟩ := hx
  rw [FitsDecimal, abs_mul, abs_of_pos hpct.1]
  calc |x| * pct ≤ 10 ^ (30 - 10) * 100 :=
        mul_le_mul hlt.le hpct.2 hpct.1.le (by positivity)
    _ ≤ maxDecimal := by norm_num [maxDecimal]

lemma limitsFit {snapshot : AccountSnapshot} {cfg : RiskConfig} (hsnapshot : snapshot.Storable)
    (hcfg : cfg.Percentages) : Checked.LimitsFit snapshot cfg where
  dailyMaxLoss := fitsDecimal_mul_pct hsnapshot.equity hcfg.dailyMaxLossPct
  maxPosition := fitsDecimal_mul_pct hsnapshot.equity hcfg.maxPositionPctEquity
  maxCorrelatedExposure := fitsDecimal_mul_pct hsnapshot.equity hcfg.maxCorrelatedExposurePct

/-- An evaluation returns a decision exactly when the kill switch is engaged, or the trade is
exempt from the sizing rules, or there is no equity, or the trade's notional fits a decimal along
with the partial sums of its correlation group. -/
theorem evaluate_returns_iff (intent : TradeIntent) (snapshot : AccountSnapshot) (cfg : RiskConfig)
    (hquantity : 0 ≤ intent.quantity) (hprice : 0 ≤ intent.price) (hsnapshot : snapshot.Storable)
    (hcfg : cfg.Percentages) :
    (∃ d, Checked.evaluate intent snapshot cfg = some d) ↔
      snapshot.killSwitchEngaged = true ∨ Exempt intent snapshot ∨ snapshot.equity ≤ 0 ∨
        (FitsDecimal (intent.quantity * intent.price) ∧
          Checked.ExposureFits intent snapshot) := by
  have heval := fun d => Checked.evaluate_eq_some (d := d) (limitsFit hsnapshot hcfg) hquantity
    hprice
  constructor
  · rintro ⟨d, hd⟩
    exact ((heval d).mp hd).1
  · intro hfits
    exact ⟨_, (heval _).mpr ⟨hfits, rfl⟩⟩

/-- An account with equity and no positions. -/
def flatSnapshot : AccountSnapshot where
  equity := 1000
  todayRealizedLoss := 0
  killSwitchEngaged := false
  circuitBreakerTripped := false
  openPositions := []
  correlationGroups := fun _ => none

lemma storable_flatSnapshot : flatSnapshot.Storable where
  equity := ⟨⟨1000 * 10 ^ 10, by norm_num [flatSnapshot]⟩, by norm_num [flatSnapshot]⟩
  todayRealizedLoss := ⟨⟨0, by norm_num [flatSnapshot]⟩, by norm_num [flatSnapshot]⟩
  openPositions := nofun

def initialLimits : RiskConfig := ⟨2, 5, 5, 10⟩

lemma percentages_initialLimits : initialLimits.Percentages := by
  constructor <;> norm_num [initialLimits]

theorem evaluate_returns_iff_flat :
    (∃ d, Checked.evaluate ⟨"BTCUSDT", .buy, 1, 40⟩ flatSnapshot initialLimits = some d) ↔
      flatSnapshot.killSwitchEngaged = true ∨ Exempt ⟨"BTCUSDT", .buy, 1, 40⟩ flatSnapshot ∨
        flatSnapshot.equity ≤ 0 ∨ (FitsDecimal (1 * 40) ∧
          Checked.ExposureFits ⟨"BTCUSDT", .buy, 1, 40⟩ flatSnapshot) :=
  evaluate_returns_iff ⟨"BTCUSDT", .buy, 1, 40⟩ flatSnapshot initialLimits (by norm_num)
    (by norm_num) storable_flatSnapshot percentages_initialLimits

/-- A quantity and a price of `10 ^ 15` are both ordinary decimals; their product is not. -/
theorem evaluate_overflows :
    ¬ ∀ (intent : TradeIntent) (snapshot : AccountSnapshot) (cfg : RiskConfig),
      0 ≤ intent.quantity → 0 ≤ intent.price → snapshot.Storable → cfg.Percentages →
        ∃ d, Checked.evaluate intent snapshot cfg = some d := by
  intro h
  obtain ⟨d, hd⟩ := h ⟨"BTCUSDT", .buy, 10 ^ 15, 10 ^ 15⟩ flatSnapshot initialLimits (by norm_num)
    (by norm_num) storable_flatSnapshot percentages_initialLimits
  have hnone : Checked.evaluate ⟨"BTCUSDT", .buy, 10 ^ 15, 10 ^ 15⟩ flatSnapshot initialLimits =
      none := by decide +kernel
  rw [hnone] at hd
  cases hd

end Confluence
