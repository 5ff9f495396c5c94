import Confluence.Properties.CircuitBreaker
import Confluence.Properties.History
import Confluence.Properties.RiskRules
import Confluence.Properties.TripDates
import Confluence.Server.Integrity

/-!
# Losses that nobody records

Nothing in the service writes the realized loss of a day. From the empty tables on no day is ever
inserted, no limit is ever reached, and the breaker's rule never counts in a decision.
-/

namespace Confluence

section

variable {intent : TradeIntent} {snapshot : AccountSnapshot} {cfg : RiskConfig}

/-- Without a loss, a limit above zero is not reached. -/
lemma not_violated_of_noLoss (htripped : snapshot.circuitBreakerTripped = false)
    (hloss : snapshot.todayRealizedLoss = 0) (hpct : cfg.dailyMaxLossPct > 0) :
    ¬ Rule.breaker.Violated intent snapshot cfg := by
  rintro (h | ⟨h, -⟩ | ⟨h, hequity⟩)
  · rw [htripped] at h
    cases h
  · rw [hloss] at h
    exact lt_irrefl _ h
  · have hlimit : 0 < snapshot.equity * cfg.dailyMaxLossPct / 100 :=
      div_pos (mul_pos hequity hpct) (by norm_num)
    rw [hloss] at h
    exact absurd h (not_le.mpr hlimit)

/-- The breaker is reported when its rule is broken only. -/
lemma rule_ne_breaker (h : ¬ Rule.breaker.Violated intent snapshot cfg) :
    ∀ v ∈ (evaluate intent snapshot cfg).violations, v.rule ≠ some .breaker := by
  cases hkill : snapshot.killSwitchEngaged with
  | true =>
    have hviolations : (evaluate intent snapshot cfg).violations = [.killSwitchEngaged] := by
      simp [evaluate, hkill, Decision.violations]
    simp [hviolations, Violation.rule]
  | false =>
    by_cases hbad : intent.quantity < 0 ∨ intent.price < 0
    · have hviolations : (evaluate intent snapshot cfg).violations =
          [.invalidIntent intent.quantity intent.price] := by
        simp [evaluate, hkill, hbad, Decision.violations]
      simp [hviolations, Violation.rule]
    · rw [not_or, not_lt, not_lt] at hbad
      intro v hv hrule
      have hcount := count_rule_evaluate cfg hkill hbad.1 hbad.2 .breaker
      rw [if_neg h] at hcount
      exact List.count_eq_zero.mp hcount (List.mem_map.mpr ⟨v, hv, hrule⟩)

end

section

variable {s s' : Server} {db : Db} {accountId : Uuid}

/-- While no day is recorded, the engine is asked about accounts without a loss. -/
lemma not_violated_of_engineCall (hdays : db.dailyPnl = []) (hc : db.Constrained) {a : Action}
    {intent : TradeIntent} {snapshot : AccountSnapshot} {cfg : RiskConfig}
    (h : engineCall accountId db a = some (intent, snapshot, cfg)) :
    ¬ Rule.breaker.Violated intent snapshot cfg := by
  have hinput {env : Surroundings} {i : TradeIntent}
      (h : db.engineInput accountId env i = some (intent, snapshot, cfg)) :
      ¬ Rule.breaker.Violated intent snapshot cfg := by
    simp only [Db.engineInput, Option.bind_eq_bind, Option.bind_eq_some_iff] at h
    obtain ⟨account, -, ⟨c, version⟩, hcfg, h⟩ := h
    cases h
    obtain ⟨r, hr, hrow⟩ := Option.map_eq_some_iff.mp hcfg
    have hchecked := (hc.riskConfigs r (List.mem_of_find?_eq_some hr)).1.1
    obtain ⟨rfl, -⟩ := Prod.mk.inj hrow
    exact not_violated_of_noLoss (by simp [Db.snapshot, hdays]) (by simp [Db.snapshot, hdays])
      hchecked
  cases a with
  | request env other r =>
    cases r with
    | placeOrder orderId body =>
      simp only [engineCall] at h
      split at h
      · cases h
      · split_ifs at h with ha
        subst ha
        exact hinput h
    | evaluateTrade i =>
      simp only [engineCall] at h
      split_ifs at h with hbad ha
      subst ha
      exact hinput h
    | putEquity | putRiskConfig | engageKillSwitch | releaseKillSwitch | putExchangeConfig => cases h
  | tick | enqueueCancel | claim | advance | crash => cases h

/-- No step of the service records a day. -/
lemma noDays_of_serviceStep {a : ServiceAction} (hdays : s.db.dailyPnl = []) (hc : s.db.Constrained)
    (h : s.serviceStep a = some s') : s'.db.dailyPnl = [] := by
  cases a with
  | act a =>
    cases a with
    | act a =>
      by_cases heval : ∃ env other intent, a = .request env other (.evaluateTrade intent)
      · obtain ⟨env, other, intent, rfl⟩ := heval
        obtain rfl := Option.some.inj h
        rcases evaluateTrade_db env other intent s.db with ⟨account, cfg, hcall, hdb⟩ | ⟨-, hdb⟩
        · simp only [Request.handle, hdb]
          have hbreaker := not_violated_of_engineCall hdays hc hcall
          have hnot : circuitBreakerShouldTrip (s.db.snapshot other account env.snapshotDay) cfg =
              false := by
            by_contra htrip
            rw [Bool.not_eq_false, circuitBreakerShouldTrip_iff] at htrip
            exact hbreaker (.inr htrip)
          simp only [Db.evaluatedTrade, hnot, Bool.and_false, Bool.false_eq_true, if_false]
          exact hdays
        · simp only [Request.handle, hdb]
          exact hdays
      · rw [dailyPnl_of_step (fun env other intent ha => heval ⟨env, other, intent, ha⟩) h]
        exact hdays
    | fault i supervisor n =>
      cases serviceStep_of_step h with
      | fault => exact hdays
  | createAccount accountId equity =>
    cases serviceStep_of_step h with
    | refused | created => exact hdays
  | putCorrelationGroups accountId groups =>
    cases serviceStep_of_step h with
    | regrouped => exact hdays

/-- In every reachable state no day is recorded, and no order or evaluation of any account is rejected
for the breaker. -/
theorem breaker_never_trips (h : (service (· = .fresh)).Reachable (fun _ _ => True) s) :
    s.db.dailyPnl = [] ∧
      ∀ accountId a intent snapshot cfg,
        engineCall accountId s.db a = some (intent, snapshot, cfg) →
          ∀ v ∈ (evaluate intent snapshot cfg).violations, v.rule ≠ some .breaker := by
  have hinv : s.db.Constrained ∧ s.db.dailyPnl = [] := by
    refine h.invariant (I := fun s => s.db.Constrained ∧ s.db.dailyPnl = []) ?_ ?_
    · rintro _ rfl
      exact ⟨constrained_empty, rfl⟩
    · rintro t a t' ⟨hc, hdays⟩ _ hstep
      exact ⟨constrained_of_serviceStep hstep hc, noDays_of_serviceStep hdays hc hstep⟩
  refine ⟨hinv.2, fun accountId a intent snapshot cfg hcall => ?_⟩
  exact rule_ne_breaker (not_violated_of_engineCall hinv.2 hinv.1 hcall)

end

/-- The account that has traded asks the engine again. -/
theorem breaker_never_trips_afterTrade :
    ∃ s intent snapshot cfg, (service (· = .fresh)).Reachable (fun _ _ => True) s ∧
      engineCall ⟨1⟩ s.db evaluateOne = some (intent, snapshot, cfg) ∧
      s.db.dailyPnl = [] ∧
      ∀ v ∈ (evaluate intent snapshot cfg).violations, v.rule ≠ some .breaker := by
  have hexec : ((service (· = .fresh)).exec (fun _ _ => True) .fresh openAndTrade).any
      (fun s => (engineCall ⟨1⟩ s.db evaluateOne).isSome) = true := by
    decide +kernel
  obtain ⟨s, hrun, hs⟩ := Machine.exists_run_of_exec hexec
  obtain ⟨⟨intent, snapshot, cfg⟩, hcall⟩ := Option.isSome_iff_exists.mp hs
  have hreach : (service (· = .fresh)).Reachable (fun _ _ => True) s := ⟨_, _, rfl, hrun⟩
  have hnever := breaker_never_trips hreach
  exact ⟨s, intent, snapshot, cfg, hreach, hcall, hnever.1, hnever.2 _ _ _ _ _ hcall⟩

end Confluence
