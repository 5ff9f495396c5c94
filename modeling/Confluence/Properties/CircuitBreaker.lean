import Confluence.Properties.MarketPrice
import Confluence.Server.System

/-!
# The daily halt

`evaluate_trade` persists the trip that it detects, `place_order` does not. The halt of a day is
therefore sticky in the runs in which an order never is the first to find the limit reached.
-/

namespace Confluence

/-- What a call gives to the engine, when the account and its configuration exist. -/
def Db.engineInput (db : Db) (accountId : Uuid) (env : Surroundings) (intent : TradeIntent) :
    Option (TradeIntent × AccountSnapshot × RiskConfig) := do
  let account ← db.accountRow accountId
  let (cfg, _) ← db.riskConfig accountId
  return (intent, db.snapshot accountId account env.snapshotDay, cfg)

/-- The call of the engine that `place_order` or `evaluate_trade` makes for the account. -/
def engineCall (accountId : Uuid) (db : Db) :
    Action → Option (TradeIntent × AccountSnapshot × RiskConfig)
  | .request env a (.placeOrder _ body) =>
    match validateRequest env body with
    | .error _ => none
    | .ok () =>
      if a = accountId then db.engineInput a env (coreIntent body (priceEstimate env body)) else none
  | .request env a (.evaluateTrade intent) =>
    if isBlank intent.symbol ∨ intent.quantity < 0 ∨ intent.price < 0 then none
    else if a = accountId then db.engineInput a env intent else none
  | _ => none

/-- The call finds the daily loss limit reached. -/
def FindsLimit (accountId : Uuid) (db : Db) (a : Action) : Prop :=
  ∃ intent snapshot cfg, engineCall accountId db a = some (intent, snapshot, cfg) ∧
    circuitBreakerShouldTrip snapshot cfg = true

/-- The call is approved. -/
def Approves (accountId : Uuid) (db : Db) (a : Action) : Prop :=
  ∃ intent snapshot cfg, engineCall accountId db a = some (intent, snapshot, cfg) ∧
    evaluate intent snapshot cfg = .approved

instance (accountId : Uuid) (db : Db) (a : Action) : Decidable (FindsLimit accountId db a) :=
  decidable_of_iff
    ((engineCall accountId db a).any (fun c => circuitBreakerShouldTrip c.2.1 c.2.2) = true) (by
      simp [FindsLimit, Option.any_eq_true])

instance (accountId : Uuid) (db : Db) (a : Action) : Decidable (Approves accountId db a) :=
  decidable_of_iff
    ((engineCall accountId db a).any (fun c => decide (evaluate c.1 c.2.1 c.2.2 = .approved)) =
      true) (by
      simp [Approves, Option.any_eq_true])

/-- A request on orders, evaluations, equity, limits or the kill switch that sees `day` on every
clock. -/
def OnDay (day : Date) : Action → Prop
  | .request env _ (.placeOrder _ _) => env.snapshotDay = day ∧ env.tripDay = day
  | .request env _ (.evaluateTrade _) => env.snapshotDay = day ∧ env.tripDay = day
  | .request _ _ (.putEquity _) => True
  | .request _ _ (.putRiskConfig _) => True
  | .request _ _ .engageKillSwitch => True
  | .request _ _ .releaseKillSwitch => True
  | _ => False

/-- The flag of the day's row. -/
def Db.tripped (db : Db) (accountId : Uuid) (day : Date) : Bool :=
  (db.dailyPnl.find? fun r =>
    decide (r.accountId = accountId) && decide (r.tradingDate = day)).any
      (·.circuitBreakerTrippedAt.isSome)

/-- An order of the account finds the limit reached only when the day's flag is set already. -/
def OrdersFindHaltRecorded (accountId : Uuid) (day : Date) (s : Server) (a : Action) : Prop :=
  OnDay day a ∧ ∀ env orderId body, a = .request env accountId (.placeOrder orderId body) →
    FindsLimit accountId s.db a → s.db.tripped accountId day = true

section

variable {db : Db} {accountId : Uuid} {day : Date}

lemma snapshot_tripped (account : AccountRow) :
    (db.snapshot accountId account day).circuitBreakerTripped = db.tripped accountId day := by
  simp only [Db.snapshot, Db.tripped]
  cases db.dailyPnl.find? fun r =>
    decide (r.accountId = accountId) && decide (r.tradingDate = day) <;> rfl

lemma snapshot_of_engineCall {a : Action} {intent : TradeIntent} {snapshot : AccountSnapshot}
    {cfg : RiskConfig} (hday : OnDay day a)
    (h : engineCall accountId db a = some (intent, snapshot, cfg)) :
    snapshot.circuitBreakerTripped = db.tripped accountId day := by
  have hinput {env : Surroundings} {i : TradeIntent} (henv : env.snapshotDay = day)
      (h : db.engineInput accountId env i = some (intent, snapshot, cfg)) :
      snapshot.circuitBreakerTripped = db.tripped accountId day := by
    simp only [Db.engineInput, Option.bind_eq_bind, Option.bind_eq_some_iff] at h
    obtain ⟨account, -, c, -, h⟩ := h
    cases h
    rw [← henv, snapshot_tripped]
  match a, hday with
  | .request env a (.placeOrder _ body), ⟨henv, _⟩ =>
    simp only [engineCall] at h
    split at h
    · cases h
    · split_ifs at h with ha
      exact hinput henv (ha ▸ h)
  | .request env a (.evaluateTrade intent), ⟨henv, _⟩ =>
    simp only [engineCall] at h
    split_ifs at h with hbad ha
    exact hinput henv (ha ▸ h)

/-- While the flag is set nothing is approved. -/
lemma not_approves_of_tripped {a : Action} (hday : OnDay day a)
    (h : db.tripped accountId day = true) : ¬ Approves accountId db a := by
  rintro ⟨intent, snapshot, cfg, hcall, happroved⟩
  refine evaluate_ne_approved_of_breaker ?_ happroved
  rw [snapshot_of_engineCall hday hcall, h, Bool.true_or]

/-! ### The flag is never cleared -/

lemma tripped_iff :
    db.tripped accountId day = true ↔
      ∃ r, (db.dailyPnl.find? fun r =>
        decide (r.accountId = accountId) && decide (r.tradingDate = day)) = some r ∧
          r.circuitBreakerTrippedAt.isSome = true := by
  rw [Db.tripped, Option.any_eq_true]

lemma tripped_trippedOn_of_tripped (h : db.tripped accountId day = true) (other : Uuid)
    (today : Date) : (db.trippedOn other today).tripped accountId day = true := by
  obtain ⟨r, hr, htripped⟩ := tripped_iff.mp h
  rw [tripped_iff]
  simp only [Db.trippedOn]
  split_ifs with hany
  · simp only
    rw [find?_updateWhere, hr]
    · refine ⟨_, rfl, ?_⟩
      beta_reduce
      split_ifs
      · cases hat : r.circuitBreakerTrippedAt <;> simp_all
      · exact htripped
    · exact fun _ => rfl
  · exact ⟨r, by simp only [List.find?_append, hr, Option.some_or], htripped⟩

lemma tripped_trippedOn : (db.trippedOn accountId day).tripped accountId day = true := by
  rw [tripped_iff]
  simp only [Db.trippedOn]
  split_ifs with hany
  · simp only
    obtain ⟨r, hr⟩ := Option.isSome_iff_exists.mp (List.find?_isSome.mpr (List.any_eq_true.mp hany))
    rw [find?_updateWhere, hr]
    · refine ⟨_, rfl, ?_⟩
      beta_reduce
      rw [if_pos (List.find?_some hr)]
      cases hat : r.circuitBreakerTrippedAt <;> simp
    · exact fun _ => rfl
  · refine ⟨⟨accountId, day, 0, some db.now⟩, ?_, rfl⟩
    have hnone : (db.dailyPnl.find? fun r =>
        decide (r.accountId = accountId) && decide (r.tradingDate = day)) = none := by
      rw [List.find?_eq_none]
      intro r hr hp
      exact hany (List.any_eq_true.mpr ⟨r, hr, hp⟩)
    simp [List.find?_append, hnone]

lemma tripped_evaluatedTrade (h : db.tripped accountId day = true) (env : Surroundings)
    (other : Uuid) (intent : TradeIntent) (snapshot : AccountSnapshot) (cfg : RiskConfig) :
    (db.evaluatedTrade env other intent snapshot cfg).tripped accountId day = true := by
  unfold Db.evaluatedTrade
  split_ifs
  · exact tripped_trippedOn_of_tripped h other env.tripDay
  · exact h

end

section

variable {init : Server → Prop} {accountId : Uuid} {day : Date} {s s' : Server} {a : Action}

/-- No request of the day clears the flag. -/
lemma tripped_step (hday : OnDay day a) (h : s.db.tripped accountId day = true)
    (hstep : s.step a = some s') : s'.db.tripped accountId day = true := by
  match a, hday with
  | .request env other (.placeOrder orderId body), _ =>
    obtain rfl := Option.some.inj hstep
    rcases placeOrder_cases env other orderId body s.db with
      ⟨riskEvents, hdb⟩ | ⟨_, -, -, q, p, -, -, -, -, -, hdb⟩
    all_goals
      simp only [Request.handle, hdb]
      exact h
  | .request env other (.evaluateTrade intent), _ =>
    obtain rfl := Option.some.inj hstep
    rcases evaluateTrade_cases env other intent s.db with hdb | ⟨account, cfg, -, -, hdb⟩
    · simp only [Request.handle, hdb]
      exact h
    · simp only [Request.handle, hdb]
      exact tripped_evaluatedTrade h env other intent _ cfg.1
  | .request env other (.putEquity equity), _ =>
    obtain rfl := Option.some.inj hstep
    obtain ⟨accounts, riskEvents, hdb⟩ := putEquity_cases other equity s.db
    simp only [Request.handle, hdb]
    exact h
  | .request env other (.putRiskConfig body), _ =>
    obtain rfl := Option.some.inj hstep
    obtain ⟨riskConfigs, riskEvents, hdb⟩ := putRiskConfig_cases other body s.db
    simp only [Request.handle, hdb]
    exact h
  | .request env other .engageKillSwitch, _ =>
    obtain rfl := Option.some.inj hstep
    obtain ⟨accounts, riskEvents, hdb⟩ := engageKillSwitch_cases other s.db
    simp only [Request.handle, hdb]
    exact h
  | .request env other .releaseKillSwitch, _ =>
    obtain rfl := Option.some.inj hstep
    obtain ⟨accounts, riskEvents, hdb⟩ := releaseKillSwitch_cases other s.db
    simp only [Request.handle, hdb]
    exact h

/-- A call that finds the limit reached leaves the flag set, unless it is an order that was the
first to find it. -/
lemma tripped_of_findsLimit (hok : OrdersFindHaltRecorded accountId day s a)
    (hfinds : FindsLimit accountId s.db a) (hstep : s.step a = some s') :
    s'.db.tripped accountId day = true := by
  obtain ⟨hday, horders⟩ := hok
  match a, hday with
  | .request env other (.placeOrder orderId body), hday =>
    have hother : other = accountId := by
      obtain ⟨intent, snapshot, cfg, hcall, -⟩ := hfinds
      simp only [engineCall] at hcall
      split at hcall
      · cases hcall
      · split_ifs at hcall with hother
        exact hother
    subst hother
    exact tripped_step hday (horders env orderId body rfl hfinds) hstep
  | .request env other (.evaluateTrade intent), hday =>
    obtain ⟨_, snapshot, cfg, hcall, htrip⟩ := hfinds
    have hflag := snapshot_of_engineCall hday hcall
    cases htripped : s.db.tripped accountId day with
    | true => exact tripped_step hday htripped hstep
    | false =>
      rw [htripped] at hflag
      simp only [engineCall] at hcall
      split_ifs at hcall with hbad hother
      subst hother
      simp only [Db.engineInput, Option.bind_eq_bind, Option.bind_eq_some_iff] at hcall
      obtain ⟨account, haccount, c, hcfg, hcall⟩ := hcall
      cases hcall
      -- the limit is newly reached, so that the trip is persisted
      have hcommit := evaluateTradeTx_commits haccount hcfg env intent
      have hdb : (evaluateTrade env other intent s.db).2 =
          s.db.evaluatedTrade env other intent (s.db.snapshot other account env.snapshotDay) c.1 := by
        simp only [not_or] at hbad
        rw [evaluateTrade, if_neg hbad.1, if_neg (by simpa using hbad.2),
          Engine.atomically_of_commits hcommit]
      obtain rfl := Option.some.inj hstep
      simp only [Request.handle, hdb, Db.evaluatedTrade, hflag, htrip, Bool.not_false,
        Bool.and_self, if_true, hday.2]
      exact tripped_trippedOn
  | .request _ _ (.putEquity _), _ => simp [FindsLimit, engineCall] at hfinds
  | .request _ _ (.putRiskConfig _), _ => simp [FindsLimit, engineCall] at hfinds
  | .request _ _ .engageKillSwitch, _ => simp [FindsLimit, engineCall] at hfinds
  | .request _ _ .releaseKillSwitch, _ => simp [FindsLimit, engineCall] at hfinds

end

/-! ### An account that has lost five percent of its equity -/

/-- Its limit is two percent. -/
def lostFifty : Server :=
  { db := { equity1000 with dailyPnl := [⟨⟨1⟩, 0, 50, none⟩] }, tasks := [] }

def buyOne : PlaceOrderRequest := { buyTen with quantity := 1 }

/-- The evaluation of a buy of one unit at 100. -/
def evaluateOne : Action :=
  .request quotedAt100 ⟨1⟩
    (.evaluateTrade { symbol := "BTCUSDT", side := .buy, quantity := 1, price := 100 })

/-- A buy of one unit at the market. -/
def placeOne (orderId : Uuid) : Action := .request quotedAt100 ⟨1⟩ (.placeOrder orderId buyOne)

/-- Equity enough that the loss is within the limit again. -/
def raiseEquity : Action := .request quotedAt100 ⟨1⟩ (.putEquity 10000)

end Confluence
