import Confluence.Properties.CircuitBreaker
import Confluence.Server.Steps

/-!
# The date of a trip

`evaluate_trade` reads the date twice: when it loads the day's loss, and again when it stores the
trip. A day is therefore tripped for its own loss exactly in the runs in which no call finds the limit
reached on one day and stores the trip on the next.
-/

namespace Confluence

/-- The loss of a day, written from outside. -/
def Db.withLoss (db : Db) (accountId : Uuid) (day : Date) (loss : Decimal) : Db :=
  let p (r : DailyPnlRecord) :=
    decide (r.accountId = accountId) && decide (r.tradingDate = day)
  if db.dailyPnl.any p then
    { db with dailyPnl := updateWhere p (fun r => { r with realizedLoss := loss }) db.dailyPnl }
  else { db with dailyPnl := db.dailyPnl ++ [⟨accountId, day, loss, none⟩] }

/-- The actions of the server, and losses that are recorded between them. -/
inductive LossAction
  | act (a : Action)
  | recordLoss (accountId : Uuid) (day : Date) (loss : Decimal)

def Server.lossStep (s : Server) : LossAction → Option Server
  | .act a => s.step a
  | .recordLoss accountId day loss => some { s with db := s.db.withLoss accountId day loss }

def losses : Machine Server LossAction where
  init _ := True
  step := Server.lossStep

/-- The dates that an evaluation reads, in the order in which it does. -/
def LossAction.dates : LossAction → List Date
  | .act (.request env _ (.evaluateTrade _)) => [env.snapshotDay, env.tripDay]
  | _ => []

/-- The dates that are read never go back. -/
def ClockAdvances (as : List LossAction) : Prop := (as.flatMap LossAction.dates).Pairwise (· ≤ ·)

/-- An evaluation for the account finds the limit reached by the loss of the day. -/
def FindsLimitOn (accountId : Uuid) (day : Date) (db : Db) : LossAction → Prop
  | .act (.request env a (.evaluateTrade intent)) =>
    a = accountId ∧ env.snapshotDay = day ∧
      FindsLimit accountId db (.request env a (.evaluateTrade intent))
  | _ => False

/-- The evaluation stores a trip of the day: it finds the limit reached, and the day whose loss it
read is not tripped. -/
def Trips (accountId : Uuid) (day : Date) (db : Db) : LossAction → Prop
  | .act (.request env a (.evaluateTrade intent)) =>
    a = accountId ∧ env.tripDay = day ∧ db.tripped a env.snapshotDay = false ∧
      FindsLimit accountId db (.request env a (.evaluateTrade intent))
  | _ => False

/-- The run has tripped days only for which a call of it found the limit reached. -/
def TripsFound (s : Server) (as : List LossAction) (s' : Server) : Prop :=
  ∀ accountId day, s'.db.tripped accountId day = true → s.db.tripped accountId day = true ∨
    ∃ as₁ a as₂ t, as = as₁ ++ a :: as₂ ∧ losses.Run (fun _ _ => True) s as₁ t ∧
      FindsLimitOn accountId day t.db a

/-- A trip is stored on the day whose loss was read, unless the other day is tripped already. -/
def TripsItsDay (s : Server) : LossAction → Prop
  | .act (.request env a (.evaluateTrade intent)) =>
    FindsLimit a s.db (.request env a (.evaluateTrade intent)) →
      s.db.tripped a env.snapshotDay = false → s.db.tripped a env.tripDay = false →
        env.tripDay = env.snapshotDay
  | _ => True

section

variable {db : Db} {accountId : Uuid} {day : Date} {s s' t : Server} {a : LossAction}
  {as as₁ as₂ : List LossAction}

/-! ### What trips a day -/

/-- Other days keep their flags. -/
lemma tripped_trippedOn_of_ne {other : Uuid} {today : Date}
    (h : ¬ (other = accountId ∧ today = day)) :
    (db.trippedOn other today).tripped accountId day = db.tripped accountId day := by
  have hrow (r : DailyPnlRecord) (hr : r.accountId = accountId ∧ r.tradingDate = day) :
      ¬ (r.accountId = other ∧ r.tradingDate = today) := by
    rintro ⟨hother, htoday⟩
    exact h ⟨hother.symm.trans hr.1, htoday.symm.trans hr.2⟩
  simp only [Db.tripped, Db.trippedOn]
  split_ifs with hany
  · simp only
    rw [find?_updateWhere]
    · cases hfind : db.dailyPnl.find? fun r =>
        decide (r.accountId = accountId) && decide (r.tradingDate = day) with
      | none => rfl
      | some r =>
        have hr := List.find?_some hfind
        simp only [Bool.and_eq_true, decide_eq_true_eq] at hr
        simp [hrow r hr]
    · exact fun _ => rfl
  · simp only [List.find?_append]
    cases db.dailyPnl.find? fun r =>
      decide (r.accountId = accountId) && decide (r.tradingDate = day) with
    | none => simp [h]
    | some r => rfl

lemma tripped_trippedOn_iff {other : Uuid} {today : Date} :
    (db.trippedOn other today).tripped accountId day = true ↔
      db.tripped accountId day = true ∨ (other = accountId ∧ today = day) := by
  by_cases h : other = accountId ∧ today = day
  · obtain ⟨rfl, rfl⟩ := h
    simp [tripped_trippedOn]
  · rw [tripped_trippedOn_of_ne h]
    simp [h]

lemma tripped_withLoss (other : Uuid) (today : Date) (loss : Decimal) :
    (db.withLoss other today loss).tripped accountId day = db.tripped accountId day := by
  simp only [Db.tripped, Db.withLoss]
  split_ifs with hany
  · simp only
    rw [find?_updateWhere]
    · cases db.dailyPnl.find? fun r =>
        decide (r.accountId = accountId) && decide (r.tradingDate = day) with
      | none => rfl
      | some r =>
        simp only [Option.map_some, Option.any_some]
        split_ifs <;> rfl
    · exact fun _ => rfl
  · simp only [List.find?_append]
    cases db.dailyPnl.find? fun r =>
      decide (r.accountId = accountId) && decide (r.tradingDate = day) with
    | none =>
      simp only [Option.none_or, List.find?_singleton]
      split_ifs <;> rfl
    | some r => rfl

/-- An evaluation that calls the engine leaves what it evaluated. -/
lemma evaluateTrade_db (env : Surroundings) (other : Uuid) (intent : TradeIntent) (db : Db) :
    (∃ account cfg,
      engineCall other db (.request env other (.evaluateTrade intent)) =
        some (intent, db.snapshot other account env.snapshotDay, cfg) ∧
      (evaluateTrade env other intent db).2 =
        db.evaluatedTrade env other intent (db.snapshot other account env.snapshotDay) cfg) ∨
    (engineCall other db (.request env other (.evaluateTrade intent)) = none ∧
      (evaluateTrade env other intent db).2 = db) := by
  by_cases hbad : isBlank intent.symbol ∨ intent.quantity < 0 ∨ intent.price < 0
  · refine .inr ⟨by simp only [engineCall, if_pos hbad], ?_⟩
    unfold evaluateTrade
    split_ifs with hblank hneg
    · rfl
    · rfl
    · tauto
  · have hcall : engineCall other db (.request env other (.evaluateTrade intent)) =
        db.engineInput other env intent := by
      simp only [engineCall, if_neg hbad, if_true]
    have hrun : (evaluateTrade env other intent db).2 =
        (postgres.atomically (evaluateTradeTx env other intent) db).2 := by
      rw [not_or] at hbad
      rw [evaluateTrade, if_neg hbad.1, if_neg hbad.2]
    rw [hcall, hrun, Db.engineInput]
    cases haccount : db.accountRow other with
    | none =>
      refine .inr ⟨rfl, ?_⟩
      rcases Engine.atomically_cases postgres (evaluateTradeTx env other intent) db
        with h | ⟨decision, -, h⟩
      · exact h
      · obtain ⟨account, cfg, hsome, -⟩ := of_commits_evaluateTradeTx h
        simp [haccount] at hsome
    | some account =>
      cases hcfg : db.riskConfig other with
      | none =>
        refine .inr ⟨rfl, ?_⟩
        rcases Engine.atomically_cases postgres (evaluateTradeTx env other intent) db
          with h | ⟨decision, -, h⟩
        · exact h
        · obtain ⟨_, cfg, -, hsome, -⟩ := of_commits_evaluateTradeTx h
          simp [hcfg] at hsome
      | some cfg =>
        refine .inl ⟨account, cfg.1, rfl, ?_⟩
        rw [Engine.atomically_of_commits (evaluateTradeTx_commits haccount hcfg env intent)]

lemma tripped_evaluatedTrade_iff {env : Surroundings} {other : Uuid} {intent : TradeIntent}
    {snapshot : AccountSnapshot} {cfg : RiskConfig} :
    (db.evaluatedTrade env other intent snapshot cfg).tripped accountId day = true ↔
      db.tripped accountId day = true ∨ (other = accountId ∧ env.tripDay = day ∧
        snapshot.circuitBreakerTripped = false ∧ circuitBreakerShouldTrip snapshot cfg = true) := by
  unfold Db.evaluatedTrade
  split_ifs with hnew
  · simp only [Bool.and_eq_true, Bool.not_eq_true'] at hnew
    have hflag : ({ db.trippedOn other env.tripDay with
        riskEvents := (db.trippedOn other env.tripDay).riskEvents ++
          [⟨other, "circuit_breaker_tripped", trippedPayload snapshot cfg⟩] ++
          [⟨other, "trade_evaluated",
            evaluatedPayload intent (evaluate intent snapshot cfg) snapshot⟩] } : Db).tripped
        accountId day = (db.trippedOn other env.tripDay).tripped accountId day := rfl
    rw [hflag, tripped_trippedOn_iff]
    simp [hnew]
  · have hflag : ({ db with riskEvents := db.riskEvents ++
        [⟨other, "trade_evaluated",
          evaluatedPayload intent (evaluate intent snapshot cfg) snapshot⟩] } : Db).tripped
        accountId day = db.tripped accountId day := rfl
    rw [hflag]
    simp only [Bool.and_eq_true, Bool.not_eq_true'] at hnew
    tauto

/-- The trips of the other accounts and of other requests are untouched. -/
lemma dailyPnl_of_step {b : Action} (hb : ∀ env other intent,
      b ≠ .request env other (.evaluateTrade intent)) (hstep : s.step b = some s') :
    s'.db.dailyPnl = s.db.dailyPnl := by
  match b with
  | .tick _ =>
    cases serverStep_of_step hstep with
    | tick => rfl
  | .enqueueCancel _ _ _ _ =>
    cases serverStep_of_step hstep with
    | enqueueCancel => rfl
  | .claim _ _ =>
    cases serverStep_of_step hstep with
    | claim => rfl
  | .crash _ =>
    cases serverStep_of_step hstep with
    | crash => rfl
  | .advance _ _ =>
    cases serverStep_of_step hstep with
    | advance _ hworker =>
      obtain ⟨_, _, _, _, _, rfl⟩ := hworker.frame
      rfl
  | .request env other (.placeOrder orderId body) =>
    obtain rfl := Option.some.inj hstep
    rcases placeOrder_cases env other orderId body s.db with
      ⟨riskEvents, hdb⟩ | ⟨_, -, -, q, p, -, -, -, -, -, hdb⟩
    · simp only [Request.handle, hdb]
    · simp only [Request.handle, hdb]
      rfl
  | .request env other (.evaluateTrade intent) => exact (hb env other intent rfl).elim
  | .request env other (.putEquity equity) =>
    obtain rfl := Option.some.inj hstep
    obtain ⟨accounts, riskEvents, hdb⟩ := putEquity_cases other equity s.db
    simp only [Request.handle, hdb]
  | .request env other (.putRiskConfig body) =>
    obtain rfl := Option.some.inj hstep
    obtain ⟨riskConfigs, riskEvents, hdb⟩ := putRiskConfig_cases other body s.db
    simp only [Request.handle, hdb]
  | .request env other .engageKillSwitch =>
    obtain rfl := Option.some.inj hstep
    obtain ⟨accounts, riskEvents, hdb⟩ := engageKillSwitch_cases other s.db
    simp only [Request.handle, hdb]
  | .request env other .releaseKillSwitch =>
    obtain rfl := Option.some.inj hstep
    obtain ⟨accounts, riskEvents, hdb⟩ := releaseKillSwitch_cases other s.db
    simp only [Request.handle, hdb]
  | .request env other (.putExchangeConfig encrypt body) =>
    obtain rfl := Option.some.inj hstep
    rcases putExchangeConfig_cases encrypt other body s.db with hdb | ⟨⟨_, _, hdb⟩, -⟩
    all_goals simp only [Request.handle, hdb]

/-- Only an evaluated trade trips a day. -/
lemma Trips.eval (h : Trips accountId day db a) :
    ∃ env other intent, a = .act (.request env other (.evaluateTrade intent)) := by
  unfold Trips at h
  split at h
  · exact ⟨_, _, _, rfl⟩
  · exact h.elim

/-- A step trips the days for which it is the evaluation that stores a trip. -/
lemma tripped_step_iff (hstep : s.lossStep a = some s') :
    s'.db.tripped accountId day = true ↔
      s.db.tripped accountId day = true ∨ Trips accountId day s.db a := by
  cases a with
  | recordLoss other today loss =>
    obtain rfl := Option.some.inj hstep
    simp [tripped_withLoss, Trips]
  | act b =>
    by_cases hb : ∃ env other intent, b = .request env other (.evaluateTrade intent)
    · obtain ⟨env, other, intent, rfl⟩ := hb
      obtain rfl := Option.some.inj hstep
      simp only [Request.handle, Trips]
      rcases evaluateTrade_db env other intent s.db with ⟨account, cfg, hcall, hdb⟩ | ⟨hcall, hdb⟩
      · rw [hdb, tripped_evaluatedTrade_iff, snapshot_tripped]
        refine or_congr_right (and_congr_right fun hother => ?_)
        subst hother
        simp [FindsLimit, hcall]
      · rw [hdb]
        refine (or_iff_left ?_).symm
        rintro ⟨rfl, -, -, _, _, _, hsome, -⟩
        rw [hcall] at hsome
        cases hsome
    · push Not at hb
      rw [Db.tripped, Db.tripped, dailyPnl_of_step hb hstep, ← Db.tripped]
      refine (or_iff_left fun htrips => ?_).symm
      obtain ⟨env, other, intent, heval⟩ := htrips.eval
      exact hb env other intent (LossAction.act.inj heval)

/-! ### Runs -/

/-- A flag that is set stays set. -/
lemma tripped_of_run (hrun : losses.Run (fun _ _ => True) s as s')
    (h : s.db.tripped accountId day = true) : s'.db.tripped accountId day = true :=
  hrun.preserves (I := fun s => s.db.tripped accountId day = true)
    (fun _ _ _ h _ hstep => (tripped_step_iff hstep).mpr (.inl h)) h

lemma FindsLimitOn.eval (h : FindsLimitOn accountId day db a) :
    ∃ env intent, a = .act (.request env accountId (.evaluateTrade intent)) ∧
      env.snapshotDay = day := by
  match a, h with
  | .act (.request env other (.evaluateTrade intent)), h =>
    obtain ⟨rfl, hday, -⟩ := h
    exact ⟨env, intent, rfl, hday⟩

/-- A trip that is stored on its day was found on that day. -/
lemma findsLimitOn_of_trips (h : Trips accountId day s.db a) (hok : TripsItsDay s a)
    (hbefore : s.db.tripped accountId day = false) : FindsLimitOn accountId day s.db a := by
  match a, h with
  | .act (.request env other (.evaluateTrade intent)), h =>
    obtain ⟨rfl, rfl, hfresh, hfinds⟩ := h
    exact ⟨rfl, (hok hfinds hfresh hbefore).symm, hfinds⟩

/-- When every trip is stored on its day, the days that are tripped were found. -/
lemma tripsFound_of_run (hrun : losses.Run TripsItsDay s as s') : TripsFound s as s' := by
  induction hrun with
  | nil s => exact fun _ _ h => .inl h
  | @cons s t s' a as hok hstep hrun ih =>
    intro accountId day h
    obtain h | ⟨as₁, b, as₂, u, rfl, hrun', hfinds⟩ := ih accountId day h
    · obtain h | htrips := (tripped_step_iff hstep).mp h
      · exact .inl h
      · by_cases hbefore : s.db.tripped accountId day = true
        · exact .inl hbefore
        · refine .inr ⟨[], a, as, s, rfl, .nil s, ?_⟩
          exact findsLimitOn_of_trips htrips hok (Bool.eq_false_iff.mpr hbefore)
    · exact .inr ⟨a :: as₁, b, as₂, u, rfl, .cons trivial hstep hrun', hfinds⟩

/-- Earlier calls read earlier dates. -/
lemma ClockAdvances.le {b : LossAction} (h : ClockAdvances (as₁ ++ a :: as₂)) (hb : b ∈ as₁)
    {x y : Date} (hx : x ∈ b.dates) (hy : y ∈ a.dates) : x ≤ y := by
  rw [ClockAdvances, List.flatMap_append, List.pairwise_append] at h
  refine h.2.2 x (List.mem_flatMap.mpr ⟨b, hb, hx⟩) y ?_
  rw [List.flatMap_cons]
  exact List.mem_append_left _ hy

lemma ClockAdvances.snapshotDay_le {env : Surroundings} {other : Uuid} {intent : TradeIntent}
    (h : ClockAdvances (as₁ ++ .act (.request env other (.evaluateTrade intent)) :: as₂)) :
    env.snapshotDay ≤ env.tripDay := by
  rw [ClockAdvances, List.flatMap_append, List.pairwise_append] at h
  have hown := h.2.1
  simp only [List.flatMap_cons, LossAction.dates, List.cons_append, List.pairwise_cons] at hown
  exact hown.1 _ List.mem_cons_self

/-- A trip that is stored on a day for which no call found the limit reached shows. -/
lemma tripsItsDay_of_tripsFound (hclock : ClockAdvances (as₁ ++ a :: as₂))
    (hrun : losses.Run (fun _ _ => True) s as₁ t) (hstep : t.lossStep a = some s')
    (hfound : TripsFound s (as₁ ++ [a]) s') : TripsItsDay t a := by
  match a with
  | .act (.request env other (.evaluateTrade intent)) =>
    intro hfinds hfresh hbefore
    have htripped : s'.db.tripped other env.tripDay = true :=
      (tripped_step_iff hstep).mpr (.inr ⟨rfl, rfl, hfresh, hfinds⟩)
    obtain hstart | ⟨bs₁, b, bs₂, u, hsplit, -, hb⟩ := hfound other env.tripDay htripped
    · rw [tripped_of_run hrun hstart] at hbefore
      cases hbefore
    · have hmem : b ∈ as₁ ++ [.act (.request env other (.evaluateTrade intent))] := by
        rw [hsplit]
        simp
      obtain ⟨env', intent', rfl, hday⟩ := hb.eval
      rcases List.mem_append.mp hmem with hmem | hmem
      · -- a call that comes before this one has read the later date
        have hle : env'.snapshotDay ≤ env.snapshotDay :=
          hclock.le hmem List.mem_cons_self List.mem_cons_self
        exact le_antisymm (hday ▸ hle) hclock.snapshotDay_le
      · cases List.mem_singleton.mp hmem
        exact hday.symm
  | .recordLoss _ _ _ | .act (.tick _) | .act (.enqueueCancel _ _ _ _) | .act (.claim _ _)
  | .act (.crash _) | .act (.advance _ _) | .act (.request _ _ (.placeOrder _ _))
  | .act (.request _ _ (.putEquity _)) | .act (.request _ _ (.putRiskConfig _))
  | .act (.request _ _ .engageKillSwitch) | .act (.request _ _ .releaseKillSwitch)
  | .act (.request _ _ (.putExchangeConfig _ _)) => trivial

/-- While the clock advances, the days that are tripped at any point of the run were found by a call
before, exactly when every trip is stored on the day whose loss was read, or on one that was tripped
already. -/
theorem trips_found_iff (hclock : ClockAdvances as)
    (hrun : losses.Run (fun _ _ => True) s as s') :
    (∀ as₁ as₂ t, as = as₁ ++ as₂ → losses.Run (fun _ _ => True) s as₁ t → TripsFound s as₁ t) ↔
      losses.Run TripsItsDay s as s' := by
  constructor
  · intro hfound
    refine hrun.of_splits ?_
    rintro as₁ a as₂ t rfl hbefore
    obtain ⟨t', hbefore', hrest⟩ := hrun.split
    obtain rfl := hbefore.unique hbefore'
    obtain ⟨u, hstep, -⟩ := hrest.of_cons
    refine tripsItsDay_of_tripsFound hclock hbefore hstep (hfound _ as₂ u (by simp) ?_)
    exact hbefore.append (.cons trivial hstep (.nil u))
  · rintro hdays as₁ as₂ t rfl hbefore
    obtain ⟨t', hdays', -⟩ := hdays.split
    obtain rfl := hbefore.unique hdays'
    exact tripsFound_of_run hdays'

end

/-! ### An evaluation around midnight -/

/-- The evaluation of a buy of one unit at 100, which reads these dates. -/
def evaluateBetween (snapshotDay tripDay : Date) : LossAction :=
  .act (.request { quotedAt100 with snapshotDay, tripDay } ⟨1⟩
    (.evaluateTrade { symbol := "BTCUSDT", side := .buy, quantity := 1, price := 100 }))

lemma clockAdvances_evaluateBetween {snapshotDay tripDay : Date} (h : snapshotDay ≤ tripDay) :
    ClockAdvances [evaluateBetween snapshotDay tripDay] := by
  simpa [ClockAdvances, evaluateBetween, LossAction.dates] using h

/-- Within the day, the trip is stored for the loss of the day. -/
theorem trips_found_withinDay :
    ∃ s', losses.Run (fun _ _ => True) lostFifty [evaluateBetween 0 0] s' ∧
      s'.db.tripped ⟨1⟩ 0 = true ∧ TripsFound lostFifty [evaluateBetween 0 0] s' := by
  have hrun : losses.Run (fun _ _ => True) lostFifty [evaluateBetween 0 0] _ :=
    .cons trivial rfl (.nil _)
  have hdays : losses.Run TripsItsDay lostFifty [evaluateBetween 0 0] _ :=
    .cons (fun _ _ _ => rfl) rfl (.nil _)
  have hfound := (trips_found_iff (clockAdvances_evaluateBetween le_rfl) hrun).mpr hdays
  exact ⟨_, hrun, by decide +kernel, hfound [evaluateBetween 0 0] [] _ rfl hrun⟩

/-- Past midnight, the next day is tripped, which has no loss. -/
theorem trips_not_found :
    ¬ ∀ s s' as, ClockAdvances as → losses.Run (fun _ _ => True) s as s' → TripsFound s as s' := by
  intro h
  have hrun : losses.Run (fun _ _ => True) lostFifty [evaluateBetween 0 1] _ :=
    .cons trivial rfl (.nil _)
  have hfound := h _ _ _ (clockAdvances_evaluateBetween zero_le_one) hrun ⟨1⟩ 1 (by decide +kernel)
  obtain hstart | ⟨as₁, a, as₂, t, hsplit, -, hfinds⟩ := hfound
  · exact absurd hstart (by decide +kernel)
  · obtain ⟨env, intent, rfl, hday⟩ := hfinds.eval
    have hmem : LossAction.act (.request env ⟨1⟩ (.evaluateTrade intent)) ∈
        [evaluateBetween 0 1] := by
      rw [hsplit]
      simp
    cases List.mem_singleton.mp hmem
    cases hday

end Confluence
