import Confluence.Properties.MarketPrice
import Confluence.Server.Effects
import Confluence.Server.Locks

/-!
# The kill switch

Requests on one account run statement by statement. All of them begin with the lock of the account
row, so that from the commit of an engagement to the commit of a release no trade passes.
-/

namespace Confluence

inductive AccountRequest
  | placeOrder (env : Surroundings) (orderId : Uuid) (body : PlaceOrderRequest)
  | evaluateTrade (env : Surroundings) (intent : TradeIntent)
  | engageKillSwitch
  | releaseKillSwitch

/-- The transaction of a request, with the decision where the engine is asked. -/
def AccountRequest.tx (accountId : Uuid) : AccountRequest → Tx (Option Decision)
  | placeOrder env orderId body => do return some (← placeOrderTx env accountId orderId body)
  | evaluateTrade env intent => do return some (← evaluateTradeTx env accountId intent)
  | engageKillSwitch => do
    let _ ← engageKillSwitchTx accountId
    return none
  | releaseKillSwitch => do
    let _ ← releaseKillSwitchTx accountId
    return none

def accountRequests (accountId : Uuid) :
    Workload Statement Db SqlError RowLock AccountRequest ApiError (Option Decision) where
  engine := postgres
  locks := Statement.locks
  tx := AccountRequest.tx accountId

/-- The requests of an account under way. -/
abbrev AccountRequests :=
  Interleaving Statement Db SqlError RowLock AccountRequest ApiError (Option Decision)

/-- The action is the commit of a release. -/
def CommitsRelease (s : AccountRequests) : SessionAction AccountRequest → Prop
  | .commit n => ∃ x, s.sessions n = some x ∧ x.request = .releaseKillSwitch
  | _ => False

/-- The kill switch of the account is engaged. -/
def Db.Stopped (db : Db) (accountId : Uuid) : Prop :=
  ∃ row, db.accountRow accountId = some row ∧ row.killSwitchEngaged = true

variable {accountId : Uuid} {db db' : Db}

/-! ### The transactions -/

lemma strict_evaluateTradeTx (env : Surroundings) (accountId : Uuid) (intent : TradeIntent) :
    postgres.Strict (evaluateTradeTx env accountId intent) := by
  refine .bind (strict_lockAccount _) fun _ => .bind (strict_loadRiskConfig _) fun _ =>
    .bind (strict_loadSnapshot _ _ _) fun _ => ?_
  have hevent (snapshot : AccountSnapshot) (decision : Decision) :
      postgres.Strict (do
        insertRiskEvent accountId "trade_evaluated" (evaluatedPayload intent decision snapshot)
        return decision) :=
    .bind (strict_sql _) fun _ => Engine.strict_pure _
  refine .ite ?_ (hevent _ _)
  exact .bind (strict_sql _) fun _ => .bind (strict_sql _) fun _ => hevent _ _

lemma strict_engageKillSwitchTx (accountId : Uuid) :
    postgres.Strict (engageKillSwitchTx accountId) := by
  refine .bind (strict_lockAccount _) fun _ => .ite ?_ (Engine.strict_pure _)
  exact .bind (strict_sql _) fun _ => .bind (strict_sql _) fun _ => Engine.strict_pure _

lemma AccountRequest.strict (accountId : Uuid) (r : AccountRequest) :
    r = .releaseKillSwitch ∨ postgres.Strict (r.tx accountId) := by
  cases r with
  | placeOrder env orderId body =>
    exact .inr (.bind (strict_placeOrderTx _ _ _ _) fun _ => Engine.strict_pure _)
  | evaluateTrade env intent =>
    exact .inr (.bind (strict_evaluateTradeTx _ _ _) fun _ => Engine.strict_pure _)
  | engageKillSwitch =>
    exact .inr (.bind (strict_engageKillSwitchTx _) fun _ => Engine.strict_pure _)
  | releaseKillSwitch => exact .inl rfl

/-- The first check of the engine. -/
lemma evaluate_ne_approved_of_stopped {intent : TradeIntent} {snapshot : AccountSnapshot}
    {cfg : RiskConfig} (h : snapshot.killSwitchEngaged = true) :
    evaluate intent snapshot cfg ≠ .approved := by
  simp [evaluate, h]

/-- An engagement leaves the kill switch engaged, whether or not it was before. -/
lemma stopped_of_engage {view : AccountView}
    (h : postgres.Commits (engageKillSwitchTx accountId) db view db') : db'.Stopped accountId := by
  simp only [engageKillSwitchTx, Engine.commits_bind, commits_lockAccount] at h
  obtain ⟨account, _, ⟨haccount, rfl⟩, h⟩ := h
  split_ifs at h with hengaged
  · simp only [Engine.commits_bind, commits_insertRiskEvent, commits_sql, Statement.exec,
      require_bind_eq_ok, Engine.commits_pure] at h
    obtain ⟨_, _, ⟨_, ⟨-, hexec⟩, rfl⟩, _, _, ⟨-, rfl⟩, -, rfl⟩ := h
    cases hexec
    obtain ⟨r, hr, rfl⟩ := Option.map_eq_some_iff.mp haccount
    have hid : r.id = accountId := by simpa using List.find?_some hr
    refine ⟨⟨.killed, r.equity, true⟩, ?_, rfl⟩
    show Option.map _ ((updateWhere _ _ _).find? _) = _
    rw [find?_updateWhere, hr]
    · simp [hid]
    · intro r
      rfl
  · obtain ⟨-, rfl⟩ := Engine.commits_pure.mp h
    exact ⟨account, haccount, by simpa using hengaged⟩

lemma Db.Stopped.congr (h : db.Stopped accountId) (haccounts : db'.accounts = db.accounts) :
    db'.Stopped accountId := by
  obtain ⟨row, hrow, hengaged⟩ := h
  refine ⟨row, ?_, hengaged⟩
  unfold Db.accountRow at *
  rw [haccounts]
  exact hrow

/-- While the kill switch is engaged, a request that commits adds no order and no command, and none
is approved; only a release ends it. -/
lemma AccountRequest.of_stopped {r : AccountRequest} {answer : Option Decision}
    (hstopped : db.Stopped accountId) (hr : r ≠ .releaseKillSwitch)
    (h : postgres.Commits (r.tx accountId) db answer db') :
    db'.Stopped accountId ∧ db'.orders = db.orders ∧
      db'.exchangeCommands = db.exchangeCommands ∧ answer ≠ some .approved := by
  obtain ⟨row, hrow, hengaged⟩ := hstopped
  have hrefused (env : Surroundings) (intent : TradeIntent) (cfg : RiskConfig) :
      evaluate intent (db.snapshot accountId row env.snapshotDay) cfg ≠ .approved :=
    evaluate_ne_approved_of_stopped hengaged
  cases r with
  | placeOrder env orderId body =>
    obtain ⟨decision, _, hplace, hanswer⟩ := Engine.commits_bind.mp h
    obtain ⟨rfl, rfl⟩ := Engine.commits_pure.mp hanswer
    obtain ⟨account, cfg, haccount, -, rfl, hdb⟩ := of_commits_placeOrderTx hplace
    obtain rfl := Option.some.inj (hrow.symm.trans haccount)
    have hne := hrefused env (coreIntent body (priceEstimate env body)) cfg.1
    rcases hdb with ⟨-, rfl⟩ | ⟨happroved, -⟩
    · exact ⟨⟨row, hrow, hengaged⟩, rfl, rfl, fun h => hne (Option.some.inj h)⟩
    · exact (hne happroved).elim
  | evaluateTrade env intent =>
    obtain ⟨decision, _, hevaluate, hanswer⟩ := Engine.commits_bind.mp h
    obtain ⟨rfl, rfl⟩ := Engine.commits_pure.mp hanswer
    obtain ⟨account, cfg, haccount, -, rfl, rfl⟩ := of_commits_evaluateTradeTx hevaluate
    obtain rfl := Option.some.inj (hrow.symm.trans haccount)
    have hne := hrefused env intent cfg.1
    obtain ⟨dailyPnl, riskEvents, hdb⟩ := db.evaluatedTrade_frame env accountId intent
      (db.snapshot accountId row env.snapshotDay) cfg.1
    rw [hdb]
    exact ⟨⟨row, hrow, hengaged⟩, rfl, rfl, fun h => hne (Option.some.inj h)⟩
  | engageKillSwitch =>
    obtain ⟨view, _, hengage, hanswer⟩ := Engine.commits_bind.mp h
    obtain ⟨rfl, rfl⟩ := Engine.commits_pure.mp hanswer
    have hstopped := stopped_of_engage hengage
    obtain ⟨account, -, ⟨-, rfl⟩ | ⟨-, rfl⟩⟩ := of_commits_engageKillSwitchTx hengage
    · exact ⟨hstopped, rfl, rfl, by simp⟩
    · exact ⟨hstopped, rfl, rfl, by simp⟩
  | releaseKillSwitch => exact (hr rfl).elim

/-! ### Interleaved requests -/

/-- Every request begins with the lock of the account row, or finds no account. -/
lemma guarded_accountRequests (accountId : Uuid) :
    (accountRequests accountId).Guarded (.account accountId) := by
  have hlock (db : Db) (r : AccountRecord)
      (h : (db.accounts.find? fun r => r.id = accountId) = some r) :
      RowLock.account accountId ∈ (Statement.selectAccountForUpdate accountId).locks db := by
    have hid : r.id = accountId := by simpa using List.find?_some h
    have hmem : r ∈ db.accounts.filter fun r => r.id = accountId :=
      List.mem_filter.mpr ⟨List.mem_of_find?_eq_some h, by simpa using hid⟩
    exact List.mem_map.mpr ⟨r, hmem, by rw [hid]⟩
  intro r
  have hquery : ∃ next, (accountRequests accountId).tx r =
        .query (.selectAccountForUpdate accountId) next ∧
      next (.ok none) = .done (.error .notFound) := by
    cases r with
    | placeOrder => exact ⟨_, rfl, rfl⟩
    | evaluateTrade => exact ⟨_, rfl, rfl⟩
    | engageKillSwitch => exact ⟨_, rfl, rfl⟩
    | releaseKillSwitch => exact ⟨_, rfl, rfl⟩
  obtain ⟨next, htx, hnone⟩ := hquery
  refine ⟨_, _, next, htx, fun db => ?_⟩
  cases hrow : db.accounts.find? fun r => r.id = accountId with
  | some row => exact .inl (hlock db row hrow)
  | none =>
    refine .inr ⟨.notFound, ?_⟩
    rw [← hnone]
    show ((accountRequests accountId).answer _ _ next db).rest = _
    simp only [Workload.answer, Workload.begin, accountRequests, postgres, Statement.exec, hrow,
      Option.map_none, id]

variable {s s' s₁ s₂ : AccountRequests} {n m : ℕ}
  {x : Session Statement Db SqlError AccountRequest ApiError (Option Decision)}
  {answer : Option Decision}

/-- A commit is the request, run alone on what is committed. -/
lemma atomically_of_commit {ok : AccountRequests → SessionAction AccountRequest → Prop}
    (hs : (accountRequests accountId).machine.Reachable ok s)
    (hstep : (accountRequests accountId).step s (.commit n) = some s')
    (hx : s.sessions n = some x) :
    ∃ answer, x.rest = .done (.ok answer) ∧
      postgres.atomically (x.request.tx accountId) s.store = (.ok answer, s'.store) := by
  have hguarded := guarded_accountRequests accountId
  obtain ⟨-, y, answer, hy, hrest, hrun⟩ :=
    (Workload.serial_of_reachable hguarded hs).atomically_of_commit hguarded hstep
  obtain rfl := Option.some.inj (hx.symm.trans hy)
  exact ⟨answer, hrest, hrun⟩

/-- Of the requests, only a release that commits ends an engagement. -/
lemma stopped_of_commit (hrun : postgres.atomically (x.request.tx accountId) s.store =
      (.ok answer, s'.store)) (hstopped : s.store.Stopped accountId)
    (hrelease : x.request ≠ .releaseKillSwitch) :
    s'.store.Stopped accountId ∧ s'.store.orders = s.store.orders ∧
      s'.store.exchangeCommands = s.store.exchangeCommands ∧ answer ≠ some .approved := by
  have hstrict := (x.request.strict accountId).resolve_left hrelease
  have hcommit := hstrict.commits (congrArg Prod.fst hrun)
  rw [hrun] at hcommit
  exact AccountRequest.of_stopped hstopped hrelease hcommit

/-- A release writes the account row only. -/
lemma of_release (hrun : postgres.atomically (AccountRequest.releaseKillSwitch.tx accountId) db =
      (.ok answer, db')) : ∃ accounts riskEvents, db' = { db with accounts, riskEvents } := by
  rcases Engine.atomically_cases postgres (AccountRequest.releaseKillSwitch.tx accountId) db
    with h | ⟨a, -, h⟩
  · rw [hrun] at h
    exact ⟨_, _, h⟩
  · rw [hrun] at h
    obtain ⟨view, _, hview, hanswer⟩ := Engine.commits_bind.mp h
    obtain ⟨-, rfl⟩ := Engine.commits_pure.mp hanswer
    obtain ⟨account, -, ⟨-, rfl⟩ | ⟨-, rfl⟩⟩ := of_commits_releaseKillSwitchTx hview
    · exact ⟨_, _, rfl⟩
    · exact ⟨_, _, rfl⟩

/-- The commit of an engagement takes effect. -/
lemma stopped_of_engagement {ok : AccountRequests → SessionAction AccountRequest → Prop}
    (hs : (accountRequests accountId).machine.Reachable ok s) (hx : s.sessions n = some x)
    (hengage : x.request = .engageKillSwitch)
    (hstep : (accountRequests accountId).step s (.commit n) = some s') :
    s'.store.Stopped accountId := by
  obtain ⟨answer, -, hrun⟩ := atomically_of_commit hs hstep hx
  have hstrict := (x.request.strict accountId).resolve_left (by simp [hengage])
  have hcommit := hstrict.commits (congrArg Prod.fst hrun)
  rw [hrun, hengage] at hcommit
  obtain ⟨view, _, hview, hanswer⟩ := Engine.commits_bind.mp hcommit
  obtain ⟨-, rfl⟩ := Engine.commits_pure.mp hanswer
  exact stopped_of_engage hview

/-- It lasts as long as no release commits. -/
lemma stopped_of_step (hs : (accountRequests accountId).machine.Reachable (fun _ _ => True) s)
    (hstopped : s.store.Stopped accountId) {a : SessionAction AccountRequest}
    (hrelease : ¬ CommitsRelease s a) (hstep : (accountRequests accountId).step s a = some s') :
    s'.store.Stopped accountId := by
  by_cases ha : ∃ k, a = .commit k
  · obtain ⟨k, rfl⟩ := ha
    obtain ⟨y, -, hy, -, -⟩ := Workload.of_step_commit hstep
    obtain ⟨answer, -, hrun⟩ := atomically_of_commit hs hstep hy
    have hne : y.request ≠ .releaseKillSwitch := fun h => hrelease ⟨y, hy, h⟩
    exact (stopped_of_commit hrun hstopped hne).1
  · rw [Workload.store_of_step hstep fun k h => ha ⟨k, h⟩]
    exact hstopped

/-- From the commit of an engagement to the commit of the next release, no request that commits
adds an order or a command, and no evaluation that commits is approved. -/
theorem kill_switch_stops_trading {actions : List (SessionAction AccountRequest)}
    {z : Session Statement Db SqlError AccountRequest ApiError (Option Decision)}
    (hs : (accountRequests accountId).machine.Reachable (fun _ _ => True) s)
    (hx : s.sessions n = some x) (hengage : x.request = .engageKillSwitch)
    (hcommit : (accountRequests accountId).step s (.commit n) = some s₁)
    (hrun : (accountRequests accountId).machine.Run (fun s a => ¬ CommitsRelease s a) s₁ actions s₂)
    (hz : s₂.sessions m = some z)
    (hnext : (accountRequests accountId).step s₂ (.commit m) = some s') :
    s'.store.orders = s₂.store.orders ∧
      s'.store.exchangeCommands = s₂.store.exchangeCommands ∧
      (∀ env intent, z.request = .evaluateTrade env intent →
        z.rest ≠ .done (.ok (some .approved))) := by
  have hs₁ := Workload.reachable_of_step hs trivial hcommit
  have hstopped₁ := stopped_of_engagement hs hx hengage hcommit
  have hinv := hrun.preserves (fun t a t' (ht : (accountRequests accountId).machine.Reachable
      (fun _ _ => True) t ∧ t.store.Stopped accountId) hok hstep =>
    ⟨Workload.reachable_of_step ht.1 trivial hstep, stopped_of_step ht.1 ht.2 hok hstep⟩)
    ⟨hs₁, hstopped₁⟩
  obtain ⟨hs₂, hstopped₂⟩ := hinv
  obtain ⟨answer, hrest, hcommitted⟩ := atomically_of_commit hs₂ hnext hz
  by_cases hrelease : z.request = .releaseKillSwitch
  · refine ⟨?_, ?_, fun env intent h => by rw [hrelease] at h; cases h⟩
    all_goals
      rw [hrelease] at hcommitted
      obtain ⟨accounts, riskEvents, hstore⟩ := of_release hcommitted
      rw [hstore]
  · obtain ⟨-, horders, hcommands, hne⟩ := stopped_of_commit hcommitted hstopped₂ hrelease
    refine ⟨horders, hcommands, fun env intent _ h => hne ?_⟩
    rw [hrest] at h
    cases h
    rfl

/-! ### An order that arrives with an engagement -/

def AccountRequest.isEngage : AccountRequest → Bool
  | engageKillSwitch => true
  | _ => false

def AccountRequest.isPlaceOrder : AccountRequest → Bool
  | placeOrder .. => true
  | _ => false

/-- Both requests have begun, and the engagement has the lock of the account. -/
def engaging : List (SessionAction AccountRequest) :=
  [.start 0 .engageKillSwitch,
    .start 1 (.placeOrder quotedAt100 ⟨2⟩ { buyTen with quantity := 1, price := some 1 }),
    .query 0, .query 0, .query 0]

/-- The order reads the account after the commit of the engagement. -/
def placing : List (SessionAction AccountRequest) :=
  [.query 1, .query 1, .query 1, .query 1, .query 1, .query 1, .query 1]

def idleAccount : AccountRequests :=
  { store := equity1000, sessions := fun _ => none, locked := [] }

/-- The order, which would have been approved before, is refused. -/
theorem kill_switch_stops_trading_placing :
    ∃ (s s₁ s₂ s' : AccountRequests) (x z : Session Statement Db SqlError AccountRequest ApiError
        (Option Decision)),
      (accountRequests ⟨1⟩).machine.Reachable (fun _ _ => True) s ∧
      s.sessions 0 = some x ∧ x.request = .engageKillSwitch ∧
      (accountRequests ⟨1⟩).step s (.commit 0) = some s₁ ∧
      (accountRequests ⟨1⟩).machine.Run (fun s a => ¬ CommitsRelease s a) s₁ placing s₂ ∧
      s₂.sessions 1 = some z ∧ z.request.isPlaceOrder = true ∧
      (accountRequests ⟨1⟩).step s₂ (.commit 1) = some s' ∧ s'.store.orders = s₂.store.orders := by
  let M := (accountRequests ⟨1⟩).machine
  have hbegin : (M.exec (fun _ _ => True) idleAccount engaging).any
      (fun s => (s.sessions 0).any fun x => x.request.isEngage) = true := by
    decide +kernel
  have hplaced : (M.exec (fun _ _ => True) idleAccount
      (engaging ++ .commit 0 :: (placing ++ [.commit 1]))).any
      (fun s => decide (s.store.orders = [])) = true := by
    decide +kernel
  have hwaits : (M.exec (fun _ _ => True) idleAccount (engaging ++ .commit 0 :: placing)).any
      (fun s => (s.sessions 1).any fun x => x.request.isPlaceOrder) = true := by
    decide +kernel
  obtain ⟨s, hrun, hs⟩ := Machine.exists_run_of_exec hbegin
  obtain ⟨s', hrun', -⟩ := Machine.exists_run_of_exec hplaced
  obtain ⟨s₂, hrun₂, hs₂⟩ := Machine.exists_run_of_exec hwaits
  obtain ⟨t, ht, hrest⟩ := hrun₂.split
  obtain rfl := hrun.unique ht
  obtain ⟨s₁, hcommit, hplacing⟩ := hrest.of_cons
  obtain ⟨t, ht', hlast⟩ := hrun'.split
  obtain rfl := hrun.unique ht'
  obtain ⟨t, hcommit', hplacing'⟩ := hlast.of_cons
  obtain rfl := Option.some.inj (hcommit.symm.trans hcommit')
  obtain ⟨t, ht₂, hfinal⟩ := hplacing'.split
  obtain rfl := hplacing.unique ht₂
  obtain ⟨t, hnext, hnil⟩ := hfinal.of_cons
  cases hnil
  obtain ⟨x, hx, hisEngage⟩ := (Option.any_eq_true _ _).mp hs
  obtain ⟨z, hz, hplace⟩ := (Option.any_eq_true _ _).mp hs₂
  have hengage : x.request = .engageKillSwitch := by
    cases hrequest : x.request with
    | engageKillSwitch => rfl
    | _ => rw [hrequest] at hisEngage; cases hisEngage
  have hreach : M.Reachable (fun _ _ => True) s :=
    ⟨idleAccount, engaging, ⟨fun _ => rfl, rfl⟩, hrun⟩
  have hquiet : ∀ a ∈ placing, ∀ n, a ≠ .commit n := by simp [placing]
  have hrelease : M.Run (fun s a => ¬ CommitsRelease s a) s₁ placing s₂ := by
    refine (hplacing.of_actions hquiet).mono fun s a ha hcommits => ?_
    cases a with
    | commit n => exact ha.1 n rfl
    | _ => exact hcommits
  have horders := (kill_switch_stops_trading hreach hx hengage hcommit hrelease hz hnext).1
  exact ⟨s, s₁, s₂, _, x, z, hreach, hx, hengage, hcommit, hrelease, hz, hplace, hnext, horders⟩

end Confluence
