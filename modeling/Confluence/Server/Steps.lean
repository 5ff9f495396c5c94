import Confluence.Server.System
import Confluence.Server.WorkerEffects

/-!
# The steps of the server

What each action of the server can do, and what that means for the clock and the commands.
-/

namespace Confluence

/-! ### Requests -/

/-- What a request does to the database: events only, changes of the risk state, an approved order,
or a configuration. -/
inductive RequestStep (env : Surroundings) (accountId : Uuid) (db : Db) : Request → Db → Prop
  | audited {r : Request} (riskEvents : List RiskEventRecord) :
    RequestStep env accountId db r { db with riskEvents }
  | riskState {r : Request} (hr : ∀ orderId body, r ≠ .placeOrder orderId body)
      (accounts : List AccountRecord) (riskConfigs : List RiskConfigRecord)
      (dailyPnl : List DailyPnlRecord) (riskEvents : List RiskEventRecord) :
    RequestStep env accountId db r { db with accounts, riskConfigs, dailyPnl, riskEvents }
  | placed {orderId : Uuid} {body : PlaceOrderRequest} {q : Decimal} {p : Option Decimal}
      (happroved : evaluated env accountId body db =
        some (coreIntent body (priceEstimate env body), .approved))
      (hq : Numeric.store 30 10 body.quantity = some q)
      (hp : optionalColumn 30 10 body.price = .ok p) (hpos : q > 0)
      (hid : ∀ r ∈ db.orders, r.id ≠ orderId)
      (hclient : ∀ r ∈ db.orders, r.accountId = accountId → r.clientOrderId ≠ orderId.simple) :
    RequestStep env accountId db (.placeOrder orderId body) (db.placed env accountId orderId body q p)
  | configured {encrypt : String → Except ApiError (List UInt8)} {body : PutExchangeConfig}
      {exchangeConfigs : List ExchangeConfigRecord} {riskEvents : List RiskEventRecord}
      (hmode : ∀ a, { db with exchangeConfigs, riskEvents : Db }.exchangeMode a =
        if a = accountId then parseMode body.mode else db.exchangeMode a)
      (hidle : db.configRow accountId = none ∨ parseMode body.mode = db.exchangeMode accountId ∨
        db.Idle accountId) :
    RequestStep env accountId db (.putExchangeConfig encrypt body)
      { db with exchangeConfigs, riskEvents }

/-- Every request does one of these. -/
theorem requestStep_handle (env : Surroundings) (accountId : Uuid) (r : Request) (db : Db) :
    RequestStep env accountId db r (r.handle env accountId db) := by
  cases r with
  | placeOrder orderId body =>
    rw [Request.handle]
    rcases placeOrder_cases env accountId orderId body db
      with ⟨_, hdb⟩ | ⟨_, happroved, rfl, q, p, hq, hp, hpos, hid, hclient, hdb⟩
    · rw [hdb]
      exact .audited _
    · rw [hdb]
      exact .placed happroved hq hp hpos hid hclient
  | evaluateTrade intent =>
    rw [Request.handle]
    rcases evaluateTrade_cases env accountId intent db with hdb | ⟨account, cfg, -, -, hdb⟩
    · rw [hdb]
      exact .riskState (by simp) ..
    · obtain ⟨dailyPnl, riskEvents, hframe⟩ := db.evaluatedTrade_frame env accountId intent
        (db.snapshot accountId account env.snapshotDay) cfg.1
      rw [hdb, hframe]
      exact .riskState (by simp) ..
  | putEquity equity =>
    rw [Request.handle]
    obtain ⟨_, _, hdb⟩ := putEquity_cases accountId equity db
    rw [hdb]
    exact .riskState (by simp) ..
  | putRiskConfig body =>
    rw [Request.handle]
    obtain ⟨_, _, hdb⟩ := putRiskConfig_cases accountId body db
    rw [hdb]
    exact .riskState (by simp) ..
  | engageKillSwitch =>
    rw [Request.handle]
    obtain ⟨_, _, hdb⟩ := engageKillSwitch_cases accountId db
    rw [hdb]
    exact .riskState (by simp) ..
  | releaseKillSwitch =>
    rw [Request.handle]
    obtain ⟨_, _, hdb⟩ := releaseKillSwitch_cases accountId db
    rw [hdb]
    exact .riskState (by simp) ..
  | putExchangeConfig encrypt body =>
    rw [Request.handle]
    rcases putExchangeConfig_cases encrypt accountId body db
      with hdb | ⟨⟨_, _, hdb⟩, hmode, hidle⟩
    · rw [hdb]
      exact .riskState (by simp) ..
    · rw [hdb] at hmode ⊢
      exact .configured hmode hidle

/-- A placed order has an identifier of its own. -/
lemma ids_placed {db : Db} {orderId : Uuid} (hids : (db.orders.map (·.id)).Nodup)
    (hid : ∀ r ∈ db.orders, r.id ≠ orderId) (env : Surroundings) (accountId : Uuid)
    (body : PlaceOrderRequest) (q : Decimal) (p : Option Decimal) :
    ((db.placed env accountId orderId body q p).orders.map (·.id)).Nodup := by
  simp only [Db.placed, Db.withCommand, List.map_append, List.map_cons, List.map_nil]
  refine List.nodup_append.mpr ⟨hids, by simp, ?_⟩
  intro i hi j hj
  obtain ⟨r, hr, rfl⟩ := List.mem_map.mp hi
  rw [List.mem_singleton.mp hj]
  exact hid r hr

/-! ### Enqueueing -/

/-- The commands stay, or one new pending command under a new key joins them; the clock stays. -/
structure Enqueues (db db' : Db) : Prop where
  now : db'.now = db.now
  commands : db'.exchangeCommands = db.exchangeCommands ∨
    ∃ accountId commandType mode key payload, ¬ db.hasKey accountId key ∧
      (∀ name, commandType ≠ .unknown name) ∧
      db'.exchangeCommands = db.exchangeCommands ++
        [db.newCommand accountId commandType mode key payload]

section

variable {db db' db₁ : Db} {accountId : Uuid}

lemma Enqueues.refl (db : Db) : Enqueues db db := ⟨rfl, .inl rfl⟩

/-- Only the clock and the commands matter. -/
lemma Enqueues.congr (h : Enqueues db db₁) (hnow : db'.now = db₁.now)
    (hcommands : db'.exchangeCommands = db₁.exchangeCommands) : Enqueues db db' := by
  constructor
  · rw [hnow, h.now]
  · rw [hcommands]
    exact h.commands

/-- What holds of every row and of a pending one. -/
lemma Enqueues.rows (h : Enqueues db db') {P : CommandRecord → Prop}
    (hrows : ∀ r ∈ db.exchangeCommands, P r) (hnew : ∀ r, r.status = .pending → P r) :
    ∀ r ∈ db'.exchangeCommands, P r := by
  intro r hr
  rcases h.commands with hsame | ⟨_, _, _, _, _, -, -, hcommands⟩
  · rw [hsame] at hr
    exact hrows r hr
  · rw [hcommands] at hr
    rcases List.mem_append.mp hr with hr | hr
    · exact hrows r hr
    · rw [List.mem_singleton.mp hr]
      exact hnew _ rfl

lemma enqueues_withCommand (db : Db) (accountId : Uuid) {commandType : CommandType}
    (h : ∀ name, commandType ≠ .unknown name) (mode : ExchangeMode) (key : String)
    (payload : Json) : Enqueues db (db.withCommand accountId commandType mode key payload) := by
  rcases db.withCommand_cases accountId commandType mode key payload
    with ⟨-, hdb⟩ | ⟨hkey, hdb⟩
  · rw [hdb]
    exact .refl db
  · rw [hdb]
    exact ⟨rfl, .inr ⟨_, _, _, _, _, hkey, h, rfl⟩⟩

/-- Requests enqueue at most one command. -/
lemma RequestStep.enqueues {env : Surroundings} {r : Request}
    (h : RequestStep env accountId db r db') : Enqueues db db' := by
  cases h with
  | audited => exact ⟨rfl, .inl rfl⟩
  | riskState => exact ⟨rfl, .inl rfl⟩
  | placed =>
    apply (enqueues_withCommand db accountId _ (db.exchangeMode accountId) _ _).congr
    · rfl
    · rfl
    · simp
  | configured => exact ⟨rfl, .inl rfl⟩

/-- A move of an order leaves the other tables alone. -/
lemma Db.MovedIfLegal.frame {o : OrderRecord} {status : OrderStatus}
    (h : db.MovedIfLegal o status db') : ∃ orders, db' = { db with orders } := by
  unfold Db.MovedIfLegal at h
  split_ifs at h with hlegal
  · obtain ⟨q, -, -, -, rfl⟩ := h
    exact ⟨_, rfl⟩
  · exact ⟨db.orders, h⟩

lemma Db.StatusPersisted.frame {o : OrderRecord} {insertedFills : List Fill}
    {newStatus : Option OrderStatus} (h : db.StatusPersisted o insertedFills db' newStatus) :
    ∃ orders, db' = { db with orders } := by
  cases newStatus with
  | none => exact ⟨db.orders, h⟩
  | some status =>
    obtain ⟨-, q, -, -, -, rfl⟩ := h
    exact ⟨_, rfl⟩

end

/-! ### The tables that workers write -/

section

variable {supervisor : Supervisor} {cmd : ClaimedCommand} {db db' db₁ : Db} {stage : Stage}
  {next : Option Stage}

/-- The orders stay, or one of them moves by a legal transition. -/
def MovesOrder (accountId : Uuid) (db db' : Db) : Prop :=
  db'.orders = db.orders ∨
    ∃ orderId o status q, db.order? accountId orderId = some o ∧
      OrderStateMachine.legal o.status status = true ∧ 0 ≤ q ∧ q ≤ o.quantity ∧
      db'.orders = (db.withStatus accountId orderId status q).orders

lemma Db.MovedIfLegal.movesOrder {accountId orderId : Uuid} {o : OrderRecord}
    {status : OrderStatus} (h : db.MovedIfLegal o status db')
    (ho : db.order? accountId orderId = some o) : MovesOrder accountId db db' := by
  obtain ⟨-, rfl, rfl⟩ := Db.mem_of_order? ho
  unfold Db.MovedIfLegal at h
  split_ifs at h with hlegal
  · obtain ⟨q, -, hnonneg, hle, rfl⟩ := h
    exact .inr ⟨_, o, status, q, ho, hlegal, hnonneg, hle, rfl⟩
  · rw [h]
    exact .inl rfl

/-- Workers write orders, fills, positions, commands and events. -/
lemma WorkerStep.frame (h : WorkerStep supervisor cmd db stage next db') :
    ∃ orders orderFills positions exchangeCommands riskEvents,
      db' = { db with orders, orderFills, positions, exchangeCommands, riskEvents } := by
  cases h with
  | noAdapter | delivered | requeued | permanentlyRejected | reconciliationRequired | notHydrated
  | hydrated | called | notAccepted | notPersisted | audited => exact ⟨_, _, _, _, _, rfl⟩
  | submitted htype ho hmove =>
    obtain ⟨orders, rfl⟩ := hmove.frame
    exact ⟨_, _, _, _, _, rfl⟩
  | cancelled htype ho hmove =>
    obtain ⟨orders, rfl⟩ := hmove.frame
    exact ⟨_, _, _, _, _, rfl⟩
  | persisted h =>
    obtain ⟨o, _, _, _, db₁, _, -, -, -, -, -, -, hstatus, rfl⟩ :=
      of_commits_persistReconcileResultTx h
    obtain ⟨orders, rfl⟩ := hstatus.frame
    exact ⟨_, _, _, _, _, rfl⟩
  | rejected h =>
    rcases h with rfl | ⟨o, -, hmove⟩
    · exact ⟨_, _, _, _, _, rfl⟩
    · obtain ⟨orders, rfl⟩ := hmove.frame
      exact ⟨_, _, _, _, _, rfl⟩

lemma WorkerStep.movesOrder (h : WorkerStep supervisor cmd db stage next db') :
    MovesOrder cmd.accountId db db' := by
  cases h with
  | noAdapter | delivered | requeued | permanentlyRejected | reconciliationRequired | notHydrated
  | hydrated | called | notAccepted | notPersisted | audited => exact .inl rfl
  | submitted htype ho hmove => exact hmove.movesOrder ho
  | cancelled htype ho hmove => exact hmove.movesOrder ho
  | @persisted orderId snapshot result db' h =>
    obtain ⟨o, _, _, _, db₁, _, ho, -, -, -, -, -, hstatus, rfl⟩ :=
      of_commits_persistReconcileResultTx h
    obtain ⟨-, rfl, hacc⟩ := Db.mem_of_order? ho
    cases hnew : result.newStatus with
    | none =>
      rw [hnew] at hstatus
      exact .inl (by rw [hstatus])
    | some status =>
      rw [hnew] at hstatus
      obtain ⟨hlegal, q, -, hnonneg, hle, rfl⟩ := hstatus
      rw [← hacc]
      exact .inr ⟨o.id, o, status, q, hacc ▸ ho, hlegal, hnonneg, hle, rfl⟩
  | rejected h =>
    rcases h with rfl | ⟨o, ho, hmove⟩
    · exact .inl rfl
    · exact hmove.movesOrder ho

lemma MovesOrder.ids {accountId : Uuid} (h : MovesOrder accountId db db') :
    db'.orders.map (·.id) = db.orders.map (·.id) := by
  rcases h with hsame | ⟨orderId, o, status, q, -, -, -, -, hmoved⟩
  · rw [hsame]
  · rw [hmoved, Db.withStatus, map_updateWhere]
    exact fun _ => rfl

/-- Every order is an old one, perhaps with a legal next status. -/
lemma MovesOrder.of_mem {accountId : Uuid} (hids : (db.orders.map (·.id)).Nodup)
    (h : MovesOrder accountId db db') {r' : OrderRecord} (hr' : r' ∈ db'.orders) :
    ∃ r ∈ db.orders, r' = r ∨
      ∃ status q, OrderStateMachine.legal r.status status = true ∧ 0 ≤ q ∧ q ≤ r.quantity ∧
        r.accountId = accountId ∧ r' = { r with status, filledQuantity := q } := by
  rcases h with hsame | ⟨orderId, o, status, q, ho, hlegal, hnonneg, hle, hmoved⟩
  · exact ⟨r', hsame ▸ hr', .inl rfl⟩
  · rw [hmoved, Db.withStatus, mem_updateWhere] at hr'
    obtain ⟨r, hr, rfl⟩ := hr'
    refine ⟨r, hr, ?_⟩
    obtain ⟨hmem, rfl, rfl⟩ := Db.mem_of_order? ho
    split_ifs with hrow
    · rw [Bool.and_eq_true, decide_eq_true_eq, decide_eq_true_eq] at hrow
      obtain rfl := List.inj_on_of_nodup_map hids hr hmem hrow.1
      exact .inr ⟨status, q, hlegal, hnonneg, hle, rfl, rfl⟩
    · exact .inl rfl

lemma positionsValid_of_commits_applyPositionDeltas {accountId : Uuid} {price : Decimal}
    {deltas : List PositionDelta} {u : Unit} (hv : PositionsValid db.positions)
    (h : postgres.Commits (applyPositionDeltas accountId price deltas) db u db') :
    PositionsValid db'.positions := by
  induction deltas generalizing db with
  | nil =>
    obtain ⟨-, rfl⟩ := Engine.commits_pure.mp h
    exact hv
  | cons delta deltas ih =>
    rw [applyPositionDeltas, Engine.commits_bind] at h
    obtain ⟨_, db₁, hdelta, hrest⟩ := h
    rw [Engine.commits_mapError] at hdelta
    refine ih ?_ hrest
    by_cases hzero : delta.quantityDelta = 0
    · rw [applyPositionDelta, if_pos hzero, Engine.commits_pure] at hdelta
      rw [← hdelta.2]
      exact hv
    · obtain ⟨q, -, -, -, -, heffect⟩ := of_commits_applyPositionDelta hv hzero hdelta
      exact heffect.valid

/-- Workers keep to the constraints on positions. -/
lemma WorkerStep.positionsValid (h : WorkerStep supervisor cmd db stage next db')
    (hv : PositionsValid db.positions) : PositionsValid db'.positions := by
  cases h with
  | noAdapter | delivered | requeued | permanentlyRejected | reconciliationRequired | notHydrated
  | hydrated | called | notAccepted | notPersisted | audited => exact hv
  | submitted htype ho hmove =>
    obtain ⟨orders, rfl⟩ := hmove.frame
    exact hv
  | cancelled htype ho hmove =>
    obtain ⟨orders, rfl⟩ := hmove.frame
    exact hv
  | persisted h =>
    obtain ⟨o, _, _, _, db₁, _, -, -, -, -, -, hdeltas, hstatus, rfl⟩ :=
      of_commits_persistReconcileResultTx h
    obtain ⟨orders, rfl⟩ := hstatus.frame
    have hkeep := fun hv => positionsValid_of_commits_applyPositionDeltas hv hdeltas
    exact hkeep hv
  | rejected h =>
    rcases h with rfl | ⟨o, -, hmove⟩
    · exact hv
    · obtain ⟨orders, rfl⟩ := hmove.frame
      exact hv

end

/-! ### Marking -/

/-- Delivered, rejected for good, or left to manual review: no worker is to touch the command any
more. -/
def CommandStatus.isSettled : CommandStatus → Bool
  | delivered | reconciliationRequired | permanentlyRejected => true
  | _ => false

/-- The next step of the worker at this stage writes the status of its command. -/
def marks (supervisor : Supervisor) (cmd : ClaimedCommand) : Stage → Bool
  | .claimed => (supervisor.resolve cmd.exchangeMode).isNone
  | .dispatched _ => true
  | _ => false

/-- The worker at this stage has not written the status of its command yet. -/
def Stage.holds : Stage → Bool
  | rejecting _ | auditing _ => false
  | _ => true

section

variable {supervisor : Supervisor} {cmd : ClaimedCommand} {db db' : Db} {stage : Stage}
  {next : Option Stage}

/-- A step that marks settles the command or makes it pending again, and ends the worker's hold. -/
lemma WorkerStep.of_marks (h : WorkerStep supervisor cmd db stage next db')
    (hmarks : marks supervisor cmd stage = true) :
    ((∃ status, status.isSettled = true ∧ db' = db.withCommandStatus cmd.id status) ∨
      db' = db.requeued cmd.id) ∧ ∀ stage', next = some stage' → stage'.holds = false := by
  cases h with
  | noAdapter h =>
    refine ⟨.inl ⟨_, rfl, rfl⟩, ?_⟩
    rintro _ ⟨⟩
    rfl
  | delivered => exact ⟨.inl ⟨_, rfl, rfl⟩, by simp⟩
  | requeued => exact ⟨.inr rfl, by simp⟩
  | permanentlyRejected =>
    refine ⟨.inl ⟨_, rfl, rfl⟩, ?_⟩
    intro stage' hnext
    obtain ⟨orderId, -, rfl⟩ := Option.map_eq_some_iff.mp hnext
    rfl
  | reconciliationRequired =>
    refine ⟨.inl ⟨_, rfl, rfl⟩, ?_⟩
    rintro _ ⟨⟩
    rfl
  | notHydrated hadapter => simp_all [marks]
  | hydrated hadapter => simp_all [marks]
  | called => cases hmarks
  | submitted => cases hmarks
  | cancelled => cases hmarks
  | notAccepted => cases hmarks
  | persisted => cases hmarks
  | notPersisted => cases hmarks
  | rejected => cases hmarks
  | audited => cases hmarks

/-- Any other step enqueues at most one command. -/
lemma WorkerStep.enqueues (h : WorkerStep supervisor cmd db stage next db')
    (hmarks : marks supervisor cmd stage = false) : Enqueues db db' := by
  have hknown (name : String) : CommandType.reconcileOrder ≠ .unknown name := by simp
  cases h with
  | noAdapter h => simp [marks, h] at hmarks
  | notHydrated => exact .refl db
  | hydrated => exact .refl db
  | called => exact .refl db
  | submitted htype ho hmove =>
    obtain ⟨orders, rfl⟩ := hmove.frame
    have henqueue := enqueues_withCommand { db with orders } cmd.accountId hknown
      cmd.exchangeMode
    exact ⟨rfl, (henqueue _ _).commands⟩
  | cancelled htype ho hmove =>
    obtain ⟨orders, rfl⟩ := hmove.frame
    have henqueue := enqueues_withCommand { db with orders } cmd.accountId hknown
      cmd.exchangeMode
    exact ⟨rfl, (henqueue _ _).commands⟩
  | notAccepted => exact .refl db
  | persisted h =>
    obtain ⟨o, _, _, _, db₁, _, -, -, -, -, -, -, hstatus, rfl⟩ :=
      of_commits_persistReconcileResultTx h
    obtain ⟨orders, rfl⟩ := hstatus.frame
    exact ⟨rfl, .inl rfl⟩
  | notPersisted => exact .refl db
  | delivered => cases hmarks
  | requeued => cases hmarks
  | permanentlyRejected => cases hmarks
  | reconciliationRequired => cases hmarks
  | rejected h =>
    rcases h with rfl | ⟨o, -, hmove⟩
    · exact ⟨rfl, .inl rfl⟩
    · obtain ⟨orders, rfl⟩ := hmove.frame
      exact ⟨rfl, .inl rfl⟩
  | audited => exact ⟨rfl, .inl rfl⟩

end

/-! ### Tasks -/

/-- The tasks around the one that moves on. -/
lemma updateTask_eq {tasks : List Task} {i : ℕ} {task : Task} (h : tasks[i]? = some task) :
    ∃ front back, tasks = front ++ task :: back ∧
      ∀ next, updateTask tasks i task next =
        front ++ (next.map fun stage => { task with stage }).toList ++ back := by
  obtain ⟨hi, rfl⟩ := List.getElem?_eq_some_iff.mp h
  refine ⟨tasks.take i, tasks.drop (i + 1), ?_, fun next => ?_⟩
  · rw [← List.drop_eq_getElem_cons hi, List.take_append_drop]
  · cases next with
    | none => simp [updateTask, List.eraseIdx_eq_take_drop_succ]
    | some stage => simp [updateTask, List.set_eq_take_append_cons_drop, hi]

/-- A task after the step of another or of itself. -/
lemma mem_updateTask {tasks : List Task} {i : ℕ} {task t : Task} {next : Option Stage}
    (h : tasks[i]? = some task) (ht : t ∈ updateTask tasks i task next) :
    t ∈ tasks ∨ ∃ stage, next = some stage ∧ t = { task with stage } := by
  obtain ⟨front, back, rfl, hupdate⟩ := updateTask_eq h
  rw [hupdate, List.mem_append, List.mem_append] at ht
  rcases ht with (ht | ht) | ht
  · exact .inl (by simp [ht])
  · rw [Option.mem_toList, Option.map_eq_some_iff] at ht
    obtain ⟨stage, hnext, rfl⟩ := ht
    exact .inr ⟨stage, hnext, rfl⟩
  · exact .inl (by simp [ht])

/-! ### Actions -/

/-- The commands that a claim hands out. -/
def Db.claimedCommands (db : Db) (limit : ℕ) (locked : List ℕ) : List ClaimedCommand :=
  (db.exchangeCommands.filter fun r =>
    (db.claimCandidates limit locked).contains r.id).map (·.claimed)

section

variable {db : Db}

/-- Only pending commands and commands with an expired lease can be claimed. -/
lemma mem_claimCandidates {limit i : ℕ} {locked : List ℕ}
    (h : i ∈ db.claimCandidates limit locked) :
    ∃ r ∈ db.exchangeCommands, r.claimable db.now = true ∧ r.id = i := by
  obtain ⟨r, hr, rfl⟩ := List.mem_map.mp h
  have hr := (List.mem_insertionSort _).mp (List.mem_of_mem_take hr)
  rw [List.mem_filter, Bool.and_eq_true] at hr
  exact ⟨r, hr.1, hr.2.1, rfl⟩

lemma mem_claimedCommands {limit : ℕ} {locked : List ℕ} {cmd : ClaimedCommand}
    (h : cmd ∈ db.claimedCommands limit locked) :
    ∃ r ∈ db.exchangeCommands, r.id ∈ db.claimCandidates limit locked ∧ r.claimed = cmd := by
  obtain ⟨r, hr, hcmd⟩ := List.mem_map.mp h
  rw [List.mem_filter, List.contains_iff_mem] at hr
  exact ⟨r, hr.1, hr.2, hcmd⟩

end

inductive ServerStep (s : Server) : Action → Server → Prop
  | tick (seconds : ℕ) :
    ServerStep s (.tick seconds) { s with db := { s.db with now := s.db.now + seconds } }
  | request {env : Surroundings} {accountId : Uuid} {r : Request} {db' : Db}
      (h : RequestStep env accountId s.db r db') :
    ServerStep s (.request env accountId r) { s with db := db' }
  | enqueueCancel (accountId orderId : Uuid) (mode : ExchangeMode) (tag : String) :
    ServerStep s (.enqueueCancel accountId orderId mode tag)
      { s with
        db := s.db.withCommand accountId .cancelOrder mode
          (toString orderId ++ ":cancel:" ++ tag) (orderPayload orderId) }
  | claim (limit : ℕ) (locked : List ℕ) :
    ServerStep s (.claim limit locked)
      { db := s.db.leased (s.db.claimCandidates limit locked)
        tasks := s.tasks ++ newTasks s.db.now (s.db.claimedCommands limit locked) }
  | advance {i : ℕ} {supervisor : Supervisor} {task : Task} {next : Option Stage} {db' : Db}
      (htask : s.tasks[i]? = some task)
      (h : WorkerStep supervisor task.cmd s.db task.stage next db') :
    ServerStep s (.advance i supervisor) { db := db', tasks := updateTask s.tasks i task next }
  | crash {i : ℕ} (h : i < s.tasks.length) :
    ServerStep s (.crash i) { s with tasks := s.tasks.eraseIdx i }

/-- Every action does one of these. -/
theorem serverStep_of_step {s s' : Server} {a : Action} (h : s.step a = some s') :
    ServerStep s a s' := by
  cases a with
  | tick seconds =>
    cases h
    exact .tick seconds
  | request env accountId r =>
    cases h
    exact .request (requestStep_handle env accountId r s.db)
  | enqueueCancel accountId orderId mode tag =>
    have hcommit : postgres.Commits (enqueueCancelTx accountId orderId mode tag) s.db ()
        (s.db.withCommand accountId .cancelOrder mode (toString orderId ++ ":cancel:" ++ tag)
          (orderPayload orderId)) :=
      commits_insertExchangeCommand.mpr ⟨by simp, rfl⟩
    simp only [Server.step, Engine.atomically_of_commits hcommit] at h
    cases h
    exact .enqueueCancel accountId orderId mode tag
  | claim limit locked =>
    simp only [Server.step, atomically_claim] at h
    cases h
    exact .claim limit locked
  | advance i supervisor =>
    simp only [Server.step, Option.bind_eq_bind, Option.bind_eq_some_iff] at h
    obtain ⟨task, htask, ⟨next, db'⟩, hadvance, h⟩ := h
    cases h
    exact .advance htask (workerStep_of_advance hadvance)
  | crash i =>
    simp only [Server.step] at h
    split_ifs at h with hi
    cases h
    exact .crash hi

end Confluence
