import Confluence.Library.Machine
import Confluence.Server.OutboxWorker
import Confluence.Server.Routes

/-!
# The running server

Requests and any number of workers act on one database. Each action below is one transaction, one
adapter call or the passing of time, so that a run of the machine is an interleaving of them.
-/

namespace Confluence

/-- The database and the commands that workers hold. -/
structure Server where
  db : Db
  tasks : List Task

inductive Request
  | placeOrder (orderId : Uuid) (body : PlaceOrderRequest)
  | evaluateTrade (intent : TradeIntent)
  | putEquity (equity : Decimal)
  | putRiskConfig (body : RiskConfigView)
  | engageKillSwitch
  | releaseKillSwitch
  | putExchangeConfig (encrypt : String → Except ApiError (List UInt8)) (body : PutExchangeConfig)

/-- The database after a request. -/
def Request.handle (env : Surroundings) (accountId : Uuid) (r : Request) (db : Db) : Db :=
  match r with
  | placeOrder orderId body => (Confluence.placeOrder env accountId orderId body db).2
  | evaluateTrade intent => (Confluence.evaluateTrade env accountId intent db).2
  | putEquity equity => (Confluence.putEquity accountId equity db).2
  | putRiskConfig body => (Confluence.putRiskConfig accountId body db).2
  | engageKillSwitch => (Confluence.engageKillSwitch accountId db).2
  | releaseKillSwitch => (Confluence.releaseKillSwitch accountId db).2
  | putExchangeConfig encrypt body => (Confluence.putExchangeConfig encrypt accountId body db).2

inductive Action
  | tick (seconds : ℕ)
  | request (env : Surroundings) (accountId : Uuid) (r : Request)
  | enqueueCancel (accountId orderId : Uuid) (mode : ExchangeMode) (tag : String)
  | claim (limit : ℕ) (locked : List ℕ)
  | advance (i : ℕ) (supervisor : Supervisor)
  | crash (i : ℕ)

/-- No route enqueues cancellations; whoever does keeps to the scheme of the idempotency keys. -/
def enqueueCancelTx (accountId orderId : Uuid) (mode : ExchangeMode) (tag : String) : Tx Unit :=
  insertExchangeCommand accountId .cancelOrder mode (toString orderId ++ ":cancel:" ++ tag)
    (orderPayload orderId)

/-- The tasks of a claim made at `now`. -/
def newTasks (now : Timestamp) (claimed : List ClaimedCommand) : List Task :=
  claimed.map fun cmd => { cmd, lease := now + leaseSeconds, stage := .claimed }

/-- The tasks when the `i`-th one has moved on, or is done. -/
def updateTask (tasks : List Task) (i : ℕ) (task : Task) : Option Stage → List Task
  | some stage => tasks.set i { task with stage }
  | none => tasks.eraseIdx i

def Server.step (s : Server) : Action → Option Server
  | .tick seconds => some { s with db := { s.db with now := s.db.now + seconds } }
  | .request env accountId r => some { s with db := r.handle env accountId s.db }
  | .enqueueCancel accountId orderId mode tag =>
    some { s with db := (postgres.atomically (enqueueCancelTx accountId orderId mode tag) s.db).2 }
  | .claim limit locked =>
    match postgres.atomically (claimPendingCommands limit leaseSeconds locked) s.db with
    | (.ok claimed, db) => some { db, tasks := s.tasks ++ newTasks s.db.now claimed }
    | (.error _, db) => some { s with db }
  | .advance i supervisor => do
    let task ← s.tasks[i]?
    let (stage, db) ← advance supervisor task.cmd task.stage s.db
    return { db, tasks := updateTask s.tasks i task stage }
  | .crash i => if i < s.tasks.length then some { s with tasks := s.tasks.eraseIdx i } else none

/-- The server started in one of the states `init`. -/
def server (init : Server → Prop) : Machine Server Action where
  init := init
  step := Server.step

/-! ### A pass of one worker is a run -/

section

variable {init : Server → Prop} {ok : Server → Action → Prop} {supervisor : Supervisor}

/-- The first task of the list moves on. -/
lemma run_advance (hok : ∀ s i, ok s (.advance i supervisor)) {db db' : Db} {t : Task}
    {ts : List Task} {stage : Option Stage} {s' : Server}
    (hstep : advance supervisor t.cmd t.stage db = some (stage, db'))
    (hrun : ∃ as, (server init).Run ok ⟨db', updateTask (t :: ts) 0 t stage⟩ as s') :
    ∃ as, (server init).Run ok ⟨db, t :: ts⟩ as s' := by
  obtain ⟨as, hrun⟩ := hrun
  refine ⟨.advance 0 supervisor :: as, .cons (hok _ _) ?_ hrun⟩
  simp [server, Server.step, hstep]

/-- The outcome of a dispatch is written in one or two steps. -/
lemma settle_run (hok : ∀ s i, ok s (.advance i supervisor)) (cmd : ClaimedCommand)
    (lease : Timestamp) (outcome : Except DispatchOutcome Unit) (db : Db) (ts : List Task) :
    ∃ as, (server init).Run ok ⟨db, ⟨cmd, lease, .dispatched outcome⟩ :: ts⟩ as
      ⟨settle cmd outcome db, ts⟩ := by
  have done (s : Server) : ∃ as, (server init).Run ok s as s := ⟨[], .nil s⟩
  match outcome with
  | .ok () => exact run_advance hok rfl (done _)
  | .error .retry => exact run_advance hok rfl (done _)
  | .error .permanentlyRejected =>
    refine run_advance hok rfl ?_
    cases h : extractOrderId cmd with
    | none => simpa [settle, h, updateTask] using done _
    | some orderId =>
      simp only [settle, h, updateTask, Option.map_some, List.set_cons_zero]
      refine run_advance hok rfl ?_
      exact done _
  | .error .reconciliationRequired =>
    refine run_advance hok rfl ?_
    exact run_advance hok rfl (done _)

/-- What `dispatch` does in one go, the stages do one after another. -/
lemma dispatch_run (hok : ∀ s i, ok s (.advance i supervisor)) {cmd : ClaimedCommand}
    {adapter : ExchangeAdapter} (hadapter : supervisor.resolve cmd.exchangeMode = some adapter)
    (lease : Timestamp) (db : Db) (ts : List Task) :
    ∃ as, (server init).Run ok ⟨db, ⟨cmd, lease, .claimed⟩ :: ts⟩ as
      ⟨settle cmd (dispatch cmd adapter db).1 (dispatch cmd adapter db).2, ts⟩ := by
  have hbegin : advance supervisor cmd .claimed db =
      some (some (beginDispatch cmd db).1, (beginDispatch cmd db).2) := by
    simp [advance, hadapter]
  have hcall (orderId : Uuid) (snapshot : ReconcileSnapshot) (db : Db) :
      advance supervisor cmd (.hydrated orderId snapshot) db =
        some (some (callAdapter cmd adapter orderId snapshot), db) := by
    simp [advance, hadapter]
  refine run_advance hok hbegin ?_
  cases htype : cmd.commandType with
  | unknown name =>
    simp only [beginDispatch, dispatch, htype]
    exact settle_run hok ..
  | _ =>
    simp only [beginDispatch, dispatch, htype]
    cases horder : extractOrderId cmd with
    | none => exact settle_run hok ..
    | some orderId =>
      rcases hhydrate : postgres.atomically (hydrateSnapshotTx cmd.accountId orderId) db
        with ⟨e | snapshot, db'⟩
      · simp only [Stage.after, updateTask, List.set_cons_zero, hhydrate]
        exact settle_run hok ..
      · simp only [Stage.after, updateTask, List.set_cons_zero, hhydrate]
        refine run_advance hok (hcall ..) ?_
        simp only [callAdapter, htype]
        -- the adapter refuses, or its answer goes through one more transaction
        split
        · rename_i e he
          simp only [he, Except.mapError, Stage.after, updateTask, List.set_cons_zero]
          exact settle_run hok ..
        · rename_i answer hanswer
          simp only [hanswer, Except.mapError, Stage.after, updateTask, List.set_cons_zero]
          refine run_advance hok rfl ?_
          simp only [acceptedTx, htype, updateTask, List.set_cons_zero]
          exact settle_run hok ..

lemma processCommand_run (hok : ∀ s i, ok s (.advance i supervisor)) (cmd : ClaimedCommand)
    (lease : Timestamp) (db : Db) (ts : List Task) :
    ∃ as, (server init).Run ok ⟨db, ⟨cmd, lease, .claimed⟩ :: ts⟩ as
      ⟨processCommand supervisor cmd db, ts⟩ := by
  cases hadapter : supervisor.resolve cmd.exchangeMode with
  | none =>
    simp only [processCommand, hadapter]
    refine run_advance hok (by simp only [advance, hadapter]; rfl) ?_
    exact run_advance hok rfl ⟨[], .nil _⟩
  | some adapter =>
    simp only [processCommand, hadapter]
    exact dispatch_run hok hadapter ..

lemma processCommands_run (hok : ∀ s i, ok s (.advance i supervisor))
    (claimed : List ClaimedCommand) (now : Timestamp) (db : Db) :
    ∃ as, (server init).Run ok ⟨db, newTasks now claimed⟩ as
      ⟨claimed.foldl (fun db cmd => processCommand supervisor cmd db) db, []⟩ := by
  induction claimed generalizing db with
  | nil => exact ⟨[], .nil _⟩
  | cons cmd claimed ih =>
    obtain ⟨bs, hrest⟩ := ih (processCommand supervisor cmd db)
    obtain ⟨as, hcmd⟩ := processCommand_run hok cmd (now + leaseSeconds) db (newTasks now claimed)
    exact ⟨as ++ bs, hcmd.append hrest⟩

/-- A pass of `run_once` by a single worker is a run of the machine, whose actions are one claim
and steps of the claimed tasks. -/
theorem runOnce_run (hok : ∀ s i, ok s (.advance i supervisor)) {batchSize : ℕ}
    {locked : List ℕ} (hclaim : ∀ s, ok s (.claim batchSize locked)) (db : Db) :
    ∃ as, (server init).Run ok ⟨db, []⟩ as ⟨(runOnce supervisor batchSize locked db).2, []⟩ := by
  rcases h : postgres.atomically (claimPendingCommands batchSize leaseSeconds locked) db
    with ⟨e | claimed, db'⟩
  · refine ⟨[.claim batchSize locked], .cons (hclaim _) ?_ (.nil _)⟩
    simp [server, Server.step, h, runOnce]
  · obtain ⟨as, hrun⟩ := processCommands_run hok claimed db.now db'
    have hdb : (runOnce supervisor batchSize locked db).2 =
        claimed.foldl (fun db cmd => processCommand supervisor cmd db) db' := by
      simp [runOnce, h]
    rw [hdb]
    refine ⟨.claim batchSize locked :: as, .cons (hclaim _) ?_ hrun⟩
    simp [server, Server.step, h]

end

end Confluence
