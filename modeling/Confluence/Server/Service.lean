import Confluence.Server.AuditLog
import Confluence.Server.Faults
import Confluence.Server.TableSteps

/-!
# The service

The server with every route that writes, from the empty tables on: accounts are created and their
groups of symbols replaced while requests and workers act and calls of the database fail.
-/

namespace Confluence

inductive ServiceAction
  | act (a : FaultyAction)
  | createAccount (accountId : Uuid) (equity : Option Decimal)
  | putCorrelationGroups (accountId : Uuid) (groups : List (Uuid × CorrelationGroupDef))

def Server.serviceStep (s : Server) : ServiceAction → Option Server
  | .act a => s.faultyStep a
  | .createAccount accountId equity =>
    some { s with db := (Confluence.createAccount accountId equity s.db).2 }
  | .putCorrelationGroups accountId groups =>
    some { s with db := (Confluence.putCorrelationGroups accountId groups s.db).2 }

/-- The service started in one of the states `init`. -/
def service (init : Server → Prop) : Machine Server ServiceAction where
  init := init
  step := Server.serviceStep

/-- The tables after the migrations, and no worker busy. -/
def Server.fresh : Server := ⟨Db.empty, []⟩

/-! ### Every step is a transaction, or time passing -/

inductive DbStep (db : Db) : Db → Prop
  | transacts {db' : Db} (h : Transacts db db') : DbStep db db'
  | tick (seconds : ℕ) : DbStep db { db with now := db.now + seconds }

section

variable {s s' : Server} {a : ServiceAction}

lemma dbStep_of_step {a : Action} (h : s.step a = some s') : DbStep s.db s'.db := by
  cases a with
  | tick seconds =>
    cases h
    exact .tick seconds
  | request env accountId r =>
    cases h
    exact .transacts (transacts_handle env accountId r s.db)
  | enqueueCancel accountId orderId mode tag =>
    cases h
    exact .transacts (.inr ⟨_, _, _, rfl⟩)
  | claim limit locked =>
    refine .transacts (.inr ⟨_, _, claimPendingCommands limit leaseSeconds locked, ?_⟩)
    simp only [Server.step] at h
    split at h
    · rename_i heq
      obtain rfl := Option.some.inj h
      rw [heq]
    · rename_i heq
      obtain rfl := Option.some.inj h
      rw [heq]
  | advance i supervisor =>
    simp only [Server.step, Option.bind_eq_bind, Option.bind_eq_some_iff] at h
    obtain ⟨task, -, ⟨next, db'⟩, hadvance, h⟩ := h
    cases h
    exact .transacts (transacts_advance hadvance)
  | crash i =>
    simp only [Server.step] at h
    split_ifs at h
    cases h
    exact .transacts (.inl rfl)

lemma dbStep_of_serviceStep (h : s.serviceStep a = some s') : DbStep s.db s'.db := by
  cases a with
  | act a =>
    cases a with
    | act a => exact dbStep_of_step h
    | fault i supervisor n =>
      simp only [Server.serviceStep, Server.faultyStep, Option.bind_eq_bind,
        Option.bind_eq_some_iff] at h
      obtain ⟨task, -, next, -, h⟩ := h
      cases h
      exact .transacts (.inl rfl)
  | createAccount accountId equity =>
    cases h
    simp only [Confluence.createAccount]
    split_ifs
    · exact .transacts (.inl rfl)
    · exact .transacts (.inr ⟨_, _, _, rfl⟩)
  | putCorrelationGroups accountId groups =>
    cases h
    simp only [Confluence.putCorrelationGroups]
    split
    · exact .transacts (.inl rfl)
    · exact .transacts (.inr ⟨_, _, _, rfl⟩)

/-- What every change of a table and the clock keep, every step of the service keeps. -/
theorem keeps_serviceStep {I : Db → Prop}
    (hI : ∀ db db', I db → TableStep (fun _ => True) db db' → I db')
    (htick : ∀ db seconds, I db → I { db with now := db.now + seconds })
    (h : s.serviceStep a = some s') (hs : I s.db) : I s'.db := by
  have hstep := dbStep_of_serviceStep h
  generalize s'.db = db' at hstep ⊢
  cases hstep with
  | transacts h =>
    rcases h with rfl | ⟨_, _, p, rfl⟩
    · exact hs
    · exact keeps_atomically hI p hs
  | tick seconds => exact htick _ _ hs

end

/-! ### The effects of a step -/

/-- How a worker goes on after a call of the database that has failed. -/
inductive FaultStep (supervisor : Supervisor) (cmd : ClaimedCommand) : Stage → Stage → Prop
  | noAdapter (h : supervisor.resolve cmd.exchangeMode = none) :
    FaultStep supervisor cmd .claimed (.auditing (some noAdapter))
  | notHydrated {e : DispatchOutcome} (hadapter : (supervisor.resolve cmd.exchangeMode).isSome)
      (he : NotRejected e) : FaultStep supervisor cmd .claimed (.dispatched (.error e))
  | notAccepted {orderId : Uuid} :
    FaultStep supervisor cmd (.accepted orderId) (.dispatched (.error .retry))
  | notPersisted {orderId : Uuid} {snapshot : ReconcileSnapshot} {result : ReconcileResult}
      {outcome : Except DispatchOutcome Unit} (h : ∀ e, outcome = .error e → NotRejected e) :
    FaultStep supervisor cmd (.reconciled orderId snapshot result) (.dispatched outcome)
  | rejecting {orderId : Uuid} (h : extractOrderId cmd = some orderId) :
    FaultStep supervisor cmd (.dispatched (.error .permanentlyRejected)) (.rejecting orderId)
  | auditing :
    FaultStep supervisor cmd (.dispatched (.error .reconciliationRequired)) (.auditing none)

lemma faultStep_of_mem {supervisor : Supervisor} {t : Task} {stage : Stage}
    (h : some stage ∈ t.afterFault supervisor) : FaultStep supervisor t.cmd t.stage stage := by
  obtain ⟨cmd, lease, before⟩ := t
  unfold Task.afterFault at h
  cases before with
  | claimed =>
    simp only at h
    split at h
    · rename_i hnone
      obtain rfl := Option.some.inj (List.mem_singleton.mp h)
      exact .noAdapter hnone
    · rename_i adapter hadapter
      have hsome : (supervisor.resolve cmd.exchangeMode).isSome := by
        rw [hadapter]
        rfl
      split at h
      · cases h
      · cases h
      · simp only [List.mem_cons, Option.some.injEq, List.not_mem_nil, or_false] at h
        rcases h with rfl | rfl
        · exact .notHydrated hsome (by simp [NotRejected])
        · exact .notHydrated hsome (by simp [NotRejected])
  | hydrated => cases h
  | accepted =>
    obtain rfl := Option.some.inj (List.mem_singleton.mp h)
    exact .notAccepted
  | reconciled orderId snapshot result =>
    simp only [List.mem_cons, Option.some.injEq] at h
    rcases h with rfl | h
    · refine .notPersisted fun e he => ?_
      cases he
      simp [NotRejected]
    · split_ifs at h
      · cases h
      · obtain rfl := Option.some.inj (List.mem_singleton.mp h)
        exact .notPersisted (by simp)
  | dispatched outcome =>
    rcases outcome with (_ | _ | _) | _
    · simp at h
    · obtain ⟨orderId, horder, rfl⟩ := Option.map_eq_some_iff.mp (List.mem_singleton.mp h).symm
      exact .rejecting horder
    · obtain rfl := Option.some.inj (List.mem_singleton.mp h)
      exact .auditing
    · simp at h
  | rejecting => simp at h
  | auditing => simp at h


/-- A new account comes with its risk configuration and an event. -/
lemma createAccount_cases (accountId : Uuid) (equity : Option Decimal) (db : Db) :
    (createAccount accountId equity db).2 = db ∨
      ∃ (r : AccountRecord) (e : RiskEventRecord), r.id = accountId ∧ e.accountId = accountId ∧
        (createAccount accountId equity db).2 =
          { db with
            accounts := db.accounts ++ [r]
            riskConfigs := db.riskConfigs ++ [.placeholder accountId]
            riskEvents := db.riskEvents ++ [e] } := by
  unfold createAccount
  split_ifs
  · exact .inl rfl
  · rcases Engine.atomically_cases postgres (createAccountTx accountId (equity.getD 0)) db
      with hsame | ⟨_, -, h⟩
    · exact .inl hsame
    · right
      simp only [createAccountTx, Engine.commits_bind, commits_sql, Statement.exec,
        column_bind_eq_ok, require_bind_eq_ok, commits_insertRiskEvent, Engine.commits_pure] at h
      obtain ⟨_, _, ⟨_, ⟨stored, -, -, -, hexec⟩, rfl⟩, _, _, ⟨_, ⟨-, hexec'⟩, rfl⟩, _, _,
        ⟨-, rfl⟩, -, hdb⟩ := h
      cases hexec
      cases hexec'
      exact ⟨_, _, rfl, rfl, hdb.symm⟩

lemma putCorrelationGroups_cases (accountId : Uuid) (groups : List (Uuid × CorrelationGroupDef))
    (db : Db) : ∃ correlationGroups correlationGroupAssets riskEvents,
      (putCorrelationGroups accountId groups db).2 =
        { db with correlationGroups, correlationGroupAssets, riskEvents } := by
  unfold putCorrelationGroups
  cases checkGroups [] (groups.map (·.2)) with
  | error e => exact ⟨_, _, _, rfl⟩
  | ok _ =>
    rcases Engine.atomically_cases postgres (putCorrelationGroupsTx accountId groups) db
      with hsame | ⟨_, -, h⟩
    · exact ⟨_, _, _, hsame⟩
    · simp only [putCorrelationGroupsTx, Engine.commits_bind, commits_lockAccount,
        commits_insertRiskEvent] at h
      obtain ⟨_, _, ⟨-, rfl⟩, _, db₁, hdelete, _, db₂, hgroups, -, hdb⟩ := h
      obtain ⟨change, hexec, rfl⟩ := commits_sql.mp hdelete
      cases hexec
      obtain ⟨_, _, rfl⟩ := of_commits_insertGroups hgroups
      exact ⟨_, _, _, hdb⟩

inductive ServiceStep (s : Server) : ServiceAction → Server → Prop
  | server {a : Action} {s' : Server} (h : ServerStep s a s') : ServiceStep s (.act (.act a)) s'
  | fault {i : ℕ} {supervisor : Supervisor} {n : ℕ} {task : Task} {next : Option Stage}
      (htask : s.tasks[i]? = some task) (hnext : next ∈ task.afterFault supervisor) :
    ServiceStep s (.act (.fault i supervisor n)) { s with tasks := updateTask s.tasks i task next }
  | refused {accountId : Uuid} {equity : Option Decimal} :
    ServiceStep s (.createAccount accountId equity) s
  | created {accountId : Uuid} {equity : Option Decimal} {r : AccountRecord} {e : RiskEventRecord}
      (hid : r.id = accountId) (hevent : e.accountId = accountId) :
    ServiceStep s (.createAccount accountId equity)
      { s with db := { s.db with
        accounts := s.db.accounts ++ [r]
        riskConfigs := s.db.riskConfigs ++ [.placeholder accountId]
        riskEvents := s.db.riskEvents ++ [e] } }
  | regrouped {accountId : Uuid} {groups : List (Uuid × CorrelationGroupDef)}
      {correlationGroups : List CorrelationGroupRecord}
      {correlationGroupAssets : List CorrelationGroupAssetRecord}
      {riskEvents : List RiskEventRecord} :
    ServiceStep s (.putCorrelationGroups accountId groups)
      { s with db := { s.db with correlationGroups, correlationGroupAssets, riskEvents } }

/-- Every action of the service does one of these. -/
theorem serviceStep_of_step {s s' : Server} {a : ServiceAction} (h : s.serviceStep a = some s') :
    ServiceStep s a s' := by
  cases a with
  | act a =>
    cases a with
    | act a => exact .server (serverStep_of_step h)
    | fault i supervisor n =>
      simp only [Server.serviceStep, Server.faultyStep, Option.bind_eq_bind,
        Option.bind_eq_some_iff] at h
      obtain ⟨task, htask, next, hnext, h⟩ := h
      cases h
      exact .fault htask (List.mem_of_getElem? hnext)
  | createAccount accountId equity =>
    cases h
    rcases createAccount_cases accountId equity s.db with hdb | ⟨r, e, hid, hevent, hdb⟩
    · rw [hdb]
      exact .refused
    · rw [hdb]
      exact .created hid hevent
  | putCorrelationGroups accountId groups =>
    cases h
    obtain ⟨_, _, _, hdb⟩ := putCorrelationGroups_cases accountId groups s.db
    rw [hdb]
    exact .regrouped

end Confluence
