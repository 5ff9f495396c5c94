import Confluence.Server.Steps

/-!
# Failing calls of the database

A worker goes on after many failed calls: an error of a transaction of `dispatch` is an outcome like
any other, and errors of the statements that write the outcome are dropped. Events are never lost.
-/

namespace Confluence

/-- How a worker goes on when a call of the database fails in its next step, which changes nothing
then. -/
def Task.afterFault (supervisor : Supervisor) (t : Task) : List (Option Stage) :=
  match t.stage with
  | .claimed =>
    match supervisor.resolve t.cmd.exchangeMode with
    | none => [some (.auditing (some noAdapter))]
    | some _ =>
      match t.cmd.commandType, extractOrderId t.cmd with
      | .unknown _, _ | _, none => []
      -- only a failure to lock the order is not retried
      | _, some _ =>
        [some (.dispatched (.error .retry)), some (.dispatched (.error .reconciliationRequired))]
  | .hydrated .. => []
  | .accepted _ => [some (.dispatched (.error .retry))]
  | .reconciled _ _ result =>
    -- after a dropped error of an event the commit reports success
    some (.dispatched (.error .retry)) ::
      if result.events.isEmpty then [] else [some (.dispatched (.ok ()))]
  | .dispatched (.ok ()) | .dispatched (.error .retry) => [none]
  | .dispatched (.error .permanentlyRejected) => [(extractOrderId t.cmd).map .rejecting]
  | .dispatched (.error .reconciliationRequired) => [some (.auditing none)]
  | .rejecting _ | .auditing _ => [none]

inductive FaultyAction
  | act (a : Action)
  | fault (i : ℕ) (supervisor : Supervisor) (n : ℕ)

/-- The `n`-th of the ways in which a worker can go on after a failed call. -/
def Server.faultyStep (s : Server) : FaultyAction → Option Server
  | .act a => s.step a
  | .fault i supervisor n => do
    let task ← s.tasks[i]?
    let next ← (task.afterFault supervisor)[n]?
    return { s with tasks := updateTask s.tasks i task next }

/-- The server with calls of the database that may fail. -/
def faultyServer (init : Server → Prop) : Machine Server FaultyAction where
  init := init
  step := Server.faultyStep

/-! ### Events are never lost -/

lemma advances_riskEvents :
    postgres.Advances fun db db' => db.riskEvents ⊆ db'.riskEvents := by
  intro β q db b change h
  simp only [postgres] at h
  cases q with
  | selectAccountForUpdate | selectRiskConfig | selectOpenPositions | selectCorrelationGroups
  | selectDailyPnl | selectExchangeConfig | countOpenOrders | countOpenPositions
  | selectOrderForUpdate | selectFills | claimCommands | updateCommandStatus | requeueCommand
  | selectOpenPosition | selectRiskEvents | deleteCorrelationGroups =>
    cases h
    exact List.Subset.refl _
  | upsertCircuitBreaker accountId today =>
    simp only [Statement.exec] at h
    split_ifs at h
    · cases h
      exact List.Subset.refl _
    · cases h
      exact List.Subset.refl _
  | insertRiskEvent =>
    simp only [Statement.exec, require_bind_eq_ok] at h
    obtain ⟨-, h⟩ := h
    cases h
    exact List.subset_append_left ..
  | insertCorrelationGroup =>
    simp only [Statement.exec, require_bind_eq_ok] at h
    obtain ⟨-, -, h⟩ := h
    cases h
    exact List.Subset.refl _
  | insertCorrelationGroupAsset =>
    simp only [Statement.exec, require_bind_eq_ok] at h
    obtain ⟨-, -, -, h⟩ := h
    cases h
    exact List.Subset.refl _
  | engageKillSwitch | releaseKillSwitch | insertExchangeConfig | updateExchangeConfig
  | insertRiskConfig | closePosition =>
    simp only [Statement.exec, require_bind_eq_ok] at h
    obtain ⟨-, h⟩ := h
    cases h
    exact List.Subset.refl _
  | insertAccount =>
    simp only [Statement.exec, require_bind_eq_ok, column_bind_eq_ok] at h
    obtain ⟨_, -, -, -, h⟩ := h
    cases h
    exact List.Subset.refl _
  | updateEquity | updateOrder =>
    simp only [Statement.exec, require_bind_eq_ok, column_bind_eq_ok] at h
    obtain ⟨_, -, -, h⟩ := h
    cases h
    exact List.Subset.refl _
  | insertPosition | updatePosition | updateRiskConfig =>
    simp only [Statement.exec, require_bind_eq_ok, column_bind_eq_ok] at h
    obtain ⟨_, -, _, -, h⟩ := h
    first
      | obtain ⟨-, -, h⟩ := h
        cases h
      | obtain ⟨-, h⟩ := h
        cases h
      | obtain ⟨_, -, -, h⟩ := h
        cases h
    exact List.Subset.refl _
  | insertCommand =>
    simp only [Statement.exec, require_bind_eq_ok] at h
    obtain ⟨-, h⟩ := h
    split_ifs at h
    · cases h
      exact List.Subset.refl _
    · cases h
      exact List.Subset.refl _
  | insertFill =>
    simp only [Statement.exec, require_bind_eq_ok, column_bind_eq_ok] at h
    obtain ⟨_, -, _, -, _, -, -, h⟩ := h
    split_ifs at h
    · cases h
      exact List.Subset.refl _
    · cases h
      exact List.Subset.refl _
  | insertOrder id accountId clientOrderId symbol side orderType quantity price exchangeMode =>
    have hcommit : postgres.Commits (insertOrder id accountId clientOrderId symbol side orderType
        quantity price exchangeMode) db b (change db) := commits_sql.mpr ⟨change, h, rfl⟩
    obtain ⟨_, _, -, -, -, -, -, hdb⟩ := commits_insertOrder hcommit
    rw [hdb]
    exact List.Subset.refl _

/-- One transaction, or none, leads from one database to the other. -/
def Transacts (db db' : Db) : Prop :=
  db' = db ∨ ∃ (ε α : Type) (p : Program Statement SqlError ε α), db' = (postgres.atomically p db).2

lemma transacts_handle (env : Surroundings) (accountId : Uuid) (r : Request) (db : Db) :
    Transacts db (r.handle env accountId db) := by
  cases r with
  | placeOrder orderId body =>
    rw [Request.handle]
    cases hvalid : validateRequest env body with
    | ok u => exact .inr ⟨_, _, _, placeOrder_db orderId db hvalid⟩
    | error e =>
      left
      simp [placeOrder, hvalid]
  | evaluateTrade intent =>
    rw [Request.handle, Confluence.evaluateTrade]
    split_ifs
    · exact .inl rfl
    · exact .inl rfl
    · exact .inr ⟨_, _, _, rfl⟩
  | putEquity equity =>
    rw [Request.handle, Confluence.putEquity]
    split_ifs
    · exact .inl rfl
    · exact .inr ⟨_, _, _, rfl⟩
  | putRiskConfig body =>
    rw [Request.handle, Confluence.putRiskConfig]
    cases validateRiskConfig body with
    | error e => exact .inl rfl
    | ok u => exact .inr ⟨_, _, _, rfl⟩
  | engageKillSwitch => exact .inr ⟨_, _, _, rfl⟩
  | releaseKillSwitch => exact .inr ⟨_, _, _, rfl⟩
  | putExchangeConfig encrypt body =>
    rw [Request.handle, Confluence.putExchangeConfig]
    split_ifs
    · exact .inl rfl
    · exact .inr ⟨_, _, _, rfl⟩

lemma transacts_advance {supervisor : Supervisor} {cmd : ClaimedCommand} {stage : Stage} {db db' : Db}
    {next : Option Stage} (h : advance supervisor cmd stage db = some (next, db')) :
    Transacts db db' := by
  cases stage with
  | claimed =>
    simp only [advance] at h
    cases hadapter : supervisor.resolve cmd.exchangeMode with
    | none =>
      rw [hadapter] at h
      cases h
      exact .inr ⟨_, _, _, rfl⟩
    | some adapter =>
      rw [hadapter] at h
      cases h
      unfold beginDispatch
      cases cmd.commandType with
      | unknown name => exact .inl rfl
      | _ =>
        cases extractOrderId cmd with
        | none => exact .inl rfl
        | some orderId => exact .inr ⟨_, _, _, rfl⟩
  | hydrated orderId snapshot =>
    simp only [advance] at h
    obtain ⟨adapter, -, h⟩ := Option.map_eq_some_iff.mp h
    cases h
    exact .inl rfl
  | accepted orderId =>
    cases h
    exact .inr ⟨_, _, _, rfl⟩
  | reconciled orderId snapshot result =>
    cases h
    exact .inr ⟨_, _, _, rfl⟩
  | dispatched outcome =>
    rcases outcome with e | ⟨⟨⟩⟩
    · cases e <;>
      · cases h
        exact .inr ⟨_, _, _, rfl⟩
    · cases h
      exact .inr ⟨_, _, _, rfl⟩
  | rejecting orderId =>
    cases h
    exact .inr ⟨_, _, _, rfl⟩
  | auditing reason =>
    cases h
    exact .inr ⟨_, _, _, rfl⟩

lemma Transacts.subset_riskEvents {db db' : Db} (h : Transacts db db') :
    db.riskEvents ⊆ db'.riskEvents := by
  rcases h with rfl | ⟨ε, α, p, rfl⟩
  · exact List.Subset.refl _
  · exact advances_riskEvents.atomically (fun _ => List.Subset.refl _)
      (fun _ _ _ h₁ h₂ => List.Subset.trans h₁ h₂) p db

/-- No step of the server loses an event. -/
lemma subset_riskEvents_of_step {s s' : Server} {a : Action} (h : s.step a = some s') :
    s.db.riskEvents ⊆ s'.db.riskEvents := by
  cases a with
  | tick seconds =>
    cases h
    exact List.Subset.refl _
  | request env accountId r =>
    cases h
    exact (transacts_handle env accountId r s.db).subset_riskEvents
  | enqueueCancel accountId orderId mode tag =>
    cases h
    have htx : Transacts s.db
        (postgres.atomically (enqueueCancelTx accountId orderId mode tag) s.db).2 :=
      .inr ⟨_, _, _, rfl⟩
    exact htx.subset_riskEvents
  | claim limit locked =>
    simp only [Server.step, atomically_claim] at h
    cases h
    exact List.Subset.refl _
  | advance i supervisor =>
    simp only [Server.step, Option.bind_eq_bind, Option.bind_eq_some_iff] at h
    obtain ⟨task, htask, ⟨next, db'⟩, hadvance, h⟩ := h
    cases h
    exact (transacts_advance hadvance).subset_riskEvents
  | crash i =>
    simp only [Server.step] at h
    split_ifs at h
    cases h
    exact List.Subset.refl _

end Confluence
