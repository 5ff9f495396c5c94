import Confluence.Properties.KillSwitch

/-!
# Requests one after another

Every handler that writes for an account, but the one of the risk limits, begins with the lock of the
account row. However their statements interleave, what they commit and what they answer is what the
same requests do and answer one after another, in the order of their commits.
-/

namespace Confluence

/-- The requests that lock the account row. -/
inductive LockingRequest
  | placeOrder (env : Surroundings) (orderId : Uuid) (body : PlaceOrderRequest)
  | evaluateTrade (env : Surroundings) (intent : TradeIntent)
  | putEquity (equity : Decimal)
  | putCorrelationGroups (groups : List (Uuid × CorrelationGroupDef))
  | engageKillSwitch
  | releaseKillSwitch
  | putExchangeConfig (encrypt : String → Except ApiError (List UInt8)) (body : PutExchangeConfig)

inductive LockingAnswer
  | decision (decision : Decision)
  | account (view : AccountView)
  | exchangeConfig (view : ExchangeConfigView)
  | done
deriving DecidableEq

def LockingRequest.tx (accountId : Uuid) : LockingRequest → Tx LockingAnswer
  | placeOrder env orderId body => do
    return .decision (← placeOrderTx env accountId orderId body)
  | evaluateTrade env intent => do return .decision (← evaluateTradeTx env accountId intent)
  | putEquity equity => do
    putEquityTx accountId equity
    return .done
  | putCorrelationGroups groups => do
    putCorrelationGroupsTx accountId groups
    return .done
  | engageKillSwitch => do return .account (← engageKillSwitchTx accountId)
  | releaseKillSwitch => do return .account (← releaseKillSwitchTx accountId)
  | putExchangeConfig encrypt body => do
    return .exchangeConfig (← putExchangeConfigTx encrypt accountId body)

/-- The requests of one account, statement by statement. -/
def lockingRequests (accountId : Uuid) :
    Workload Statement Db SqlError RowLock LockingRequest ApiError LockingAnswer where
  engine := postgres
  locks := Statement.locks
  tx := LockingRequest.tx accountId

/-- The row that `lock_account` finds is locked. -/
lemma mem_locks_of_find? {accountId : Uuid} {db : Db} {r : AccountRecord}
    (h : (db.accounts.find? fun r => r.id = accountId) = some r) :
    RowLock.account accountId ∈ (Statement.selectAccountForUpdate accountId).locks db := by
  have hid : r.id = accountId := by simpa using List.find?_some h
  have hmem : r ∈ db.accounts.filter fun r => r.id = accountId :=
    List.mem_filter.mpr ⟨List.mem_of_find?_eq_some h, by simpa using hid⟩
  exact List.mem_map.mpr ⟨r, hmem, by rw [hid]⟩

/-- Every one of the requests begins with the lock, or finds no account. -/
lemma guarded_lockingRequests (accountId : Uuid) :
    (lockingRequests accountId).Guarded (.account accountId) := by
  intro r
  have hquery : ∃ next, (lockingRequests accountId).tx r =
        .query (.selectAccountForUpdate accountId) next ∧
      next (.ok none) = .done (.error .notFound) := by
    cases r with
    | placeOrder => exact ⟨_, rfl, rfl⟩
    | evaluateTrade => exact ⟨_, rfl, rfl⟩
    | putEquity => exact ⟨_, rfl, rfl⟩
    | putCorrelationGroups => exact ⟨_, rfl, rfl⟩
    | engageKillSwitch => exact ⟨_, rfl, rfl⟩
    | releaseKillSwitch => exact ⟨_, rfl, rfl⟩
    | putExchangeConfig => exact ⟨_, rfl, rfl⟩
  obtain ⟨next, htx, hnone⟩ := hquery
  refine ⟨_, _, next, htx, fun db => ?_⟩
  cases hrow : db.accounts.find? fun r => r.id = accountId with
  | some row => exact .inl (mem_locks_of_find? hrow)
  | none =>
    refine .inr ⟨.notFound, ?_⟩
    rw [← hnone]
    simp only [lockingRequests, Workload.answer, Workload.begin, postgres, Statement.exec, hrow,
      Option.map_none, id]

/-- The requests that a run commits, with their answers, run alone in the order of their commits, from
what was committed at the start to what is committed at the end. -/
theorem requests_serializable {accountId : Uuid}
    {s s' : Interleaving Statement Db SqlError RowLock LockingRequest ApiError LockingAnswer}
    {as : List (SessionAction LockingRequest)} (hquiet : Workload.Quiet s)
    (hrun : (lockingRequests accountId).machine.Run (fun _ _ => True) s as s') :
    (lockingRequests accountId).alone.Run (fun _ _ => True) s.store
      ((lockingRequests accountId).outcomes s as) s'.store :=
  ((lockingRequests accountId).inOrder_of_quiet _ _ hquiet trivial).run_alone
    (guarded_lockingRequests accountId).optimistic hrun

/-! ### A change of equity in the middle of an order -/

def quietAccount :
    Interleaving Statement Db SqlError RowLock LockingRequest ApiError LockingAnswer :=
  { store := equity1000, sessions := fun _ => none, locked := [] }

/-- The change of equity begins before the order and waits until the order is committed. -/
def equityWaits : List (SessionAction LockingRequest) :=
  [.start 0 (.putEquity 500),
    .start 1 (.placeOrder quotedAt100 ⟨2⟩ { buyTen with quantity := 1, price := some 1 }),
    .query 1, .query 1, .query 1, .query 1, .query 1, .query 1, .query 1, .query 1, .query 1,
    .commit 1, .query 0, .query 0, .query 0, .commit 0]

theorem requests_serializable_equityWaits :
    ∃ s', (lockingRequests ⟨1⟩).machine.Run (fun _ _ => True) quietAccount equityWaits s' ∧
      ((lockingRequests ⟨1⟩).outcomes quietAccount equityWaits).map (·.2) =
        [.decision .approved, .done] ∧
      (lockingRequests ⟨1⟩).alone.Run (fun _ _ => True) equity1000
        ((lockingRequests ⟨1⟩).outcomes quietAccount equityWaits) s'.store := by
  have hexec : ((lockingRequests ⟨1⟩).machine.exec (fun _ _ => True) quietAccount equityWaits).any
      (fun _ => true) = true := by
    decide +kernel
  obtain ⟨s', hrun, -⟩ := Machine.exists_run_of_exec hexec
  exact ⟨s', hrun, by decide +kernel, requests_serializable ⟨fun _ => rfl, rfl⟩ hrun⟩

end Confluence
