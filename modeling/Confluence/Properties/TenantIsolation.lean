import Confluence.Server.Confinement
import Confluence.Server.OutboxWorker
import Confluence.Server.Routes

/-!
# Tenant isolation

Without row-level security, only the `WHERE` clauses stand between accounts. Two databases that
agree on the rows of an account cannot be told apart by its calls, which leave the rows of every
other account alone.
-/

namespace Confluence

open Engine

/-- Two databases, derived from two others by changes to the account's rows only, that its calls
cannot tell apart. -/
structure Isolated (accountId : Uuid) (base₁ base₂ db₁ db₂ : Db) : Prop where
  same : SameFor accountId db₁ db₂
  keyed₁ : db₁.Keyed
  keyed₂ : db₂.Keyed
  others₁ : ∀ b ≠ accountId, db₁.rowsOf b = base₁.rowsOf b
  others₂ : ∀ b ≠ accountId, db₂.rowsOf b = base₂.rowsOf b

/-! ### Statements -/

section

variable {accountId : Uuid} {base₁ base₂ db₁ db₂ : Db} {α β : Type}

lemma Db.FreeFor.congr {base db : Db} {id : Uuid} (h : base.FreeFor accountId id)
    (hothers : ∀ b ≠ accountId, db.rowsOf b = base.rowsOf b) : db.FreeFor accountId id := by
  constructor
  · intro r hr hacc
    have hmem : r ∈ (db.rowsOf r.accountId).orders := List.mem_filter.mpr ⟨hr, by simp⟩
    rw [hothers r.accountId hacc] at hmem
    exact h.1 r (List.mem_of_mem_filter hmem) hacc
  · intro g hg hacc
    have hmem : g ∈ (db.rowsOf g.accountId).correlationGroups := List.mem_filter.mpr ⟨hg, by simp⟩
    rw [hothers g.accountId hacc] at hmem
    exact h.2 g (List.mem_of_mem_filter hmem) hacc

lemma SameFor.change {change : Db → Db} (h : SameFor accountId db₁ db₂)
    (h₁ : Confined accountId db₁ change) (h₂ : Confined accountId db₂ change)
    (hkeys : KeepsKeys db₁ change) : SameFor accountId (change db₁) (change db₂) where
  rows := by rw [h₁.own, h₂.own, h.rows]
  positionId := hkeys.positionId db₁ db₂ h.positionId
  commandId := hkeys.commandId db₁ db₂ h.commandId

/-- A statement of the account. -/
lemma Isolated.sql {q : Statement β} (h : Isolated accountId base₁ base₂ db₁ db₂)
    (ho₁ : q.Owned accountId db₁) (ho₂ : q.Owned accountId db₂) :
    postgres.Alike (Isolated accountId base₁ base₂) (sql q) db₁ db₂ := by
  have hexec : q.exec db₁ = q.exec db₂ := Statement.exec_congr h.same h.keyed₁ h.keyed₂ ho₁ ho₂
  refine alike_ask h hexec fun b change hq₁ => ?_
  have hq₂ : q.exec db₂ = .ok (b, change) := hexec ▸ hq₁
  have hconf₁ := Statement.confined ho₁ hq₁
  have hconf₂ := Statement.confined ho₂ hq₂
  have hkeys₁ := Statement.keepsKeys h.keyed₁ hq₁
  have hkeys₂ := Statement.keepsKeys h.keyed₂ hq₂
  constructor
  · exact h.same.change hconf₁ hconf₂ hkeys₁
  · exact hkeys₁.keyed
  · exact hkeys₂.keyed
  · intro b hb
    rw [hconf₁.other b hb, h.others₁ b hb]
  · intro b hb
    rw [hconf₂.other b hb, h.others₂ b hb]

/-- A statement whose text names the account. -/
lemma respects_sql {q : Statement β} (ho : ∀ db, q.Owned accountId db) :
    postgres.Respects (Isolated accountId base₁ base₂) (sql q) :=
  fun db₁ db₂ h => h.sql (ho db₁) (ho db₂)

/-! ### Transactions -/

lemma respects_lockAccount :
    postgres.Respects (Isolated accountId base₁ base₂) (lockAccount accountId) :=
  .bind (respects_sql fun _ => rfl) fun _ => respects_required _ _

lemma respects_loadRiskConfig :
    postgres.Respects (Isolated accountId base₁ base₂) (loadRiskConfig accountId) :=
  .bind (respects_sql fun _ => rfl) fun _ => respects_required _ _

lemma respects_loadExchangeMode :
    postgres.Respects (Isolated accountId base₁ base₂) (loadExchangeMode accountId) :=
  .bind (respects_sql fun _ => rfl) fun _ => respects_pure _

lemma respects_loadSnapshot (account : AccountRow) (today : Date) :
    postgres.Respects (Isolated accountId base₁ base₂) (loadSnapshot accountId account today) :=
  .bind (respects_sql fun _ => rfl) fun _ => .bind (respects_sql fun _ => rfl) fun _ =>
    .bind (respects_sql fun _ => rfl) fun _ => respects_pure _

lemma respects_hasOpenActivity :
    postgres.Respects (Isolated accountId base₁ base₂) (hasOpenActivity accountId) :=
  .bind (respects_sql fun _ => rfl) fun _ => .ite (respects_pure _) <|
    .bind (respects_sql fun _ => rfl) fun _ => respects_pure _

lemma respects_lockOrder (orderId : Uuid) :
    postgres.Respects (Isolated accountId base₁ base₂) (lockOrder accountId orderId) :=
  .bind (respects_sql fun _ => rfl) fun _ => respects_required _ _

/-- The row that is closed or rewritten by its identifier is the account's, as it was found by the
account's `SELECT`. -/
lemma respects_applyPositionDelta (symbol : String) (delta fillPrice : Decimal) :
    postgres.Respects (Isolated accountId base₁ base₂)
      (applyPositionDelta accountId symbol delta fillPrice) := by
  unfold applyPositionDelta
  have hselect : postgres.Respects (Isolated accountId base₁ base₂)
      (sql (.selectOpenPosition accountId symbol)) := respects_sql fun _ => rfl
  refine .ite (respects_pure ()) fun db₁ db₂ h => ?_
  refine (hselect h).bind fun row t₁ t₂ hrow₁ hrow₂ ht => ?_
  obtain ⟨hrow₁, rfl⟩ := commits_selectOpenPosition.mp hrow₁
  obtain ⟨hrow₂, rfl⟩ := commits_selectOpenPosition.mp hrow₂
  cases row with
  | none => exact ht.sql rfl rfl
  | some row =>
    have howned {db : Db} (hk : db.Keyed) (hhead : some row = (db.openOn accountId symbol).head?) :
        ∀ r ∈ db.positions, r.id = row.id → r.accountId = accountId := by
      intro r hr hid
      obtain ⟨hmem, hown⟩ := List.mem_filter.mp (List.mem_of_head? hhead.symm)
      rw [List.inj_on_of_nodup_map hk.positions hr hmem hid]
      exact of_decide_eq_true (Bool.and_eq_true_iff.mp (Bool.and_eq_true_iff.mp hown).1).1
    have hown₁ := howned ht.keyed₁ hrow₁
    have hown₂ := howned ht.keyed₂ hrow₂
    exact .ite (ht.sql hown₁ hown₂) (ht.sql hown₁ hown₂)

lemma respects_placeOrderTx (env : Surroundings) {orderId : Uuid} (body : PlaceOrderRequest)
    (h₁ : base₁.FreeFor accountId orderId) (h₂ : base₂.FreeFor accountId orderId) :
    postgres.Respects (Isolated accountId base₁ base₂)
      (placeOrderTx env accountId orderId body) := by
  refine .bind respects_lockAccount fun _ => .bind respects_loadRiskConfig fun _ =>
    .bind respects_loadExchangeMode fun _ => .bind (respects_loadSnapshot _ _) fun _ => ?_
  refine .ite (.bind (fun _ _ h => ?_) fun _ => ?_) ?_
  · exact h.sql ⟨rfl, h₁.congr h.others₁⟩ ⟨rfl, h₂.congr h.others₂⟩
  · exact .bind (respects_sql fun _ => rfl) fun _ => .bind (respects_sql fun _ => rfl) fun _ =>
      respects_pure _
  · exact .bind (respects_sql fun _ => rfl) fun _ => respects_pure _

lemma respects_evaluateTradeTx (env : Surroundings) (intent : TradeIntent) :
    postgres.Respects (Isolated accountId base₁ base₂)
      (evaluateTradeTx env accountId intent) := by
  refine .bind respects_lockAccount fun _ => .bind respects_loadRiskConfig fun _ =>
    .bind (respects_loadSnapshot _ _) fun _ => ?_
  have hevent (snapshot : AccountSnapshot) (decision : Decision) :
      postgres.Respects (Isolated accountId base₁ base₂) (do
        insertRiskEvent accountId "trade_evaluated" (evaluatedPayload intent decision snapshot)
        return decision) :=
    .bind (respects_sql fun _ => rfl) fun _ => respects_pure _
  refine .ite ?_ (hevent _ _)
  exact .bind (respects_sql fun _ => rfl) fun _ => .bind (respects_sql fun _ => rfl) fun _ =>
    hevent _ _

lemma respects_putEquityTx (equity : Decimal) :
    postgres.Respects (Isolated accountId base₁ base₂) (putEquityTx accountId equity) :=
  .bind respects_lockAccount fun _ => .bind (respects_sql fun _ => rfl) fun _ =>
    respects_sql fun _ => rfl

lemma respects_putRiskConfigTx (body : RiskConfigView) :
    postgres.Respects (Isolated accountId base₁ base₂) (putRiskConfigTx accountId body) := by
  refine .bind respects_loadRiskConfig fun _ => .ite (respects_done _) ?_
  refine .bind (respects_sql fun _ => rfl) fun _ => .ite (respects_done _) ?_
  exact .bind (respects_sql fun _ => rfl) fun _ => respects_pure _

lemma respects_insertGroupAssets {groupId : Uuid} (h₁ : base₁.FreeFor accountId groupId)
    (h₂ : base₂.FreeFor accountId groupId) (symbols : List String) :
    postgres.Respects (Isolated accountId base₁ base₂)
      (insertGroupAssets groupId accountId symbols) := by
  induction symbols with
  | nil => exact respects_pure ()
  | cons s symbols ih =>
    refine .bind (fun _ _ h => ?_) fun _ => ih
    exact h.sql ⟨rfl, h₁.congr h.others₁⟩ ⟨rfl, h₂.congr h.others₂⟩

lemma respects_insertGroups {groups : List (Uuid × CorrelationGroupDef)}
    (h₁ : ∀ g ∈ groups, base₁.FreeFor accountId g.1)
    (h₂ : ∀ g ∈ groups, base₂.FreeFor accountId g.1) :
    postgres.Respects (Isolated accountId base₁ base₂) (insertGroups accountId groups) := by
  induction groups with
  | nil => exact respects_pure ()
  | cons g groups ih =>
    obtain ⟨hg₁, hgroups₁⟩ := List.forall_mem_cons.mp h₁
    obtain ⟨hg₂, hgroups₂⟩ := List.forall_mem_cons.mp h₂
    refine .bind (fun _ _ h => ?_) fun _ => .bind (respects_insertGroupAssets hg₁ hg₂ _) fun _ =>
      ih hgroups₁ hgroups₂
    exact h.sql ⟨rfl, hg₁.congr h.others₁⟩ ⟨rfl, hg₂.congr h.others₂⟩

lemma respects_putCorrelationGroupsTx {groups : List (Uuid × CorrelationGroupDef)}
    (h₁ : ∀ g ∈ groups, base₁.FreeFor accountId g.1)
    (h₂ : ∀ g ∈ groups, base₂.FreeFor accountId g.1) :
    postgres.Respects (Isolated accountId base₁ base₂)
      (putCorrelationGroupsTx accountId groups) :=
  .bind respects_lockAccount fun _ => .bind (respects_sql fun _ => rfl) fun _ =>
    .bind (respects_insertGroups h₁ h₂) fun _ => respects_sql fun _ => rfl

lemma respects_engageKillSwitchTx :
    postgres.Respects (Isolated accountId base₁ base₂) (engageKillSwitchTx accountId) := by
  refine .bind respects_lockAccount fun _ => .ite ?_ (respects_pure _)
  exact .bind (respects_sql fun _ => rfl) fun _ => .bind (respects_sql fun _ => rfl) fun _ =>
    respects_pure _

lemma respects_releaseKillSwitchTx :
    postgres.Respects (Isolated accountId base₁ base₂) (releaseKillSwitchTx accountId) := by
  refine .bind respects_lockAccount fun _ => .ite ?_ (respects_pure _)
  exact .bind (respects_sql fun _ => rfl) fun _ => .bind (respects_sql fun _ => rfl) fun _ =>
    respects_pure _

lemma respects_encryptOptional (encrypt : String → Except ApiError (List UInt8))
    (text : Option String) :
    postgres.Respects (Isolated accountId base₁ base₂) (encryptOptional encrypt text) := by
  cases text with
  | none => exact respects_pure none
  | some s =>
    simp only [encryptOptional]
    cases encrypt s with
    | ok ct => exact respects_pure (some ct)
    | error e => exact respects_done _

lemma respects_guardExchangeConfig (body : PutExchangeConfig) (row : Option ExchangeConfigRecord) :
    postgres.Respects (Isolated accountId base₁ base₂)
      (guardExchangeConfig accountId body row) := by
  cases row with
  | none => exact respects_pure ()
  | some row =>
    refine .ite (respects_done _) (.ite ?_ ?_)
    · exact .bind respects_hasOpenActivity fun _ => .ite (respects_done _) (respects_pure ())
    · exact .bind (respects_pure false) fun _ => .ite (respects_done _) (respects_pure ())

lemma respects_writeExchangeConfig (body : PutExchangeConfig) (keyCt secretCt : Option (List UInt8))
    (newVersion currentVersion : ℤ) (row : Option ExchangeConfigRecord) :
    postgres.Respects (Isolated accountId base₁ base₂)
      (writeExchangeConfig accountId body keyCt secretCt newVersion currentVersion row) := by
  cases row with
  | none => exact respects_sql fun _ => rfl
  | some row => exact respects_sql fun _ => rfl

lemma respects_putExchangeConfigTx (encrypt : String → Except ApiError (List UInt8))
    (body : PutExchangeConfig) :
    postgres.Respects (Isolated accountId base₁ base₂)
      (putExchangeConfigTx encrypt accountId body) := by
  refine .bind respects_lockAccount fun _ => .bind (respects_sql fun _ => rfl) fun existing => ?_
  refine .bind (respects_guardExchangeConfig body existing) fun _ => ?_
  refine .bind (respects_encryptOptional encrypt _) fun keyCt => ?_
  refine .bind (respects_encryptOptional encrypt _) fun secretCt => ?_
  refine .bind (respects_writeExchangeConfig body keyCt secretCt _ _ existing) fun _ => ?_
  exact .bind (respects_sql fun _ => rfl) fun _ => respects_pure _

/-! ### The worker -/

lemma respects_hydrateSnapshotTx (orderId : Uuid) :
    postgres.Respects (Isolated accountId base₁ base₂) (hydrateSnapshotTx accountId orderId) :=
  .bind (.mapError (respects_lockOrder orderId)) fun _ =>
    .bind (.mapError (respects_sql fun _ => rfl)) fun _ => respects_pure _

lemma respects_insertFills (orderId : Uuid) (fills : List Fill) :
    postgres.Respects (Isolated accountId base₁ base₂) (insertFills accountId orderId fills) := by
  induction fills with
  | nil => exact respects_pure []
  | cons fill fills ih =>
    have hfill : postgres.Respects (Isolated accountId base₁ base₂)
        (insertFill accountId orderId fill) :=
      .bind (respects_sql fun _ => rfl) fun _ => respects_pure _
    exact .bind hfill.mapError fun _ => .bind ih fun _ => respects_pure _

lemma respects_applyPositionDeltas (fillPrice : Decimal) (deltas : List PositionDelta) :
    postgres.Respects (Isolated accountId base₁ base₂)
      (applyPositionDeltas accountId fillPrice deltas) := by
  induction deltas with
  | nil => exact respects_pure ()
  | cons delta deltas ih =>
    exact .bind (.mapError (respects_applyPositionDelta _ _ _)) fun _ => ih

lemma respects_insertRiskEvents (events : List RiskEvent) :
    postgres.Respects (Isolated accountId base₁ base₂) (insertRiskEvents accountId events) := by
  induction events with
  | nil => exact respects_pure ()
  | cons event events ih => exact .bind (.attempt (respects_sql fun _ => rfl)) fun _ => ih

lemma respects_persistReconcileResultTx (orderId : Uuid) (snapshot : ReconcileSnapshot)
    (result : ReconcileResult) :
    postgres.Respects (Isolated accountId base₁ base₂)
      (persistReconcileResultTx accountId orderId snapshot result) := by
  refine .bind (.mapError (respects_lockOrder orderId)) fun locked => .ite (respects_done _) ?_
  refine .bind (respects_insertFills orderId _) fun insertedFills => .ite (respects_done _) ?_
  refine .bind (respects_applyPositionDeltas _ _) fun _ => .bind ?_ fun _ =>
    respects_insertRiskEvents _
  cases result.newStatus with
  | none => exact respects_pure ()
  | some status => exact .ite (.mapError (respects_sql fun _ => rfl)) (respects_done _)

lemma respects_submitTx {cmd : ClaimedCommand} (orderId : Uuid) :
    postgres.Respects (Isolated cmd.accountId base₁ base₂) (submitTx cmd orderId) := by
  have hinsert : postgres.Respects (Isolated cmd.accountId base₁ base₂)
      (((insertExchangeCommand cmd.accountId .reconcileOrder cmd.exchangeMode
        (toString orderId ++ ":reconcile:initial") (orderPayload orderId)).mapError
          fun _ => .retry) : WorkerTx Unit) :=
    .mapError (respects_sql fun _ => rfl)
  refine .bind (.mapError (respects_lockOrder orderId)) fun locked => .ite ?_ hinsert
  exact .bind (.mapError (respects_sql fun _ => rfl)) fun _ => hinsert

lemma respects_cancelTx {cmd : ClaimedCommand} (orderId : Uuid) :
    postgres.Respects (Isolated cmd.accountId base₁ base₂) (cancelTx cmd orderId) := by
  have hinsert : postgres.Respects (Isolated cmd.accountId base₁ base₂)
      (((insertExchangeCommand cmd.accountId .reconcileOrder cmd.exchangeMode
        (toString orderId ++ ":reconcile:post-cancel") (orderPayload orderId)).mapError
          fun _ => .retry) : WorkerTx Unit) :=
    .mapError (respects_sql fun _ => rfl)
  refine .bind (.mapError (respects_lockOrder orderId)) fun locked => .ite ?_ hinsert
  exact .bind (.mapError (respects_sql fun _ => rfl)) fun _ =>
    .bind (.mapError (respects_sql fun _ => rfl)) fun _ => hinsert

/-! ### Calls -/

/-- A function that takes databases the account's calls cannot tell apart to such databases, with
the same result. -/
def Indifferent (accountId : Uuid) (base₁ base₂ : Db) (f : Db → α × Db) : Prop :=
  ∀ ⦃db₁ db₂⦄, Isolated accountId base₁ base₂ db₁ db₂ →
    (f db₁).1 = (f db₂).1 ∧ Isolated accountId base₁ base₂ (f db₁).2 (f db₂).2

lemma indifferent_atomically {ε : Type} {p : Program Statement SqlError ε α}
    (hp : postgres.Respects (Isolated accountId base₁ base₂) p) :
    Indifferent accountId base₁ base₂ (postgres.atomically p) :=
  fun _ _ h => (hp h).atomically h

end

/-- A call of the account, with its answer. Identifiers and ciphertexts that a handler draws, the
columns that the model's events lack, and the adapter that the worker has are part of the call. -/
inductive Call (accountId : Uuid) : Type → Type
  | evaluateTrade (env : Surroundings) (intent : TradeIntent) :
      Call accountId (Except ApiError Decision)
  | placeOrder (env : Surroundings) (orderId : Uuid) (body : PlaceOrderRequest) :
      Call accountId (Except ApiError OrderView)
  | putEquity (equity : Decimal) : Call accountId (Except ApiError Unit)
  | putRiskConfig (body : RiskConfigView) : Call accountId (Except ApiError RiskConfigView)
  | putCorrelationGroups (groups : List (Uuid × CorrelationGroupDef)) :
      Call accountId (Except ApiError Unit)
  | engageKillSwitch : Call accountId (Except ApiError AccountView)
  | releaseKillSwitch : Call accountId (Except ApiError AccountView)
  | putExchangeConfig (encrypt : String → Except ApiError (List UInt8)) (body : PutExchangeConfig) :
      Call accountId (Except ApiError ExchangeConfigView)
  | listRiskEvents (columns : ℕ → Uuid × Timestamp) (q : EventsQuery) :
      Call accountId (Except ApiError (List RiskEventView))
  | dispatch (cmd : ClaimedCommand) (adapter : ExchangeAdapter)
      (own : cmd.accountId = accountId) : Call accountId (Except DispatchOutcome Unit)

namespace Call

variable {accountId : Uuid} {α : Type}

def run : Call accountId α → Db → α × Db
  | .evaluateTrade env intent => Confluence.evaluateTrade env accountId intent
  | .placeOrder env orderId body => Confluence.placeOrder env accountId orderId body
  | .putEquity equity => Confluence.putEquity accountId equity
  | .putRiskConfig body => Confluence.putRiskConfig accountId body
  | .putCorrelationGroups groups => Confluence.putCorrelationGroups accountId groups
  | .engageKillSwitch => Confluence.engageKillSwitch accountId
  | .releaseKillSwitch => Confluence.releaseKillSwitch accountId
  | .putExchangeConfig encrypt body => Confluence.putExchangeConfig encrypt accountId body
  | .listRiskEvents columns q => Confluence.listRiskEvents columns accountId q
  | .dispatch cmd adapter _ => Confluence.dispatch cmd adapter

/-- The identifiers that the call draws. -/
def drawn : Call accountId α → List Uuid
  | .placeOrder _ orderId _ => [orderId]
  | .putCorrelationGroups groups => groups.map (·.1)
  | _ => []

end Call

section

variable {accountId : Uuid} {base₁ base₂ db₁ db₂ : Db} {α : Type}

lemma indifferent_placeOrder (env : Surroundings) {orderId : Uuid} (body : PlaceOrderRequest)
    (h₁ : base₁.FreeFor accountId orderId) (h₂ : base₂.FreeFor accountId orderId) :
    Indifferent accountId base₁ base₂ (placeOrder env accountId orderId body) := by
  intro db₁ db₂ h
  obtain ⟨hresult, hstores⟩ := indifferent_atomically (respects_placeOrderTx env body h₁ h₂) h
  unfold placeOrder
  cases validateRequest env body with
  | error e => exact ⟨rfl, h⟩
  | ok u =>
    rcases hs : postgres.atomically (placeOrderTx env accountId orderId body) db₁ with ⟨r₁, t₁⟩
    rcases ht : postgres.atomically (placeOrderTx env accountId orderId body) db₂ with ⟨r₂, t₂⟩
    rw [hs, ht] at hresult hstores
    obtain rfl : r₁ = r₂ := hresult
    rcases r₁ with e | ⟨_ | _⟩ <;> exact ⟨rfl, hstores⟩

/-- The worker's dispatch: hydrate, ask the venue, and write what follows from its answer. -/
lemma indifferent_dispatch {cmd : ClaimedCommand} (adapter : ExchangeAdapter)
    (own : cmd.accountId = accountId) :
    Indifferent accountId base₁ base₂ (dispatch cmd adapter) := by
  subst own
  intro db₁ db₂ h
  unfold dispatch
  cases extractOrderId cmd with
  | none => cases cmd.commandType <;> exact ⟨rfl, h⟩
  | some orderId =>
    obtain ⟨hresult, hstores⟩ := indifferent_atomically (respects_hydrateSnapshotTx orderId) h
    simp only
    rcases hs : postgres.atomically (hydrateSnapshotTx cmd.accountId orderId) db₁ with ⟨r₁, t₁⟩
    rcases ht : postgres.atomically (hydrateSnapshotTx cmd.accountId orderId) db₂ with ⟨r₂, t₂⟩
    rw [hs, ht] at hresult hstores
    obtain rfl : r₁ = r₂ := hresult
    rcases r₁ with e | snapshot
    · cases cmd.commandType with
      | unknown name => exact ⟨rfl, h⟩
      | submitOrder | reconcileOrder | cancelOrder => exact ⟨rfl, hstores⟩
    · cases cmd.commandType with
      | unknown name => exact ⟨rfl, h⟩
      | submitOrder =>
        simp only
        cases adapter.submit snapshot.order with
        | error e => exact ⟨rfl, hstores⟩
        | ok ack => exact indifferent_atomically (respects_submitTx orderId) hstores
      | reconcileOrder =>
        simp only
        cases adapter.reconcileOrder snapshot with
        | error e => exact ⟨rfl, hstores⟩
        | ok result =>
          exact indifferent_atomically
            (respects_persistReconcileResultTx orderId snapshot result) hstores
      | cancelOrder =>
        simp only
        cases adapter.cancel snapshot.order with
        | error e => exact ⟨rfl, hstores⟩
        | ok ack => exact indifferent_atomically (respects_cancelTx orderId) hstores

lemma Call.indifferent (call : Call accountId α) (h₁ : ∀ id ∈ call.drawn, base₁.FreeFor accountId id)
    (h₂ : ∀ id ∈ call.drawn, base₂.FreeFor accountId id) :
    Indifferent accountId base₁ base₂ call.run := by
  cases call with
  | evaluateTrade env intent =>
    intro db₁ db₂ h
    simp only [Call.run, Confluence.evaluateTrade]
    split_ifs
    · exact ⟨rfl, h⟩
    · exact ⟨rfl, h⟩
    · exact indifferent_atomically (respects_evaluateTradeTx env intent) h
  | placeOrder env orderId body =>
    exact indifferent_placeOrder env body (h₁ orderId (List.mem_singleton_self _))
      (h₂ orderId (List.mem_singleton_self _))
  | putEquity equity =>
    intro db₁ db₂ h
    simp only [Call.run, Confluence.putEquity]
    split_ifs
    · exact ⟨rfl, h⟩
    · exact indifferent_atomically (respects_putEquityTx equity) h
  | putRiskConfig body =>
    intro db₁ db₂ h
    simp only [Call.run, Confluence.putRiskConfig]
    cases validateRiskConfig body with
    | error e => exact ⟨rfl, h⟩
    | ok u => exact indifferent_atomically (respects_putRiskConfigTx body) h
  | putCorrelationGroups groups =>
    intro db₁ db₂ h
    simp only [Call.run, Confluence.putCorrelationGroups]
    cases checkGroups [] (groups.map (·.2)) with
    | error e => exact ⟨rfl, h⟩
    | ok u =>
      refine indifferent_atomically (respects_putCorrelationGroupsTx ?_ ?_) h
      · exact fun g hg => h₁ g.1 (List.mem_map_of_mem hg)
      · exact fun g hg => h₂ g.1 (List.mem_map_of_mem hg)
  | engageKillSwitch => exact indifferent_atomically respects_engageKillSwitchTx
  | releaseKillSwitch => exact indifferent_atomically respects_releaseKillSwitchTx
  | putExchangeConfig encrypt body =>
    intro db₁ db₂ h
    simp only [Call.run, Confluence.putExchangeConfig]
    split_ifs
    · exact ⟨rfl, h⟩
    · exact indifferent_atomically (respects_putExchangeConfigTx encrypt body) h
  | listRiskEvents columns q => exact indifferent_atomically (respects_sql fun _ => rfl)
  | dispatch cmd adapter own =>
    exact indifferent_dispatch adapter own

/-- A call of the account answers alike from databases that agree on the account's rows, leaves
them agreeing, and changes no row of any other account. -/
theorem call_isolated (call : Call accountId α) (hk₁ : db₁.Keyed) (hk₂ : db₂.Keyed)
    (hsame : SameFor accountId db₁ db₂) (hdrawn₁ : ∀ id ∈ call.drawn, db₁.FreeFor accountId id)
    (hdrawn₂ : ∀ id ∈ call.drawn, db₂.FreeFor accountId id) :
    (call.run db₁).1 = (call.run db₂).1 ∧
      (call.run db₁).2.rowsOf accountId = (call.run db₂).2.rowsOf accountId ∧
      (∀ b ≠ accountId, (call.run db₁).2.rowsOf b = db₁.rowsOf b) ∧
      ∀ b ≠ accountId, (call.run db₂).2.rowsOf b = db₂.rowsOf b := by
  have hstart : Isolated accountId db₁ db₂ db₁ db₂ :=
    ⟨hsame, hk₁, hk₂, fun _ _ => rfl, fun _ _ => rfl⟩
  obtain ⟨hresult, hstores⟩ := call.indifferent hdrawn₁ hdrawn₂ hstart
  exact ⟨hresult, hstores.same.rows, hstores.others₁, hstores.others₂⟩

end

/-- One account, with a group of symbols. -/
def oneTenant : Db :=
  { Db.empty with
    accounts := [⟨⟨1⟩, .active, 1000, none⟩]
    correlationGroups := [⟨⟨7⟩, ⟨1⟩, "majors"⟩]
    correlationGroupAssets := [⟨⟨7⟩, ⟨1⟩, "BTCUSDT"⟩] }

/-- Another account beside it, with a group of the same name. -/
def twoTenants : Db :=
  { oneTenant with
    accounts := [⟨⟨2⟩, .active, 50, none⟩, ⟨⟨1⟩, .active, 1000, none⟩]
    correlationGroups := [⟨⟨8⟩, ⟨2⟩, "majors"⟩, ⟨⟨7⟩, ⟨1⟩, "majors"⟩]
    correlationGroupAssets := [⟨⟨8⟩, ⟨2⟩, "BTCUSDT"⟩, ⟨⟨7⟩, ⟨1⟩, "BTCUSDT"⟩] }

/-- The first account moves its symbol to a new group. -/
def regroup : Call ⟨1⟩ (Except ApiError Unit) :=
  .putCorrelationGroups [(⟨9⟩, ⟨"coins", ["BTCUSDT"]⟩)]

theorem call_isolated_regroup :
    (regroup.run oneTenant).1 = (regroup.run twoTenants).1 ∧
      (regroup.run oneTenant).2.rowsOf ⟨1⟩ = (regroup.run twoTenants).2.rowsOf ⟨1⟩ ∧
      (∀ b ≠ ⟨1⟩, (regroup.run oneTenant).2.rowsOf b = oneTenant.rowsOf b) ∧
      ∀ b ≠ ⟨1⟩, (regroup.run twoTenants).2.rowsOf b = twoTenants.rowsOf b := by
  have hdrawn {db : Db} (hfree : db.FreeFor ⟨1⟩ ⟨9⟩) :
      ∀ id ∈ regroup.drawn, db.FreeFor ⟨1⟩ id := by
    intro id hid
    rw [List.mem_singleton.mp hid]
    exact hfree
  exact call_isolated regroup ⟨by decide, by decide, by decide⟩ ⟨by decide, by decide, by decide⟩
    ⟨rfl, rfl, rfl⟩ (hdrawn ⟨by decide, by decide⟩) (hdrawn ⟨by decide, by decide⟩)

end Confluence
