import Confluence.Library.Hoare
import Confluence.Server.Constraints
import Confluence.Server.Service
import Confluence.Server.Views

/-!
# Transactions of an account

What the transactions that `tenant_tx` opens for an account ask of the database: statements about rows
of the account, which write only once the account is found. Their triples follow the ways in which the
programs are composed.
-/

namespace Confluence

open Engine

/-- The statement writes. -/
def Statement.needsAccount {β : Type} : Statement β → Bool
  | .selectAccountForUpdate .. | .selectRiskConfig .. | .selectOpenPositions ..
  | .selectCorrelationGroups .. | .selectDailyPnl .. | .selectExchangeConfig .. | .countOpenOrders ..
  | .countOpenPositions .. | .selectOrderForUpdate .. | .selectFills .. | .selectOpenPosition ..
  | .selectRiskEvents .. => false
  | _ => true

/-- A statement about rows of the account, which is there when the statement needs it. -/
def Admitted (accountId : Uuid) ⦃β : Type⦄ (q : Statement β) (db : Db) : Prop :=
  q.Touches (fun a => a = accountId) db ∧ (q.needsAccount = true → db.HasAccount accountId)

/-- The constraints and the foreign keys. -/
structure Db.Sound (db : Db) : Prop where
  constrained : db.Constrained
  foreignKeys : db.ForeignKeys

def Db.SoundFor (accountId : Uuid) (db : Db) : Prop := db.Sound ∧ db.HasAccount accountId

/-- Started with the account there, the program asks admitted statements and keeps the keys. -/
def KeepsSound {ε α : Type} (accountId : Uuid) (p : Program Statement SqlError ε α) : Prop :=
  postgres.Triple (Admitted accountId) (Db.SoundFor accountId) p fun _ => Db.SoundFor accountId

/-! ### Statements -/

section

variable {accountId : Uuid} {db : Db} {β : Type}

lemma TableStep.keepsAccounts {own : Uuid → Prop} {db' : Db} (h : TableStep own db db')
    (ha : db.HasAccount accountId) : db'.HasAccount accountId := by
  cases h with
  | accountInserted => exact ha.append _
  | accountsUpdated _ _ hkey =>
    obtain ⟨r, hr, hid⟩ := ha
    refine ⟨_, mem_updateWhere.mpr ⟨r, hr, rfl⟩, ?_⟩
    split_ifs
    · rw [hkey, hid]
    · exact hid
  | _ => exact ha

lemma TableStep.sound {db' : Db} (h : TableStep db.HasAccount db db') (hs : db.Sound) : db'.Sound :=
  ⟨h.constrained hs.constrained, h.foreignKeys (fun _ ha => ha) hs.foreignKeys⟩

lemma Statement.Touches.mono {own own' : Uuid → Prop} {q : Statement β} (hq : q.Touches own db)
    (h : ∀ a, own a → own' a) : q.Touches own' db := by
  cases q with
  | closePosition | updatePosition | updateCommandStatus | requeueCommand =>
    exact fun r hr hid => h _ (hq r hr hid)
  | claimCommands => exact fun r hr => h _ (hq r hr)
  | _ => exact h _ hq

/-- An admitted statement changes rows of accounts that exist. -/
lemma Admitted.tableStep {q : Statement β} {b : β} {change : Db → Db} (hq : Admitted accountId q db)
    (h : q.exec db = .ok (b, change)) : TableStep db.HasAccount db (change db) := by
  cases hneeds : q.needsAccount with
  | true =>
    refine Statement.tableStep (hq.1.mono ?_) h
    rintro a rfl
    exact hq.2 hneeds
  | false =>
    cases q with
    | selectAccountForUpdate | selectRiskConfig | selectOpenPositions | selectCorrelationGroups
    | selectDailyPnl | selectExchangeConfig | countOpenOrders | countOpenPositions
    | selectOrderForUpdate | selectFills | selectOpenPosition | selectRiskEvents =>
      cases h
      exact .unchanged
    | _ => cases hneeds

lemma Admitted.sound {q : Statement β} {b : β} {change : Db → Db} (hq : Admitted accountId q db)
    (hs : db.Sound) (h : q.exec db = .ok (b, change)) : (change db).Sound :=
  (hq.tableStep h).sound hs

lemma Admitted.soundFor {q : Statement β} {b : β} {change : Db → Db} (hq : Admitted accountId q db)
    (hs : db.SoundFor accountId) (h : q.exec db = .ok (b, change)) :
    (change db).SoundFor accountId :=
  ⟨hq.sound hs.1 h, (hq.tableStep h).keepsAccounts hs.2⟩

/-! ### Composed programs -/

namespace KeepsSound

variable {ε ε' α : Type}

lemma pure (a : α) :
    KeepsSound accountId (Pure.pure a : Program Statement SqlError ε α) :=
  Triple.pure fun _ hs => hs

lemma fail (e : ε) : KeepsSound accountId (Program.fail e : Program Statement SqlError ε α) :=
  Triple.fail fun _ hs => hs

lemma required (e : ε) (x : Option α) :
    KeepsSound accountId (Program.required e x : Program Statement SqlError ε α) :=
  Triple.required (fun _ hs _ => hs) fun _ _ hs _ => hs

/-- A statement whose text names the account. -/
lemma sql {q : Statement β} (hq : ∀ db, q.Touches (fun a => a = accountId) db) :
    KeepsSound accountId (sql q) := by
  have hadmitted (db : Db) (hs : db.SoundFor accountId) : Admitted accountId q db :=
    ⟨hq db, fun _ => hs.2⟩
  exact Triple.ask hadmitted fun db b change hs h => (hadmitted db hs).soundFor hs h

lemma bind {p : Program Statement SqlError ε α} {f : α → Program Statement SqlError ε β}
    (hp : KeepsSound accountId p) (hf : ∀ a, KeepsSound accountId (f a)) :
    KeepsSound accountId (p >>= f) :=
  Triple.bind hp hf fun _ _ hs => hs

lemma mapError {p : Program Statement SqlError ε α} {f : ε → ε'} (hp : KeepsSound accountId p) :
    KeepsSound accountId (p.mapError f) :=
  Triple.mapError hp

lemma attempt {p : Program Statement SqlError ε α} (hp : KeepsSound accountId p) :
    KeepsSound accountId (p.attempt : Program Statement SqlError ε' (Except ε α)) :=
  Triple.attempt hp

lemma ite {c : Prop} [Decidable c] {p q : Program Statement SqlError ε α}
    (hp : KeepsSound accountId p) (hq : KeepsSound accountId q) :
    KeepsSound accountId (if c then p else q) :=
  Triple.ite (fun _ => hp) fun _ => hq

end KeepsSound

/-! ### Finding the account -/

/-- The program keeps the keys, and if it ends with a value, it has found the account. -/
def Locates {ε α : Type} (accountId : Uuid) (p : Program Statement SqlError ε α) : Prop :=
  postgres.Triple (Admitted accountId) Db.Sound p fun r db =>
    db.Sound ∧ (r.isOk = true → db.HasAccount accountId)

/-- The program asks admitted statements and keeps the keys, whether the account is there or not. -/
def KeepsKeysSound {ε α : Type} (accountId : Uuid) (p : Program Statement SqlError ε α) : Prop :=
  postgres.Triple (Admitted accountId) Db.Sound p fun _ => Db.Sound

section

variable {ε ε' α : Type}

lemma Locates.mapError {p : Program Statement SqlError ε α} {f : ε → ε'} (hp : Locates accountId p) :
    Locates accountId (p.mapError f) := by
  refine Triple.mapError (hp.mono (fun _ hs => hs) fun r db h => ⟨h.1, fun hok => h.2 ?_⟩)
  cases r with
  | ok a => rfl
  | error e => cases hok

lemma Locates.bind {p : Program Statement SqlError ε α} {f : α → Program Statement SqlError ε β}
    (hp : Locates accountId p) (hf : ∀ a, KeepsSound accountId (f a)) :
    KeepsKeysSound accountId (p >>= f) := by
  refine Triple.bind hp (fun a => (hf a).mono ?_ fun _ _ hs => hs.1) fun _ _ hs => hs.1
  intro db hs
  exact ⟨hs.1, hs.2 rfl⟩

/-- A row that the account must have. -/
lemma locates_required {ρ : Type} {q : Statement (Option ρ)} {e : ApiError}
    (hq : ∀ db, q.Touches (fun a => a = accountId) db) (hread : q.needsAccount = false)
    (hfound : ∀ db row change, db.Sound → q.exec db = .ok (some row, change) →
      change = id ∧ db.HasAccount accountId) :
    Locates accountId (do Program.required e (← Confluence.sql q)) := by
  have hadmitted (db : Db) : Admitted accountId q db := by
    refine ⟨hq db, fun hneeds => ?_⟩
    rw [hread] at hneeds
    cases hneeds
  refine Triple.bind (J := fun r db => db.Sound ∧ ∀ row, r = .ok (some row) →
    db.HasAccount accountId) ?_ (fun row => ?_) fun e db hs => ⟨hs.1, fun hok => by cases hok⟩
  · refine Triple.ask (fun db _ => hadmitted db) fun db b change hs h => ?_
    refine ⟨(hadmitted db).sound hs h, ?_⟩
    rintro row heq
    obtain rfl := Except.ok.inj heq
    obtain ⟨rfl, ha⟩ := hfound db row change hs h
    exact ha
  · refine Triple.required (fun db hs _ => ⟨hs.1, fun hok => by cases hok⟩) fun db a hs ha => ?_
    exact ⟨hs.1, fun _ => hs.2 a (congrArg Except.ok ha)⟩

lemma locates_lockAccount : Locates accountId (lockAccount accountId) := by
  refine locates_required (fun _ => rfl) rfl fun db row change _ h => ?_
  simp only [Statement.exec, Except.ok.injEq, Prod.mk.injEq, Option.map_eq_some_iff] at h
  obtain ⟨⟨r, hr, -⟩, rfl⟩ := h
  have hid := List.find?_some hr
  exact ⟨rfl, r, List.mem_of_find?_eq_some hr, of_decide_eq_true hid⟩

lemma locates_loadRiskConfig : Locates accountId (loadRiskConfig accountId) := by
  refine locates_required (fun _ => rfl) rfl fun db row change hs h => ?_
  simp only [Statement.exec, Except.ok.injEq, Prod.mk.injEq, Option.map_eq_some_iff] at h
  obtain ⟨⟨r, hr, -⟩, rfl⟩ := h
  have hacc := List.find?_some hr
  refine ⟨rfl, ?_⟩
  rw [← of_decide_eq_true hacc]
  exact hs.foreignKeys.riskConfigs r (List.mem_of_find?_eq_some hr)

lemma locates_lockOrder (orderId : Uuid) : Locates accountId (lockOrder accountId orderId) := by
  refine locates_required (fun _ => rfl) rfl fun db o change hs h => ?_
  simp only [Statement.exec, Except.ok.injEq, Prod.mk.injEq] at h
  obtain ⟨ho, rfl⟩ := h
  obtain ⟨hmem, -, hacc⟩ := Db.mem_of_order? ho
  refine ⟨rfl, ?_⟩
  rw [← hacc]
  exact hs.foreignKeys.orders o hmem

end

/-! ### The functions of the data layer -/

lemma keepsSound_lockAccount : KeepsSound accountId (lockAccount accountId) :=
  .bind (.sql fun _ => rfl) fun _ => .required _ _

lemma keepsSound_loadRiskConfig : KeepsSound accountId (loadRiskConfig accountId) :=
  .bind (.sql fun _ => rfl) fun _ => .required _ _

lemma keepsSound_loadExchangeMode : KeepsSound accountId (loadExchangeMode accountId) :=
  .bind (.sql fun _ => rfl) fun _ => .pure _

lemma keepsSound_loadSnapshot (account : AccountRow) (today : Date) :
    KeepsSound accountId (loadSnapshot accountId account today) :=
  .bind (.sql fun _ => rfl) fun _ => .bind (.sql fun _ => rfl) fun _ =>
    .bind (.sql fun _ => rfl) fun _ => .pure _

lemma keepsSound_hasOpenActivity : KeepsSound accountId (hasOpenActivity accountId) :=
  .bind (.sql fun _ => rfl) fun _ => .ite (.pure _) <| .bind (.sql fun _ => rfl) fun _ => .pure _

lemma keepsSound_lockOrder (orderId : Uuid) : KeepsSound accountId (lockOrder accountId orderId) :=
  .bind (.sql fun _ => rfl) fun _ => .required _ _

/-- The row that is closed or rewritten by its identifier was found by the account's `SELECT`. -/
lemma keepsSound_applyPositionDelta (symbol : String) (delta fillPrice : Decimal) :
    KeepsSound accountId (applyPositionDelta accountId symbol delta fillPrice) := by
  unfold applyPositionDelta
  refine .ite (.pure ()) ?_
  refine Triple.bind (J := fun r db => db.SoundFor accountId ∧
    ∀ row, r = .ok row → row = (db.openOn accountId symbol).head?) ?_ (fun row => ?_)
    fun _ _ hs => hs.1
  · refine Triple.ask (fun db hs => ⟨rfl, fun _ => hs.2⟩) fun db b change hs h => ?_
    cases h
    exact ⟨hs, fun row heq => (Except.ok.inj heq).symm⟩
  · cases row with
    | none => exact Triple.mono (KeepsSound.sql fun _ => rfl) (fun _ hs => hs.1) fun _ _ hs => hs
    | some row =>
      have hadmitted {β : Type} {q : Statement β} (hneeds : ∀ db : Db,
          q.Touches (fun a => a = accountId) db ↔
            ∀ r ∈ db.positions, r.id = row.id → r.accountId = accountId) :
          postgres.Triple (Admitted accountId) (fun db => db.SoundFor accountId ∧
            ∀ row', Except.ok (some row) = (.ok row' : Except ApiError _) →
              row' = (db.openOn accountId symbol).head?) (Confluence.sql q)
            fun _ => Db.SoundFor accountId := by
        have hown (db : Db) (hs : db.SoundFor accountId ∧ ∀ row',
            Except.ok (some row) = (.ok row' : Except ApiError _) →
              row' = (db.openOn accountId symbol).head?) : Admitted accountId q db := by
          refine ⟨(hneeds db).mpr fun r hr hid => ?_, fun _ => hs.1.2⟩
          obtain ⟨hmem, hrow⟩ := List.mem_filter.mp (List.mem_of_head? (hs.2 _ rfl).symm)
          rw [List.inj_on_of_nodup_map hs.1.1.constrained.positions.ids hr hmem hid]
          exact of_decide_eq_true (Bool.and_eq_true_iff.mp (Bool.and_eq_true_iff.mp hrow).1).1
        exact Triple.ask hown fun db b change hs h => (hown db hs).soundFor hs.1 h
      exact Triple.ite (fun _ => hadmitted fun _ => Iff.rfl) fun _ => hadmitted fun _ => Iff.rfl

/-! ### Routes -/

/-- A new account is not there yet when it is inserted. -/
lemma touches_createAccountTx (equity : Decimal) :
    postgres.Triple (fun _ q db => q.Touches (fun a => a = accountId) db) (fun _ => True)
      (createAccountTx accountId equity) fun _ _ => True := by
  have hsql {q : Statement Unit} (hq : ∀ db, q.Touches (fun a => a = accountId) db) :
      postgres.Triple (fun _ q db => q.Touches (fun a => a = accountId) db) (fun _ => True)
        (Confluence.sql q) fun _ _ => True :=
    Triple.ask (fun db _ => hq db) fun _ _ _ _ _ => trivial
  refine Triple.bind (hsql fun _ => rfl) (fun _ => ?_) fun _ _ _ => trivial
  refine Triple.bind (hsql fun _ => rfl) (fun _ => ?_) fun _ _ _ => trivial
  refine Triple.bind (hsql fun _ => rfl) (fun _ => ?_) fun _ _ _ => trivial
  exact Triple.pure fun _ _ => trivial

lemma keepsKeysSound_placeOrderTx (env : Surroundings) (orderId : Uuid) (body : PlaceOrderRequest) :
    KeepsKeysSound accountId (placeOrderTx env accountId orderId body) := by
  refine locates_lockAccount.bind fun _ => .bind keepsSound_loadRiskConfig fun _ =>
    .bind keepsSound_loadExchangeMode fun _ => .bind (keepsSound_loadSnapshot _ _) fun _ => ?_
  refine .ite (.bind (.sql fun _ => rfl) fun _ => ?_) ?_
  · exact .bind (.sql fun _ => rfl) fun _ => .bind (.sql fun _ => rfl) fun _ => .pure _
  · exact .bind (.sql fun _ => rfl) fun _ => .pure _

lemma keepsKeysSound_evaluateTradeTx (env : Surroundings) (intent : TradeIntent) :
    KeepsKeysSound accountId (evaluateTradeTx env accountId intent) := by
  refine locates_lockAccount.bind fun _ => .bind keepsSound_loadRiskConfig fun _ =>
    .bind (keepsSound_loadSnapshot _ _) fun _ => ?_
  have hevent (snapshot : AccountSnapshot) (decision : Decision) : KeepsSound accountId (do
      insertRiskEvent accountId "trade_evaluated" (evaluatedPayload intent decision snapshot)
      return decision) :=
    .bind (.sql fun _ => rfl) fun _ => .pure _
  refine .ite ?_ (hevent _ _)
  exact .bind (.sql fun _ => rfl) fun _ => .bind (.sql fun _ => rfl) fun _ => hevent _ _

lemma keepsKeysSound_putEquityTx (equity : Decimal) :
    KeepsKeysSound accountId (putEquityTx accountId equity) :=
  locates_lockAccount.bind fun _ => .bind (.sql fun _ => rfl) fun _ => .sql fun _ => rfl

lemma keepsKeysSound_putRiskConfigTx (body : RiskConfigView) :
    KeepsKeysSound accountId (putRiskConfigTx accountId body) := by
  refine locates_loadRiskConfig.bind fun _ => .ite (.fail _) ?_
  refine .bind (.sql fun _ => rfl) fun _ => .ite (.fail _) ?_
  exact .bind (.sql fun _ => rfl) fun _ => .pure _

lemma keepsSound_insertGroupAssets (groupId : Uuid) (symbols : List String) :
    KeepsSound accountId (insertGroupAssets groupId accountId symbols) := by
  induction symbols with
  | nil => exact .pure ()
  | cons s symbols ih => exact .bind (.sql fun _ => rfl) fun _ => ih

lemma keepsSound_insertGroups (groups : List (Uuid × CorrelationGroupDef)) :
    KeepsSound accountId (insertGroups accountId groups) := by
  induction groups with
  | nil => exact .pure ()
  | cons g groups ih =>
    exact .bind (.sql fun _ => rfl) fun _ => .bind (keepsSound_insertGroupAssets _ _) fun _ => ih

lemma keepsKeysSound_putCorrelationGroupsTx (groups : List (Uuid × CorrelationGroupDef)) :
    KeepsKeysSound accountId (putCorrelationGroupsTx accountId groups) :=
  locates_lockAccount.bind fun _ => .bind (.sql fun _ => rfl) fun _ =>
    .bind (keepsSound_insertGroups _) fun _ => .sql fun _ => rfl

lemma keepsKeysSound_engageKillSwitchTx :
    KeepsKeysSound accountId (engageKillSwitchTx accountId) := by
  refine locates_lockAccount.bind fun _ => .ite ?_ (.pure _)
  exact .bind (.sql fun _ => rfl) fun _ => .bind (.sql fun _ => rfl) fun _ => .pure _

lemma keepsKeysSound_releaseKillSwitchTx :
    KeepsKeysSound accountId (releaseKillSwitchTx accountId) := by
  refine locates_lockAccount.bind fun _ => .ite ?_ (.pure _)
  exact .bind (.sql fun _ => rfl) fun _ => .bind (.sql fun _ => rfl) fun _ => .pure _

lemma keepsSound_encryptOptional (encrypt : String → Except ApiError (List UInt8))
    (s : Option String) : KeepsSound accountId (encryptOptional encrypt s) := by
  cases s with
  | none => exact .pure _
  | some s =>
    rw [encryptOptional]
    cases encrypt s with
    | ok ct => exact .pure _
    | error e => exact .fail _

lemma keepsSound_guardExchangeConfig (body : PutExchangeConfig)
    (existing : Option ExchangeConfigRecord) :
    KeepsSound accountId (guardExchangeConfig accountId body existing) := by
  cases existing with
  | none => exact .pure _
  | some row =>
    refine .ite (.fail _) (.ite ?_ ?_)
    · exact .bind keepsSound_hasOpenActivity fun _ => .ite (.fail _) (.pure _)
    · exact .bind (.pure _) fun _ => .ite (.fail _) (.pure _)

lemma keepsSound_writeExchangeConfig (body : PutExchangeConfig) (keyCt secretCt : Option (List UInt8))
    (newVersion currentVersion : ℤ) (existing : Option ExchangeConfigRecord) :
    KeepsSound accountId (writeExchangeConfig accountId body keyCt secretCt newVersion currentVersion
      existing) := by
  cases existing with
  | none => exact .sql fun _ => rfl
  | some row => exact .sql fun _ => rfl

lemma keepsKeysSound_putExchangeConfigTx (encrypt : String → Except ApiError (List UInt8))
    (body : PutExchangeConfig) : KeepsKeysSound accountId (putExchangeConfigTx encrypt accountId body) :=
  locates_lockAccount.bind fun _ => .bind (.sql fun _ => rfl) fun _ =>
    .bind (keepsSound_guardExchangeConfig _ _) fun _ =>
    .bind (keepsSound_encryptOptional _ _) fun _ => .bind (keepsSound_encryptOptional _ _) fun _ =>
    .bind (keepsSound_writeExchangeConfig _ _ _ _ _ _) fun _ => .bind (.sql fun _ => rfl) fun _ =>
    .pure _

lemma keepsKeysSound_getRiskConfigTx : KeepsKeysSound accountId (getRiskConfigTx accountId) :=
  locates_loadRiskConfig.bind fun _ => .pure _

/-- One statement that only reads rows of the account. -/
lemma keepsKeysSound_read {q : Statement β} (hq : ∀ db, q.Touches (fun a => a = accountId) db)
    (hread : q.needsAccount = false) : KeepsKeysSound accountId (Confluence.sql q) := by
  have hadmitted (db : Db) : Admitted accountId q db := by
    refine ⟨hq db, fun hneeds => ?_⟩
    rw [hread] at hneeds
    cases hneeds
  exact Triple.ask (fun db _ => hadmitted db) fun db b change hs h => (hadmitted db).sound hs h

/-- A view of one row. -/
lemma keepsKeysSound_view {ρ α : Type} {q : Statement (Option ρ)}
    (hq : ∀ db, q.Touches (fun a => a = accountId) db) (hread : q.needsAccount = false)
    (view : ρ → α) :
    KeepsKeysSound accountId (do
      let row ← Program.required ApiError.notFound (← Confluence.sql q)
      return view row) := by
  refine Triple.bind (keepsKeysSound_read hq hread) (fun row => ?_) fun _ _ hs => hs
  refine Triple.bind (J := fun _ => Db.Sound) ?_ (fun row => ?_) fun _ _ hs => hs
  · exact Triple.required (fun _ hs _ => hs) fun _ _ hs _ => hs
  · exact Triple.pure fun _ hs => hs

lemma keepsKeysSound_getAccountTx : KeepsKeysSound accountId (getAccountTx accountId) :=
  keepsKeysSound_view (q := .selectAccountForUpdate accountId) (fun _ => rfl) rfl _

lemma keepsKeysSound_getExchangeConfigTx :
    KeepsKeysSound accountId (getExchangeConfigTx accountId) :=
  keepsKeysSound_view (q := .selectExchangeConfig accountId) (fun _ => rfl) rfl _

/-! ### Transactions of the worker -/

lemma keepsKeysSound_hydrateSnapshotTx (orderId : Uuid) :
    KeepsKeysSound accountId (hydrateSnapshotTx accountId orderId) :=
  (locates_lockOrder orderId).mapError.bind fun _ =>
    .bind (.mapError (.sql fun _ => rfl)) fun _ => .pure _

lemma keepsSound_insertFills (orderId : Uuid) (fills : List Fill) :
    KeepsSound accountId (insertFills accountId orderId fills) := by
  induction fills with
  | nil => exact .pure _
  | cons fill fills ih =>
    refine .bind (.mapError (.bind (.sql fun _ => rfl) fun _ => .pure _)) fun _ => ?_
    exact .bind ih fun _ => .pure _

lemma keepsSound_applyPositionDeltas (fillPrice : Decimal) (deltas : List PositionDelta) :
    KeepsSound accountId (applyPositionDeltas accountId fillPrice deltas) := by
  induction deltas with
  | nil => exact .pure _
  | cons delta deltas ih =>
    exact .bind (.mapError (keepsSound_applyPositionDelta _ _ _)) fun _ => ih

lemma keepsSound_insertRiskEvents (events : List RiskEvent) :
    KeepsSound accountId (insertRiskEvents accountId events) := by
  induction events with
  | nil => exact .pure _
  | cons event events ih => exact .bind (.attempt (.sql fun _ => rfl)) fun _ => ih

lemma keepsSound_persistStatus (orderId : Uuid) (locked : OrderRecord) (insertedFills : List Fill)
    (newStatus : Option OrderStatus) :
    KeepsSound accountId (persistStatus accountId orderId locked insertedFills newStatus) := by
  cases newStatus with
  | none => exact .pure _
  | some status => exact .ite (.mapError (.sql fun _ => rfl)) (.fail _)

lemma keepsKeysSound_persistReconcileResultTx (orderId : Uuid) (snapshot : ReconcileSnapshot)
    (result : ReconcileResult) :
    KeepsKeysSound accountId (persistReconcileResultTx accountId orderId snapshot result) := by
  refine (locates_lockOrder orderId).mapError.bind fun _ => .ite (.fail _) ?_
  refine .bind (keepsSound_insertFills _ _) fun _ => .ite (.fail _) ?_
  exact .bind (keepsSound_applyPositionDeltas _ _) fun _ =>
    .bind (keepsSound_persistStatus _ _ _ _) fun _ => keepsSound_insertRiskEvents _

lemma keepsKeysSound_submitTx {cmd : ClaimedCommand} (orderId : Uuid) :
    KeepsKeysSound cmd.accountId (submitTx cmd orderId) := by
  refine (locates_lockOrder orderId).mapError.bind fun _ => .ite ?_ (.mapError (.sql fun _ => rfl))
  exact .bind (.mapError (.sql fun _ => rfl)) fun _ => .mapError (.sql fun _ => rfl)

lemma keepsKeysSound_cancelTx {cmd : ClaimedCommand} (orderId : Uuid) :
    KeepsKeysSound cmd.accountId (cancelTx cmd orderId) := by
  refine (locates_lockOrder orderId).mapError.bind fun _ => .ite ?_ (.mapError (.sql fun _ => rfl))
  exact .bind (.mapError (.sql fun _ => rfl)) fun _ => .bind (.mapError (.sql fun _ => rfl)) fun _ =>
    .mapError (.sql fun _ => rfl)

/-- The account of a claimed command is there, whether the order is or not. -/
lemma keepsSound_rejectOrderTx {cmd : ClaimedCommand} (orderId : Uuid) :
    KeepsSound cmd.accountId (rejectOrderTx cmd orderId) := by
  refine .bind (.attempt (keepsSound_lockOrder orderId)) fun locked => ?_
  have hevent : KeepsSound cmd.accountId (do
      let _ ← (insertRiskEvent cmd.accountId "order_rejected"
        [("command_id", .commandId cmd.id), ("order_id", .uuid orderId)]).attempt
      pure () : WorkerTx Unit) :=
    .bind (.attempt (.sql fun _ => rfl)) fun _ => .pure _
  cases locked with
  | error e => exact hevent
  | ok o => exact .ite (.bind (.attempt (.sql fun _ => rfl)) fun _ => hevent) hevent

lemma keepsSound_reconciliationRequiredTx {cmd : ClaimedCommand} (reason : Option String) :
    KeepsSound cmd.accountId (reconciliationRequiredTx cmd reason) :=
  .bind (.attempt (.sql fun _ => rfl)) fun _ => .pure _

end

end Confluence
