import Confluence.Server.Ledger

/-!
# The audit log

The changes of the state that have events of their own, and what it means that the events of a
transaction agree with its changes: what changes is reported, and what is reported changes.
-/

namespace Confluence

inductive AuditedChange
  | placed (orderId : Uuid)
  | moved (orderId : Uuid) (status : OrderStatus)
  | equity
  | killSwitch (engaged : Bool)
  | exchangeMode
  | credentials
deriving DecidableEq

namespace AuditedChange

/-- There is an event for the change; submissions have none. -/
def isAudited : AuditedChange → Bool
  | moved _ .pending | moved _ .submitted => false
  | _ => true

end AuditedChange

/-- The order that an event names. -/
def RiskEventRecord.orderId (e : RiskEventRecord) : Option Uuid :=
  match e.payload.lookup "order_id" with
  | some (.uuid orderId) => some orderId
  | _ => none

/-- The change that an event reports. An event about an order reports nothing if it names none. -/
def RiskEventRecord.change? (e : RiskEventRecord) : Option AuditedChange :=
  match e.eventType with
  | "order_placed" => e.orderId.map .placed
  | "order_partially_filled" => e.orderId.map (.moved · .partiallyFilled)
  | "order_filled" => e.orderId.map (.moved · .filled)
  | "order_cancel_requested" => e.orderId.map (.moved · .cancelRequested)
  | "order_cancelled" => e.orderId.map (.moved · .cancelled)
  | "order_rejected" => e.orderId.map (.moved · .rejected)
  | "equity_changed" => some .equity
  | "kill_switch_engaged" => some (.killSwitch true)
  | "kill_switch_released" => some (.killSwitch false)
  | "exchange_mode_switched" => some .exchangeMode
  | "exchange_credentials_rotated" => some .credentials
  | _ => none

namespace Db

def apiKey (db : Db) (accountId : Uuid) : Option (List UInt8) :=
  (db.configRow accountId).bind (·.apiKeyCiphertext)

def apiSecret (db : Db) (accountId : Uuid) : Option (List UInt8) :=
  (db.configRow accountId).bind (·.apiSecretCiphertext)

/-- From `db` to `db'`, the change is made to the account. Without a row of configuration, it has
neither a mode nor credentials. -/
def Makes (db db' : Db) (accountId : Uuid) : AuditedChange → Prop
  | .placed orderId => db.order? accountId orderId = none ∧ (db'.order? accountId orderId).isSome
  | .moved orderId status => ∃ o o', db.order? accountId orderId = some o ∧
    db'.order? accountId orderId = some o' ∧ o' ≠ o ∧ o'.status = status
  | .equity => ∃ r r', db.accountRow accountId = some r ∧ db'.accountRow accountId = some r' ∧
    r'.equity ≠ r.equity
  | .killSwitch engaged => ∃ r r', db.accountRow accountId = some r ∧
    db'.accountRow accountId = some r' ∧ r.killSwitchEngaged ≠ engaged ∧
    r'.killSwitchEngaged = engaged
  | .exchangeMode =>
    (db'.configRow accountId).map (·.mode) ≠ (db.configRow accountId).map (·.mode)
  | .credentials =>
    db'.apiKey accountId ≠ db.apiKey accountId ∨ db'.apiSecret accountId ≠ db.apiSecret accountId

/-- The events report every audited change from `db` to `db'`, and no other. Equity may be set to
what it is. -/
structure AuditedBy (db : Db) (events : List RiskEventRecord) (db' : Db) : Prop where
  reported : ∀ {accountId c}, db.Makes db' accountId c → c.isAudited = true →
    ∃ e ∈ events, e.accountId = accountId ∧ e.change? = some c
  made : ∀ e ∈ events, ∀ c ∈ e.change?, c ≠ .equity → db.Makes db' e.accountId c

/-- The events that are added from `db` to `db'` agree with the changes. -/
def AuditAgrees (db db' : Db) : Prop :=
  ∃ events, db'.riskEvents = db.riskEvents ++ events ∧ db.AuditedBy events db'

end Db

inductive AuditedTable
  | orders
  | accounts
  | configs

def AuditedChange.table : AuditedChange → AuditedTable
  | placed _ | moved _ _ => .orders
  | equity | killSwitch _ => .accounts
  | exchangeMode | credentials => .configs

/-- The rows of the table are as they were; accounts may have been created. -/
def AuditedTable.Kept (db db' : Db) : AuditedTable → Prop
  | orders => ∀ a i, db'.order? a i = db.order? a i
  | accounts => ∀ a r, db.accountRow a = some r → db'.accountRow a = some r
  | configs => ∀ a, db'.configRow a = db.configRow a

section

variable {db db' db₁ : Db} {accountId orderId : Uuid} {c : AuditedChange} {e : RiskEventRecord}
  {events : List RiskEventRecord}

/-! ### Agreement -/

lemma Db.Makes.not_kept (h : db.Makes db' accountId c) : ¬ c.table.Kept db db' := by
  intro hkept
  cases c with
  | placed orderId =>
    obtain ⟨hnone, hsome⟩ := h
    rw [hkept, hnone] at hsome
    cases hsome
  | moved orderId status =>
    obtain ⟨o, o', ho, ho', hne, -⟩ := h
    rw [hkept, ho] at ho'
    exact hne (Option.some.inj ho').symm
  | equity =>
    obtain ⟨r, r', hr, hr', hne⟩ := h
    rw [hkept _ _ hr] at hr'
    exact hne (congrArg _ (Option.some.inj hr').symm)
  | killSwitch engaged =>
    obtain ⟨r, r', hr, hr', hne, heq⟩ := h
    rw [hkept _ _ hr] at hr'
    obtain rfl := Option.some.inj hr'
    exact hne heq
  | exchangeMode => exact h (by rw [hkept])
  | credentials =>
    have hkey : db'.apiKey accountId = db.apiKey accountId := by rw [apiKey, apiKey, hkept]
    have hsecret : db'.apiSecret accountId = db.apiSecret accountId := by
      rw [apiSecret, apiSecret, hkept]
    exact h.elim (· hkey) (· hsecret)

lemma Db.auditAgrees_iff (h : db'.riskEvents = db.riskEvents ++ events) :
    db.AuditAgrees db' ↔ db.AuditedBy events db' := by
  constructor
  · rintro ⟨events', happend, haudited⟩
    obtain rfl := List.append_cancel_left (h.symm.trans happend)
    exact haudited
  · exact fun haudited => ⟨events, h, haudited⟩

lemma AuditedTable.kept_of_eq (horders : db'.orders = db.orders) (haccounts : db'.accounts = db.accounts)
    (hconfigs : db'.exchangeConfigs = db.exchangeConfigs) (t : AuditedTable) : t.Kept db db' := by
  cases t with
  | orders => exact fun a i => by rw [Db.order?, Db.order?, horders]
  | accounts => exact fun a r h => by rwa [Db.accountRow, haccounts]
  | configs => exact fun a => by rw [Db.configRow, Db.configRow, hconfigs]

lemma AuditedTable.kept_withEvents (db : Db) (events : List RiskEventRecord) (t : AuditedTable) :
    t.Kept db (db.withEvents events) :=
  kept_of_eq rfl rfl rfl t

/-- Events that report nothing go with changes that need no report. -/
lemma Db.AuditedBy.quiet (hquiet : ∀ e ∈ events, e.change? = none)
    (hsame : ∀ a c, db.Makes db' a c → c.isAudited = false) : db.AuditedBy events db' where
  reported hmakes haudited := by
    rw [hsame _ _ hmakes] at haudited
    cases haudited
  made e he c hc := by
    rw [hquiet e he] at hc
    cases hc

/-- One event goes with the one change that it reports. -/
lemma Db.AuditedBy.single (he : e.change? = some c) (hmade : c ≠ .equity → db.Makes db' e.accountId c)
    (honly : ∀ a c', db.Makes db' a c' → c'.isAudited = true → a = e.accountId ∧ c' = c) :
    db.AuditedBy [e] db' where
  reported hmakes haudited := by
    obtain ⟨rfl, rfl⟩ := honly _ _ hmakes haudited
    exact ⟨e, List.mem_singleton_self e, rfl, he⟩
  made e' he' c' hc' hne := by
    rw [List.mem_singleton.mp he'] at hc' ⊢
    obtain rfl := Option.some.inj (he.symm.trans hc')
    exact hmade hne

/-- A transaction that leaves the audited tables alone, with events that report nothing. -/
lemma Db.AuditAgrees.of_kept (hevents : db'.riskEvents = db.riskEvents ++ events)
    (hquiet : ∀ e ∈ events, e.change? = none) (hkept : ∀ t, AuditedTable.Kept db db' t) :
    db.AuditAgrees db' :=
  ⟨events, hevents, .quiet hquiet fun _ _ hmakes => (hmakes.not_kept (hkept _)).elim⟩

lemma Db.AuditAgrees.of_event (hevents : db'.riskEvents = db.riskEvents ++ [e])
    (hquiet : e.change? = none) (hkept : ∀ t, AuditedTable.Kept db db' t) : db.AuditAgrees db' :=
  .of_kept hevents (by simpa using hquiet) hkept

lemma Db.AuditAgrees.of_unchanged (hevents : db'.riskEvents = db.riskEvents)
    (hkept : ∀ t, AuditedTable.Kept db db' t) : db.AuditAgrees db' := by
  have hnone : db'.riskEvents = db.riskEvents ++ [] := by rw [hevents, List.append_nil]
  exact .of_kept hnone (by simp) hkept

lemma Db.AuditAgrees.refl (db : Db) : db.AuditAgrees db :=
  .of_unchanged rfl (AuditedTable.kept_of_eq rfl rfl rfl)

/-- A transaction leaves everything as it was, or commits. -/
lemma Db.AuditAgrees.atomically {ε α : Type} {p : Program Statement SqlError ε α}
    (h : ∀ a db', postgres.Commits p db a db' → db.AuditAgrees db') :
    db.AuditAgrees (postgres.atomically p db).2 := by
  rcases Engine.atomically_cases postgres p db with hsame | ⟨a, -, hcommit⟩
  · rw [hsame]
    exact .refl db
  · exact h a _ hcommit

/-! ### Orders -/

section

variable {o : OrderRecord} {status : OrderStatus} {q : Decimal}
  (ho : db.order? o.accountId o.id = some o)
  (horders : ∀ a i, db'.order? a i = (db.withStatus o.accountId o.id status q).order? a i)

include ho horders

lemma Db.makes_moved (hne : o.status ≠ status) : db.Makes db' o.accountId (.moved o.id status) := by
  refine ⟨o, { o with status, filledQuantity := q }, ho, ?_, fun h => hne ?_, rfl⟩
  · rw [horders, order?_withStatus_self ho]
  · exact (congrArg OrderRecord.status h).symm

/-- Nothing but the order has changed. -/
lemma Db.Makes.of_moved (haccounts : AuditedTable.Kept db db' .accounts)
    (hconfigs : AuditedTable.Kept db db' .configs) (h : db.Makes db' accountId c) :
    accountId = o.accountId ∧ c = .moved o.id status := by
  have hother : ∀ i, db'.order? accountId i ≠ db.order? accountId i →
      o.id = i ∧ accountId = o.accountId := by
    intro i hchanged
    by_contra hne
    exact hchanged (by rw [horders, order?_withStatus_of_ne hne])
  cases c with
  | placed orderId =>
    obtain ⟨hnone, hsome⟩ := h
    rw [horders, order?_withStatus, hnone] at hsome
    cases hsome
  | moved orderId status' =>
    obtain ⟨o₁, o', ho₁, ho', hne, rfl⟩ := h
    obtain ⟨rfl, rfl⟩ := hother orderId fun hsame =>
      hne (Option.some.inj (ho'.symm.trans (hsame.trans ho₁)))
    rw [horders, order?_withStatus_self ho] at ho'
    obtain rfl := Option.some.inj ho'
    exact ⟨rfl, rfl⟩
  | equity => exact (h.not_kept haccounts).elim
  | killSwitch => exact (h.not_kept haccounts).elim
  | exchangeMode => exact (h.not_kept hconfigs).elim
  | credentials => exact (h.not_kept hconfigs).elim

end

lemma OrderStateMachine.ne_of_legal {source target : OrderStatus}
    (h : legal source target = true) (htarget : target ≠ .partiallyFilled) : source ≠ target := by
  rintro rfl
  cases source with
  | partiallyFilled => exact htarget rfl
  | _ => cases h

/-- A submission is not audited. -/
lemma auditAgrees_submitTx {cmd : ClaimedCommand} {u : Unit}
    (h : postgres.Commits (submitTx cmd orderId) db u db') : db.AuditAgrees db' := by
  obtain ⟨o, db₁, ho, hmove, rfl⟩ := of_commits_submitTx h
  obtain ⟨-, rfl, hacc⟩ := Db.mem_of_order? ho
  rw [← hacc] at ho
  refine ⟨[], ?_, .quiet (by simp) fun a c hmakes => ?_⟩
  · obtain ⟨orders, rfl⟩ := hmove.frame
    simp [Db.withCommand]
  · unfold Db.MovedIfLegal at hmove
    split_ifs at hmove with hlegal
    · obtain ⟨q, -, -, -, rfl⟩ := hmove
      obtain ⟨-, rfl⟩ := hmakes.of_moved ho (fun _ _ => rfl) (fun _ _ h => h) fun _ => rfl
      rfl
    · subst hmove
      exact (hmakes.not_kept (AuditedTable.kept_of_eq rfl rfl rfl _)).elim

/-- The request for a cancellation is reported when it is legal. -/
lemma auditAgrees_cancelTx {cmd : ClaimedCommand} {u : Unit}
    (h : postgres.Commits (cancelTx cmd orderId) db u db') : db.AuditAgrees db' := by
  obtain ⟨o, db₁, ho, hmove, rfl⟩ := of_commits_cancelTx h
  obtain ⟨-, rfl, hacc⟩ := Db.mem_of_order? ho
  rw [← hacc] at ho ⊢
  unfold Db.MovedIfLegal at hmove
  split_ifs at hmove with hlegal
  · obtain ⟨q, -, -, -, rfl⟩ := hmove
    have horders (a i : Uuid) : Db.order? (((db.withStatus o.accountId o.id .cancelRequested
        q).withCommand o.accountId .reconcileOrder cmd.exchangeMode
          (toString o.id ++ ":reconcile:post-cancel") (orderPayload o.id)).withEvents
            [⟨o.accountId, "order_cancel_requested",
              [("command_id", .commandId cmd.id), ("order_id", .uuid o.id)]⟩]) a i =
        (db.withStatus o.accountId o.id .cancelRequested q).order? a i := rfl
    rw [if_pos hlegal]
    refine ⟨_, rfl, .single (c := .moved o.id .cancelRequested) rfl (fun _ => ?_) fun a c hmakes _ => ?_⟩
    · exact Db.makes_moved ho horders (OrderStateMachine.ne_of_legal hlegal (by decide))
    · exact hmakes.of_moved ho horders (fun _ _ h => h) fun _ => rfl
  · rw [if_neg hlegal, hmove, Db.withEvents_nil]
    exact .of_unchanged rfl (AuditedTable.kept_of_eq rfl rfl rfl)

/-- An order that cannot be rejected, or is not there, gets its event all the same. -/
lemma commits_rejectOrderTx {cmd : ClaimedCommand}
    (h : ∀ o, db.order? cmd.accountId orderId = some o →
      OrderStateMachine.legal o.status .rejected = false) :
    postgres.Commits (rejectOrderTx cmd orderId) db () (db.withEvents [rejectedEvent cmd orderId]) := by
  have hevent : postgres.Commits (do
      let _ ← ((insertRiskEvent cmd.accountId "order_rejected"
        [("command_id", .commandId cmd.id), ("order_id", .uuid orderId)]).attempt :
          WorkerTx (Except ApiError Unit))
      pure ()) db () (db.withEvents [rejectedEvent cmd orderId]) := by
    rw [Engine.commits_bind]
    refine ⟨.ok (), _, Engine.commits_attempt_ask.mpr ⟨(), rfl, ?_⟩, Engine.commits_pure.mpr ⟨rfl, rfl⟩⟩
    exact commits_insertRiskEvent.mpr ⟨by decide, rfl⟩
  rw [rejectOrderTx, Engine.commits_bind]
  refine ⟨_, db, Engine.commits_attempt.mpr (run_lockOrder ..), ?_⟩
  cases ho : db.order? cmd.accountId orderId with
  | none => exact hevent
  | some o =>
    simp only [Option.elim, OrderStateMachine.transition_isOk, h o ho]
    exact hevent

/-- The event of a permanently rejected command is true only if the order can be rejected. -/
lemma auditAgrees_rejectOrderTx_iff (cmd : ClaimedCommand) (orderId : Uuid) (db : Db) :
    db.AuditAgrees (postgres.atomically (rejectOrderTx cmd orderId) db).2 ↔
      ∃ o, db.order? cmd.accountId orderId = some o ∧
        OrderStateMachine.legal o.status .rejected = true := by
  constructor
  · intro hagrees
    by_contra hnone
    have hcommit : postgres.Commits (rejectOrderTx cmd orderId) db () _ :=
      commits_rejectOrderTx fun o ho => Bool.eq_false_iff.mpr fun hlegal => hnone ⟨o, ho, hlegal⟩
    rw [Engine.atomically_of_commits hcommit, Db.auditAgrees_iff rfl] at hagrees
    have hmoved : db.Makes (db.withEvents [rejectedEvent cmd orderId]) cmd.accountId
        (.moved orderId .rejected) :=
      hagrees.made _ (List.mem_singleton_self _) _ rfl (by simp)
    exact hmoved.not_kept (AuditedTable.kept_withEvents ..)
  · rintro ⟨o, ho, hlegal⟩
    refine .atomically fun _ _ hcommit => ?_
    obtain ⟨db₁, rfl, ⟨hnone, -⟩ | ⟨o', ho', hmove⟩⟩ := of_commits_rejectOrderTx hcommit
    · rw [hnone] at ho
      cases ho
    · obtain rfl := Option.some.inj (ho.symm.trans ho')
      obtain ⟨-, rfl, hacc⟩ := Db.mem_of_order? ho
      rw [← hacc] at ho
      rw [Db.MovedIfLegal, if_pos hlegal] at hmove
      obtain ⟨q, -, -, -, rfl⟩ := hmove
      have horders (a i : Uuid) : Db.order? ((db.withStatus o.accountId o.id .rejected q).withEvents
          [rejectedEvent cmd o.id]) a i =
          (db.withStatus o.accountId o.id .rejected q).order? a i := rfl
      refine ⟨_, rfl, .single (c := .moved o.id .rejected) rfl (fun _ => ?_) fun a c hmakes _ => ?_⟩
      · rw [rejectedEvent, ← hacc]
        exact Db.makes_moved ho horders (OrderStateMachine.ne_of_legal hlegal (by decide))
      · rw [rejectedEvent, ← hacc]
        exact hmakes.of_moved ho horders (fun _ _ h => h) fun _ => rfl

/-- What the event of a reconciliation reports. -/
lemma RiskEventRecord.change?_reconciled {payload : Payload} {i : Uuid} (status : OrderStatus)
    (hpayload : payload.lookup "order_id" = some (.uuid i)) :
    RiskEventRecord.change? ⟨accountId, BinanceAdapter.eventTypeOf status, payload⟩ =
      if (AuditedChange.moved i status).isAudited = true ∧ status ≠ .cancelRequested then
        some (.moved i status) else none := by
  have horder (eventType : String) :
      RiskEventRecord.orderId ⟨accountId, eventType, payload⟩ = some i := by
    simp [RiskEventRecord.orderId, hpayload]
  cases status with
  | pending | submitted | cancelRequested => rfl
  | partiallyFilled | filled | cancelled | rejected =>
    simp [RiskEventRecord.change?, BinanceAdapter.eventTypeOf, horder, AuditedChange.isAudited]

/-- An order that moves with the event of a reconciliation. -/
lemma Db.auditAgrees_moved_iff {o : OrderRecord} {status : OrderStatus} {q : Decimal}
    {payload : Payload} (ho : db.order? o.accountId o.id = some o)
    (horders : ∀ a i, db'.order? a i = (db.withStatus o.accountId o.id status q).order? a i)
    (haccounts : AuditedTable.Kept db db' .accounts)
    (hconfigs : AuditedTable.Kept db db' .configs) (hne : o.status ≠ status)
    (hpayload : payload.lookup "order_id" = some (.uuid o.id))
    (hevents : db'.riskEvents =
      db.riskEvents ++ [⟨o.accountId, BinanceAdapter.eventTypeOf status, payload⟩]) :
    db.AuditAgrees db' ↔ status ≠ .cancelRequested := by
  have hmoved := Db.makes_moved ho horders hne
  have honly (a : Uuid) (c : AuditedChange) (h : db.Makes db' a c) :
      a = o.accountId ∧ c = .moved o.id status := h.of_moved ho horders haccounts hconfigs
  have hchange : RiskEventRecord.change? ⟨o.accountId, BinanceAdapter.eventTypeOf status, payload⟩ =
      _ := RiskEventRecord.change?_reconciled status hpayload
  rw [auditAgrees_iff hevents]
  constructor
  · rintro hagrees rfl
    obtain ⟨e, he, -, hreports⟩ := hagrees.reported hmoved rfl
    rw [List.mem_singleton.mp he, hchange] at hreports
    cases hreports
  · intro hstatus
    cases haudited : (AuditedChange.moved o.id status).isAudited with
    | true =>
      rw [if_pos ⟨haudited, hstatus⟩] at hchange
      exact .single hchange (fun _ => hmoved) fun a c h _ => honly a c h
    | false =>
      rw [if_neg (by simp [haudited])] at hchange
      refine .quiet (by simpa using hchange) fun a c h => ?_
      rw [(honly a c h).2, haudited]

/-- A reconciliation reports the new status, except for a cancellation that the venue has pending:
its event is not the one of requested cancellations. -/
lemma auditAgrees_persist_iff {snapshot : ReconcileSnapshot} {result : ReconcileResult} {u : Unit}
    (hresult : result.Announces snapshot) (horder : snapshot.order.orderId = orderId)
    (h : postgres.Commits (persistReconcileResultTx accountId orderId snapshot result) db u db') :
    db.AuditAgrees db' ↔ result.newStatus ≠ some .cancelRequested := by
  obtain ⟨o, insertedFills, _, _, db₁, ho, -, hsame, hfills, -, hdeltas, hstatus, hevents⟩ :=
    stages_of_commits_persistReconcileResultTx h
  obtain ⟨rows, rfl, -⟩ := of_commits_insertFills hfills
  obtain ⟨positions, rfl⟩ := of_commits_applyPositionDeltas hdeltas
  have hpersisted : Db.StatusPersisted { db with orderFills := db.orderFills ++ rows, positions } o
      insertedFills db₁ result.newStatus := of_commits_persistStatus ho hstatus
  obtain rfl := of_commits_insertRiskEvents hevents
  obtain ⟨-, rfl, rfl⟩ := Db.mem_of_order? ho
  rcases hresult with rfl | ⟨status, payload, hnew, hne, hevent, hpayload⟩
  · obtain rfl : db₁ = _ := hpersisted
    refine iff_of_true (.of_unchanged ?_ (AuditedTable.kept_of_eq rfl rfl rfl)) (by simp)
    simp [Db.withEvents]
  · rw [hnew] at hpersisted ⊢
    obtain ⟨hlegal, q, -, -, -, rfl⟩ := hpersisted
    rw [ne_eq, Option.some.injEq]
    rw [horder] at hpayload
    rw [← hsame] at hne
    have horders (a i : Uuid) : Db.order? ((Db.withStatus { db with
        orderFills := db.orderFills ++ rows, positions } o.accountId o.id status q).withEvents
          (result.events.map (·.record o.accountId))) a i =
        (db.withStatus o.accountId o.id status q).order? a i := rfl
    refine Db.auditAgrees_moved_iff ho horders (fun _ _ h => h) (fun _ => rfl) hne.symm hpayload ?_
    rw [hevent]
    rfl

/-! ### Requests -/

/-- A placed order is reported, a refused one names no order. -/
lemma auditAgrees_placeOrder (env : Surroundings) (accountId orderId : Uuid)
    (body : PlaceOrderRequest) (db : Db) :
    db.AuditAgrees (placeOrder env accountId orderId body db).2 := by
  cases hvalid : validateRequest env body with
  | error e =>
    rw [placeOrder, hvalid]
    exact .refl db
  | ok _ =>
    rw [placeOrder_db orderId db hvalid]
    refine .atomically fun decision db' h => ?_
    obtain ⟨account, cfg, -, -, -, ⟨-, rfl⟩ | ⟨-, q, p, -, -, -, hid, -, rfl⟩⟩ :=
      of_commits_placeOrderTx h
    · exact .of_event rfl rfl (AuditedTable.kept_withEvents db _)
    · set order := newOrder orderId accountId orderId.simple body.symbol body.side body.orderType
        q p (db.exchangeMode accountId) with horder
      have horders (a i : Uuid) : (db.placed env accountId orderId body q p).order? a i =
          Db.order? { db with orders := db.orders ++ [order] } a i := rfl
      refine ⟨_, rfl, .single (c := .placed orderId) rfl (fun _ => ⟨?_, ?_⟩) fun a c hmakes _ => ?_⟩
      · rw [Db.order?, List.find?_eq_none]
        intro r hr
        simp [hid r hr]
      · have hself : Db.order? { db with orders := db.orders ++ [order] } accountId orderId =
            some order := order?_append_self hid
        rw [horders, hself]
        rfl
      · cases c with
        | placed i =>
          obtain ⟨hnone, hsome⟩ := hmakes
          obtain ⟨r, hr⟩ := Option.isSome_iff_exists.mp hsome
          obtain ⟨hmem, rfl, rfl⟩ := Db.mem_of_order? hr
          rcases List.mem_append.mp hmem with hmem | hmem
          · have hfalse := List.find?_eq_none.mp hnone r hmem
            simp at hfalse
          · rw [List.mem_singleton.mp hmem]
            exact ⟨rfl, rfl⟩
        | moved i status =>
          obtain ⟨o, o', ho, ho', hne, -⟩ := hmakes
          rw [horders, order?_append ho] at ho'
          exact (hne (Option.some.inj ho').symm).elim
        | equity | killSwitch => exact (hmakes.not_kept fun _ _ h => h).elim
        | exchangeMode | credentials => exact (hmakes.not_kept fun _ => rfl).elim

lemma auditAgrees_evaluateTrade (env : Surroundings) (accountId : Uuid) (intent : TradeIntent)
    (db : Db) : db.AuditAgrees (evaluateTrade env accountId intent db).2 := by
  rcases evaluateTrade_cases env accountId intent db with hdb | ⟨account, cfg, -, -, hdb⟩
  · rw [hdb]
    exact .refl db
  · rw [hdb, Db.evaluatedTrade]
    obtain ⟨dailyPnl, htrip⟩ := db.trippedOn_frame accountId env.tripDay
    simp only [htrip]
    split_ifs
    · refine .of_kept (List.append_assoc ..) ?_ (AuditedTable.kept_of_eq rfl rfl rfl)
      intro e he
      rcases List.mem_append.mp he with he | he
      · rw [List.mem_singleton.mp he]
        rfl
      · rw [List.mem_singleton.mp he]
        rfl
    · exact .of_event rfl rfl (AuditedTable.kept_of_eq rfl rfl rfl)

/-- What `lock_account` reads of a row. -/
def AccountRecord.row (r : AccountRecord) : AccountRow :=
  ⟨r.status, r.equity, r.killSwitchEngagedAt.isSome⟩

section

variable {f : AccountRecord → AccountRecord} (hf : ∀ r, (f r).id = r.id) {row : AccountRow}

include hf

lemma accountRow_withAccount (a : Uuid) : (db.withAccount accountId f).accountRow a =
    (db.accounts.find? fun r => r.id = a).map fun r => (if r.id = accountId then f r else r).row := by
  rw [Db.accountRow, Db.withAccount, find?_updateWhere fun r => by rw [hf], Option.map_map]
  congr 1
  funext r
  by_cases hid : r.id = accountId <;> simp [hid, AccountRecord.row]

lemma accountRow_withAccount_self (h : db.accountRow accountId = some row) :
    ∃ r, row = r.row ∧ (db.withAccount accountId f).accountRow accountId = some (f r).row := by
  obtain ⟨r, hr, rfl⟩ := Option.map_eq_some_iff.mp h
  have hid : r.id = accountId := by simpa using List.find?_some hr
  refine ⟨r, rfl, ?_⟩
  rw [accountRow_withAccount hf, hr, Option.map_some, if_pos hid]

lemma accountRow_withAccount_of_ne {a : Uuid} (hne : a ≠ accountId) :
    (db.withAccount accountId f).accountRow a = db.accountRow a := by
  rw [accountRow_withAccount hf, Db.accountRow]
  cases hr : db.accounts.find? fun r => r.id = a with
  | none => rfl
  | some r =>
    have hid : r.id = a := by simpa using List.find?_some hr
    rw [Option.map_some, Option.map_some, if_neg (by rwa [hid])]
    rfl

lemma Db.makes_killSwitch {engaged : Bool} (hrow : db.accountRow accountId = some row)
    (hold : row.killSwitchEngaged ≠ engaged) (hnew : ∀ r, (f r).row.killSwitchEngaged = engaged) :
    db.Makes ((db.withAccount accountId f).withEvents events) accountId (.killSwitch engaged) := by
  obtain ⟨r, rfl, hself⟩ := accountRow_withAccount_self hf hrow
  exact ⟨_, _, hrow, hself, hold, hnew r⟩

/-- Only the account itself has changed, and only what the update writes. -/
lemma Db.Makes.of_withAccount (hrow : db.accountRow accountId = some row) {a : Uuid}
    (h : db.Makes ((db.withAccount accountId f).withEvents events) a c) :
    a = accountId ∧ ∃ r : AccountRecord, row = r.row ∧
      ((c = .equity ∧ (f r).row.equity ≠ r.row.equity) ∨
        c = .killSwitch (f r).row.killSwitchEngaged ∧
          r.row.killSwitchEngaged ≠ (f r).row.killSwitchEngaged) := by
  obtain ⟨r, rfl, hnew⟩ := accountRow_withAccount_self hf hrow
  have hself (r₁ r₂ : AccountRow) (h₁ : db.accountRow a = some r₁)
      (h₂ : (db.withAccount accountId f).accountRow a = some r₂) (hne : r₂ ≠ r₁) :
      a = accountId ∧ r₁ = r.row ∧ r₂ = (f r).row := by
    by_cases ha : a = accountId
    · subst ha
      exact ⟨rfl, Option.some.inj (h₁.symm.trans hrow), Option.some.inj (h₂.symm.trans hnew)⟩
    · rw [accountRow_withAccount_of_ne hf ha, h₁] at h₂
      exact (hne (Option.some.inj h₂).symm).elim
  cases c with
  | equity =>
    obtain ⟨r₁, r₂, h₁, h₂, hne⟩ := h
    obtain ⟨rfl, rfl, rfl⟩ := hself r₁ r₂ h₁ h₂ fun heq => hne (congrArg _ heq)
    exact ⟨rfl, r, rfl, .inl ⟨rfl, hne⟩⟩
  | killSwitch engaged =>
    obtain ⟨r₁, r₂, h₁, h₂, hne, rfl⟩ := h
    obtain ⟨rfl, rfl, rfl⟩ := hself r₁ r₂ h₁ h₂ fun heq => hne (congrArg _ heq).symm
    exact ⟨rfl, r, rfl, .inr ⟨rfl, hne⟩⟩
  | placed | moved => exact (h.not_kept fun _ _ => rfl).elim
  | exchangeMode | credentials => exact (h.not_kept fun _ => rfl).elim

end

lemma auditAgrees_putEquity (accountId : Uuid) (equity : Decimal) (db : Db) :
    db.AuditAgrees (putEquity accountId equity db).2 := by
  unfold putEquity
  split_ifs with hneg
  · exact .refl db
  · refine .atomically fun _ db' h => ?_
    obtain ⟨account, stored, payload, haccount, rfl⟩ := of_commits_putEquityTx h
    refine ⟨_, rfl, .single (c := .equity) rfl (fun h => (h rfl).elim) fun a c hmakes _ => ?_⟩
    obtain ⟨rfl, r, -, ⟨rfl, -⟩ | ⟨-, hne⟩⟩ := hmakes.of_withAccount (by exact fun _ => rfl) haccount
    · exact ⟨rfl, rfl⟩
    · exact (hne rfl).elim

lemma auditAgrees_engageKillSwitch (accountId : Uuid) (db : Db) :
    db.AuditAgrees (engageKillSwitch accountId db).2 := by
  refine .atomically fun _ db' h => ?_
  obtain ⟨account, haccount, ⟨-, rfl⟩ | ⟨hreleased, rfl⟩⟩ := of_commits_engageKillSwitchTx h
  · exact .refl _
  · refine ⟨_, rfl, .single (c := .killSwitch true) rfl (fun _ => ?_) fun a c hmakes _ => ?_⟩
    · refine Db.makes_killSwitch ?_ haccount ?_ ?_
      · exact fun _ => rfl
      · simp [hreleased]
      · exact fun _ => rfl
    · obtain ⟨rfl, r, -, ⟨-, hne⟩ | ⟨rfl, -⟩⟩ := hmakes.of_withAccount (by exact fun _ => rfl) haccount
      · exact (hne rfl).elim
      · exact ⟨rfl, rfl⟩

lemma auditAgrees_releaseKillSwitch (accountId : Uuid) (db : Db) :
    db.AuditAgrees (releaseKillSwitch accountId db).2 := by
  refine .atomically fun _ db' h => ?_
  obtain ⟨account, haccount, ⟨-, rfl⟩ | ⟨hengaged, rfl⟩⟩ := of_commits_releaseKillSwitchTx h
  · exact .refl _
  · refine ⟨_, rfl, .single (c := .killSwitch false) rfl (fun _ => ?_) fun a c hmakes _ => ?_⟩
    · refine Db.makes_killSwitch ?_ haccount ?_ ?_
      · exact fun _ => rfl
      · simp [hengaged]
      · exact fun _ => rfl
    · obtain ⟨rfl, r, -, ⟨-, hne⟩ | ⟨rfl, -⟩⟩ := hmakes.of_withAccount (by exact fun _ => rfl) haccount
      · exact (hne rfl).elim
      · exact ⟨rfl, rfl⟩

lemma auditAgrees_putRiskConfig (accountId : Uuid) (body : RiskConfigView) (db : Db) :
    db.AuditAgrees (putRiskConfig accountId body db).2 := by
  unfold putRiskConfig
  cases validateRiskConfig body with
  | error e => exact .refl db
  | ok _ =>
    refine .atomically fun _ db' h => ?_
    obtain ⟨riskConfigs, payload, rfl⟩ := of_commits_putRiskConfigTx h
    exact .of_event rfl rfl (AuditedTable.kept_of_eq rfl rfl rfl)

lemma auditAgrees_createAccount (id : Uuid) (equity : Option Decimal) (db : Db) :
    db.AuditAgrees (createAccount id equity db).2 := by
  unfold createAccount
  split_ifs with hneg
  · exact .refl db
  · refine .atomically fun _ db' h => ?_
    simp only [createAccountTx, Engine.commits_bind, commits_sql, Statement.exec, column_bind_eq_ok,
      require_bind_eq_ok, commits_insertRiskEvent, Engine.commits_pure] at h
    obtain ⟨_, _, ⟨change, ⟨stored, -, -, -, hexec⟩, rfl⟩, _, _, ⟨change', ⟨-, hexec'⟩, rfl⟩, _, _,
      ⟨-, rfl⟩, -, rfl⟩ := h
    cases hexec
    cases hexec'
    refine .of_event rfl rfl fun t => ?_
    cases t with
    | orders => exact fun _ _ => rfl
    | accounts =>
      intro a r hr
      obtain ⟨record, hrecord, rfl⟩ := Option.map_eq_some_iff.mp hr
      simp only [Db.accountRow, List.find?_append, hrecord, Option.some_or, Option.map_some]
    | configs => exact fun _ => rfl

/-! ### Correlation groups -/

lemma of_commits_insertGroupAssets {groupId : Uuid} {symbols : List String} {u : Unit}
    (h : postgres.Commits (insertGroupAssets groupId accountId symbols) db u db') :
    ∃ correlationGroupAssets, db' = { db with correlationGroupAssets } := by
  induction symbols generalizing db with
  | nil =>
    obtain ⟨-, rfl⟩ := Engine.commits_pure.mp h
    exact ⟨_, rfl⟩
  | cons s symbols ih =>
    rw [insertGroupAssets, Engine.commits_bind] at h
    obtain ⟨_, db₁, hinsert, hrest⟩ := h
    simp only [commits_sql, Statement.exec, require_bind_eq_ok] at hinsert
    obtain ⟨change, ⟨-, -, -, hexec⟩, rfl⟩ := hinsert
    cases hexec
    obtain ⟨_, rfl⟩ := ih hrest
    exact ⟨_, rfl⟩

lemma of_commits_insertGroups {groups : List (Uuid × CorrelationGroupDef)} {u : Unit}
    (h : postgres.Commits (insertGroups accountId groups) db u db') :
    ∃ correlationGroups correlationGroupAssets,
      db' = { db with correlationGroups, correlationGroupAssets } := by
  induction groups generalizing db with
  | nil =>
    obtain ⟨-, rfl⟩ := Engine.commits_pure.mp h
    exact ⟨_, _, rfl⟩
  | cons group groups ih =>
    obtain ⟨groupId, g⟩ := group
    simp only [insertGroups, Engine.commits_bind] at h
    obtain ⟨_, db₁, hinsert, _, db₂, hassets, hrest⟩ := h
    simp only [commits_sql, Statement.exec, require_bind_eq_ok] at hinsert
    obtain ⟨change, ⟨-, -, hexec⟩, rfl⟩ := hinsert
    cases hexec
    obtain ⟨_, rfl⟩ := of_commits_insertGroupAssets hassets
    obtain ⟨_, _, rfl⟩ := ih hrest
    exact ⟨_, _, rfl⟩

lemma auditAgrees_putCorrelationGroups (accountId : Uuid)
    (groups : List (Uuid × CorrelationGroupDef)) (db : Db) :
    db.AuditAgrees (putCorrelationGroups accountId groups db).2 := by
  unfold putCorrelationGroups
  cases checkGroups [] (groups.map (·.2)) with
  | error e => exact .refl db
  | ok _ =>
    refine .atomically fun _ db' h => ?_
    simp only [putCorrelationGroupsTx, Engine.commits_bind, commits_lockAccount,
      commits_insertRiskEvent] at h
    obtain ⟨_, _, ⟨-, rfl⟩, _, db₁, hdelete, _, db₂, hgroups, -, rfl⟩ := h
    obtain ⟨change, hexec, rfl⟩ := commits_sql.mp hdelete
    cases hexec
    obtain ⟨_, _, rfl⟩ := of_commits_insertGroups hgroups
    exact .of_event rfl rfl (AuditedTable.kept_of_eq rfl rfl rfl)

/-! ### The exchange configuration -/

/-- The mode is another one, or the first. -/
def PutExchangeConfig.SwitchesMode (body : PutExchangeConfig) (row : Option ExchangeConfigRecord) :
    Prop :=
  row.map (·.mode) ≠ some (parseMode body.mode)

def PutExchangeConfig.GivesCredentials (body : PutExchangeConfig) : Prop :=
  body.apiKey.isSome = true ∨ body.apiSecret.isSome = true

instance (body : PutExchangeConfig) (row : Option ExchangeConfigRecord) :
    Decidable (body.SwitchesMode row) :=
  inferInstanceAs (Decidable (_ ≠ _))

instance (body : PutExchangeConfig) : Decidable body.GivesCredentials :=
  inferInstanceAs (Decidable (_ ∨ _))

lemma PutExchangeConfig.switchesMode_iff {body : PutExchangeConfig}
    (hmode : body.mode = "paper" ∨ body.mode = "live") (row : Option ExchangeConfigRecord) :
    body.SwitchesMode row ↔ row.map (fun r => modeStr r.mode) ≠ some body.mode := by
  have hstr (mode : ExchangeMode) : modeStr mode = body.mode ↔ mode = parseMode body.mode := by
    rcases hmode with h | h
    · rw [h]
      cases mode <;> decide
    · rw [h]
      cases mode <;> decide
  cases row with
  | none => simp [SwitchesMode]
  | some r => simp [SwitchesMode, hstr]

lemma configEventType_eq {body : PutExchangeConfig}
    (hmode : body.mode = "paper" ∨ body.mode = "live") (row : Option ExchangeConfigRecord) :
    configEventType row body =
      if ¬ body.SwitchesMode row ∧ body.GivesCredentials then "exchange_credentials_rotated"
      else "exchange_mode_switched" := by
  simp only [configEventType, ← PutExchangeConfig.switchesMode_iff hmode, Bool.or_eq_true]
  by_cases hswitch : body.SwitchesMode row
  · simp [hswitch]
  · simp [hswitch, PutExchangeConfig.GivesCredentials]

/-- No ciphertext that the cipher yields is one of those that the account has. Each has a nonce of
its own. -/
def Db.FreshFor (db : Db) (accountId : Uuid) (encrypt : String → Except ApiError (List UInt8)) :
    Prop :=
  ∀ text ct, encrypt text = .ok ct →
    db.apiKey accountId ≠ some ct ∧ db.apiSecret accountId ≠ some ct

section

variable {mode : ExchangeMode} {keyCt secretCt : Option (List UInt8)}

lemma Db.Configured.makes_exchangeMode (h : db.Configured accountId mode keyCt secretCt db') :
    db.Makes db' accountId .exchangeMode ↔ (db.configRow accountId).map (·.mode) ≠ some mode := by
  obtain ⟨row, hrow, rfl, -⟩ := h.row
  rw [Makes, hrow, Option.map_some]
  exact ne_comm

lemma Db.Configured.makes_credentials (h : db.Configured accountId mode keyCt secretCt db')
    (hkey : ∀ c ∈ keyCt, db.apiKey accountId ≠ some c)
    (hsecret : ∀ c ∈ secretCt, db.apiSecret accountId ≠ some c) :
    db.Makes db' accountId .credentials ↔ keyCt.isSome = true ∨ secretCt.isSome = true := by
  obtain ⟨row, hrow, -, hrowKey, hrowSecret⟩ := h.row
  have hkey' : db'.apiKey accountId = (keyCt <|> db.apiKey accountId) := by
    rw [apiKey, hrow]
    exact hrowKey
  have hsecret' : db'.apiSecret accountId = (secretCt <|> db.apiSecret accountId) := by
    rw [apiSecret, hrow]
    exact hrowSecret
  rw [Makes, hkey', hsecret']
  refine or_congr ?_ ?_
  · cases keyCt with
    | none => simp
    | some c => simpa using (hkey c rfl).symm
  · cases secretCt with
    | none => simp
    | some c => simpa using (hsecret c rfl).symm

end

/-- One event is enough only if the configuration either switches the mode or gives credentials. -/
lemma auditAgrees_putExchangeConfigTx_iff {encrypt : String → Except ApiError (List UInt8)}
    {body : PutExchangeConfig} {view : ExchangeConfigView}
    (hmode : body.mode = "paper" ∨ body.mode = "live") (hfresh : db.FreshFor accountId encrypt)
    (h : postgres.Commits (putExchangeConfigTx encrypt accountId body) db view db') :
    db.AuditAgrees db' ↔
      (body.SwitchesMode (db.configRow accountId) ↔ ¬ body.GivesCredentials) := by
  obtain ⟨keyCt, secretCt, db₁, payload, ⟨hkey, hkeyCt⟩, ⟨hsecret, hsecretCt⟩, hconfigured, -, rfl⟩ :=
    of_commits_putExchangeConfigTx h
  have hswitch : db.Makes db₁ accountId .exchangeMode ↔
      body.SwitchesMode (db.configRow accountId) := hconfigured.makes_exchangeMode
  have hgives : db.Makes db₁ accountId .credentials ↔ body.GivesCredentials := by
    rw [hconfigured.makes_credentials, hkey, hsecret, PutExchangeConfig.GivesCredentials]
    · intro c hc
      obtain ⟨text, htext⟩ := hkeyCt c hc
      exact (hfresh text c htext).1
    · intro c hc
      obtain ⟨text, htext⟩ := hsecretCt c hc
      exact (hfresh text c htext).2
  have honly (a : Uuid) (c : AuditedChange) (hmakes : db.Makes db₁ a c) :
      a = accountId ∧ ((c = .exchangeMode ∧ body.SwitchesMode (db.configRow accountId)) ∨
        (c = .credentials ∧ body.GivesCredentials)) := by
    obtain ⟨exchangeConfigs, hframe⟩ := hconfigured.frame
    have hself (htable : c.table = .configs) : a = accountId := by
      by_contra ha
      have hsame := hconfigured.others a ha
      cases c with
      | exchangeMode => exact hmakes (by rw [hsame])
      | credentials =>
        rcases hmakes with hne | hne
        · exact hne (by rw [Db.apiKey, Db.apiKey, hsame])
        · exact hne (by rw [Db.apiSecret, Db.apiSecret, hsame])
      | placed | moved | equity | killSwitch => cases htable
    cases c with
    | exchangeMode =>
      obtain rfl := hself rfl
      exact ⟨rfl, .inl ⟨rfl, hswitch.mp hmakes⟩⟩
    | credentials =>
      obtain rfl := hself rfl
      exact ⟨rfl, .inr ⟨rfl, hgives.mp hmakes⟩⟩
    | placed | moved =>
      rw [hframe] at hmakes
      exact (hmakes.not_kept fun _ _ => rfl).elim
    | equity | killSwitch =>
      rw [hframe] at hmakes
      exact (hmakes.not_kept fun _ _ h => h).elim
  have hevents : (db₁.withEvents [⟨accountId, configEventType (db.configRow accountId) body,
      payload⟩]).riskEvents = db.riskEvents ++
        [⟨accountId, configEventType (db.configRow accountId) body, payload⟩] := by
    obtain ⟨exchangeConfigs, rfl⟩ := hconfigured.frame
    rfl
  rw [Db.auditAgrees_iff hevents, configEventType_eq hmode]
  by_cases hs : body.SwitchesMode (db.configRow accountId)
  · rw [if_neg fun h => h.1 hs]
    constructor
    · -- the credentials are not reported
      refine fun hagrees => iff_of_true hs fun hg => ?_
      have hmakes := hgives.mpr hg
      obtain ⟨e, he, -, hreports⟩ := hagrees.reported (c := .credentials) hmakes rfl
      rw [List.mem_singleton.mp he] at hreports
      cases hreports
    · intro hexactly
      refine .single (c := .exchangeMode) rfl (fun _ => hswitch.mpr hs) fun a c hmakes _ => ?_
      obtain ⟨ha, ⟨hc, -⟩ | ⟨-, hg⟩⟩ := honly a c hmakes
      · exact ⟨ha, hc⟩
      · exact (hexactly.mp hs hg).elim
  · by_cases hg : body.GivesCredentials
    · rw [if_pos ⟨hs, hg⟩]
      refine iff_of_true ?_ (iff_of_false hs (not_not_intro hg))
      refine .single (c := .credentials) rfl (fun _ => hgives.mpr hg) fun a c hmakes _ => ?_
      obtain ⟨ha, ⟨-, hs'⟩ | ⟨hc, -⟩⟩ := honly a c hmakes
      · exact (hs hs').elim
      · exact ⟨ha, hc⟩
    · -- the mode is reported as switched, which it is not
      rw [if_neg fun h => hg h.2]
      refine iff_of_false (fun hagrees => ?_) fun hexactly => hs (hexactly.mpr hg)
      exact hs (hswitch.mp (hagrees.made _ (List.mem_singleton_self _) .exchangeMode rfl (by simp)))

end

end Confluence
