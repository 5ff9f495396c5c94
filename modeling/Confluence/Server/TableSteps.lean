import Confluence.Server.Db
import Mathlib.Logic.Relation

/-!
# What statements write

A statement that succeeds leaves the tables as they were, or makes one of the changes below within
their constraints. The rows that it writes are those of the accounts that it is about.
-/

namespace Confluence

/-- The rows that the statement reads or writes belong to accounts in `own`. -/
def Statement.Touches {β : Type} (own : Uuid → Prop) (db : Db) : Statement β → Prop
  | .selectAccountForUpdate a | .insertAccount a _ | .updateEquity a _ | .engageKillSwitch a
  | .releaseKillSwitch a | .selectRiskConfig a | .insertRiskConfig a | .updateRiskConfig a ..
  | .selectOpenPositions a | .selectCorrelationGroups a | .deleteCorrelationGroups a
  | .insertCorrelationGroup _ a _ | .insertCorrelationGroupAsset _ a _ | .selectDailyPnl a _
  | .upsertCircuitBreaker a _ | .selectExchangeConfig a | .updateExchangeConfig a ..
  | .countOpenOrders a | .countOpenPositions a | .insertOrder _ a .. | .selectOrderForUpdate a _
  | .updateOrder a .. | .selectFills a _ | .insertFill a .. | .insertCommand a ..
  | .selectOpenPosition a _ | .insertPosition a .. | .insertRiskEvent a ..
  | .selectRiskEvents _ a .. => own a
  | .insertExchangeConfig row => own row.accountId
  | .closePosition id | .updatePosition id .. => ∀ r ∈ db.positions, r.id = id → own r.accountId
  | .updateCommandStatus id _ | .requeueCommand id =>
    ∀ r ∈ db.exchangeCommands, r.id = id → own r.accountId
  | .claimCommands .. => ∀ r ∈ db.exchangeCommands, own r.accountId

/-- One change of the tables, to rows of accounts in `own`. -/
inductive TableStep (own : Uuid → Prop) (db : Db) : Db → Prop
  | unchanged : TableStep own db db
  | accountInserted {r : AccountRecord} (hown : own r.id) (hr : r.Checked)
      (hkey : ∀ r' ∈ db.accounts, r'.id ≠ r.id) :
    TableStep own db { db with accounts := db.accounts ++ [r] }
  | accountsUpdated {p : AccountRecord → Bool} {f : AccountRecord → AccountRecord}
      (hown : ∀ r ∈ db.accounts, p r = true → own r.id)
      (hr : ∀ r ∈ db.accounts.filter p, (f r).Checked) (hkey : ∀ r, (f r).id = r.id) :
    TableStep own db { db with accounts := updateWhere p f db.accounts }
  | riskConfigInserted {accountId : Uuid} (hown : own accountId)
      (hkey : ∀ r ∈ db.riskConfigs, r.accountId ≠ accountId) :
    TableStep own db { db with riskConfigs := db.riskConfigs ++ [.placeholder accountId] }
  | riskConfigsUpdated {p : RiskConfigRecord → Bool} {f : RiskConfigRecord → RiskConfigRecord}
      (hown : ∀ r ∈ db.riskConfigs, p r = true → own r.accountId)
      (hr : ∀ r ∈ db.riskConfigs.filter p, (f r).Checked)
      (hkey : ∀ r, (f r).accountId = r.accountId) :
    TableStep own db { db with riskConfigs := updateWhere p f db.riskConfigs }
  | groupsDeleted {accountId : Uuid} (hown : own accountId) :
    TableStep own db { db with
      correlationGroups := db.correlationGroups.filter fun g => decide (g.accountId ≠ accountId)
      correlationGroupAssets := db.correlationGroupAssets.filter fun a =>
        !db.correlationGroups.any fun g => decide (g.accountId = accountId) &&
          decide (g.id = a.groupId) && decide (g.accountId = a.accountId) }
  | groupInserted {r : CorrelationGroupRecord} (hown : own r.accountId)
      (hid : ∀ g ∈ db.correlationGroups, g.id ≠ r.id)
      (hname : ∀ g ∈ db.correlationGroups, g.accountId = r.accountId → g.name ≠ r.name) :
    TableStep own db { db with correlationGroups := db.correlationGroups ++ [r] }
  | assetInserted {r : CorrelationGroupAssetRecord} (hown : own r.accountId)
      (hkey : ∀ a ∈ db.correlationGroupAssets, a.groupId = r.groupId → a.symbol ≠ r.symbol)
      (hsymbol : ∀ a ∈ db.correlationGroupAssets, a.accountId = r.accountId → a.symbol ≠ r.symbol)
      (hgroup : ∃ g ∈ db.correlationGroups, g.id = r.groupId ∧ g.accountId = r.accountId) :
    TableStep own db { db with correlationGroupAssets := db.correlationGroupAssets ++ [r] }
  | dayInserted {accountId : Uuid} {today : Date} (hown : own accountId)
      (hkey : ∀ r ∈ db.dailyPnl, r.accountId = accountId → r.tradingDate ≠ today) :
    TableStep own db { db with dailyPnl := db.dailyPnl ++ [⟨accountId, today, 0, some db.now⟩] }
  | daysTripped {p : DailyPnlRecord → Bool}
      (hown : ∀ r ∈ db.dailyPnl, p r = true → own r.accountId) :
    TableStep own db { db with
      dailyPnl := updateWhere p (fun r =>
        { r with circuitBreakerTrippedAt := r.circuitBreakerTrippedAt <|> some db.now }) db.dailyPnl }
  | configInserted {r : ExchangeConfigRecord} (hown : own r.accountId)
      (hkey : ∀ r' ∈ db.exchangeConfigs, r'.accountId ≠ r.accountId) :
    TableStep own db { db with exchangeConfigs := db.exchangeConfigs ++ [r] }
  | configsUpdated {p : ExchangeConfigRecord → Bool}
      {f : ExchangeConfigRecord → ExchangeConfigRecord}
      (hown : ∀ r ∈ db.exchangeConfigs, p r = true → own r.accountId)
      (hkey : ∀ r, (f r).accountId = r.accountId)
      (hmode : ∀ r ∈ db.exchangeConfigs, p r = true → modeSwitchAllowed db r (f r).mode) :
    TableStep own db { db with exchangeConfigs := updateWhere p f db.exchangeConfigs }
  | orderInserted {r : OrderRecord} (hown : own r.accountId) (hr : r.Checked)
      (hquantity : Numeric.Fits 30 10 r.quantity) (hnew : r.status = .pending ∧ r.filledQuantity = 0)
      (hid : ∀ r' ∈ db.orders, r'.id ≠ r.id)
      (hclient : ∀ r' ∈ db.orders, r'.accountId = r.accountId →
        r'.clientOrderId ≠ r.clientOrderId) :
    TableStep own db { db with orders := db.orders ++ [r] }
  | ordersUpdated {p : OrderRecord → Bool} {status : OrderStatus} {filledQuantity : Decimal}
      (hown : ∀ r ∈ db.orders, p r = true → own r.accountId)
      (hr : ∀ r ∈ db.orders.filter p, OrderRecord.Checked { r with status, filledQuantity }) :
    TableStep own db { db with
      orders := updateWhere p (fun r => { r with status, filledQuantity }) db.orders }
  | fillInserted {r : FillRecord} (hown : own r.accountId) (hr : r.Checked)
      (hquantity : Numeric.Fits 30 10 r.fill.quantity)
      (hkey : ∀ r' ∈ db.orderFills, r'.accountId = r.accountId →
        r'.fill.exchangeTradeId ≠ r.fill.exchangeTradeId) :
    TableStep own db { db with orderFills := db.orderFills ++ [r] }
  | commandInserted {r : CommandRecord} (hown : own r.accountId) (hr : r.Checked)
      (hid : r.id = freshId (db.exchangeCommands.map (·.id)))
      (hkey : ∀ r' ∈ db.exchangeCommands, r'.accountId = r.accountId →
        r'.idempotencyKey ≠ r.idempotencyKey) :
    TableStep own db { db with exchangeCommands := db.exchangeCommands ++ [r] }
  | commandsUpdated {p : CommandRecord → Bool} {f : CommandRecord → CommandRecord}
      (hown : ∀ r ∈ db.exchangeCommands, p r = true → own r.accountId)
      (hkey : ∀ r, (f r).claimed = r.claimed ∧ (f r).idempotencyKey = r.idempotencyKey ∧
        (f r).createdAt = r.createdAt ∧ r.attempts ≤ (f r).attempts) :
    TableStep own db { db with exchangeCommands := updateWhere p f db.exchangeCommands }
  | positionInserted {r : PositionRecord} (hown : own r.accountId) (hr : r.Checked)
      (hfits : Numeric.Fits 30 10 r.quantity ∧ Numeric.Fits 30 10 r.avgEntryPrice)
      (hid : r.id = freshId (db.positions.map (·.id)))
      (hopen : r.status = .open) (hkey : db.openOn r.accountId r.symbol = []) :
    TableStep own db { db with positions := db.positions ++ [r] }
  | positionsUpdated {p : PositionRecord → Bool} {side : PositionSide}
      {quantity avgEntryPrice : Decimal} (hown : ∀ r ∈ db.positions, p r = true → own r.accountId)
      (hfits : Numeric.Fits 30 10 quantity ∧ Numeric.Fits 30 10 avgEntryPrice)
      (hr : ∀ r ∈ db.positions.filter p,
        PositionRecord.Checked { r with side, quantity, avgEntryPrice }) :
    TableStep own db { db with
      positions := updateWhere p (fun r => { r with side, quantity, avgEntryPrice }) db.positions }
  | eventInserted {r : RiskEventRecord} (hown : own r.accountId) (hr : r.Checked) :
    TableStep own db { db with riskEvents := db.riskEvents ++ [r] }

section

variable {own : Uuid → Prop} {db db' : Db} {β : Type}

/-- The rows that an update of an account picks out are the account's. -/
lemma own_of_picked {ρ : Type} {rows : List ρ} {account : ρ → Uuid} {accountId : Uuid}
    (hown : own accountId) {p : ρ → Bool} (hp : ∀ r, p r = true → account r = accountId) :
    ∀ r ∈ rows, p r = true → own (account r) := by
  intro r _ hr
  rw [hp r hr]
  exact hown

/-- No position can be closed: the row would hold the quantity zero, which its check refuses. -/
lemma updateWhere_closed {p : PositionRecord → Bool} {rows : List PositionRecord} {t : Timestamp}
    (hchecked : ∀ r ∈ rows.filter p,
      PositionRecord.Checked { r with status := .closed, quantity := 0, closedAt := some t }) :
    updateWhere p (fun r => { r with status := .closed, quantity := 0, closedAt := some t }) rows =
      rows := by
  refine updateWhere_eq_self fun r hr => ?_
  by_contra hp
  have hpositive := (hchecked r (List.mem_filter.mpr ⟨hr, by simpa using hp⟩)).1
  simp at hpositive

/-- A statement that succeeds makes one of these changes. -/
theorem Statement.tableStep {q : Statement β} {b : β} {change : Db → Db}
    (hq : q.Touches own db) (h : q.exec db = .ok (b, change)) : TableStep own db (change db) := by
  cases q with
  | selectAccountForUpdate | selectRiskConfig | selectOpenPositions | selectCorrelationGroups
  | selectDailyPnl | selectExchangeConfig | countOpenOrders | countOpenPositions
  | selectOrderForUpdate | selectFills | selectOpenPosition | selectRiskEvents =>
    cases h
    exact .unchanged
  | insertAccount id equity =>
    simp only [Statement.exec, require_bind_eq_ok, column_bind_eq_ok] at h
    obtain ⟨equity, -, hchecked, hid, h⟩ := h
    cases h
    exact .accountInserted hq hchecked hid
  | updateEquity accountId equity =>
    simp only [Statement.exec, require_bind_eq_ok, column_bind_eq_ok] at h
    obtain ⟨equity, -, hchecked, h⟩ := h
    cases h
    refine .accountsUpdated (own_of_picked hq ?_) hchecked fun _ => rfl
    exact fun r hr => of_decide_eq_true hr
  | engageKillSwitch accountId | releaseKillSwitch accountId =>
    simp only [Statement.exec, require_bind_eq_ok] at h
    obtain ⟨hchecked, h⟩ := h
    cases h
    refine .accountsUpdated (own_of_picked hq ?_) hchecked fun _ => rfl
    exact fun r hr => of_decide_eq_true hr
  | insertRiskConfig accountId =>
    simp only [Statement.exec, require_bind_eq_ok] at h
    obtain ⟨hkey, h⟩ := h
    cases h
    exact .riskConfigInserted hq hkey
  | updateRiskConfig accountId config newVersion currentVersion =>
    simp only [Statement.exec, require_bind_eq_ok, column_bind_eq_ok] at h
    obtain ⟨_, -, _, -, _, -, hchecked, h⟩ := h
    cases h
    refine .riskConfigsUpdated (own_of_picked hq ?_) hchecked fun _ => rfl
    exact fun r hr => of_decide_eq_true (Bool.and_eq_true_iff.mp hr).1
  | deleteCorrelationGroups accountId =>
    cases h
    exact .groupsDeleted hq
  | insertCorrelationGroup id accountId name =>
    simp only [Statement.exec, require_bind_eq_ok] at h
    obtain ⟨hid, hname, h⟩ := h
    cases h
    exact .groupInserted hq hid hname
  | insertCorrelationGroupAsset groupId accountId symbol =>
    simp only [Statement.exec, require_bind_eq_ok] at h
    obtain ⟨hkey, hsymbol, hgroup, h⟩ := h
    cases h
    exact .assetInserted hq hkey hsymbol hgroup
  | upsertCircuitBreaker accountId today =>
    simp only [Statement.exec] at h
    split_ifs at h with hany
    · cases h
      refine .daysTripped (own_of_picked hq ?_)
      exact fun r hr => of_decide_eq_true (Bool.and_eq_true_iff.mp hr).1
    · cases h
      refine .dayInserted hq fun r hr hacc htoday => hany ?_
      exact List.any_eq_true.mpr ⟨r, hr, by simp [hacc, htoday]⟩
  | insertExchangeConfig row =>
    simp only [Statement.exec, require_bind_eq_ok] at h
    obtain ⟨hkey, h⟩ := h
    cases h
    exact .configInserted hq hkey
  | updateExchangeConfig accountId mode testnet keyCt secretCt newVersion currentVersion =>
    simp only [Statement.exec, require_bind_eq_ok] at h
    obtain ⟨hmode, h⟩ := h
    cases h
    refine .configsUpdated (own_of_picked hq ?_) (fun _ => rfl) fun r hr hp => ?_
    · exact fun r hr => of_decide_eq_true (Bool.and_eq_true_iff.mp hr).1
    · exact hmode r (List.mem_filter.mpr ⟨hr, hp⟩)
  | insertOrder id accountId clientOrderId symbol side orderType quantity price exchangeMode =>
    simp only [Statement.exec, column_bind_eq_ok] at h
    obtain ⟨q, hquantity, h⟩ := h
    cases hprice : optionalColumn 30 10 price with
    | error e =>
      rw [hprice] at h
      cases h
    | ok p =>
      rw [hprice] at h
      obtain ⟨hchecked, h⟩ := require_bind_eq_ok.mp h
      obtain ⟨hid, h⟩ := require_bind_eq_ok.mp h
      obtain ⟨hclient, h⟩ := require_bind_eq_ok.mp h
      cases h
      exact .orderInserted hq hchecked (Numeric.fits_of_store hquantity) ⟨rfl, rfl⟩ hid hclient
  | updateOrder accountId orderId status filledQuantity =>
    simp only [Statement.exec, require_bind_eq_ok, column_bind_eq_ok] at h
    obtain ⟨q, -, hchecked, h⟩ := h
    cases h
    refine .ordersUpdated (own_of_picked hq ?_) hchecked
    exact fun r hr => of_decide_eq_true (Bool.and_eq_true_iff.mp hr).2
  | insertFill accountId orderId fill =>
    simp only [Statement.exec, require_bind_eq_ok, column_bind_eq_ok] at h
    obtain ⟨quantity, hquantity, price, -, fee, -, hchecked, h⟩ := h
    split_ifs at h with hany
    · cases h
      exact .unchanged
    · cases h
      refine .fillInserted hq hchecked (Numeric.fits_of_store hquantity) fun r hr hacc hid => hany ?_
      exact List.any_eq_true.mpr ⟨r, hr, by simp [hacc, hid]⟩
  | insertCommand accountId commandType exchangeMode idempotencyKey payload =>
    simp only [Statement.exec, require_bind_eq_ok] at h
    obtain ⟨hchecked, h⟩ := h
    split_ifs at h with hany
    · cases h
      exact .unchanged
    · cases h
      refine .commandInserted hq hchecked rfl fun r hr hacc hkey => hany ?_
      exact List.any_eq_true.mpr ⟨r, hr, by simp [hacc, hkey]⟩
  | claimCommands limit leaseSeconds locked =>
    cases h
    exact .commandsUpdated (fun r hr _ => hq r hr) fun _ => ⟨rfl, rfl, rfl, le_rfl⟩
  | updateCommandStatus id status =>
    cases h
    refine .commandsUpdated (fun r hr hid => ?_) fun _ => ⟨rfl, rfl, rfl, le_rfl⟩
    exact hq r hr (of_decide_eq_true hid)
  | requeueCommand id =>
    cases h
    refine .commandsUpdated (fun r hr hid => ?_) fun _ => ⟨rfl, rfl, rfl, Nat.le_succ _⟩
    exact hq r hr (of_decide_eq_true hid)
  | insertPosition accountId symbol side quantity avgEntryPrice =>
    simp only [Statement.exec, require_bind_eq_ok, column_bind_eq_ok] at h
    obtain ⟨quantity, hquantity, price, hprice, hchecked, hnone, h⟩ := h
    cases h
    exact .positionInserted hq hchecked
      ⟨Numeric.fits_of_store hquantity, Numeric.fits_of_store hprice⟩ rfl rfl
      (List.isEmpty_iff.mp hnone)
  | closePosition id =>
    simp only [Statement.exec, require_bind_eq_ok] at h
    obtain ⟨hchecked, h⟩ := h
    cases h
    simp only [updateWhere_closed hchecked]
    exact .unchanged
  | updatePosition id side quantity avgEntryPrice =>
    simp only [Statement.exec, require_bind_eq_ok, column_bind_eq_ok] at h
    obtain ⟨quantity, hquantity, price, hprice, hchecked, h⟩ := h
    cases h
    refine .positionsUpdated (fun r hr hid => ?_)
      ⟨Numeric.fits_of_store hquantity, Numeric.fits_of_store hprice⟩ hchecked
    exact hq r hr (of_decide_eq_true hid)
  | insertRiskEvent accountId eventType payload =>
    simp only [Statement.exec, require_bind_eq_ok] at h
    obtain ⟨hchecked, h⟩ := h
    cases h
    exact .eventInserted hq hchecked

/-- Every statement is about some accounts. -/
lemma Statement.touches_all (q : Statement β) (db : Db) : q.Touches (fun _ => True) db := by
  cases q <;> simp [Statement.Touches]

/-! ### Transactions -/

/-- A transaction makes changes one after another. -/
lemma tableSteps_atomically {ε α : Type} (p : Program Statement SqlError ε α) (db : Db) :
    Relation.ReflTransGen (TableStep fun _ => True) db (postgres.atomically p db).2 := by
  have hsteps : postgres.Advances (Relation.ReflTransGen (TableStep fun _ => True)) := by
    intro β q db b change h
    exact .single (Statement.tableStep (q.touches_all db) h)
  exact hsteps.atomically (fun _ => .refl) (fun _ _ _ => .trans) p db

/-- What every change keeps, every transaction keeps. -/
theorem keeps_atomically {I : Db → Prop}
    (hI : ∀ db db', I db → TableStep (fun _ => True) db db' → I db') {ε α : Type}
    (p : Program Statement SqlError ε α) (h : I db) : I (postgres.atomically p db).2 := by
  have hsteps := tableSteps_atomically p db
  generalize (postgres.atomically p db).2 = db' at hsteps ⊢
  induction hsteps with
  | refl => exact h
  | tail _ hstep ih => exact hI _ _ ih hstep

end

end Confluence
