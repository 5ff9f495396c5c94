import Confluence.Library.TwoRuns
import Confluence.Server.Positions

/-!
# Rows of an account

Row-level security aside, a statement is about the rows of one account through its `WHERE` clause,
or because the row whose identifier it is given belongs to the account. What it answers depends on
these rows alone.
-/

namespace Confluence

/-- The rows of one account, and the clock. -/
def Db.rowsOf (db : Db) (accountId : Uuid) : Db where
  now := db.now
  accounts := db.accounts.filter fun r => decide (r.id = accountId)
  riskConfigs := db.riskConfigs.filter fun r => decide (r.accountId = accountId)
  correlationGroups := db.correlationGroups.filter fun r => decide (r.accountId = accountId)
  correlationGroupAssets := db.correlationGroupAssets.filter fun r =>
    decide (r.accountId = accountId)
  positions := db.positions.filter fun r => decide (r.accountId = accountId)
  dailyPnl := db.dailyPnl.filter fun r => decide (r.accountId = accountId)
  orders := db.orders.filter fun r => decide (r.accountId = accountId)
  orderFills := db.orderFills.filter fun r => decide (r.accountId = accountId)
  exchangeConfigs := db.exchangeConfigs.filter fun r => decide (r.accountId = accountId)
  exchangeCommands := db.exchangeCommands.filter fun r => decide (r.accountId = accountId)
  riskEvents := db.riskEvents.filter fun r => decide (r.accountId = accountId)

/-- The primary keys of positions and groups, and the composite foreign key of the groups' assets. -/
structure Db.Keyed (db : Db) : Prop where
  positions : (db.positions.map (·.id)).Nodup
  groups : (db.correlationGroups.map (·.id)).Nodup
  assets : ∀ a ∈ db.correlationGroupAssets, ∃ g ∈ db.correlationGroups,
    g.id = a.groupId ∧ g.accountId = a.accountId

/-- The databases agree on the clock and all rows of the account, and draw the same identifiers next. -/
structure SameFor (accountId : Uuid) (db₁ db₂ : Db) : Prop where
  rows : db₁.rowsOf accountId = db₂.rowsOf accountId
  positionId : freshId (db₁.positions.map (·.id)) = freshId (db₂.positions.map (·.id))
  commandId : freshId (db₁.exchangeCommands.map (·.id)) =
    freshId (db₂.exchangeCommands.map (·.id))

/-- No order and no group of another account has the identifier. -/
def Db.FreeFor (db : Db) (accountId id : Uuid) : Prop :=
  (∀ r ∈ db.orders, r.accountId ≠ accountId → r.id ≠ id) ∧
    ∀ g ∈ db.correlationGroups, g.accountId ≠ accountId → g.id ≠ id

/-- The statement is about rows of the account. -/
def Statement.Owned {β : Type} (accountId : Uuid) (db : Db) : Statement β → Prop
  | .selectAccountForUpdate a | .insertAccount a _ | .updateEquity a _ | .engageKillSwitch a
  | .releaseKillSwitch a | .selectRiskConfig a | .insertRiskConfig a | .updateRiskConfig a ..
  | .selectOpenPositions a
  | .selectCorrelationGroups a | .deleteCorrelationGroups a | .selectDailyPnl a _
  | .upsertCircuitBreaker a _ | .selectExchangeConfig a | .updateExchangeConfig a ..
  | .countOpenOrders a | .countOpenPositions a | .selectOrderForUpdate a _ | .updateOrder a ..
  | .selectFills a _ | .insertFill a .. | .insertCommand a .. | .selectOpenPosition a _
  | .insertPosition a .. | .insertRiskEvent a .. | .selectRiskEvents _ a .. => a = accountId
  | .insertExchangeConfig row => row.accountId = accountId
  | .insertOrder id a .. | .insertCorrelationGroup id a _ | .insertCorrelationGroupAsset id a _ =>
    a = accountId ∧ db.FreeFor accountId id
  | .closePosition id | .updatePosition id .. =>
    ∀ r ∈ db.positions, r.id = id → r.accountId = accountId
  | .updateCommandStatus id _ | .requeueCommand id =>
    ∀ r ∈ db.exchangeCommands, r.id = id → r.accountId = accountId
  | .claimCommands .. => False

/-! ### Tables -/

section

variable {ρ : Type} {own p : ρ → Bool} {l l₁ l₂ : List ρ}

/-- Tables that agree on the own rows agree on a part of them. -/
lemma filter_eq_of_mem_own (h : l₁.filter own = l₂.filter own)
    (hp : ∀ r ∈ l₁ ++ l₂, p r = true → own r = true) : l₁.filter p = l₂.filter p := by
  have hsub (l : List ρ) (hl : ∀ r ∈ l, p r = true → own r = true) :
      (l.filter own).filter p = l.filter p := by
    rw [List.filter_filter]
    refine List.filter_congr fun r hr => ?_
    cases hpr : p r with
    | false => rfl
    | true => rw [hl r hr hpr, Bool.and_true]
  rw [← hsub l₁ fun r hr => hp r (List.mem_append_left _ hr), h,
    hsub l₂ fun r hr => hp r (List.mem_append_right _ hr)]

lemma filter_eq_of_own (h : l₁.filter own = l₂.filter own) (hp : ∀ r, p r = true → own r = true) :
    l₁.filter p = l₂.filter p :=
  filter_eq_of_mem_own h fun r _ => hp r

lemma find?_eq_of_own (h : l₁.filter own = l₂.filter own) (hp : ∀ r, p r = true → own r = true) :
    l₁.find? p = l₂.find? p := by
  rw [← List.head?_filter, ← List.head?_filter, filter_eq_of_own h hp]

lemma any_eq_of_own (h : l₁.filter own = l₂.filter own) (hp : ∀ r, p r = true → own r = true) :
    l₁.any p = l₂.any p := by
  rw [Bool.eq_iff_iff, List.any_eq_true, List.any_eq_true]
  have hmem (l : List ρ) : (∃ r ∈ l, p r = true) ↔ ∃ r, r ∈ l.filter p := by simp
  rw [hmem, hmem, filter_eq_of_own h hp]

lemma forall_iff_of_own {P : ρ → Prop} (h : l₁.filter own = l₂.filter own)
    (hP : ∀ r ∈ l₁ ++ l₂, own r = false → P r) : (∀ r ∈ l₁, P r) ↔ ∀ r ∈ l₂, P r := by
  have hmem (l : List ρ) (hl : ∀ r ∈ l, own r = false → P r) :
      (∀ r ∈ l, P r) ↔ ∀ r ∈ l.filter own, P r := by
    constructor
    · intro hall r hr
      exact hall r (List.mem_of_mem_filter hr)
    · intro hall r hr
      cases hown : own r with
      | false => exact hl r hr hown
      | true => exact hall r (List.mem_filter.mpr ⟨hr, hown⟩)
  rw [hmem l₁ fun r hr => hP r (List.mem_append_left _ hr), h,
    ← hmem l₂ fun r hr => hP r (List.mem_append_right _ hr)]

end

/-! ### The same answers -/

section

variable {accountId : Uuid} {db₁ db₂ : Db} {β : Type}

namespace SameFor

variable (h : SameFor accountId db₁ db₂)
include h

lemma now : db₁.now = db₂.now :=
  show (db₁.rowsOf accountId).now = (db₂.rowsOf accountId).now by rw [h.rows]

lemma accounts : db₁.accounts.filter (fun r => decide (r.id = accountId)) =
    db₂.accounts.filter fun r => decide (r.id = accountId) :=
  congrArg Db.accounts h.rows

lemma riskConfigs : db₁.riskConfigs.filter (fun r => decide (r.accountId = accountId)) =
    db₂.riskConfigs.filter fun r => decide (r.accountId = accountId) :=
  congrArg Db.riskConfigs h.rows

lemma groups : db₁.correlationGroups.filter (fun r => decide (r.accountId = accountId)) =
    db₂.correlationGroups.filter fun r => decide (r.accountId = accountId) :=
  congrArg Db.correlationGroups h.rows

lemma assets : db₁.correlationGroupAssets.filter (fun r => decide (r.accountId = accountId)) =
    db₂.correlationGroupAssets.filter fun r => decide (r.accountId = accountId) :=
  congrArg Db.correlationGroupAssets h.rows

lemma positions : db₁.positions.filter (fun r => decide (r.accountId = accountId)) =
    db₂.positions.filter fun r => decide (r.accountId = accountId) :=
  congrArg Db.positions h.rows

lemma dailyPnl : db₁.dailyPnl.filter (fun r => decide (r.accountId = accountId)) =
    db₂.dailyPnl.filter fun r => decide (r.accountId = accountId) :=
  congrArg Db.dailyPnl h.rows

lemma orders : db₁.orders.filter (fun r => decide (r.accountId = accountId)) =
    db₂.orders.filter fun r => decide (r.accountId = accountId) :=
  congrArg Db.orders h.rows

lemma fills : db₁.orderFills.filter (fun r => decide (r.accountId = accountId)) =
    db₂.orderFills.filter fun r => decide (r.accountId = accountId) :=
  congrArg Db.orderFills h.rows

lemma configs : db₁.exchangeConfigs.filter (fun r => decide (r.accountId = accountId)) =
    db₂.exchangeConfigs.filter fun r => decide (r.accountId = accountId) :=
  congrArg Db.exchangeConfigs h.rows

lemma commands : db₁.exchangeCommands.filter (fun r => decide (r.accountId = accountId)) =
    db₂.exchangeCommands.filter fun r => decide (r.accountId = accountId) :=
  congrArg Db.exchangeCommands h.rows

lemma events : db₁.riskEvents.filter (fun r => decide (r.accountId = accountId)) =
    db₂.riskEvents.filter fun r => decide (r.accountId = accountId) :=
  congrArg Db.riskEvents h.rows

lemma openOrders : db₁.openOrders accountId = db₂.openOrders accountId :=
  filter_eq_of_own h.orders fun _ hr => (Bool.and_eq_true_iff.mp hr).1

lemma openPositions : db₁.openPositions accountId = db₂.openPositions accountId :=
  filter_eq_of_own h.positions fun _ hr => (Bool.and_eq_true_iff.mp hr).1

lemma openOn (symbol : String) : db₁.openOn accountId symbol = db₂.openOn accountId symbol :=
  filter_eq_of_own h.positions fun _ hr =>
    (Bool.and_eq_true_iff.mp (Bool.and_eq_true_iff.mp hr).1).1

lemma order? (orderId : Uuid) : db₁.order? accountId orderId = db₂.order? accountId orderId :=
  find?_eq_of_own h.orders fun _ hr => (Bool.and_eq_true_iff.mp hr).2

lemma fillsOf (orderId : Uuid) : db₁.fillsOf accountId orderId = db₂.fillsOf accountId orderId := by
  unfold Db.fillsOf
  rw [filter_eq_of_own h.fills fun _ hr => (Bool.and_eq_true_iff.mp hr).1]

lemma riskEventPage (columns : ℕ → Uuid × Timestamp) (before : Option Uuid) (limit : ℕ) :
    db₁.riskEventPage columns accountId before limit =
      db₂.riskEventPage columns accountId before limit := by
  simp only [Db.riskEventPage, h.events]

end SameFor

/-- The group of an asset is one of the asset's account. -/
lemma Db.Keyed.group_own {db : Db} (hk : db.Keyed) {a : CorrelationGroupAssetRecord}
    (ha : a ∈ db.correlationGroupAssets) {g : CorrelationGroupRecord}
    (hg : g ∈ db.correlationGroups) (hid : g.id = a.groupId) : g.accountId = a.accountId := by
  obtain ⟨g', hg', hid', hacc⟩ := hk.assets a ha
  rw [List.inj_on_of_nodup_map hk.groups hg hg' (hid.trans hid'.symm), hacc]

/-- The groups of the account's symbols. -/
lemma SameFor.correlationGroups (h : SameFor accountId db₁ db₂) (hk₁ : db₁.Keyed)
    (hk₂ : db₂.Keyed) :
    ((db₁.correlationGroupAssets.filter fun a => a.accountId = accountId).filterMap fun a =>
      (db₁.correlationGroups.find? fun g => g.id = a.groupId).map fun g => (a.symbol, g.name)) =
    (db₂.correlationGroupAssets.filter fun a => a.accountId = accountId).filterMap fun a =>
      (db₂.correlationGroups.find? fun g => g.id = a.groupId).map fun g => (a.symbol, g.name) := by
  have hown {db : Db} (hk : db.Keyed) {a : CorrelationGroupAssetRecord}
      (ha : a ∈ db.correlationGroupAssets) (hacc : a.accountId = accountId) :
      (db.correlationGroups.find? fun g => g.id = a.groupId) =
        db.correlationGroups.find? fun g =>
          decide (g.accountId = accountId) && decide (g.id = a.groupId) := by
    refine List.find?_congr fun g hg => ?_
    by_cases hid : g.id = a.groupId
    · simp [hid, hk.group_own ha hg hid, hacc]
    · simp [hid]
  have hassets := h.assets
  rw [hassets]
  refine List.filterMap_congr fun a ha => ?_
  have hmem₁ := hassets ▸ ha
  obtain ⟨hmem₂, hacc⟩ := List.mem_filter.mp ha
  have hacc := of_decide_eq_true hacc
  rw [hown hk₁ (List.mem_of_mem_filter hmem₁) hacc, hown hk₂ hmem₂ hacc,
    find?_eq_of_own h.groups fun _ hg => (Bool.and_eq_true_iff.mp hg).1]

/-- A statement of the account answers alike, and makes the same change. -/
lemma Statement.exec_congr {q : Statement β} (h : SameFor accountId db₁ db₂) (hk₁ : db₁.Keyed)
    (hk₂ : db₂.Keyed) (ho₁ : q.Owned accountId db₁) (ho₂ : q.Owned accountId db₂) :
    q.exec db₁ = q.exec db₂ := by
  cases q with
  | selectAccountForUpdate a =>
    obtain rfl : a = accountId := ho₁
    simp only [Statement.exec, find?_eq_of_own h.accounts (fun _ hr => hr)]
  | insertAccount a equity =>
    obtain rfl : a = accountId := ho₁
    have hid : (∀ r ∈ db₁.accounts, r.id ≠ a) ↔ ∀ r ∈ db₂.accounts, r.id ≠ a :=
      forall_iff_of_own h.accounts fun r _ hr => of_decide_eq_false hr
    simp only [Statement.exec, hid]
  | updateEquity a equity =>
    obtain rfl : a = accountId := ho₁
    simp only [Statement.exec, h.accounts]
  | engageKillSwitch a =>
    obtain rfl : a = accountId := ho₁
    simp only [Statement.exec, h.accounts, h.now]
  | releaseKillSwitch a =>
    obtain rfl : a = accountId := ho₁
    simp only [Statement.exec, h.accounts]
  | selectRiskConfig a =>
    obtain rfl : a = accountId := ho₁
    simp only [Statement.exec, find?_eq_of_own h.riskConfigs (fun _ hr => hr)]
  | insertRiskConfig a =>
    obtain rfl : a = accountId := ho₁
    have hid : (∀ r ∈ db₁.riskConfigs, r.accountId ≠ a) ↔ ∀ r ∈ db₂.riskConfigs, r.accountId ≠ a :=
      forall_iff_of_own h.riskConfigs fun r _ hr => of_decide_eq_false hr
    simp only [Statement.exec, hid]
  | updateRiskConfig a config newVersion currentVersion =>
    obtain rfl : a = accountId := ho₁
    simp only [Statement.exec,
      filter_eq_of_own h.riskConfigs (fun _ hr => (Bool.and_eq_true_iff.mp hr).1)]
  | selectOpenPositions a =>
    obtain rfl : a = accountId := ho₁
    simp only [Statement.exec, h.openPositions]
  | selectCorrelationGroups a =>
    obtain rfl : a = accountId := ho₁
    simp only [Statement.exec, h.correlationGroups hk₁ hk₂]
  | deleteCorrelationGroups a => rfl
  | selectDailyPnl a today =>
    obtain rfl : a = accountId := ho₁
    simp only [Statement.exec,
      find?_eq_of_own h.dailyPnl (fun _ hr => (Bool.and_eq_true_iff.mp hr).1)]
  | upsertCircuitBreaker a today =>
    obtain rfl : a = accountId := ho₁
    simp only [Statement.exec, h.now,
      any_eq_of_own h.dailyPnl (fun _ hr => (Bool.and_eq_true_iff.mp hr).1)]
  | selectExchangeConfig a =>
    obtain rfl : a = accountId := ho₁
    simp only [Statement.exec, find?_eq_of_own h.configs (fun _ hr => hr)]
  | countOpenOrders a =>
    obtain rfl : a = accountId := ho₁
    simp only [Statement.exec, h.openOrders]
  | countOpenPositions a =>
    obtain rfl : a = accountId := ho₁
    simp only [Statement.exec, h.openPositions]
  | selectOrderForUpdate a orderId =>
    obtain rfl : a = accountId := ho₁
    simp only [Statement.exec, h.order?]
  | updateOrder a orderId status filledQuantity =>
    obtain rfl : a = accountId := ho₁
    simp only [Statement.exec,
      filter_eq_of_own h.orders (fun _ hr => (Bool.and_eq_true_iff.mp hr).2)]
  | selectFills a orderId =>
    obtain rfl : a = accountId := ho₁
    simp only [Statement.exec, h.fillsOf]
  | insertFill a orderId fill =>
    obtain rfl : a = accountId := ho₁
    simp only [Statement.exec,
      any_eq_of_own h.fills (fun _ hr => (Bool.and_eq_true_iff.mp hr).1)]
  | insertCommand a commandType exchangeMode idempotencyKey payload =>
    obtain rfl : a = accountId := ho₁
    simp only [Statement.exec, h.now, h.commandId,
      any_eq_of_own h.commands (fun _ hr => (Bool.and_eq_true_iff.mp hr).1)]
  | selectOpenPosition a symbol =>
    obtain rfl : a = accountId := ho₁
    simp only [Statement.exec, h.openOn]
  | insertPosition a symbol side quantity avgEntryPrice =>
    obtain rfl : a = accountId := ho₁
    simp only [Statement.exec, h.positionId, h.openOn]
  | insertRiskEvent a eventType payload => rfl
  | selectRiskEvents columns a before limit =>
    obtain rfl : a = accountId := ho₁
    simp only [Statement.exec, h.riskEventPage]
  | claimCommands limit leaseSeconds locked => exact ho₁.elim
  | updateCommandStatus id status => rfl
  | requeueCommand id => rfl
  | insertExchangeConfig row =>
    obtain rfl : row.accountId = accountId := ho₁
    have hunique : (∀ r ∈ db₁.exchangeConfigs, r.accountId ≠ row.accountId) ↔
        ∀ r ∈ db₂.exchangeConfigs, r.accountId ≠ row.accountId :=
      forall_iff_of_own h.configs fun r _ hr => of_decide_eq_false hr
    simp only [Statement.exec, hunique]
  | updateExchangeConfig a mode testnet keyCt secretCt newVersion currentVersion =>
    obtain rfl : a = accountId := ho₁
    have hguard : (∀ r ∈ db₂.exchangeConfigs.filter fun r =>
          decide (r.accountId = a) && decide (r.version = currentVersion),
          modeSwitchAllowed db₁ r mode) ↔
        ∀ r ∈ db₂.exchangeConfigs.filter fun r =>
          decide (r.accountId = a) && decide (r.version = currentVersion),
          modeSwitchAllowed db₂ r mode := by
      refine forall₂_congr fun r hr => ?_
      have hacc : r.accountId = a := of_decide_eq_true
        (Bool.and_eq_true_iff.mp (List.mem_filter.mp hr).2).1
      rw [modeSwitchAllowed, modeSwitchAllowed, hacc, h.openOrders, h.openPositions]
    simp only [Statement.exec,
      filter_eq_of_own h.configs (fun _ hr => (Bool.and_eq_true_iff.mp hr).1), hguard]
  | insertOrder id a clientOrderId symbol side orderType quantity price exchangeMode =>
    obtain ⟨rfl, hfree₁, -⟩ := ho₁
    obtain ⟨-, hfree₂, -⟩ := ho₂
    have hid : (∀ r ∈ db₁.orders, r.id ≠ id) ↔ ∀ r ∈ db₂.orders, r.id ≠ id := by
      refine forall_iff_of_own h.orders fun r hr hother => ?_
      have hacc := of_decide_eq_false hother
      exact (List.mem_append.mp hr).elim (fun hr => hfree₁ r hr hacc) fun hr => hfree₂ r hr hacc
    have hclient : (∀ r ∈ db₁.orders, r.accountId = a → r.clientOrderId ≠ clientOrderId) ↔
        ∀ r ∈ db₂.orders, r.accountId = a → r.clientOrderId ≠ clientOrderId :=
      forall_iff_of_own h.orders fun r _ hother hacc => (of_decide_eq_false hother hacc).elim
    simp only [Statement.exec, hid, hclient]
  | insertCorrelationGroup id a name =>
    obtain ⟨rfl, -, hfree₁⟩ := ho₁
    obtain ⟨-, -, hfree₂⟩ := ho₂
    have hid : (∀ g ∈ db₁.correlationGroups, g.id ≠ id) ↔
        ∀ g ∈ db₂.correlationGroups, g.id ≠ id := by
      refine forall_iff_of_own h.groups fun g hg hother => ?_
      have hacc := of_decide_eq_false hother
      exact (List.mem_append.mp hg).elim (fun hg => hfree₁ g hg hacc) fun hg => hfree₂ g hg hacc
    have hname : (∀ g ∈ db₁.correlationGroups, g.accountId = a → g.name ≠ name) ↔
        ∀ g ∈ db₂.correlationGroups, g.accountId = a → g.name ≠ name :=
      forall_iff_of_own h.groups fun g _ hother hacc => (of_decide_eq_false hother hacc).elim
    simp only [Statement.exec, hid, hname]
  | insertCorrelationGroupAsset groupId a symbol =>
    obtain ⟨rfl, -, hfree₁⟩ := ho₁
    obtain ⟨-, -, hfree₂⟩ := ho₂
    have hother {db : Db} (hk : db.Keyed)
        (hfree : ∀ g ∈ db.correlationGroups, g.accountId ≠ a → g.id ≠ groupId)
        {r : CorrelationGroupAssetRecord} (hr : r ∈ db.correlationGroupAssets)
        (hacc : r.accountId ≠ a) : r.groupId ≠ groupId := by
      obtain ⟨g, hg, hid, hgacc⟩ := hk.assets r hr
      rw [← hid]
      exact hfree g hg (hgacc ▸ hacc)
    have hkey : (∀ r ∈ db₁.correlationGroupAssets, r.groupId = groupId → r.symbol ≠ symbol) ↔
        ∀ r ∈ db₂.correlationGroupAssets, r.groupId = groupId → r.symbol ≠ symbol := by
      refine forall_iff_of_own h.assets fun r hr hown hgroup => ?_
      have hacc := of_decide_eq_false hown
      exact ((List.mem_append.mp hr).elim (fun hr => hother hk₁ hfree₁ hr hacc hgroup)
        fun hr => hother hk₂ hfree₂ hr hacc hgroup).elim
    have hsymbol : (∀ r ∈ db₁.correlationGroupAssets, r.accountId = a → r.symbol ≠ symbol) ↔
        ∀ r ∈ db₂.correlationGroupAssets, r.accountId = a → r.symbol ≠ symbol :=
      forall_iff_of_own h.assets fun r _ hown hacc => (of_decide_eq_false hown hacc).elim
    have hgroup : (∃ g ∈ db₁.correlationGroups, g.id = groupId ∧ g.accountId = a) ↔
        ∃ g ∈ db₂.correlationGroups, g.id = groupId ∧ g.accountId = a := by
      have hnone : (∀ g ∈ db₁.correlationGroups, ¬ (g.id = groupId ∧ g.accountId = a)) ↔
          ∀ g ∈ db₂.correlationGroups, ¬ (g.id = groupId ∧ g.accountId = a) :=
        forall_iff_of_own h.groups fun g _ hown hg => of_decide_eq_false hown hg.2
      have hex (db : Db) : (∃ g ∈ db.correlationGroups, g.id = groupId ∧ g.accountId = a) ↔
          ¬ ∀ g ∈ db.correlationGroups, ¬ (g.id = groupId ∧ g.accountId = a) := by
        simp only [not_forall, not_not, exists_prop]
      rw [hex, hex, hnone]
    simp only [Statement.exec, hkey, hsymbol, hgroup]
  | closePosition id =>
    have hfilter := filter_eq_of_mem_own h.positions (p := fun r => decide (r.id = id))
      fun r hr hid => ?_
    · simp only [Statement.exec, hfilter, h.now]
    · have hid := of_decide_eq_true hid
      exact decide_eq_true ((List.mem_append.mp hr).elim (ho₁ r · hid) (ho₂ r · hid))
  | updatePosition id side quantity avgEntryPrice =>
    have hfilter := filter_eq_of_mem_own h.positions (p := fun r => decide (r.id = id))
      fun r hr hid => ?_
    · simp only [Statement.exec, hfilter]
    · have hid := of_decide_eq_true hid
      exact decide_eq_true ((List.mem_append.mp hr).elim (ho₁ r · hid) (ho₂ r · hid))

end

end Confluence
