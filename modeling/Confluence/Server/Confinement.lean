import Confluence.Server.Tenancy

/-!
# Confined changes

A statement about rows of one account takes these to what they alone determine, leaves the rows of
every other account, and keeps the keys.
-/

namespace Confluence

/-! ### Tables -/

/-- A table of the database. -/
structure Table (ρ : Type) where
  get : Db → List ρ
  set : List ρ → Db → Db
  account : ρ → Uuid
  get_rowsOf : ∀ db b, get (db.rowsOf b) = (get db).filter fun r => decide (account r = b)
  rowsOf_set : ∀ l db b,
    (set l db).rowsOf b = set (l.filter fun r => decide (account r = b)) (db.rowsOf b)
  set_get : ∀ db, set (get db) db = db

namespace Table

def accounts : Table AccountRecord :=
  ⟨(·.accounts), fun l db => { db with accounts := l }, (·.id),
    fun _ _ => rfl, fun _ _ _ => rfl, fun _ => rfl⟩

def riskConfigs : Table RiskConfigRecord :=
  ⟨(·.riskConfigs), fun l db => { db with riskConfigs := l }, (·.accountId),
    fun _ _ => rfl, fun _ _ _ => rfl, fun _ => rfl⟩

def groups : Table CorrelationGroupRecord :=
  ⟨(·.correlationGroups), fun l db => { db with correlationGroups := l }, (·.accountId),
    fun _ _ => rfl, fun _ _ _ => rfl, fun _ => rfl⟩

def assets : Table CorrelationGroupAssetRecord :=
  ⟨(·.correlationGroupAssets), fun l db => { db with correlationGroupAssets := l }, (·.accountId),
    fun _ _ => rfl, fun _ _ _ => rfl, fun _ => rfl⟩

def positions : Table PositionRecord :=
  ⟨(·.positions), fun l db => { db with positions := l }, (·.accountId),
    fun _ _ => rfl, fun _ _ _ => rfl, fun _ => rfl⟩

def dailyPnl : Table DailyPnlRecord :=
  ⟨(·.dailyPnl), fun l db => { db with dailyPnl := l }, (·.accountId),
    fun _ _ => rfl, fun _ _ _ => rfl, fun _ => rfl⟩

def orders : Table OrderRecord :=
  ⟨(·.orders), fun l db => { db with orders := l }, (·.accountId),
    fun _ _ => rfl, fun _ _ _ => rfl, fun _ => rfl⟩

def orderFills : Table FillRecord :=
  ⟨(·.orderFills), fun l db => { db with orderFills := l }, (·.accountId),
    fun _ _ => rfl, fun _ _ _ => rfl, fun _ => rfl⟩

def exchangeConfigs : Table ExchangeConfigRecord :=
  ⟨(·.exchangeConfigs), fun l db => { db with exchangeConfigs := l }, (·.accountId),
    fun _ _ => rfl, fun _ _ _ => rfl, fun _ => rfl⟩

def exchangeCommands : Table CommandRecord :=
  ⟨(·.exchangeCommands), fun l db => { db with exchangeCommands := l }, (·.accountId),
    fun _ _ => rfl, fun _ _ _ => rfl, fun _ => rfl⟩

def riskEvents : Table RiskEventRecord :=
  ⟨(·.riskEvents), fun l db => { db with riskEvents := l }, (·.accountId),
    fun _ _ => rfl, fun _ _ _ => rfl, fun _ => rfl⟩

end Table

/-- A change of a table takes the account's rows to what they alone determine and leaves all
others. -/
structure LocalTo {ρ : Type} (account : ρ → Uuid) (accountId : Uuid) (l : List ρ)
    (g : List ρ → List ρ) : Prop where
  own : (g l).filter (fun r => decide (account r = accountId)) =
    (g (l.filter fun r => decide (account r = accountId))).filter fun r =>
      decide (account r = accountId)
  other : ∀ b ≠ accountId, (g l).filter (fun r => decide (account r = b)) =
    l.filter fun r => decide (account r = b)

section

variable {ρ : Type} {account : ρ → Uuid} {accountId : Uuid} {l : List ρ}

lemma LocalTo.append {row : ρ} (h : account row = accountId) :
    LocalTo account accountId l (· ++ [row]) where
  own := by
    rw [List.filter_append, List.filter_append, List.filter_filter]
    simp only [Bool.and_self]
  other b hb := by
    have hrow : ¬ account row = b := fun hacc => hb (hacc.symm.trans h)
    rw [List.filter_append, List.filter_cons_of_neg (by simpa using hrow), List.filter_nil,
      List.append_nil]

lemma LocalTo.updateWhere {p : ρ → Bool} {f : ρ → ρ} (hf : ∀ r, account (f r) = account r)
    (hp : ∀ r ∈ l, p r = true → account r = accountId) :
    LocalTo account accountId l (updateWhere p f) where
  own := by
    have hfilter (rows : List ρ) : (Confluence.updateWhere p f rows).filter
        (fun r => decide (account r = accountId)) = Confluence.updateWhere p f
          (rows.filter fun r => decide (account r = accountId)) :=
      filter_updateWhere fun r => by rw [hf]
    rw [hfilter, hfilter, List.filter_filter]
    simp only [Bool.and_self]
  other b hb := by
    rw [filter_updateWhere fun r => by rw [hf]]
    refine updateWhere_eq_self fun r hr => ?_
    obtain ⟨hmem, hother⟩ := List.mem_filter.mp hr
    cases hpr : p r with
    | false => rfl
    | true => exact (hb ((of_decide_eq_true hother).symm.trans (hp r hmem hpr))).elim

end

/-- The change takes the account's rows to what they alone determine and leaves all others. -/
structure Confined (accountId : Uuid) (db : Db) (change : Db → Db) : Prop where
  own : (change db).rowsOf accountId = (change (db.rowsOf accountId)).rowsOf accountId
  other : ∀ b ≠ accountId, (change db).rowsOf b = db.rowsOf b

lemma Db.rowsOf_rowsOf (db : Db) (accountId : Uuid) :
    (db.rowsOf accountId).rowsOf accountId = db.rowsOf accountId := by
  simp only [Db.rowsOf, List.filter_filter, Bool.and_self]

lemma Confined.id (accountId : Uuid) (db : Db) : Confined accountId db id where
  own := (db.rowsOf_rowsOf accountId).symm
  other _ _ := rfl

namespace Table

variable {ρ : Type} (t : Table ρ) {accountId : Uuid} {db : Db} {g : List ρ → List ρ}

lemma confined (h : LocalTo t.account accountId (t.get db) g) :
    Confined accountId db fun db => t.set (g (t.get db)) db where
  own := by
    rw [t.rowsOf_set, t.rowsOf_set, t.get_rowsOf, h.own, db.rowsOf_rowsOf]
  other b hb := by
    rw [t.rowsOf_set, h.other b hb, ← t.get_rowsOf, t.set_get]

lemma confined_append {r : ρ} (h : t.account r = accountId) :
    Confined accountId db fun db => t.set (t.get db ++ [r]) db :=
  t.confined (.append h)

lemma confined_updateWhere {p : ρ → Bool} {f : ρ → ρ} (hf : ∀ r, t.account (f r) = t.account r)
    (hp : ∀ r ∈ t.get db, p r = true → t.account r = accountId) :
    Confined accountId db fun db => t.set (updateWhere p f (t.get db)) db :=
  t.confined (.updateWhere hf hp)

end Table

/-- Deleting the account's groups, with the assets that refer to them. -/
lemma Db.confined_deleteGroups (db : Db) (accountId : Uuid) :
    Confined accountId db fun db => { db with
      correlationGroups := db.correlationGroups.filter fun g => decide (g.accountId ≠ accountId)
      correlationGroupAssets := db.correlationGroupAssets.filter fun a =>
        !db.correlationGroups.any fun g => decide (g.accountId = accountId) &&
          decide (g.id = a.groupId) && decide (g.accountId = a.accountId) } where
  own := by
    have hown : (db.rowsOf accountId).correlationGroups.filter
          (fun g => decide (g.accountId = accountId)) =
        db.correlationGroups.filter fun g => decide (g.accountId = accountId) :=
      congrArg Db.correlationGroups (db.rowsOf_rowsOf accountId)
    have hany (a : CorrelationGroupAssetRecord) :
        ((db.rowsOf accountId).correlationGroups.any fun g => decide (g.accountId = accountId) &&
          decide (g.id = a.groupId) && decide (g.accountId = a.accountId)) =
        db.correlationGroups.any fun g => decide (g.accountId = accountId) &&
          decide (g.id = a.groupId) && decide (g.accountId = a.accountId) :=
      any_eq_of_own hown fun g hg => (Bool.and_eq_true_iff.mp (Bool.and_eq_true_iff.mp hg).1).1
    simp only [hany]
    simp [Db.rowsOf, List.filter_filter, Bool.and_comm]
  other b hb := by
    have hgroups : (db.correlationGroups.filter fun g => decide (g.accountId ≠ accountId)).filter
        (fun g => decide (g.accountId = b)) =
          db.correlationGroups.filter fun g => decide (g.accountId = b) := by
      rw [List.filter_filter]
      refine List.filter_congr fun g _ => ?_
      by_cases hacc : g.accountId = b
      · simp [hacc, hb]
      · simp [hacc]
    have hassets : (db.correlationGroupAssets.filter fun a =>
        !db.correlationGroups.any fun g => decide (g.accountId = accountId) &&
          decide (g.id = a.groupId) && decide (g.accountId = a.accountId)).filter
        (fun a => decide (a.accountId = b)) =
          db.correlationGroupAssets.filter fun a => decide (a.accountId = b) := by
      rw [List.filter_filter]
      refine List.filter_congr fun a _ => ?_
      by_cases hacc : a.accountId = b
      · -- the foreign key is composite: no group of the account has an asset of another
        have hnone : (db.correlationGroups.any fun g => decide (g.accountId = accountId) &&
            decide (g.id = a.groupId) && decide (g.accountId = a.accountId)) = false := by
          rw [List.any_eq_false]
          rintro g - hg
          obtain ⟨hg, hsame⟩ := Bool.and_eq_true_iff.mp hg
          have hgacc := of_decide_eq_true (Bool.and_eq_true_iff.mp hg).1
          exact hb (hacc.symm.trans ((of_decide_eq_true hsame).symm.trans hgacc))
        rw [hnone, Bool.not_false, Bool.and_true]
      · simp [hacc]
    simp only [Db.rowsOf, hgroups, hassets]

/-- A statement of the account changes its rows only. -/
lemma Statement.confined {β : Type} {q : Statement β} {accountId : Uuid} {db : Db} {b : β}
    {change : Db → Db} (ho : q.Owned accountId db) (h : q.exec db = .ok (b, change)) :
    Confined accountId db change := by
  cases q with
  | selectAccountForUpdate | selectRiskConfig | selectOpenPositions | selectCorrelationGroups
  | selectDailyPnl | selectExchangeConfig | countOpenOrders | countOpenPositions
  | selectOrderForUpdate | selectFills | selectOpenPosition | selectRiskEvents =>
    cases h
    exact .id accountId db
  | insertAccount a equity =>
    obtain rfl : a = accountId := ho
    simp only [Statement.exec, require_bind_eq_ok, column_bind_eq_ok] at h
    obtain ⟨_, -, -, -, h⟩ := h
    cases h
    exact Table.accounts.confined_append rfl
  | insertRiskConfig a =>
    obtain rfl : a = accountId := ho
    simp only [Statement.exec, require_bind_eq_ok] at h
    obtain ⟨-, h⟩ := h
    cases h
    exact Table.riskConfigs.confined_append rfl
  | updateEquity a equity =>
    obtain rfl : a = accountId := ho
    simp only [Statement.exec, require_bind_eq_ok, column_bind_eq_ok] at h
    obtain ⟨_, -, -, h⟩ := h
    cases h
    exact Table.accounts.confined_updateWhere (fun _ => rfl) fun r _ hr => of_decide_eq_true hr
  | engageKillSwitch a | releaseKillSwitch a =>
    obtain rfl : a = accountId := ho
    simp only [Statement.exec, require_bind_eq_ok] at h
    obtain ⟨-, h⟩ := h
    cases h
    exact Table.accounts.confined_updateWhere (fun _ => rfl) fun r _ hr => of_decide_eq_true hr
  | updateRiskConfig a config newVersion currentVersion =>
    obtain rfl : a = accountId := ho
    simp only [Statement.exec, require_bind_eq_ok, column_bind_eq_ok] at h
    obtain ⟨_, -, _, -, _, -, -, h⟩ := h
    cases h
    exact Table.riskConfigs.confined_updateWhere (fun _ => rfl) fun r _ hr =>
      of_decide_eq_true (Bool.and_eq_true_iff.mp hr).1
  | deleteCorrelationGroups a =>
    obtain rfl : a = accountId := ho
    cases h
    exact db.confined_deleteGroups a
  | insertCorrelationGroup id a name =>
    obtain ⟨rfl, -⟩ := ho
    simp only [Statement.exec, require_bind_eq_ok] at h
    obtain ⟨-, -, h⟩ := h
    cases h
    exact Table.groups.confined_append rfl
  | insertCorrelationGroupAsset id a symbol =>
    obtain ⟨rfl, -⟩ := ho
    simp only [Statement.exec, require_bind_eq_ok] at h
    obtain ⟨-, -, -, h⟩ := h
    cases h
    exact Table.assets.confined_append rfl
  | upsertCircuitBreaker a today =>
    obtain rfl : a = accountId := ho
    simp only [Statement.exec] at h
    split_ifs at h
    · cases h
      exact Table.dailyPnl.confined_updateWhere (fun _ => rfl) fun r _ hr =>
        of_decide_eq_true (Bool.and_eq_true_iff.mp hr).1
    · cases h
      -- the change reads the clock, which the account's rows keep
      have hrow : Confined a db fun db' => { db' with
          dailyPnl := db'.dailyPnl ++ [⟨a, today, 0, some db.now⟩] } :=
        Table.dailyPnl.confined_append rfl
      exact ⟨hrow.own, hrow.other⟩
  | insertExchangeConfig row =>
    simp only [Statement.exec, require_bind_eq_ok] at h
    obtain ⟨-, h⟩ := h
    cases h
    exact Table.exchangeConfigs.confined_append ho
  | updateExchangeConfig a mode testnet keyCt secretCt newVersion currentVersion =>
    obtain rfl : a = accountId := ho
    simp only [Statement.exec, require_bind_eq_ok] at h
    obtain ⟨-, h⟩ := h
    cases h
    exact Table.exchangeConfigs.confined_updateWhere (fun _ => rfl) fun r _ hr =>
      of_decide_eq_true (Bool.and_eq_true_iff.mp hr).1
  | insertOrder id a clientOrderId symbol side orderType quantity price exchangeMode =>
    obtain ⟨rfl, -⟩ := ho
    simp only [Statement.exec, column_bind_eq_ok] at h
    obtain ⟨_, -, h⟩ := h
    cases hp : optionalColumn 30 10 price with
    | error e =>
      rw [hp] at h
      cases h
    | ok p =>
      rw [hp] at h
      obtain ⟨-, h⟩ := require_bind_eq_ok.mp h
      obtain ⟨-, h⟩ := require_bind_eq_ok.mp h
      obtain ⟨-, h⟩ := require_bind_eq_ok.mp h
      cases h
      exact Table.orders.confined_append rfl
  | updateOrder a orderId status filledQuantity =>
    obtain rfl : a = accountId := ho
    simp only [Statement.exec, require_bind_eq_ok, column_bind_eq_ok] at h
    obtain ⟨_, -, -, h⟩ := h
    cases h
    exact Table.orders.confined_updateWhere (fun _ => rfl) fun r _ hr =>
      of_decide_eq_true (Bool.and_eq_true_iff.mp hr).2
  | insertFill a orderId fill =>
    obtain rfl : a = accountId := ho
    simp only [Statement.exec, require_bind_eq_ok, column_bind_eq_ok] at h
    obtain ⟨_, -, _, -, _, -, -, h⟩ := h
    split_ifs at h
    · cases h
      exact .id a db
    · cases h
      exact Table.orderFills.confined_append rfl
  | insertCommand a commandType exchangeMode idempotencyKey payload =>
    obtain rfl : a = accountId := ho
    simp only [Statement.exec, require_bind_eq_ok] at h
    obtain ⟨-, h⟩ := h
    split_ifs at h
    · cases h
      exact .id a db
    · cases h
      exact Table.exchangeCommands.confined_append rfl
  | claimCommands limit leaseSeconds locked => exact ho.elim
  | updateCommandStatus id status | requeueCommand id =>
    cases h
    exact Table.exchangeCommands.confined_updateWhere (fun _ => rfl) fun r hmem hr =>
      ho r hmem (of_decide_eq_true hr)
  | insertPosition a symbol side quantity avgEntryPrice =>
    obtain rfl : a = accountId := ho
    simp only [Statement.exec, require_bind_eq_ok, column_bind_eq_ok] at h
    obtain ⟨_, -, _, -, -, -, h⟩ := h
    cases h
    exact Table.positions.confined_append rfl
  | closePosition id =>
    simp only [Statement.exec, require_bind_eq_ok] at h
    obtain ⟨-, h⟩ := h
    cases h
    exact Table.positions.confined_updateWhere (fun _ => rfl) fun r hmem hr =>
      ho r hmem (of_decide_eq_true hr)
  | updatePosition id side quantity avgEntryPrice =>
    simp only [Statement.exec, require_bind_eq_ok, column_bind_eq_ok] at h
    obtain ⟨_, -, _, -, -, h⟩ := h
    cases h
    exact Table.positions.confined_updateWhere (fun _ => rfl) fun r hmem hr =>
      ho r hmem (of_decide_eq_true hr)
  | insertRiskEvent a eventType payload =>
    obtain rfl : a = accountId := ho
    simp only [Statement.exec, require_bind_eq_ok] at h
    obtain ⟨-, h⟩ := h
    cases h
    exact Table.riskEvents.confined_append rfl

/-! ### Keys -/

lemma freshId_append (ids : List ℕ) (i : ℕ) : freshId (ids ++ [i]) = max (freshId ids) (i + 1) := by
  induction ids with
  | nil => simp [freshId]
  | cons j ids ih =>
    simp only [freshId, List.cons_append, List.foldr_cons] at ih ⊢
    omega

/-- The change keeps the keys, and databases that draw the same identifiers go on to do so. -/
structure KeepsKeys (db : Db) (change : Db → Db) : Prop where
  keyed : (change db).Keyed
  positionId : ∀ db₁ db₂ : Db,
    freshId (db₁.positions.map (·.id)) = freshId (db₂.positions.map (·.id)) →
      freshId ((change db₁).positions.map (·.id)) = freshId ((change db₂).positions.map (·.id))
  commandId : ∀ db₁ db₂ : Db,
    freshId (db₁.exchangeCommands.map (·.id)) = freshId (db₂.exchangeCommands.map (·.id)) →
      freshId ((change db₁).exchangeCommands.map (·.id)) =
        freshId ((change db₂).exchangeCommands.map (·.id))

section

variable {db : Db} (hk : db.Keyed)
include hk

/-- Tables without a key here. -/
lemma KeepsKeys.of_tables {change : Db → Db}
    (hpositions : ∀ db, (change db).positions = db.positions)
    (hgroups : ∀ db, (change db).correlationGroups = db.correlationGroups)
    (hassets : ∀ db, (change db).correlationGroupAssets = db.correlationGroupAssets)
    (hcommands : ∀ db, (change db).exchangeCommands = db.exchangeCommands) :
    KeepsKeys db change where
  keyed := ⟨by rw [hpositions]; exact hk.positions, by rw [hgroups]; exact hk.groups,
    by rw [hassets, hgroups]; exact hk.assets⟩
  positionId db₁ db₂ h := by rw [hpositions, hpositions, h]
  commandId db₁ db₂ h := by rw [hcommands, hcommands, h]

lemma KeepsKeys.updatePositions {p : PositionRecord → Bool} {f : PositionRecord → PositionRecord}
    (hf : ∀ r, (f r).id = r.id) :
    KeepsKeys db fun db => { db with positions := updateWhere p f db.positions } where
  keyed := ⟨by rw [map_updateWhere hf]; exact hk.positions, hk.groups, hk.assets⟩
  positionId db₁ db₂ h := by rw [map_updateWhere hf, map_updateWhere hf, h]
  commandId _ _ h := h

lemma KeepsKeys.appendPosition {r : PositionRecord} (hr : r.id = freshId (db.positions.map (·.id))) :
    KeepsKeys db fun db => { db with positions := db.positions ++ [r] } where
  keyed := by
    refine ⟨?_, hk.groups, hk.assets⟩
    rw [List.map_append, List.map_singleton]
    refine hk.positions.append (List.nodup_singleton _) ?_
    rw [List.disjoint_singleton, hr]
    intro hmem
    exact (lt_freshId hmem).false
  positionId db₁ db₂ h := by
    rw [List.map_append, List.map_append, List.map_singleton, freshId_append, freshId_append, h]
  commandId _ _ h := h

lemma KeepsKeys.updateCommands {p : CommandRecord → Bool} {f : CommandRecord → CommandRecord}
    (hf : ∀ r, (f r).id = r.id) :
    KeepsKeys db fun db => { db with exchangeCommands := updateWhere p f db.exchangeCommands } where
  keyed := ⟨hk.positions, hk.groups, hk.assets⟩
  positionId _ _ h := h
  commandId db₁ db₂ h := by rw [map_updateWhere hf, map_updateWhere hf, h]

lemma KeepsKeys.appendCommand (r : CommandRecord) :
    KeepsKeys db fun db => { db with exchangeCommands := db.exchangeCommands ++ [r] } where
  keyed := ⟨hk.positions, hk.groups, hk.assets⟩
  positionId _ _ h := h
  commandId db₁ db₂ h := by
    rw [List.map_append, List.map_append, List.map_singleton, freshId_append, freshId_append, h]

lemma KeepsKeys.appendGroup {r : CorrelationGroupRecord}
    (hr : ∀ g ∈ db.correlationGroups, g.id ≠ r.id) :
    KeepsKeys db fun db => { db with correlationGroups := db.correlationGroups ++ [r] } where
  keyed := by
    refine ⟨hk.positions, ?_, fun a ha => ?_⟩
    · rw [List.map_append, List.map_singleton]
      refine hk.groups.append (List.nodup_singleton _) ?_
      rw [List.disjoint_singleton]
      intro hmem
      obtain ⟨g, hg, hid⟩ := List.mem_map.mp hmem
      exact hr g hg hid
    · obtain ⟨g, hg, hgroup⟩ := hk.assets a ha
      exact ⟨g, List.mem_append_left _ hg, hgroup⟩
  positionId _ _ h := h
  commandId _ _ h := h

lemma KeepsKeys.appendAsset {r : CorrelationGroupAssetRecord}
    (hr : ∃ g ∈ db.correlationGroups, g.id = r.groupId ∧ g.accountId = r.accountId) :
    KeepsKeys db fun db => { db with
      correlationGroupAssets := db.correlationGroupAssets ++ [r] } where
  keyed := by
    refine ⟨hk.positions, hk.groups, fun a ha => ?_⟩
    rcases List.mem_append.mp ha with ha | ha
    · exact hk.assets a ha
    · rw [List.mem_singleton.mp ha]
      exact hr
  positionId _ _ h := h
  commandId _ _ h := h

lemma KeepsKeys.deleteGroups (accountId : Uuid) :
    KeepsKeys db fun db => { db with
      correlationGroups := db.correlationGroups.filter fun g => decide (g.accountId ≠ accountId)
      correlationGroupAssets := db.correlationGroupAssets.filter fun a =>
        !db.correlationGroups.any fun g => decide (g.accountId = accountId) &&
          decide (g.id = a.groupId) && decide (g.accountId = a.accountId) } where
  keyed := by
    refine ⟨hk.positions, hk.groups.sublist (List.filter_sublist.map _), fun a ha => ?_⟩
    obtain ⟨ha, hnone⟩ := List.mem_filter.mp ha
    obtain ⟨g, hg, hid, hacc⟩ := hk.assets a ha
    refine ⟨g, List.mem_filter.mpr ⟨hg, decide_eq_true fun hown => ?_⟩, hid, hacc⟩
    -- the asset of a deleted group is deleted with it
    rw [Bool.not_eq_true', List.any_eq_false] at hnone
    exact hnone g hg (by simp [hown, hid, ← hacc])
  positionId _ _ h := h
  commandId _ _ h := h

/-- Every statement keeps the keys. -/
lemma Statement.keepsKeys {β : Type} {q : Statement β} {b : β} {change : Db → Db}
    (h : q.exec db = .ok (b, change)) : KeepsKeys db change := by
  cases q with
  | selectAccountForUpdate | selectRiskConfig | selectOpenPositions | selectCorrelationGroups
  | selectDailyPnl | selectExchangeConfig | countOpenOrders | countOpenPositions
  | selectOrderForUpdate | selectFills | selectOpenPosition | selectRiskEvents =>
    cases h
    exact .of_tables hk (fun _ => rfl) (fun _ => rfl) (fun _ => rfl) fun _ => rfl
  | engageKillSwitch | releaseKillSwitch | insertExchangeConfig | updateExchangeConfig
  | insertRiskConfig | insertRiskEvent =>
    simp only [Statement.exec, require_bind_eq_ok] at h
    obtain ⟨-, h⟩ := h
    cases h
    exact .of_tables hk (fun _ => rfl) (fun _ => rfl) (fun _ => rfl) fun _ => rfl
  | insertAccount =>
    simp only [Statement.exec, require_bind_eq_ok, column_bind_eq_ok] at h
    obtain ⟨_, -, -, -, h⟩ := h
    cases h
    exact .of_tables hk (fun _ => rfl) (fun _ => rfl) (fun _ => rfl) fun _ => rfl
  | updateEquity | updateOrder =>
    simp only [Statement.exec, require_bind_eq_ok, column_bind_eq_ok] at h
    obtain ⟨_, -, -, h⟩ := h
    cases h
    exact .of_tables hk (fun _ => rfl) (fun _ => rfl) (fun _ => rfl) fun _ => rfl
  | updateRiskConfig =>
    simp only [Statement.exec, require_bind_eq_ok, column_bind_eq_ok] at h
    obtain ⟨_, -, _, -, _, -, -, h⟩ := h
    cases h
    exact .of_tables hk (fun _ => rfl) (fun _ => rfl) (fun _ => rfl) fun _ => rfl
  | deleteCorrelationGroups accountId =>
    cases h
    exact .deleteGroups hk accountId
  | insertCorrelationGroup =>
    simp only [Statement.exec, require_bind_eq_ok] at h
    obtain ⟨hid, -, h⟩ := h
    cases h
    exact .appendGroup hk hid
  | insertCorrelationGroupAsset =>
    simp only [Statement.exec, require_bind_eq_ok] at h
    obtain ⟨-, -, hgroup, h⟩ := h
    cases h
    exact .appendAsset hk hgroup
  | upsertCircuitBreaker =>
    simp only [Statement.exec] at h
    split_ifs at h
    · cases h
      exact .of_tables hk (fun _ => rfl) (fun _ => rfl) (fun _ => rfl) fun _ => rfl
    · cases h
      exact .of_tables hk (fun _ => rfl) (fun _ => rfl) (fun _ => rfl) fun _ => rfl
  | insertOrder id a clientOrderId symbol side orderType quantity price exchangeMode =>
    simp only [Statement.exec, column_bind_eq_ok] at h
    obtain ⟨_, -, h⟩ := h
    cases hp : optionalColumn 30 10 price with
    | error e =>
      rw [hp] at h
      cases h
    | ok p =>
      rw [hp] at h
      obtain ⟨-, h⟩ := require_bind_eq_ok.mp h
      obtain ⟨-, h⟩ := require_bind_eq_ok.mp h
      obtain ⟨-, h⟩ := require_bind_eq_ok.mp h
      cases h
      exact .of_tables hk (fun _ => rfl) (fun _ => rfl) (fun _ => rfl) fun _ => rfl
  | insertFill =>
    simp only [Statement.exec, require_bind_eq_ok, column_bind_eq_ok] at h
    obtain ⟨_, -, _, -, _, -, -, h⟩ := h
    split_ifs at h
    · cases h
      exact .of_tables hk (fun _ => rfl) (fun _ => rfl) (fun _ => rfl) fun _ => rfl
    · cases h
      exact .of_tables hk (fun _ => rfl) (fun _ => rfl) (fun _ => rfl) fun _ => rfl
  | insertCommand =>
    simp only [Statement.exec, require_bind_eq_ok] at h
    obtain ⟨-, h⟩ := h
    split_ifs at h
    · cases h
      exact .of_tables hk (fun _ => rfl) (fun _ => rfl) (fun _ => rfl) fun _ => rfl
    · cases h
      exact .appendCommand hk _
  | claimCommands | updateCommandStatus | requeueCommand =>
    cases h
    exact .updateCommands hk fun _ => rfl
  | insertPosition =>
    simp only [Statement.exec, require_bind_eq_ok, column_bind_eq_ok] at h
    obtain ⟨_, -, _, -, -, -, h⟩ := h
    cases h
    exact .appendPosition hk rfl
  | closePosition =>
    simp only [Statement.exec, require_bind_eq_ok] at h
    obtain ⟨-, h⟩ := h
    cases h
    exact .updatePositions hk fun _ => rfl
  | updatePosition =>
    simp only [Statement.exec, require_bind_eq_ok, column_bind_eq_ok] at h
    obtain ⟨_, -, _, -, -, h⟩ := h
    cases h
    exact .updatePositions hk fun _ => rfl

end

end Confluence
