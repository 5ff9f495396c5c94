import Confluence.Library.Tables
import Confluence.Properties.AttendedOrders
import Confluence.Server.Service

/-!
# What is never lost

Whatever happens to the service, its tables only grow: events and fills stay as they were written,
orders keep their terms, commands keep what they say, positions stay open, and a trip of the circuit
breaker keeps its time. Only the groups of symbols are ever deleted.
-/

namespace Confluence

/-- An order without its progress. -/
def OrderRecord.terms (r : OrderRecord) : OrderRecord :=
  { r with status := .pending, filledQuantity := 0 }

/-- A position without what fills change. -/
def PositionRecord.holding (r : PositionRecord) : PositionRecord :=
  { r with side := .long, quantity := 0, avgEntryPrice := 0 }

/-- A later row of the same command. -/
structure CommandRecord.Later (r r' : CommandRecord) : Prop where
  claimed : r'.claimed = r.claimed
  idempotencyKey : r'.idempotencyKey = r.idempotencyKey
  createdAt : r'.createdAt = r.createdAt
  attempts : r.attempts ≤ r'.attempts

/-- A later row of the same day: the first trip's time stays. -/
structure DailyPnlRecord.Later (r r' : DailyPnlRecord) : Prop where
  accountId : r'.accountId = r.accountId
  tradingDate : r'.tradingDate = r.tradingDate
  realizedLoss : r'.realizedLoss = r.realizedLoss
  tripped : ∀ t, r.circuitBreakerTrippedAt = some t → r'.circuitBreakerTrippedAt = some t

/-- The second database is a later one of the first. -/
structure Db.GrowsTo (db db' : Db) : Prop where
  now : db.now ≤ db'.now
  accounts : db.accounts.map (·.id) <+: db'.accounts.map (·.id)
  riskConfigs : db.riskConfigs.map (·.accountId) <+: db'.riskConfigs.map (·.accountId)
  positions : db.positions.map (·.holding) <+: db'.positions.map (·.holding)
  dailyPnl : Grown DailyPnlRecord.Later db.dailyPnl db'.dailyPnl
  orders : db.orders.map (·.terms) <+: db'.orders.map (·.terms)
  orderFills : db.orderFills <+: db'.orderFills
  exchangeConfigs : db.exchangeConfigs.map (·.accountId) <+: db'.exchangeConfigs.map (·.accountId)
  exchangeCommands : Grown CommandRecord.Later db.exchangeCommands db'.exchangeCommands
  riskEvents : db.riskEvents <+: db'.riskEvents

lemma CommandRecord.Later.refl (r : CommandRecord) : r.Later r := ⟨rfl, rfl, rfl, le_rfl⟩

lemma CommandRecord.Later.trans {r r' r'' : CommandRecord} (h : r.Later r') (h' : r'.Later r'') :
    r.Later r'' :=
  ⟨h'.claimed.trans h.claimed, h'.idempotencyKey.trans h.idempotencyKey,
    h'.createdAt.trans h.createdAt, h.attempts.trans h'.attempts⟩

lemma DailyPnlRecord.Later.refl (r : DailyPnlRecord) : r.Later r := ⟨rfl, rfl, rfl, fun _ h => h⟩

lemma DailyPnlRecord.Later.trans {r r' r'' : DailyPnlRecord} (h : r.Later r') (h' : r'.Later r'') :
    r.Later r'' :=
  ⟨h'.accountId.trans h.accountId, h'.tradingDate.trans h.tradingDate,
    h'.realizedLoss.trans h.realizedLoss, fun t ht => h'.tripped t (h.tripped t ht)⟩

namespace Db.GrowsTo

variable {db db' db'' : Db}

lemma refl (db : Db) : db.GrowsTo db where
  now := le_rfl
  accounts := List.prefix_rfl
  riskConfigs := List.prefix_rfl
  positions := List.prefix_rfl
  dailyPnl := .refl .refl _
  orders := List.prefix_rfl
  orderFills := List.prefix_rfl
  exchangeConfigs := List.prefix_rfl
  exchangeCommands := .refl .refl _
  riskEvents := List.prefix_rfl

lemma trans (h : db.GrowsTo db') (h' : db'.GrowsTo db'') : db.GrowsTo db'' where
  now := h.now.trans h'.now
  accounts := h.accounts.trans h'.accounts
  riskConfigs := h.riskConfigs.trans h'.riskConfigs
  positions := h.positions.trans h'.positions
  dailyPnl := h.dailyPnl.trans (fun _ _ _ => .trans) h'.dailyPnl
  orders := h.orders.trans h'.orders
  orderFills := h.orderFills.trans h'.orderFills
  exchangeConfigs := h.exchangeConfigs.trans h'.exchangeConfigs
  exchangeCommands := h.exchangeCommands.trans (fun _ _ _ => .trans) h'.exchangeCommands
  riskEvents := h.riskEvents.trans h'.riskEvents

end Db.GrowsTo

section

variable {ρ κ : Type} {p : ρ → Bool} {f : ρ → ρ}

lemma prefix_map_append (key : ρ → κ) (rows : List ρ) (r : ρ) :
    rows.map key <+: (rows ++ [r]).map key := by
  rw [List.map_append]
  exact List.prefix_append ..

/-- Columns that an update leaves alone. -/
lemma prefix_map_updateWhere {key : ρ → κ} (h : ∀ r, key (f r) = key r) (rows : List ρ) :
    rows.map key <+: (updateWhere p f rows).map key := by
  rw [map_updateWhere h]

lemma grown_updateWhere {R : ρ → ρ → Prop} (hR : ∀ r, R r r) (hf : ∀ r, R r (f r))
    (rows : List ρ) : Grown R rows (updateWhere p f rows) := by
  refine Grown.map (fun r => ?_) rows
  split_ifs
  · exact hf r
  · exact hR r

end

/-- Every change of a table leads to a later database. -/
lemma TableStep.growsTo {own : Uuid → Prop} {db db' : Db} (h : TableStep own db db') :
    db.GrowsTo db' := by
  have hrefl := Db.GrowsTo.refl db
  cases h with
  | unchanged => exact hrefl
  | accountInserted => exact { hrefl with accounts := prefix_map_append .. }
  | accountsUpdated _ _ hkey => exact { hrefl with accounts := prefix_map_updateWhere hkey _ }
  | riskConfigInserted => exact { hrefl with riskConfigs := prefix_map_append .. }
  | riskConfigsUpdated _ _ hkey => exact { hrefl with riskConfigs := prefix_map_updateWhere hkey _ }
  | groupsDeleted | groupInserted | assetInserted => exact { hrefl with }
  | dayInserted => exact { hrefl with dailyPnl := Grown.append .refl _ _ }
  | daysTripped =>
    refine { hrefl with dailyPnl := grown_updateWhere .refl (fun r => ?_) _ }
    refine ⟨rfl, rfl, rfl, fun t ht => ?_⟩
    -- the first trip's time wins
    simp [ht]
  | configInserted => exact { hrefl with exchangeConfigs := prefix_map_append .. }
  | configsUpdated _ hkey _ => exact { hrefl with exchangeConfigs := prefix_map_updateWhere hkey _ }
  | orderInserted => exact { hrefl with orders := prefix_map_append .. }
  | ordersUpdated =>
    refine { hrefl with orders := prefix_map_updateWhere ?_ _ }
    intro r
    rfl
  | fillInserted => exact { hrefl with orderFills := List.prefix_append .. }
  | commandInserted => exact { hrefl with exchangeCommands := Grown.append .refl _ _ }
  | commandsUpdated _ hkey =>
    refine { hrefl with exchangeCommands := grown_updateWhere .refl (fun r => ?_) _ }
    obtain ⟨hclaimed, hidempotency, hcreated, hattempts⟩ := hkey r
    exact ⟨hclaimed, hidempotency, hcreated, hattempts⟩
  | positionInserted => exact { hrefl with positions := prefix_map_append .. }
  | positionsUpdated =>
    refine { hrefl with positions := prefix_map_updateWhere ?_ _ }
    intro r
    rfl
  | eventInserted => exact { hrefl with riskEvents := List.prefix_append .. }

lemma Db.GrowsTo.tick (db : Db) (seconds : ℕ) :
    db.GrowsTo { db with now := db.now + seconds } :=
  { Db.GrowsTo.refl db with now := Nat.le_add_right _ _ }

lemma growsTo_of_serviceStep {s s' : Server} {a : ServiceAction} (h : s.serviceStep a = some s') :
    s.db.GrowsTo s'.db := by
  refine keeps_serviceStep (I := fun db => s.db.GrowsTo db) ?_ ?_ h (.refl _)
  · intro db db' h hchange
    exact h.trans hchange.growsTo
  · intro db seconds h
    exact h.trans (.tick db seconds)

/-- Workers hold commands that are in the table. -/
lemma claimed_of_serviceStep {s s' : Server} {a : ServiceAction}
    (hs : ∀ t ∈ s.tasks, ∃ r ∈ s.db.exchangeCommands, r.claimed = t.cmd)
    (h : s.serviceStep a = some s') :
    ∀ t ∈ s'.tasks, ∃ r ∈ s'.db.exchangeCommands, r.claimed = t.cmd := by
  have hkept {cmd : ClaimedCommand} (h' : ∃ r ∈ s.db.exchangeCommands, r.claimed = cmd) :
      ∃ r ∈ s'.db.exchangeCommands, r.claimed = cmd := by
    obtain ⟨r, hr, hcmd⟩ := h'
    obtain ⟨r', hr', hlater⟩ := (growsTo_of_serviceStep h).exchangeCommands.exists_mem hr
    exact ⟨r', hr', hlater.claimed.trans hcmd⟩
  intro t ht
  cases serviceStep_of_step h with
  | refused | created | regrouped => exact hkept (hs t ht)
  | @fault i supervisor n task next htask hnext =>
    rcases mem_updateTask htask ht with ht | ⟨stage, -, rfl⟩
    · exact hkept (hs t ht)
    · exact hkept (hs task (List.mem_of_getElem? htask))
  | server h =>
    cases h with
    | tick | enqueueCancel | request => exact hkept (hs t ht)
    | crash hi => exact hkept (hs t ((List.eraseIdx_sublist ..).subset ht))
    | claim limit locked =>
      rcases List.mem_append.mp ht with ht | ht
      · exact hkept (hs t ht)
      · obtain ⟨cmd, hcmd, rfl⟩ := List.mem_map.mp ht
        obtain ⟨r, hr, -, hr'⟩ := mem_claimedCommands hcmd
        exact hkept ⟨r, hr, hr'⟩
    | @advance i supervisor task next db' htask hworker =>
      rcases mem_updateTask htask ht with ht | ⟨stage, -, rfl⟩
      · exact hkept (hs t ht)
      · exact hkept (hs task (List.mem_of_getElem? htask))

/-- In every run of the service, the later database has grown from the earlier one. -/
theorem run_growsTo {init : Server → Prop} {ok : Server → ServiceAction → Prop} {s s' : Server}
    {as : List ServiceAction} (hrun : (service init).Run ok s as s') : s.db.GrowsTo s'.db := by
  refine hrun.preserves (I := fun t => s.db.GrowsTo t.db) ?_ (.refl _)
  intro t a t' ht _ hstep
  exact ht.trans (growsTo_of_serviceStep hstep)

/-! ### A trade of a new account -/

/-- A new account, its order of one unit, and a worker that takes the order to its fill. -/
def openAndTrade : List ServiceAction :=
  .createAccount ⟨1⟩ (some 10000) ::
    (orderAndReconcile { buyTen with quantity := 1 }).map fun a => .act (.act a)

/-- From the placed order to its fill. -/
theorem run_growsTo_openAndTrade :
    ∃ s s', (service (· = .fresh)).Run (fun _ _ => True) s (openAndTrade.drop 2) s' ∧
      s.db.orders.length = 1 ∧ s'.db.orderFills.length = 1 ∧ s.db.GrowsTo s'.db := by
  have hplaced : ((service (· = .fresh)).exec (fun _ _ => True) .fresh (openAndTrade.take 2)).all
      (fun s => s.db.orders.length == 1) = true := by
    decide +kernel
  have hfilled : ((service (· = .fresh)).exec (fun _ _ => True) .fresh openAndTrade).any
      (fun s => s.db.orderFills.length == 1) = true := by
    decide +kernel
  obtain ⟨s', hrun, hs'⟩ := Machine.exists_run_of_exec hfilled
  rw [← List.take_append_drop 2 openAndTrade] at hrun
  obtain ⟨s, htake, hdrop⟩ := hrun.split
  exact ⟨s, s', hdrop, eq_of_beq (htake.of_exec hplaced), eq_of_beq hs', run_growsTo hdrop⟩

end Confluence
