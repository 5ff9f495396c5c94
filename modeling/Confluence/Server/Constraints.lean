import Confluence.Server.Positions
import Confluence.Server.TableSteps
import Confluence.Server.Tenancy

/-!
# Constraints of the tables

The checks, the unique indexes and the foreign keys of the migrations. Every change that a statement
makes keeps the checks and the indexes, and changes to rows of accounts that exist keep the foreign
keys to the accounts, which the statements do not test.
-/

namespace Confluence

/-- The checks of the columns and the unique indexes. -/
structure Db.Constrained (db : Db) : Prop where
  accounts : ∀ r ∈ db.accounts, r.Checked
  accountIds : (db.accounts.map (·.id)).Nodup
  riskConfigs : ∀ r ∈ db.riskConfigs, r.Checked
  riskConfigKeys : (db.riskConfigs.map (·.accountId)).Nodup
  groupIds : (db.correlationGroups.map (·.id)).Nodup
  groupNames : (db.correlationGroups.map fun r => (r.accountId, r.name)).Nodup
  assetKeys : (db.correlationGroupAssets.map fun r => (r.groupId, r.symbol)).Nodup
  assetSymbols : (db.correlationGroupAssets.map fun r => (r.accountId, r.symbol)).Nodup
  assetGroups : ∀ a ∈ db.correlationGroupAssets, ∃ g ∈ db.correlationGroups,
    g.id = a.groupId ∧ g.accountId = a.accountId
  positions : PositionsValid db.positions
  dailyPnl : ∀ r ∈ db.dailyPnl, r.realizedLoss ≥ 0
  days : (db.dailyPnl.map fun r => (r.accountId, r.tradingDate)).Nodup
  orders : ∀ r ∈ db.orders, r.Checked
  orderIds : (db.orders.map (·.id)).Nodup
  clientOrderIds : (db.orders.map fun r => (r.accountId, r.clientOrderId)).Nodup
  fills : ∀ r ∈ db.orderFills, r.Checked
  tradeIds : (db.orderFills.map fun r => (r.accountId, r.fill.exchangeTradeId)).Nodup
  configKeys : (db.exchangeConfigs.map (·.accountId)).Nodup
  commands : ∀ r ∈ db.exchangeCommands, r.Checked
  commandIds : (db.exchangeCommands.map (·.id)).Nodup
  idempotencyKeys : (db.exchangeCommands.map fun r => (r.accountId, r.idempotencyKey)).Nodup
  events : ∀ r ∈ db.riskEvents, r.Checked

/-! ### Changes -/

section

variable {own : Uuid → Prop} {db db' : Db} {ρ κ : Type}

lemma forall_append {P : ρ → Prop} {rows : List ρ} {r : ρ} (h : ∀ r ∈ rows, P r)
    (hr : P r) : ∀ r' ∈ rows ++ [r], P r' := by
  intro r' hr'
  rcases List.mem_append.mp hr' with hr' | hr'
  · exact h r' hr'
  · rw [List.mem_singleton.mp hr']
    exact hr

lemma forall_updateWhere {P : ρ → Prop} {rows : List ρ} {p : ρ → Bool} {f : ρ → ρ}
    (h : ∀ r ∈ rows, P r) (hf : ∀ r ∈ rows, p r = true → P (f r)) :
    ∀ r ∈ updateWhere p f rows, P r := by
  intro r' hr'
  obtain ⟨r, hr, rfl⟩ := mem_updateWhere.mp hr'
  split_ifs with hp
  · exact hf r hr hp
  · exact h r hr

lemma nodup_map_append {rows : List ρ} {key : ρ → κ} {r : ρ} (h : (rows.map key).Nodup)
    (hr : ∀ r' ∈ rows, key r' ≠ key r) : ((rows ++ [r]).map key).Nodup := by
  rw [List.map_append, List.map_singleton]
  refine h.append (List.nodup_singleton _) ?_
  rw [List.disjoint_singleton]
  intro hmem
  obtain ⟨r', hr', heq⟩ := List.mem_map.mp hmem
  exact hr r' hr' heq

lemma nodup_map_updateWhere {rows : List ρ} {key : ρ → κ} {p : ρ → Bool} {f : ρ → ρ}
    (h : (rows.map key).Nodup) (hf : ∀ r, key (f r) = key r) :
    ((updateWhere p f rows).map key).Nodup := by
  rw [map_updateWhere hf]
  exact h

lemma nodup_map_filter {rows : List ρ} {key : ρ → κ} {p : ρ → Bool} (h : (rows.map key).Nodup) :
    ((rows.filter p).map key).Nodup :=
  h.sublist (List.filter_sublist.map key)

/-- The rows that an update picks out pass the checks, and the others did already. -/
lemma checked_updateWhere {rows : List ρ} {P : ρ → Prop} {p : ρ → Bool} {f : ρ → ρ}
    (h : ∀ r ∈ rows, P r) (hf : ∀ r ∈ rows.filter p, P (f r)) :
    ∀ r ∈ updateWhere p f rows, P r :=
  forall_updateWhere h fun r hr hp => hf r (List.mem_filter.mpr ⟨hr, hp⟩)

/-- The defaults of the columns pass their checks. -/
lemma checked_placeholder (accountId : Uuid) : (RiskConfigRecord.placeholder accountId).Checked := by
  norm_num [RiskConfigRecord.Checked, RiskConfigRecord.placeholder]

/-- A new identifier is none of those that are there. -/
lemma ne_freshId {ids : List ℕ} {i : ℕ} (h : i ∈ ids) : i ≠ freshId ids :=
  (lt_freshId h).ne

/-- A first open position on a symbol. -/
lemma PositionsValid.append (hv : PositionsValid db.positions) {r : PositionRecord} (hr : r.Checked)
    (hfits : Numeric.Fits 30 10 r.quantity ∧ Numeric.Fits 30 10 r.avgEntryPrice)
    (hid : r.id = freshId (db.positions.map (·.id))) (hkey : db.openOn r.accountId r.symbol = []) :
    PositionsValid (db.positions ++ [r]) where
  ids := nodup_map_append hv.ids fun r' hr' => by
    rw [hid]
    exact ne_freshId (List.mem_map_of_mem hr')
  fits := forall_append hv.fits hfits
  checked := forall_append hv.checked hr
  oneOpen := by
    have hnone : ∀ r' ∈ db.positions, r'.status = .open → r'.accountId = r.accountId →
        r'.symbol ≠ r.symbol := by
      intro r' hr' hopen hacc hsymbol
      have hmem : r' ∈ db.openOn r.accountId r.symbol :=
        List.mem_filter.mpr ⟨hr', by simp [hopen, hacc, hsymbol]⟩
      rw [hkey] at hmem
      cases hmem
    intro r₁ h₁ r₂ h₂ hopen₁ hopen₂ hacc hsymbol
    rcases List.mem_append.mp h₁ with h₁ | h₁ <;> rcases List.mem_append.mp h₂ with h₂ | h₂
    · exact hv.oneOpen r₁ h₁ r₂ h₂ hopen₁ hopen₂ hacc hsymbol
    · rw [List.mem_singleton.mp h₂] at hacc hsymbol
      exact (hnone r₁ h₁ hopen₁ hacc hsymbol).elim
    · rw [List.mem_singleton.mp h₁] at hacc hsymbol
      exact (hnone r₂ h₂ hopen₂ hacc.symm hsymbol.symm).elim
    · rw [List.mem_singleton.mp h₁, List.mem_singleton.mp h₂]

/-- Positions that are rewritten stay on their symbol. -/
lemma PositionsValid.updateWhere (hv : PositionsValid db.positions) {p : PositionRecord → Bool}
    {side : PositionSide} {quantity avgEntryPrice : Decimal}
    (hfits : Numeric.Fits 30 10 quantity ∧ Numeric.Fits 30 10 avgEntryPrice)
    (hr : ∀ r ∈ db.positions.filter p,
      PositionRecord.Checked { r with side, quantity, avgEntryPrice }) :
    PositionsValid (updateWhere p (fun r => { r with side, quantity, avgEntryPrice }) db.positions)
    where
  ids := nodup_map_updateWhere hv.ids fun _ => rfl
  fits := forall_updateWhere hv.fits fun _ _ _ => hfits
  checked := checked_updateWhere hv.checked hr
  oneOpen := by
    have hkept (r : PositionRecord) : ∃ side' quantity' price',
        (if p r then { r with side, quantity, avgEntryPrice } else r) =
          { r with side := side', quantity := quantity', avgEntryPrice := price' } := by
      split_ifs
      · exact ⟨_, _, _, rfl⟩
      · exact ⟨_, _, _, rfl⟩
    intro r₁ h₁ r₂ h₂ hopen₁ hopen₂ hacc hsymbol
    obtain ⟨r₁, hmem₁, rfl⟩ := mem_updateWhere.mp h₁
    obtain ⟨r₂, hmem₂, rfl⟩ := mem_updateWhere.mp h₂
    obtain ⟨_, _, _, heq₁⟩ := hkept r₁
    obtain ⟨_, _, _, heq₂⟩ := hkept r₂
    rw [heq₁] at hopen₁ hacc hsymbol ⊢
    rw [heq₂] at hopen₂ hacc hsymbol ⊢
    exact hv.oneOpen r₁ hmem₁ r₂ hmem₂ hopen₁ hopen₂ hacc hsymbol

/-- Every change keeps the constraints. -/
lemma TableStep.constrained (h : TableStep own db db') (hc : db.Constrained) : db'.Constrained := by
  cases h with
  | unchanged => exact hc
  | accountInserted _ hr hkey =>
    exact { hc with
      accounts := forall_append hc.accounts hr
      accountIds := nodup_map_append hc.accountIds hkey }
  | accountsUpdated _ hr hkey =>
    exact { hc with
      accounts := checked_updateWhere hc.accounts hr
      accountIds := nodup_map_updateWhere hc.accountIds hkey }
  | riskConfigInserted _ hkey =>
    exact { hc with
      riskConfigs := forall_append hc.riskConfigs (checked_placeholder _)
      riskConfigKeys := nodup_map_append hc.riskConfigKeys hkey }
  | riskConfigsUpdated _ hr hkey =>
    exact { hc with
      riskConfigs := checked_updateWhere hc.riskConfigs hr
      riskConfigKeys := nodup_map_updateWhere hc.riskConfigKeys hkey }
  | @groupsDeleted accountId _ =>
    refine { hc with
      groupIds := nodup_map_filter hc.groupIds
      groupNames := nodup_map_filter hc.groupNames
      assetKeys := nodup_map_filter hc.assetKeys
      assetSymbols := nodup_map_filter hc.assetSymbols
      assetGroups := fun a ha => ?_ }
    obtain ⟨ha, hkept⟩ := List.mem_filter.mp ha
    obtain ⟨g, hg, hid, hacc⟩ := hc.assetGroups a ha
    refine ⟨g, List.mem_filter.mpr ⟨hg, ?_⟩, hid, hacc⟩
    by_contra hdeleted
    have hown : g.accountId = accountId := by simpa using hdeleted
    have hgone : (db.correlationGroups.any fun g => decide (g.accountId = accountId) &&
        decide (g.id = a.groupId) && decide (g.accountId = a.accountId)) = true :=
      List.any_eq_true.mpr ⟨g, hg, by simp [hown, hid, ← hacc]⟩
    simp [hgone] at hkept
  | groupInserted _ hid hname =>
    refine { hc with
      groupIds := nodup_map_append hc.groupIds hid
      groupNames := nodup_map_append hc.groupNames fun g hg heq => ?_
      assetGroups := fun a ha => ?_ }
    · obtain ⟨hacc, hsame⟩ := Prod.mk.inj heq
      exact hname g hg hacc hsame
    · obtain ⟨g, hg, hsame⟩ := hc.assetGroups a ha
      exact ⟨g, List.mem_append_left _ hg, hsame⟩
  | assetInserted _ hkey hsymbol hgroup =>
    refine { hc with
      assetKeys := nodup_map_append hc.assetKeys fun a ha heq => ?_
      assetSymbols := nodup_map_append hc.assetSymbols fun a ha heq => ?_
      assetGroups := forall_append hc.assetGroups hgroup }
    · obtain ⟨hid, hsame⟩ := Prod.mk.inj heq
      exact hkey a ha hid hsame
    · obtain ⟨hacc, hsame⟩ := Prod.mk.inj heq
      exact hsymbol a ha hacc hsame
  | dayInserted _ hkey =>
    refine { hc with
      dailyPnl := forall_append hc.dailyPnl le_rfl
      days := nodup_map_append hc.days fun r hr heq => ?_ }
    obtain ⟨hacc, hdate⟩ := Prod.mk.inj heq
    exact hkey r hr hacc hdate
  | daysTripped =>
    exact { hc with
      dailyPnl := forall_updateWhere hc.dailyPnl fun r hr _ => hc.dailyPnl r hr
      days := nodup_map_updateWhere hc.days fun _ => rfl }
  | configInserted _ hkey =>
    exact { hc with configKeys := nodup_map_append hc.configKeys hkey }
  | configsUpdated _ hkey _ =>
    exact { hc with configKeys := nodup_map_updateWhere hc.configKeys hkey }
  | orderInserted _ hr _ _ hid hclient =>
    refine { hc with
      orders := forall_append hc.orders hr
      orderIds := nodup_map_append hc.orderIds hid
      clientOrderIds := nodup_map_append hc.clientOrderIds fun r hr heq => ?_ }
    obtain ⟨hacc, hsame⟩ := Prod.mk.inj heq
    exact hclient r hr hacc hsame
  | ordersUpdated _ hr =>
    exact { hc with
      orders := checked_updateWhere hc.orders hr
      orderIds := nodup_map_updateWhere hc.orderIds fun _ => rfl
      clientOrderIds := nodup_map_updateWhere hc.clientOrderIds fun _ => rfl }
  | fillInserted _ hr _ hkey =>
    refine { hc with
      fills := forall_append hc.fills hr
      tradeIds := nodup_map_append hc.tradeIds fun r hr heq => ?_ }
    obtain ⟨hacc, hsame⟩ := Prod.mk.inj heq
    exact hkey r hr hacc hsame
  | commandInserted _ hr hid hkey =>
    refine { hc with
      commands := forall_append hc.commands hr
      commandIds := nodup_map_append hc.commandIds fun r hr => ?_
      idempotencyKeys := nodup_map_append hc.idempotencyKeys fun r hr heq => ?_ }
    · rw [hid]
      exact ne_freshId (List.mem_map_of_mem hr)
    · obtain ⟨hacc, hsame⟩ := Prod.mk.inj heq
      exact hkey r hr hacc hsame
  | @commandsUpdated p f _ hkey =>
    refine { hc with
      commands := forall_updateWhere hc.commands fun r hr _ => ?_
      commandIds := nodup_map_updateWhere hc.commandIds fun r => congrArg ClaimedCommand.id (hkey r).1
      idempotencyKeys := nodup_map_updateWhere hc.idempotencyKeys fun r => ?_ }
    · have htype : (f r).commandType = r.commandType :=
        congrArg ClaimedCommand.commandType (hkey r).1
      rw [CommandRecord.Checked, htype]
      exact hc.commands r hr
    · have hacc : (f r).accountId = r.accountId := congrArg ClaimedCommand.accountId (hkey r).1
      rw [hacc, (hkey r).2.1]
  | positionInserted _ hr hfits hid _ hkey =>
    exact { hc with positions := hc.positions.append hr hfits hid hkey }
  | positionsUpdated _ hfits hr => exact { hc with positions := hc.positions.updateWhere hfits hr }
  | eventInserted _ hr => exact { hc with events := forall_append hc.events hr }

end

lemma constrained_empty : Db.empty.Constrained := by
  have hpositions : PositionsValid Db.empty.positions :=
    ⟨List.nodup_nil, by simp [Db.empty], by simp [Db.empty], by simp [Db.empty]⟩
  constructor <;> first
    | exact hpositions
    | exact List.nodup_nil
    | (rintro _ ⟨⟩)

lemma Db.Constrained.keyed {db : Db} (h : db.Constrained) : db.Keyed :=
  ⟨h.positions.ids, h.groupIds, h.assetGroups⟩

/-! ### Foreign keys -/

def Db.HasAccount (db : Db) (accountId : Uuid) : Prop := ∃ r ∈ db.accounts, r.id = accountId

/-- Every row is one of an account. -/
structure Db.ForeignKeys (db : Db) : Prop where
  riskConfigs : ∀ r ∈ db.riskConfigs, db.HasAccount r.accountId
  groups : ∀ r ∈ db.correlationGroups, db.HasAccount r.accountId
  assets : ∀ r ∈ db.correlationGroupAssets, db.HasAccount r.accountId
  positions : ∀ r ∈ db.positions, db.HasAccount r.accountId
  dailyPnl : ∀ r ∈ db.dailyPnl, db.HasAccount r.accountId
  orders : ∀ r ∈ db.orders, db.HasAccount r.accountId
  fills : ∀ r ∈ db.orderFills, db.HasAccount r.accountId
  configs : ∀ r ∈ db.exchangeConfigs, db.HasAccount r.accountId
  commands : ∀ r ∈ db.exchangeCommands, db.HasAccount r.accountId
  events : ∀ r ∈ db.riskEvents, db.HasAccount r.accountId

section

variable {own : Uuid → Prop} {db db' : Db}

lemma Db.HasAccount.append {accountId : Uuid} (h : db.HasAccount accountId) (r : AccountRecord) :
    { db with accounts := db.accounts ++ [r] : Db }.HasAccount accountId := by
  obtain ⟨r', hr', hid⟩ := h
  exact ⟨r', List.mem_append_left _ hr', hid⟩

/-- Changes to the rows of accounts that exist keep the foreign keys. -/
lemma TableStep.foreignKeys (h : TableStep own db db') (hown : ∀ a, own a → db.HasAccount a)
    (hk : db.ForeignKeys) : db'.ForeignKeys := by
  cases h with
  | unchanged => exact hk
  | accountInserted ha _ hkey =>
    obtain ⟨r, hr, hid⟩ := hown _ ha
    exact (hkey r hr hid).elim
  | @accountsUpdated p f _ _ hkey =>
    have hkept {a : Uuid} (ha : db.HasAccount a) :
        { db with accounts := updateWhere p f db.accounts : Db }.HasAccount a := by
      obtain ⟨r, hr, hid⟩ := ha
      refine ⟨_, mem_updateWhere.mpr ⟨r, hr, rfl⟩, ?_⟩
      split_ifs
      · rw [hkey, hid]
      · exact hid
    exact ⟨fun r hr => hkept (hk.riskConfigs r hr), fun r hr => hkept (hk.groups r hr),
      fun r hr => hkept (hk.assets r hr), fun r hr => hkept (hk.positions r hr),
      fun r hr => hkept (hk.dailyPnl r hr), fun r hr => hkept (hk.orders r hr),
      fun r hr => hkept (hk.fills r hr), fun r hr => hkept (hk.configs r hr),
      fun r hr => hkept (hk.commands r hr), fun r hr => hkept (hk.events r hr)⟩
  | riskConfigInserted ha =>
    exact { hk with riskConfigs := forall_append hk.riskConfigs (hown _ ha) }
  | riskConfigsUpdated _ _ hkey =>
    refine { hk with riskConfigs := forall_updateWhere hk.riskConfigs fun r hr _ => ?_ }
    rw [hkey]
    exact hk.riskConfigs r hr
  | groupsDeleted =>
    exact { hk with
      groups := fun r hr => hk.groups r (List.mem_of_mem_filter hr)
      assets := fun r hr => hk.assets r (List.mem_of_mem_filter hr) }
  | groupInserted ha => exact { hk with groups := forall_append hk.groups (hown _ ha) }
  | assetInserted ha => exact { hk with assets := forall_append hk.assets (hown _ ha) }
  | dayInserted ha => exact { hk with dailyPnl := forall_append hk.dailyPnl (hown _ ha) }
  | daysTripped =>
    exact { hk with
      dailyPnl := forall_updateWhere hk.dailyPnl fun r hr _ => hk.dailyPnl r hr }
  | configInserted ha => exact { hk with configs := forall_append hk.configs (hown _ ha) }
  | configsUpdated _ hkey _ =>
    refine { hk with configs := forall_updateWhere hk.configs fun r hr _ => ?_ }
    rw [hkey]
    exact hk.configs r hr
  | orderInserted ha => exact { hk with orders := forall_append hk.orders (hown _ ha) }
  | ordersUpdated =>
    exact { hk with orders := forall_updateWhere hk.orders fun r hr _ => hk.orders r hr }
  | fillInserted ha => exact { hk with fills := forall_append hk.fills (hown _ ha) }
  | commandInserted ha => exact { hk with commands := forall_append hk.commands (hown _ ha) }
  | @commandsUpdated p f _ hkey =>
    refine { hk with commands := forall_updateWhere hk.commands fun r hr _ => ?_ }
    have hacc : (f r).accountId = r.accountId := congrArg ClaimedCommand.accountId (hkey r).1
    rw [hacc]
    exact hk.commands r hr
  | positionInserted ha => exact { hk with positions := forall_append hk.positions (hown _ ha) }
  | positionsUpdated =>
    exact { hk with positions := forall_updateWhere hk.positions fun r hr _ => hk.positions r hr }
  | eventInserted ha => exact { hk with events := forall_append hk.events (hown _ ha) }

end

end Confluence
