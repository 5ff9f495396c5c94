import Confluence.Properties.SchemaConstraints

/-!
# Frozen modes

A position that is opened is never closed: `close_position` writes a quantity of zero, which the check
of the table refuses. The trigger lets no account with an open position switch its mode, so that the
first position of an account with a configuration freezes its mode for good.
-/

namespace Confluence

/-- The account holds a position. -/
def Db.Holds (accountId : Uuid) (db : Db) : Prop :=
  ∃ p ∈ db.positions, p.accountId = accountId

/-- The account has a configuration row, and the mode in every such row. -/
def Db.ConfiguredAs (accountId : Uuid) (mode : ExchangeMode) (db : Db) : Prop :=
  (∃ r ∈ db.exchangeConfigs, r.accountId = accountId) ∧
    ∀ r ∈ db.exchangeConfigs, r.accountId = accountId → r.mode = mode

section

variable {own : Uuid → Prop} {db db' : Db} {accountId : Uuid} {mode : ExchangeMode}

/-- Positions are open when they are inserted, and stay so. -/
lemma TableStep.positions_open (h : TableStep own db db') (hopen : ∀ p ∈ db.positions, p.status = .open) :
    ∀ p ∈ db'.positions, p.status = .open := by
  cases h with
  | positionInserted _ _ _ _ hnew => exact forall_append hopen hnew
  | positionsUpdated => exact forall_updateWhere hopen fun p hp _ => hopen p hp
  | _ => exact hopen

lemma TableStep.holds (h : TableStep own db db') (hp : db.Holds accountId) : db'.Holds accountId := by
  obtain ⟨p, hp, hacc⟩ := hp
  cases h with
  | positionInserted => exact ⟨p, List.mem_append_left _ hp, hacc⟩
  | positionsUpdated =>
    refine ⟨_, mem_updateWhere.mpr ⟨p, hp, rfl⟩, ?_⟩
    split_ifs
    · exact hacc
    · exact hacc
  | _ => exact ⟨p, hp, hacc⟩

/-- The trigger refuses every other mode while the account holds a position. -/
lemma mode_of_allowed {r : ExchangeConfigRecord} (hp : db.Holds r.accountId)
    (hopen : ∀ p ∈ db.positions, p.status = .open) (hchecked : ∀ p ∈ db.positions, p.Checked)
    (h : modeSwitchAllowed db r mode) : mode = r.mode := by
  rcases h with h | ⟨-, h⟩
  · exact h
  · obtain ⟨p, hp, hacc⟩ := hp
    have hmem : p ∈ (db.openPositions r.accountId).filter fun r => decide (r.quantity > 0) := by
      refine List.mem_filter.mpr ⟨?_, decide_eq_true (hchecked p hp).1⟩
      exact List.mem_filter.mpr ⟨hp, by simp [hacc, hopen p hp]⟩
    rw [h] at hmem
    cases hmem

lemma TableStep.configuredAs (h : TableStep own db db') (hp : db.Holds accountId)
    (hopen : ∀ p ∈ db.positions, p.status = .open) (hchecked : ∀ p ∈ db.positions, p.Checked)
    (hc : db.ConfiguredAs accountId mode) : db'.ConfiguredAs accountId mode := by
  obtain ⟨⟨r, hr, hacc⟩, hmode⟩ := hc
  cases h with
  | configInserted _ hkey =>
    refine ⟨⟨r, List.mem_append_left _ hr, hacc⟩, forall_append hmode ?_⟩
    -- the account has its row already
    intro hnew
    exact (hkey r hr (hacc.trans hnew.symm)).elim
  | configsUpdated _ hkey hallowed =>
    refine ⟨⟨_, mem_updateWhere.mpr ⟨r, hr, rfl⟩, ?_⟩, forall_updateWhere hmode ?_⟩
    · split_ifs
      · rw [hkey, hacc]
      · exact hacc
    · intro r' hr' hupdated hacc'
      rw [hkey] at hacc'
      have hsame := mode_of_allowed (hacc'.symm ▸ hp) hopen hchecked (hallowed r' hr' hupdated)
      rw [hsame]
      exact hmode r' hr' hacc'
  | _ => exact ⟨⟨r, hr, hacc⟩, hmode⟩

/-- The mode of the account's row. -/
lemma Db.ConfiguredAs.exchangeMode (h : db.ConfiguredAs accountId mode) :
    db.exchangeMode accountId = mode := by
  obtain ⟨⟨r, hr, hacc⟩, hmode⟩ := h
  obtain ⟨r', hfind⟩ := Option.isSome_iff_exists.mp
    (List.find?_isSome (p := fun r => decide (r.accountId = accountId)).mpr
      ⟨r, hr, decide_eq_true hacc⟩)
  have hacc' := List.find?_some hfind
  have hmode' := hmode r' (List.mem_of_find?_eq_some hfind) (of_decide_eq_true hacc')
  simp [Db.exchangeMode, hfind, hmode']

/-- Under the constraints, the only row is one that `load_exchange_mode` finds. -/
lemma Db.Constrained.configuredAs (h : db.Constrained)
    (hr : ∃ r ∈ db.exchangeConfigs, r.accountId = accountId) :
    db.ConfiguredAs accountId (db.exchangeMode accountId) := by
  obtain ⟨r, hr, hacc⟩ := hr
  have hmode : ∀ r' ∈ db.exchangeConfigs, r'.accountId = accountId → r'.mode = r.mode := by
    intro r' hr' hacc'
    rw [List.inj_on_of_nodup_map h.configKeys hr' hr (hacc'.trans hacc.symm)]
  have hconfigured : db.ConfiguredAs accountId r.mode := ⟨⟨r, hr, hacc⟩, hmode⟩
  rwa [hconfigured.exchangeMode]

end

section

variable {s s' : Server} {accountId : Uuid}

/-- All positions of a reachable database are open. -/
lemma positions_open (h : (service (· = .fresh)).Reachable (fun _ _ => True) s) :
    ∀ p ∈ s.db.positions, p.status = .open := by
  refine h.invariant (I := fun s => ∀ p ∈ s.db.positions, p.status = .open) ?_ ?_
  · rintro _ rfl p hp
    cases hp
  · intro t a t' ht _ hstep
    exact keeps_serviceStep (I := fun db => ∀ p ∈ db.positions, p.status = .open)
      (fun _ _ ht hchange => hchange.positions_open ht) (fun _ _ ht => ht) hstep ht

/-- Once an account with a configuration holds a position, it always does, and its mode never
changes. -/
theorem mode_frozen {as : List ServiceAction}
    (hreach : (service (· = .fresh)).Reachable (fun _ _ => True) s)
    (hposition : s.db.Holds accountId) (hconfig : ∃ r ∈ s.db.exchangeConfigs, r.accountId = accountId)
    (hrun : (service (· = .fresh)).Run (fun _ _ => True) s as s') :
    s'.db.Holds accountId ∧ s'.db.exchangeMode accountId = s.db.exchangeMode accountId := by
  have hinv : (s'.db.Constrained ∧ ∀ p ∈ s'.db.positions, p.status = .open) ∧
      s'.db.Holds accountId ∧ s'.db.ConfiguredAs accountId (s.db.exchangeMode accountId) := by
    have hconstrained := constrained_of_reachable hreach
    refine hrun.preserves (I := fun t => (t.db.Constrained ∧ ∀ p ∈ t.db.positions, p.status = .open) ∧
      t.db.Holds accountId ∧ t.db.ConfiguredAs accountId (s.db.exchangeMode accountId)) ?_
      ⟨⟨hconstrained, positions_open hreach⟩, hposition, hconstrained.configuredAs hconfig⟩
    intro t a t' ht _ hstep
    refine keeps_serviceStep (I := fun db => (db.Constrained ∧ ∀ p ∈ db.positions, p.status = .open) ∧
      db.Holds accountId ∧ db.ConfiguredAs accountId (s.db.exchangeMode accountId)) ?_ ?_ hstep ht
    · rintro db db' ⟨⟨hc, hopen⟩, hholds, hmode⟩ hchange
      exact ⟨⟨hchange.constrained hc, hchange.positions_open hopen⟩, hchange.holds hholds,
        hchange.configuredAs hholds hopen hc.positions.checked hmode⟩
    · rintro db seconds ⟨⟨hc, hopen⟩, hholds, hmode⟩
      exact ⟨⟨{ hc with }, hopen⟩, hholds, hmode⟩
  exact ⟨hinv.2.1, hinv.2.2.exchangeMode⟩

end

/-- A configuration of the account with the given mode. -/
def configureAs (mode : String) (version : ℤ) : ServiceAction :=
  .act (.act (.request quotedAt100 ⟨1⟩ (.putExchangeConfig (fun _ => .ok [1])
    { mode, testnet := true, apiKey := none, apiSecret := none, version })))

/-- After its trade, an account that has been configured for paper does not get live any more. -/
theorem mode_frozen_afterTrade :
    ∃ s s', (service (· = .fresh)).Reachable (fun _ _ => True) s ∧
      (service (· = .fresh)).Run (fun _ _ => True) s
        [.act (.act (.tick 1000000)), configureAs "live" 1] s' ∧
      s'.db.Holds ⟨1⟩ ∧ s'.db.exchangeMode ⟨1⟩ = .paper := by
  have hbefore : ((service (· = .fresh)).exec (fun _ _ => True) .fresh
      (openAndTrade ++ [configureAs "paper" 0])).all (fun s =>
        s.db.positions.any (fun p => decide (p.accountId = ⟨1⟩)) &&
        s.db.exchangeConfigs.any (fun r => decide (r.accountId = ⟨1⟩)) &&
        decide (s.db.exchangeMode ⟨1⟩ = .paper)) = true := by
    decide +kernel
  have hafter : ((service (· = .fresh)).exec (fun _ _ => True) .fresh ((openAndTrade ++
      [configureAs "paper" 0]) ++ [.act (.act (.tick 1000000)), configureAs "live" 1])).any
        (fun _ => true) = true := by
    decide +kernel
  obtain ⟨s', hrun, -⟩ := Machine.exists_run_of_exec hafter
  obtain ⟨s, hrun₁, hrun₂⟩ := hrun.split
  have hs := hrun₁.of_exec hbefore
  simp only [Bool.and_eq_true, List.any_eq_true, decide_eq_true_eq] at hs
  have hreach : (service (· = .fresh)).Reachable (fun _ _ => True) s := ⟨_, _, rfl, hrun₁⟩
  have hfrozen := mode_frozen hreach hs.1.1 hs.1.2 hrun₂
  exact ⟨s, s', hreach, hrun₂, hfrozen.1, hfrozen.2.trans hs.2⟩

end Confluence
