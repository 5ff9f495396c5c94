import Confluence.Properties.History
import Confluence.Server.Integrity

/-!
# The constraints of the migrations

Every database that the service reaches from the empty tables satisfies the checks, the unique indexes
and the foreign keys of the migrations, those included that the statements here do not test; and every
account has its risk configuration.
-/

namespace Confluence

/-! ### What the statements do not test -/

/-- The order of every fill is there. -/
def Db.FillsOfOrders (db : Db) : Prop :=
  ∀ f ∈ db.orderFills, ∃ o ∈ db.orders, o.id = f.orderId ∧ o.accountId = f.accountId

/-- Every account has its risk configuration. -/
def Db.AccountsConfigured (db : Db) : Prop :=
  ∀ r ∈ db.accounts, ∃ c ∈ db.riskConfigs, c.accountId = r.id

section

variable {s s' : Server}

/-- A worker records fills of the order that it has reconciled. -/
lemma WorkerStep.fills {supervisor : Supervisor} {cmd : ClaimedCommand} {db db' : Db} {stage : Stage}
    {next : Option Stage} (h : WorkerStep supervisor cmd db stage next db') :
    ∃ rows, db'.orderFills = db.orderFills ++ rows ∧
      ∀ f ∈ rows, ∃ snapshot result, stage = .reconciled f.orderId snapshot result ∧
        ∃ o, db.order? cmd.accountId f.orderId = some o ∧ f.accountId = cmd.accountId := by
  have hsame {db' : Db} (h : db'.orderFills = db.orderFills) :
      ∃ rows, db'.orderFills = db.orderFills ++ rows ∧
        ∀ f ∈ rows, ∃ snapshot result, stage = .reconciled f.orderId snapshot result ∧
          ∃ o, db.order? cmd.accountId f.orderId = some o ∧ f.accountId = cmd.accountId :=
    ⟨[], by rw [h, List.append_nil], by simp⟩
  cases h with
  | noAdapter | delivered | requeued | permanentlyRejected | reconciliationRequired | notHydrated
  | hydrated | called | notAccepted | notPersisted | audited => exact hsame rfl
  | submitted htype ho hmove =>
    obtain ⟨orders, rfl⟩ := hmove.frame
    exact hsame rfl
  | cancelled htype ho hmove =>
    obtain ⟨orders, rfl⟩ := hmove.frame
    exact hsame rfl
  | @persisted orderId snapshot result db' h =>
    obtain ⟨o, _, _, _, db₁, _, ho, -, -, hfills, -, -, hstatus, rfl⟩ :=
      of_commits_persistReconcileResultTx h
    obtain ⟨orders, rfl⟩ := hstatus.frame
    obtain ⟨rows, hrows, hof⟩ := of_commits_insertFills hfills
    refine ⟨rows, congrArg Db.orderFills hrows, fun f hf => ?_⟩
    obtain ⟨hfacc, rfl⟩ := hof f hf
    exact ⟨snapshot, result, rfl, o, ho, hfacc⟩
  | rejected h =>
    rcases h with rfl | ⟨o, -, hmove⟩
    · exact hsame rfl
    · obtain ⟨orders, rfl⟩ := hmove.frame
      exact hsame rfl

/-- Orders and risk configurations are not lost. -/
lemma hasOrder_of_serviceStep {a : ServiceAction} (h : s.serviceStep a = some s')
    {accountId orderId : Uuid} (ho : ∃ o ∈ s.db.orders, o.id = orderId ∧ o.accountId = accountId) :
    ∃ o ∈ s'.db.orders, o.id = orderId ∧ o.accountId = accountId := by
  refine keeps_serviceStep
    (I := fun db => ∃ o ∈ db.orders, o.id = orderId ∧ o.accountId = accountId) ?_ ?_ h ho
  · rintro db db' ⟨o, ho, hid, hacc⟩ hstep
    cases hstep with
    | orderInserted => exact ⟨o, List.mem_append_left _ ho, hid, hacc⟩
    | ordersUpdated =>
      refine ⟨_, mem_updateWhere.mpr ⟨o, ho, rfl⟩, ?_⟩
      split_ifs
      · exact ⟨hid, hacc⟩
      · exact ⟨hid, hacc⟩
    | _ => exact ⟨o, ho, hid, hacc⟩
  · exact fun _ _ ho => ho

lemma hasRiskConfig_of_serviceStep {a : ServiceAction} (h : s.serviceStep a = some s')
    {accountId : Uuid} (hc : ∃ c ∈ s.db.riskConfigs, c.accountId = accountId) :
    ∃ c ∈ s'.db.riskConfigs, c.accountId = accountId := by
  refine keeps_serviceStep (I := fun db => ∃ c ∈ db.riskConfigs, c.accountId = accountId) ?_ ?_ h hc
  · rintro db db' ⟨c, hc, hacc⟩ hstep
    cases hstep with
    | riskConfigInserted => exact ⟨c, List.mem_append_left _ hc, hacc⟩
    | riskConfigsUpdated _ _ hkey =>
      refine ⟨_, mem_updateWhere.mpr ⟨c, hc, rfl⟩, ?_⟩
      split_ifs
      · rw [hkey, hacc]
      · exact hacc
    | _ => exact ⟨c, hc, hacc⟩
  · exact fun _ _ hc => hc

/-- Fills come from the step of a worker only. -/
lemma fillsOfOrders_of_serviceStep {a : ServiceAction} (h : s.serviceStep a = some s')
    (hf : s.db.FillsOfOrders) : s'.db.FillsOfOrders := by
  have hkept {f : FillRecord}
      (ho : ∃ o ∈ s.db.orders, o.id = f.orderId ∧ o.accountId = f.accountId) :
      ∃ o ∈ s'.db.orders, o.id = f.orderId ∧ o.accountId = f.accountId :=
    hasOrder_of_serviceStep h ho
  have hnew : ∃ rows, s'.db.orderFills = s.db.orderFills ++ rows ∧
      ∀ f ∈ rows, ∃ o ∈ s.db.orders, o.id = f.orderId ∧ o.accountId = f.accountId := by
    have hsame {db' : Db} (h : db'.orderFills = s.db.orderFills) :
        ∃ rows, db'.orderFills = s.db.orderFills ++ rows ∧
          ∀ f ∈ rows, ∃ o ∈ s.db.orders, o.id = f.orderId ∧ o.accountId = f.accountId :=
      ⟨[], by rw [h, List.append_nil], by simp⟩
    cases serviceStep_of_step h with
    | fault | refused | created | regrouped => exact hsame rfl
    | server h =>
      cases h with
      | tick | claim | crash | enqueueCancel => exact hsame rfl
      | request hreq =>
        cases hreq with
        | audited | riskState | configured | placed => exact hsame rfl
      | advance htask hworker =>
        obtain ⟨rows, hrows, hof⟩ := hworker.fills
        refine ⟨rows, hrows, fun f hf => ?_⟩
        obtain ⟨-, -, -, o, ho, hacc⟩ := hof f hf
        obtain ⟨hmem, hid, hacc'⟩ := Db.mem_of_order? ho
        exact ⟨o, hmem, hid, hacc'.trans hacc.symm⟩
  obtain ⟨rows, hrows, hof⟩ := hnew
  intro f hmem
  rw [hrows] at hmem
  rcases List.mem_append.mp hmem with hmem | hmem
  · exact hkept (hf f hmem)
  · exact hkept (hof f hmem)

/-- Only a new account adds an account, and its risk configuration with it. -/
lemma accountsConfigured_of_serviceStep {a : ServiceAction} (hs : s.Sound) (hok : CancelsKnown s a)
    (h : s.serviceStep a = some s') (hc : s.db.AccountsConfigured) : s'.db.AccountsConfigured := by
  have hkept {accountId : Uuid} (hc : ∃ c ∈ s.db.riskConfigs, c.accountId = accountId) :
      ∃ c ∈ s'.db.riskConfigs, c.accountId = accountId :=
    hasRiskConfig_of_serviceStep h hc
  have hsame (hids : s'.db.accounts.map (·.id) = s.db.accounts.map (·.id)) :
      s'.db.AccountsConfigured := by
    intro r hr
    have hmem : r.id ∈ s.db.accounts.map (·.id) := hids ▸ List.mem_map_of_mem hr
    obtain ⟨r', hr', hid⟩ := List.mem_map.mp hmem
    rw [← hid]
    exact hkept (hc r' hr')
  cases a with
  | act a =>
    cases a with
    | act a =>
      apply hsame
      refine (dbTransaction_of_step hs hok h).keeps
        (I := fun db => db.accounts.map (·.id) = s.db.accounts.map (·.id)) ?_ (fun _ _ h => h) rfl
      intro db db' hids hstep
      cases hstep with
      | accountInserted ha _ hkey =>
        obtain ⟨r, hr, hid⟩ := ha
        exact (hkey r hr hid).elim
      | accountsUpdated _ _ hkey => rw [← hids, map_updateWhere hkey]
      | _ => exact hids
    | fault i supervisor n =>
      cases serviceStep_of_step h with
      | fault => exact hc
  | putCorrelationGroups accountId groups =>
    cases serviceStep_of_step h with
    | regrouped => exact hc
  | createAccount accountId equity =>
    cases serviceStep_of_step h with
    | refused => exact hc
    | created hid =>
      refine forall_append (fun r hr => hkept (hc r hr)) ?_
      exact ⟨_, List.mem_append_right _ (List.mem_singleton.mpr rfl), hid.symm⟩

/-- Every database that the service reaches satisfies the constraints. -/
theorem schema_holds (h : (service (· = .fresh)).Reachable CancelsKnown s) :
    s.db.Constrained ∧ s.db.ForeignKeys ∧ s.db.FillsOfOrders ∧ s.db.AccountsConfigured := by
  have hinv : s.Sound ∧ s.db.FillsOfOrders ∧ s.db.AccountsConfigured := by
    refine h.invariant (I := fun s => s.Sound ∧ s.db.FillsOfOrders ∧ s.db.AccountsConfigured) ?_ ?_
    · rintro _ rfl
      refine ⟨sound_fresh, ?_, ?_⟩
      · intro f hf
        cases hf
      · intro r hr
        cases hr
    · rintro t a t' ⟨ht, hfills, hconfigured⟩ hok hstep
      exact ⟨sound_of_serviceStep ht hok hstep, fillsOfOrders_of_serviceStep hstep hfills,
        accountsConfigured_of_serviceStep ht hok hstep hconfigured⟩
  exact ⟨hinv.1.db.constrained, hinv.1.db.foreignKeys, hinv.2⟩

end

/-- The states that the trade of a new account passes. -/
lemma reachable_openAndTrade {n : ℕ} {p : Server → Bool}
    (h : ((service (· = .fresh)).exec (fun _ _ => True) .fresh (openAndTrade.take n)).any p = true) :
    ∃ s, (service (· = .fresh)).Reachable CancelsKnown s ∧ p s = true := by
  obtain ⟨s, hrun, hs⟩ := Machine.exists_run_of_exec h
  have hgood (a : ServiceAction) (ha : a ∈ openAndTrade.take n) (t : Server) : CancelsKnown t a := by
    have hmem := List.mem_of_mem_take ha
    simp only [openAndTrade, orderAndReconcile, List.map_cons, List.map_nil, List.mem_cons,
      List.not_mem_nil, or_false] at hmem
    rcases hmem with rfl | rfl | rfl | rfl | rfl | rfl | rfl | rfl | rfl | rfl | rfl | rfl <;> trivial
  exact ⟨s, ⟨.fresh, _, rfl, (hrun.of_actions hgood).mono fun t _ h => h.1 t⟩, hs⟩

theorem schema_holds_openAndTrade :
    ∃ s, (service (· = .fresh)).Reachable CancelsKnown s ∧ s.db.orderFills.length = 1 ∧
      s.db.Constrained ∧ s.db.ForeignKeys ∧ s.db.FillsOfOrders ∧ s.db.AccountsConfigured := by
  have hexec : ((service (· = .fresh)).exec (fun _ _ => True) .fresh (openAndTrade.take 12)).any
      (fun s => s.db.orderFills.length == 1) = true := by
    decide +kernel
  obtain ⟨s, hreach, hs⟩ := reachable_openAndTrade hexec
  exact ⟨s, hreach, eq_of_beq hs, schema_holds hreach⟩

end Confluence
