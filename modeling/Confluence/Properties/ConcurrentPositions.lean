import Confluence.Properties.MarketPrice
import Confluence.Server.Snapshots

/-!
# The cap on concurrent positions

`place_order` counts open positions, not the orders that are to open one. The cap holds in the runs
in which an approved order is for a symbol that is in use already, or a symbol in use is left below
the cap, where open orders count as use.
-/

namespace Confluence

/-- The symbols on which the account has an open position or an open order. -/
def Db.usedSymbols (db : Db) (accountId : Uuid) : Finset String :=
  ((db.openPositions accountId).map (·.symbol) ++ (db.openOrders accountId).map (·.symbol)).toFinset

/-- The engine approves the request, as it does before the order is inserted. -/
def ApprovesOrder (env : Surroundings) (accountId : Uuid) (body : PlaceOrderRequest) (db : Db) :
    Prop :=
  (evaluated env accountId body db).map (·.2) = some .approved

/-- An approved order of the account is for a symbol in use, or fewer symbols than the cap are in
use. -/
def LeavesRoom (accountId : Uuid) (db : Db) (env : Surroundings) (body : PlaceOrderRequest) : Prop :=
  ApprovesOrder env accountId body db → body.symbol ∈ db.usedSymbols accountId ∨
    ∀ cfg ∈ db.riskConfig accountId,
      ((db.usedSymbols accountId).card : ℤ) < cfg.1.maxConcurrentPositions

instance (env : Surroundings) (accountId : Uuid) (body : PlaceOrderRequest) (db : Db) :
    Decidable (ApprovesOrder env accountId body db) :=
  inferInstanceAs (Decidable (_ = _))

instance (accountId : Uuid) (db : Db) (env : Surroundings) (body : PlaceOrderRequest) :
    Decidable (LeavesRoom accountId db env body) :=
  inferInstanceAs (Decidable (_ → _ ∨ _))

/-- Every approved order of the account leaves room. -/
def OrdersLeaveRoom (accountId : Uuid) (s : Server) : Action → Prop
  | .request env a (.placeOrder _ body) => a = accountId → LeavesRoom accountId s.db env body
  | _ => True

instance (accountId : Uuid) (s : Server) (a : Action) : Decidable (OrdersLeaveRoom accountId s a) :=
  match a with
  | .request env a (.placeOrder _ body) =>
    inferInstanceAs (Decidable (a = accountId → LeavesRoom accountId s.db env body))
  | .request _ _ (.evaluateTrade _) | .request _ _ (.putEquity _) | .request _ _ (.putRiskConfig _)
  | .request _ _ .engageKillSwitch | .request _ _ .releaseKillSwitch
  | .request _ _ (.putExchangeConfig _ _) | .tick _ | .enqueueCancel _ _ _ _ | .claim _ _
  | .advance _ _ | .crash _ => isTrue trivial

/-- No orders, no positions and nothing under way. -/
structure Blank (s : Server) : Prop where
  orders : s.db.orders = []
  positions : s.db.positions = []
  tasks : s.tasks = []
  riskConfigs : ∀ r ∈ s.db.riskConfigs, r.Checked

section

variable {s s' : Server} {db db' : Db} {accountId : Uuid} {symbol : String}

lemma Db.mem_usedSymbols :
    symbol ∈ db.usedSymbols accountId ↔
      (∃ r ∈ db.positions, r.accountId = accountId ∧ r.status = .open ∧ r.symbol = symbol) ∨
      (∃ r ∈ db.orders, r.accountId = accountId ∧ r.status.isTerminal = false ∧
        r.symbol = symbol) := by
  simp [Db.usedSymbols, Db.openPositions, Db.openOrders, and_assoc]

/-- With one open position per symbol, there are no more positions than symbols in use. -/
lemma length_openPositions_le (hv : PositionsValid db.positions) :
    (db.openPositions accountId).length ≤ (db.usedSymbols accountId).card := by
  have hnodup : ((db.openPositions accountId).map (·.symbol)).Nodup := by
    refine List.Nodup.map_on ?_ ((List.Nodup.of_map _ hv.ids).filter _)
    intro r hr r' hr' hsymbol
    simp only [Db.openPositions, List.mem_filter, Bool.and_eq_true, decide_eq_true_eq] at hr hr'
    have hid := hv.oneOpen r hr.1 r' hr'.1 hr.2.2 hr'.2.2 (hr.2.1.trans hr'.2.1.symm) hsymbol
    exact hv.eq_of_id hr.1 hr'.1 hid
  calc (db.openPositions accountId).length
      = ((db.openPositions accountId).map (·.symbol)).length := (List.length_map _).symm
    _ = ((db.openPositions accountId).map (·.symbol)).toFinset.card :=
        (List.toFinset_card_of_nodup hnodup).symm
    _ ≤ (db.usedSymbols accountId).card := by
        apply Finset.card_le_card
        rw [Db.usedSymbols, List.toFinset_append]
        exact Finset.subset_union_left

/-- Open orders after a move were open, on the same symbols, before it. -/
lemma MovesOrder.openOrder {a : Uuid} (hids : (db.orders.map (·.id)).Nodup)
    (h : MovesOrder a db db') {r' : OrderRecord} (hr' : r' ∈ db'.orders)
    (hopen : r'.status.isTerminal = false) :
    ∃ r ∈ db.orders, r.accountId = r'.accountId ∧ r.symbol = r'.symbol ∧
      r.status.isTerminal = false := by
  obtain ⟨r, hr, rfl | ⟨status, q, hlegal, -, -, -, rfl⟩⟩ := h.of_mem hids hr'
  · exact ⟨r', hr, rfl, rfl, hopen⟩
  · refine ⟨r, hr, rfl, rfl, ?_⟩
    cases hterminal : r.status.isTerminal with
    | false => rfl
    | true => simp [OrderStateMachine.not_legal_of_isTerminal hterminal] at hlegal

/-- A delta opens no position on another symbol. -/
lemma openPosition_of_delta {delta price : Decimal} {u : Unit} {a : Uuid}
    (h : postgres.Commits (applyPositionDelta a symbol delta price) db u db')
    (hv : PositionsValid db.positions) {r : PositionRecord} (hr : r ∈ db'.positions) (hopen : r.status = .open) :
    (r.accountId = a ∧ r.symbol = symbol) ∨
      ∃ r' ∈ db.positions, r'.accountId = r.accountId ∧ r'.symbol = r.symbol ∧
        r'.status = .open := by
  by_cases hzero : delta = 0
  · rw [applyPositionDelta, if_pos hzero, Engine.commits_pure] at h
    rw [← h.2] at hr
    exact .inr ⟨r, hr, rfl, rfl, hopen⟩
  · obtain ⟨q, -, -, -, -, heffect⟩ := of_commits_applyPositionDelta hv hzero h
    by_cases hsame : r.accountId = a ∧ r.symbol = symbol
    · exact .inl hsame
    · -- elsewhere the open positions are the old ones
      have hother := heffect.others r.accountId r.symbol (by rwa [← not_and_or])
      have hin : r ∈ db'.openOn r.accountId r.symbol := Db.mem_openOn.mpr ⟨hr, rfl, rfl, hopen⟩
      rw [hother] at hin
      exact .inr ⟨r, (Db.mem_openOn.mp hin).1, rfl, rfl, hopen⟩

/-- What the cap needs of a state, besides the cap. -/
structure Placed (s : Server) : Prop where
  ids : (s.db.orders.map (·.id)).Nodup
  positions : PositionsValid s.db.positions
  tasks : TasksAgree s

/-- Workers put no new symbol in use. -/
lemma usedSymbols_subset_of_worker {supervisor : Supervisor} {t : Task} {next : Option Stage}
    (hp : Placed s) (hagrees : t.Agrees s.db)
    (h : WorkerStep supervisor t.cmd s.db t.stage next db') :
    db'.usedSymbols accountId ⊆ s.db.usedSymbols accountId := by
  have horders {r : OrderRecord} (hr : r ∈ db'.orders) (hacc : r.accountId = accountId)
      (hopen : r.status.isTerminal = false) : r.symbol ∈ s.db.usedSymbols accountId := by
    obtain ⟨r', hr', hacc', hsymbol, hopen'⟩ := h.movesOrder.openOrder hp.ids hr hopen
    exact Db.mem_usedSymbols.mpr (.inr ⟨r', hr', hacc'.trans hacc, hopen', hsymbol⟩)
  have hpositions {r : PositionRecord} (hr : r ∈ db'.positions) (hacc : r.accountId = accountId)
      (hopen : r.status = .open) : r.symbol ∈ s.db.usedSymbols accountId := by
    have hold {r' : PositionRecord} (hr' : r' ∈ s.db.positions) (hacc' : r'.accountId = r.accountId)
        (hsymbol : r'.symbol = r.symbol) (hopen' : r'.status = .open) :
        r.symbol ∈ s.db.usedSymbols accountId :=
      Db.mem_usedSymbols.mpr (.inl ⟨r', hr', hacc'.trans hacc, hopen', hsymbol⟩)
    obtain ⟨cmd, lease, stage⟩ := t
    cases h with
    | persisted hcommit =>
      obtain ⟨o, ho, -, -, hpersisted⟩ := persisted_of_commits hagrees.1 hagrees.2 hcommit
      cases hpersisted with
      | unchanged => exact hold hr rfl rfl hopen
      | moved => exact hold hr rfl rfl hopen
      | filled hlegal _ _ _ _ hdelta =>
        have hdelta' := openPosition_of_delta hdelta hp.positions hr hopen
        rcases hdelta' with ⟨hacc', hsymbol⟩ | ⟨r', hr', hacc', hsymbol, hopen'⟩
        · -- the fill's own symbol is in use by its order
          refine Db.mem_usedSymbols.mpr (.inr ⟨o, (Db.mem_of_order? ho).1, ?_, ?_, hsymbol.symm⟩)
          · rw [← hacc', hacc]
          · cases hterminal : o.status.isTerminal with
            | false => rfl
            | true => simp [OrderStateMachine.not_legal_of_isTerminal hterminal] at hlegal
        · exact hold hr' hacc' hsymbol hopen'
    | submitted htype ho hmove =>
      obtain ⟨orders, rfl⟩ := hmove.frame
      exact hold hr rfl rfl hopen
    | cancelled htype ho hmove =>
      obtain ⟨orders, rfl⟩ := hmove.frame
      exact hold hr rfl rfl hopen
    | rejected hrejected =>
      rcases hrejected with rfl | ⟨o, -, hmove⟩
      · exact hold hr rfl rfl hopen
      · obtain ⟨orders, rfl⟩ := hmove.frame
        exact hold hr rfl rfl hopen
    | _ => exact hold hr rfl rfl hopen
  intro symbol hsymbol
  rcases Db.mem_usedSymbols.mp hsymbol with ⟨r, hr, hacc, hopen, rfl⟩ | ⟨r, hr, hacc, hopen, rfl⟩
  · exact hpositions hr hacc hopen
  · exact horders hr hacc hopen

/-- A placed order puts no symbol but its own in use. -/
lemma usedSymbols_placed (env : Surroundings) (a orderId : Uuid) (body : PlaceOrderRequest)
    (q : Decimal) (p : Option Decimal) (h : symbol ∈ (db.placed env a orderId body q p).usedSymbols
      accountId) : symbol ∈ db.usedSymbols accountId ∨ (a = accountId ∧ symbol = body.symbol) := by
  rcases Db.mem_usedSymbols.mp h with ⟨r, hr, hacc, hopen, rfl⟩ | ⟨r, hr, hacc, hopen, rfl⟩
  · exact .inl (Db.mem_usedSymbols.mpr (.inl ⟨r, hr, hacc, hopen, rfl⟩))
  · simp only [Db.placed, Db.withCommand] at hr
    rcases List.mem_append.mp hr with hr | hr
    · exact .inl (Db.mem_usedSymbols.mpr (.inr ⟨r, hr, hacc, hopen, rfl⟩))
    · obtain rfl := List.mem_singleton.mp hr
      exact .inr ⟨hacc, rfl⟩

/-- The symbols in use are within the account's cap. -/
def WithinCap (accountId : Uuid) (db : Db) : Prop :=
  ∀ cfg ∈ db.riskConfig accountId,
    ((db.usedSymbols accountId).card : ℤ) ≤ cfg.1.maxConcurrentPositions

lemma WithinCap.of_subset (h : WithinCap accountId db)
    (hconfigs : db'.riskConfigs = db.riskConfigs)
    (hsub : db'.usedSymbols accountId ⊆ db.usedSymbols accountId) : WithinCap accountId db' := by
  intro cfg hcfg
  rw [Db.riskConfig, hconfigs] at hcfg
  have hcard := Finset.card_le_card hsub
  have hcap := h cfg hcfg
  omega

lemma Placed.step {a : Action} (h : Placed s) (hpaper : TradesOnPaper a)
    (hstep : ServerStep s a s') : Placed s' := by
  have hsound (i : ℕ) (supervisor : Supervisor) (ha : a = .advance i supervisor) :
      supervisor.Sound := by
    rw [ha] at hpaper
    exact Supervisor.IsPaper.sound hpaper
  have htasks := h.tasks.step hsound hstep
  cases hstep with
  | tick | enqueueCancel | claim | crash => exact ⟨h.ids, h.positions, htasks⟩
  | advance htask hworker =>
    refine ⟨?_, hworker.positionsValid h.positions, htasks⟩
    rw [hworker.movesOrder.ids]
    exact h.ids
  | request hrequest =>
    cases hrequest with
    | audited => exact ⟨h.ids, h.positions, htasks⟩
    | riskState => exact ⟨h.ids, h.positions, htasks⟩
    | configured => exact ⟨h.ids, h.positions, htasks⟩
    | placed _ _ _ _ hid _ => exact ⟨ids_placed h.ids hid .., h.positions, htasks⟩

lemma WithinCap.step {a : Action} (hp : Placed s) (h : WithinCap accountId s.db)
    (hpaper : TradesOnPaper a) (hok : OrdersLeaveRoom accountId s a) (hstep : ServerStep s a s') :
    WithinCap accountId s'.db := by
  cases hstep with
  | tick | enqueueCancel | claim | crash => exact h
  | advance htask hworker =>
    refine h.of_subset ?_
      (usedSymbols_subset_of_worker hp (hp.tasks _ (List.mem_of_getElem? htask)) hworker)
    obtain ⟨_, _, _, _, _, rfl⟩ := hworker.frame
    rfl
  | @request env a r db' hrequest =>
    cases hrequest with
    | audited => exact h
    | riskState hr =>
      cases r with
      | placeOrder orderId body => exact (hr orderId body rfl).elim
      | _ => exact hpaper.elim
    | configured => exact hpaper.elim
    | @placed orderId body q p happroved =>
      by_cases ha : a = accountId
      · subst ha
        have happroves : ApprovesOrder env a body s.db := by
          rw [ApprovesOrder, happroved]
          rfl
        rcases hok rfl happroves with hused | hroom
        · -- the symbol is in use already
          refine h.of_subset rfl fun symbol hsymbol => ?_
          rcases usedSymbols_placed env a orderId body q p hsymbol with hsymbol | ⟨-, rfl⟩
          · exact hsymbol
          · exact hused
        · intro cfg hcfg
          have hsub : (s.db.placed env a orderId body q p).usedSymbols a ⊆
              insert body.symbol (s.db.usedSymbols a) := by
            intro symbol hsymbol
            rcases usedSymbols_placed env a orderId body q p hsymbol with hsymbol | ⟨-, rfl⟩
            · exact Finset.mem_insert_of_mem hsymbol
            · exact Finset.mem_insert_self _ _
          have hcard := (Finset.card_le_card hsub).trans (Finset.card_insert_le _ _)
          have hlt := hroom cfg hcfg
          have hle : (((s.db.placed env a orderId body q p).usedSymbols a).card : ℤ) ≤
              cfg.1.maxConcurrentPositions := by omega
          exact hle
      · refine h.of_subset rfl fun symbol hsymbol => ?_
        rcases usedSymbols_placed env a orderId body q p hsymbol with hsymbol | ⟨hacc, -⟩
        · exact hsymbol
        · exact (ha hacc).elim

lemma placed_of_blank (h : Blank s) : Placed s := by
  constructor
  · rw [h.orders]
    exact List.nodup_nil
  · rw [h.positions]
    exact ⟨List.nodup_nil, by simp, by simp, by simp⟩
  · intro t ht
    rw [h.tasks] at ht
    cases ht

lemma withinCap_of_blank (h : Blank s) : WithinCap accountId s.db := by
  intro cfg hcfg
  obtain ⟨r, hr, rfl⟩ := Option.map_eq_some_iff.mp hcfg
  have hpos : r.config.maxConcurrentPositions > 0 :=
    (h.riskConfigs r (List.mem_of_find?_eq_some hr)).2.2.1
  have hempty : s.db.usedSymbols accountId = ∅ := by
    simp [Db.usedSymbols, Db.openPositions, Db.openOrders, h.orders, h.positions]
  rw [hempty, Finset.card_empty]
  exact hpos.le

/-- In the runs in which approved orders leave room, the account has at most as many open positions
as its configuration allows. -/
theorem open_positions_within_cap
    (h : (server Blank).Reachable (fun s a => TradesOnPaper a ∧ OrdersLeaveRoom accountId s a) s) :
    ∀ cfg ∈ s.db.riskConfig accountId,
      ((s.db.openPositions accountId).length : ℤ) ≤ cfg.1.maxConcurrentPositions := by
  have hinit (s : Server) (hs : Blank s) : Placed s ∧ WithinCap accountId s.db :=
    ⟨placed_of_blank hs, withinCap_of_blank hs⟩
  have hkeep (s : Server) (a : Action) (s' : Server) (hs : Placed s ∧ WithinCap accountId s.db)
      (hok : TradesOnPaper a ∧ OrdersLeaveRoom accountId s a)
      (hstep : (server Blank).step s a = some s') :
      Placed s' ∧ WithinCap accountId s'.db := by
    have hstep := serverStep_of_step hstep
    exact ⟨hs.1.step hok.1 hstep, hs.2.step hs.1 hok.1 hok.2 hstep⟩
  have hinv : Placed s ∧ WithinCap accountId s.db := h.invariant hinit hkeep
  intro cfg hcfg
  have hcap := hinv.2 cfg hcfg
  have hlen : (s.db.openPositions accountId).length ≤ (s.db.usedSymbols accountId).card :=
    length_openPositions_le hinv.1.positions
  omega

end

/-! ### An account that may have one position -/

/-- Equity of 10000 and a cap of one position. -/
def capOne : Server :=
  { db := { Db.empty with
      accounts := [⟨⟨1⟩, .active, 10000, none⟩]
      riskConfigs := [⟨⟨1⟩, ⟨2, 5, 1, 10⟩, 1⟩] }
    tasks := [] }

/-- A market order of one unit of the symbol. -/
def buyOneOf (symbol : String) (orderId : Uuid) : Action :=
  .request quotedAt100 ⟨1⟩ (.placeOrder orderId { buyTen with symbol, quantity := 1 })

/-- A worker takes the oldest command from its claim to its delivery. -/
def workOnce : List Action :=
  [.claim 1 [], .advance 0 paperAt100, .advance 0 paperAt100, .advance 0 paperAt100,
    .advance 0 paperAt100]

lemma tradesOnPaper_workOnce : ∀ a ∈ workOnce, TradesOnPaper a := by
  simp [workOnce, TradesOnPaper, Supervisor.IsPaper, paperAt100]

lemma blank_capOne : Blank capOne :=
  ⟨rfl, rfl, rfl, by decide +kernel⟩

/-- The account has `n` open positions. -/
def hasPositions (n : ℕ) (s : Server) : Bool :=
  decide ((s.db.openPositions ⟨1⟩).length = n) &&
    (s.db.riskConfig ⟨1⟩).any fun cfg => decide (cfg.1.maxConcurrentPositions = 1)

/-- A single order is filled within the cap. -/
theorem open_positions_within_cap_one :
    ∃ s, (server Blank).Reachable (fun s a => TradesOnPaper a ∧ OrdersLeaveRoom ⟨1⟩ s a) s ∧
      (s.db.openPositions ⟨1⟩).length = 1 ∧
      ∀ cfg ∈ s.db.riskConfig ⟨1⟩,
        ((s.db.openPositions ⟨1⟩).length : ℤ) ≤ cfg.1.maxConcurrentPositions := by
  have hexec : ((server Blank).exec (OrdersLeaveRoom ⟨1⟩) capOne
      (buyOneOf "BTCUSDT" ⟨2⟩ :: (workOnce ++ workOnce))).any (hasPositions 1) = true := by
    decide +kernel
  obtain ⟨s, hrun, hone⟩ := Machine.exists_run_of_exec hexec
  have hpaper : ∀ a ∈ buyOneOf "BTCUSDT" ⟨2⟩ :: (workOnce ++ workOnce), TradesOnPaper a := by
    rw [List.forall_mem_cons, List.forall_mem_append]
    exact ⟨trivial, tradesOnPaper_workOnce, tradesOnPaper_workOnce⟩
  have hreach : (server Blank).Reachable _ s := ⟨capOne, _, blank_capOne, hrun.of_actions hpaper⟩
  rw [hasPositions, Bool.and_eq_true, decide_eq_true_eq] at hone
  exact ⟨s, hreach, hone.1, open_positions_within_cap hreach⟩

/-- Two orders on two symbols are approved before the worker fills either. -/
def bothOrders : List Action :=
  buyOneOf "BTCUSDT" ⟨2⟩ :: buyOneOf "ETHUSDT" ⟨3⟩ ::
    (workOnce ++ (workOnce ++ (workOnce ++ workOnce)))

lemma tradesOnPaper_bothOrders : ∀ a ∈ bothOrders, TradesOnPaper a := by
  rw [bothOrders, List.forall_mem_cons, List.forall_mem_cons, List.forall_mem_append,
    List.forall_mem_append, List.forall_mem_append]
  exact ⟨trivial, trivial, tradesOnPaper_workOnce, tradesOnPaper_workOnce, tradesOnPaper_workOnce,
    tradesOnPaper_workOnce⟩

theorem open_positions_beyond_cap :
    ¬ ∀ accountId s, (server Blank).Reachable (fun _ a => TradesOnPaper a) s →
      ∀ cfg ∈ s.db.riskConfig accountId,
        ((s.db.openPositions accountId).length : ℤ) ≤ cfg.1.maxConcurrentPositions := by
  intro h
  have hexec : ((server Blank).exec (fun _ _ => True) capOne bothOrders).any
      (hasPositions 2) = true := by
    decide +kernel
  obtain ⟨s, hrun, htwo⟩ := Machine.exists_run_of_exec hexec
  have hreach : (server Blank).Reachable (fun _ a => TradesOnPaper a) s :=
    ⟨capOne, _, blank_capOne,
      (hrun.of_actions tradesOnPaper_bothOrders).mono fun _ _ h => h.1⟩
  rw [hasPositions, Bool.and_eq_true, decide_eq_true_eq] at htwo
  obtain ⟨cfg, hcfg, hcap⟩ := Option.any_eq_true _ _ |>.mp htwo.2
  have hle := h ⟨1⟩ s hreach cfg hcfg
  rw [htwo.1, of_decide_eq_true hcap] at hle
  exact absurd hle (by decide)

end Confluence
