import Confluence.Properties.ListedOrders

/-!
# Outages fail closed

When an endpoint of the venue cannot be read, what the stores hold ages, and two minutes later, or ten
seconds for the books, it is not served any more. From there on no order is placed, or no fill, no
position and no market order comes about, until the endpoint can be read again; restarts, workers and
other requests change nothing of that.
-/

namespace Confluence

/-- The tickers that the action fetches. -/
def ProcessAction.tickers (parse : DecimalParser) :
    ProcessAction → Option (List (String × Decimal × Decimal))
  | .fetchTickers answer => (fetchAllBookTickers parse answer).toOption
  | _ => none

/-- No instant of the process is in the future. -/
structure Dated (p : Process) : Prop where
  metadataAge : p.symbols.maxAge = 120
  booksAge : p.marketData.maxAge = 10
  refreshed : ∀ t, p.symbols.lastRefreshed = some t → t ≤ p.clock
  updated : ∀ symbol top, p.marketData.books symbol = some top → top.lastUpdate ≤ p.clock
  fetched : ∀ tickers now, p.fetched = some (tickers, now) → now ≤ p.clock
  handlers : ∀ h ∈ p.handlers, h.symbolsReadAt ≤ p.clock ∧
    ∀ md now, h.prices = some (md, now) → now ≤ p.clock

/-- No refresh has ended after the instant, or is under way. -/
structure MetadataLost (since : Instant) (p : Process) : Prop where
  idle : p.storing = none
  metadataAge : p.symbols.maxAge = 120
  refreshed : ∀ t, p.symbols.lastRefreshed = some t → t ≤ since
  handlers : ∀ h ∈ p.handlers, since + 120 < h.symbolsReadAt →
    h.symbols.isStale h.symbolsReadAt = true

/-- No book is fresh any more. -/
def MarketDataProvider.Stale (md : MarketDataProvider) (now : Instant) : Prop :=
  ∀ symbol top, md.books symbol = some top → md.isFresh top now = false

/-- No book is of a poll after the instant. -/
structure PricesLost (since : Instant) (p : Process) : Prop where
  booksAge : p.marketData.maxAge = 10
  updated : ∀ symbol top, p.marketData.books symbol = some top → top.lastUpdate ≤ since
  fetched : ∀ tickers now, p.fetched = some (tickers, now) → now ≤ since
  handlers : ∀ h ∈ p.handlers, ∀ md now, h.prices = some (md, now) → since + 10 < now → md.Stale now

/-- What the worker has from its adapter trades nothing. -/
def Task.TradesNothing (t : Task) : Prop :=
  ∀ orderId snapshot result, t.stage = .reconciled orderId snapshot result →
    result.fillsToAdd = [] ∧ result.positionsDelta = []

section

variable {parse : DecimalParser} {a : ProcessAction} {as bs : List ProcessAction}
  {p₀ p p' : Process} {since : Instant} {s s' : Server}

/-! ### Ages -/

/-- What was there before the outage is older than it. -/
lemma lt_age {t since now age : ℕ} (h : t ≤ since) (hlong : since + age < now) : age < now - t := by
  omega

lemma SymbolMetadataStore.isStale_of_refreshed {store : SymbolMetadataStore} {now : Instant}
    (hage : store.maxAge = 120) (h : ∀ t, store.lastRefreshed = some t → t ≤ since)
    (hlong : since + 120 < now) : store.isStale now = true := by
  unfold isStale
  cases ht : store.lastRefreshed with
  | none => rfl
  | some t =>
    have hold : 120 < now - t := lt_age (h t ht) hlong
    rw [← hage] at hold
    exact decide_eq_true hold

lemma MarketDataProvider.stale_of_updated {md : MarketDataProvider} {now : Instant}
    (hage : md.maxAge = 10)
    (h : ∀ symbol top, md.books symbol = some top → top.lastUpdate ≤ since)
    (hlong : since + 10 < now) : md.Stale now := by
  intro symbol top htop
  have hold : 10 < now - top.lastUpdate := lt_age (h symbol top htop) hlong
  rw [← hage] at hold
  exact decide_eq_false (not_le.mpr hold)

@[simp] lemma MarketDataProvider.maxAge_updateAll (md : MarketDataProvider)
    (tickers : List (String × Decimal × Decimal)) (now : Instant) :
    (md.updateAll tickers now).maxAge = md.maxAge := by
  induction tickers generalizing md with
  | nil => rfl
  | cons ticker tickers ih => exact ih _

lemma MarketDataProvider.not_isFresh_of_stale {md : MarketDataProvider} {now : Instant}
    (h : md.Stale now) {symbol : String} {isBuy : Bool} {est : ConservativePriceEstimate}
    (hest : md.conservativeEstimate symbol isBuy now = some est) : est.isFresh = false := by
  obtain ⟨top, htop, rfl⟩ := Option.map_eq_some_iff.mp hest
  exact h symbol top htop

/-- A worker of the process finds nothing to trade in stale books. -/
lemma PaperAdapter.tradesNothing_of_stale {md : MarketDataProvider} {now : Instant}
    (h : md.Stale now) {snapshot : ReconcileSnapshot} {result : ReconcileResult}
    (hresult : reconcileOrder md now snapshot = .ok result) :
    result.fillsToAdd = [] ∧ result.positionsDelta = [] := by
  have hnone : fillOf md now snapshot = none := by
    rw [← Option.not_isSome_iff_eq_none, fillOf_isSome]
    intro htouches
    obtain ⟨est, hest, hfresh⟩ := Option.any_eq_true _ _ |>.mp htouches
    rw [MarketDataProvider.not_isFresh_of_stale h hest] at hfresh
    cases hfresh
  simp only [reconcileOrder, hnone] at hresult
  split_ifs at hresult
  all_goals
    cases hresult
    exact ⟨rfl, rfl⟩

/-! ### The stores -/

lemma Dated.step (hp : Dated p) (h : ProcessStep parse p a p') : Dated p' := by
  obtain ⟨hmetadata, hbooks, hrefreshed, hupdated, hfetched, hhandlers⟩ := hp
  cases h with
  | unfetched | unpolled | routed | worked | faulted | fetched | stored =>
    exact ⟨hmetadata, hbooks, hrefreshed, hupdated, hfetched, hhandlers⟩
  | @ticked seconds server h =>
    have hlater {t : Instant} (ht : t ≤ p.clock) : t ≤ p.clock + seconds :=
      ht.trans (Nat.le_add_right ..)
    refine ⟨hmetadata, hbooks, fun t ht => hlater (hrefreshed t ht),
      fun symbol top htop => hlater (hupdated symbol top htop),
      fun tickers now heq => hlater (hfetched tickers now heq), fun h hh => ?_⟩
    exact ⟨hlater (hhandlers h hh).1, fun md now heq => hlater ((hhandlers h hh).2 md now heq)⟩
  | refreshed =>
    refine ⟨hmetadata, hbooks, fun t ht => ?_, hupdated, hfetched, hhandlers⟩
    exact (Option.some.inj ht).ge
  | polled =>
    refine ⟨hmetadata, hbooks, hrefreshed, hupdated, fun tickers now heq => ?_, hhandlers⟩
    obtain ⟨-, rfl⟩ := Prod.mk.inj (Option.some.inj heq)
    exact le_rfl
  | @updated tickers now h =>
    refine ⟨hmetadata, by simpa using hbooks, hrefreshed, fun symbol top htop => ?_, ?_, hhandlers⟩
    · rcases MarketDataProvider.books_updateAll htop with ⟨-, hnow⟩ | hold
      · exact hnow.le.trans (hfetched tickers now h)
      · exact hupdated symbol top hold
    · rintro _ _ ⟨⟩
  | received =>
    refine ⟨hmetadata, hbooks, hrefreshed, hupdated, hfetched, forall_append hhandlers ⟨le_rfl, ?_⟩⟩
    rintro _ _ ⟨⟩
  | @priced i h hh =>
    refine ⟨hmetadata, hbooks, hrefreshed, hupdated, hfetched, fun h' hh' => ?_⟩
    rcases List.mem_or_eq_of_mem_set hh' with hh' | rfl
    · exact hhandlers h' hh'
    · refine ⟨(hhandlers h (List.mem_of_getElem? hh)).1, fun md now heq => ?_⟩
      obtain ⟨-, rfl⟩ := Prod.mk.inj (Option.some.inj heq)
      exact le_rfl
  | handled | abandoned =>
    exact ⟨hmetadata, hbooks, hrefreshed, hupdated, hfetched,
      fun h hh => hhandlers h ((List.eraseIdx_sublist ..).subset hh)⟩
  | restarted =>
    refine ⟨rfl, rfl, ?_, ?_, ?_, ?_⟩
    · rintro _ ⟨⟩
    · rintro _ _ ⟨⟩
    · rintro _ _ ⟨⟩
    · rintro _ ⟨⟩

lemma dated_of_reachable (h : (process parse).Reachable (fun _ _ => True) p) : Dated p := by
  refine h.invariant ?_ fun _ _ _ hp _ hstep => hp.step (processStep_of_step hstep)
  rintro _ ⟨clock, rfl⟩
  refine ⟨rfl, rfl, ?_, ?_, ?_, ?_⟩
  · rintro _ ⟨⟩
  · rintro _ _ ⟨⟩
  · rintro _ _ ⟨⟩
  · rintro _ ⟨⟩

lemma MetadataLost.step (hp : MetadataLost since p) (hout : a.metas parse = none)
    (h : ProcessStep parse p a p') : MetadataLost since p' := by
  obtain ⟨hidle, hage, hrefreshed, hhandlers⟩ := hp
  cases h with
  | unfetched | unpolled | polled | updated | ticked | routed | worked | faulted =>
    exact ⟨hidle, hage, hrefreshed, hhandlers⟩
  | fetched _ hmetas =>
    rw [ProcessAction.metas, hmetas] at hout
    cases hout
  | stored h | refreshed h =>
    rw [hidle] at h
    cases h
  | received =>
    refine ⟨hidle, hage, hrefreshed, forall_append hhandlers ?_⟩
    exact SymbolMetadataStore.isStale_of_refreshed hage hrefreshed
  | @priced i h hh =>
    refine ⟨hidle, hage, hrefreshed, fun h' hh' => ?_⟩
    rcases List.mem_or_eq_of_mem_set hh' with hh' | rfl
    · exact hhandlers h' hh'
    · exact hhandlers h (List.mem_of_getElem? hh)
  | handled | abandoned =>
    exact ⟨hidle, hage, hrefreshed,
      fun h hh => hhandlers h ((List.eraseIdx_sublist ..).subset hh)⟩
  | restarted =>
    refine ⟨rfl, rfl, ?_, ?_⟩
    · rintro _ ⟨⟩
    · rintro _ ⟨⟩

lemma PricesLost.step (hp : PricesLost since p) (hout : a.tickers parse = none)
    (h : ProcessStep parse p a p') : PricesLost since p' := by
  obtain ⟨hage, hupdated, hfetched, hhandlers⟩ := hp
  cases h with
  | unfetched | fetched | stored | refreshed | unpolled | ticked | routed | worked | faulted =>
    exact ⟨hage, hupdated, hfetched, hhandlers⟩
  | polled htickers =>
    rw [ProcessAction.tickers, htickers] at hout
    cases hout
  | @updated tickers now h =>
    refine ⟨by simpa using hage, fun symbol top htop => ?_, ?_, hhandlers⟩
    · rcases MarketDataProvider.books_updateAll htop with ⟨-, hnow⟩ | hold
      · exact hnow.le.trans (hfetched tickers now h)
      · exact hupdated symbol top hold
    · rintro _ _ ⟨⟩
  | received =>
    refine ⟨hage, hupdated, hfetched, forall_append hhandlers ?_⟩
    rintro _ _ ⟨⟩
  | @priced i h hh =>
    refine ⟨hage, hupdated, hfetched, fun h' hh' => ?_⟩
    rcases List.mem_or_eq_of_mem_set hh' with hh' | rfl
    · exact hhandlers h' hh'
    · intro md now heq
      obtain ⟨rfl, rfl⟩ := Prod.mk.inj (Option.some.inj heq)
      exact MarketDataProvider.stale_of_updated hage hupdated
  | handled | abandoned =>
    exact ⟨hage, hupdated, hfetched,
      fun h hh => hhandlers h ((List.eraseIdx_sublist ..).subset hh)⟩
  | restarted =>
    refine ⟨rfl, ?_, ?_, ?_⟩
    · rintro _ _ ⟨⟩
    · rintro _ _ ⟨⟩
    · rintro _ ⟨⟩

/-! ### Workers without prices -/

variable {supervisor : Supervisor} {t : Task} {stage : Stage} {next : Option Stage} {db db' : Db}

lemma WorkerStep.tradesNothing (h : WorkerStep supervisor t.cmd db t.stage next db')
    (ht : t.TradesNothing) : db'.orderFills = db.orderFills ∧ db'.positions = db.positions := by
  obtain ⟨cmd, lease, before⟩ := t
  cases h with
  | noAdapter | delivered | requeued | permanentlyRejected | reconciliationRequired | notHydrated
  | hydrated | called | notAccepted | notPersisted | audited => exact ⟨rfl, rfl⟩
  | submitted _ _ hmove | cancelled _ _ hmove =>
    obtain ⟨orders, rfl⟩ := hmove.frame
    exact ⟨rfl, rfl⟩
  | @persisted orderId snapshot result db' h =>
    obtain ⟨o, inserted, orderFills, positions, db₁, _, -, -, -, hfills, -, hdeltas, hstatus, rfl⟩ :=
      of_commits_persistReconcileResultTx h
    obtain ⟨orders, rfl⟩ := hstatus.frame
    obtain ⟨hnofills, hnodeltas⟩ := ht orderId snapshot result rfl
    rw [hnofills, insertFills, Engine.commits_pure] at hfills
    rw [hnodeltas, applyPositionDeltas, Engine.commits_pure] at hdeltas
    exact ⟨(congrArg Db.orderFills hfills.2).symm, (congrArg Db.positions hdeltas.2).symm⟩
  | rejected h =>
    rcases h with rfl | ⟨o, -, hmove⟩
    · exact ⟨rfl, rfl⟩
    · obtain ⟨orders, rfl⟩ := hmove.frame
      exact ⟨rfl, rfl⟩

lemma WorkerStep.staysIdle (h : WorkerStep p.supervisor t.cmd db t.stage next db')
    (hstale : p.marketData.Stale p.clock) (hnext : next = some stage) :
    Task.TradesNothing { t with stage } := by
  obtain ⟨cmd, lease, before⟩ := t
  rintro orderId snapshot result hstage
  obtain rfl : stage = .reconciled orderId snapshot result := hstage
  subst hnext
  generalize hnext : some (Stage.reconciled orderId snapshot result) = next at h
  cases h with
  | @called adapter orderId' snapshot' hadapter =>
    -- the only adapter is that of paper trading, over the books of the process
    rcases callAdapter_cases cmd adapter orderId' snapshot' with
      ⟨e, hcall⟩ | ⟨-, hcall⟩ | ⟨-, result', hresult, hcall⟩
    · rw [hcall] at hnext
      cases hnext
    · rw [hcall] at hnext
      cases hnext
    · rw [hcall] at hnext
      cases hnext
      cases hmode : cmd.exchangeMode with
      | paper =>
        rw [hmode] at hadapter
        obtain rfl := Option.some.inj hadapter
        exact PaperAdapter.tradesNothing_of_stale hstale hresult
      | live =>
        rw [hmode] at hadapter
        cases hadapter
  | permanentlyRejected =>
    obtain ⟨_, -, hstage⟩ := Option.map_eq_some_iff.mp hnext.symm
    cases hstage
  | _ => cases hnext

lemma FaultStep.tradesNothing (h : FaultStep supervisor t.cmd t.stage stage) :
    Task.TradesNothing { t with stage } := by
  obtain ⟨cmd, lease, before⟩ := t
  rintro orderId snapshot result hstage
  obtain rfl : stage = .reconciled orderId snapshot result := hstage
  generalize hnext : Stage.reconciled orderId snapshot result = next at h
  cases h with
  | _ => cases hnext

/-- With stale books, a step of the service trades nothing. -/
lemma ServiceStep.tradesNothing {sa : ServiceAction} (h : ServiceStep s sa s')
    (hworks : WorksWith p.supervisor sa) (hstale : p.marketData.Stale p.clock)
    (htasks : ∀ t ∈ s.tasks, t.TradesNothing) :
    (∀ t ∈ s'.tasks, t.TradesNothing) ∧ s'.db.orderFills = s.db.orderFills ∧
      s'.db.positions = s.db.positions := by
  cases h with
  | refused | created | regrouped => exact ⟨htasks, rfl, rfl⟩
  | fault htask hnext =>
    refine ⟨fun t ht => ?_, rfl, rfl⟩
    rcases mem_updateTask htask ht with ht | ⟨stage, rfl, rfl⟩
    · exact htasks t ht
    · exact (faultStep_of_mem hnext).tradesNothing
  | server h =>
    cases h with
    | tick | enqueueCancel => exact ⟨htasks, rfl, rfl⟩
    | request hreq =>
      cases hreq with
      | audited | riskState | configured | placed => exact ⟨htasks, rfl, rfl⟩
    | crash =>
      exact ⟨fun t ht => htasks t ((List.eraseIdx_sublist ..).subset ht), rfl, rfl⟩
    | claim limit locked =>
      refine ⟨fun t ht => ?_, rfl, rfl⟩
      rcases List.mem_append.mp ht with ht | ht
      · exact htasks t ht
      · obtain ⟨cmd, -, rfl⟩ := List.mem_map.mp ht
        rintro _ _ _ ⟨⟩
    | advance htask hworker =>
      obtain rfl := hworks
      refine ⟨fun t ht => ?_, hworker.tradesNothing (htasks _ (List.mem_of_getElem? htask))⟩
      rcases mem_updateTask htask ht with ht | ⟨stage, hstage, rfl⟩
      · exact htasks t ht
      · exact hworker.staysIdle hstale hstage

lemma ProcessStep.tradesNothing (h : ProcessStep parse p a p')
    (hstale : p.marketData.Stale p.clock) (htasks : ∀ t ∈ p.server.tasks, t.TradesNothing) :
    (∀ t ∈ p'.server.tasks, t.TradesNothing) ∧
      p'.server.db.orderFills = p.server.db.orderFills ∧
      p'.server.db.positions = p.server.db.positions := by
  cases h with
  | unfetched | fetched | stored | refreshed | unpolled | polled | updated | received | priced
  | abandoned => exact ⟨htasks, rfl, rfl⟩
  | ticked h => exact (serviceStep_of_step h).tradesNothing trivial hstale htasks
  | handled _ _ h => exact (serviceStep_of_step h).tradesNothing trivial hstale htasks
  | worked h => exact (serviceStep_of_step h).tradesNothing rfl hstale htasks
  | faulted h => exact (serviceStep_of_step h).tradesNothing rfl hstale htasks
  | @routed a sa server ha h =>
    refine (serviceStep_of_step h).tradesNothing ?_ hstale htasks
    cases a <;> cases ha <;> trivial
  | restarted =>
    refine ⟨?_, rfl, rfl⟩
    rintro _ ⟨⟩

/-! ### Outages -/

/-- Terms of the market orders. -/
def Db.marketOrders (db : Db) : List OrderRecord :=
  (db.orders.map (·.terms)).filter fun o => decide (o.orderType = .market)

/-- With stale metadata nothing passes validation. -/
lemma validateRequest_of_isStale {env : Surroundings} {body : PlaceOrderRequest}
    (h : env.symbols.isStale env.symbolsReadAt = true) : validateRequest env body ≠ .ok () := by
  intro hvalid
  obtain ⟨m, hget, -⟩ := of_validateRequest hvalid
  rw [SymbolMetadataStore.get_of_isStale h] at hget
  cases hget

/-- With stale books no market order does. -/
lemma orderType_of_stale {env : Surroundings} {body : PlaceOrderRequest}
    (h : env.marketData.Stale env.marketReadAt) (hvalid : validateRequest env body = .ok ()) :
    body.orderType ≠ .market := by
  intro hmarket
  obtain ⟨_, -, -, -, hfresh⟩ := of_validateRequest hvalid
  obtain ⟨e, he, hfresh⟩ := hfresh hmarket
  obtain ⟨est, hest, rfl⟩ := Option.map_eq_some_iff.mp he
  rw [MarketDataProvider.not_isFresh_of_stale h hest] at hfresh
  cases hfresh

lemma ProcessStep.le_clock (h : ProcessStep parse p a p') : p.clock ≤ p'.clock := by
  cases h with
  | ticked => exact Nat.le_add_right ..
  | _ => exact le_rfl

/-- What a step leaves of the handlers: who has read the store after the instant, and the books. -/
lemma ProcessStep.late (h : ProcessStep parse p a p') (hclock : since < p.clock) :
    ((∀ h ∈ p.handlers, since < h.symbolsReadAt) → ∀ h ∈ p'.handlers, since < h.symbolsReadAt) ∧
    ((∀ h ∈ p.handlers, ∀ md now, h.prices = some (md, now) → since < now) →
      ∀ h ∈ p'.handlers, ∀ md now, h.prices = some (md, now) → since < now) := by
  cases h with
  | unfetched | fetched | stored | refreshed | unpolled | polled | updated | ticked | routed | worked
  | faulted => exact ⟨id, id⟩
  | received =>
    refine ⟨fun hlate => forall_append hlate hclock, fun hlate => forall_append hlate ?_⟩
    rintro _ _ ⟨⟩
  | @priced i h hh =>
    refine ⟨fun hlate h' hh' => ?_, fun hlate h' hh' => ?_⟩
    · rcases List.mem_or_eq_of_mem_set hh' with hh' | rfl
      · exact hlate h' hh'
      · exact hlate h (List.mem_of_getElem? hh)
    · rcases List.mem_or_eq_of_mem_set hh' with hh' | rfl
      · exact hlate h' hh'
      · intro md now heq
        obtain ⟨-, rfl⟩ := Prod.mk.inj (Option.some.inj heq)
        exact hclock
  | handled | abandoned =>
    exact ⟨fun hlate h hh => hlate h ((List.eraseIdx_sublist ..).subset hh),
      fun hlate h hh => hlate h ((List.eraseIdx_sublist ..).subset hh)⟩
  | restarted =>
    refine ⟨fun _ => ?_, fun _ => ?_⟩
    · rintro _ ⟨⟩
    · rintro _ ⟨⟩

/-- The metadata have been lost for two minutes, all handlers have looked since then, and nothing has
been placed. -/
structure PlacementClosed (since : Instant) (before p : Process) : Prop where
  lost : MetadataLost since p
  long : since + 120 < p.clock
  handlers : ∀ h ∈ p.handlers, since + 120 < h.symbolsReadAt
  terms : p.server.db.orders.map (·.terms) = before.server.db.orders.map (·.terms)

lemma PlacementClosed.step (hp : PlacementClosed since p₀ p) (hout : a.metas parse = none)
    (h : ProcessStep parse p a p') : PlacementClosed since p₀ p' := by
  refine ⟨hp.lost.step hout h, hp.long.trans_le h.le_clock, (h.late hp.long).1 hp.handlers, ?_⟩
  rcases h.terms with hsame | ⟨h, hh, md, now, _, _, body, o, -, hvalid, -⟩
  · exact hsame.trans hp.terms
  · have hstale := hp.lost.handlers h hh (hp.handlers h hh)
    exact (validateRequest_of_isStale hstale hvalid).elim

/-- In an outage of `exchangeInfo`, two minutes after its begin, when the handlers that had looked
before are done, no order is placed any more. -/
theorem placement_fails_closed (h₀ : (process parse).Reachable (fun _ _ => True) p₀)
    (hidle : p₀.storing = none)
    (hrun : (process parse).Run (fun _ a => a.metas parse = none) p₀ as p)
    (hlong : p₀.clock + 120 < p.clock)
    (hhandlers : ∀ h ∈ p.handlers, p₀.clock + 120 < h.symbolsReadAt)
    (hrun' : (process parse).Run (fun _ a => a.metas parse = none) p bs p') :
    p'.server.db.orders.map (·.terms) = p.server.db.orders.map (·.terms) := by
  have hdated := dated_of_reachable h₀
  have hlost : MetadataLost p₀.clock p := by
    refine hrun.preserves (I := MetadataLost p₀.clock) ?_ ?_
    · exact fun _ _ _ hp hout hstep => hp.step hout (processStep_of_step hstep)
    · refine ⟨hidle, hdated.metadataAge, hdated.refreshed, fun h hh hlate => ?_⟩
      have hread : h.symbolsReadAt ≤ p₀.clock := (hdated.handlers h hh).1
      exact absurd (hread.trans (Nat.le_add_right _ _)) (not_le.mpr hlate)
  have hclosed : PlacementClosed p₀.clock p p' := by
    refine hrun'.preserves (I := PlacementClosed p₀.clock p) ?_ ⟨hlost, hlong, hhandlers, rfl⟩
    exact fun _ _ _ hp hout hstep => hp.step hout (processStep_of_step hstep)
  exact hclosed.terms

/-- The tickers have been lost for ten seconds, all handlers have looked since then, no worker has
anything to trade, and nothing has been traded. -/
structure TradingClosed (since : Instant) (before p : Process) : Prop where
  lost : PricesLost since p
  long : since + 10 < p.clock
  handlers : ∀ h ∈ p.handlers, ∀ md now, h.prices = some (md, now) → since + 10 < now
  tasks : ∀ t ∈ p.server.tasks, t.TradesNothing
  orderFills : p.server.db.orderFills = before.server.db.orderFills
  positions : p.server.db.positions = before.server.db.positions
  marketOrders : p.server.db.marketOrders = before.server.db.marketOrders

lemma TradingClosed.step (hp : TradingClosed since p₀ p) (hout : a.tickers parse = none)
    (h : ProcessStep parse p a p') : TradingClosed since p₀ p' := by
  have hstale := MarketDataProvider.stale_of_updated hp.lost.booksAge hp.lost.updated hp.long
  obtain ⟨htasks, hfills, hpositions⟩ := h.tradesNothing hstale hp.tasks
  refine ⟨hp.lost.step hout h, hp.long.trans_le h.le_clock, (h.late hp.long).2 hp.handlers, htasks,
    hfills.trans hp.orderFills, hpositions.trans hp.positions, ?_⟩
  rcases h.terms with hsame | ⟨h, hh, md, now, _, _, body, o, hprices, hvalid, -, htype, hnew⟩
  · rw [Db.marketOrders, hsame]
    exact hp.marketOrders
  · have hread := hp.lost.handlers h hh md now hprices (hp.handlers h hh md now hprices)
    have hlimit : o.orderType ≠ .market := htype ▸ orderType_of_stale hread hvalid
    have hnone : List.filter (fun o : OrderRecord => decide (o.orderType = .market))
        (List.map (·.terms) [o]) = [] := by
      simpa [OrderRecord.terms] using hlimit
    rw [Db.marketOrders, hnew, List.map_append, List.filter_append, hnone, List.append_nil]
    exact hp.marketOrders

/-- In an outage of the tickers, ten seconds after its begin, when the handlers and workers that had
looked before are done: no fill, no position and no market order comes about any more. -/
theorem trading_fails_closed (h₀ : (process parse).Reachable (fun _ _ => True) p₀)
    (hrun : (process parse).Run (fun _ a => a.tickers parse = none) p₀ as p)
    (hlong : p₀.clock + 10 < p.clock)
    (hhandlers : ∀ h ∈ p.handlers, ∀ md now, h.prices = some (md, now) → p₀.clock + 10 < now)
    (htasks : ∀ t ∈ p.server.tasks, t.TradesNothing)
    (hrun' : (process parse).Run (fun _ a => a.tickers parse = none) p bs p') :
    p'.server.db.orderFills = p.server.db.orderFills ∧
      p'.server.db.positions = p.server.db.positions ∧
      p'.server.db.marketOrders = p.server.db.marketOrders := by
  have hdated := dated_of_reachable h₀
  have hlost : PricesLost p₀.clock p := by
    refine hrun.preserves (I := PricesLost p₀.clock) ?_ ?_
    · exact fun _ _ _ hp hout hstep => hp.step hout (processStep_of_step hstep)
    · refine ⟨hdated.booksAge, hdated.updated, hdated.fetched, fun h hh md now heq hlate => ?_⟩
      have hread : now ≤ p₀.clock := (hdated.handlers h hh).2 md now heq
      exact absurd (hread.trans (Nat.le_add_right _ _)) (not_le.mpr hlate)
  have hclosed : TradingClosed p₀.clock p p' := by
    refine hrun'.preserves (I := TradingClosed p₀.clock p) ?_
      ⟨hlost, hlong, hhandlers, htasks, rfl, rfl, rfl⟩
    exact fun _ _ _ hp hout hstep => hp.step hout (processStep_of_step hstep)
  exact ⟨hclosed.orderFills, hclosed.positions, hclosed.marketOrders⟩

end

/-! ### An outage of both endpoints -/

def unreachable : ExchangeError := .marketDataError "unreachable"

/-- Both loops fail, for more than two minutes. -/
def outage : List ProcessAction :=
  [.fetchMetadata (.error unreachable), .fetchTickers (.error unreachable), .tick 121]

/-- The same order again, with a worker that looks for commands. -/
def orderAgain : List ProcessAction :=
  [.receive ⟨1⟩ (.placeOrder ⟨3⟩ { buyTen with quantity := 1 }), .readPrices 0, .handle 0 0 0,
    .claim 1 []]

/-- The runs of the outage, after the trade of the process above. -/
lemma runs_outage : ∃ p₀ p p' : Process,
    (process parseHundred).Reachable (fun _ _ => True) p₀ ∧ p₀.storing = none ∧
    (process parseHundred).Run (fun _ _ => True) p₀ outage p ∧ p₀.clock + 121 = p.clock ∧
    p.handlers = [] ∧ p.server.tasks = [] ∧
    (process parseHundred).Run (fun _ _ => True) p orderAgain p' ∧
    p'.server.db.orders.length = 1 := by
  have htest : ((process parseHundred).exec (fun _ _ => True) (.start Db.empty 0)
      (bootAndTrade ++ (outage ++ orderAgain))).any
        (fun p => decide (p.server.db.orders.length = 1)) = true := by
    decide +kernel
  obtain ⟨p', hrun, hp'⟩ := Machine.exists_run_of_exec htest
  obtain ⟨p₀, hrun₀, hrun⟩ := hrun.split
  obtain ⟨p, hrun₁, hrun₂⟩ := hrun.split
  have hp₀ := hrun₀.of_exec (p := fun p => decide (p.clock = 0) && p.storing.isNone)
    (by decide +kernel)
  have hp := (hrun₀.append hrun₁).of_exec
    (p := fun p => decide (p.clock = 121) && p.handlers.isEmpty && p.server.tasks.isEmpty)
    (by decide +kernel)
  simp only [Bool.and_eq_true, decide_eq_true_eq, Option.isNone_iff_eq_none,
    List.isEmpty_iff] at hp₀ hp
  refine ⟨p₀, p, p', ⟨_, _, ⟨0, rfl⟩, hrun₀⟩, hp₀.2, hrun₁, ?_, hp.1.2, hp.2, hrun₂,
    of_decide_eq_true hp'⟩
  rw [hp₀.1, hp.1.1]

/-- The order of the process is the only one. -/
theorem placement_fails_closed_outage : ∃ p p' : Process,
    (process parseHundred).Run (fun _ _ => True) p orderAgain p' ∧
      p'.server.db.orders.length = 1 ∧
      p'.server.db.orders.map (·.terms) = p.server.db.orders.map (·.terms) := by
  obtain ⟨p₀, p, p', h₀, hidle, hrun, hlong, hhandlers, -, hrun', hone⟩ := runs_outage
  have hfails {as : List ProcessAction} {q q' : Process}
      (hrun : (process parseHundred).Run (fun _ _ => True) q as q')
      (h : ∀ a ∈ as, a.metas parseHundred = none) :
      (process parseHundred).Run (fun _ a => a.metas parseHundred = none) q as q' :=
    (hrun.of_actions h).mono fun _ _ hok => hok.1
  refine ⟨p, p', hrun', hone, placement_fails_closed h₀ hidle (hfails hrun ?_) ?_ ?_
    (hfails hrun' ?_)⟩
  · rintro a ha
    fin_cases ha <;> rfl
  · rw [← hlong]
    exact Nat.lt_succ_self _
  · simp [hhandlers]
  · rintro a ha
    fin_cases ha <;> rfl

/-- Nothing is traded after the trade of the process. -/
theorem trading_fails_closed_outage : ∃ p p' : Process,
    (process parseHundred).Run (fun _ _ => True) p orderAgain p' ∧
      p'.server.db.orders.length = 1 ∧
      p'.server.db.orderFills = p.server.db.orderFills ∧
      p'.server.db.positions = p.server.db.positions ∧
      p'.server.db.marketOrders = p.server.db.marketOrders := by
  obtain ⟨p₀, p, p', h₀, -, hrun, hlong, hhandlers, htasks, hrun', hone⟩ := runs_outage
  have hfails {as : List ProcessAction} {q q' : Process}
      (hrun : (process parseHundred).Run (fun _ _ => True) q as q')
      (h : ∀ a ∈ as, a.tickers parseHundred = none) :
      (process parseHundred).Run (fun _ a => a.tickers parseHundred = none) q as q' :=
    (hrun.of_actions h).mono fun _ _ hok => hok.1
  refine ⟨p, p', hrun', hone, trading_fails_closed h₀ (hfails hrun ?_) ?_ ?_ ?_ (hfails hrun' ?_)⟩
  · rintro a ha
    fin_cases ha <;> rfl
  · rw [← hlong]
    exact Nat.add_lt_add_left (by decide) _
  · simp [hhandlers]
  · simp [htasks]
  · rintro a ha
    fin_cases ha <;> rfl

end Confluence
