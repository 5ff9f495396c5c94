import Confluence.Properties.FilterVerdicts
import Confluence.Properties.History
import Confluence.Properties.QuotedFills

/-!
# Orders are for listed symbols

Handlers run beside the refresh loop and may see the store half filled. What they find there is of the
latest answer of the venue even so: every order that the process has ever placed was, when its handler
looked, for a symbol that this answer listed as trading and with the type of the order.
-/

namespace Confluence

/-- The metadata that the action fetches. -/
def ProcessAction.metas (parse : DecimalParser) : ProcessAction → Option (List SymbolMeta)
  | .fetchMetadata answer => (fetchExchangeInfo parse answer).toOption
  | _ => none

/-- The latest metadata that has been fetched. -/
def latestMetadata (parse : DecimalParser) (as : List ProcessAction) : Option (List SymbolMeta) :=
  (as.filterMap (·.metas parse)).getLast?

/-- The latest metadata list the entry. -/
def ListedLast (parse : DecimalParser) (as : List ProcessAction) (m : SymbolMeta) : Prop :=
  ∃ metas, latestMetadata parse as = some metas ∧ m ∈ metas

/-- The store has entries of the latest metadata only, each under its symbol. -/
def SymbolMetadataStore.IsLatest (parse : DecimalParser) (as : List ProcessAction)
    (store : SymbolMetadataStore) : Prop :=
  ∀ symbol m, store.symbols symbol = some m → m.symbol = symbol ∧ ListedLast parse as m

/-- At some point of the run, the order's symbol was listed as trading with the order's type. -/
def WasListed (parse : DecimalParser) (as : List ProcessAction) (o : OrderRecord) : Prop :=
  ∃ as₁, as₁ <+: as ∧ ∃ m, ListedLast parse as₁ m ∧ m.symbol = o.symbol ∧ m.status = .trading ∧
    o.orderType ∈ m.allowedOrderTypes

structure OrdersListed (parse : DecimalParser) (as : List ProcessAction) (p : Process) : Prop where
  symbols : p.symbols.IsLatest parse as
  storing : ∀ rest, p.storing = some rest → ∀ m ∈ rest, ListedLast parse as m
  handlers : ∀ h ∈ p.handlers, ∃ as₁, as₁ <+: as ∧ h.symbols.IsLatest parse as₁
  orders : ∀ o ∈ p.server.db.orders, WasListed parse as o

section

variable {parse : DecimalParser} {as : List ProcessAction} {a : ProcessAction} {p p' : Process}
  {s s' : Server}

/-! ### The orders of a step -/

/-- A step keeps the orders' terms, or it is a request whose order has passed validation. -/
lemma terms_of_serviceStep {sa : ServiceAction} (h : s.serviceStep sa = some s') :
    s'.db.orders.map (·.terms) = s.db.orders.map (·.terms) ∨
      ∃ env accountId orderId body, ∃ o : OrderRecord,
        sa = .act (.act (.request env accountId (.placeOrder orderId body))) ∧
        validateRequest env body = .ok () ∧ o.symbol = body.symbol ∧ o.orderType = body.orderType ∧
        s'.db.orders = s.db.orders ++ [o] := by
  cases serviceStep_of_step h with
  | fault | refused | created | regrouped => exact .inl rfl
  | server h =>
    cases h with
    | tick | claim | crash | enqueueCancel => exact .inl rfl
    | advance htask hworker =>
      left
      rcases hworker.movesOrder with hsame | ⟨orderId, o, status, q, -, -, -, -, hmoved⟩
      · exact congrArg (List.map (·.terms)) hsame
      · simp only [hmoved, Db.withStatus]
        rw [map_updateWhere]
        exact fun _ => rfl
    | @request env accountId r db' hrequest =>
      cases hrequest with
      | audited => exact .inl rfl
      | riskState => exact .inl rfl
      | configured => exact .inl rfl
      | @placed orderId body q price happroved =>
        right
        refine ⟨env, accountId, orderId, body, _, rfl, ?_, rfl, rfl, rfl⟩
        unfold evaluated at happroved
        cases hvalid : validateRequest env body with
        | error e =>
          rw [hvalid] at happroved
          cases happroved
        | ok _ => rfl

/-- What validation checks first, and the fresh estimate that it asks of a market order. -/
lemma of_validateOrder {intent : OrderIntent} {m : SymbolMeta} {est : Option PriceEstimate}
    (h : validateOrder intent m est = .ok ()) :
    m.status = .trading ∧ intent.orderType ∈ m.allowedOrderTypes ∧
      (intent.orderType = .market → ∃ e, est = some e ∧ e.isFresh = true) := by
  unfold validateOrder at h
  simp only [validation_bind_eq_ok, rejectIf_eq_ok, not_not] at h
  obtain ⟨hstatus, htype, -, -, h⟩ := h
  refine ⟨hstatus, htype, fun hmarket => ?_⟩
  simp only [hmarket] at h
  cases est with
  | none => cases h
  | some e =>
    simp only [validateMarket, validation_bind_eq_ok, rejectIf_eq_ok] at h
    exact ⟨e, rfl, by simpa using h.1⟩

/-- An order that passes validation is for a symbol that the store gives. -/
lemma of_validateRequest {env : Surroundings} {body : PlaceOrderRequest}
    (h : validateRequest env body = .ok ()) :
    ∃ m, env.symbols.get body.symbol env.symbolsReadAt = some m ∧ m.status = .trading ∧
      body.orderType ∈ m.allowedOrderTypes ∧
      (body.orderType = .market → ∃ e, priceEstimate env body = some e ∧ e.isFresh = true) := by
  unfold validateRequest at h
  split_ifs at h
  cases hget : env.symbols.get body.symbol env.symbolsReadAt with
  | none => simp [hget] at h
  | some m =>
    simp only [hget] at h
    refine ⟨m, rfl, ?_⟩
    generalize hvalid : validateOrder _ m (priceEstimate env body) = verdict at h
    cases verdict with
    | error e => cases h
    | ok _ => exact of_validateOrder hvalid

/-- A step of the process keeps the orders' terms, or it handles a request whose order has passed
validation with what the handler had read. -/
lemma ProcessStep.terms (h : ProcessStep parse p a p') :
    p'.server.db.orders.map (·.terms) = p.server.db.orders.map (·.terms) ∨
      ∃ h ∈ p.handlers, ∃ md now snapshotDay tripDay body, ∃ o : OrderRecord,
        h.prices = some (md, now) ∧
        validateRequest (h.environment md now snapshotDay tripDay) body = .ok () ∧
        o.symbol = body.symbol ∧ o.orderType = body.orderType ∧
        p'.server.db.orders = p.server.db.orders ++ [o] := by
  cases h with
  | unfetched | fetched | stored | refreshed | unpolled | polled | updated | received | priced
  | abandoned | restarted => exact .inl rfl
  | @handled i snapshotDay tripDay h md now server hh hprices hs =>
    rcases terms_of_serviceStep hs with hterms | ⟨env, _, _, body, o, ha, hvalid, hsymbol, htype, hnew⟩
    · exact .inl hterms
    · simp only [ServiceAction.act.injEq, FaultyAction.act.injEq, Action.request.injEq] at ha
      obtain ⟨rfl, -, -⟩ := ha
      exact .inr ⟨h, List.mem_of_getElem? hh, md, now, snapshotDay, tripDay, body, o, hprices, hvalid,
        hsymbol, htype, hnew⟩
  | ticked h | worked h | faulted h =>
    rcases terms_of_serviceStep h with hterms | ⟨_, _, _, _, _, ha, -⟩
    · exact .inl hterms
    · cases ha
  | @routed a sa server ha h =>
    rcases terms_of_serviceStep h with hterms | ⟨_, _, _, _, _, rfl, -⟩
    · exact .inl hterms
    · cases a <;> cases ha

/-! ### The latest metadata -/

lemma latestMetadata_append_of_some {metas : List SymbolMeta} (h : a.metas parse = some metas) :
    latestMetadata parse (as ++ [a]) = some metas := by
  simp [latestMetadata, List.filterMap_append, h]

lemma latestMetadata_append_of_none (h : a.metas parse = none) :
    latestMetadata parse (as ++ [a]) = latestMetadata parse as := by
  simp [latestMetadata, List.filterMap_append, h]

lemma ListedLast.of_none {m : SymbolMeta} (h : ListedLast parse as m) (ha : a.metas parse = none) :
    ListedLast parse (as ++ [a]) m := by
  unfold ListedLast
  rw [latestMetadata_append_of_none ha]
  exact h

lemma WasListed.append {o : OrderRecord} (h : WasListed parse as o) :
    WasListed parse (as ++ [a]) o := by
  obtain ⟨as₁, hprefix, hlisted⟩ := h
  exact ⟨as₁, hprefix.trans (List.prefix_append ..), hlisted⟩

lemma WasListed.congr {o o' : OrderRecord} (h : WasListed parse as o) (hterms : o'.terms = o.terms) :
    WasListed parse as o' := by
  have hsymbol : o'.terms.symbol = o.terms.symbol := by rw [hterms]
  have htype : o'.terms.orderType = o.terms.orderType := by rw [hterms]
  obtain ⟨as₁, hprefix, m, hlisted, hm, hstatus, hallowed⟩ := h
  exact ⟨as₁, hprefix, m, hlisted, hm.trans hsymbol.symm, hstatus, htype ▸ hallowed⟩

/-! ### Every step -/

/-- The order of a step has found its symbol in the store that its handler has seen. -/
lemma OrdersListed.orders_step (hp : OrdersListed parse as p) (h : ProcessStep parse p a p') :
    ∀ o ∈ p'.server.db.orders, WasListed parse (as ++ [a]) o := by
  have horders : ∀ o ∈ p.server.db.orders, WasListed parse (as ++ [a]) o :=
    fun o ho => (hp.orders o ho).append
  rcases h.terms with hterms | ⟨h, hh, md, now, _, _, body, o, -, hvalid, hsymbol, htype, hnew⟩
  · intro o ho
    have hmem := List.mem_map_of_mem (f := (·.terms)) ho
    rw [hterms] at hmem
    obtain ⟨o', ho', hterms'⟩ := List.mem_map.mp hmem
    exact (horders o' ho').congr hterms'.symm
  · rw [hnew]
    refine forall_append horders ?_
    obtain ⟨m, hget, hstatus, hallowed, -⟩ := of_validateRequest hvalid
    obtain ⟨as₁, hprefix, hlatest⟩ := hp.handlers h hh
    obtain ⟨hm, hlisted⟩ := hlatest body.symbol m (SymbolMetadataStore.symbols_of_get hget)
    exact ⟨as₁, hprefix.trans (List.prefix_append ..), m, hlisted, hm.trans hsymbol.symm, hstatus,
      htype ▸ hallowed⟩

lemma OrdersListed.step (hp : OrdersListed parse as p) (h : ProcessStep parse p a p') :
    OrdersListed parse (as ++ [a]) p' := by
  have horders := hp.orders_step h
  have hhandlers : ∀ h ∈ p.handlers, ∃ as₁, as₁ <+: as ++ [a] ∧ h.symbols.IsLatest parse as₁ := by
    intro h hh
    obtain ⟨as₁, hprefix, hlatest⟩ := hp.handlers h hh
    exact ⟨as₁, hprefix.trans (List.prefix_append ..), hlatest⟩
  have hsymbols (ha : a.metas parse = none) : p.symbols.IsLatest parse (as ++ [a]) :=
    fun symbol m hm => ⟨(hp.symbols symbol m hm).1, (hp.symbols symbol m hm).2.of_none ha⟩
  have hstoring (ha : a.metas parse = none) : ∀ rest, p.storing = some rest → ∀ m ∈ rest,
      ListedLast parse (as ++ [a]) m :=
    fun rest hrest m hm => (hp.storing rest hrest m hm).of_none ha
  cases h with
  | @unfetched answer e hfailed =>
    have ha : ProcessAction.metas parse (.fetchMetadata answer) = none := by
      rw [ProcessAction.metas, hfailed]
      rfl
    exact ⟨hsymbols ha, hstoring ha, hhandlers, horders⟩
  | @fetched answer metas _ hmetas =>
    have hlatest : latestMetadata parse (as ++ [.fetchMetadata answer]) = some metas := by
      apply latestMetadata_append_of_some
      rw [ProcessAction.metas, hmetas]
      rfl
    refine ⟨?_, ?_, hhandlers, horders⟩
    · rintro _ _ ⟨⟩
    · intro rest heq m hm
      obtain rfl := Option.some.inj heq
      exact ⟨_, hlatest, hm⟩
  | @stored m metas hrest =>
    have hlisted := hstoring rfl _ hrest
    refine ⟨fun symbol m' hm' => ?_, ?_, hhandlers, horders⟩
    · rcases SymbolMetadataStore.symbols_insert hm' with ⟨rfl, hsymbol⟩ | hold
      · exact ⟨hsymbol, hlisted m' (List.mem_cons_self ..)⟩
      · exact hsymbols rfl symbol m' hold
    · intro rest heq m' hm'
      obtain rfl := Option.some.inj heq
      exact hlisted m' (List.mem_cons_of_mem _ hm')
  | refreshed =>
    refine ⟨hsymbols rfl, ?_, hhandlers, horders⟩
    rintro _ ⟨⟩
  | unpolled | polled | updated => exact ⟨hsymbols rfl, hstoring rfl, hhandlers, horders⟩
  | received accountId request =>
    exact ⟨hsymbols rfl, hstoring rfl,
      forall_append hhandlers ⟨_, List.prefix_rfl, hsymbols rfl⟩, horders⟩
  | @priced i h hh =>
    refine ⟨hsymbols rfl, hstoring rfl, fun h' hh' => ?_, horders⟩
    rcases List.mem_or_eq_of_mem_set hh' with hh' | rfl
    · exact hhandlers h' hh'
    · exact hhandlers h (List.mem_of_getElem? hh)
  | abandoned i =>
    exact ⟨hsymbols rfl, hstoring rfl,
      fun h hh => hhandlers h ((List.eraseIdx_sublist ..).subset hh), horders⟩
  | restarted =>
    refine ⟨?_, ?_, ?_, horders⟩
    · rintro _ _ ⟨⟩
    · rintro _ ⟨⟩
    · rintro _ ⟨⟩
  | handled =>
    exact ⟨hsymbols rfl, hstoring rfl,
      fun h' hh' => hhandlers h' ((List.eraseIdx_sublist ..).subset hh'), horders⟩
  | ticked | worked | faulted => exact ⟨hsymbols rfl, hstoring rfl, hhandlers, horders⟩
  | @routed a sa server ha h =>
    have hnone : a.metas parse = none := by cases a <;> first | rfl | cases ha
    exact ⟨hsymbols hnone, hstoring hnone, hhandlers, horders⟩

end

end Confluence
