import Confluence.Exchange.MarketFeed
import Confluence.Server.Service

/-!
# The process

What `main` starts: the routes and the worker on one database, and the two loops that keep the symbol
metadata and the books up to date. The loops run beside the handlers: a refresh clears the store,
fills it symbol by symbol and dates it in the end, and a handler reads the metadata, then the book,
and only then opens its transaction.
-/

namespace Confluence

/-! ### Symbol metadata -/

namespace SymbolMetadataStore

variable {store : SymbolMetadataStore} {symbol : String} {now : Instant} {m : SymbolMeta}

def new (maxAge : ℕ) : SymbolMetadataStore where
  symbols := fun _ => none
  lastRefreshed := none
  maxAge := maxAge

def isStale (store : SymbolMetadataStore) (now : Instant) : Bool :=
  match store.lastRefreshed with
  | none => true
  | some t => decide (now - t > store.maxAge)

/-- Whether `tradable_symbols` lists the symbol. -/
def isTradable (store : SymbolMetadataStore) (now : Instant) (symbol : String) : Bool :=
  !store.isStale now && (store.symbols symbol).any fun m => decide (m.status = .trading)

def clear (store : SymbolMetadataStore) : SymbolMetadataStore :=
  { store with symbols := fun _ => none }

def insert (store : SymbolMetadataStore) (m : SymbolMeta) : SymbolMetadataStore :=
  { store with symbols := fun s => if s = m.symbol then some m else store.symbols s }

def refreshedAt (store : SymbolMetadataStore) (now : Instant) : SymbolMetadataStore :=
  { store with lastRefreshed := some now }

def replaceAll (store : SymbolMetadataStore) (metas : List SymbolMeta) (now : Instant) :
    SymbolMetadataStore :=
  (metas.foldl insert store.clear).refreshedAt now

/-- A stale store gives nothing. -/
lemma get_of_isStale (h : store.isStale now = true) : store.get symbol now = none := by
  unfold isStale at h
  unfold get
  cases ht : store.lastRefreshed with
  | none => rfl
  | some t =>
    rw [ht] at h
    have hold : now - t > store.maxAge := of_decide_eq_true h
    simp [hold]

/-- What the store gives, it holds. -/
lemma symbols_of_get (h : store.get symbol now = some m) : store.symbols symbol = some m := by
  simp only [get, Option.bind_eq_bind, Option.bind_eq_some_iff] at h
  obtain ⟨t, -, h⟩ := h
  split_ifs at h
  exact h

lemma symbols_insert {m' : SymbolMeta} (h : (store.insert m).symbols symbol = some m') :
    (m' = m ∧ m.symbol = symbol) ∨ store.symbols symbol = some m' := by
  simp only [insert] at h
  split_ifs at h with hsymbol
  · exact .inl ⟨(Option.some.inj h).symm, hsymbol.symm⟩
  · exact .inr h

end SymbolMetadataStore

/-! ### State -/

/-- A request between its arrival and its transaction, with what its handler has read so far. -/
structure Handler where
  accountId : Uuid
  request : Request
  symbols : SymbolMetadataStore
  symbolsReadAt : Instant
  prices : Option (MarketDataProvider × Instant)

/-- `storing` holds what a refresh has still to insert, `fetched` the tickers that a poll has still to
write. -/
structure Process where
  server : Server
  symbols : SymbolMetadataStore
  storing : Option (List SymbolMeta)
  marketData : MarketDataProvider
  fetched : Option (List (String × Decimal × Decimal) × Instant)
  handlers : List Handler
  clock : Instant

inductive ProcessAction
  | tick (seconds : ℕ)
  | fetchMetadata (answer : Except ExchangeError Json)
  | storeSymbol
  | fetchTickers (answer : Except ExchangeError Json)
  | updateBooks
  | receive (accountId : Uuid) (request : Request)
  | readPrices (i : ℕ)
  | handle (i : ℕ) (snapshotDay tripDay : Date)
  | abandon (i : ℕ)
  | createAccount (accountId : Uuid) (equity : Option Decimal)
  | putCorrelationGroups (accountId : Uuid) (groups : List (Uuid × CorrelationGroupDef))
  | enqueueCancel (accountId orderId : Uuid) (mode : ExchangeMode) (tag : String)
  | claim (limit : ℕ) (locked : List ℕ)
  | work (i : ℕ)
  | fault (i : ℕ) (n : ℕ)
  | restart

namespace Process

/-- A process that has just been started on the database. -/
def start (db : Db) (clock : Instant) : Process where
  server := ⟨db, []⟩
  symbols := .new 120
  storing := none
  marketData := .new 10
  fetched := none
  handlers := []
  clock := clock

/-- Paper trading with the shared books; live trading is not wired. -/
def supervisor (p : Process) : Supervisor where
  paperAdapter := some (paperAdapter p.marketData p.clock)
  liveAdapter := none

/-- What a handler has read, once it has read it all. -/
def surroundings (h : Handler) (snapshotDay tripDay : Date) : Option Surroundings :=
  h.prices.map fun prices =>
    { symbols := h.symbols, marketData := prices.1, symbolsReadAt := h.symbolsReadAt,
      marketReadAt := prices.2, snapshotDay, tripDay }

/-- A step of the service, with the stores as they are. -/
def serve (p : Process) (a : ServiceAction) : Option Process := do
  let server ← p.server.serviceStep a
  return { p with server }

/-- The refresh that the answer starts, if it can be read. -/
def beginStoring (parse : DecimalParser) (p : Process) (answer : Except ExchangeError Json) :
    Process :=
  match fetchExchangeInfo parse answer with
  | .error _ => p
  | .ok metas => { p with symbols := p.symbols.clear, storing := some metas }

/-- The next insertion of a refresh, or its end. -/
def storeNext (p : Process) : List SymbolMeta → Process
  | [] => { p with symbols := p.symbols.refreshedAt p.clock, storing := none }
  | m :: metas => { p with symbols := p.symbols.insert m, storing := some metas }

/-- The tickers of the symbols that orders are accepted for. -/
def keepTradable (parse : DecimalParser) (p : Process) (answer : Except ExchangeError Json) :
    Process :=
  match fetchAllBookTickers parse answer with
  | .error _ => p
  | .ok tickers =>
    { p with fetched := some (tickers.filter fun t => p.symbols.isTradable p.clock t.1, p.clock) }

def step (parse : DecimalParser) (p : Process) : ProcessAction → Option Process
  | .tick seconds =>
    (p.serve (.act (.act (.tick seconds)))).map fun p => { p with clock := p.clock + seconds }
  | .fetchMetadata answer =>
    if p.storing.isSome then none else some (p.beginStoring parse answer)
  | .storeSymbol => p.storing.map p.storeNext
  | .fetchTickers answer =>
    if p.fetched.isSome then none else some (p.keepTradable parse answer)
  | .updateBooks =>
    p.fetched.map fun fetched =>
      { p with marketData := p.marketData.updateAll fetched.1 fetched.2, fetched := none }
  | .receive accountId request =>
    some { p with
      handlers := p.handlers ++ [{ accountId, request, symbols := p.symbols,
                                   symbolsReadAt := p.clock, prices := none }] }
  | .readPrices i => do
    let h ← p.handlers[i]?
    if h.prices.isSome then none
    else
      return { p with
        handlers := p.handlers.set i { h with prices := some (p.marketData, p.clock) } }
  | .handle i snapshotDay tripDay => do
    let h ← p.handlers[i]?
    let env ← surroundings h snapshotDay tripDay
    let p ← p.serve (.act (.act (.request env h.accountId h.request)))
    return { p with handlers := p.handlers.eraseIdx i }
  | .abandon i => some { p with handlers := p.handlers.eraseIdx i }
  | .createAccount accountId equity => p.serve (.createAccount accountId equity)
  | .putCorrelationGroups accountId groups => p.serve (.putCorrelationGroups accountId groups)
  | .enqueueCancel accountId orderId mode tag =>
    p.serve (.act (.act (.enqueueCancel accountId orderId mode tag)))
  | .claim limit locked => p.serve (.act (.act (.claim limit locked)))
  | .work i => p.serve (.act (.act (.advance i p.supervisor)))
  | .fault i n => p.serve (.act (.fault i p.supervisor n))
  -- workers and handlers end with the process, the database stays
  | .restart => some (start p.server.db p.clock)

end Process

/-- The process from an empty database on. -/
def process (parse : DecimalParser) : Machine Process ProcessAction where
  init := fun p => ∃ clock, p = .start Db.empty clock
  step := Process.step parse

/-! ### The effects of a step -/

/-- The actions that neither read the stores nor change them. -/
def ProcessAction.plain : ProcessAction → Option ServiceAction
  | .createAccount accountId equity => some (.createAccount accountId equity)
  | .putCorrelationGroups accountId groups => some (.putCorrelationGroups accountId groups)
  | .enqueueCancel accountId orderId mode tag =>
    some (.act (.act (.enqueueCancel accountId orderId mode tag)))
  | .claim limit locked => some (.act (.act (.claim limit locked)))
  | _ => none

/-- What a handler of `place_order` works with. -/
def Handler.environment (h : Handler) (md : MarketDataProvider) (now : Instant)
    (snapshotDay tripDay : Date) : Surroundings :=
  { symbols := h.symbols, marketData := md, symbolsReadAt := h.symbolsReadAt, marketReadAt := now,
    snapshotDay, tripDay }

inductive ProcessStep (parse : DecimalParser) (p : Process) : ProcessAction → Process → Prop
  | ticked {seconds : ℕ} {server : Server}
      (h : p.server.serviceStep (.act (.act (.tick seconds))) = some server) :
    ProcessStep parse p (.tick seconds) { p with server, clock := p.clock + seconds }
  | unfetched {answer : Except ExchangeError Json} {e : ExchangeError}
      (h : fetchExchangeInfo parse answer = .error e) :
    ProcessStep parse p (.fetchMetadata answer) p
  | fetched {answer : Except ExchangeError Json} {metas : List SymbolMeta}
      (hidle : p.storing = none) (h : fetchExchangeInfo parse answer = .ok metas) :
    ProcessStep parse p (.fetchMetadata answer)
      { p with symbols := p.symbols.clear, storing := some metas }
  | stored {m : SymbolMeta} {metas : List SymbolMeta} (h : p.storing = some (m :: metas)) :
    ProcessStep parse p .storeSymbol { p with symbols := p.symbols.insert m, storing := some metas }
  | refreshed (h : p.storing = some []) :
    ProcessStep parse p .storeSymbol
      { p with symbols := p.symbols.refreshedAt p.clock, storing := none }
  | unpolled {answer : Except ExchangeError Json} {e : ExchangeError}
      (h : fetchAllBookTickers parse answer = .error e) :
    ProcessStep parse p (.fetchTickers answer) p
  | polled {answer : Except ExchangeError Json} {tickers : List (String × Decimal × Decimal)}
      (h : fetchAllBookTickers parse answer = .ok tickers) :
    ProcessStep parse p (.fetchTickers answer)
      { p with
        fetched := some (tickers.filter fun t => p.symbols.isTradable p.clock t.1, p.clock) }
  | updated {tickers : List (String × Decimal × Decimal)} {now : Instant}
      (h : p.fetched = some (tickers, now)) :
    ProcessStep parse p .updateBooks
      { p with marketData := p.marketData.updateAll tickers now, fetched := none }
  | received (accountId : Uuid) (request : Request) :
    ProcessStep parse p (.receive accountId request)
      { p with
        handlers := p.handlers ++ [{ accountId, request, symbols := p.symbols,
                                     symbolsReadAt := p.clock, prices := none }] }
  | priced {i : ℕ} {h : Handler} (hh : p.handlers[i]? = some h) :
    ProcessStep parse p (.readPrices i)
      { p with handlers := p.handlers.set i { h with prices := some (p.marketData, p.clock) } }
  | handled {i : ℕ} {snapshotDay tripDay : Date} {h : Handler} {md : MarketDataProvider}
      {now : Instant} {server : Server} (hh : p.handlers[i]? = some h)
      (hprices : h.prices = some (md, now))
      (hs : p.server.serviceStep (.act (.act (.request
        (h.environment md now snapshotDay tripDay) h.accountId h.request))) = some server) :
    ProcessStep parse p (.handle i snapshotDay tripDay)
      { p with server, handlers := p.handlers.eraseIdx i }
  | abandoned (i : ℕ) :
    ProcessStep parse p (.abandon i) { p with handlers := p.handlers.eraseIdx i }
  | routed {a : ProcessAction} {sa : ServiceAction} {server : Server} (ha : a.plain = some sa)
      (h : p.server.serviceStep sa = some server) : ProcessStep parse p a { p with server }
  | worked {i : ℕ} {server : Server}
      (h : p.server.serviceStep (.act (.act (.advance i p.supervisor))) = some server) :
    ProcessStep parse p (.work i) { p with server }
  | faulted {i n : ℕ} {server : Server}
      (h : p.server.serviceStep (.act (.fault i p.supervisor n)) = some server) :
    ProcessStep parse p (.fault i n) { p with server }
  | restarted : ProcessStep parse p .restart (.start p.server.db p.clock)

section

variable {parse : DecimalParser} {p p' : Process}

lemma Process.serve_eq_some {sa : ServiceAction} :
    p.serve sa = some p' ↔ ∃ server, p.server.serviceStep sa = some server ∧ p' = { p with server } := by
  simp only [Process.serve, Option.bind_eq_bind, Option.bind_eq_some_iff]
  constructor
  · rintro ⟨server, h, hp⟩
    exact ⟨server, h, (Option.some.inj hp).symm⟩
  · rintro ⟨server, h, rfl⟩
    exact ⟨server, h, rfl⟩

theorem processStep_of_step {a : ProcessAction} (h : p.step parse a = some p') :
    ProcessStep parse p a p' := by
  cases a with
  | tick seconds =>
    simp only [Process.step, Option.map_eq_some_iff, Process.serve_eq_some] at h
    obtain ⟨_, ⟨server, hs, rfl⟩, rfl⟩ := h
    exact .ticked hs
  | fetchMetadata answer =>
    simp only [Process.step] at h
    split_ifs at h with hidle
    obtain rfl := Option.some.inj h
    unfold Process.beginStoring
    cases hmetas : fetchExchangeInfo parse answer with
    | error e => exact .unfetched hmetas
    | ok metas => exact .fetched (by simpa using hidle) hmetas
  | storeSymbol =>
    simp only [Process.step, Option.map_eq_some_iff] at h
    obtain ⟨metas, hstoring, rfl⟩ := h
    cases metas with
    | nil => exact .refreshed hstoring
    | cons m metas => exact .stored hstoring
  | fetchTickers answer =>
    simp only [Process.step] at h
    split_ifs at h
    obtain rfl := Option.some.inj h
    unfold Process.keepTradable
    cases htickers : fetchAllBookTickers parse answer with
    | error e => exact .unpolled htickers
    | ok tickers => exact .polled htickers
  | updateBooks =>
    simp only [Process.step, Option.map_eq_some_iff] at h
    obtain ⟨⟨tickers, now⟩, hfetched, rfl⟩ := h
    exact .updated hfetched
  | receive accountId request =>
    obtain rfl := Option.some.inj h
    exact .received accountId request
  | readPrices i =>
    simp only [Process.step, Option.bind_eq_bind, Option.bind_eq_some_iff] at h
    obtain ⟨h', hh, h⟩ := h
    split_ifs at h
    obtain rfl := Option.some.inj h
    exact .priced hh
  | handle i snapshotDay tripDay =>
    simp only [Process.step, Option.bind_eq_bind, Option.bind_eq_some_iff, Process.serve_eq_some,
      Process.surroundings, Option.map_eq_some_iff] at h
    obtain ⟨h', hh, _, ⟨⟨md, now⟩, hprices, rfl⟩, _, ⟨server, hs, rfl⟩, h⟩ := h
    obtain rfl := Option.some.inj h
    exact .handled hh hprices hs
  | abandon i =>
    obtain rfl := Option.some.inj h
    exact .abandoned i
  | createAccount | putCorrelationGroups | enqueueCancel | claim =>
    obtain ⟨server, hs, rfl⟩ := Process.serve_eq_some.mp h
    exact .routed rfl hs
  | work i =>
    obtain ⟨server, hs, rfl⟩ := Process.serve_eq_some.mp h
    exact .worked hs
  | fault i n =>
    obtain ⟨server, hs, rfl⟩ := Process.serve_eq_some.mp h
    exact .faulted hs
  | restart =>
    obtain rfl := Option.some.inj h
    exact .restarted

/-! ### A refresh -/

/-- The rest of a refresh, one insertion after another. -/
lemma storeSymbols_run {parse : DecimalParser} {p : Process} {metas : List SymbolMeta}
    (hstoring : p.storing = some metas) :
    ∃ as, (process parse).Run (fun _ _ => True) p as
      { p with symbols := (metas.foldl .insert p.symbols).refreshedAt p.clock, storing := none } := by
  induction metas generalizing p with
  | nil =>
    refine ⟨[.storeSymbol], .cons trivial ?_ (.nil _)⟩
    simp [process, Process.step, Process.storeNext, hstoring]
  | cons m metas ih =>
    obtain ⟨as, hrun⟩ := ih (p := { p with symbols := p.symbols.insert m, storing := some metas }) rfl
    refine ⟨.storeSymbol :: as, .cons trivial ?_ hrun⟩
    simp [process, Process.step, Process.storeNext, hstoring]

/-- A refresh that nothing comes between is one `replace_all`. -/
theorem replaceAll_run {parse : DecimalParser} {p : Process} {answer : Except ExchangeError Json}
    {metas : List SymbolMeta} (hidle : p.storing = none)
    (hfetch : fetchExchangeInfo parse answer = .ok metas) :
    ∃ as, (process parse).Run (fun _ _ => True) p as
      { p with symbols := p.symbols.replaceAll metas p.clock } := by
  obtain ⟨as, hrun⟩ := @storeSymbols_run parse
    { p with symbols := p.symbols.clear, storing := some metas } metas rfl
  rw [← hidle] at hrun
  refine ⟨.fetchMetadata answer :: as, .cons trivial ?_ hrun⟩
  simp [process, Process.step, Process.beginStoring, hidle, hfetch]

/-! ### The process runs the service -/

/-- Workers use the supervisor. -/
def WorksWith (supervisor : Supervisor) : ServiceAction → Prop
  | .act (.act (.advance _ supervisor')) => supervisor' = supervisor
  | .act (.fault _ supervisor' _) => supervisor' = supervisor
  | _ => True

/-- The end of the process is one of every worker. -/
lemma run_crashes {init : Server → Prop} (supervisor : Supervisor) (db : Db) (tasks : List Task) :
    ∃ as, (service init).Run (fun _ => WorksWith supervisor) ⟨db, tasks⟩ as ⟨db, []⟩ := by
  induction tasks with
  | nil => exact ⟨[], .nil _⟩
  | cons task tasks ih =>
    obtain ⟨as, hrun⟩ := ih
    refine ⟨.act (.act (.crash 0)) :: as, .cons trivial ?_ hrun⟩
    simp [service, Server.serviceStep, Server.faultyStep, Server.step]

/-- Every step of the process is a run of the service, with the supervisor of that moment. -/
theorem ProcessStep.run {a : ProcessAction} (h : ProcessStep parse p a p')
    (init : Server → Prop) :
    ∃ as, (service init).Run (fun _ => WorksWith p.supervisor) p.server as p'.server := by
  have hone {sa : ServiceAction} {server : Server} (h : p.server.serviceStep sa = some server)
      (hworks : WorksWith p.supervisor sa) :
      ∃ as, (service init).Run (fun _ => WorksWith p.supervisor) p.server as server :=
    ⟨[sa], .cons hworks h (.nil _)⟩
  cases h with
  | unfetched | fetched | stored | refreshed | unpolled | polled | updated | received | priced
  | abandoned => exact ⟨[], .nil _⟩
  | ticked h => exact hone h trivial
  | handled _ _ h => exact hone h trivial
  | worked h => exact hone h rfl
  | faulted h => exact hone h rfl
  | restarted => exact run_crashes p.supervisor p.server.db p.server.tasks
  | @routed a sa server ha h =>
    refine hone h ?_
    cases a <;> cases ha <;> trivial

end

end Confluence
