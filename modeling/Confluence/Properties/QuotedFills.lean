import Confluence.Properties.PaperFills
import Confluence.Server.Process

/-!
# Fills come from quotes

In the process, with its handlers, its worker and the two loops beside them: whatever is filled, is
filled as a whole and at a price that the venue has quoted, for a symbol that the venue has listed as
trading.
-/

namespace Confluence

/-- The venue has listed the symbol's metadata. -/
def Listed (parse : DecimalParser) (as : List ProcessAction) (m : SymbolMeta) : Prop :=
  ∃ answer metas, .fetchMetadata answer ∈ as ∧ fetchExchangeInfo parse answer = .ok metas ∧ m ∈ metas

/-- A poll has found the quote, and the symbol has been listed as trading. -/
structure QuotedBy (parse : DecimalParser) (as : List ProcessAction) (symbol : String)
    (bid ask : Decimal) : Prop where
  polled : ∃ answer tickers, .fetchTickers answer ∈ as ∧
    fetchAllBookTickers parse answer = .ok tickers ∧ (symbol, bid, ask) ∈ tickers
  listed : ∃ m, Listed parse as m ∧ m.symbol = symbol ∧ m.status = .trading

/-- What the stores hold comes from the answers so far, and so does what the workers trade on. -/
structure FromAnswers (parse : DecimalParser) (as : List ProcessAction) (p : Process) : Prop where
  traded : (service (· = .fresh)).Reachable (fun _ => TradesOnQuotes (QuotedBy parse as)) p.server
  symbols : ∀ symbol m, p.symbols.symbols symbol = some m → m.symbol = symbol ∧ Listed parse as m
  storing : ∀ metas, p.storing = some metas → ∀ m ∈ metas, Listed parse as m
  books : p.marketData.Shows (QuotedBy parse as)
  fetched : ∀ tickers now, p.fetched = some (tickers, now) → ∀ symbol bid ask,
    (symbol, bid, ask) ∈ tickers → QuotedBy parse as symbol bid ask

section

variable {parse : DecimalParser} {as as' : List ProcessAction} {a : ProcessAction} {p p' : Process}
  {quoted quoted' : Quotes}

/-! ### More answers -/

lemma Listed.mono {m : SymbolMeta} (h : Listed parse as m) (hsub : as ⊆ as') :
    Listed parse as' m := by
  obtain ⟨answer, metas, hmem, hmetas, hm⟩ := h
  exact ⟨answer, metas, hsub hmem, hmetas, hm⟩

lemma QuotedBy.mono {symbol : String} {bid ask : Decimal} (h : QuotedBy parse as symbol bid ask)
    (hsub : as ⊆ as') : QuotedBy parse as' symbol bid ask := by
  obtain ⟨⟨answer, tickers, hmem, htickers, hquote⟩, m, hlisted, hsymbol⟩ := h
  exact ⟨⟨answer, tickers, hsub hmem, htickers, hquote⟩, m, hlisted.mono hsub, hsymbol⟩

lemma MarketDataProvider.Shows.mono {md : MarketDataProvider} (h : md.Shows quoted)
    (hsub : ∀ symbol bid ask, quoted symbol bid ask → quoted' symbol bid ask) :
    md.Shows quoted' :=
  fun symbol top htop => hsub _ _ _ (h symbol top htop)

lemma TradesOnQuotes.mono {sa : ServiceAction} (h : TradesOnQuotes quoted sa)
    (hsub : ∀ symbol bid ask, quoted symbol bid ask → quoted' symbol bid ask) :
    TradesOnQuotes quoted' sa := by
  have hsupervisor {supervisor : Supervisor} (h : supervisor.TradesOn quoted) :
      supervisor.TradesOn quoted' := by
    obtain ⟨md, now, hshows, rfl⟩ := h
    exact ⟨md, now, hshows.mono hsub, rfl⟩
  cases sa with
  | act sa =>
    cases sa with
    | act sa =>
      cases sa with
      | advance i supervisor => exact hsupervisor h
      | _ => trivial
    | fault i supervisor n => exact hsupervisor h
  | createAccount | putCorrelationGroups => trivial

lemma FromAnswers.mono (h : FromAnswers parse as p) (hsub : as ⊆ as') : FromAnswers parse as' p where
  traded := h.traded.mono fun _ _ ha => ha.mono fun _ _ _ hquote => hquote.mono hsub
  symbols symbol m hm := ⟨(h.symbols symbol m hm).1, (h.symbols symbol m hm).2.mono hsub⟩
  storing metas hmetas m hm := (h.storing metas hmetas m hm).mono hsub
  books := h.books.mono fun _ _ _ hquote => hquote.mono hsub
  fetched tickers now hfetched symbol bid ask hmem :=
    (h.fetched tickers now hfetched symbol bid ask hmem).mono hsub

/-! ### Steps -/

/-- The workers of the process trade on its books. -/
lemma tradesOnQuotes_of_worksWith (h : p.marketData.Shows quoted) {sa : ServiceAction}
    (hworks : WorksWith p.supervisor sa) : TradesOnQuotes quoted sa := by
  have htrades : p.supervisor.TradesOn quoted := ⟨p.marketData, p.clock, h, rfl⟩
  cases sa with
  | act sa =>
    cases sa with
    | act sa =>
      cases sa with
      | advance i supervisor =>
        obtain rfl : supervisor = p.supervisor := hworks
        exact htrades
      | _ => trivial
    | fault i supervisor n =>
      obtain rfl : supervisor = p.supervisor := hworks
      exact htrades
  | createAccount | putCorrelationGroups => trivial

/-- An answer that can be read lists what it says. -/
lemma listed_of_fetch {answer : Except ExchangeError Json} {metas : List SymbolMeta}
    (h : fetchExchangeInfo parse answer = .ok metas) (ha : a = .fetchMetadata answer) :
    ∀ m ∈ metas, Listed parse (as ++ [a]) m :=
  fun m hm => ⟨answer, metas, by simp [ha], h, hm⟩

lemma FromAnswers.step (hp : FromAnswers parse as p) (h : ProcessStep parse p a p') :
    FromAnswers parse (as ++ [a]) p' := by
  have hlater := hp.mono (List.subset_append_left as [a])
  obtain ⟨bs, hrun⟩ := h.run (· = .fresh)
  have htraded := hlater.traded.run
    (hrun.mono fun _ _ hworks => tradesOnQuotes_of_worksWith hlater.books hworks)
  cases h with
  | unfetched | unpolled | received | priced | abandoned => exact ⟨hlater.traded, hlater.symbols,
      hlater.storing, hlater.books, hlater.fetched⟩
  | ticked | handled | worked | faulted | routed =>
    exact ⟨htraded, hlater.symbols, hlater.storing, hlater.books, hlater.fetched⟩
  | restarted =>
    refine ⟨htraded, ?_, ?_, ?_, ?_⟩
    · rintro _ _ ⟨⟩
    · rintro _ ⟨⟩
    · rintro _ _ ⟨⟩
    · rintro _ _ ⟨⟩
  | fetched _ hmetas =>
    refine ⟨htraded, ?_, ?_, hlater.books, hlater.fetched⟩
    · rintro _ _ ⟨⟩
    · intro metas heq
      obtain rfl := Option.some.inj heq
      exact listed_of_fetch hmetas rfl
  | @stored m metas hstoring =>
    have hlisted := hlater.storing _ hstoring
    refine ⟨htraded, fun symbol m' hm' => ?_, ?_, hlater.books, hlater.fetched⟩
    · rcases SymbolMetadataStore.symbols_insert hm' with ⟨rfl, hsymbol⟩ | hold
      · exact ⟨hsymbol, hlisted m' (List.mem_cons_self ..)⟩
      · exact hlater.symbols symbol m' hold
    · intro metas' heq m' hm'
      obtain rfl := Option.some.inj heq
      exact hlisted m' (List.mem_cons_of_mem _ hm')
  | refreshed =>
    refine ⟨htraded, hlater.symbols, ?_, hlater.books, hlater.fetched⟩
    rintro _ ⟨⟩
  | @polled answer tickers htickers =>
    refine ⟨htraded, hlater.symbols, hlater.storing, hlater.books, ?_⟩
    intro tickers' now heq symbol bid ask hmem
    obtain ⟨rfl, rfl⟩ := Prod.mk.inj (Option.some.inj heq)
    obtain ⟨hmem, htradable⟩ := List.mem_filter.mp hmem
    -- what is kept is of symbols that the store holds as trading
    simp only [SymbolMetadataStore.isTradable, Bool.and_eq_true, Option.any_eq_true,
      decide_eq_true_eq] at htradable
    obtain ⟨-, m, hm, hstatus⟩ := htradable
    obtain ⟨hsymbol, hlisted⟩ := hlater.symbols symbol m hm
    exact ⟨⟨answer, tickers, by simp, htickers, hmem⟩, m, hlisted, hsymbol, hstatus⟩
  | @updated tickers now hfetched =>
    refine ⟨htraded, hlater.symbols, hlater.storing, fun symbol top htop => ?_, ?_⟩
    · rcases MarketDataProvider.books_updateAll htop with ⟨hmem, -⟩ | hold
      · exact hlater.fetched tickers now hfetched symbol top.bid top.ask hmem
      · exact hlater.books symbol top hold
    · rintro _ _ ⟨⟩

lemma fromAnswers_start (clock : Instant) : FromAnswers parse [] (.start Db.empty clock) := by
  refine ⟨⟨.fresh, [], rfl, .nil _⟩, ?_, ?_, ?_, ?_⟩
  · rintro _ _ ⟨⟩
  · rintro _ ⟨⟩
  · rintro _ _ ⟨⟩
  · rintro _ _ ⟨⟩

/-- In every run of the process, every order has been filled as a whole, at a price that the venue has
quoted before for its symbol, or nothing of it has; and no quote has an empty or crossed book. -/
theorem fills_were_quoted {p₀ : Process} (hinit : (process parse).init p₀)
    (hrun : (process parse).Run (fun _ _ => True) p₀ as p) :
    (∀ o ∈ p.server.db.orders, p.server.db.FilledWhole (QuotedBy parse as) o) ∧
      ∀ symbol bid ask, QuotedBy parse as symbol bid ask → 0 < bid ∧ bid ≤ ask := by
  obtain ⟨clock, rfl⟩ := hinit
  have hfrom : FromAnswers parse as p := by
    refine hrun.history (I := FromAnswers parse) (fromAnswers_start clock) ?_
    intro bs q a q' _ hq _ hstep
    exact hq.step (processStep_of_step hstep)
  refine ⟨(paperTraded_of_reachable hfrom.traded).whole, fun symbol bid ask hquote => ?_⟩
  obtain ⟨answer, tickers, -, htickers, hmem⟩ := hquote.polled
  exact uncrossed_of_fetchAllBookTickers htickers hmem

end

/-! ### A trade of the process -/

/-- The numbers of the answers below. -/
def parseHundred : DecimalParser
  | "1" => .ok 1
  | "100" => .ok 100
  | s => .error s

/-- One symbol that trades at the market, in whole units. -/
def oneSymbol : Json :=
  .obj [("symbols", .arr [.obj [("symbol", .str "BTCUSDT"), ("status", .str "TRADING"),
    ("orderTypes", .arr [.str "MARKET"]),
    ("filters", .arr [.obj [("filterType", .str "MARKET_LOT_SIZE"), ("minQty", .str "1"),
      ("maxQty", .str "100"), ("stepSize", .str "1")]])]])]

def tickerAt100 : Json :=
  .arr [.obj [("symbol", .str "BTCUSDT"), ("bidPrice", .str "100"), ("askPrice", .str "100")]]

/-- The first refresh and the first poll, an order, and a worker that takes it to its fill. -/
def bootAndTrade : List ProcessAction :=
  [.fetchMetadata (.ok oneSymbol), .storeSymbol, .storeSymbol, .fetchTickers (.ok tickerAt100),
    .updateBooks, .createAccount ⟨1⟩ (some 10000),
    .receive ⟨1⟩ (.placeOrder ⟨2⟩ { buyTen with quantity := 1 }), .readPrices 0, .handle 0 0 0,
    .claim 1 [], .work 0, .work 0, .work 0, .work 0,
    .claim 1 [], .work 0, .work 0, .work 0, .work 0]

/-- The order is filled at the quote of the poll. -/
theorem fills_were_quoted_bootAndTrade :
    ∃ p : Process, (process parseHundred).Run (fun _ _ => True) (.start Db.empty 0) bootAndTrade p ∧
      p.server.db.orders.map (·.status) = [.filled] ∧
      ∀ o ∈ p.server.db.orders,
        p.server.db.FilledWhole (QuotedBy parseHundred bootAndTrade) o := by
  have htest : ((process parseHundred).exec (fun _ _ => True) (.start Db.empty 0) bootAndTrade).any
      (fun p => decide (p.server.db.orders.map (·.status) = [.filled])) = true := by
    decide +kernel
  obtain ⟨p, hrun, hp⟩ := Machine.exists_run_of_exec htest
  exact ⟨p, hrun, of_decide_eq_true hp, (fills_were_quoted ⟨0, rfl⟩ hrun).1⟩

end Confluence
