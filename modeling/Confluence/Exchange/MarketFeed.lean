import Confluence.Exchange.Paper
import Confluence.Exchange.SymbolInfo

/-!
# What the venue's public endpoints answer

`exchangeInfo` and the tickers of all symbols, from the body of the answer on, and the books that the
tickers are kept in.
-/

namespace Confluence

/-! ### Answers -/

/-- Every entry has to be readable. -/
def fetchExchangeInfo (parse : DecimalParser) (answer : Except ExchangeError Json) :
    Except ExchangeError (List SymbolMeta) := do
  let body ← answer
  let some symbols := body.getArray "symbols"
    | .error (.marketDataError "exchangeInfo missing symbols[]")
  symbols.mapM (parseSymbolMeta parse)

/-- One entry, `none` when it is malformed or its book is empty or crossed. -/
def parseBookTicker (parse : DecimalParser) (e : Json) : Option (String × Decimal × Decimal) := do
  let symbol ← e.getStr "symbol"
  let bid ← (decField parse e "bidPrice").toOption
  let ask ← (decField parse e "askPrice").toOption
  if bid > 0 ∧ ask ≥ bid then some (symbol, bid, ask) else none

/-- Unusable entries are skipped and do not blank the others. -/
def parseAllBookTickers (parse : DecimalParser) (body : Json) :
    Except ExchangeError (List (String × Decimal × Decimal)) :=
  match body.asArray with
  | none => .error (.marketDataError "bookTicker response is not an array")
  | some arr => .ok (arr.filterMap (parseBookTicker parse))

def fetchAllBookTickers (parse : DecimalParser) (answer : Except ExchangeError Json) :
    Except ExchangeError (List (String × Decimal × Decimal)) := do
  let body ← answer
  parseAllBookTickers parse body

/-- No ticker has an empty or crossed book. -/
lemma uncrossed_of_fetchAllBookTickers {parse : DecimalParser} {answer : Except ExchangeError Json}
    {tickers : List (String × Decimal × Decimal)} (h : fetchAllBookTickers parse answer = .ok tickers)
    {symbol : String} {bid ask : Decimal} (hmem : (symbol, bid, ask) ∈ tickers) :
    0 < bid ∧ bid ≤ ask := by
  cases answer with
  | error e => cases h
  | ok body =>
    replace h : parseAllBookTickers parse body = .ok tickers := h
    unfold parseAllBookTickers at h
    cases harr : body.asArray with
    | none =>
      rw [harr] at h
      cases h
    | some arr =>
      rw [harr] at h
      cases h
      obtain ⟨e, -, he⟩ := List.mem_filterMap.mp hmem
      simp only [parseBookTicker, Option.bind_eq_bind, Option.bind_eq_some_iff] at he
      obtain ⟨_, -, _, -, _, -, he⟩ := he
      split_ifs at he with hbook
      cases he
      exact hbook

/-! ### Books -/

namespace MarketDataProvider

variable {md : MarketDataProvider} {symbol other : String} {bid ask : Decimal} {now : Instant}

def new (maxAge : ℕ) : MarketDataProvider where
  books := fun _ => none
  maxAge := maxAge

def update (md : MarketDataProvider) (symbol : String) (bid ask : Decimal) (now : Instant) :
    MarketDataProvider :=
  { md with books := fun s => if s = symbol then some ⟨bid, ask, now⟩ else md.books s }

@[simp] lemma books_update_self :
    (md.update symbol bid ask now).books symbol = some ⟨bid, ask, now⟩ := by
  simp [update]

lemma books_update_of_ne (h : other ≠ symbol) :
    (md.update symbol bid ask now).books other = md.books other := by
  simp [update, h]

/-- All tickers of one poll, under one instant. -/
def updateAll (md : MarketDataProvider) (tickers : List (String × Decimal × Decimal))
    (now : Instant) : MarketDataProvider :=
  tickers.foldl (fun md ticker => md.update ticker.1 ticker.2.1 ticker.2.2 now) md

/-- A book is one of the tickers, or the one that was there. -/
lemma books_updateAll {tickers : List (String × Decimal × Decimal)} {top : BookTop}
    (h : (md.updateAll tickers now).books symbol = some top) :
    ((symbol, top.bid, top.ask) ∈ tickers ∧ top.lastUpdate = now) ∨ md.books symbol = some top := by
  induction tickers generalizing md with
  | nil => exact .inr h
  | cons ticker tickers ih =>
    obtain ⟨s, bid, ask⟩ := ticker
    rcases ih h with ⟨hmem, hnow⟩ | hold
    · exact .inl ⟨List.mem_cons_of_mem _ hmem, hnow⟩
    · by_cases hs : symbol = s
      · subst hs
        rw [books_update_self] at hold
        cases hold
        exact .inl ⟨List.mem_cons_self .., rfl⟩
      · rw [books_update_of_ne hs] at hold
        exact .inr hold

end MarketDataProvider

end Confluence
