import Confluence.Exchange.Responses
import Confluence.Server.OutboxWorker

/-!
# The ledger of a live order

The venue reports totals, the ledger keeps the differences. The ledger comes to the reported totals
unless the response repeats the local status: then nothing is recorded, even when more has been
executed.
-/

namespace Confluence

/-- The snapshot of the next poll, when the result has been recorded. -/
def ReconcileSnapshot.after (snapshot : ReconcileSnapshot) (result : ReconcileResult) :
    ReconcileSnapshot where
  order := { snapshot.order with status := result.newStatus.getD snapshot.order.status }
  fills := snapshot.fills ++ result.fillsToAdd.map Fill.snapshot

/-- A response and what it reports. -/
structure Poll where
  response : Json
  status : OrderStatus
  executed : Decimal
  quote : Decimal

/-- The response has a recognised status and both totals. -/
structure Poll.Reads (parse : String → Option Decimal) (p : Poll) : Prop where
  status : BinanceAdapter.responseStatus p.response = some p.status
  executed : (p.response.getStr "executedQty").bind parse = some p.executed
  quote : (p.response.getStr "cummulativeQuoteQty").bind parse = some p.quote

/-- The totals grow from those given, the quote whenever the quantity does. -/
def Growing : Decimal → Decimal → List Poll → Prop
  | _, _, [] => True
  | executed, quote, p :: ps =>
    executed ≤ p.executed ∧ quote ≤ p.quote ∧ (executed < p.executed → quote < p.quote) ∧
      Growing p.executed p.quote ps

/-- After each of the polls, recorded one after the other, the ledger has the reported totals. -/
def LedgerFollows (parse : String → Option Decimal) : ReconcileSnapshot → List Poll → Prop
  | _, [] => True
  | snapshot, p :: ps =>
    ∃ result, BinanceAdapter.mapOrderStatusResponse parse snapshot p.response = .ok result ∧
      (snapshot.after result).filled = p.executed ∧ (snapshot.after result).quote = p.quote ∧
      LedgerFollows parse (snapshot.after result) ps

/-- Each poll with more executed comes under a new status, and one with the same quantity executed
has the same quote. -/
def Recordable : OrderStatus → Decimal → Decimal → List Poll → Prop
  | _, _, _, [] => True
  | status, executed, quote, p :: ps =>
    (p.status ≠ status ∨ p.executed = executed) ∧ (p.executed = executed → p.quote = quote) ∧
      Recordable p.status p.executed p.quote ps

section

variable {parse : String → Option Decimal} {snapshot : ReconcileSnapshot} {p : Poll}
  {result : ReconcileResult}

lemma ReconcileSnapshot.filled_after :
    (snapshot.after result).filled =
      snapshot.filled + (result.fillsToAdd.map (·.quantity)).sum := by
  simp [filled, after, Fill.snapshot, Function.comp_def]

lemma ReconcileSnapshot.quote_after :
    (snapshot.after result).quote =
      snapshot.quote + (result.fillsToAdd.map fun f => f.quantity * f.price).sum := by
  simp [quote, after, Fill.snapshot, Function.comp_def]

lemma Poll.Reads.decimalField_executed (h : p.Reads parse) :
    BinanceAdapter.decimalField parse p.response "executedQty" = p.executed := by
  rw [BinanceAdapter.decimalField, h.executed, Option.getD_some]

lemma Poll.Reads.decimalField_quote (h : p.Reads parse) :
    BinanceAdapter.decimalField parse p.response "cummulativeQuoteQty" = p.quote := by
  rw [BinanceAdapter.decimalField, h.quote, Option.getD_some]

/-- A poll that repeats the local status leaves the ledger as it is. -/
lemma Poll.Reads.after_of_same (h : p.Reads parse) (hsame : p.status = snapshot.order.status) :
    ∃ result, BinanceAdapter.mapOrderStatusResponse parse snapshot p.response = .ok result ∧
      (snapshot.after result).order.status = p.status ∧
      (snapshot.after result).filled = snapshot.filled ∧
      (snapshot.after result).quote = snapshot.quote := by
  refine ⟨{}, BinanceAdapter.mapOrderStatusResponse_of_same (hsame ▸ h.status), ?_, ?_, ?_⟩
  · simp [ReconcileSnapshot.after, hsame]
  · simp [ReconcileSnapshot.filled_after]
  · simp [ReconcileSnapshot.quote_after]

/-- A poll with a new status brings the ledger to its totals. -/
lemma Poll.Reads.after_of_ne (h : p.Reads parse) (hne : p.status ≠ snapshot.order.status)
    (hexecuted : snapshot.filled ≤ p.executed)
    (hquote : snapshot.filled < p.executed → snapshot.quote < p.quote) :
    ∃ result, BinanceAdapter.mapOrderStatusResponse parse snapshot p.response = .ok result ∧
      (snapshot.after result).order.status = p.status ∧
      (snapshot.after result).filled = p.executed ∧
      (snapshot.after result).quote =
        if snapshot.filled < p.executed then p.quote else snapshot.quote := by
  obtain ⟨result, hresult, hstatus, hfills⟩ :=
    BinanceAdapter.mapOrderStatusResponse_of_ne parse snapshot h.status hne
  refine ⟨result, hresult, by simp [ReconcileSnapshot.after, hstatus], ?_⟩
  rw [ReconcileSnapshot.filled_after, ReconcileSnapshot.quote_after]
  have hnew : BinanceAdapter.newlyExecuted parse snapshot p.response =
      p.executed - snapshot.filled := by
    rw [BinanceAdapter.newlyExecuted, h.decimalField_executed]
  rcases hexecuted.lt_or_eq with hlt | heq
  · rw [if_pos (by rw [hnew]; exact sub_pos.mpr hlt)] at hfills
    have hprice := BinanceAdapter.fillPrice_mul parse (sub_pos.mpr hlt).ne'
      (h.decimalField_quote.symm ▸ hquote hlt)
    rw [h.decimalField_quote] at hprice
    simp only [hfills.1, List.map_cons, List.map_nil, List.sum_cons, List.sum_nil, add_zero,
      BinanceAdapter.responseFill, hnew, hprice, if_pos hlt]
    exact ⟨by ring, by ring⟩
  · rw [if_neg (by rw [hnew, heq]; simp)] at hfills
    simp [hfills.1, heq]

/-- One poll brings the ledger to the reported totals exactly when its status is new or nothing more
has been executed. -/
lemma Poll.Reads.agrees_iff (h : p.Reads parse) (hexecuted : snapshot.filled ≤ p.executed)
    (hquote : snapshot.filled < p.executed → snapshot.quote < p.quote) :
    ∃ result, BinanceAdapter.mapOrderStatusResponse parse snapshot p.response = .ok result ∧
      (snapshot.after result).order.status = p.status ∧
      (((snapshot.after result).filled = p.executed ∧
          (snapshot.filled < p.executed → (snapshot.after result).quote = p.quote)) ↔
        (p.status ≠ snapshot.order.status ∨ p.executed = snapshot.filled)) ∧
      ((p.status ≠ snapshot.order.status ∨ p.executed = snapshot.filled) →
        p.executed = snapshot.filled → (snapshot.after result).quote = snapshot.quote) := by
  by_cases hsame : p.status = snapshot.order.status
  · obtain ⟨result, hresult, hstatus, hfilled', hquote'⟩ := h.after_of_same hsame
    refine ⟨result, hresult, hstatus, ?_, fun _ _ => hquote'⟩
    rw [hfilled', hquote']
    constructor
    · exact fun h => .inr h.1.symm
    · rintro (hne | heq)
      · exact absurd hsame hne
      · exact ⟨heq.symm, fun hlt => absurd heq hlt.ne'⟩
  · obtain ⟨result, hresult, hstatus, hfilled', hquote'⟩ := h.after_of_ne hsame hexecuted hquote
    refine ⟨result, hresult, hstatus, ?_, ?_⟩
    · simp only [hsame, ne_eq, not_false_eq_true, true_or, iff_true]
      exact ⟨hfilled', fun hlt => by rw [hquote', if_pos hlt]⟩
    · intro _ heq
      rw [hquote', if_neg heq.not_gt]

/-- A sequence of polls keeps the ledger at the totals exactly when each of its polls does. -/
lemma ledgerFollows_iff {ps : List Poll} (hreads : ∀ p ∈ ps, p.Reads parse)
    (hgrowing : Growing snapshot.filled snapshot.quote ps) :
    LedgerFollows parse snapshot ps ↔
      Recordable snapshot.order.status snapshot.filled snapshot.quote ps := by
  induction ps generalizing snapshot with
  | nil => simp [LedgerFollows, Recordable]
  | cons p ps ih =>
    obtain ⟨hexecuted, -, hquote, hgrowing⟩ := hgrowing
    obtain ⟨hp, hps⟩ := List.forall_mem_cons.mp hreads
    obtain ⟨result, hresult, hstatus, hiff, hkeeps⟩ := hp.agrees_iff hexecuted hquote
    simp only [LedgerFollows, Recordable, hresult, Except.ok.injEq, exists_eq_left']
    constructor
    · rintro ⟨hfilled', hquote', hrest⟩
      have hmeets := hiff.mp ⟨hfilled', fun _ => hquote'⟩
      refine ⟨hmeets, fun heq => ?_, ?_⟩
      · rw [← hquote', hkeeps hmeets heq]
      · rw [ih hps (by rwa [hfilled', hquote']), hstatus, hfilled', hquote'] at hrest
        exact hrest
    · rintro ⟨hmeets, hsame, hrest⟩
      obtain ⟨hfilled', hquote'⟩ := hiff.mpr hmeets
      have hquote' : (snapshot.after result).quote = p.quote := by
        rcases hexecuted.lt_or_eq with hlt | heq
        · exact hquote' hlt
        · rw [hkeeps hmeets heq.symm, hsame heq.symm]
      refine ⟨hfilled', hquote', ?_⟩
      rw [ih hps (by rwa [hfilled', hquote']), hstatus, hfilled', hquote']
      exact hrest

end

/-- One poll brings the ledger to the reported totals exactly when its status is not the local one or
it reports nothing new, and a sequence of polls keeps it there exactly when each of them does. -/
theorem ledger_follows_polls_iff (parse : String → Option Decimal) (snapshot : ReconcileSnapshot) :
    (∀ p : Poll, p.Reads parse → snapshot.filled ≤ p.executed →
      (snapshot.filled < p.executed → snapshot.quote < p.quote) →
      ∃ result, BinanceAdapter.mapOrderStatusResponse parse snapshot p.response = .ok result ∧
        (((snapshot.after result).filled = p.executed ∧
            (snapshot.filled < p.executed → (snapshot.after result).quote = p.quote)) ↔
          (p.status ≠ snapshot.order.status ∨ p.executed = snapshot.filled))) ∧
    ∀ ps : List Poll, (∀ p ∈ ps, p.Reads parse) → Growing snapshot.filled snapshot.quote ps →
      (LedgerFollows parse snapshot ps ↔
        Recordable snapshot.order.status snapshot.filled snapshot.quote ps) := by
  refine ⟨fun p hp hexecuted hquote => ?_, fun ps hreads hgrowing =>
    ledgerFollows_iff hreads hgrowing⟩
  obtain ⟨result, hresult, -, hiff, -⟩ := hp.agrees_iff hexecuted hquote
  exact ⟨result, hresult, hiff⟩

/-! ### An order of three units -/

/-- One unit of three is filled at 100. -/
def oneOfThree : ReconcileSnapshot where
  order :=
    { orderId := ⟨2⟩, clientOrderId := "abc123", symbol := "BTCUSDT", side := .buy
      orderType := .limit, quantity := 3, price := some 110, status := .partiallyFilled }
  fills := [⟨"abc123:reconcile:0", 1, 100⟩]

def parseTotal : String → Option Decimal
  | "2" => some 2
  | "3" => some 3
  | "205" => some 205
  | "310" => some 310
  | _ => none

def totals (status executedQty cummulativeQuoteQty : String) : Json :=
  .obj [("status", .str status), ("executedQty", .str executedQty), ("price", .str "110"),
    ("cummulativeQuoteQty", .str cummulativeQuoteQty)]

/-- A second unit is executed, and the status stays. -/
def secondUnit : Poll := ⟨totals "PARTIALLY_FILLED" "2" "205", .partiallyFilled, 2, 205⟩

/-- All three units are executed. -/
def thirdUnit : Poll := ⟨totals "FILLED" "3" "310", .filled, 3, 310⟩

lemma reads_secondUnit : secondUnit.Reads parseTotal := ⟨rfl, rfl, rfl⟩

lemma reads_thirdUnit : thirdUnit.Reads parseTotal := ⟨rfl, rfl, rfl⟩

lemma filled_oneOfThree : oneOfThree.filled = 1 := by
  simp [oneOfThree, ReconcileSnapshot.filled]

lemma quote_oneOfThree : oneOfThree.quote = 100 := by
  simp [oneOfThree, ReconcileSnapshot.quote]

theorem ledger_follows_polls_iff_thirdUnit :
    (∃ result,
      BinanceAdapter.mapOrderStatusResponse parseTotal oneOfThree thirdUnit.response = .ok result ∧
        (((oneOfThree.after result).filled = 3 ∧
            (oneOfThree.filled < 3 → (oneOfThree.after result).quote = 310)) ↔
          (OrderStatus.filled ≠ .partiallyFilled ∨ 3 = oneOfThree.filled))) ∧
    (LedgerFollows parseTotal oneOfThree [thirdUnit] ↔
      Recordable .partiallyFilled oneOfThree.filled oneOfThree.quote [thirdUnit]) := by
  have hexecuted : oneOfThree.filled ≤ thirdUnit.executed := by
    norm_num [filled_oneOfThree, thirdUnit]
  have hquote : oneOfThree.quote < thirdUnit.quote := by norm_num [quote_oneOfThree, thirdUnit]
  obtain ⟨hone, hall⟩ := ledger_follows_polls_iff parseTotal oneOfThree
  exact ⟨hone thirdUnit reads_thirdUnit hexecuted fun _ => hquote,
    hall [thirdUnit] (by simp [reads_thirdUnit]) ⟨hexecuted, hquote.le, fun _ => hquote, trivial⟩⟩

/-- The second of three partial fills is not recorded: the order is already partially filled. -/
theorem second_partial_fill_skipped :
    ¬ ∀ (parse : String → Option Decimal) (snapshot : ReconcileSnapshot) (p : Poll),
      snapshot.order.status.isTerminal = false → p.Reads parse → snapshot.filled ≤ p.executed →
      (snapshot.filled < p.executed → snapshot.quote < p.quote) →
      ∃ result, BinanceAdapter.mapOrderStatusResponse parse snapshot p.response = .ok result ∧
        (snapshot.after result).filled = p.executed ∧
          (snapshot.filled < p.executed → (snapshot.after result).quote = p.quote) := by
  intro h
  obtain ⟨result, hresult, hfilled, -⟩ := h parseTotal oneOfThree secondUnit rfl reads_secondUnit
    (by norm_num [filled_oneOfThree, secondUnit])
    (fun _ => by norm_num [quote_oneOfThree, secondUnit])
  have hsame : BinanceAdapter.mapOrderStatusResponse parseTotal oneOfThree secondUnit.response =
      .ok {} := BinanceAdapter.mapOrderStatusResponse_of_same reads_secondUnit.status
  obtain rfl := Except.ok.inj (hsame.symm.trans hresult)
  rw [ReconcileSnapshot.filled_after, filled_oneOfThree] at hfilled
  norm_num [secondUnit] at hfilled

end Confluence
