import Confluence.Properties.CancelledOrders
import Confluence.Properties.PositionDeltas
import Confluence.Server.Persistence

/-!
# Persisted reconciliations

A reconciliation is persisted whole or not at all, as far as its events have admitted types, its new
fills come with a status, and its position deltas are those of fills that are not recorded yet.
-/

namespace Confluence

/-- The fills of the result that are not recorded yet. -/
def Db.fillsNew (db : Db) (o : OrderRecord) (result : ReconcileResult) : List Fill :=
  newFills (db.tradeIds o.accountId) result.fillsToAdd

/-- The position effect of fills of the order. -/
def OrderRecord.effectOn (o : OrderRecord) (fills : List Fill) (symbol : String) : Decimal :=
  if symbol = o.symbol then o.side.signed (fills.map (·.quantity)).sum else 0

/-- The position deltas are those of the fills. -/
def ReconcileResult.Consistent (result : ReconcileResult) (o : OrderRecord) : Prop :=
  ∀ symbol, (deltasOn symbol result.positionsDelta).sum = o.effectOn result.fillsToAdd symbol

/-- All of the result is in `db'`: the new fills, with the order and the positions changed by just
their quantities, the status and the events. -/
structure Db.PersistedWhole (db db' : Db) (o : OrderRecord) (result : ReconcileResult) : Prop where
  fills : db'.orderFills = db.orderFills ++
    (db.fillsNew o result).map fun fill => ⟨o.accountId, o.id, fill⟩
  order : db'.order? o.accountId o.id = some { o with
    status := result.newStatus.getD o.status
    filledQuantity := o.filledQuantity + ((db.fillsNew o result).map (·.quantity)).sum }
  positions : ∀ symbol, db'.signedOpen o.accountId symbol =
    db.signedOpen o.accountId symbol + o.effectOn (db.fillsNew o result) symbol
  events : db'.riskEvents = db.riskEvents ++
    result.events.map fun event => ⟨o.accountId, event.eventType, event.payload⟩

/-- The amounts of the fill have at most ten decimals. -/
def Fill.Scaled (fill : Fill) : Prop :=
  Numeric.IsScaled 10 fill.quantity ∧ Numeric.IsScaled 10 fill.price ∧ Numeric.IsScaled 10 fill.fee

/-- Every position delta has at most ten decimals. -/
def ReconcileResult.DeltasScaled (result : ReconcileResult) : Prop :=
  ∀ d ∈ result.positionsDelta, Numeric.IsScaled 10 d.quantityDelta

/-- The tables can take all of the result. Position deltas are applied whatever fills they belong to,
so none of the fills may be recorded already; unless the rounding of the deltas makes up for it. -/
structure Db.TakesWhole (db : Db) (o : OrderRecord) (result : ReconcileResult) : Prop where
  events : ∀ event ∈ result.events, event.eventType ∈ riskEventTypes
  status : result.newStatus = none → result.fillsToAdd = []
  scaled : ∀ fill ∈ db.fillsNew o result, fill.Scaled
  unrecorded : result.DeltasScaled → db.fillsNew o result = result.fillsToAdd
  rounded : ¬ result.DeltasScaled → ∀ symbol,
    runningTotal (db.signedOpen o.accountId symbol) (deltasOn symbol result.positionsDelta) =
      db.signedOpen o.accountId symbol + o.effectOn (db.fillsNew o result) symbol

section

variable {db db' : Db} {accountId orderId : Uuid} {o : OrderRecord} {snapshot : ReconcileSnapshot}
  {result : ReconcileResult} {u : Unit}

lemma OrderSide.signed_inj {side : OrderSide} {q q' : Decimal} :
    side.signed q = side.signed q' ↔ q = q' := by
  cases side <;> simp [OrderSide.signed]

/-- The deltas make up the effect of the new fills. -/
lemma positions_iff (hv : PositionsValid db.positions) (hmatch : result.Consistent o)
    (hpos : ∀ fill ∈ result.fillsToAdd, 0 < fill.quantity) :
    (∀ symbol, runningTotal (db.signedOpen o.accountId symbol)
        (deltasOn symbol result.positionsDelta) =
      db.signedOpen o.accountId symbol + o.effectOn (db.fillsNew o result) symbol) ↔
    (result.DeltasScaled → db.fillsNew o result = result.fillsToAdd) ∧
    (¬ result.DeltasScaled → ∀ symbol, runningTotal (db.signedOpen o.accountId symbol)
        (deltasOn symbol result.positionsDelta) =
      db.signedOpen o.accountId symbol + o.effectOn (db.fillsNew o result) symbol) := by
  by_cases hscaled : result.DeltasScaled
  · have htotal (symbol : String) : runningTotal (db.signedOpen o.accountId symbol)
        (deltasOn symbol result.positionsDelta) =
          db.signedOpen o.accountId symbol + o.effectOn result.fillsToAdd symbol := by
      rw [← hmatch symbol, runningTotal_of_isScaled (hv.isScaled_signedOpen _ _)]
      intro d hd
      obtain ⟨delta, hdelta, rfl⟩ := List.mem_map.mp hd
      exact hscaled delta (List.mem_of_mem_filter hdelta)
    simp only [hscaled, htotal, add_right_inj, true_implies, not_true_eq_false, false_implies,
      and_true]
    constructor
    · intro h
      have heffect := h o.symbol
      simp only [OrderRecord.effectOn, if_true, OrderSide.signed_inj] at heffect
      exact (newFills_eq_self_iff hpos).mpr heffect.symm
    · intro h symbol
      rw [h]
  · simp only [hscaled, false_implies, true_and, not_false_eq_true, true_implies]

/-- What a committed reconciliation leaves, table by table. -/
lemma of_commits_persist (hv : PositionsValid db.positions)
    (ho : db.order? accountId orderId = some o)
    (h : postgres.Commits (persistReconcileResultTx accountId orderId snapshot result) db u db') :
    db'.orderFills = db.orderFills ++
        (db.fillsNew o result).map (fun fill => ⟨o.accountId, o.id, fill.rounded⟩) ∧
      (∀ fill ∈ result.fillsToAdd, 0 < fill.quantity) ∧
      (result.fillsToAdd ≠ [] → db.fillsNew o result ≠ []) ∧
      (∀ symbol, db'.signedOpen o.accountId symbol = runningTotal
        (db.signedOpen o.accountId symbol) (deltasOn symbol result.positionsDelta)) ∧
      (∀ event ∈ result.events, event.eventType ∈ riskEventTypes) ∧
      db'.riskEvents = db.riskEvents ++
        result.events.map (fun event => ⟨o.accountId, event.eventType, event.payload⟩) ∧
      ((result.newStatus = none ∧ db'.order? o.accountId o.id = some o) ∨
        ∃ status q, result.newStatus = some status ∧
          Numeric.store 30 10
            (o.filledQuantity + ((db.fillsNew o result).map (·.quantity)).sum) = some q ∧
          db'.order? o.accountId o.id = some { o with status, filledQuantity := q }) := by
  obtain ⟨o', inserted, db₁, db₂, db₃, ho', -, -, hfills, hnew, hdeltas, hstatus, hevents⟩ :=
    stages_of_commits_persistReconcileResultTx h
  obtain rfl : o = o' := Option.some.inj (ho.symm.trans ho')
  obtain ⟨-, rfl, rfl⟩ := Db.mem_of_order? ho
  obtain ⟨rfl, rfl, hpos⟩ := fills_of_commits_insertFills hfills
  have htotals := signedOpen_of_commits_applyPositionDeltas hdeltas hv
  obtain ⟨positions, rfl⟩ := of_commits_applyPositionDeltas hdeltas
  obtain ⟨htypes, rfl⟩ := commits_insertRiskEvents.mp hevents
  have hstatus : Db.StatusPersisted { db with orderFills := _, positions } o _ db₃
      result.newStatus := of_commits_persistStatus ho hstatus
  cases hnewStatus : result.newStatus with
  | none =>
    rw [hnewStatus] at hstatus
    obtain rfl : db₃ = _ := hstatus
    exact ⟨rfl, hpos, hnew, htotals, htypes, rfl, .inl ⟨rfl, ho⟩⟩
  | some status =>
    rw [hnewStatus] at hstatus
    obtain ⟨-, q, hq, -, -, rfl⟩ := hstatus
    exact ⟨rfl, hpos, hnew, htotals, htypes, rfl,
      .inr ⟨status, q, rfl, hq, order?_withStatus_self ho status q⟩⟩

lemma Db.fillsNew_sublist (db : Db) (o : OrderRecord) (result : ReconcileResult) :
    (db.fillsNew o result).Sublist result.fillsToAdd :=
  subset_of_newFills _ _

/-- The recorded rows are the new fills when their columns keep them as they are. -/
lemma map_rounded_iff {fills : List Fill} :
    (fills.map fun fill => (⟨accountId, orderId, fill.rounded⟩ : FillRecord)) =
      (fills.map fun fill => ⟨accountId, orderId, fill⟩) ↔ ∀ fill ∈ fills, fill.Scaled := by
  simp only [List.map_inj_left, FillRecord.mk.injEq, true_and, Fill.rounded_eq_self_iff]
  rfl

lemma sum_quantity_eq_zero_iff {fills : List Fill} (hpos : ∀ fill ∈ fills, 0 < fill.quantity) :
    (fills.map (·.quantity)).sum = 0 ↔ fills = [] := by
  cases fills with
  | nil => simp
  | cons fill fills =>
    obtain ⟨hhead, htail⟩ := List.forall_mem_cons.mp hpos
    have hrest : 0 ≤ (fills.map (·.quantity)).sum := by
      apply List.sum_nonneg
      intro q hq
      obtain ⟨f, hf, rfl⟩ := List.mem_map.mp hq
      exact (htail f hf).le
    rw [List.map_cons, List.sum_cons]
    constructor
    · intro h
      linarith
    · intro h
      cases h

end

/-! ### A partially filled order -/

def unitFill (tradeId : String) : Fill :=
  { exchangeTradeId := tradeId, quantity := 1, price := 100, fee := 0, feeAsset := "USDT" }

/-- An order of three units, of which one is filled. -/
def partlyFilledOrder : OrderRecord :=
  { submittedOrder with quantity := 3, status := .partiallyFilled, filledQuantity := 1 }

/-- The order with its fill and the position that it has opened. -/
def partlyFilled : Db :=
  { longOne with
    orders := [partlyFilledOrder]
    orderFills := [⟨⟨1⟩, ⟨2⟩, unitFill "t1"⟩] }

/-- Fills of one unit each, with their position deltas. -/
def fillsOf (tradeIds : List String) : ReconcileResult :=
  { newStatus := some .partiallyFilled
    fillsToAdd := tradeIds.map unitFill
    positionsDelta := tradeIds.map fun _ => ⟨"BTCUSDT", 1⟩
    events := [⟨"order_partially_filled", []⟩] }

lemma positionsValid_partlyFilled : PositionsValid partlyFilled.positions :=
  longOne_valid

lemma filledFits_partlyFilled : partlyFilled.FilledFits := by
  unfold Db.FilledFits
  decide +kernel

lemma consistent_fillsOf (tradeIds : List String) :
    (fillsOf tradeIds).Consistent partlyFilledOrder := by
  intro symbol
  by_cases hsymbol : symbol = "BTCUSDT"
  · simp [deltasOn, fillsOf, hsymbol, OrderRecord.effectOn, partlyFilledOrder, submittedOrder,
      newOrder, OrderSide.signed, unitFill, Function.comp_def]
  · simp [deltasOn, fillsOf, hsymbol, Ne.symm hsymbol, OrderRecord.effectOn, partlyFilledOrder,
      submittedOrder, newOrder]

end Confluence
