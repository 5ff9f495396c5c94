import Confluence.Server.Snapshots

/-!
# What a persisted reconciliation writes

The fills that are new, what their columns keep of them, and what the position deltas add up to in
a column that keeps ten decimals.
-/

namespace Confluence

/-- The trade ids of an account's recorded fills. -/
def Db.tradeIds (db : Db) (accountId : Uuid) : List String :=
  (db.orderFills.filter fun r => decide (r.accountId = accountId)).map (·.fill.exchangeTradeId)

/-- The fills whose trade ids are neither known nor those of earlier fills of the list. -/
def newFills (known : List String) : List Fill → List Fill
  | [] => []
  | fill :: fills =>
    if fill.exchangeTradeId ∈ known then newFills known fills
    else fill :: newFills (known ++ [fill.exchangeTradeId]) fills

/-- What the columns keep of a fill. -/
def Fill.rounded (fill : Fill) : Fill :=
  { fill with
    quantity := Numeric.roundTo 10 fill.quantity
    price := Numeric.roundTo 10 fill.price
    fee := Numeric.roundTo 10 fill.fee }

/-- The deltas on one symbol. -/
def deltasOn (symbol : String) (deltas : List PositionDelta) : List Decimal :=
  (deltas.filter fun d => decide (d.symbol = symbol)).map (·.quantityDelta)

/-- What becomes of `x` when deltas are added and rounded one after another. -/
def runningTotal (x : Decimal) (deltas : List Decimal) : Decimal :=
  deltas.foldl (fun x d => Numeric.roundTo 10 (x + d)) x

section

variable {db db' : Db} {accountId orderId : Uuid} {fill : Fill} {fills inserted : List Fill}
  {known : List String} {u : Unit} {symbol : String} {price : Decimal}

/-! ### Fills -/

lemma Fill.rounded_eq_self_iff :
    fill.rounded = fill ↔ Numeric.IsScaled 10 fill.quantity ∧ Numeric.IsScaled 10 fill.price ∧
      Numeric.IsScaled 10 fill.fee := by
  simp only [← Numeric.roundTo_eq_self_iff]
  constructor
  · intro h
    exact ⟨congrArg Fill.quantity h, congrArg Fill.price h, congrArg Fill.fee h⟩
  · rintro ⟨hquantity, hprice, hfee⟩
    simp only [Fill.rounded, hquantity, hprice, hfee]

lemma Db.hasTradeId_iff {tradeId : String} :
    db.hasTradeId accountId tradeId ↔ tradeId ∈ db.tradeIds accountId := by
  simp [Db.hasTradeId, Db.tradeIds, and_assoc]

lemma subset_of_newFills (known : List String) (fills : List Fill) :
    (newFills known fills).Sublist fills := by
  induction fills generalizing known with
  | nil => simp [newFills]
  | cons fill fills ih =>
    rw [newFills]
    split_ifs
    · exact (ih known).cons fill
    · exact (ih _).cons_cons fill

/-- Committing fills records the new ones, as their columns keep them. -/
lemma fills_of_commits_insertFills
    (h : postgres.Commits (insertFills accountId orderId fills) db inserted db') :
    inserted = newFills (db.tradeIds accountId) fills ∧
      db' = { db with
        orderFills := db.orderFills ++
          inserted.map fun fill => ⟨accountId, orderId, fill.rounded⟩ } ∧
      ∀ fill ∈ fills, 0 < fill.quantity := by
  induction fills generalizing db inserted with
  | nil =>
    obtain ⟨rfl, rfl⟩ := Engine.commits_pure.mp h
    simp [newFills]
  | cons fill fills ih =>
    simp only [insertFills, Engine.commits_bind, Engine.commits_mapError, commits_insertFill,
      Engine.commits_pure] at h
    obtain ⟨isNew, db₁, ⟨q, p, f, hq, hp, hf, hchecked, hfill⟩, rest, _, hrest, rfl, rfl⟩ := h
    obtain ⟨hinserted, hdb, hpos⟩ := ih hrest
    obtain rfl := Numeric.eq_roundTo_of_store hq
    obtain rfl := Numeric.eq_roundTo_of_store hp
    obtain rfl := Numeric.eq_roundTo_of_store hf
    have hpos : ∀ fill' ∈ fill :: fills, 0 < fill'.quantity :=
      List.forall_mem_cons.mpr ⟨Numeric.pos_of_roundTo_pos hchecked.1, hpos⟩
    rcases hfill with ⟨hdup, rfl, rfl⟩ | ⟨hnew, rfl, rfl⟩
    · rw [Db.hasTradeId_iff] at hdup
      rw [newFills, if_pos hdup]
      exact ⟨hinserted, hdb, hpos⟩
    · rw [Db.hasTradeId_iff] at hnew
      have hids : Db.tradeIds { db with orderFills := db.orderFills ++
            [⟨accountId, orderId, fill.rounded⟩] } accountId =
          db.tradeIds accountId ++ [fill.exchangeTradeId] := by
        simp [Db.tradeIds, Fill.rounded]
      rw [newFills, if_neg hnew]
      refine ⟨?_, ?_, hpos⟩
      · rw [if_pos rfl, ← hids]
        exact congrArg (fill :: ·) hinserted
      · rw [hdb]
        simp [Fill.rounded]

/-- A part of a list of positive quantities that has the whole sum is the whole list. -/
lemma eq_of_sublist_of_sum_eq {part : List Fill} (h : part.Sublist fills)
    (hpos : ∀ fill ∈ fills, 0 < fill.quantity)
    (hsum : (part.map (·.quantity)).sum = (fills.map (·.quantity)).sum) : part = fills := by
  induction h with
  | slnil => rfl
  | @cons part fills fill hpart ih =>
    obtain ⟨hhead, htail⟩ := List.forall_mem_cons.mp hpos
    have hle : (part.map (·.quantity)).sum ≤ (fills.map (·.quantity)).sum := by
      apply (hpart.map _).sum_le_sum
      intro q hq
      obtain ⟨f, hf, rfl⟩ := List.mem_map.mp hq
      exact (htail f hf).le
    rw [List.map_cons, List.sum_cons] at hsum
    linarith
  | @cons_cons part fills fill hpart ih =>
    obtain ⟨-, htail⟩ := List.forall_mem_cons.mp hpos
    rw [List.map_cons, List.sum_cons, List.map_cons, List.sum_cons, add_right_inj] at hsum
    rw [ih htail hsum]

/-- All fills are new when their quantities are those of the new ones. -/
lemma newFills_eq_self_iff (hpos : ∀ fill ∈ fills, 0 < fill.quantity) :
    newFills known fills = fills ↔
      ((newFills known fills).map (·.quantity)).sum = (fills.map (·.quantity)).sum := by
  constructor
  · intro h
    rw [h]
  · intro h
    exact eq_of_sublist_of_sum_eq (subset_of_newFills known fills) hpos h

/-! ### Positions -/

/-- Scaled deltas add up as they are. -/
lemma runningTotal_of_isScaled {x : Decimal} (hx : Numeric.IsScaled 10 x) {deltas : List Decimal}
    (hdeltas : ∀ d ∈ deltas, Numeric.IsScaled 10 d) : runningTotal x deltas = x + deltas.sum := by
  induction deltas generalizing x with
  | nil => simp [runningTotal]
  | cons d deltas ih =>
    obtain ⟨hd, htail⟩ := List.forall_mem_cons.mp hdeltas
    have hstep : runningTotal x (d :: deltas) = runningTotal (Numeric.roundTo 10 (x + d)) deltas := rfl
    rw [hstep, Numeric.roundTo_of_isScaled (hx.add hd), ih (hx.add hd) htail, List.sum_cons, add_assoc]

/-- One delta is added and rounded. -/
lemma DeltaEffect.signedOpen_roundTo {x q : Decimal} (h : DeltaEffect db db' accountId symbol x q)
    (hq : Numeric.store 30 10 |x| = some q) :
    db'.signedOpen accountId symbol = Numeric.roundTo 10 x := by
  rw [h.signedOpen, Numeric.eq_roundTo_of_store hq]
  split_ifs with hpos
  · rw [abs_of_pos hpos]
  · rw [abs_of_nonpos (not_lt.mp hpos), Numeric.roundTo_neg, neg_neg]

/-- The deltas on a symbol are added and rounded one after another. -/
lemma signedOpen_of_commits_applyPositionDeltas {deltas : List PositionDelta}
    (h : postgres.Commits (applyPositionDeltas accountId price deltas) db u db')
    (hv : PositionsValid db.positions) (symbol : String) :
    db'.signedOpen accountId symbol =
      runningTotal (db.signedOpen accountId symbol) (deltasOn symbol deltas) := by
  induction deltas generalizing db with
  | nil =>
    obtain ⟨-, rfl⟩ := Engine.commits_pure.mp h
    rfl
  | cons delta deltas ih =>
    rw [applyPositionDeltas, Engine.commits_bind] at h
    obtain ⟨_, db₁, hdelta, hrest⟩ := h
    rw [Engine.commits_mapError] at hdelta
    by_cases hzero : delta.quantityDelta = 0
    · rw [applyPositionDelta, if_pos hzero, Engine.commits_pure] at hdelta
      obtain ⟨-, rfl⟩ := hdelta
      rw [ih hrest hv]
      by_cases hsymbol : delta.symbol = symbol
      · have hsame := Numeric.roundTo_of_isScaled (hv.isScaled_signedOpen accountId symbol)
        simp [deltasOn, hsymbol, hzero, runningTotal, hsame]
      · simp [deltasOn, hsymbol]
    · obtain ⟨q, -, hq, -, -, heffect⟩ := of_commits_applyPositionDelta hv hzero hdelta
      rw [ih hrest heffect.valid]
      by_cases hsymbol : delta.symbol = symbol
      · subst hsymbol
        rw [heffect.signedOpen_roundTo hq]
        simp [deltasOn, runningTotal]
      · have hother : db₁.signedOpen accountId symbol = db.signedOpen accountId symbol := by
          rw [Db.signedOpen, Db.signedOpen, heffect.others _ _ (.inr (Ne.symm hsymbol))]
        rw [hother]
        simp [deltasOn, hsymbol]

/-! ### Events -/

/-- Events are all recorded, or none commits. -/
lemma commits_insertRiskEvents {events : List RiskEvent} :
    postgres.Commits (insertRiskEvents accountId events) db u db' ↔
      (∀ event ∈ events, event.eventType ∈ riskEventTypes) ∧
        db' = { db with
          riskEvents := db.riskEvents ++
            events.map fun event => ⟨accountId, event.eventType, event.payload⟩ } := by
  induction events generalizing db with
  | nil => simp [insertRiskEvents, eq_comm]
  | cons event events ih =>
    simp only [insertRiskEvents, Engine.commits_bind, ih, List.forall_mem_cons]
    constructor
    · rintro ⟨r, db₁, hevent, htypes, rfl⟩
      obtain ⟨_, -, hcommit⟩ := Engine.commits_attempt_ask.mp hevent
      obtain ⟨htype, rfl⟩ := commits_insertRiskEvent.mp hcommit
      exact ⟨⟨htype, htypes⟩, by simp⟩
    · rintro ⟨⟨htype, htypes⟩, rfl⟩
      refine ⟨.ok (), { db with
        riskEvents := db.riskEvents ++ [⟨accountId, event.eventType, event.payload⟩] },
        Engine.commits_attempt_ask.mpr ⟨(), rfl, ?_⟩, htypes, ?_⟩
      · exact commits_insertRiskEvent.mpr ⟨htype, rfl⟩
      · simp

end

end Confluence
