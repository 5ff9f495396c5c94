import Confluence.Server.Snapshots

/-!
# Orders, fills and positions

The fills of an order sum to its filled quantity and the fills on a symbol to what has become of the
open position. Every step of the server keeps this, as long as the adapters of its workers keep to
the results of reconciliations.
-/

namespace Confluence

/-- The sum of the fills of an order. -/
def Db.recordedQuantity (db : Db) (accountId orderId : Uuid) : Decimal :=
  ((db.fillsOf accountId orderId).map (·.quantity)).sum

/-- What a fill does to the position on the symbol: a buy adds to it, a sell takes away from it. -/
def Db.positionEffect (db : Db) (symbol : String) (f : FillRecord) : Decimal :=
  match db.order? f.accountId f.orderId with
  | some o => if o.symbol = symbol then o.side.signed f.fill.quantity else 0
  | none => 0

/-- What the recorded fills of the account do to the position on the symbol. -/
def Db.recordedPosition (db : Db) (accountId : Uuid) (symbol : String) : Decimal :=
  ((db.orderFills.filter fun f => decide (f.accountId = accountId)).map
    (db.positionEffect symbol)).sum

/-- Orders, positions and commands, but no fills and no worker. -/
structure Unfilled (s : Server) : Prop where
  ids : (s.db.orders.map (·.id)).Nodup
  clients : ∀ o ∈ s.db.orders, ∀ o' ∈ s.db.orders, o.accountId = o'.accountId →
    o.clientOrderId = o'.clientOrderId → o.id = o'.id
  quantities : ∀ o ∈ s.db.orders, o.Checked ∧ Numeric.Fits 30 10 o.quantity ∧ o.filledQuantity = 0
  positions : PositionsValid s.db.positions
  fills : s.db.orderFills = []
  tasks : s.tasks = []

section

variable {db db' : Db} {accountId orderId : Uuid} {symbol : String}

/-! ### Sums -/

/-- Lists of positive numbers, of which one begins the other, have equal sums only if they are
equal. -/
lemma eq_of_prefix_of_sum_eq {xs ys : List ℚ} (hpos : ∀ y ∈ ys, 0 < y) (h : xs <+: ys)
    (hsum : xs.sum = ys.sum) : xs = ys := by
  obtain ⟨zs, rfl⟩ := h
  rw [List.sum_append, left_eq_add] at hsum
  cases zs with
  | nil => exact (List.append_nil xs).symm
  | cons z zs =>
    have hz : 0 < z := hpos z (by simp)
    have hzs : 0 ≤ zs.sum := List.sum_nonneg fun y hy => (hpos y (by simp [hy])).le
    rw [List.sum_cons] at hsum
    linarith

/-- The recorded fills are numbered per order and sum to what has become of the open positions;
`opening` is the position before any fill. -/
structure Db.Recorded (opening : Uuid → String → Decimal) (db : Db) : Prop where
  ids : (db.orders.map (·.id)).Nodup
  clients : ∀ o ∈ db.orders, ∀ o' ∈ db.orders, o.accountId = o'.accountId →
    o.clientOrderId = o'.clientOrderId → o.id = o'.id
  scaled : ∀ o ∈ db.orders, Numeric.IsScaled 10 o.quantity
  positions : PositionsValid db.positions
  fills : ∀ f ∈ db.orderFills, 0 < f.fill.quantity ∧ Numeric.IsScaled 10 f.fill.quantity ∧
    ∃ o, db.order? f.accountId f.orderId = some o ∧
      ∃ n < (db.fillsOf f.accountId f.orderId).length,
        IsTradeId o.clientOrderId n f.fill.exchangeTradeId
  opened : ∀ a symbol, db.signedOpen a symbol = opening a symbol + db.recordedPosition a symbol

/-- The filled quantity of the order is the sum of its fills. -/
def Db.FilledAsRecorded (db : Db) (o : OrderRecord) : Prop :=
  o.filledQuantity = db.recordedQuantity o.accountId o.id ∧ 0 ≤ o.filledQuantity ∧
    o.filledQuantity ≤ o.quantity

/-- Orders, fills and positions agree. -/
structure Db.Balanced (opening : Uuid → String → Decimal) (db : Db) : Prop
    extends db.Recorded opening where
  filled : ∀ o ∈ db.orders, db.FilledAsRecorded o

variable {opening : Uuid → String → Decimal} {o : OrderRecord}

lemma mem_fillsOf {fill : Fill} :
    fill ∈ db.fillsOf accountId orderId ↔
      ∃ f ∈ db.orderFills, f.accountId = accountId ∧ f.orderId = orderId ∧ f.fill = fill := by
  simp [Db.fillsOf, and_assoc]

lemma Db.order?_of_mem (hids : (db.orders.map (·.id)).Nodup) (ho : o ∈ db.orders) :
    db.order? o.accountId o.id = some o := by
  have hsome : (db.order? o.accountId o.id).isSome := by
    rw [Db.order?, List.find?_isSome]
    exact ⟨o, ho, by simp⟩
  obtain ⟨o', ho'⟩ := Option.isSome_iff_exists.mp hsome
  obtain ⟨hmem, hid, -⟩ := Db.mem_of_order? ho'
  rw [ho', List.inj_on_of_nodup_map hids hmem ho hid]

/-- The fills of an order that is filled as in the snapshot are those of the snapshot. -/
lemma Db.Balanced.length_fills (h : db.Balanced opening) {snapshot : ReconcileSnapshot}
    (ho : db.order? accountId orderId = some o)
    (hsnapshot : SnapshotOf db accountId orderId snapshot)
    (hfilled : o.filledQuantity = snapshot.filled) :
    snapshot.fills.length = (db.fillsOf accountId orderId).length := by
  obtain ⟨hmem, rfl, rfl⟩ := Db.mem_of_order? ho
  obtain ⟨o', ho', -, hprefix⟩ := hsnapshot
  have hquantities : snapshot.fills.map (·.quantity) =
      ((db.fillsOf o.accountId o.id).map Fill.snapshot).map (·.quantity) := by
    apply eq_of_prefix_of_sum_eq
    · intro q hq
      rw [List.map_map, List.mem_map] at hq
      obtain ⟨fill, hfill, rfl⟩ := hq
      obtain ⟨f, hf, -, -, rfl⟩ := mem_fillsOf.mp hfill
      exact (h.fills f hf).1
    · exact hprefix.map _
    · have hsum := (h.filled o hmem).1
      rw [hfilled, ReconcileSnapshot.filled, Db.recordedQuantity] at hsum
      rw [hsum, List.map_map]
      rfl
  have hlength := congrArg List.length hquantities
  simpa using hlength

/-- The trade id that an adapter gives to the next fill of an order is not in use. -/
lemma Db.Balanced.not_hasTradeId (h : db.Balanced opening) {tradeId : String}
    (ho : db.order? accountId orderId = some o)
    (hid : IsTradeId o.clientOrderId (db.fillsOf accountId orderId).length tradeId) :
    ¬ db.hasTradeId accountId tradeId := by
  rintro ⟨f, hf, rfl, rfl⟩
  obtain ⟨-, -, o', ho', n, hn, hid'⟩ := h.fills f hf
  obtain ⟨hclient, hnumber⟩ := isTradeId_inj hid hid'
  obtain ⟨hmem, horder, hacc⟩ := Db.mem_of_order? ho
  obtain ⟨hmem', horder', hacc'⟩ := Db.mem_of_order? ho'
  -- the other fill is one of the same order, which has fewer fills than its number says
  have hsame : o.id = o'.id := h.clients o hmem o' hmem' (hacc.trans hacc'.symm) hclient
  rw [← horder', ← hsame, horder] at hn
  omega

/-! ### Tables that change -/

/-- Only orders, fills and positions matter. -/
lemma Db.Balanced.congr (h : db.Balanced opening) (horders : db'.orders = db.orders)
    (hfills : db'.orderFills = db.orderFills) (hpositions : db'.positions = db.positions) :
    db'.Balanced opening := by
  cases db
  cases db'
  simp only at horders hfills hpositions
  subst horders hfills hpositions
  exact ⟨⟨h.ids, h.clients, h.scaled, h.positions, h.fills, h.opened⟩, h.filled⟩

lemma order?_withStatus (db : Db) (accountId orderId : Uuid) (status : OrderStatus) (q : Decimal)
    (a i : Uuid) : (db.withStatus accountId orderId status q).order? a i = (db.order? a i).map fun o =>
      if decide (o.id = orderId) && decide (o.accountId = accountId) then
        { o with status, filledQuantity := q }
      else o := by
  rw [Db.order?, Db.withStatus, find?_updateWhere]
  · rfl
  · exact fun _ => rfl

lemma order?_withStatus_self (ho : db.order? o.accountId o.id = some o) (status : OrderStatus)
    (q : Decimal) : (db.withStatus o.accountId o.id status q).order? o.accountId o.id =
      some { o with status, filledQuantity := q } := by
  rw [order?_withStatus, ho]
  simp

lemma order?_withStatus_of_ne {a i : Uuid} {status : OrderStatus}
    (hne : ¬ (orderId = i ∧ a = accountId)) (q : Decimal) :
    (db.withStatus accountId orderId status q).order? a i = db.order? a i := by
  rw [order?_withStatus]
  cases ho : db.order? a i with
  | none => rfl
  | some o =>
    obtain ⟨-, rfl, rfl⟩ := Db.mem_of_order? ho
    have hother : ¬ (o.id = orderId ∧ o.accountId = accountId) := fun h => hne ⟨h.1.symm, h.2⟩
    rw [Option.map_some, if_neg (by simpa using hother)]

lemma mem_withStatus {status : OrderStatus} {q : Decimal} {r : OrderRecord}
    (h : r ∈ (db.withStatus accountId orderId status q).orders) :
    ∃ o ∈ db.orders, o.SameTerms r := by
  obtain ⟨o, ho, rfl⟩ := mem_updateWhere.mp h
  refine ⟨o, ho, ?_⟩
  split_ifs <;> rfl

/-- Effects of fills depend on the terms of their orders only. -/
lemma positionEffect_withStatus {status : OrderStatus} {q : Decimal} (f : FillRecord) :
    (db.withStatus accountId orderId status q).positionEffect symbol f =
      db.positionEffect symbol f := by
  unfold Db.positionEffect
  rw [order?_withStatus]
  cases db.order? f.accountId f.orderId with
  | none => rfl
  | some o =>
    simp only [Option.map_some]
    split_ifs <;> rfl

lemma Db.Recorded.withStatus (h : db.Recorded opening) (accountId orderId : Uuid)
    (status : OrderStatus) (q : Decimal) :
    (db.withStatus accountId orderId status q).Recorded opening := by
  constructor
  · rw [Db.withStatus, map_updateWhere]
    · exact h.ids
    · exact fun _ => rfl
  · intro r hr r' hr' hacc hclient
    obtain ⟨o, ho, hterms⟩ := mem_withStatus hr
    obtain ⟨o', ho', hterms'⟩ := mem_withStatus hr'
    rw [hterms, hterms'] at hacc hclient ⊢
    exact h.clients o ho o' ho' hacc hclient
  · intro r hr
    obtain ⟨o, ho, hterms⟩ := mem_withStatus hr
    rw [hterms]
    exact h.scaled o ho
  · exact h.positions
  · intro f hf
    obtain ⟨hpos, hscaled, o, ho, n, hn, hid⟩ := h.fills f hf
    have ho' := order?_withStatus db accountId orderId status q f.accountId f.orderId
    rw [ho, Option.map_some] at ho'
    refine ⟨hpos, hscaled, _, ho', n, hn, ?_⟩
    split_ifs <;> exact hid
  · intro a symbol
    have hsame : (db.withStatus accountId orderId status q).recordedPosition a symbol =
        db.recordedPosition a symbol := by
      unfold Db.recordedPosition
      rw [List.map_congr_left fun f _ => positionEffect_withStatus f]
      rfl
    rw [hsame]
    exact h.opened a symbol

/-- The other orders' filled quantities stay as they are recorded. -/
lemma filledAsRecorded_withStatus {status : OrderStatus} {q : Decimal}
    (hids : (db.orders.map (·.id)).Nodup) (ho : o ∈ db.orders)
    (hothers : ∀ r ∈ db.orders, r ≠ o → db.FilledAsRecorded r)
    (hq : q = db.recordedQuantity o.accountId o.id) (hnonneg : 0 ≤ q) (hle : q ≤ o.quantity)
    {r : OrderRecord} (hr : r ∈ (db.withStatus o.accountId o.id status q).orders) :
    (db.withStatus o.accountId o.id status q).FilledAsRecorded r := by
  obtain ⟨r', hr', rfl⟩ := mem_updateWhere.mp hr
  by_cases hrow : (decide (r'.id = o.id) && decide (r'.accountId = o.accountId)) = true
  · rw [if_pos hrow]
    simp only [Bool.and_eq_true, decide_eq_true_eq] at hrow
    obtain rfl := List.inj_on_of_nodup_map hids hr' ho hrow.1
    exact ⟨hq, hnonneg, hle⟩
  · rw [if_neg hrow]
    refine hothers r' hr' ?_
    rintro rfl
    simp at hrow

/-- A new order has no fills. -/
lemma Db.Balanced.place (h : db.Balanced opening) (hid : ∀ r ∈ db.orders, r.id ≠ o.id)
    (hclient : ∀ r ∈ db.orders, r.accountId = o.accountId → r.clientOrderId ≠ o.clientOrderId)
    (hscaled : Numeric.IsScaled 10 o.quantity) (hpos : 0 < o.quantity)
    (hfilled : o.filledQuantity = 0) :
    Db.Balanced opening { db with orders := db.orders ++ [o] } := by
  have hfind (f : FillRecord) (hf : f ∈ db.orderFills) :
      ∃ o', db.order? f.accountId f.orderId = some o' ∧
        Db.order? { db with orders := db.orders ++ [o] } f.accountId f.orderId = some o' := by
    obtain ⟨-, -, o', ho', -⟩ := h.fills f hf
    exact ⟨o', ho', order?_append ho'⟩
  refine ⟨⟨?_, ?_, ?_, h.positions, ?_, ?_⟩, ?_⟩
  · rw [List.map_append, List.nodup_append]
    refine ⟨h.ids, by simp, ?_⟩
    intro i hi j hj
    obtain ⟨r, hr, rfl⟩ := List.mem_map.mp hi
    rw [List.map_singleton, List.mem_singleton] at hj
    rw [hj]
    exact hid r hr
  · intro r hr r' hr' hacc hsame
    rcases List.mem_append.mp hr with hmem | hnew <;> rcases List.mem_append.mp hr' with hmem' | hnew'
    · exact h.clients r hmem r' hmem' hacc hsame
    · rw [List.mem_singleton.mp hnew'] at hacc hsame
      exact (hclient r hmem hacc hsame).elim
    · rw [List.mem_singleton.mp hnew] at hacc hsame
      exact (hclient r' hmem' hacc.symm hsame.symm).elim
    · rw [List.mem_singleton.mp hnew, List.mem_singleton.mp hnew']
  · intro r hr
    rcases List.mem_append.mp hr with hr | hr
    · exact h.scaled r hr
    · rw [List.mem_singleton.mp hr]
      exact hscaled
  · intro f hf
    obtain ⟨hposf, hscaledf, o', ho', hnumber⟩ := h.fills f hf
    exact ⟨hposf, hscaledf, o', order?_append ho', hnumber⟩
  · intro a symbol
    have hsame : Db.recordedPosition { db with orders := db.orders ++ [o] } a symbol =
        db.recordedPosition a symbol := by
      unfold Db.recordedPosition
      congr 1
      apply List.map_congr_left
      intro f hf
      obtain ⟨o', hbefore, hafter⟩ := hfind f (List.mem_of_mem_filter hf)
      rw [Db.positionEffect, Db.positionEffect, hbefore, hafter]
    rw [hsame]
    exact h.opened a symbol
  · intro r hr
    rcases List.mem_append.mp hr with hr | hr
    · exact h.filled r hr
    · rw [List.mem_singleton.mp hr]
      have hnone : db.fillsOf o.accountId o.id = [] := by
        rw [List.eq_nil_iff_forall_not_mem]
        intro fill hfill
        obtain ⟨f, hf, -, horder, -⟩ := mem_fillsOf.mp hfill
        obtain ⟨o', hbefore, -⟩ := hfind f hf
        obtain ⟨hmem, hid', -⟩ := Db.mem_of_order? hbefore
        exact hid o' hmem (hid'.trans horder)
      refine ⟨?_, hfilled.ge, hfilled.trans_le hpos.le⟩
      rw [hfilled]
      change (0 : Decimal) = ((db.fillsOf o.accountId o.id).map (·.quantity)).sum
      rw [hnone]
      rfl

/-- A recorded fill and its effect on the position. -/
lemma Db.Recorded.record (h : db.Recorded opening) (ho : db.order? o.accountId o.id = some o)
    {fill : Fill} {positions : List PositionRecord} (hpos : 0 < fill.quantity)
    (hscaled : Numeric.IsScaled 10 fill.quantity)
    (hid : IsTradeId o.clientOrderId (db.fillsOf o.accountId o.id).length fill.exchangeTradeId)
    (hvalid : PositionsValid positions)
    (hopened : Db.signedOpen { db with positions } o.accountId o.symbol =
      db.signedOpen o.accountId o.symbol + o.side.signed fill.quantity)
    (hothers : ∀ a symbol, (a ≠ o.accountId ∨ symbol ≠ o.symbol) →
      Db.signedOpen { db with positions } a symbol = db.signedOpen a symbol) :
    Db.Recorded opening
      { db with orderFills := db.orderFills ++ [⟨o.accountId, o.id, fill⟩], positions } := by
  have hmore (a i : Uuid) : (db.fillsOf a i).length ≤
      (Db.fillsOf { db with orderFills := db.orderFills ++ [⟨o.accountId, o.id, fill⟩], positions }
        a i).length := by
    simp [Db.fillsOf]
  refine ⟨h.ids, h.clients, h.scaled, hvalid, ?_, ?_⟩
  · intro f hf
    rcases List.mem_append.mp hf with hf | hf
    · obtain ⟨hpos', hscaled', o', ho', n, hn, hid'⟩ := h.fills f hf
      exact ⟨hpos', hscaled', o', ho', n, hn.trans_le (hmore _ _), hid'⟩
    · rw [List.mem_singleton.mp hf]
      refine ⟨hpos, hscaled, o, ho, _, ?_, hid⟩
      simp [Db.fillsOf]
  · intro a symbol
    have hsum : Db.recordedPosition
        { db with orderFills := db.orderFills ++ [⟨o.accountId, o.id, fill⟩], positions } a symbol =
          db.recordedPosition a symbol +
            if o.accountId = a ∧ o.symbol = symbol then o.side.signed fill.quantity else 0 := by
      have heffect : Db.positionEffect
          { db with orderFills := db.orderFills ++ [⟨o.accountId, o.id, fill⟩], positions } symbol
            ⟨o.accountId, o.id, fill⟩ =
          if o.symbol = symbol then o.side.signed fill.quantity else 0 := by
        change (match db.order? o.accountId o.id with
          | some o => if o.symbol = symbol then o.side.signed fill.quantity else 0
          | none => 0) = _
        rw [ho]
      rw [Db.recordedPosition, List.filter_append, List.map_append, List.sum_append]
      congr 1
      by_cases ha : o.accountId = a
      · rw [List.filter_singleton, decide_eq_true ha, cond_true, List.map_singleton,
          List.sum_singleton, heffect]
        simp [ha]
      · simp [ha]
    rw [hsum]
    by_cases hboth : o.accountId = a ∧ o.symbol = symbol
    · obtain ⟨rfl, rfl⟩ := hboth
      rw [if_pos ⟨rfl, rfl⟩, ← add_assoc, ← h.opened]
      exact hopened
    · rw [if_neg hboth, add_zero, ← h.opened]
      apply hothers
      by_contra hne
      simp only [not_or, not_not] at hne
      exact hboth ⟨hne.1.symm, hne.2.symm⟩

/-! ### Every step keeps the balance -/

/-- Filled quantities have ten digits after the point. -/
lemma Db.Balanced.isScaled_filled (h : db.Balanced opening) (ho : o ∈ db.orders) :
    Numeric.IsScaled 10 o.filledQuantity := by
  rw [(h.filled o ho).1]
  apply Numeric.IsScaled.sum
  intro q hq
  obtain ⟨fill, hfill, rfl⟩ := List.mem_map.mp hq
  obtain ⟨f, hf, -, -, rfl⟩ := mem_fillsOf.mp hfill
  exact (h.fills f hf).2.1

/-- The filled quantity that a fresh snapshot shows is that of the order. -/
lemma filled_reconcileSnapshot (hb : db.Balanced opening) (ho : o ∈ db.orders) :
    (db.reconcileSnapshot o).filled = o.filledQuantity := by
  rw [(hb.filled o ho).1, ReconcileSnapshot.filled, Db.reconcileSnapshot, List.map_map,
    Db.recordedQuantity]
  rfl

/-- A status written with the filled quantity that the order has. -/
lemma Db.Balanced.withStatus (h : db.Balanced opening) (ho : o ∈ db.orders) (status : OrderStatus)
    {q : Decimal} (hq : Numeric.store 30 10 o.filledQuantity = some q) :
    (db.withStatus o.accountId o.id status q).Balanced opening := by
  obtain rfl := Numeric.eq_of_store (h.isScaled_filled ho) hq
  obtain ⟨hsum, hnonneg, hle⟩ := h.filled o ho
  refine ⟨h.toRecorded.withStatus _ _ _ _, fun r hr => ?_⟩
  exact filledAsRecorded_withStatus h.ids ho (fun r hr _ => h.filled r hr) hsum hnonneg hle hr

lemma Db.Balanced.movedIfLegal (h : db.Balanced opening) {status : OrderStatus}
    (ho : db.order? accountId orderId = some o) (hmove : db.MovedIfLegal o status db') :
    db'.Balanced opening := by
  unfold Db.MovedIfLegal at hmove
  split_ifs at hmove with hlegal
  · obtain ⟨q, hq, -, -, rfl⟩ := hmove
    exact h.withStatus (Db.mem_of_order? ho).1 status hq
  · rw [hmove]
    exact h

lemma recordedQuantity_append (db : Db) (o : OrderRecord) (fill : Fill)
    (positions : List PositionRecord) :
    Db.recordedQuantity
      { db with orderFills := db.orderFills ++ [⟨o.accountId, o.id, fill⟩], positions }
        o.accountId o.id = db.recordedQuantity o.accountId o.id + fill.quantity := by
  simp [Db.recordedQuantity, Db.fillsOf]

/-- Fills of one order are no fills of another. -/
lemma recordedQuantity_append_of_ne (db : Db) {r : OrderRecord} (hne : r.id ≠ o.id) (fill : Fill)
    (positions : List PositionRecord) :
    Db.recordedQuantity
      { db with orderFills := db.orderFills ++ [⟨o.accountId, o.id, fill⟩], positions }
        r.accountId r.id = db.recordedQuantity r.accountId r.id := by
  simp [Db.recordedQuantity, Db.fillsOf, hne.symm]

/-- Every column keeps a persisted fill as it is: the recorded one, the filled quantity and the
position. -/
lemma Db.Balanced.fill_exact (h : db.Balanced opening) {snapshot : ReconcileSnapshot}
    {result : ReconcileResult} (ho : db.order? o.accountId o.id = some o)
    (hsnapshot : SnapshotOf db o.accountId o.id snapshot) (hresult : AdapterResult snapshot result)
    (hfilled : o.filledQuantity = snapshot.filled) {fill : Fill} (hmem : fill ∈ result.fillsToAdd)
    {stored q : Decimal} {db₁ db₂ : Db}
    (hstored : Numeric.store 30 10 fill.quantity = some stored)
    (hdelta : postgres.Commits
      (applyPositionDelta o.accountId o.symbol (o.side.signed fill.quantity) fill.price) db₁ () db₂)
    (hsame : db₁.positions = db.positions)
    (hq : Numeric.store 30 10 (o.filledQuantity + fill.quantity) = some q) :
    IsTradeId o.clientOrderId (db.fillsOf o.accountId o.id).length fill.exchangeTradeId ∧
      0 < fill.quantity ∧ Numeric.IsScaled 10 fill.quantity ∧ stored = fill.quantity ∧
      q = o.filledQuantity + fill.quantity ∧ PositionsValid db₂.positions ∧
      db₂.signedOpen o.accountId o.symbol =
        db.signedOpen o.accountId o.symbol + o.side.signed fill.quantity ∧
      ∀ a symbol, (a ≠ o.accountId ∨ symbol ≠ o.symbol) →
        db₂.signedOpen a symbol = db.signedOpen a symbol := by
  have hlength := h.length_fills ho hsnapshot hfilled
  obtain ⟨hnumber, hpositive, hscaled⟩ := hresult.of_fill hmem
  obtain ⟨hmemo, -, -⟩ := Db.mem_of_order? ho
  obtain ⟨o', ho', hterms, -⟩ := hsnapshot
  obtain rfl : o = o' := Option.some.inj (ho.symm.trans ho')
  rw [hlength, hterms] at hnumber
  have hfill : Numeric.IsScaled 10 fill.quantity := by
    apply hscaled
    · rw [hterms]
      exact h.scaled o hmemo
    · rw [← hfilled]
      exact h.isScaled_filled hmemo
  have hsigned : o.side.signed fill.quantity ≠ 0 := by
    cases hside : o.side with
    | buy => exact hpositive.ne'
    | sell => exact neg_ne_zero.mpr hpositive.ne'
  have hscaledDelta : Numeric.IsScaled 10 (o.side.signed fill.quantity) := by
    cases hside : o.side with
    | buy => exact hfill
    | sell => exact hfill.neg
  have hvalid : PositionsValid db₁.positions := by
    rw [hsame]
    exact h.positions
  have hopen (a : Uuid) (symbol : String) : db₁.openOn a symbol = db.openOn a symbol := by
    rw [Db.openOn, hsame]
    rfl
  have hsignedOpen (a : Uuid) (symbol : String) :
      db₁.signedOpen a symbol = db.signedOpen a symbol := by
    rw [Db.signedOpen, hopen]
    rfl
  obtain ⟨q', -, hq', -, -, heffect⟩ := of_commits_applyPositionDelta hvalid hsigned hdelta
  have hopened := heffect.signedOpen_of_isScaled
    ((hvalid.isScaled_signedOpen o.accountId o.symbol).add hscaledDelta) hq'
  refine ⟨hnumber, hpositive, hfill, Numeric.eq_of_store hfill hstored,
    Numeric.eq_of_store ((h.isScaled_filled hmemo).add hfill) hq, heffect.valid, ?_, ?_⟩
  · rw [hopened, hsignedOpen]
  · intro a symbol hne
    rw [Db.signedOpen, heffect.others a symbol hne, hopen]
    rfl

/-- The result of a reconciliation, persisted for an order that is filled as in the snapshot. -/
lemma Db.Balanced.persisted (h : db.Balanced opening) {snapshot : ReconcileSnapshot}
    {result : ReconcileResult} (ho : db.order? accountId orderId = some o)
    (hsnapshot : SnapshotOf db accountId orderId snapshot) (hresult : AdapterResult snapshot result)
    (hfilled : o.filledQuantity = snapshot.filled) (hpersisted : Persisted db o result db') :
    db'.Balanced opening := by
  obtain ⟨hmem, rfl, rfl⟩ := Db.mem_of_order? ho
  cases hpersisted with
  | unchanged => exact h.congr rfl rfl rfl
  | @moved status events q riskEvents hlegal hq =>
    have hmoved := h.withStatus hmem status hq
    exact hmoved.congr rfl rfl rfl
  | @filled status fill stored events q positions riskEvents hlegal hnew hid hstored hpos hdelta hq
      hnonneg hle =>
    obtain ⟨hnumber, -, hfill, hexact, rfl, hvalid, hopened, hothers⟩ :=
      h.fill_exact ho hsnapshot hresult hfilled (List.mem_singleton_self fill) hstored hdelta rfl hq
    rw [← hid] at hnumber
    have hrecorded : Db.Recorded opening
        { db with orderFills := db.orderFills ++ [⟨o.accountId, o.id, stored⟩], positions } := by
      apply h.toRecorded.record ho hpos
      · rw [hexact]
        exact hfill
      · exact hnumber
      · exact hvalid
      · rw [hexact]
        exact hopened
      · exact hothers
    have hbalanced : (Db.withStatus
        { db with orderFills := db.orderFills ++ [⟨o.accountId, o.id, stored⟩], positions }
          o.accountId o.id status (o.filledQuantity + fill.quantity)).Balanced opening := by
      refine ⟨hrecorded.withStatus _ _ _ _, fun r hr => ?_⟩
      refine filledAsRecorded_withStatus hrecorded.ids hmem ?_ ?_ hnonneg hle hr
      · intro r hr hne
        obtain ⟨hsum, hrest⟩ := h.filled r hr
        have hid : r.id ≠ o.id := fun hid => hne (List.inj_on_of_nodup_map h.ids hr hmem hid)
        exact ⟨hsum.trans (recordedQuantity_append_of_ne db hid stored positions).symm, hrest⟩
      · rw [recordedQuantity_append, hexact, ← (h.filled o hmem).1]
    exact hbalanced.congr rfl rfl rfl

lemma WorkerStep.balanced {supervisor : Supervisor} {t : Task} {next : Option Stage}
    (h : WorkerStep supervisor t.cmd db t.stage next db') (ht : t.Agrees db)
    (hdb : db.Balanced opening) : db'.Balanced opening := by
  obtain ⟨cmd, lease, stage⟩ := t
  cases h with
  | noAdapter | delivered | requeued | permanentlyRejected | reconciliationRequired | notHydrated
  | hydrated | called | notAccepted | notPersisted | audited => exact hdb.congr rfl rfl rfl
  | submitted htype ho hmove =>
    have hmoved := hdb.movedIfLegal ho hmove
    exact hmoved.congr rfl rfl rfl
  | cancelled htype ho hmove =>
    have hmoved := hdb.movedIfLegal ho hmove
    exact hmoved.congr rfl rfl rfl
  | persisted hcommit =>
    obtain ⟨hsnapshot, hresult⟩ := ht
    obtain ⟨o, ho, hfilled, -, hpersisted⟩ := persisted_of_commits hsnapshot hresult hcommit
    exact hdb.persisted ho hsnapshot hresult hfilled hpersisted
  | rejected h =>
    rcases h with rfl | ⟨o, ho, hmove⟩
    · exact hdb.congr rfl rfl rfl
    · have hmoved := hdb.movedIfLegal ho hmove
      exact hmoved.congr rfl rfl rfl

lemma ServerStep.balanced {s s' : Server} {a : Action} (h : ServerStep s a s')
    (htasks : TasksAgree s) (hdb : s.db.Balanced opening) : s'.db.Balanced opening := by
  cases h with
  | tick | enqueueCancel | claim | crash => exact hdb.congr rfl rfl rfl
  | advance htask hworker => exact hworker.balanced (htasks _ (List.mem_of_getElem? htask)) hdb
  | @request env accountId r db' hrequest =>
    cases hrequest with
    | audited => exact hdb.congr rfl rfl rfl
    | riskState => exact hdb.congr rfl rfl rfl
    | configured => exact hdb.congr rfl rfl rfl
    | @placed orderId body q p happroved hq hp hpos hid hclient =>
      have hplaced := hdb.place (o := newOrder orderId accountId orderId.simple body.symbol
        body.side body.orderType q p (s.db.exchangeMode accountId)) hid hclient
        (Numeric.fits_of_store hq).1 hpos rfl
      exact hplaced.congr rfl rfl rfl

lemma Unfilled.balanced {s : Server} (h : Unfilled s) : s.db.Balanced s.db.signedOpen := by
  have hnone (a i : Uuid) : s.db.fillsOf a i = [] := by
    simp [Db.fillsOf, h.fills]
  refine ⟨⟨h.ids, h.clients, fun o ho => (h.quantities o ho).2.1.1, h.positions, ?_, ?_⟩, ?_⟩
  · intro f hf
    rw [h.fills] at hf
    cases hf
  · intro a symbol
    simp [Db.recordedPosition, h.fills]
  · intro o ho
    obtain ⟨hchecked, -, hfilled⟩ := h.quantities o ho
    refine ⟨?_, hfilled.ge, hfilled.trans_le hchecked.1.le⟩
    rw [hfilled, Db.recordedQuantity, hnone]
    rfl

end

end Confluence
