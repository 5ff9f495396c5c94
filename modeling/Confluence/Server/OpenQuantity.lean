import Confluence.Server.Ledger

/-!
# What is left to fill

The unfilled quantity of the open orders on one side of a symbol, next to the position on the symbol.
A fill takes the same amount from what is left of its own side and from a position that the side
reduces; a fill of the other side adds to that position.
-/

namespace Confluence

/-- What is left to fill of the order. -/
def OrderRecord.unfilled (o : OrderRecord) : Decimal :=
  if o.status.isTerminal then 0 else o.quantity - o.filledQuantity

/-- What is left to fill of the order, if it is the account's and on this side of the symbol. -/
def OrderRecord.unfilledOn (o : OrderRecord) (accountId : Uuid) (symbol : String)
    (side : OrderSide) : Decimal :=
  if o.accountId = accountId ∧ o.symbol = symbol ∧ o.side = side then o.unfilled else 0

/-- What is left to fill of all orders on one side of a symbol. -/
def Db.unfilledOn (db : Db) (accountId : Uuid) (symbol : String) (side : OrderSide) : Decimal :=
  (db.orders.map (·.unfilledOn accountId symbol side)).sum

/-- If all orders on the side are filled, they take no more than the position that they reduce. -/
def Db.Covers (db : Db) (accountId : Uuid) (symbol : String) (side : OrderSide) : Prop :=
  db.unfilledOn accountId symbol side + side.signed (db.signedOpen accountId symbol) ≤ 0

/-- What a step of a worker does to orders, fills and positions: nothing; the move of an open order;
or a fill of an open order, with its effect on the position. -/
inductive Db.Traded (db db' : Db) : Prop
  | kept (horders : db'.orders = db.orders) (hfills : db'.orderFills = db.orderFills)
      (hpositions : db'.positions = db.positions)
  | moved {o : OrderRecord} {status : OrderStatus} (ho : o ∈ db.orders)
      (hopen : o.status.isTerminal = false)
      (horders : db'.orders = (db.withStatus o.accountId o.id status o.filledQuantity).orders)
      (hfills : db'.orderFills = db.orderFills) (hpositions : db'.positions = db.positions)
  | filled {o : OrderRecord} {status : OrderStatus} {fill : Fill} (ho : o ∈ db.orders)
      (hopen : o.status.isTerminal = false) (hpos : 0 < fill.quantity)
      (hle : o.filledQuantity + fill.quantity ≤ o.quantity)
      (horders : db'.orders =
        (db.withStatus o.accountId o.id status (o.filledQuantity + fill.quantity)).orders)
      (hfills : ∃ stored, db'.orderFills = db.orderFills ++ [⟨o.accountId, o.id, stored⟩])
      (hopened : db'.signedOpen o.accountId o.symbol =
        db.signedOpen o.accountId o.symbol + o.side.signed fill.quantity)
      (hothers : ∀ a symbol, (a ≠ o.accountId ∨ symbol ≠ o.symbol) →
        db'.signedOpen a symbol = db.signedOpen a symbol)

section

variable {db db' : Db} {accountId orderId : Uuid} {symbol : String} {side : OrderSide}
  {o : OrderRecord} {opening : Uuid → String → Decimal}

/-! ### Steps of workers -/

lemma isTerminal_of_legal {status status' : OrderStatus}
    (h : OrderStateMachine.legal status status' = true) : status.isTerminal = false := by
  cases hterminal : status.isTerminal with
  | false => rfl
  | true =>
    rw [OrderStateMachine.not_legal_of_isTerminal hterminal] at h
    cases h

lemma Db.MovedIfLegal.traded (h : db.MovedIfLegal o status db') (hb : db.Balanced opening)
    (ho : o ∈ db.orders) : db.Traded db' := by
  unfold Db.MovedIfLegal at h
  split_ifs at h with hlegal
  · obtain ⟨q, hq, -, -, rfl⟩ := h
    obtain rfl := Numeric.eq_of_store (hb.isScaled_filled ho) hq
    exact .moved ho (isTerminal_of_legal hlegal) rfl rfl rfl
  · rw [h]
    exact .kept rfl rfl rfl

/-- Only orders, fills and positions matter. -/
lemma Db.Traded.congr {db₁ : Db} (h : db.Traded db₁) (horders : db'.orders = db₁.orders)
    (hfills : db'.orderFills = db₁.orderFills) (hpositions : db'.positions = db₁.positions) :
    db.Traded db' := by
  have hsigned (a : Uuid) (symbol : String) : db'.signedOpen a symbol = db₁.signedOpen a symbol := by
    simp only [Db.signedOpen, Db.openOn, hpositions]
  cases h with
  | kept horders' hfills' hpositions' =>
    exact .kept (horders.trans horders') (hfills.trans hfills') (hpositions.trans hpositions')
  | moved ho hopen horders' hfills' hpositions' =>
    exact .moved ho hopen (horders.trans horders') (hfills.trans hfills')
      (hpositions.trans hpositions')
  | filled ho hopen hpos hle horders' hfills' hopened hothers =>
    obtain ⟨stored, hfills'⟩ := hfills'
    exact .filled ho hopen hpos hle (horders.trans horders') ⟨stored, hfills.trans hfills'⟩
      ((hsigned _ _).trans hopened) fun a s hne => (hsigned a s).trans (hothers a s hne)

lemma Db.Balanced.traded (h : db.Balanced opening) {snapshot : ReconcileSnapshot}
    {result : ReconcileResult} (ho : db.order? accountId orderId = some o)
    (hsnapshot : SnapshotOf db accountId orderId snapshot) (hresult : AdapterResult snapshot result)
    (hfilled : o.filledQuantity = snapshot.filled) (hpersisted : Persisted db o result db') :
    db.Traded db' := by
  obtain ⟨hmem, rfl, rfl⟩ := Db.mem_of_order? ho
  cases hpersisted with
  | unchanged => exact .kept rfl rfl rfl
  | moved hlegal hq =>
    obtain rfl := Numeric.eq_of_store (h.isScaled_filled hmem) hq
    exact .moved hmem (isTerminal_of_legal hlegal) rfl rfl rfl
  | @filled status fill stored events q positions riskEvents hlegal hnew hid hstored hpos hdelta hq
      hnonneg hle =>
    obtain ⟨-, hpositive, -, -, rfl, -, hopened, hothers⟩ :=
      h.fill_exact ho hsnapshot hresult hfilled (List.mem_singleton_self fill) hstored hdelta rfl hq
    exact .filled hmem (isTerminal_of_legal hlegal) hpositive hle rfl ⟨stored, rfl⟩ hopened hothers

lemma WorkerStep.traded {supervisor : Supervisor} {t : Task} {next : Option Stage}
    (h : WorkerStep supervisor t.cmd db t.stage next db') (ht : t.Agrees db)
    (hdb : db.Balanced opening) : db.Traded db' := by
  obtain ⟨cmd, lease, stage⟩ := t
  cases h with
  | noAdapter | delivered | requeued | permanentlyRejected | reconciliationRequired | notHydrated
  | hydrated | called | notAccepted | notPersisted | audited => exact .kept rfl rfl rfl
  | submitted htype ho hmove =>
    have hmoved := hmove.traded hdb (Db.mem_of_order? ho).1
    exact hmoved.congr rfl rfl rfl
  | cancelled htype ho hmove =>
    have hmoved := hmove.traded hdb (Db.mem_of_order? ho).1
    exact hmoved.congr rfl rfl rfl
  | persisted hcommit =>
    obtain ⟨hsnapshot, hresult⟩ := ht
    obtain ⟨o, ho, hfilled, -, hpersisted⟩ := persisted_of_commits hsnapshot hresult hcommit
    exact hdb.traded ho hsnapshot hresult hfilled hpersisted
  | rejected h =>
    rcases h with rfl | ⟨o, ho, hmove⟩
    · exact .kept rfl rfl rfl
    · have hmoved := hmove.traded hdb (Db.mem_of_order? ho).1
      exact hmoved.congr rfl rfl rfl

/-! ### What is left -/

lemma OrderSide.signed_add (side : OrderSide) (q q' : Decimal) :
    side.signed (q + q') = side.signed q + side.signed q' := by
  cases side
  · rfl
  · exact neg_add q q'

lemma OrderSide.signed_signed (side : OrderSide) (q : Decimal) :
    side.signed (side.signed q) = q := by
  cases side
  · rfl
  · exact neg_neg q

lemma OrderSide.signed_of_ne {side side' : OrderSide} (h : side ≠ side') (q : Decimal) :
    side'.signed (side.signed q) = -q := by
  cases side <;> cases side' <;> first | rfl | exact (h rfl).elim

lemma Db.Balanced.unfilled_nonneg (h : db.Balanced opening) (ho : o ∈ db.orders) :
    0 ≤ o.unfilled := by
  obtain ⟨-, -, hle⟩ := h.filled o ho
  unfold OrderRecord.unfilled
  split_ifs
  · exact le_rfl
  · exact sub_nonneg.mpr hle

lemma Db.Balanced.unfilledOn_nonneg (h : db.Balanced opening) (ho : o ∈ db.orders) :
    0 ≤ o.unfilledOn accountId symbol side := by
  unfold OrderRecord.unfilledOn
  split_ifs
  · exact h.unfilled_nonneg ho
  · exact le_rfl

/-- An order has no more left than all of its side. -/
lemma Db.Balanced.unfilled_le (h : db.Balanced opening) (ho : o ∈ db.orders) :
    o.unfilled ≤ db.unfilledOn o.accountId o.symbol o.side := by
  have hself : o.unfilledOn o.accountId o.symbol o.side = o.unfilled := by
    simp [OrderRecord.unfilledOn]
  rw [← hself, Db.unfilledOn]
  apply List.single_le_sum
  · intro q hq
    obtain ⟨r, hr, rfl⟩ := List.mem_map.mp hq
    exact h.unfilledOn_nonneg hr
  · exact List.mem_map_of_mem ho

/-- A quantity that is filled is no longer left. -/
lemma unfilledOn_filled_le (accountId : Uuid) (symbol : String) (side : OrderSide)
    (hopen : o.status.isTerminal = false) (status : OrderStatus) {q : Decimal} (hle : o.filledQuantity + q ≤ o.quantity) :
    OrderRecord.unfilledOn { o with status, filledQuantity := o.filledQuantity + q } accountId symbol
        side ≤
      o.unfilledOn accountId symbol side -
        if o.accountId = accountId ∧ o.symbol = symbol ∧ o.side = side then q else 0 := by
  unfold OrderRecord.unfilledOn
  simp only
  split_ifs
  · unfold OrderRecord.unfilled
    simp only [hopen, Bool.false_eq_true, if_false]
    split_ifs
    · linarith
    · linarith
  · simp

lemma unfilledOn_withStatus_le (accountId : Uuid) (symbol : String) (side : OrderSide)
    (hids : (db.orders.map (·.id)).Nodup) (ho : o ∈ db.orders)
    (hopen : o.status.isTerminal = false) (status : OrderStatus) {q : Decimal}
    (hle : o.filledQuantity + q ≤ o.quantity) :
    (db.withStatus o.accountId o.id status (o.filledQuantity + q)).unfilledOn accountId symbol side ≤
      db.unfilledOn accountId symbol side -
        if o.accountId = accountId ∧ o.symbol = symbol ∧ o.side = side then q else 0 := by
  have hrow : (db.withStatus o.accountId o.id status (o.filledQuantity + q)).orders =
      updateWhere (fun r => decide (r.id = o.id))
        (fun r => { r with status, filledQuantity := o.filledQuantity + q }) db.orders := by
    unfold Db.withStatus updateWhere
    refine List.map_congr_left fun r hr => ?_
    by_cases hid : r.id = o.id
    · obtain rfl := List.inj_on_of_nodup_map hids hr ho hid
      simp
    · simp [hid]
  have hsum := sum_updateWhere (f := fun r => { r with status, filledQuantity := o.filledQuantity + q })
    hids ho (·.unfilledOn accountId symbol side)
  have horder := unfilledOn_filled_le accountId symbol side hopen status hle
  rw [Db.unfilledOn, hrow, Db.unfilledOn]
  linarith

/-- What is left depends on the orders only. -/
lemma unfilledOn_congr (h : db'.orders = db.orders) :
    db'.unfilledOn accountId symbol side = db.unfilledOn accountId symbol side := by
  rw [Db.unfilledOn, h, Db.unfilledOn]

/-- A step of a worker never takes more from a position than what is left of its side. -/
lemma Db.Traded.covers (h : db.Traded db') (hb : db.Balanced opening)
    (hcovers : db.Covers accountId symbol side) : db'.Covers accountId symbol side := by
  unfold Db.Covers at hcovers ⊢
  cases h with
  | kept horders hfills hpositions =>
    rwa [unfilledOn_congr horders, signedOpen_congr hpositions]
  | @moved o status ho hopen horders hfills hpositions =>
    have hle : o.filledQuantity + 0 ≤ o.quantity := by
      rw [add_zero]
      exact (hb.filled o ho).2.2
    have hleft := unfilledOn_withStatus_le accountId symbol side hb.ids ho hopen status hle
    rw [add_zero, ite_self, sub_zero] at hleft
    rw [unfilledOn_congr horders, signedOpen_congr hpositions]
    linarith
  | @filled o status fill ho hopen hpos hle horders hfills hopened hothers =>
    have hleft := unfilledOn_withStatus_le accountId symbol side hb.ids ho hopen status hle
    rw [unfilledOn_congr horders]
    by_cases hsame : accountId = o.accountId ∧ symbol = o.symbol
    · obtain ⟨rfl, rfl⟩ := hsame
      rw [hopened, OrderSide.signed_add]
      by_cases hside : o.side = side
      · -- the fill is taken from both
        rw [if_pos ⟨rfl, rfl, hside⟩] at hleft
        rw [hside, OrderSide.signed_signed]
        linarith
      · -- the fill adds to the position
        rw [if_neg (fun h => hside h.2.2)] at hleft
        rw [OrderSide.signed_of_ne hside]
        linarith
    · rw [if_neg (fun h => hsame ⟨h.1.symm, h.2.1.symm⟩)] at hleft
      rw [hothers _ _ (not_and_or.mp hsame)]
      linarith

/-! ### One order -/

/-- What is left of an order never grows, and its terms stay. -/
lemma Db.Traded.unfilled_le (h : db.Traded db') (hb : db.Balanced opening) (ho : o ∈ db.orders) :
    ∃ o' ∈ db'.orders, o.SameTerms o' ∧ o'.unfilled ≤ o.unfilled := by
  have hwithStatus {r : OrderRecord} {status : OrderStatus} {q : Decimal} (hr : r ∈ db.orders)
      (hopen : r.status.isTerminal = false) (hq : 0 ≤ q) (hle : r.filledQuantity + q ≤ r.quantity)
      (horders : db'.orders =
        (db.withStatus r.accountId r.id status (r.filledQuantity + q)).orders) :
      ∃ o' ∈ db'.orders, o.SameTerms o' ∧ o'.unfilled ≤ o.unfilled := by
    rw [horders]
    refine ⟨_, mem_updateWhere.mpr ⟨o, ho, rfl⟩, ?_⟩
    split_ifs with hrow
    · rw [Bool.and_eq_true, decide_eq_true_eq, decide_eq_true_eq] at hrow
      obtain rfl := List.inj_on_of_nodup_map hb.ids ho hr hrow.1
      refine ⟨rfl, ?_⟩
      unfold OrderRecord.unfilled
      simp only [hopen, Bool.false_eq_true, if_false]
      split_ifs
      · linarith
      · linarith
    · exact ⟨.refl o, le_rfl⟩
  cases h with
  | kept horders => exact ⟨o, by rwa [horders], .refl o, le_rfl⟩
  | @moved r status hr hopen horders =>
    refine hwithStatus hr hopen (le_refl 0) ?_ (by rwa [add_zero])
    rw [add_zero]
    exact (hb.filled r hr).2.2
  | filled hr hopen hpos hle horders => exact hwithStatus hr hopen hpos.le hle horders

/-- Where an order gets a fill, it is open and has that much left. -/
lemma Db.Traded.of_fillsOf_ne (h : db.Traded db')
    (hfills : db'.fillsOf accountId orderId ≠ db.fillsOf accountId orderId) :
    ∃ o ∈ db.orders, o.accountId = accountId ∧ o.id = orderId ∧ ∃ q, 0 < q ∧ q ≤ o.unfilled ∧
      db'.signedOpen accountId o.symbol =
        db.signedOpen accountId o.symbol + o.side.signed q := by
  cases h with
  | kept _ hsame =>
    rw [Db.fillsOf, hsame] at hfills
    exact (hfills rfl).elim
  | moved _ _ _ hsame =>
    rw [Db.fillsOf, hsame] at hfills
    exact (hfills rfl).elim
  | @filled o status fill ho hopen hpos hle horders hrows hopened hothers =>
    obtain ⟨stored, hrows⟩ := hrows
    by_cases hrow : o.accountId = accountId ∧ o.id = orderId
    · obtain ⟨rfl, rfl⟩ := hrow
      refine ⟨o, ho, rfl, rfl, fill.quantity, hpos, ?_, hopened⟩
      simp only [OrderRecord.unfilled, hopen, Bool.false_eq_true, if_false]
      linarith
    · have hsame : db'.fillsOf accountId orderId = db.fillsOf accountId orderId := by
        simp only [Db.fillsOf, hrows, List.filter_append]
        have hnone : ([⟨o.accountId, o.id, stored⟩] : List FillRecord).filter (fun r =>
            decide (r.accountId = accountId) && decide (r.orderId = orderId)) = [] := by
          simpa using hrow
        rw [hnone, List.append_nil]
      exact (hfills hsame).elim

end

end Confluence
