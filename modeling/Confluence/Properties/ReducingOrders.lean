import Confluence.Properties.ConcurrentPositions
import Confluence.Properties.PredictedExposure
import Confluence.Properties.RecordedFills
import Confluence.Server.OpenQuantity

/-!
# Orders that reduce a position

An order against an open position, and no larger than it, skips the sizing rules. The position may
be another one when the order fills: other orders on the same side, approved against the same
position, may have taken it away. The fills of the order only reduce what is open in the runs in
which the orders on its side fit within the position together.
-/

namespace Confluence

/-- The position is closed, or keeps its side and does not grow. -/
def Reduces (before after : Decimal) : Prop :=
  after = 0 ∨ (0 < before * after ∧ |after| ≤ |before|)

/-- `place_order` approves the request as one that reduces an open position. -/
def ApprovedAsReduction (env : Surroundings) (accountId orderId : Uuid) (body : PlaceOrderRequest)
    (db : Db) : Prop :=
  (placeOrder env accountId orderId body db).1.isOk = true ∧
    ∃ account, db.accountRow accountId = some account ∧
      reducesExistingPosition (coreIntent body (priceEstimate env body))
        (db.snapshot accountId account env.snapshotDay) = true

/-- An approved order on the side finds no other order on it with something left to fill, or fits
within the opposite position together with what is left of the others. -/
def FitsPosition (accountId : Uuid) (symbol : String) (side : OrderSide) (db : Db)
    (env : Surroundings) (body : PlaceOrderRequest) : Prop :=
  ApprovesOrder env accountId body db → body.symbol = symbol → body.side = side →
    db.unfilledOn accountId symbol side ≠ 0 →
      db.unfilledOn accountId symbol side + Numeric.roundTo 10 body.quantity +
        side.signed (db.signedOpen accountId symbol) ≤ 0

instance (accountId : Uuid) (symbol : String) (side : OrderSide) (db : Db) (env : Surroundings)
    (body : PlaceOrderRequest) : Decidable (FitsPosition accountId symbol side db env body) :=
  inferInstanceAs (Decidable (_ → _ → _ → _ ≠ _ → _))

/-- Every approved order of the account on this side of the symbol fits. -/
def OrdersFitPosition (accountId : Uuid) (symbol : String) (side : OrderSide) (s : Server) :
    Action → Prop
  | .request env a (.placeOrder _ body) => a = accountId → FitsPosition a symbol side s.db env body
  | _ => True

instance (accountId : Uuid) (symbol : String) (side : OrderSide) (s : Server) (a : Action) :
    Decidable (OrdersFitPosition accountId symbol side s a) :=
  match a with
  | .request env a (.placeOrder _ body) =>
    inferInstanceAs (Decidable (a = accountId → FitsPosition a symbol side s.db env body))
  | .request _ _ (.evaluateTrade _) | .request _ _ (.putEquity _) | .request _ _ (.putRiskConfig _)
  | .request _ _ .engageKillSwitch | .request _ _ .releaseKillSwitch
  | .request _ _ (.putExchangeConfig _ _) | .tick _ | .enqueueCancel _ _ _ _ | .claim _ _
  | .advance _ _ | .crash _ => isTrue trivial

/-- The order has nothing left to fill, or all orders on its side are covered by the position. -/
def Db.FillsCovered (db : Db) (accountId orderId : Uuid) (symbol : String) (side : OrderSide) :
    Prop :=
  ∃ o ∈ db.orders, o.accountId = accountId ∧ o.id = orderId ∧ o.symbol = symbol ∧ o.side = side ∧
    (o.unfilled ≤ 0 ∨ db.Covers accountId symbol side)

/-- What the order needs of a state, besides its cover. -/
def Consistent (s : Server) : Prop :=
  TasksAgree s ∧ ∃ opening, s.db.Balanced opening

section

variable {s s' : Server} {db db' : Db} {accountId orderId : Uuid} {symbol : String}
  {side : OrderSide} {env : Surroundings} {body : PlaceOrderRequest} {o : OrderRecord}
  {opening : Uuid → String → Decimal}

/-! ### Placing -/

lemma unfilledOn_placed (env : Surroundings) (a orderId : Uuid) (body : PlaceOrderRequest)
    (q : Decimal) (p : Option Decimal) :
    (db.placed env a orderId body q p).unfilledOn accountId symbol side =
      db.unfilledOn accountId symbol side +
        if a = accountId ∧ body.symbol = symbol ∧ body.side = side then q else 0 := by
  have horders : (db.placed env a orderId body q p).orders = db.orders ++
      [newOrder orderId a orderId.simple body.symbol body.side body.orderType q p
        (db.exchangeMode a)] := rfl
  simp [Db.unfilledOn, horders, OrderRecord.unfilledOn, OrderRecord.unfilled, newOrder,
    OrderStatus.isTerminal]

lemma signedOpen_placed (env : Surroundings) (a orderId : Uuid) (body : PlaceOrderRequest)
    (q : Decimal) (p : Option Decimal) :
    (db.placed env a orderId body q p).signedOpen accountId symbol =
      db.signedOpen accountId symbol := rfl

/-- What an approved placement leaves. -/
lemma placed_of_isOk (h : (placeOrder env accountId orderId body db).1.isOk = true) :
    ∃ q p, Numeric.store 30 10 body.quantity = some q ∧ 0 < q ∧
      ApprovesOrder env accountId body db ∧
      (placeOrder env accountId orderId body db).2 = db.placed env accountId orderId body q p := by
  obtain ⟨hvalid, account, cfg, haccount, hcfg, happroved, q, p, hq, -, hpos, -, hdb⟩ :=
    of_placeOrder_isOk h
  refine ⟨q, p, hq, hpos, ?_, hdb⟩
  simp [ApprovesOrder, evaluated, hvalid, haccount, hcfg, happroved]

/-- A request that reduces a position is covered by it alone. -/
lemma covers_of_reduces (hv : PositionsValid db.positions) {account : AccountRow} {q : Decimal}
    (hreduces : reducesExistingPosition (coreIntent body (priceEstimate env body))
      (db.snapshot accountId account env.snapshotDay) = true)
    (hq : Numeric.store 30 10 body.quantity = some q) (hpos : 0 < q) :
    q + body.side.signed (db.signedOpen accountId body.symbol) ≤ 0 := by
  obtain ⟨row, hrow, hopposes, hle⟩ := of_reducesExistingPosition hreduces
  obtain ⟨hmem, ha, hs, hopen⟩ := Db.mem_openOn.mp hrow
  have hsigned : db.signedOpen accountId body.symbol = row.signed := by
    rcases hv.openOn_cases accountId body.symbol with hnone | ⟨row', -, hsingle⟩
    · exact absurd hrow (by rw [show (coreIntent body _).symbol = body.symbol from rfl, hnone]; simp)
    · have hsame : row ∈ db.openOn accountId body.symbol := hrow
      rw [hsingle, List.mem_singleton] at hsame
      rw [hsame, Db.signedOpen_of_singleton hsingle]
  have hquantity : q ≤ row.quantity := by
    rw [Numeric.eq_roundTo_of_store hq] at hpos ⊢
    exact Numeric.roundTo_le_of_isScaled (Numeric.pos_of_roundTo_pos hpos).le
      (hv.fits row hmem).1.1 hle
  have hopposite : body.side.signed row.signed = -row.quantity := by
    unfold PositionRecord.signed
    change opposes body.side.tradeSide row.side = true at hopposes
    cases hside : body.side <;> cases hrowside : row.side <;> rw [hside, hrowside] at hopposes <;>
      first | rfl | cases hopposes
  rw [hsigned, hopposite]
  linarith

/-! ### Steps -/

lemma Consistent.step {a : Action} (h : Consistent s) (hok : WorkersTrade a)
    (hstep : ServerStep s a s') : Consistent s' := by
  obtain ⟨htasks, opening, hbalanced⟩ := h
  have hsound (i : ℕ) (supervisor : Supervisor) (ha : a = .advance i supervisor) :
      supervisor.Sound := by
    subst ha
    exact Supervisor.Trades.sound hok
  exact ⟨htasks.step hsound hstep, opening, hstep.balanced htasks hbalanced⟩

lemma consistent_of_reachable
    (h : (server Unfilled).Reachable (fun _ a => WorkersTrade a) s) : Consistent s := by
  have hinit (s : Server) (hs : Unfilled s) : Consistent s := by
    refine ⟨fun t ht => ?_, _, hs.balanced⟩
    rw [hs.tasks] at ht
    cases ht
  have hkeep (s : Server) (a : Action) (s' : Server) (hs : Consistent s) (hok : WorkersTrade a)
      (hstep : (server Unfilled).step s a = some s') : Consistent s' :=
    hs.step hok (serverStep_of_step hstep)
  exact h.invariant hinit hkeep

/-- Only orders and positions matter. -/
lemma Db.FillsCovered.congr (h : db.FillsCovered accountId orderId symbol side)
    (horders : db'.orders = db.orders) (hpositions : db'.positions = db.positions) :
    db'.FillsCovered accountId orderId symbol side := by
  obtain ⟨o, ho, hacc, hid, hsymbol, hside, hcovers⟩ := h
  refine ⟨o, horders ▸ ho, hacc, hid, hsymbol, hside, hcovers.imp_right fun hcovers => ?_⟩
  rwa [Db.Covers, unfilledOn_congr horders, signedOpen_congr hpositions]

/-- A fitting order leaves the cover. -/
lemma Db.FillsCovered.placed (h : db.FillsCovered accountId orderId symbol side)
    (hb : db.Balanced opening) {a newId : Uuid} {q : Decimal} {p : Option Decimal}
    (hfits : a = accountId → FitsPosition a symbol side db env body)
    (happroves : ApprovesOrder env a body db)
    (hq : Numeric.store 30 10 body.quantity = some q) :
    (db.placed env a newId body q p).FillsCovered accountId orderId symbol side := by
  obtain ⟨o, ho, hacc, hid, hsymbol, hside, hcovers⟩ := h
  refine ⟨o, List.mem_append_left _ ho, hacc, hid, hsymbol, hside, ?_⟩
  refine hcovers.elim .inl fun hcovers => ?_
  unfold Db.Covers at hcovers ⊢
  rw [unfilledOn_placed, signedOpen_placed]
  by_cases hsame : a = accountId ∧ body.symbol = symbol ∧ body.side = side
  · rw [if_pos hsame]
    by_cases hnone : db.unfilledOn accountId symbol side = 0
    · -- the order itself has nothing left then
      have hle := hb.unfilled_le ho
      rw [hacc, hsymbol, hside, hnone] at hle
      exact .inl hle
    · obtain ⟨rfl, hbsymbol, hbside⟩ := hsame
      rw [Numeric.eq_roundTo_of_store hq]
      exact .inr (hfits rfl happroves hbsymbol hbside hnone)
  · rw [if_neg hsame, add_zero]
    exact .inr hcovers

lemma Db.FillsCovered.step {a : Action} (hs : Consistent s)
    (h : s.db.FillsCovered accountId orderId symbol side)
    (hok : OrdersFitPosition accountId symbol side s a) (hstep : ServerStep s a s') :
    s'.db.FillsCovered accountId orderId symbol side := by
  obtain ⟨htasks, opening, hbalanced⟩ := hs
  cases hstep with
  | tick | enqueueCancel | claim | crash => exact h.congr rfl rfl
  | advance htask hworker =>
    obtain ⟨o, ho, hacc, hid, hsymbol, hside, hcovers⟩ := h
    have htraded := hworker.traded (htasks _ (List.mem_of_getElem? htask)) hbalanced
    obtain ⟨o', ho', hterms, hle⟩ := htraded.unfilled_le hbalanced ho
    rw [hterms] at ho' hle
    refine ⟨_, ho', hacc, hid, hsymbol, hside, ?_⟩
    rcases hcovers with hnone | hcovers
    · exact .inl (hle.trans hnone)
    · exact .inr (htraded.covers hbalanced hcovers)
  | @request env a r db' hrequest =>
    cases hrequest with
    | audited | riskState | configured => exact h.congr rfl rfl
    | @placed newId body q p happroved hq hp hpos hid hclient =>
      have happroves : ApprovesOrder env a body s.db := by
        rw [ApprovesOrder, happroved]
        rfl
      exact h.placed hbalanced hok happroves hq

/-- A fill that is covered reduces the position. -/
lemma reduces_of_covered {x q left : Decimal} (hpos : 0 < q) (hle : q ≤ left)
    (hcovers : left + side.signed x ≤ 0) : Reduces x (x + side.signed q) := by
  have hcovered : q + side.signed x ≤ 0 := by linarith
  by_cases hclosed : x + side.signed q = 0
  · exact .inl hclosed
  · cases side with
    | buy =>
      change q + x ≤ 0 at hcovered
      change x + q ≠ 0 at hclosed
      have hafter : x + q < 0 := lt_of_le_of_ne (by linarith) hclosed
      have hbefore : x < 0 := by linarith
      refine .inr ⟨mul_pos_of_neg_of_neg hbefore hafter, ?_⟩
      rw [abs_of_neg hbefore]
      change |x + q| ≤ -x
      rw [abs_of_neg hafter]
      linarith
    | sell =>
      change q + -x ≤ 0 at hcovered
      change x + -q ≠ 0 at hclosed
      have hafter : 0 < x + -q := lt_of_le_of_ne (by linarith) (Ne.symm hclosed)
      have hbefore : 0 < x := by linarith
      refine .inr ⟨mul_pos hbefore hafter, ?_⟩
      rw [abs_of_pos hbefore]
      change |x + -q| ≤ x
      rw [abs_of_pos hafter]
      linarith

/-- The approved order is covered from the start. -/
lemma fillsCovered_of_approved (hs : Consistent s)
    (happroved : ApprovedAsReduction env accountId orderId body s.db)
    (hfits : FitsPosition accountId body.symbol body.side s.db env body) :
    (placeOrder env accountId orderId body s.db).2.FillsCovered accountId orderId body.symbol
      body.side := by
  obtain ⟨-, opening, hbalanced⟩ := hs
  obtain ⟨hok, account, -, hreduces⟩ := happroved
  obtain ⟨q, p, hq, hpos, happroves, hdb⟩ := placed_of_isOk hok
  rw [hdb]
  refine ⟨_, List.mem_append_right _ (List.mem_singleton_self _), rfl, rfl, rfl, rfl, .inr ?_⟩
  rw [Db.Covers, unfilledOn_placed, if_pos ⟨rfl, rfl, rfl⟩, signedOpen_placed]
  by_cases hnone : s.db.unfilledOn accountId body.symbol body.side = 0
  · rw [hnone, zero_add]
    exact covers_of_reduces hbalanced.positions hreduces hq hpos
  · rw [Numeric.eq_roundTo_of_store hq]
    exact hfits happroves rfl rfl hnone

/-- An order that was approved as a reduction only reduces the position when it is filled, in the
runs in which the orders on its side fit within the position. -/
theorem reducing_order_reduces {as : List Action} {b : Action} {s₁ s₂ s₃ : Server}
    (hreach : (server Unfilled).Reachable (fun _ a => WorkersTrade a) s₁)
    (happroved : ApprovedAsReduction env accountId orderId body s₁.db)
    (hrun : (server Unfilled).Run
      (fun s a => WorkersTrade a ∧ OrdersFitPosition accountId body.symbol body.side s a) s₁
      (.request env accountId (.placeOrder orderId body) :: as) s₂)
    (hok : WorkersTrade b) (hstep : (server Unfilled).step s₂ b = some s₃)
    (hfill : s₃.db.fillsOf accountId orderId ≠ s₂.db.fillsOf accountId orderId) :
    Reduces (s₂.db.signedOpen accountId body.symbol) (s₃.db.signedOpen accountId body.symbol) := by
  have hs₁ := consistent_of_reachable hreach
  cases hrun with
  | cons hplacing hplaced hrun =>
    have hs := hs₁.step hplacing.1 (serverStep_of_step hplaced)
    obtain rfl := Option.some.inj hplaced
    have hcovered := fillsCovered_of_approved hs₁ happroved (hplacing.2 rfl)
    have hkeep (s : Server) (a : Action) (s' : Server)
        (h : Consistent s ∧ s.db.FillsCovered accountId orderId body.symbol body.side)
        (hok : WorkersTrade a ∧ OrdersFitPosition accountId body.symbol body.side s a)
        (hstep : (server Unfilled).step s a = some s') :
        Consistent s' ∧ s'.db.FillsCovered accountId orderId body.symbol body.side := by
      have hstep := serverStep_of_step hstep
      exact ⟨h.1.step hok.1 hstep, h.2.step h.1 hok.2 hstep⟩
    obtain ⟨⟨htasks, opening, hbalanced⟩, o, ho, -, hid, hsymbol, hside, hcovers⟩ :=
      hrun.preserves hkeep ⟨hs, hcovered⟩
    cases serverStep_of_step hstep with
    | tick | enqueueCancel | claim | crash => exact (hfill rfl).elim
    | request hrequest => cases hrequest <;> exact (hfill rfl).elim
    | advance htask hworker =>
      have htraded := hworker.traded (htasks _ (List.mem_of_getElem? htask)) hbalanced
      obtain ⟨o', ho', hacc', hid', q, hpos, hle, hopened⟩ := htraded.of_fillsOf_ne hfill
      obtain rfl := List.inj_on_of_nodup_map hbalanced.ids ho' ho (hid'.trans hid.symm)
      have hleft := hbalanced.unfilled_le ho'
      rw [hsymbol, hside] at hopened
      rw [hacc', hsymbol, hside] at hleft
      have hcovers := hcovers.resolve_left (not_le.mpr (hpos.trans_le hle))
      rw [hopened]
      exact reduces_of_covered hpos (hle.trans hleft) hcovers

end

/-! ### Two orders against one position -/

/-- A market order for so much, at the market of `quotedAt100`. -/
def marketOrder (side : OrderSide) (quantity : Decimal) : PlaceOrderRequest :=
  { buyTen with side, quantity }

def place (orderId : Uuid) (body : PlaceOrderRequest) : Action :=
  .request quotedAt100 ⟨1⟩ (.placeOrder orderId body)

/-- Three units are bought and filled. -/
def buyThree : List Action := place ⟨2⟩ (marketOrder .buy 3) :: (workOnce ++ workOnce)

/-- A worker is about to persist the fill of the oldest command's order. -/
def untilFill : List Action := [.claim 1 [], .advance 0 paperAt100, .advance 0 paperAt100]

/-- Placing a sell of two units is approved as a reduction. -/
def sellReduces (orderId : Uuid) (s : Server) : Bool :=
  (placeOrder quotedAt100 ⟨1⟩ orderId (marketOrder .sell 2) s.db).1.isOk &&
    (s.db.accountRow ⟨1⟩).any fun account =>
      reducesExistingPosition
        (coreIntent (marketOrder .sell 2) (priceEstimate quotedAt100 (marketOrder .sell 2)))
        (s.db.snapshot ⟨1⟩ account quotedAt100.snapshotDay)

/-- The worker's next step fills the order. -/
def fillsNext (orderId : Uuid) (s : Server) : Bool :=
  ((server Unfilled).step s (.advance 0 paperAt100)).any fun s' =>
    decide (s'.db.fillsOf ⟨1⟩ orderId ≠ s.db.fillsOf ⟨1⟩ orderId)

lemma approvedAsReduction_of_sellReduces {orderId : Uuid} {s : Server}
    (h : sellReduces orderId s = true) :
    ApprovedAsReduction quotedAt100 ⟨1⟩ orderId (marketOrder .sell 2) s.db := by
  rw [sellReduces, Bool.and_eq_true, Option.any_eq_true] at h
  obtain ⟨hok, account, haccount, hreduces⟩ := h
  exact ⟨hok, account, haccount, hreduces⟩

lemma unfilled_capOne : Unfilled capOne where
  ids := List.nodup_nil
  clients := by simp [capOne, Db.empty]
  quantities := by simp [capOne, Db.empty]
  positions := ⟨List.nodup_nil, by simp [capOne, Db.empty], by simp [capOne, Db.empty],
    by simp [capOne, Db.empty]⟩
  fills := rfl
  tasks := rfl

lemma trades_of_isPaper {supervisor : Supervisor} (h : supervisor.IsPaper) : supervisor.Trades := by
  obtain ⟨md, now, rfl⟩ := h
  exact ⟨fun adapter hadapter => ⟨md, now, (Option.some.inj hadapter).symm⟩,
    fun adapter hadapter => (nomatch hadapter)⟩

lemma workersTrade_of_tradesOnPaper {a : Action} (h : TradesOnPaper a) : WorkersTrade a := by
  cases a with
  | advance i supervisor => exact trades_of_isPaper h
  | _ => trivial

lemma tradesOnPaper_buyThree : ∀ a ∈ buyThree, TradesOnPaper a := by
  rw [buyThree, List.forall_mem_cons, List.forall_mem_append]
  exact ⟨trivial, tradesOnPaper_workOnce, tradesOnPaper_workOnce⟩

lemma tradesOnPaper_untilFill : ∀ a ∈ untilFill, TradesOnPaper a := by
  simp [untilFill, TradesOnPaper, Supervisor.IsPaper, paperAt100]

/-- Selling two of three units leaves one. -/
theorem reducing_order_reduces_sellTwo :
    ∃ s₁ s₂ s₃, (server Unfilled).Reachable (fun _ a => WorkersTrade a) s₁ ∧
      ApprovedAsReduction quotedAt100 ⟨1⟩ ⟨3⟩ (marketOrder .sell 2) s₁.db ∧
      (server Unfilled).Run
        (fun s a => WorkersTrade a ∧ OrdersFitPosition ⟨1⟩ "BTCUSDT" .sell s a) s₁
        (place ⟨3⟩ (marketOrder .sell 2) :: (workOnce ++ untilFill)) s₂ ∧
      (server Unfilled).step s₂ (.advance 0 paperAt100) = some s₃ ∧
      s₃.db.fillsOf ⟨1⟩ ⟨3⟩ ≠ s₂.db.fillsOf ⟨1⟩ ⟨3⟩ ∧
      Reduces (s₂.db.signedOpen ⟨1⟩ "BTCUSDT") (s₃.db.signedOpen ⟨1⟩ "BTCUSDT") := by
  have hexec : ((server Unfilled).exec (fun _ _ => True) capOne buyThree).any (fun s₁ =>
      sellReduces ⟨3⟩ s₁ &&
        ((server Unfilled).exec (OrdersFitPosition ⟨1⟩ "BTCUSDT" .sell) s₁
          (place ⟨3⟩ (marketOrder .sell 2) :: (workOnce ++ untilFill))).any (fillsNext ⟨3⟩)) =
        true := by
    decide +kernel
  obtain ⟨s₁, hrun₁, htest⟩ := Machine.exists_run_of_exec hexec
  rw [Bool.and_eq_true] at htest
  obtain ⟨s₂, hrun₂, hnext⟩ := Machine.exists_run_of_exec htest.2
  obtain ⟨s₃, hstep, hfills⟩ := Option.any_eq_true _ _ |>.mp hnext
  have hreach : (server Unfilled).Reachable (fun _ a => WorkersTrade a) s₁ :=
    ⟨capOne, _, unfilled_capOne, (hrun₁.of_actions tradesOnPaper_buyThree).mono
      fun _ _ h => workersTrade_of_tradesOnPaper h.1⟩
  have htrade : ∀ a ∈ place ⟨3⟩ (marketOrder .sell 2) :: (workOnce ++ untilFill),
      WorkersTrade a := by
    rw [List.forall_mem_cons, List.forall_mem_append]
    exact ⟨trivial, fun a ha => workersTrade_of_tradesOnPaper (tradesOnPaper_workOnce a ha),
      fun a ha => workersTrade_of_tradesOnPaper (tradesOnPaper_untilFill a ha)⟩
  have happroved := approvedAsReduction_of_sellReduces htest.1
  have hfill := of_decide_eq_true hfills
  have hpaper : WorkersTrade (.advance 0 paperAt100) := trades_of_isPaper ⟨_, _, rfl⟩
  exact ⟨s₁, s₂, s₃, hreach, happroved, hrun₂.of_actions htrade, hstep, hfill,
    reducing_order_reduces hreach happroved (hrun₂.of_actions htrade) hpaper hstep hfill⟩

/-- Two sells of two units, both approved against three, leave the account short. -/
theorem reducing_order_flips :
    ¬ ∀ (env : Surroundings) (accountId orderId : Uuid) (body : PlaceOrderRequest)
      (as : List Action) (b : Action) (s₁ s₂ s₃ : Server),
      (server Unfilled).Reachable (fun _ a => TradesOnPaper a) s₁ →
      ApprovedAsReduction env accountId orderId body s₁.db →
      (server Unfilled).Run (fun _ a => TradesOnPaper a) s₁
        (.request env accountId (.placeOrder orderId body) :: as) s₂ →
      TradesOnPaper b → (server Unfilled).step s₂ b = some s₃ →
      s₃.db.fillsOf accountId orderId ≠ s₂.db.fillsOf accountId orderId →
      Reduces (s₂.db.signedOpen accountId body.symbol) (s₃.db.signedOpen accountId body.symbol) := by
  intro h
  have hexec : ((server Unfilled).exec (fun _ _ => True) capOne
      (buyThree ++ [place ⟨3⟩ (marketOrder .sell 2)])).any (fun s₁ =>
        sellReduces ⟨4⟩ s₁ &&
          ((server Unfilled).exec (fun _ _ => True) s₁ (place ⟨4⟩ (marketOrder .sell 2) ::
            (workOnce ++ (workOnce ++ (workOnce ++ untilFill))))).any fun s₂ =>
              ((server Unfilled).step s₂ (.advance 0 paperAt100)).any fun s₃ =>
                decide (s₃.db.fillsOf ⟨1⟩ ⟨4⟩ ≠ s₂.db.fillsOf ⟨1⟩ ⟨4⟩) &&
                  decide (s₃.db.signedOpen ⟨1⟩ "BTCUSDT" = -1) &&
                  decide (s₂.db.signedOpen ⟨1⟩ "BTCUSDT" = 1)) = true := by
    decide +kernel
  obtain ⟨s₁, hrun₁, htest⟩ := Machine.exists_run_of_exec hexec
  rw [Bool.and_eq_true] at htest
  obtain ⟨s₂, hrun₂, hnext⟩ := Machine.exists_run_of_exec htest.2
  obtain ⟨s₃, hstep, hfinal⟩ := Option.any_eq_true _ _ |>.mp hnext
  simp only [Bool.and_eq_true, decide_eq_true_eq] at hfinal
  obtain ⟨⟨hfill, hshort⟩, hlong⟩ := hfinal
  have hpaper₁ : ∀ a ∈ buyThree ++ [place ⟨3⟩ (marketOrder .sell 2)], TradesOnPaper a := by
    rw [List.forall_mem_append]
    exact ⟨tradesOnPaper_buyThree, by simp [place, TradesOnPaper]⟩
  have hpaper₂ : ∀ a ∈ place ⟨4⟩ (marketOrder .sell 2) ::
      (workOnce ++ (workOnce ++ (workOnce ++ untilFill))), TradesOnPaper a := by
    rw [List.forall_mem_cons, List.forall_mem_append, List.forall_mem_append,
      List.forall_mem_append]
    exact ⟨trivial, tradesOnPaper_workOnce, tradesOnPaper_workOnce, tradesOnPaper_workOnce,
      tradesOnPaper_untilFill⟩
  have hreduces := h quotedAt100 ⟨1⟩ ⟨4⟩ (marketOrder .sell 2) _ (.advance 0 paperAt100) s₁ s₂ s₃
    ⟨capOne, _, unfilled_capOne, (hrun₁.of_actions hpaper₁).mono fun _ _ h => h.1⟩
    (approvedAsReduction_of_sellReduces htest.1) ((hrun₂.of_actions hpaper₂).mono fun _ _ h => h.1)
    ⟨_, _, rfl⟩ hstep hfill
  change Reduces (s₂.db.signedOpen ⟨1⟩ "BTCUSDT") (s₃.db.signedOpen ⟨1⟩ "BTCUSDT") at hreduces
  rw [hshort, hlong, Reduces] at hreduces
  revert hreduces
  decide +kernel

end Confluence
