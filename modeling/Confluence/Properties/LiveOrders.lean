import Confluence.Exchange.VenueOrder
import Confluence.Properties.RecordedFills

/-!
# A live order and the venue

One live order is polled and cancelled by any number of dispatches while it goes its way at the
venue. The local order follows the venue, as long as no poll finds it cancelled or expired before a
cancellation has been requested, and none finds it untraded after that.
-/

namespace Confluence

open Program

/-! ### Dispatches and the venue -/

/-- A dispatch under way or over, with the venue's order as it was when the adapter polled it. -/
structure LiveDispatch where
  cmd : ClaimedCommand
  stage : Stage
  polled : Option VenueOrder

/-- A dispatch is over with its outcome. -/
def LiveDispatch.isOver (d : LiveDispatch) : Bool :=
  match d.stage with
  | .dispatched _ => true
  | _ => false

/-- Only a reconciliation polls, with the call of the adapter. -/
def LiveDispatch.polledBy (d : LiveDispatch) (v : VenueOrder) : Option VenueOrder :=
  match d.cmd.commandType, d.stage with
  | .reconcileOrder, .hydrated _ _ => some v
  | _, _ => d.polled

/-- The database, the order at the venue, and the dispatches of the order by their numbers. -/
structure LiveTrading where
  db : Db
  venue : VenueOrder
  dispatches : ℕ → Option LiveDispatch

inductive LiveAction
  | venue (next : VenueOrder)
  | begin (n : ℕ) (cmd : ClaimedCommand)
  | work (n : ℕ) (parse : String → Option Decimal) (resp : Json)

/-- Live trading with this answer of the venue. -/
def answeredBy (parse : String → Option Decimal) (resp : Json) : Supervisor where
  paperAdapter := none
  liveAdapter := some (binanceAdapter parse (.ok resp))

/-- A command to cancel or reconcile the live order. -/
def ClaimedCommand.AsksFor (cmd : ClaimedCommand) (accountId orderId : Uuid) : Prop :=
  cmd.accountId = accountId ∧ extractOrderId cmd = some orderId ∧ cmd.exchangeMode = .live ∧
    (cmd.commandType = .cancelOrder ∨ cmd.commandType = .reconcileOrder)

instance (cmd : ClaimedCommand) (accountId orderId : Uuid) :
    Decidable (cmd.AsksFor accountId orderId) :=
  inferInstanceAs (Decidable (_ ∧ _ ∧ _ ∧ _))

section

variable (accountId orderId : Uuid) (quantity : Decimal)

/-- The next step of a dispatch. An adapter that is called gets an answer about the order as it
is. -/
def LiveTrading.work (s : LiveTrading) (n : ℕ) (parse : String → Option Decimal) (resp : Json)
    (d : LiveDispatch) : Option LiveTrading :=
  if d.isOver = false ∧ s.venue.Reported parse resp then
    (advance (answeredBy parse resp) d.cmd d.stage s.db).bind fun next =>
      next.1.map fun stage =>
        { s with
          db := next.2
          dispatches := Function.update s.dispatches n
            (some ⟨d.cmd, stage, d.polledBy s.venue⟩) }
  else none

def LiveTrading.step (s : LiveTrading) : LiveAction → Option LiveTrading
  | .venue next =>
    if VenueOrder.Moves quantity s.venue next then some { s with venue := next } else none
  | .begin n cmd =>
    if (s.dispatches n).isNone ∧ cmd.AsksFor accountId orderId then
      some { s with dispatches := Function.update s.dispatches n (some ⟨cmd, .claimed, none⟩) }
    else none
  | .work n parse resp => (s.dispatches n).bind (s.work n parse resp)

/-- A submitted live order that has not traded, in tables that agree, and no dispatch yet. -/
structure LiveTrading.Starts (s : LiveTrading) : Prop where
  tables : ∃ opening, s.db.Balanced opening
  order : ∃ o, s.db.order? accountId orderId = some o ∧ o.exchangeMode = .live ∧
    o.status = .submitted ∧ o.quantity = quantity ∧ o.filledQuantity = 0
  venue : s.venue = ⟨.new, 0⟩
  dispatches : ∀ n, s.dispatches n = none

def liveTrading : Machine LiveTrading LiveAction where
  init := LiveTrading.Starts accountId orderId quantity
  step := LiveTrading.step accountId orderId quantity

/-- A reconciliation that is about to poll can follow the answer. -/
def LiveDispatch.CanFollow (d : LiveDispatch) (v : VenueOrder) : Prop :=
  match d.cmd.commandType, d.stage with
  | .reconcileOrder, .hydrated _ snapshot => v.Answerable snapshot.order.status
  | _, _ => True

instance (d : LiveDispatch) (v : VenueOrder) : Decidable (d.CanFollow v) := by
  unfold LiveDispatch.CanFollow
  split <;> infer_instance

/-- The venue trades quantities that the columns keep, and is polled only when the answer can be
followed. -/
def PollsAnswerable (s : LiveTrading) : LiveAction → Prop
  | .venue next => Numeric.IsScaled 10 next.executed
  | .begin _ _ => True
  | .work n _ _ => ∀ d ∈ s.dispatches n, d.CanFollow s.venue

instance (s : LiveTrading) : ∀ a, Decidable (PollsAnswerable s a)
  | .venue next => inferInstanceAs (Decidable (Numeric.IsScaled 10 next.executed))
  | .begin _ _ => inferInstanceAs (Decidable True)
  | .work n _ _ => inferInstanceAs (Decidable (∀ d ∈ s.dispatches n, d.CanFollow s.venue))

/-- The order is closed with what the venue has executed. -/
def LiveTrading.Closed (s : LiveTrading) : Prop :=
  ∃ o, s.db.order? accountId orderId = some o ∧ o.status.isTerminal = true ∧
    o.filledQuantity = s.venue.executed

/-- No dispatch is escalated, and once one has processed a final answer, the order is closed. -/
def LiveTrading.FollowsVenue (s : LiveTrading) : Prop :=
  ∀ n d outcome, s.dispatches n = some d → d.stage = .dispatched outcome →
    outcome ≠ .error .reconciliationRequired ∧
      (outcome = .ok () → ∀ v ∈ d.polled, v.status.isFinal = true → s.Closed accountId orderId)

/-- What a dispatch knows of the order at its stage. -/
def LiveDispatch.Tracks (s : LiveTrading) (d : LiveDispatch) : Prop :=
  match d.stage with
  | .claimed => d.polled = none
  | .hydrated i snapshot => d.polled = none ∧ i = orderId ∧
    SnapshotOf s.db accountId orderId snapshot ∧
    s.venue.FollowedBy snapshot.order.status snapshot.filled
  | .accepted i => d.polled = none ∧ i = orderId ∧ d.cmd.commandType = .cancelOrder
  | .reconciled i snapshot result => i = orderId ∧ SnapshotOf s.db accountId orderId snapshot ∧
    AdapterResult snapshot result ∧ ∃ v, d.polled = some v ∧ v.executed ≤ quantity ∧
      Numeric.IsScaled 10 v.executed ∧
      Relation.ReflTransGen (VenueOrder.Moves quantity) v s.venue ∧
      v.FollowedBy snapshot.order.status snapshot.filled ∧
      v.Answerable snapshot.order.status ∧ v.Reconciles snapshot result
  | .dispatched outcome => outcome ≠ .error .reconciliationRequired ∧
    (outcome = .ok () → ∀ v ∈ d.polled, v.status.isFinal = true → s.Closed accountId orderId)
  | .rejecting _ | .auditing _ => False

/-- The local order follows the venue, and so do the dispatches. -/
structure LiveTrading.Tracking (opening : Uuid → String → Decimal) (s : LiveTrading) : Prop where
  balanced : s.db.Balanced opening
  limit : s.venue.executed ≤ quantity
  scaled : Numeric.IsScaled 10 s.venue.executed
  order : ∃ o, s.db.order? accountId orderId = some o ∧
    s.venue.FollowedBy o.status o.filledQuantity
  dispatch : ∀ n d, s.dispatches n = some d →
    d.cmd.AsksFor accountId orderId ∧ d.Tracks accountId orderId quantity s

end

section

variable {accountId orderId : Uuid} {quantity : Decimal} {opening : Uuid → String → Decimal}
  {s s' : LiveTrading} {d : LiveDispatch} {n : ℕ} {parse : String → Option Decimal} {resp : Json}

lemma LiveTrading.of_work (h : s.work n parse resp d = some s') :
    d.isOver = false ∧ s.venue.Reported parse resp ∧ ∃ stage db',
      advance (answeredBy parse resp) d.cmd d.stage s.db = some (some stage, db') ∧
      s' = { s with
        db := db'
        dispatches := Function.update s.dispatches n
          (some ⟨d.cmd, stage, d.polledBy s.venue⟩) } := by
  unfold LiveTrading.work at h
  split_ifs at h with hstart
  obtain ⟨⟨next, db'⟩, hadvance, h⟩ := Option.bind_eq_some_iff.mp h
  obtain ⟨stage, rfl, rfl⟩ := Option.map_eq_some_iff.mp h
  exact ⟨hstart.1, hstart.2, stage, db', hadvance, rfl⟩

/-- What a dispatch knows stays true while the venue goes on and tables grow. -/
lemma LiveDispatch.Tracks.mono (h : d.Tracks accountId orderId quantity s)
    (hdb : s.db.Extends s'.db) (hlimit : s.venue.executed ≤ quantity)
    (hvenue : Relation.ReflTransGen (VenueOrder.Moves quantity) s.venue s'.venue)
    (hclosed : s.Closed accountId orderId → s'.Closed accountId orderId) :
    d.Tracks accountId orderId quantity s' := by
  unfold LiveDispatch.Tracks at h ⊢
  cases hstage : d.stage with
  | claimed =>
    rw [hstage] at h
    exact h
  | hydrated i snapshot =>
    rw [hstage] at h
    obtain ⟨hpolled, hi, hsnapshot, hfollows⟩ := h
    exact ⟨hpolled, hi, hsnapshot.extends hdb, hfollows.reaches hvenue hlimit⟩
  | accepted i =>
    rw [hstage] at h
    exact h
  | reconciled i snapshot result =>
    rw [hstage] at h
    obtain ⟨hi, hsnapshot, hresult, v, hpolled, hv, hscaled, hreach, hrest⟩ := h
    exact ⟨hi, hsnapshot.extends hdb, hresult, v, hpolled, hv, hscaled, hreach.trans hvenue, hrest⟩
  | dispatched outcome =>
    rw [hstage] at h
    exact ⟨h.1, fun hok v hv hfinal => hclosed (h.2 hok v hv hfinal)⟩
  | rejecting i =>
    rw [hstage] at h
    exact h
  | auditing reason =>
    rw [hstage] at h
    exact h

namespace LiveTrading.Tracking

variable (h : s.Tracking accountId orderId quantity opening)
include h

/-- A closed order is final at the venue. -/
lemma isFinal_of_closed (hclosed : s.Closed accountId orderId) : s.venue.status.isFinal = true := by
  obtain ⟨o, ho, hfollows⟩ := h.order
  obtain ⟨o', ho', hterminal, -⟩ := hclosed
  obtain rfl := Option.some.inj (ho.symm.trans ho')
  exact hfollows.isFinal hterminal

lemma venueMoves {next : VenueOrder} (hmoves : VenueOrder.Moves quantity s.venue next)
    (hscaled : Numeric.IsScaled 10 next.executed) :
    Tracking accountId orderId quantity opening { s with venue := next } where
  balanced := h.balanced
  limit := (hmoves.executed_le h.limit).2
  scaled := hscaled
  order := by
    obtain ⟨o, ho, hfollows⟩ := h.order
    exact ⟨o, ho, hfollows.moves hmoves h.limit⟩
  dispatch m e he := by
    obtain ⟨hasks, htracks⟩ := h.dispatch m e he
    refine ⟨hasks, htracks.mono (.of_same rfl rfl) h.limit (.single hmoves) fun hclosed => ?_⟩
    have hfinal := h.isFinal_of_closed hclosed
    rw [hmoves.1] at hfinal
    cases hfinal

lemma begins {cmd : ClaimedCommand} (hasks : cmd.AsksFor accountId orderId) :
    Tracking accountId orderId quantity opening { s with
      dispatches := Function.update s.dispatches n (some ⟨cmd, .claimed, none⟩) } where
  balanced := h.balanced
  limit := h.limit
  scaled := h.scaled
  order := h.order
  dispatch m e he := by
    simp only [Function.update_apply] at he
    split_ifs at he with hm
    · obtain rfl := Option.some.inj he
      exact ⟨hasks, rfl⟩
    · obtain ⟨hasks, htracks⟩ := h.dispatch m e he
      exact ⟨hasks, htracks.mono (.of_same rfl rfl) h.limit .refl id⟩

/-- A dispatch has taken a step. -/
lemma moved {db' : Db} {d' : LiveDispatch} (hdb : s.db.Extends db')
    (hbalanced : db'.Balanced opening)
    (horder : ∃ o, db'.order? accountId orderId = some o ∧
      s.venue.FollowedBy o.status o.filledQuantity)
    (hclosed : s.Closed accountId orderId → Closed accountId orderId { s with db := db' })
    (hasks : d'.cmd.AsksFor accountId orderId)
    (htracks : d'.Tracks accountId orderId quantity { s with db := db' }) :
    Tracking accountId orderId quantity opening
      { s with db := db', dispatches := Function.update s.dispatches n (some d') } where
  balanced := hbalanced
  limit := h.limit
  scaled := h.scaled
  order := horder
  dispatch m e he := by
    simp only [Function.update_apply] at he
    split_ifs at he with hm
    · obtain rfl := Option.some.inj he
      exact ⟨hasks, htracks.mono (.of_same rfl rfl) h.limit .refl id⟩
    · obtain ⟨hasks, htracks⟩ := h.dispatch m e he
      exact ⟨hasks, htracks.mono hdb h.limit .refl hclosed⟩

/-- A dispatch has taken a step that leaves the tables. -/
lemma moved_same {d' : LiveDispatch} (hasks : d'.cmd.AsksFor accountId orderId)
    (htracks : d'.Tracks accountId orderId quantity s) :
    Tracking accountId orderId quantity opening
      { s with dispatches := Function.update s.dispatches n (some d') } :=
  h.moved (.of_same rfl rfl) h.balanced h.order id hasks htracks

/-- What a dispatch leaves of the order follows the venue. -/
lemma dispatched {db' : Db} {d' : LiveDispatch} {outcome : Except DispatchOutcome Unit}
    (hdb : s.db.Extends db') (hbalanced : db'.Balanced opening)
    (horder : ∃ o o', s.db.order? accountId orderId = some o ∧
      db'.order? accountId orderId = some o' ∧
      s.venue.FollowedBy o'.status o'.filledQuantity ∧
      (o.status.isTerminal = true → o'.status.isTerminal = true) ∧
      ∀ v ∈ d'.polled, v.status.isFinal = true → outcome = .ok () → o'.status.isTerminal = true)
    (hasks : d'.cmd.AsksFor accountId orderId) (hstage : d'.stage = .dispatched outcome)
    (houtcome : outcome ≠ .error .reconciliationRequired) :
    Tracking accountId orderId quantity opening
      { s with db := db', dispatches := Function.update s.dispatches n (some d') } := by
  obtain ⟨o, o', ho, ho', hfollows, hterminal, hfinal⟩ := horder
  have hclosed (hclosed : o'.status.isTerminal = true) :
      Closed accountId orderId { s with db := db' } :=
    ⟨o', ho', hclosed, (hfollows.closed hclosed).2⟩
  refine h.moved hdb hbalanced ⟨o', ho', hfollows⟩ (fun hbefore => ?_) hasks ?_
  · obtain ⟨p, hp, hpterminal, -⟩ := hbefore
    obtain rfl := Option.some.inj (ho.symm.trans hp)
    exact hclosed (hterminal hpterminal)
  · unfold LiveDispatch.Tracks
    rw [hstage]
    exact ⟨houtcome, fun hok v hv hf => hclosed (hfinal v hv hf hok)⟩

/-- Persisting the result of a poll takes the order as far as the venue had come. -/
lemma persists {o : OrderRecord} {snapshot : ReconcileSnapshot} {result : ReconcileResult}
    {v : VenueOrder} {db' : Db} (ho : s.db.order? accountId orderId = some o)
    (hfilled : o.filledQuantity = snapshot.filled) (hstatus : o.status = snapshot.order.status)
    (hscaled : Numeric.IsScaled 10 v.executed) (hv : v.executed ≤ quantity)
    (hreach : Relation.ReflTransGen (VenueOrder.Moves quantity) v s.venue)
    (hreconciles : v.Reconciles snapshot result) (hpersisted : Persisted s.db o result db') :
    ∃ o', db'.order? accountId orderId = some o' ∧
      s.venue.FollowedBy o'.status o'.filledQuantity ∧
      (o.status.isTerminal = true → o'.status.isTerminal = true) ∧
      (v.status.isFinal = true → o'.status.isTerminal = true) := by
  obtain ⟨o₁, ho₁, hfollows⟩ := h.order
  obtain rfl := Option.some.inj (ho.symm.trans ho₁)
  obtain ⟨hmem, hid, hacc⟩ := Db.mem_of_order? ho
  -- a new status is the venue's, and comes with what the venue had executed
  have hmoves {status : OrderStatus} {q : Decimal}
      (hlegal : OrderStateMachine.legal o.status status = true)
      (hnew : status = v.status.orderStatus) (hq : q = v.executed) :
      s.venue.FollowedBy status q ∧ (o.status.isTerminal = true → status.isTerminal = true) ∧
        (v.status.isFinal = true → status.isTerminal = true) := by
    subst hnew hq
    have hne : v.status ≠ .new := VenueOrder.ne_new_of_legal hfollows.submitted hlegal
    refine ⟨(VenueOrder.followedBy_orderStatus hne).reaches hreach hv, fun hterminal => ?_,
      fun hfinal => by rw [VenueStatus.isTerminal_orderStatus, hfinal]⟩
    rw [OrderStateMachine.not_legal_of_isTerminal hterminal] at hlegal
    cases hlegal
  unfold VenueOrder.Reconciles at hreconciles
  cases hpersisted with
  | unchanged =>
    refine ⟨o, ho, hfollows, id, fun hfinal => ?_⟩
    split_ifs at hreconciles with hsame
    · rcases hsame with hterminal | hsame
      · rw [hstatus, hterminal]
      · rw [hstatus, ← hsame, VenueStatus.isTerminal_orderStatus, hfinal]
    · cases hreconciles.1
  | @moved status events q riskEvents hlegal hq =>
    split_ifs at hreconciles with hsame
    · cases hreconciles
    · obtain ⟨hnew, hsum⟩ := hreconciles
      obtain rfl := Numeric.eq_of_store (h.balanced.isScaled_filled hmem) hq
      have hexecuted : o.filledQuantity = v.executed := by
        rw [List.map_nil, List.sum_nil] at hsum
        linarith
      refine ⟨{ o with status }, ?_, hmoves hlegal (Option.some.inj hnew) hexecuted⟩
      rw [← hacc, ← hid] at ho ⊢
      exact order?_withStatus_self ho status o.filledQuantity
  | @filled status fill stored events q positions riskEvents hlegal hnew hid' hstored hpos hdelta
      hq =>
    split_ifs at hreconciles with hsame
    · cases hreconciles
    · obtain ⟨hnew, hsum⟩ := hreconciles
      have hexecuted : o.filledQuantity + fill.quantity = v.executed := by
        rw [List.map_cons, List.map_nil, List.sum_cons, List.sum_nil] at hsum
        linarith
      rw [hexecuted] at hq
      obtain rfl := Numeric.eq_of_store hscaled hq
      refine ⟨{ o with status, filledQuantity := v.executed }, ?_,
        hmoves hlegal (Option.some.inj hnew) rfl⟩
      rw [← hacc, ← hid] at ho ⊢
      exact order?_withStatus_self ho status v.executed

/-- A cancellation that the adapter has accepted. -/
lemma cancels {cmd : ClaimedCommand} {db' : Db} {u : Unit} (hacc : cmd.accountId = accountId)
    (hcommit : postgres.Commits (cancelTx cmd orderId) s.db u db') :
    ∃ o o', s.db.order? accountId orderId = some o ∧ db'.order? accountId orderId = some o' ∧
      s.venue.FollowedBy o'.status o'.filledQuantity ∧
      (o.status.isTerminal = true → o'.status.isTerminal = true) := by
  obtain ⟨o, db₁, ho, hmove, hdb⟩ := of_commits_cancelTx hcommit
  rw [hacc] at ho
  obtain ⟨o₁, ho₁, hfollows⟩ := h.order
  obtain rfl := Option.some.inj (ho.symm.trans ho₁)
  obtain ⟨hmem, hid, haccount⟩ := Db.mem_of_order? ho
  have horders : db'.order? accountId orderId = db₁.order? accountId orderId := by
    have hsame : db'.orders = db₁.orders := by
      rw [hdb]
      rfl
    rw [Db.order?, hsame]
    rfl
  unfold Db.MovedIfLegal at hmove
  split_ifs at hmove with hlegal
  · obtain ⟨q, hq, -, -, rfl⟩ := hmove
    obtain rfl := Numeric.eq_of_store (h.balanced.isScaled_filled hmem) hq
    refine ⟨o, { o with status := .cancelRequested }, ho, ?_, ?_, fun hterminal => ?_⟩
    · rw [horders, ← haccount, ← hid]
      rw [← haccount, ← hid] at ho
      exact order?_withStatus_self ho .cancelRequested o.filledQuantity
    · exact ⟨by simp, hfollows.behind, by simp, by simp [OrderStatus.isTerminal]⟩
    · rw [OrderStateMachine.not_legal_of_isTerminal hterminal] at hlegal
      cases hlegal
  · rw [hmove] at horders
    exact ⟨o, o, ho, horders.trans ho, hfollows, id⟩

lemma works (hd : s.dispatches n = some d) (hstep : s.work n parse resp d = some s')
    (hok : PollsAnswerable s (.work n parse resp)) :
    s'.Tracking accountId orderId quantity opening := by
  obtain ⟨hover, hreported, stage, db', hadvance, rfl⟩ := LiveTrading.of_work hstep
  obtain ⟨hasks, htracks⟩ := h.dispatch n d hd
  obtain ⟨hacc, horder, hmode, htype⟩ := hasks
  obtain ⟨o, ho, hfollows⟩ := h.order
  obtain ⟨hmem, hid, haccount⟩ := Db.mem_of_order? ho
  have hresolve : (answeredBy parse resp).resolve d.cmd.exchangeMode =
      some (binanceAdapter parse (.ok resp)) := by
    rw [hmode]
    rfl
  have hworker := workerStep_of_advance hadvance
  have hextends : s.db.Extends db' :=
    ⟨fun _ _ _ ho => hworker.movesOrder.order? ho, hworker.appendsFills⟩
  obtain ⟨cmd, before, polled⟩ := d
  simp only [LiveDispatch.Tracks] at *
  cases before with
  | claimed =>
    cases hworker with
    | noAdapter hnone =>
      rw [hresolve] at hnone
      cases hnone
    | notHydrated hadapter hmissing =>
      rcases hmissing orderId horder with ⟨name, hunknown⟩ | hnone
      · rw [hunknown] at htype
        simp at htype
      · rw [hacc, ho] at hnone
        cases hnone
    | @hydrated i o' hadapter hi hknown ho' =>
      obtain rfl := Option.some.inj (horder.symm.trans hi)
      rw [hacc] at ho'
      obtain rfl := Option.some.inj (ho.symm.trans ho')
      have hpolled : LiveDispatch.polledBy ⟨cmd, .claimed, polled⟩ s.venue = polled := by
        unfold LiveDispatch.polledBy
        split
        · rename_i hstage
          cases hstage
        · rfl
      rw [hpolled]
      refine h.moved_same ⟨hacc, horder, hmode, htype⟩ ⟨htracks, rfl, ⟨o, ho, rfl, ?_⟩, ?_⟩
      · rw [← hid, ← haccount]
        exact List.prefix_refl _
      · rw [filled_reconcileSnapshot h.balanced hmem]
        exact hfollows
  | hydrated i snapshot =>
    obtain ⟨hunpolled, rfl, hsnapshot, hbefore⟩ := htracks
    cases hworker with
    | called hadapter =>
      obtain rfl := Option.some.inj (hresolve.symm.trans hadapter)
      rcases htype with htype | htype
      · have hcall : callAdapter cmd (binanceAdapter parse (.ok resp)) i snapshot = .accepted i := by
          simp only [callAdapter, htype]
          rfl
        have hpolled : LiveDispatch.polledBy ⟨cmd, .hydrated i snapshot, polled⟩ s.venue =
            polled := by
          simp only [LiveDispatch.polledBy, htype]
        rw [hcall, hpolled]
        exact h.moved_same ⟨hacc, horder, hmode, .inl htype⟩ ⟨hunpolled, rfl, htype⟩
      · obtain ⟨result, hresult, hreconciles⟩ := hreported.reconcileOrder hbefore.behind
        have hcall : callAdapter cmd (binanceAdapter parse (.ok resp)) i snapshot =
            .reconciled i snapshot result := by
          simp only [callAdapter, htype]
          rw [show (binanceAdapter parse (.ok resp)).reconcileOrder snapshot = _ from hresult]
          rfl
        have hpolled : LiveDispatch.polledBy ⟨cmd, .hydrated i snapshot, polled⟩ s.venue =
            some s.venue := by
          simp only [LiveDispatch.polledBy, htype]
        have hfollow : s.venue.Answerable snapshot.order.status := by
          have hfollow := hok _ hd
          simpa only [LiveDispatch.CanFollow, htype] using hfollow
        have hanswer : ScaledAnswer parse (.ok resp) := by
          intro body hbody
          rw [← Except.ok.inj hbody, hreported.decimalField]
          exact h.scaled
        rw [hcall, hpolled]
        exact h.moved_same ⟨hacc, horder, hmode, .inr htype⟩ ⟨rfl, hsnapshot,
          BinanceAdapter.adapterResult hanswer hresult, s.venue, rfl, h.limit, h.scaled, .refl,
          hbefore, hfollow, hreconciles⟩
  | accepted i =>
    obtain ⟨hunpolled, rfl, hcancel⟩ := htracks
    have hbalanced : db'.Balanced opening :=
      WorkerStep.balanced (t := ⟨cmd, 0, .accepted i⟩) hworker trivial h.balanced
    simp only [advance, acceptedTx, hcancel, Option.some.injEq, Prod.mk.injEq] at hadvance
    obtain ⟨rfl, rfl⟩ := hadvance
    have hpolled : LiveDispatch.polledBy ⟨cmd, .accepted i, polled⟩ s.venue = none := by
      simp only [LiveDispatch.polledBy, hcancel, hunpolled]
    rw [hpolled]
    cases hresult : (postgres.atomically (cancelTx cmd i) s.db).1 with
    | ok u =>
      have hcommit := (strict_cancelTx cmd i).commits hresult
      obtain ⟨o₁, o', ho₁, ho', hfollows', hterminal⟩ := h.cancels hacc hcommit
      exact h.dispatched hextends hbalanced
        ⟨o₁, o', ho₁, ho', hfollows', hterminal, by simp⟩
        ⟨hacc, horder, hmode, .inl hcancel⟩ rfl (by simp)
    | error e =>
      obtain rfl : e = .retry := (errorsIn_cancelTx cmd i).atomically hresult
      rw [Engine.atomically_of_error hresult]
      exact h.moved_same ⟨hacc, horder, hmode, .inl hcancel⟩
        ⟨by simp, by simp⟩
  | reconciled i snapshot result =>
    obtain ⟨rfl, hsnapshot, hadapter, v, rfl, hlimit, hscaled, hreach, hbefore, hanswer,
      hreconciles⟩ := htracks
    have hbalanced : db'.Balanced opening :=
      WorkerStep.balanced (t := ⟨cmd, 0, .reconciled i snapshot result⟩) hworker
        (by subst hacc; exact ⟨hsnapshot, hadapter⟩) h.balanced
    simp only [advance, Option.some.injEq, Prod.mk.injEq] at hadvance
    obtain ⟨rfl, rfl⟩ := hadvance
    have hpolled : LiveDispatch.polledBy ⟨cmd, .reconciled i snapshot result, some v⟩ s.venue =
        some v := by
      unfold LiveDispatch.polledBy
      split
      · rename_i hstage
        cases hstage
      · rfl
    rw [hpolled]
    set p := persistReconcileResultTx cmd.accountId i snapshot result with hp
    have htypes : ∀ event ∈ result.events, event.eventType ∈ riskEventTypes :=
      fun event hevent => mem_riskEventTypes (hadapter.events_mem event hevent)
    cases hresult : (postgres.atomically p s.db).1 with
    | ok u =>
      have hcommit := (strict_persistReconcileResultTx cmd.accountId i snapshot htypes).commits hresult
      rw [hacc] at hcommit
      obtain ⟨o₁, ho₁, hfilled, hstatus, hpersisted⟩ :=
        persisted_of_commits hsnapshot hadapter hcommit
      rw [← hacc] at hpersisted
      obtain ⟨o', ho', hfollows', hterminal, hfinal⟩ :=
        h.persists ho₁ hfilled hstatus hscaled hlimit hreach hreconciles hpersisted
      refine h.dispatched hextends hbalanced ⟨o₁, o', ho₁, ho', hfollows', hterminal,
        fun w hw hf _ => ?_⟩ ⟨hacc, horder, hmode, htype⟩ rfl (by simp)
      obtain rfl := Option.some.inj hw
      exact hfinal hf
    | error e =>
      rw [Engine.atomically_of_error hresult]
      refine h.moved_same ⟨hacc, horder, hmode, htype⟩ ⟨fun he => ?_, by simp⟩
      obtain rfl := Except.error.inj he
      rw [hp, hacc] at hresult
      obtain ⟨hfilled, hstatus, hdup | ⟨status, hnew, hillegal⟩⟩ := escalated_of_persist ho hresult
      · obtain ⟨hne, db', hcommit⟩ := hdup
        refine h.balanced.not_takesDuplicateBranch (t := ⟨cmd, 0, .reconciled i snapshot result⟩)
          ?_ ⟨o, ?_, hfilled, hstatus, hne, db', ?_⟩
        · subst hacc
          exact ⟨hsnapshot, hadapter⟩
        · rw [hacc]
          exact ho
        · rw [hacc]
          exact hcommit
      · unfold VenueOrder.Reconciles at hreconciles
        split_ifs at hreconciles with hsame
        · rw [hreconciles] at hnew
          cases hnew
        · rw [not_or, Bool.not_eq_true] at hsame
          obtain rfl := Option.some.inj (hnew.symm.trans hreconciles.1)
          rw [hstatus, hbefore.legal hanswer hsame.1 hsame.2] at hillegal
          cases hillegal
  | dispatched outcome => cases hover
  | rejecting i => exact htracks.elim
  | auditing reason => exact htracks.elim

omit h in
lemma step {a : LiveAction} (h : s.Tracking accountId orderId quantity opening)
    (hok : PollsAnswerable s a) (hstep : s.step accountId orderId quantity a = some s') :
    s'.Tracking accountId orderId quantity opening := by
  cases a with
  | venue next =>
    simp only [LiveTrading.step] at hstep
    split_ifs at hstep with hmoves
    obtain rfl := Option.some.inj hstep
    exact h.venueMoves hmoves hok
  | begin n cmd =>
    simp only [LiveTrading.step] at hstep
    split_ifs at hstep with hbegin
    obtain rfl := Option.some.inj hstep
    exact h.begins hbegin.2
  | work n parse resp =>
    obtain ⟨d, hd, hwork⟩ := Option.bind_eq_some_iff.mp hstep
    exact h.works hd hwork hok

end LiveTrading.Tracking

lemma LiveTrading.Starts.tracking (h : s.Starts accountId orderId quantity) :
    ∃ opening, s.Tracking accountId orderId quantity opening := by
  obtain ⟨opening, hbalanced⟩ := h.tables
  obtain ⟨o, ho, -, hstatus, rfl, hfilled⟩ := h.order
  obtain ⟨hmem, -, -⟩ := Db.mem_of_order? ho
  obtain ⟨-, hnonneg, hle⟩ := hbalanced.filled o hmem
  refine ⟨opening, hbalanced, ?_, ?_, ⟨o, ho, ?_⟩, fun n d hd => ?_⟩
  · rw [h.venue]
    exact hnonneg.trans hle
  · rw [h.venue]
    exact Numeric.isScaled_zero 10
  · rw [h.venue, hstatus, hfilled]
    exact ⟨by simp, le_rfl, by simp, by simp [OrderStatus.isTerminal]⟩
  · rw [h.dispatches n] at hd
    cases hd

end

/-! ### An order of one unit -/

/-- The submitted live order of one unit, new at the venue. -/
def newAtVenue : LiveTrading where
  db := submittedLive.db
  venue := ⟨.new, 0⟩
  dispatches _ := none

def commandFor (commandType : CommandType) : ClaimedCommand where
  id := 1
  accountId := ⟨1⟩
  commandType := commandType
  exchangeMode := .live
  payload := orderPayload ⟨2⟩

lemma starts_newAtVenue : newAtVenue.Starts ⟨1⟩ ⟨2⟩ 1 where
  tables := ⟨_, unfilled_submittedLive.balanced⟩
  order := ⟨_, rfl, rfl, rfl, rfl, rfl⟩
  venue := rfl
  dispatches _ := rfl

/-- A whole dispatch, with this answer of the venue. -/
def dispatchWith (n : ℕ) (commandType : CommandType) (status executedQty : String) :
    List LiveAction :=
  .begin n (commandFor commandType) ::
    List.replicate 3 (.work n parseQuantity (statusAnswer status executedQty))

/-- A partial fill, a cancellation after it, and the polls that find them. -/
def cancelledAfterFill : List LiveAction :=
  .venue ⟨.partiallyFilled, 2 / 5⟩ :: dispatchWith 0 .reconcileOrder "PARTIALLY_FILLED" "0.4" ++
    dispatchWith 1 .cancelOrder "PARTIALLY_FILLED" "0.4" ++
    .venue ⟨.canceled, 2 / 5⟩ :: dispatchWith 2 .reconcileOrder "CANCELED" "0.4"

/-- The venue lets the order expire after a partial fill, and a poll finds that. -/
def expiresAfterFill : List LiveAction :=
  .venue ⟨.partiallyFilled, 2 / 5⟩ :: .venue ⟨.expired, 2 / 5⟩ ::
    dispatchWith 0 .reconcileOrder "EXPIRED" "0.4"

/-- The dispatch has ended for manual review. -/
def LiveDispatch.isEscalated (d : LiveDispatch) : Bool :=
  match d.stage with
  | .dispatched (.error .reconciliationRequired) => true
  | _ => false

lemma LiveDispatch.stage_of_isEscalated {d : LiveDispatch} (h : d.isEscalated = true) :
    d.stage = .dispatched (.error .reconciliationRequired) := by
  unfold isEscalated at h
  split at h
  · assumption
  · cases h

end Confluence
