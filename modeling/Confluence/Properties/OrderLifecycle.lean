import Confluence.Properties.History
import Confluence.Server.Integrity

/-!
# The life of an order

Whatever adapters answer, however workers interleave and whichever calls of the database fail: an
order starts pending and unfilled, its status moves along the transitions of the state machine only,
and what has been filled of it never shrinks.
-/

namespace Confluence

open Numeric

/-- A legal transition. -/
def OrderStatus.Moves (source target : OrderStatus) : Prop :=
  OrderStateMachine.legal source target = true

/-- A later row of the same order. -/
structure OrderRecord.Later (r r' : OrderRecord) : Prop where
  terms : r'.terms = r.terms
  status : Relation.ReflTransGen OrderStatus.Moves r.status r'.status
  filledQuantity : r.filledQuantity ≤ r'.filledQuantity

lemma OrderRecord.Later.refl (r : OrderRecord) : r.Later r := ⟨rfl, .refl, le_rfl⟩

lemma OrderRecord.Later.trans {r r' r'' : OrderRecord} (h : r.Later r') (h' : r'.Later r'') :
    r.Later r'' :=
  ⟨h'.terms.trans h.terms, h.status.trans h'.status, h.filledQuantity.trans h'.filledQuantity⟩

/-! ### One step -/

/-- What a step does to the orders: nothing, a new one, or a transition of one that adds to what is
filled. -/
inductive OrderStep (orders : List OrderRecord) : List OrderRecord → Prop
  | same : OrderStep orders orders
  | placed {o : OrderRecord} (hstatus : o.status = .pending) (hfilled : o.filledQuantity = 0) :
    OrderStep orders (orders ++ [o])
  | moved {o : OrderRecord} {status : OrderStatus} {x q : Decimal} (ho : o ∈ orders)
      (hlegal : o.status.Moves status) (hx : o.filledQuantity ≤ x) (hq : store 30 10 x = some q) :
    OrderStep orders (updateWhere (fun r => decide (r.id = o.id) && decide (r.accountId = o.accountId))
      (fun r => { r with status, filledQuantity := q }) orders)

section

variable {accountId orderId : Uuid} {db db' : Db} {s s' : Server}

/-- Only fills of a positive quantity are inserted. -/
lemma pos_of_commits_insertFills {fills inserted : List Fill}
    (h : postgres.Commits (insertFills accountId orderId fills) db inserted db') :
    ∀ f ∈ inserted, 0 < f.quantity := by
  induction fills generalizing db inserted with
  | nil =>
    rw [insertFills, Engine.commits_pure] at h
    obtain ⟨rfl, -⟩ := h
    simp
  | cons fill fills ih =>
    simp only [insertFills, Engine.commits_bind, Engine.commits_mapError, commits_insertFill,
      Engine.commits_pure] at h
    obtain ⟨isNew, db₁, ⟨q, p, f, hq, -, -, hpos, -⟩, rest, _, hrest, rfl, rfl⟩ := h
    have hfill : 0 < fill.quantity := by
      have hround := hpos.1
      rw [eq_roundTo_of_store hq] at hround
      exact pos_of_roundTo_pos hround
    cases isNew with
    | false => exact ih hrest
    | true => exact List.forall_mem_cons.mpr ⟨hfill, ih hrest⟩

lemma Db.MovedIfLegal.orderStep {o : OrderRecord} {status : OrderStatus}
    (h : db.MovedIfLegal o status db') (ho : o ∈ db.orders) : OrderStep db.orders db'.orders := by
  unfold Db.MovedIfLegal at h
  split_ifs at h with hlegal
  · obtain ⟨q, hq, -, -, rfl⟩ := h
    exact .moved ho hlegal le_rfl hq
  · rw [h]
    exact .same

lemma WorkerStep.orderStep {supervisor : Supervisor} {cmd : ClaimedCommand} {stage : Stage}
    {next : Option Stage} (h : WorkerStep supervisor cmd db stage next db') :
    OrderStep db.orders db'.orders := by
  cases h with
  | noAdapter | delivered | requeued | permanentlyRejected | reconciliationRequired | notHydrated
  | hydrated | called | notAccepted | notPersisted | audited => exact .same
  | submitted htype ho hmove => exact hmove.orderStep (Db.mem_of_order? ho).1
  | cancelled htype ho hmove => exact hmove.orderStep (Db.mem_of_order? ho).1
  | @persisted orderId snapshot result db' h =>
    obtain ⟨o, inserted, _, _, db₁, _, ho, -, -, hfills, -, -, hstatus, rfl⟩ :=
      of_commits_persistReconcileResultTx h
    cases hnew : result.newStatus with
    | none =>
      rw [hnew] at hstatus
      rw [hstatus]
      exact .same
    | some status =>
      rw [hnew] at hstatus
      obtain ⟨hlegal, q, hq, -, -, rfl⟩ := hstatus
      have hsum : 0 ≤ (inserted.map (·.quantity)).sum := by
        refine List.sum_nonneg fun x hx => ?_
        obtain ⟨f, hf, rfl⟩ := List.mem_map.mp hx
        exact (pos_of_commits_insertFills hfills f hf).le
      exact .moved (Db.mem_of_order? ho).1 hlegal (le_add_of_nonneg_right hsum) hq
  | rejected h =>
    rcases h with rfl | ⟨o, ho, hmove⟩
    · exact .same
    · exact hmove.orderStep (Db.mem_of_order? ho).1

lemma orderStep_of_serviceStep {a : ServiceAction} (h : s.serviceStep a = some s') :
    OrderStep s.db.orders s'.db.orders := by
  cases serviceStep_of_step h with
  | fault | refused | created | regrouped => exact .same
  | server h =>
    cases h with
    | tick | claim | crash | enqueueCancel => exact .same
    | request hreq =>
      cases hreq with
      | audited | riskState | configured => exact .same
      | placed => exact .placed rfl rfl
    | advance htask hworker => exact hworker.orderStep

/-- Filled quantities are as the column keeps them. -/
def OrdersScaled (orders : List OrderRecord) : Prop := ∀ o ∈ orders, IsScaled 10 o.filledQuantity

lemma le_of_store {x y q : ℚ} (hy : IsScaled 10 y) (h0 : 0 ≤ y) (h : y ≤ x)
    (hq : store 30 10 x = some q) : y ≤ q := by
  rw [eq_roundTo_of_store hq, ← roundTo_of_isScaled hy, roundTo, roundTo, if_pos h0,
    if_pos (h0.trans h)]
  gcongr

/-- A step keeps every order in its place, as a later one. -/
lemma OrderStep.later {orders orders' : List OrderRecord} (h : OrderStep orders orders')
    (hids : (orders.map (·.id)).Nodup) (hchecked : ∀ o ∈ orders, o.Checked)
    (hscaled : OrdersScaled orders) : Grown OrderRecord.Later orders orders' := by
  cases h with
  | same => exact .refl .refl _
  | placed => exact .append .refl _ _
  | @moved o status x q ho hlegal hx hq =>
    intro i r hr
    refine ⟨_, by rw [updateWhere, List.getElem?_map, hr, Option.map_some], ?_⟩
    split_ifs with hrow
    · rw [Bool.and_eq_true, decide_eq_true_eq, decide_eq_true_eq] at hrow
      obtain rfl := List.inj_on_of_nodup_map hids (List.mem_of_getElem? hr) ho hrow.1
      exact ⟨rfl, .single hlegal, le_of_store (hscaled r ho) (hchecked r ho).2.2.1 hx hq⟩
    · exact .refl r

lemma OrderStep.scaled {orders orders' : List OrderRecord} (h : OrderStep orders orders')
    (hscaled : OrdersScaled orders) : OrdersScaled orders' := by
  cases h with
  | same => exact hscaled
  | placed hstatus hfilled =>
    refine forall_append hscaled ?_
    rw [hfilled]
    exact isScaled_zero 10
  | moved ho hlegal hx hq => exact forall_updateWhere hscaled fun _ _ _ => (fits_of_store hq).1

/-- Every order has come from a pending one. -/
lemma OrderStep.fromPending {orders orders' : List OrderRecord} (h : OrderStep orders orders')
    (hids : (orders.map (·.id)).Nodup)
    (hfrom : ∀ o ∈ orders, Relation.ReflTransGen OrderStatus.Moves .pending o.status) :
    ∀ o ∈ orders', Relation.ReflTransGen OrderStatus.Moves .pending o.status := by
  cases h with
  | same => exact hfrom
  | placed hstatus hfilled =>
    refine forall_append hfrom ?_
    rw [hstatus]
  | @moved o status x q ho hlegal hx hq =>
    refine forall_updateWhere hfrom fun r hr hrow => ?_
    rw [Bool.and_eq_true, decide_eq_true_eq, decide_eq_true_eq] at hrow
    obtain rfl := List.inj_on_of_nodup_map hids hr ho hrow.1
    exact (hfrom r hr).tail hlegal

end

/-! ### Runs -/

/-- What every step keeps of the orders. -/
structure Server.OrdersSound (s : Server) : Prop where
  constrained : s.db.Constrained
  scaled : OrdersScaled s.db.orders
  fromPending : ∀ o ∈ s.db.orders, Relation.ReflTransGen OrderStatus.Moves .pending o.status

section

variable {s s' : Server} {a : ServiceAction}

lemma Server.OrdersSound.step (hs : s.OrdersSound) (h : s.serviceStep a = some s') :
    s'.OrdersSound where
  constrained := constrained_of_serviceStep h hs.constrained
  scaled := (orderStep_of_serviceStep h).scaled hs.scaled
  fromPending := (orderStep_of_serviceStep h).fromPending hs.constrained.orderIds hs.fromPending

lemma ordersSound_of_reachable (h : (service (· = .fresh)).Reachable (fun _ _ => True) s) :
    s.OrdersSound := by
  refine h.invariant (I := Server.OrdersSound) ?_ fun _ _ _ hs _ hstep => hs.step hstep
  rintro _ rfl
  exact ⟨constrained_empty, by rintro _ ⟨⟩, by rintro _ ⟨⟩⟩

/-- Every order of a reachable state has come from a pending one by legal transitions, and in every
run from there it stays in its place, with its terms, moves on by legal transitions only, and is
never filled by less. -/
theorem order_lifecycle {as : List ServiceAction}
    (hreach : (service (· = .fresh)).Reachable (fun _ _ => True) s)
    (hrun : (service (· = .fresh)).Run (fun _ _ => True) s as s') :
    (∀ o ∈ s.db.orders, Relation.ReflTransGen OrderStatus.Moves .pending o.status) ∧
      Grown OrderRecord.Later s.db.orders s'.db.orders := by
  have hsound := ordersSound_of_reachable hreach
  have hinv : s'.OrdersSound ∧ Grown OrderRecord.Later s.db.orders s'.db.orders := by
    refine hrun.preserves (I := fun t => t.OrdersSound ∧
      Grown OrderRecord.Later s.db.orders t.db.orders) ?_ ⟨hsound, .refl .refl _⟩
    rintro t a t' ⟨ht, hgrown⟩ _ hstep
    have hlater := (orderStep_of_serviceStep hstep).later ht.constrained.orderIds
      ht.constrained.orders ht.scaled
    exact ⟨ht.step hstep, hgrown.trans (fun _ _ _ => .trans) hlater⟩
  exact ⟨hsound.fromPending, hinv.2⟩

end

/-- The order from its placement to its fill. -/
theorem order_lifecycle_openAndTrade :
    ∃ s s' : Server, (service (· = .fresh)).Reachable (fun _ _ => True) s ∧
      s.db.orders.map (fun o => (o.status, o.filledQuantity)) = [(.pending, 0)] ∧
      s'.db.orders.map (fun o => (o.status, o.filledQuantity)) = [(.filled, 1)] ∧
      Grown OrderRecord.Later s.db.orders s'.db.orders := by
  have hplaced : ((service (· = .fresh)).exec (fun _ _ => True) .fresh (openAndTrade.take 2)).all
      (fun s => decide (s.db.orders.map (fun o => (o.status, o.filledQuantity)) = [(.pending, 0)])) =
        true := by
    decide +kernel
  have hfilled : ((service (· = .fresh)).exec (fun _ _ => True) .fresh openAndTrade).any
      (fun s => decide (s.db.orders.map (fun o => (o.status, o.filledQuantity)) = [(.filled, 1)])) =
        true := by
    decide +kernel
  obtain ⟨s', hrun, hs'⟩ := Machine.exists_run_of_exec hfilled
  rw [← List.take_append_drop 2 openAndTrade] at hrun
  obtain ⟨s, htake, hdrop⟩ := hrun.split
  have hreach : (service (· = .fresh)).Reachable (fun _ _ => True) s := ⟨_, _, rfl, htake⟩
  exact ⟨s, s', hreach, of_decide_eq_true (htake.of_exec hplaced), of_decide_eq_true hs',
    (order_lifecycle hreach hdrop).2⟩

end Confluence
