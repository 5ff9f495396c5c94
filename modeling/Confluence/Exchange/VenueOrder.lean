import Confluence.Exchange.Responses
import Mathlib.Logic.Relation

/-!
# An order at the venue

What the venue makes of a live order, what its answers report of that, and how the local order
follows: a local status and a filled quantity that the venue's order has come to or gone beyond.
-/

namespace Confluence

inductive VenueStatus
  | new
  | partiallyFilled
  | filled
  | canceled
  | expired
deriving DecidableEq

namespace VenueStatus

/-- The status as answers spell it. -/
def text : VenueStatus → String
  | new => "NEW"
  | partiallyFilled => "PARTIALLY_FILLED"
  | filled => "FILLED"
  | canceled => "CANCELED"
  | expired => "EXPIRED"

/-- The local status that it stands for. -/
def orderStatus : VenueStatus → OrderStatus
  | new => .submitted
  | partiallyFilled => .partiallyFilled
  | filled => .filled
  | canceled => .cancelled
  | expired => .cancelled

def isFinal : VenueStatus → Bool
  | new => false
  | partiallyFilled => false
  | filled => true
  | canceled => true
  | expired => true

lemma statusOf_text (status : VenueStatus) :
    BinanceAdapter.statusOf status.text = some status.orderStatus := by
  cases status <;> rfl

@[simp] lemma isTerminal_orderStatus (status : VenueStatus) :
    status.orderStatus.isTerminal = status.isFinal := by
  cases status <;> rfl

end VenueStatus

/-- The order at the venue: its status and the quantity executed so far. -/
structure VenueOrder where
  status : VenueStatus
  executed : Decimal
deriving DecidableEq

namespace VenueOrder

/-- The executed quantity that a new status admits: partial fills grow it, a fill completes it, and
a cancellation or an expiry leaves it. -/
def Admits (quantity : Decimal) (v w : VenueOrder) : Prop :=
  (w.status = .partiallyFilled ∧ v.executed < w.executed ∧ w.executed ≤ quantity) ∨
    (w.status = .filled ∧ w.executed = quantity) ∨
    ((w.status = .canceled ∨ w.status = .expired) ∧ w.executed = v.executed)

/-- One step of the order at the venue, up to a final status. -/
def Moves (quantity : Decimal) (v w : VenueOrder) : Prop :=
  v.status.isFinal = false ∧ Admits quantity v w

instance (quantity : Decimal) (v w : VenueOrder) : Decidable (Moves quantity v w) :=
  inferInstanceAs (Decidable (_ ∧ (_ ∨ _)))

/-- What the venue answers about its order. -/
structure Reported (v : VenueOrder) (parse : String → Option Decimal) (resp : Json) : Prop where
  status : resp.getStr "status" = some v.status.text
  executed : (resp.getStr "executedQty").bind parse = some v.executed

instance (parse : String → Option Decimal) (resp : Json) (v : VenueOrder) :
    Decidable (v.Reported parse resp) :=
  decidable_of_iff (resp.getStr "status" = some v.status.text ∧
    (resp.getStr "executedQty").bind parse = some v.executed)
    ⟨fun h => ⟨h.1, h.2⟩, fun h => ⟨h.status, h.executed⟩⟩

/-- A local status and filled quantity that have followed the order up to here. -/
structure FollowedBy (v : VenueOrder) (status : OrderStatus) (filled : Decimal) : Prop where
  submitted : status ≠ .pending
  behind : filled ≤ v.executed
  partially : status = .partiallyFilled → v.status ≠ .new
  closed : status.isTerminal = true → v.status.orderStatus = status ∧ filled = v.executed

/-- The local status from which the answer can be followed: a cancellation or an expiry needs a
requested one, and an order that has not traded needs none. -/
def Answerable (v : VenueOrder) (status : OrderStatus) : Prop :=
  (v.status.orderStatus = .cancelled → status = .cancelRequested ∨ status.isTerminal = true) ∧
    (v.status = .new → status ≠ .cancelRequested)

instance (v : VenueOrder) (status : OrderStatus) : Decidable (v.Answerable status) :=
  inferInstanceAs (Decidable ((_ → _) ∧ (_ → _)))

/-- What reconciliation makes of an answer about the order. -/
def Reconciles (v : VenueOrder) (snapshot : ReconcileSnapshot) (result : ReconcileResult) : Prop :=
  if snapshot.order.status.isTerminal ∨ v.status.orderStatus = snapshot.order.status then result = {}
  else
    result.newStatus = some v.status.orderStatus ∧
      (result.fillsToAdd.map (·.quantity)).sum = v.executed - snapshot.filled

variable {quantity filled : Decimal} {u v w : VenueOrder} {status : OrderStatus}

/-! ### Steps of the venue -/

lemma Moves.executed_le (h : Moves quantity v w) (hv : v.executed ≤ quantity) :
    v.executed ≤ w.executed ∧ w.executed ≤ quantity := by
  rcases h.2 with ⟨-, hlt, hle⟩ | ⟨-, heq⟩ | ⟨-, heq⟩
  · exact ⟨hlt.le, hle⟩
  · exact ⟨heq ▸ hv, heq.le⟩
  · exact ⟨heq.ge, heq ▸ hv⟩

lemma Moves.ne_new (h : Moves quantity v w) : w.status ≠ .new := by
  rcases h.2 with ⟨hw, -⟩ | ⟨hw, -⟩ | ⟨hw | hw, -⟩ <;> simp [hw]

/-- What has followed the order goes on to do so. -/
lemma FollowedBy.moves (h : v.FollowedBy status filled) (hmoves : Moves quantity v w)
    (hv : v.executed ≤ quantity) : w.FollowedBy status filled where
  submitted := h.submitted
  behind := h.behind.trans (hmoves.executed_le hv).1
  partially _ := hmoves.ne_new
  closed hclosed := by
    have hfinal := hmoves.1
    rw [← VenueStatus.isTerminal_orderStatus, (h.closed hclosed).1, hclosed] at hfinal
    cases hfinal

lemma FollowedBy.isFinal (h : v.FollowedBy status filled) (hclosed : status.isTerminal = true) :
    v.status.isFinal = true := by
  rw [← VenueStatus.isTerminal_orderStatus, (h.closed hclosed).1, hclosed]

lemma executed_le_of_reaches (h : Relation.ReflTransGen (Moves quantity) v w)
    (hv : v.executed ≤ quantity) : w.executed ≤ quantity := by
  induction h with
  | refl => exact hv
  | tail _ hmoves ih => exact (hmoves.executed_le ih).2

lemma FollowedBy.reaches (h : v.FollowedBy status filled)
    (hreach : Relation.ReflTransGen (Moves quantity) v w) (hv : v.executed ≤ quantity) :
    w.FollowedBy status filled := by
  induction hreach with
  | refl => exact h
  | tail hreach hmoves ih => exact ih.moves hmoves (executed_le_of_reaches hreach hv)

/-! ### Answers -/

/-- The lifecycle admits the status of an answer that can be followed. -/
lemma FollowedBy.legal (h : v.FollowedBy status filled) (hanswer : v.Answerable status)
    (hopen : status.isTerminal = false) (hne : v.status.orderStatus ≠ status) :
    OrderStateMachine.legal status v.status.orderStatus = true := by
  obtain ⟨hcancelled, hnew⟩ := hanswer
  have hpartially := h.partially
  have hsubmitted := h.submitted
  cases hv : v.status <;> cases status <;>
    simp_all [VenueStatus.orderStatus, OrderStateMachine.legal, OrderStatus.isTerminal]

/-- Only a pending order becomes submitted. -/
lemma ne_new_of_legal (hne : status ≠ .pending)
    (h : OrderStateMachine.legal status v.status.orderStatus = true) : v.status ≠ .new := by
  intro hnew
  rw [hnew] at h
  revert h hne
  cases status <;> decide

/-- An answer that has been taken over has been followed. -/
lemma followedBy_orderStatus (hnew : v.status ≠ .new) :
    v.FollowedBy v.status.orderStatus v.executed where
  submitted := by cases v.status <;> simp [VenueStatus.orderStatus]
  behind := le_rfl
  partially _ := hnew
  closed _ := ⟨rfl, rfl⟩

variable {parse : String → Option Decimal} {resp : Json} {snapshot : ReconcileSnapshot}

lemma Reported.responseStatus (h : v.Reported parse resp) :
    BinanceAdapter.responseStatus resp = some v.status.orderStatus := by
  rw [BinanceAdapter.responseStatus, h.status]
  exact v.status.statusOf_text

lemma Reported.decimalField (h : v.Reported parse resp) :
    BinanceAdapter.decimalField parse resp "executedQty" = v.executed := by
  rw [BinanceAdapter.decimalField, h.executed, Option.getD_some]

lemma Reported.reconcileOrder (h : v.Reported parse resp) (hbehind : snapshot.filled ≤ v.executed) :
    ∃ result, BinanceAdapter.reconcileOrder parse (.ok resp) snapshot = .ok result ∧
      v.Reconciles snapshot result := by
  unfold Reconciles BinanceAdapter.reconcileOrder
  by_cases hterminal : snapshot.order.status.isTerminal = true
  · exact ⟨{}, if_pos hterminal, by rw [if_pos (.inl hterminal)]⟩
  · simp only [hterminal, false_or, Bool.false_eq_true, if_false]
    by_cases hsame : v.status.orderStatus = snapshot.order.status
    · refine ⟨{}, ?_, by rw [if_pos hsame]⟩
      exact BinanceAdapter.mapOrderStatusResponse_of_same (hsame ▸ h.responseStatus)
    · obtain ⟨result, hresult, hstatus, hfills⟩ :=
        BinanceAdapter.mapOrderStatusResponse_of_ne parse snapshot h.responseStatus hsame
      refine ⟨result, hresult, ?_⟩
      rw [if_neg hsame]
      refine ⟨hstatus, ?_⟩
      have hnew : BinanceAdapter.newlyExecuted parse snapshot resp = v.executed - snapshot.filled := by
        rw [BinanceAdapter.newlyExecuted, h.decimalField]
      rw [hnew] at hfills
      split_ifs at hfills with hpos
      · simp [hfills.1, BinanceAdapter.responseFill, hnew]
      · rw [hfills.1, List.map_nil, List.sum_nil]
        linarith

end VenueOrder

end Confluence
