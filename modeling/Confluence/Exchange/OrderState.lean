import Confluence.Exchange.Types

/-!
# Order lifecycle
-/

namespace Confluence

inductive ExchangeError
  | fillExceedsRemaining (orderId : String) (fillQty remainingQty : Decimal)
  | insufficientBalance (asset : String) (need available : Decimal)
  | marketDataError (msg : String)
  | invalidTransition (source target : String)
  | symbolNotFound (symbol : String)
  | filterViolation (msg : String)
  | encryptionError (msg : String)
deriving DecidableEq

namespace OrderStateMachine

/-- The legal transitions. -/
def legal : OrderStatus → OrderStatus → Bool
  | .pending, .submitted => true
  | .pending, .rejected => true
  | .pending, .cancelRequested => true
  | .submitted, .partiallyFilled => true
  | .submitted, .filled => true
  | .submitted, .rejected => true
  | .submitted, .cancelRequested => true
  | .partiallyFilled, .partiallyFilled => true
  | .partiallyFilled, .filled => true
  | .partiallyFilled, .cancelRequested => true
  | .cancelRequested, .cancelled => true
  | .cancelRequested, .filled => true
  | .cancelRequested, .partiallyFilled => true
  | _, _ => false

def transition (source target : OrderStatus) : Except ExchangeError OrderStatus :=
  if legal source target then .ok target
  else .error (.invalidTransition source.debug target.debug)

@[simp] lemma transition_isOk (source target : OrderStatus) :
    (transition source target).isOk = legal source target := by
  unfold transition
  cases legal source target <;> rfl

/-- A terminal state accepts no further transition. -/
lemma not_legal_of_isTerminal {source target : OrderStatus} (h : source.isTerminal = true) :
    legal source target = false := by
  cases source <;> cases target <;> first | rfl | cases h

end OrderStateMachine

end Confluence
