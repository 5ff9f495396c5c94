import Confluence.Exchange.OrderState
import Confluence.Library.Machine

/-!
# Paper balances

The free balances of a paper account, asset by asset. A reservation takes from what is free, and is
refused when that is too little; what is released or credited is free again.
-/

namespace Confluence

structure PaperAccount where
  free : String → Option Decimal

namespace PaperAccount

variable {account account' : PaperAccount} {asset other : String} {amount : Decimal}

def new : PaperAccount where
  free := fun _ => none

def withBalance (account : PaperAccount) (asset : String) (amount : Decimal) : PaperAccount where
  free := fun a => if a = asset then some amount else account.free a

def freeBalance (account : PaperAccount) (asset : String) : Decimal :=
  (account.free asset).getD 0

def reserve (account : PaperAccount) (asset : String) (amount : Decimal) :
    Except ExchangeError PaperAccount :=
  let available := account.freeBalance asset
  if amount > available then .error (.insufficientBalance asset amount available)
  else .ok (account.withBalance asset (available - amount))

def release (account : PaperAccount) (asset : String) (amount : Decimal) : PaperAccount :=
  account.withBalance asset (account.freeBalance asset + amount)

def credit (account : PaperAccount) (asset : String) (amount : Decimal) : PaperAccount :=
  account.withBalance asset (account.freeBalance asset + amount)

@[simp] lemma freeBalance_new : new.freeBalance asset = 0 := rfl

lemma freeBalance_withBalance : (account.withBalance asset amount).freeBalance other =
    if other = asset then amount else account.freeBalance other := by
  simp only [freeBalance, withBalance]
  split_ifs
  · rfl
  · rfl

/-- A reservation succeeds when the amount is free, and takes it. -/
lemma reserve_eq_ok : account.reserve asset amount = .ok account' ↔
    amount ≤ account.freeBalance asset ∧
      account' = account.withBalance asset (account.freeBalance asset - amount) := by
  simp only [reserve]
  split_ifs with hmore
  · simp [not_le.mpr hmore]
  · simp [not_lt.mp hmore, eq_comm]

end PaperAccount

/-! ### The account and its operations -/

inductive PaperAction
  | reserve (asset : String) (amount : Decimal)
  | release (asset : String) (amount : Decimal)
  | credit (asset : String) (amount : Decimal)

/-- A refused reservation leaves the account as it is. -/
def PaperAccount.step (account : PaperAccount) : PaperAction → Option PaperAccount
  | .reserve asset amount => (account.reserve asset amount).toOption
  | .release asset amount => some (account.release asset amount)
  | .credit asset amount => some (account.credit asset amount)

lemma PaperAccount.step_reserve {account account' : PaperAccount} {asset : String}
    {amount : Decimal} : account.step (.reserve asset amount) = some account' ↔
      account.reserve asset amount = .ok account' := by
  simp only [PaperAccount.step]
  cases account.reserve asset amount with
  | error e => simp [Except.toOption]
  | ok _ => simp [Except.toOption]

/-- Paper accounts that start in one of the states `init`. -/
def paperAccounts (init : PaperAccount → Prop) : Machine PaperAccount PaperAction where
  init := init
  step := PaperAccount.step

namespace PaperAction

/-- What the operation takes from the free balance of the asset. -/
def reserved (asset : String) : PaperAction → Decimal
  | .reserve a amount => if asset = a then amount else 0
  | .release .. | .credit .. => 0

/-- What it adds to the free balance. -/
def freed (asset : String) : PaperAction → Decimal
  | .release a amount | .credit a amount => if asset = a then amount else 0
  | .reserve .. => 0

/-- Amounts that are given back are not negative. -/
def GivesBack : PaperAction → Prop
  | .release _ amount | .credit _ amount => 0 ≤ amount
  | .reserve .. => True

instance : DecidablePred GivesBack
  | .release _ amount | .credit _ amount => inferInstanceAs (Decidable (0 ≤ amount))
  | .reserve .. => isTrue trivial

end PaperAction

end Confluence
