import Confluence.Server.Positions

/-!
# Position arithmetic

A delta is applied when the call succeeds and the signed open quantity becomes its old value plus
the delta. It is applied exactly when the new signed quantity is one that an open row can hold. Zero
is not: closing a position exactly writes a quantity that the table's check refuses.
-/

namespace Confluence

section

variable (db : Db) (accountId : Uuid) (symbol : String)

/-- The database after the call, as a transaction of its own. -/
def afterDelta (delta price : Decimal) : Db :=
  (postgres.atomically (applyPositionDelta accountId symbol delta price) db).2

/-- The call succeeds and adds the delta to the signed open quantity. -/
def AppliesDelta (delta price : Decimal) : Prop :=
  (postgres.atomically (applyPositionDelta accountId symbol delta price) db).1 = .ok () ∧
    (afterDelta db accountId symbol delta price).signedOpen accountId symbol =
      db.signedOpen accountId symbol + delta

/-- From the signed quantity `signed`, the delta leads to a quantity that an open row can hold, and
the price fits its column where it is written: when a position is opened or flipped. -/
def DeltaFits (signed delta price : Decimal) : Prop :=
  signed + delta ≠ 0 ∧ Numeric.Fits 30 10 (signed + delta) ∧
    (0 < signed * (signed + delta) ∨ (Numeric.store 30 10 price).isSome)

end

/-- The database after a sequence of deltas with their prices. -/
def afterDeltas (accountId : Uuid) (symbol : String) : Db → List (Decimal × Decimal) → Db
  | db, [] => db
  | db, d :: ds => afterDeltas accountId symbol (afterDelta db accountId symbol d.1 d.2) ds

/-- Every call of the sequence applies its delta. -/
def AppliesDeltas (accountId : Uuid) (symbol : String) : Db → List (Decimal × Decimal) → Prop
  | _, [] => True
  | db, d :: ds =>
    AppliesDelta db accountId symbol d.1 d.2 ∧
      AppliesDeltas accountId symbol (afterDelta db accountId symbol d.1 d.2) ds

/-- Every delta of the sequence fits from the running signed quantity. -/
def DeltasFit : Decimal → List (Decimal × Decimal) → Prop
  | _, [] => True
  | signed, d :: ds => DeltaFits signed d.1 d.2 ∧ DeltasFit (signed + d.1) ds

section

variable {db db' : Db} {accountId : Uuid} {symbol : String} {delta price : Decimal}

lemma afterDelta_of_commits
    (h : postgres.Commits (applyPositionDelta accountId symbol delta price) db () db') :
    afterDelta db accountId symbol delta price = db' := by
  rw [afterDelta, Engine.atomically_of_commits h]

/-- After a call the table satisfies the schema, whether the call succeeded or not. -/
lemma positionsValid_afterDelta (hv : PositionsValid db.positions) :
    PositionsValid (afterDelta db accountId symbol delta price).positions := by
  by_cases hdelta : delta = 0
  · have h : postgres.Commits (applyPositionDelta accountId symbol delta price) db () db := by
      simp [applyPositionDelta, hdelta]
    rwa [afterDelta_of_commits h]
  · rcases Engine.atomically_cases postgres (applyPositionDelta accountId symbol delta price) db
      with h | ⟨_, -, h⟩
    · rwa [afterDelta, h]
    · obtain ⟨q, -, -, -, -, heffect⟩ := of_commits_applyPositionDelta hv hdelta h
      exact heffect.valid

lemma appliesDelta_iff (hv : PositionsValid db.positions) (hdelta : delta ≠ 0)
    (hprice : 0 < price) :
    AppliesDelta db accountId symbol delta price ↔
      DeltaFits (db.signedOpen accountId symbol) delta price := by
  set x := db.signedOpen accountId symbol + delta with hx
  have habs : Numeric.Fits 30 10 |x| ↔ Numeric.Fits 30 10 x := by
    simp [Numeric.Fits]
  constructor
  · rintro ⟨hok, hsigned⟩
    have hcommit := (strict_applyPositionDelta accountId symbol delta price).commits hok
    obtain ⟨q, hzero, hq, -, hcol, heffect⟩ := of_commits_applyPositionDelta hv hdelta hcommit
    refine ⟨hzero, ?_, hcol⟩
    -- the stored quantity is exact, since the signed quantity is
    change (postgres.atomically _ db).2.signedOpen accountId symbol = x at hsigned
    rw [heffect.signedOpen, ← hx] at hsigned
    have hexact : q = |x| := by
      split_ifs at hsigned with hpos
      · rw [hsigned, abs_of_pos hpos]
      · rw [abs_of_nonpos (not_lt.mp hpos)]
        linarith
    rw [hexact] at hq
    exact habs.mp (Numeric.fits_of_store hq)
  · rintro ⟨hzero, hfits, hcol⟩
    have hq := Numeric.store_of_fits (habs.mpr hfits)
    obtain ⟨db', hcommit⟩ := commits_applyPositionDelta hv hprice.le hdelta hzero hq
      (abs_pos.mpr hzero) hcol
    refine ⟨by rw [Engine.atomically_of_commits hcommit], ?_⟩
    rw [afterDelta_of_commits hcommit]
    obtain ⟨q, -, hq', -, -, heffect⟩ := of_commits_applyPositionDelta hv hdelta hcommit
    exact heffect.signedOpen_of_isScaled hfits.1 hq'

lemma appliesDeltas_iff (ds : List (Decimal × Decimal)) (hds : ∀ d ∈ ds, d.1 ≠ 0 ∧ 0 < d.2)
    (hv : PositionsValid db.positions) :
    AppliesDeltas accountId symbol db ds ↔ DeltasFit (db.signedOpen accountId symbol) ds := by
  induction ds generalizing db with
  | nil => exact Iff.rfl
  | cons d ds ih =>
    obtain ⟨hdelta, hprice⟩ := hds d (by simp)
    have hv' : PositionsValid (afterDelta db accountId symbol d.1 d.2).positions :=
      positionsValid_afterDelta hv
    have ih := ih (fun d' hd' => hds d' (by simp [hd'])) hv'
    simp only [AppliesDeltas, DeltasFit, ih]
    constructor
    · rintro ⟨happly, hrest⟩
      refine ⟨(appliesDelta_iff hv hdelta hprice).mp happly, ?_⟩
      rwa [happly.2] at hrest
    · rintro ⟨hfit, hrest⟩
      have happly := (appliesDelta_iff hv hdelta hprice).mpr hfit
      refine ⟨happly, ?_⟩
      rwa [happly.2]

lemma signedOpen_afterDeltas (ds : List (Decimal × Decimal))
    (h : AppliesDeltas accountId symbol db ds) :
    (afterDeltas accountId symbol db ds).signedOpen accountId symbol =
      db.signedOpen accountId symbol + (ds.map (·.1)).sum := by
  induction ds generalizing db with
  | nil => simp [afterDeltas]
  | cons d ds ih =>
    obtain ⟨happly, hrest⟩ := h
    rw [afterDeltas, ih hrest, happly.2, List.map_cons, List.sum_cons, add_assoc]

end

/-! ### A long position of one unit -/

/-- An account that is long one unit. -/
def longOne : Db :=
  { Db.empty with
    positions := [{
      id := 1, accountId := ⟨1⟩, symbol := "BTCUSDT", side := .long, quantity := 1
      avgEntryPrice := 100, status := .open, closedAt := none }] }

lemma longOne_valid : PositionsValid longOne.positions where
  ids := by decide
  fits := by decide +kernel
  checked := by decide +kernel
  oneOpen := by decide +kernel

end Confluence
