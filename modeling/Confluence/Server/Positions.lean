import Confluence.Server.Db

/-!
# Positions

What `apply_position_delta` does to the open positions of an account, over tables that satisfy the
schema.
-/

namespace Confluence

/-- The constraints of the `positions` table: primary key, column types, checks, and at most one
open position per account and symbol. -/
structure PositionsValid (positions : List PositionRecord) : Prop where
  ids : (positions.map (·.id)).Nodup
  fits : ∀ r ∈ positions, Numeric.Fits 30 10 r.quantity ∧ Numeric.Fits 30 10 r.avgEntryPrice
  checked : ∀ r ∈ positions, r.Checked
  oneOpen : ∀ r ∈ positions, ∀ r' ∈ positions, r.status = .open → r'.status = .open →
    r.accountId = r'.accountId → r.symbol = r'.symbol → r.id = r'.id

/-- The side of a non-zero signed quantity. -/
def sideOf (signed : Decimal) : PositionSide := if signed > 0 then .long else .short

/-- The row that a fill opens or rewrites, up to its key. -/
def PositionRecord.Holds (r : PositionRecord) (signed quantity : Decimal) : Prop :=
  r.side = sideOf signed ∧ r.quantity = quantity

section

variable {db : Db} {accountId : Uuid} {symbol : String} {r row : PositionRecord}

lemma Db.mem_openOn :
    r ∈ db.openOn accountId symbol ↔
      r ∈ db.positions ∧ r.accountId = accountId ∧ r.symbol = symbol ∧ r.status = .open := by
  simp [Db.openOn, and_assoc]

lemma PositionsValid.eq_of_id (hv : PositionsValid db.positions) {r r' : PositionRecord}
    (hr : r ∈ db.positions) (hr' : r' ∈ db.positions) (h : r.id = r'.id) : r = r' :=
  List.inj_on_of_nodup_map hv.ids hr hr' h

/-- The schema leaves at most one open row on a symbol. -/
lemma PositionsValid.openOn_cases (hv : PositionsValid db.positions) (accountId : Uuid)
    (symbol : String) :
    db.openOn accountId symbol = [] ∨
      ∃ row ∈ db.positions, db.openOn accountId symbol = [row] := by
  have hnodup : (db.openOn accountId symbol).Nodup :=
    (List.Nodup.of_map _ hv.ids).filter _
  rcases h : db.openOn accountId symbol with _ | ⟨r, _ | ⟨r', rs⟩⟩
  · exact .inl rfl
  · have hr : r ∈ db.openOn accountId symbol := by simp [h]
    exact .inr ⟨r, (Db.mem_openOn.mp hr).1, rfl⟩
  · have hr : r ∈ db.openOn accountId symbol := by simp [h]
    have hr' : r' ∈ db.openOn accountId symbol := by simp [h]
    obtain ⟨hmem, ha, hs, ho⟩ := Db.mem_openOn.mp hr
    obtain ⟨hmem', ha', hs', ho'⟩ := Db.mem_openOn.mp hr'
    have hid := hv.oneOpen r hmem r' hmem' ho ho' (ha.trans ha'.symm) (hs.trans hs'.symm)
    obtain rfl := hv.eq_of_id hmem hmem' hid
    simp [h] at hnodup

lemma openOn_congr {db' : Db} (h : db'.positions = db.positions) :
    db'.openOn accountId symbol = db.openOn accountId symbol := by
  rw [Db.openOn, Db.openOn, h]

lemma signedOpen_congr {db' : Db} (h : db'.positions = db.positions) :
    db'.signedOpen accountId symbol = db.signedOpen accountId symbol := by
  rw [Db.signedOpen, Db.signedOpen, openOn_congr h]

lemma Db.signedOpen_of_nil (h : db.openOn accountId symbol = []) :
    db.signedOpen accountId symbol = 0 := by
  simp [Db.signedOpen, h]

lemma Db.signedOpen_of_singleton (h : db.openOn accountId symbol = [row]) :
    db.signedOpen accountId symbol = row.signed := by
  simp [Db.signedOpen, h]

lemma PositionRecord.signed_ne_zero (h : r.quantity > 0) : r.signed ≠ 0 := by
  unfold PositionRecord.signed
  split_ifs
  · simpa using h.ne'
  · exact h.ne'

lemma PositionRecord.long_iff (h : r.quantity > 0) : r.side = .long ↔ r.signed > 0 := by
  unfold PositionRecord.signed
  cases r.side
  · simp [h]
  · simp [h.le]

/-- A row of the side and size of `x` has the signed quantity `x`. -/
lemma PositionRecord.signed_of_holds {x : Decimal} (h : r.Holds x |x|) : r.signed = x := by
  obtain ⟨hside, hquantity⟩ := h
  unfold PositionRecord.signed
  rw [hside, hquantity, sideOf]
  split_ifs with hpos hshort
  · cases hshort
  · exact abs_of_pos hpos
  · rw [abs_of_nonpos (not_lt.mp hpos), neg_neg]
  · simp_all

/-- The signed quantity determines what a row of its side holds. -/
lemma PositionRecord.signed_of_holds' {x q : Decimal} (h : r.Holds x q) :
    r.signed = if x > 0 then q else -q := by
  obtain ⟨hside, hquantity⟩ := h
  unfold PositionRecord.signed
  rw [hside, hquantity, sideOf]
  split_ifs <;> simp_all

end

/-! ### The statements on positions -/

section

variable {db db' : Db} {accountId : Uuid} {symbol : String} {u : Unit}

lemma commits_insertPosition {side : PositionSide} {quantity price : Decimal} :
    postgres.Commits (sql (.insertPosition accountId symbol side quantity price)) db u db' ↔
      ∃ q p, Numeric.store 30 10 quantity = some q ∧ Numeric.store 30 10 price = some p ∧
        q > 0 ∧ p ≥ 0 ∧ db.openOn accountId symbol = [] ∧
        db' = { db with
          positions := db.positions ++
            [⟨freshId (db.positions.map (·.id)), accountId, symbol, side, q, p, .open, none⟩] } := by
  simp only [commits_sql, Statement.exec, column_bind_eq_ok, require_bind_eq_ok]
  simp only [PositionRecord.Checked, List.isEmpty_iff]
  constructor
  · rintro ⟨change, ⟨q, hq, p, hp, ⟨hpos, hnonneg, -⟩, hnone, hexec⟩, rfl⟩
    cases hexec
    exact ⟨q, p, hq, hp, hpos, hnonneg, hnone, rfl⟩
  · rintro ⟨q, p, hq, hp, hpos, hnonneg, hnone, rfl⟩
    exact ⟨_, ⟨q, hq, p, hp, ⟨hpos, hnonneg, by simp⟩, hnone, rfl⟩, rfl⟩

/-- Closing sets the quantity to zero, which the table does not admit. -/
lemma not_commits_closePosition {row : PositionRecord} (h : row ∈ db.positions) :
    ¬ postgres.Commits (sql (.closePosition row.id)) db u db' := by
  simp only [commits_sql, Statement.exec, require_bind_eq_ok]
  rintro ⟨change, ⟨hchecked, -⟩, -⟩
  have := hchecked row (by simp [h])
  simp [PositionRecord.Checked] at this

lemma commits_updatePosition (hv : PositionsValid db.positions) {row : PositionRecord}
    (h : row ∈ db.positions) {side : PositionSide} {quantity price : Decimal} :
    postgres.Commits (sql (.updatePosition row.id side quantity price)) db u db' ↔
      ∃ q p, Numeric.store 30 10 quantity = some q ∧ Numeric.store 30 10 price = some p ∧
        q > 0 ∧ p ≥ 0 ∧
        db' = { db with
          positions := updateWhere (fun r => decide (r.id = row.id))
            (fun r => { r with side, quantity := q, avgEntryPrice := p }) db.positions } := by
  simp only [commits_sql, Statement.exec, column_bind_eq_ok, require_bind_eq_ok]
  constructor
  · rintro ⟨change, ⟨q, hq, p, hp, hchecked, hexec⟩, rfl⟩
    cases hexec
    obtain ⟨hpos, hnonneg, -⟩ := hchecked row (by simp [h])
    exact ⟨q, p, hq, hp, hpos, hnonneg, rfl⟩
  · rintro ⟨q, p, hq, hp, hpos, hnonneg, rfl⟩
    refine ⟨_, ⟨q, hq, p, hp, ?_, rfl⟩, rfl⟩
    intro r hr
    obtain ⟨hmem, hid⟩ := List.mem_filter.mp hr
    obtain rfl := hv.eq_of_id hmem h (by simpa using hid)
    exact ⟨hpos, hnonneg, (hv.checked r h).2.2⟩

end

/-! ### The effect of a delta -/

/-- What a committed delta leaves: a row of side and size of the new signed quantity `x`, stored as
`q`, and everything else as it was. -/
structure DeltaEffect (db db' : Db) (accountId : Uuid) (symbol : String) (x q : Decimal) :
    Prop where
  positions : ∃ positions, db' = { db with positions }
  valid : PositionsValid db'.positions
  opened : ∃ row, db'.openOn accountId symbol = [row] ∧ row.Holds x q
  others : ∀ a s, (a ≠ accountId ∨ s ≠ symbol) → db'.openOn a s = db.openOn a s

section

variable {db : Db} {accountId : Uuid} {symbol : String}

lemma DeltaEffect.of_insert (hv : PositionsValid db.positions)
    (hnone : db.openOn accountId symbol = []) {x q p : Decimal} (hq : Numeric.Fits 30 10 q)
    (hp : Numeric.Fits 30 10 p) (hpos : q > 0) (hnonneg : p ≥ 0) :
    DeltaEffect db
      { db with
        positions := db.positions ++ [⟨freshId (db.positions.map (·.id)), accountId, symbol,
          sideOf x, q, p, .open, none⟩] }
      accountId symbol x q := by
  set row : PositionRecord := ⟨freshId (db.positions.map (·.id)), accountId, symbol,
    sideOf x, q, p, .open, none⟩ with hrow
  have hother (r : PositionRecord) (hr : r ∈ db.positions) (ho : r.status = .open)
      (ha : r.accountId = accountId) (hs : r.symbol = symbol) : False := by
    have := Db.mem_openOn.mpr ⟨hr, ha, hs, ho⟩
    simp [hnone] at this
  refine ⟨⟨_, rfl⟩, ⟨?_, ?_, ?_, ?_⟩, ⟨row, ?_, rfl, rfl⟩, ?_⟩
  · rw [List.map_append, List.nodup_append]
    refine ⟨hv.ids, by simp, ?_⟩
    rintro i hi j hj rfl
    have := lt_freshId hi
    simp [hrow] at hj
    omega
  · intro r hr
    rcases List.mem_append.mp hr with hr | hr
    · exact hv.fits r hr
    · obtain rfl := List.mem_singleton.mp hr
      exact ⟨hq, hp⟩
  · intro r hr
    rcases List.mem_append.mp hr with hr | hr
    · exact hv.checked r hr
    · obtain rfl := List.mem_singleton.mp hr
      exact ⟨hpos, hnonneg, by simp [hrow]⟩
  · intro r hr r' hr' ho ho' ha hs
    rcases List.mem_append.mp hr with hr | hr <;> rcases List.mem_append.mp hr' with hr' | hr'
    · exact hv.oneOpen r hr r' hr' ho ho' ha hs
    · obtain rfl := List.mem_singleton.mp hr'
      exact (hother r hr ho ha hs).elim
    · obtain rfl := List.mem_singleton.mp hr
      exact (hother r' hr' ho' ha.symm hs.symm).elim
    · rw [List.mem_singleton.mp hr, List.mem_singleton.mp hr']
  · simp only [Db.openOn] at hnone ⊢
    rw [List.filter_append, hnone]
    simp [hrow]
  · intro a s hne
    simp only [Db.openOn, List.filter_append]
    rcases hne with hne | hne <;> simp [hrow, hne.symm]

lemma DeltaEffect.of_update (hv : PositionsValid db.positions) {row : PositionRecord}
    (h : row ∈ db.positions) (hrow : db.openOn accountId symbol = [row]) {x q p : Decimal}
    (hq : Numeric.Fits 30 10 q) (hp : Numeric.Fits 30 10 p) (hpos : q > 0) (hnonneg : p ≥ 0) :
    DeltaEffect db
      { db with
        positions := updateWhere (fun r => decide (r.id = row.id))
          (fun r => { r with side := sideOf x, quantity := q, avgEntryPrice := p }) db.positions }
      accountId symbol x q := by
  have hin : row ∈ db.openOn accountId symbol := by simp [hrow]
  obtain ⟨-, ha, hs, ho⟩ := Db.mem_openOn.mp hin
  let rewrite (r : PositionRecord) : PositionRecord :=
    { r with side := sideOf x, quantity := q, avgEntryPrice := p }
  have hopenOn (a : Uuid) (s : String) :
      (updateWhere (fun r => decide (r.id = row.id)) rewrite db.positions).filter (fun r =>
          decide (r.accountId = a) && decide (r.symbol = s) && decide (r.status = .open)) =
        updateWhere (fun r => decide (r.id = row.id)) rewrite (db.openOn a s) :=
    filter_updateWhere fun _ => rfl
  refine ⟨⟨_, rfl⟩, ⟨?_, ?_, ?_, ?_⟩,
    ⟨{ row with side := sideOf x, quantity := q, avgEntryPrice := p }, ?_, rfl, rfl⟩, ?_⟩
  · simp only
    rw [map_updateWhere]
    · exact hv.ids
    · exact fun _ => rfl
  · intro r' hr'
    obtain ⟨r, hr, rfl⟩ := mem_updateWhere.mp hr'
    split_ifs
    · exact ⟨hq, hp⟩
    · exact hv.fits r hr
  · intro r' hr'
    obtain ⟨r, hr, rfl⟩ := mem_updateWhere.mp hr'
    split_ifs
    · exact ⟨hpos, hnonneg, (hv.checked r hr).2.2⟩
    · exact hv.checked r hr
  · intro r₁ hr₁ r₂ hr₂
    obtain ⟨r, hr, rfl⟩ := mem_updateWhere.mp hr₁
    obtain ⟨r', hr', rfl⟩ := mem_updateWhere.mp hr₂
    have := hv.oneOpen r hr r' hr'
    split_ifs <;> simpa using this
  · rw [Db.openOn, hopenOn, hrow]
    simp [updateWhere, rewrite]
  · intro a s hne
    rw [Db.openOn, hopenOn]
    refine updateWhere_eq_self fun r hr => ?_
    have hr := Db.mem_openOn.mp hr
    by_contra hid
    obtain rfl := hv.eq_of_id hr.1 h (by simpa using hid)
    rcases hne with hne | hne
    · exact hne (hr.2.1.symm.trans ha)
    · exact hne (hr.2.2.1.symm.trans hs)

end

/-! ### When a delta commits -/

section

variable {db db' : Db} {accountId : Uuid} {symbol : String} {delta price : Decimal} {u : Unit}

lemma DeltaEffect.signedOpen {x q : Decimal} (h : DeltaEffect db db' accountId symbol x q) :
    db'.signedOpen accountId symbol = if x > 0 then q else -q := by
  obtain ⟨row, hrow, hholds⟩ := h.opened
  rw [Db.signedOpen_of_singleton hrow, PositionRecord.signed_of_holds' hholds]

/-- A signed quantity with ten digits after the point is kept as it is. -/
lemma DeltaEffect.signedOpen_of_isScaled {x q : Decimal}
    (h : DeltaEffect db db' accountId symbol x q) (hx : Numeric.IsScaled 10 x)
    (hq : Numeric.store 30 10 |x| = some q) : db'.signedOpen accountId symbol = x := by
  obtain rfl : q = |x| := Numeric.eq_of_store (Numeric.isScaled_abs.mpr hx) hq
  obtain ⟨row, hrow, hholds⟩ := h.opened
  rw [Db.signedOpen_of_singleton hrow, PositionRecord.signed_of_holds hholds]

/-- Open positions have ten digits after the point. -/
lemma PositionsValid.isScaled_signedOpen (hv : PositionsValid db.positions) (accountId : Uuid)
    (symbol : String) : Numeric.IsScaled 10 (db.signedOpen accountId symbol) := by
  rcases hv.openOn_cases accountId symbol with hnone | ⟨row, hmem, hrow⟩
  · rw [Db.signedOpen_of_nil hnone]
    exact Numeric.isScaled_zero 10
  · rw [Db.signedOpen_of_singleton hrow, PositionRecord.signed]
    have hscaled := (hv.fits row hmem).1.1
    split_ifs
    · exact hscaled.neg
    · exact hscaled

/-- The signed quantity keeps its sign, so that the cost basis stays. -/
lemma sameDirection_iff {row : PositionRecord} (h : row.quantity > 0) {x : Decimal} (hx : x ≠ 0) :
    (row.side = .long ↔ x > 0) ↔ 0 < row.signed * x := by
  rw [PositionRecord.long_iff h, mul_pos_iff]
  rcases lt_or_gt_of_ne hx with hx | hx <;>
    rcases lt_or_gt_of_ne (PositionRecord.signed_ne_zero h) with hs | hs <;>
    simp [hx, hs, not_lt_of_gt]

lemma commits_apply_of_nil (hdelta : delta ≠ 0) (h : db.openOn accountId symbol = []) :
    postgres.Commits (applyPositionDelta accountId symbol delta price) db u db' ↔
      postgres.Commits (sql (.insertPosition accountId symbol (sideOf delta) |delta| price)) db u
        db' := by
  simp only [applyPositionDelta, if_neg hdelta, Engine.commits_bind, commits_selectOpenPosition]
  constructor
  · rintro ⟨_, _, ⟨rfl, rfl⟩, hcommit⟩
    rw [h] at hcommit
    exact hcommit
  · intro hcommit
    refine ⟨_, db, ⟨rfl, rfl⟩, ?_⟩
    rw [h]
    exact hcommit

lemma commits_apply_of_row {row : PositionRecord} (hdelta : delta ≠ 0)
    (h : db.openOn accountId symbol = [row]) :
    postgres.Commits (applyPositionDelta accountId symbol delta price) db u db' ↔
      postgres.Commits
        (if row.signed + delta = 0 then sql (.closePosition row.id)
          else sql (.updatePosition row.id (sideOf (row.signed + delta)) |row.signed + delta|
            (if row.side = .long ↔ row.signed + delta > 0 then row.avgEntryPrice else price)))
        db u db' := by
  simp only [applyPositionDelta, if_neg hdelta, Engine.commits_bind, commits_selectOpenPosition]
  constructor
  · rintro ⟨_, _, ⟨rfl, rfl⟩, hcommit⟩
    rw [h] at hcommit
    exact hcommit
  · intro hcommit
    refine ⟨_, db, ⟨rfl, rfl⟩, ?_⟩
    rw [h]
    exact hcommit

/-- A committed delta makes the signed quantity its old value plus the delta, as far as the column
keeps it. -/
lemma of_commits_applyPositionDelta (hv : PositionsValid db.positions) (hdelta : delta ≠ 0)
    (h : postgres.Commits (applyPositionDelta accountId symbol delta price) db u db') :
    ∃ q, db.signedOpen accountId symbol + delta ≠ 0 ∧
      Numeric.store 30 10 |db.signedOpen accountId symbol + delta| = some q ∧ q > 0 ∧
      (0 < db.signedOpen accountId symbol * (db.signedOpen accountId symbol + delta) ∨
        (Numeric.store 30 10 price).isSome) ∧
      DeltaEffect db db' accountId symbol (db.signedOpen accountId symbol + delta) q := by
  rcases hv.openOn_cases accountId symbol with hnone | ⟨row, hmem, hrow⟩
  · rw [Db.signedOpen_of_nil hnone, zero_add]
    rw [commits_apply_of_nil hdelta hnone, commits_insertPosition] at h
    obtain ⟨q, p, hq, hp, hpos, hnonneg, hopen, rfl⟩ := h
    refine ⟨q, hdelta, hq, hpos, .inr (by simp [hp]), ?_⟩
    exact .of_insert hv hopen (Numeric.fits_of_store hq) (Numeric.fits_of_store hp) hpos hnonneg
  · have hqty : row.quantity > 0 := (hv.checked row hmem).1
    rw [Db.signedOpen_of_singleton hrow]
    rw [commits_apply_of_row hdelta hrow] at h
    by_cases hzero : row.signed + delta = 0
    · rw [if_pos hzero] at h
      exact (not_commits_closePosition hmem h).elim
    · rw [if_neg hzero, commits_updatePosition hv hmem] at h
      obtain ⟨q, p, hq, hp, hpos, hnonneg, rfl⟩ := h
      refine ⟨q, hzero, hq, hpos, ?_, ?_⟩
      · by_cases hsame : row.side = .long ↔ row.signed + delta > 0
        · exact .inl ((sameDirection_iff hqty hzero).mp hsame)
        · rw [if_neg hsame] at hp
          exact .inr (by simp [hp])
      · exact .of_update hv hmem hrow (Numeric.fits_of_store hq) (Numeric.fits_of_store hp) hpos
          hnonneg

/-- A delta whose new quantity and, where it is written, price fit their columns commits. -/
lemma commits_applyPositionDelta (hv : PositionsValid db.positions) (hprice : 0 ≤ price)
    (hdelta : delta ≠ 0) {q : Decimal} (hzero : db.signedOpen accountId symbol + delta ≠ 0)
    (hq : Numeric.store 30 10 |db.signedOpen accountId symbol + delta| = some q) (hpos : q > 0)
    (hcol : 0 < db.signedOpen accountId symbol * (db.signedOpen accountId symbol + delta) ∨
      (Numeric.store 30 10 price).isSome) :
    ∃ db', postgres.Commits (applyPositionDelta accountId symbol delta price) db () db' := by
  rcases hv.openOn_cases accountId symbol with hnone | ⟨row, hmem, hrow⟩
  · rw [Db.signedOpen_of_nil hnone, zero_add] at hq
    rw [Db.signedOpen_of_nil hnone, zero_mul] at hcol
    obtain ⟨p, hp⟩ := Option.isSome_iff_exists.mp (hcol.resolve_left (lt_irrefl 0))
    simp only [commits_apply_of_nil hdelta hnone, commits_insertPosition]
    exact ⟨_, q, p, hq, hp, hpos, Numeric.nonneg_of_store hprice hp, hnone, rfl⟩
  · have hqty : row.quantity > 0 := (hv.checked row hmem).1
    rw [Db.signedOpen_of_singleton hrow] at hzero hq hcol
    simp only [commits_apply_of_row hdelta hrow, if_neg hzero, commits_updatePosition hv hmem]
    by_cases hsame : row.side = .long ↔ row.signed + delta > 0
    · rw [if_pos hsame]
      exact ⟨_, q, row.avgEntryPrice, hq, Numeric.store_of_fits (hv.fits row hmem).2, hpos,
        (hv.checked row hmem).2.1, rfl⟩
    · have hflip := hcol.resolve_left fun h => hsame ((sameDirection_iff hqty hzero).mpr h)
      obtain ⟨p, hp⟩ := Option.isSome_iff_exists.mp hflip
      rw [if_neg hsame]
      exact ⟨_, q, p, hq, hp, hpos, Numeric.nonneg_of_store hprice hp, rfl⟩

end

end Confluence
