import Confluence.Properties.MarketPrice
import Confluence.Server.Positions

/-!
# Predicted exposure

The engine predicts the exposure of a group as what is open plus the notional of the trade. The
database computes it from the quantity and the stored entry price of each position, and keeps that
price when a position grows. The two agree except there: the exposure stays within its limit
exactly when the growth, counted at the stored price, does.
-/

namespace Confluence

/-- The notional of the open positions of a correlation group. -/
def AccountSnapshot.groupNotional (snapshot : AccountSnapshot) (group : String) : Decimal :=
  ((snapshot.openPositions.filter fun p =>
    snapshot.correlationGroups p.symbol = some group).map (·.notional)).sum

/-- The limit of the notional of a correlation group. -/
def exposureLimit (snapshot : AccountSnapshot) (cfg : RiskConfig) : Decimal :=
  snapshot.equity * cfg.maxCorrelatedExposurePct / 100

/-- The signed quantity that a fill of the whole trade adds. -/
def TradeIntent.delta (intent : TradeIntent) : Decimal :=
  match intent.side with
  | .buy => intent.quantity
  | .sell => -intent.quantity

/-- The number of positions and the exposure of the symbol's group stay within their limits, or do
not grow. -/
def StaysWithinLimits (before after : AccountSnapshot) (cfg : RiskConfig) (symbol : String) : Prop :=
  (after.openPositions.length : ℤ) ≤
      max (before.openPositions.length : ℤ) cfg.maxConcurrentPositions ∧
    ∀ group, before.correlationGroups symbol = some group →
      after.groupNotional group ≤ max (before.groupNotional group) (exposureLimit before cfg)

/-- Where the trade makes an open position grow, the growth at the entry price of the position stays
within the limit of its group. -/
def GrowsWithinLimit (db : Db) (accountId : Uuid) (snapshot : AccountSnapshot) (cfg : RiskConfig)
    (intent : TradeIntent) : Prop :=
  ∀ row ∈ db.openOn accountId intent.symbol, opposes intent.side row.side = false →
    ∀ group, snapshot.correlationGroups intent.symbol = some group →
      snapshot.groupNotional group + intent.quantity * row.avgEntryPrice ≤
        max (snapshot.groupNotional group) (exposureLimit snapshot cfg)

/-! ### The exposure of a group in the database -/

/-- The open positions of a group, given the groups of the symbols. -/
def Db.inGroup (db : Db) (accountId : Uuid) (groups : String → Option String) (group : String) :
    List PositionRecord :=
  (db.openPositions accountId).filter fun r => groups r.symbol = some group

def PositionRecord.notional (r : PositionRecord) : Decimal := r.quantity * r.avgEntryPrice

section

variable {db db' : Db} {accountId : Uuid} {account : AccountRow} {today : Date} {group : String}
  {groups : String → Option String} {row : PositionRecord} {symbol : String}

lemma groupNotional_snapshot (db : Db) (accountId : Uuid) (account : AccountRow) (today : Date)
    (group : String) :
    (db.snapshot accountId account today).groupNotional group =
      ((db.inGroup accountId (db.snapshot accountId account today).correlationGroups group).map
        (·.notional)).sum := by
  unfold AccountSnapshot.groupNotional Db.inGroup
  congr 1
  show ((((db.openPositions accountId).map _).filter _).map _) = _
  rw [List.filter_map, List.map_map]
  rfl

lemma length_snapshot (db : Db) (accountId : Uuid) (account : AccountRow) (today : Date) :
    (db.snapshot accountId account today).openPositions.length =
      (db.openPositions accountId).length :=
  List.length_map _

/-- A new open position of the group. -/
lemma inGroup_append (ha : row.accountId = accountId) (ho : row.status = .open)
    (hgroup : groups row.symbol = some group) :
    Db.inGroup { db with positions := db.positions ++ [row] } accountId groups group =
      db.inGroup accountId groups group ++ [row] := by
  simp [Db.inGroup, Db.openPositions, List.filter_append, ha, ho, hgroup]

lemma openPositions_append (ha : row.accountId = accountId) (ho : row.status = .open) :
    Db.openPositions { db with positions := db.positions ++ [row] } accountId =
      db.openPositions accountId ++ [row] := by
  simp [Db.openPositions, List.filter_append, ha, ho]

/-- One open position of the group is rewritten. -/
lemma sum_inGroup_update (hv : PositionsValid db.positions)
    (hrow : db.openOn accountId symbol = [row]) (hgroup : groups symbol = some group)
    {f : PositionRecord → PositionRecord} (hf : ∀ r, (f r).accountId = r.accountId ∧
      (f r).symbol = r.symbol ∧ (f r).status = r.status) :
    ((Db.inGroup { db with
        positions := updateWhere (fun r => decide (r.id = row.id)) f db.positions }
        accountId groups group).map (·.notional)).sum + row.notional =
      ((db.inGroup accountId groups group).map (·.notional)).sum + (f row).notional := by
  have hmem : row ∈ db.openOn accountId symbol := by simp [hrow]
  obtain ⟨hin, ha, hs, ho⟩ := Db.mem_openOn.mp hmem
  have hingroup : row ∈ db.inGroup accountId groups group := by
    simp [Db.inGroup, Db.openPositions, hin, ha, hs, ho, hgroup]
  have hids : ((db.inGroup accountId groups group).map (·.id)).Nodup :=
    ((List.filter_sublist.trans List.filter_sublist).map _).nodup hv.ids
  have hupdate : Db.inGroup { db with
        positions := updateWhere (fun r => decide (r.id = row.id)) f db.positions }
        accountId groups group =
      updateWhere (fun r => decide (r.id = row.id)) f (db.inGroup accountId groups group) := by
    unfold Db.inGroup Db.openPositions
    rw [filter_updateWhere, filter_updateWhere]
    · intro r
      simp [(hf r).2.1]
    · intro r
      simp [(hf r).1, (hf r).2.2]
  rw [hupdate]
  exact sum_updateWhere hids hingroup _

lemma length_openPositions_update {id : ℕ} {f : PositionRecord → PositionRecord}
    (hf : ∀ r, (f r).accountId = r.accountId ∧ (f r).status = r.status) :
    (Db.openPositions { db with
      positions := updateWhere (fun r => decide (r.id = id)) f db.positions } accountId).length =
      (db.openPositions accountId).length := by
  unfold Db.openPositions
  rw [filter_updateWhere]
  · exact List.length_map _
  · intro r
    simp [(hf r).1, (hf r).2]

end

/-! ### The fill of an approved trade -/

section

variable {db db' : Db} {accountId : Uuid} {account : AccountRow} {today : Date} {cfg : RiskConfig}
  {intent : TradeIntent} {row : PositionRecord}

lemma isScaled_delta (h : Numeric.IsScaled 10 intent.quantity) :
    Numeric.IsScaled 10 intent.delta := by
  unfold TradeIntent.delta
  cases intent.side with
  | buy => exact h
  | sell => exact h.neg

/-- The quantity that a fill leaves on an open position, and whether it stays on its side. -/
inductive Refilled (row : PositionRecord) (intent : TradeIntent) : Prop
  | grown (h : opposes intent.side row.side = false)
      (hquantity : |row.signed + intent.delta| = row.quantity + intent.quantity)
      (hside : row.side = .long ↔ row.signed + intent.delta > 0)
  | shrunk (h : opposes intent.side row.side = true) (hlt : intent.quantity < row.quantity)
      (hquantity : |row.signed + intent.delta| = row.quantity - intent.quantity)
      (hside : row.side = .long ↔ row.signed + intent.delta > 0)
  | closed (h : row.signed + intent.delta = 0)
  | flipped (h : opposes intent.side row.side = true) (hlt : row.quantity < intent.quantity)
      (hquantity : |row.signed + intent.delta| = intent.quantity - row.quantity)
      (hside : ¬ (row.side = .long ↔ row.signed + intent.delta > 0))

/-- A long position after a fill of `q`, and the same for a short one with the signs exchanged. -/
lemma abs_add_sub {s q : Decimal} (hs : 0 < s) (hq : 0 ≤ q) :
    |s + q| = s + q ∧ |-s + -q| = s + q ∧ (q < s → |s + -q| = s - q ∧ |-s + q| = s - q) ∧
      (s < q → |s + -q| = q - s ∧ |-s + q| = q - s) := by
  refine ⟨abs_of_pos (by linarith), ?_, fun h => ⟨?_, ?_⟩, fun h => ⟨?_, ?_⟩⟩
  · rw [abs_of_neg (by linarith)]
    ring
  · rw [abs_of_pos (by linarith)]
    ring
  · rw [abs_of_neg (by linarith)]
    ring
  · rw [abs_of_neg (by linarith)]
    ring
  · rw [abs_of_pos (by linarith)]
    ring

lemma refilled (hpos : row.quantity > 0) (hquantity : 0 ≤ intent.quantity) :
    Refilled row intent := by
  obtain ⟨hgrow, hgrow', hshrink, hflip⟩ := abs_add_sub hpos hquantity
  cases hrow : row.side with
  | long =>
    have hsigned : row.signed = row.quantity := by simp [PositionRecord.signed, hrow]
    cases hside : intent.side with
    | buy =>
      have hdelta : intent.delta = intent.quantity := by simp [TradeIntent.delta, hside]
      refine .grown (by simp [opposes, hrow, hside]) (by rw [hsigned, hdelta, hgrow]) ?_
      simp only [hrow, hsigned, hdelta, true_iff]
      linarith
    | sell =>
      have hdelta : intent.delta = -intent.quantity := by simp [TradeIntent.delta, hside]
      have hopposes : opposes intent.side row.side = true := by simp [opposes, hrow, hside]
      rcases lt_trichotomy intent.quantity row.quantity with hlt | heq | hgt
      · refine .shrunk hopposes hlt (by rw [hsigned, hdelta, (hshrink hlt).1]) ?_
        simp only [hrow, hsigned, hdelta, true_iff]
        linarith
      · exact .closed (by rw [hsigned, hdelta, heq, add_neg_cancel])
      · refine .flipped hopposes hgt (by rw [hsigned, hdelta, (hflip hgt).1]) ?_
        simp only [hrow, hsigned, hdelta, true_iff, not_lt, gt_iff_lt]
        linarith
  | short =>
    have hsigned : row.signed = -row.quantity := by simp [PositionRecord.signed, hrow]
    cases hside : intent.side with
    | sell =>
      have hdelta : intent.delta = -intent.quantity := by simp [TradeIntent.delta, hside]
      refine .grown (by simp [opposes, hrow, hside]) (by rw [hsigned, hdelta, hgrow']) ?_
      simp only [hrow, hsigned, hdelta, reduceCtorEq, false_iff, not_lt, gt_iff_lt]
      linarith
    | buy =>
      have hdelta : intent.delta = intent.quantity := by simp [TradeIntent.delta, hside]
      have hopposes : opposes intent.side row.side = true := by simp [opposes, hrow, hside]
      rcases lt_trichotomy intent.quantity row.quantity with hlt | heq | hgt
      · refine .shrunk hopposes hlt (by rw [hsigned, hdelta, (hshrink hlt).2]) ?_
        simp only [hrow, hsigned, hdelta, reduceCtorEq, false_iff, not_lt, gt_iff_lt]
        linarith
      · exact .closed (by rw [hsigned, hdelta, heq, neg_add_cancel])
      · refine .flipped hopposes hgt (by rw [hsigned, hdelta, (hflip hgt).2]) ?_
        simp only [hrow, hsigned, hdelta, reduceCtorEq, false_iff, not_not, gt_iff_lt]
        linarith

/-- What the fill of a trade leaves of the open positions: the row that it has opened or rewritten,
with quantity and entry price as they are stored. -/
inductive Filled (db db' : Db) (accountId : Uuid) (intent : TradeIntent) : Prop
  | nothing (h : intent.quantity = 0) (hdb : db' = db)
  | opened (hnone : db.openOn accountId intent.symbol = []) (id : ℕ) (side : PositionSide)
      (hdb : db' = { db with
        positions := db.positions ++ [⟨id, accountId, intent.symbol, side, intent.quantity,
          intent.price, .open, none⟩] })
  | rewritten (row : PositionRecord) (side : PositionSide) (quantity price : Decimal)
      (hrow : db.openOn accountId intent.symbol = [row])
      (hdb : db' = { db with
        positions := updateWhere (fun r => decide (r.id = row.id))
          (fun r => { r with side, quantity, avgEntryPrice := price }) db.positions })
      (h : (opposes intent.side row.side = false ∧
          quantity = row.quantity + intent.quantity ∧ price = row.avgEntryPrice) ∨
        (opposes intent.side row.side = true ∧ intent.quantity < row.quantity ∧
          quantity = row.quantity - intent.quantity ∧ price = row.avgEntryPrice) ∨
        (opposes intent.side row.side = true ∧ row.quantity < intent.quantity ∧
          quantity = intent.quantity - row.quantity ∧ price = intent.price))

lemma filled_of_commits (hv : PositionsValid db.positions)
    (hquantity : Numeric.IsScaled 10 intent.quantity) (hprice : Numeric.IsScaled 10 intent.price)
    (hpos : 0 ≤ intent.quantity)
    (h : postgres.Commits (applyPositionDelta accountId intent.symbol intent.delta intent.price)
      db () db') : Filled db db' accountId intent := by
  by_cases hzero : intent.delta = 0
  · have hnone : intent.quantity = 0 := by
      unfold TradeIntent.delta at hzero
      cases hside : intent.side <;> simpa [hside] using hzero
    simp only [applyPositionDelta, hzero, if_true, Engine.commits_pure] at h
    exact .nothing hnone h.2.symm
  · rcases hv.openOn_cases accountId intent.symbol with hnone | ⟨row, hmem, hrow⟩
    · rw [commits_apply_of_nil hzero hnone, commits_insertPosition] at h
      obtain ⟨q, p, hq, hp, -, -, -, rfl⟩ := h
      obtain rfl := Numeric.eq_of_store hprice hp
      obtain rfl := Numeric.eq_of_store (Numeric.isScaled_abs.mpr (isScaled_delta hquantity)) hq
      have habs : |intent.delta| = intent.quantity := by
        unfold TradeIntent.delta
        cases intent.side <;> simp [abs_of_nonneg hpos]
      rw [habs]
      exact .opened hnone _ _ rfl
    · have hqty : row.quantity > 0 := (hv.checked row hmem).1
      have hscaled : Numeric.IsScaled 10 |row.signed + intent.delta| := by
        rw [Numeric.isScaled_abs, ← Db.signedOpen_of_singleton hrow]
        exact (hv.isScaled_signedOpen _ _).add (isScaled_delta hquantity)
      rw [commits_apply_of_row hzero hrow] at h
      by_cases hclosed : row.signed + intent.delta = 0
      · rw [if_pos hclosed] at h
        exact (not_commits_closePosition hmem h).elim
      · rw [if_neg hclosed, commits_updatePosition hv hmem] at h
        obtain ⟨q, p, hq, hp, -, -, rfl⟩ := h
        obtain rfl := Numeric.eq_of_store hscaled hq
        refine .rewritten row _ _ p hrow rfl ?_
        have havg : Numeric.IsScaled 10 row.avgEntryPrice := (hv.fits row hmem).2.1
        cases refilled hqty hpos with
        | closed hzero => exact (hclosed hzero).elim
        | grown hopposes hquantity hside =>
          rw [if_pos hside] at hp
          exact .inl ⟨hopposes, hquantity, Numeric.eq_of_store havg hp⟩
        | shrunk hopposes hlt hquantity hside =>
          rw [if_pos hside] at hp
          exact .inr (.inl ⟨hopposes, hlt, hquantity, Numeric.eq_of_store havg hp⟩)
        | flipped hopposes hlt hquantity hside =>
          rw [if_neg hside] at hp
          exact .inr (.inr ⟨hopposes, hlt, hquantity, Numeric.eq_of_store hprice hp⟩)

/-- A trade that the engine does not size goes against an open position that is as large. -/
lemma of_reducesExistingPosition
    (h : reducesExistingPosition intent (db.snapshot accountId account today) = true) :
    ∃ row ∈ db.openOn accountId intent.symbol, opposes intent.side row.side = true ∧
      intent.quantity ≤ row.quantity := by
  obtain ⟨p, hp, hcond⟩ := List.any_eq_true.mp h
  obtain ⟨r, hr, rfl⟩ := List.mem_map.mp hp
  simp only [Bool.and_eq_true, decide_eq_true_eq] at hcond
  simp only [Db.openPositions, List.mem_filter, Bool.and_eq_true, decide_eq_true_eq] at hr
  exact ⟨r, Db.mem_openOn.mpr ⟨hr.1, hr.2.1, hcond.1.1, hr.2.2⟩, hcond.1.2, hcond.2⟩

/-- The exposure of the symbol's group after a fill that opens a position. -/
lemma groupNotional_opened {id : ℕ} {side : PositionSide} {group : String}
    (hgroup : (db.snapshot accountId account today).correlationGroups intent.symbol = some group) :
    (Db.snapshot { db with
        positions := db.positions ++ [⟨id, accountId, intent.symbol, side, intent.quantity,
          intent.price, .open, none⟩] } accountId account today).groupNotional group =
      (db.snapshot accountId account today).groupNotional group + intent.notional := by
  set opened : PositionRecord := ⟨id, accountId, intent.symbol, side, intent.quantity,
    intent.price, .open, none⟩
  have happend : Db.inGroup { db with positions := db.positions ++ [opened] } accountId _ group =
      db.inGroup accountId _ group ++ [opened] := inGroup_append rfl rfl hgroup
  rw [groupNotional_snapshot db]
  refine (groupNotional_snapshot { db with positions := db.positions ++ [opened] } ..).trans ?_
  refine (congrArg (fun rows => (rows.map PositionRecord.notional).sum) happend).trans ?_
  rw [List.map_append, List.sum_append, List.map_singleton, List.sum_singleton]
  rfl

/-- The exposure of the symbol's group after a fill that rewrites a position. -/
lemma groupNotional_rewritten (hv : PositionsValid db.positions)
    (hrow : db.openOn accountId intent.symbol = [row]) {side : PositionSide}
    {quantity price : Decimal} {group : String}
    (hgroup : (db.snapshot accountId account today).correlationGroups intent.symbol = some group) :
    (Db.snapshot { db with
        positions := updateWhere (fun r => decide (r.id = row.id))
          (fun r => { r with side, quantity, avgEntryPrice := price }) db.positions }
        accountId account today).groupNotional group =
      (db.snapshot accountId account today).groupNotional group -
        row.quantity * row.avgEntryPrice + quantity * price := by
  have hsum := sum_inGroup_update hv hrow hgroup
    (f := fun r => { r with side, quantity, avgEntryPrice := price }) fun _ => ⟨rfl, rfl, rfl⟩
  rw [groupNotional_snapshot db]
  refine (groupNotional_snapshot { db with
    positions := updateWhere (fun r => decide (r.id = row.id))
      (fun r => { r with side, quantity, avgEntryPrice := price }) db.positions } ..).trans ?_
  exact (eq_sub_of_add_eq hsum).trans (add_sub_right_comm _ _ _)

/-- A fill that opens a position stays within the limits that the engine has checked. -/
lemma stays_opened {id : ℕ} {side : PositionSide}
    (hnone : db.openOn accountId intent.symbol = [])
    (hpasses : PassesSizing intent (db.snapshot accountId account today) cfg) :
    StaysWithinLimits (db.snapshot accountId account today) (Db.snapshot { db with
      positions := db.positions ++ [⟨id, accountId, intent.symbol, side, intent.quantity,
        intent.price, .open, none⟩] } accountId account today) cfg intent.symbol := by
  constructor
  · have hroom := hpasses.room.resolve_left (by
      rintro ⟨p, hp, hsymbol⟩
      obtain ⟨r, hr, rfl⟩ := List.mem_map.mp hp
      simp only [Db.openPositions, List.mem_filter, Bool.and_eq_true, decide_eq_true_eq] at hr
      have hmem := Db.mem_openOn.mpr ⟨hr.1, hr.2.1, hsymbol, hr.2.2⟩
      rw [hnone] at hmem
      cases hmem)
    rw [length_snapshot] at hroom ⊢
    rw [openPositions_append rfl rfl, List.length_append, List.length_singleton]
    refine le_max_of_le_right ?_
    push_cast
    omega
  · intro group hgroup
    rw [groupNotional_opened hgroup]
    exact le_max_of_le_right (hpasses.exposure group hgroup)

/-- The fill of an approved trade keeps the number of positions and the exposure of its group within
the limits, if and only if a growth at the stored entry price does. -/
theorem exposure_within_limits_iff (hv : PositionsValid db.positions)
    (hquantity : Numeric.IsScaled 10 intent.quantity) (hprice : Numeric.IsScaled 10 intent.price)
    (happroved : evaluate intent (db.snapshot accountId account today) cfg = .approved)
    (hfill : postgres.Commits
      (applyPositionDelta accountId intent.symbol intent.delta intent.price) db () db') :
    StaysWithinLimits (db.snapshot accountId account today) (db'.snapshot accountId account today)
        cfg intent.symbol ↔
      GrowsWithinLimit db accountId (db.snapshot accountId account today) cfg intent := by
  obtain ⟨hpos, hnonneg, hsizing⟩ := of_evaluate_approved happroved
  cases filled_of_commits hv hquantity hprice hpos hfill with
  | nothing hnone hdb =>
    subst hdb
    constructor
    · intro _ row _ _ group _
      rw [hnone, zero_mul, add_zero]
      exact le_max_left _ _
    · intro _
      exact ⟨le_max_left _ _, fun _ _ => le_max_left _ _⟩
  | opened hnone id side hdb =>
    subst hdb
    have hpasses : PassesSizing intent (db.snapshot accountId account today) cfg := by
      refine hsizing.resolve_left fun hreduces => ?_
      obtain ⟨row, hrow, -, -⟩ := of_reducesExistingPosition hreduces
      rw [hnone] at hrow
      cases hrow
    constructor
    · intro _ row hrow
      rw [hnone] at hrow
      cases hrow
    · intro _
      exact stays_opened hnone hpasses
  | rewritten row side quantity price hrow hdb hcases =>
    subst hdb
    have hmem : row ∈ db.positions := (Db.mem_openOn.mp (by rw [hrow]; simp)).1
    obtain ⟨hqty, havg, -⟩ := hv.checked row hmem
    have hcount : (Db.openPositions { db with
        positions := updateWhere (fun r => decide (r.id = row.id))
          (fun r => { r with side, quantity, avgEntryPrice := price }) db.positions }
        accountId).length = (db.openPositions accountId).length :=
      length_openPositions_update fun _ => ⟨rfl, rfl⟩
    constructor
    · intro hstays row' hrow' hgrows group hgroup
      rw [hrow, List.mem_singleton] at hrow'
      subst hrow'
      rcases hcases with ⟨-, rfl, rfl⟩ | ⟨hopposes, -⟩ | ⟨hopposes, -⟩
      · have hle := hstays.2 group hgroup
        rw [groupNotional_rewritten hv hrow hgroup] at hle
        refine le_trans (le_of_eq ?_) hle
        ring
      · rw [hgrows] at hopposes
        cases hopposes
      · rw [hgrows] at hopposes
        cases hopposes
    · intro hwithin
      refine ⟨?_, fun group hgroup => ?_⟩
      · rw [length_snapshot, length_snapshot, hcount]
        exact le_max_left _ _
      · rw [groupNotional_rewritten hv hrow hgroup]
        rcases hcases with ⟨hgrows, rfl, rfl⟩ | ⟨-, hlt, rfl, rfl⟩ | ⟨-, hlt, rfl, rfl⟩
        · refine le_trans (le_of_eq ?_) (hwithin row (by rw [hrow]; simp) hgrows group hgroup)
          ring
        · -- a reduction at the stored price
          refine le_max_of_le_left ?_
          have hreduced := mul_nonneg hpos havg
          linarith
        · -- a flip: what remains is less than what the engine has counted
          have hpasses := hsizing.resolve_left fun hreduces => by
            obtain ⟨row', hrow', -, hle⟩ := of_reducesExistingPosition hreduces
            rw [hrow, List.mem_singleton] at hrow'
            subst hrow'
            exact absurd hlt (not_lt.mpr hle)
          have hexposure := hpasses.exposure group hgroup
          refine le_max_of_le_right (le_trans ?_ hexposure)
          have hold := mul_nonneg hqty.le havg
          have hpart := mul_nonneg hqty.le hnonneg
          show _ ≤ (db.snapshot accountId account today).groupNotional group +
            intent.quantity * intent.price
          linarith [sub_mul intent.quantity row.quantity intent.price]

end

/-! ### A position that grows below its entry price -/

/-- Half a unit, bought at 150, in a group of its own. -/
def boughtAt150 : Db :=
  { equity1000 with
    correlationGroups := [⟨⟨7⟩, ⟨1⟩, "majors"⟩]
    correlationGroupAssets := [⟨⟨7⟩, ⟨1⟩, "BTCUSDT"⟩]
    positions := [⟨1, ⟨1⟩, "BTCUSDT", .long, 1 / 2, 150, .open, none⟩] }

lemma boughtAt150_valid : PositionsValid boughtAt150.positions where
  ids := by decide
  fits := by decide +kernel
  checked := by decide +kernel
  oneOpen := by decide +kernel

/-- The account row and the configuration of `boughtAt150`. -/
def account1000 : AccountRow := ⟨.active, 1000, false⟩

def defaultLimits : RiskConfig := ⟨2, 5, 5, 10⟩

def buy (quantity price : Decimal) : TradeIntent := ⟨"BTCUSDT", .buy, quantity, price⟩

/-- The database after the fill of a trade. -/
def afterFill (db : Db) (intent : TradeIntent) : Db :=
  (postgres.atomically (applyPositionDelta ⟨1⟩ intent.symbol intent.delta intent.price) db).2

lemma commits_afterFill {db : Db} {intent : TradeIntent}
    (h : (postgres.atomically
      (applyPositionDelta ⟨1⟩ intent.symbol intent.delta intent.price) db).1 = .ok ()) :
    postgres.Commits (applyPositionDelta ⟨1⟩ intent.symbol intent.delta intent.price) db ()
      (afterFill db intent) :=
  (strict_applyPositionDelta _ _ _ _).commits h

/-- A tenth more at the entry price. -/
theorem exposure_within_limits_boughtAt150 :
    StaysWithinLimits (boughtAt150.snapshot ⟨1⟩ account1000 0)
      ((afterFill boughtAt150 (buy (1 / 10) 150)).snapshot ⟨1⟩ account1000 0) defaultLimits
      "BTCUSDT" := by
  refine (exposure_within_limits_iff boughtAt150_valid
    (by decide +kernel) (by decide +kernel) (by decide +kernel)
    (commits_afterFill (by decide +kernel))).mpr ?_
  intro row hrow _ group hgroup
  obtain rfl : row = ⟨1, ⟨1⟩, "BTCUSDT", .long, 1 / 2, 150, .open, none⟩ :=
    List.mem_singleton.mp hrow
  obtain rfl : "majors" = group := Option.some.inj hgroup
  decide +kernel

/-- Ten units more at a price of one are approved as a notional of ten, and counted as 1500. -/
theorem exposure_beyond_limit :
    ¬ ∀ (db db' : Db) (accountId : Uuid) (account : AccountRow) (today : Date) (cfg : RiskConfig)
        (version : ℤ) (intent : TradeIntent), PositionsValid db.positions →
      db.accountRow accountId = some account → account.equity > 0 →
      db.riskConfig accountId = some (cfg, version) →
      RiskConfigRecord.Checked ⟨accountId, cfg, version⟩ →
      Numeric.IsScaled 10 intent.quantity → Numeric.IsScaled 10 intent.price →
      evaluate intent (db.snapshot accountId account today) cfg = .approved →
      postgres.Commits (applyPositionDelta accountId intent.symbol intent.delta intent.price) db ()
        db' →
      StaysWithinLimits (db.snapshot accountId account today)
        (db'.snapshot accountId account today) cfg intent.symbol := by
  intro h
  have hstays := h boughtAt150 (afterFill boughtAt150 (buy 10 1)) ⟨1⟩ account1000 0 defaultLimits 1
    (buy 10 1) boughtAt150_valid (by decide +kernel) (by decide +kernel) (by decide +kernel)
    (by decide +kernel) (by decide +kernel) (by decide +kernel) (by decide +kernel)
    (commits_afterFill (by decide +kernel))
  have hexposure := hstays.2 "majors" (by decide +kernel)
  have hbeyond : ¬ ((afterFill boughtAt150 (buy 10 1)).snapshot ⟨1⟩ account1000 0).groupNotional
      "majors" ≤ max ((boughtAt150.snapshot ⟨1⟩ account1000 0).groupNotional "majors")
        (exposureLimit (boughtAt150.snapshot ⟨1⟩ account1000 0) defaultLimits) := by
    decide +kernel
  exact hbeyond hexposure

end Confluence
