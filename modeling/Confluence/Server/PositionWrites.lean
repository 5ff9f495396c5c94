import Confluence.Server.OutboxWorker
import Confluence.Server.Positions

/-!
# Writes to a position

The worker reads an open position and rewrites it as an absolute value. What a program adds to the
position in this way is a property of its text: of what it writes after every possible answer.
-/

namespace Confluence

open Program

/-- The statement neither reads open positions nor writes any. -/
def Statement.OffPositions {β : Type} : Statement β → Prop
  | .selectOpenPosition .. | .insertPosition .. | .closePosition _ | .updatePosition .. => False
  | _ => True

variable {ε ε' α β : Type} {accountId : Uuid} {symbol : String}

/-- The program adds `d` to the position, `read` being the row that it has just read and not
answered with a write yet. -/
inductive Adds (accountId : Uuid) (symbol : String) :
    Option (Option PositionRecord) → Decimal → Program Statement SqlError ε α → Prop
  | value (a : α) : Adds accountId symbol none 0 (done (.ok a))
  | error (d : Decimal) (e : ε) : Adds accountId symbol none d (done (.error e))
  | other {β : Type} {q : Statement β} {next : Except SqlError β → Program Statement SqlError ε α}
      {d : Decimal} (hq : q.OffPositions) (h : ∀ r, Adds accountId symbol none d (next r)) :
      Adds accountId symbol none d (query q next)
  | select {next : Except SqlError (Option PositionRecord) → Program Statement SqlError ε α}
      {d : Decimal} (h : ∀ row, Adds accountId symbol (some row) d (next (.ok row))) :
      Adds accountId symbol none d (query (.selectOpenPosition accountId symbol) next)
  | insert {next : Except SqlError Unit → Program Statement SqlError ε α} {x price d d' : Decimal}
      (hx : Numeric.IsScaled 10 x) (hd : d = x + d')
      (h : ∀ r, Adds accountId symbol none d' (next r)) :
      Adds accountId symbol (some none) d
        (query (.insertPosition accountId symbol (sideOf x) |x| price) next)
  | close {next : Except SqlError Unit → Program Statement SqlError ε α} {row : PositionRecord}
      {d : Decimal} :
      Adds accountId symbol (some (some row)) d (query (.closePosition row.id) next)
  | update {next : Except SqlError Unit → Program Statement SqlError ε α} {row : PositionRecord}
      {x price d d' : Decimal} (hx : Numeric.IsScaled 10 (x - row.signed))
      (hd : d = x - row.signed + d') (h : ∀ r, Adds accountId symbol none d' (next r)) :
      Adds accountId symbol (some (some row)) d
        (query (.updatePosition row.id (sideOf x) |x| price) next)

namespace Adds

variable {read : Option (Option PositionRecord)} {d d' : Decimal}

lemma bind {p : Program Statement SqlError ε α} {f : α → Program Statement SqlError ε β}
    (hp : Adds accountId symbol read d p) (hf : ∀ a, Adds accountId symbol none d' (f a)) :
    Adds accountId symbol read (d + d') (p >>= f) := by
  induction hp with
  | value a =>
    rw [zero_add]
    exact hf a
  | error d e => exact .error (d + d') e
  | other hq _ ih => exact .other hq ih
  | select _ ih => exact .select ih
  | insert hx hd _ ih => exact .insert hx (by rw [hd, add_assoc]) ih
  | close => exact .close
  | update hx hd _ ih => exact .update hx (by rw [hd, add_assoc]) ih

/-- First a program that leaves the position alone. -/
lemma next {p : Program Statement SqlError ε α} {f : α → Program Statement SqlError ε β}
    (hp : Adds accountId symbol read 0 p) (hf : ∀ a, Adds accountId symbol none d (f a)) :
    Adds accountId symbol read d (p >>= f) := by
  rw [← zero_add d]
  exact hp.bind hf

lemma mapError {p : Program Statement SqlError ε α} {f : ε → ε'}
    (hp : Adds accountId symbol read d p) : Adds accountId symbol read d (p.mapError f) := by
  induction hp with
  | value a => exact .value a
  | error d e => exact .error d (f e)
  | other hq _ ih => exact .other hq ih
  | select _ ih => exact .select ih
  | insert hx hd _ ih => exact .insert hx hd ih
  | close => exact .close
  | update hx hd _ ih => exact .update hx hd ih

lemma ite {c : Prop} [Decidable c] {p q : Program Statement SqlError ε α}
    (hp : Adds accountId symbol read d p) (hq : Adds accountId symbol read d q) :
    Adds accountId symbol read d (if c then p else q) := by
  split_ifs
  · exact hp
  · exact hq

lemma ask {q : Statement β} {wrap : SqlError → ε} (hq : q.OffPositions) :
    Adds accountId symbol none 0 (Program.ask wrap q) := by
  refine .other hq fun r => ?_
  cases r with
  | ok b => exact .value b
  | error e => exact .error 0 (wrap e)

end Adds

/-! ### The worker's programs -/

lemma adds_insertPosition {x : Decimal} (h : Numeric.IsScaled 10 x) (price : Decimal) :
    Adds accountId symbol (some none) x
      (sql (.insertPosition accountId symbol (sideOf x) |x| price)) := by
  refine .insert h (add_zero x).symm fun r => ?_
  cases r with
  | ok u => exact .value u
  | error e => exact .error 0 _

lemma adds_updatePosition {row : PositionRecord} {x : Decimal}
    (h : Numeric.IsScaled 10 (x - row.signed)) (price : Decimal) :
    Adds accountId symbol (some (some row)) (x - row.signed)
      (sql (.updatePosition row.id (sideOf x) |x| price)) := by
  refine .update h (add_zero _).symm fun r => ?_
  cases r with
  | ok u => exact .value u
  | error e => exact .error 0 _

lemma adds_applyPositionDelta {delta : Decimal} (h : Numeric.IsScaled 10 delta)
    (fillPrice : Decimal) :
    Adds accountId symbol none delta (applyPositionDelta accountId symbol delta fillPrice) := by
  unfold applyPositionDelta
  by_cases hzero : delta = 0
  · rw [if_pos hzero, hzero]
    exact .value ()
  · rw [if_neg hzero]
    refine .select fun row => ?_
    cases row with
    | none => exact adds_insertPosition h fillPrice
    | some row =>
      have hdelta : row.signed + delta - row.signed = delta := add_sub_cancel_left ..
      refine .ite .close ?_
      have hupdate (price : Decimal) : Adds accountId symbol (some (some row)) delta
          (sql (.updatePosition row.id (sideOf (row.signed + delta)) |row.signed + delta| price)) := by
        rw [← hdelta] at h
        simpa only [hdelta] using adds_updatePosition h price
      exact hupdate _

lemma adds_applyPositionDeltas {deltas : List PositionDelta}
    (hsymbol : ∀ delta ∈ deltas, delta.symbol = symbol)
    (hscaled : ∀ delta ∈ deltas, Numeric.IsScaled 10 delta.quantityDelta) (fillPrice : Decimal) :
    Adds accountId symbol none (deltas.map (·.quantityDelta)).sum
      (applyPositionDeltas accountId fillPrice deltas) := by
  induction deltas with
  | nil => exact .value ()
  | cons delta deltas ih =>
    obtain ⟨hdelta, hsymbol⟩ := List.forall_mem_cons.mp hsymbol
    obtain ⟨hx, hscaled⟩ := List.forall_mem_cons.mp hscaled
    rw [List.map_cons, List.sum_cons]
    refine .bind ?_ fun _ => ih hsymbol hscaled
    rw [hdelta]
    exact (adds_applyPositionDelta hx fillPrice).mapError

lemma adds_insertFills (orderId : Uuid) (fills : List Fill) :
    Adds accountId symbol none 0 (insertFills accountId orderId fills) := by
  induction fills with
  | nil => exact .value []
  | cons fill fills ih =>
    have hfill : Adds accountId symbol none 0 (insertFill accountId orderId fill) :=
      .next (.ask trivial) fun _ => .value _
    exact .next hfill.mapError fun _ => .next ih fun _ => .value _

lemma adds_insertRiskEvents (events : List RiskEvent) :
    Adds accountId symbol none 0 (insertRiskEvents accountId events) := by
  induction events with
  | nil => exact .value ()
  | cons event events ih =>
    refine .other trivial fun r => ?_
    cases r with
    | ok u => exact ih
    | error e => exact ih

lemma adds_persistReconcileResultTx {result : ReconcileResult}
    (hsymbol : ∀ delta ∈ result.positionsDelta, delta.symbol = symbol)
    (hscaled : ∀ delta ∈ result.positionsDelta, Numeric.IsScaled 10 delta.quantityDelta)
    (orderId : Uuid) (snapshot : ReconcileSnapshot) :
    Adds accountId symbol none (result.positionsDelta.map (·.quantityDelta)).sum
      (persistReconcileResultTx accountId orderId snapshot result) := by
  have hlock : Adds accountId symbol none 0 (lockOrder accountId orderId) := by
    refine .next (.ask trivial) fun row => ?_
    cases row with
    | none => exact .error 0 _
    | some row => exact .value row
  refine .next hlock.mapError fun locked => .ite (.error ..) ?_
  refine .next (adds_insertFills orderId _) fun insertedFills => .ite (.error ..) ?_
  rw [← add_zero (List.sum _)]
  refine .bind (adds_applyPositionDeltas hsymbol hscaled _) fun _ => .next ?_ fun _ =>
    adds_insertRiskEvents _
  cases result.newStatus with
  | none => exact .value ()
  | some status => exact .ite (.mapError (.ask trivial)) (.error ..)

/-! ### What the statements do -/

/-- What a statement changes in the table of positions depends on this table alone, and on nothing
at all unless the statement is about positions. -/
lemma Statement.exec_positions {q : Statement β} {db : Db} {b : β} {change : Db → Db}
    (h : q.exec db = .ok (b, change)) :
    ∃ g, (∀ db, (change db).positions = g db.positions) ∧ (q.OffPositions → g = id) := by
  cases q with
  | selectAccountForUpdate | selectRiskConfig | selectOpenPositions | selectCorrelationGroups
  | selectDailyPnl | selectExchangeConfig | countOpenOrders | countOpenPositions
  | selectOrderForUpdate | selectFills | selectOpenPosition | selectRiskEvents
  | deleteCorrelationGroups | claimCommands | updateCommandStatus | requeueCommand =>
    cases h
    exact ⟨id, fun _ => rfl, fun _ => rfl⟩
  | engageKillSwitch | releaseKillSwitch | insertExchangeConfig | updateExchangeConfig
  | insertRiskConfig | insertRiskEvent =>
    simp only [Statement.exec, require_bind_eq_ok] at h
    obtain ⟨-, h⟩ := h
    cases h
    exact ⟨id, fun _ => rfl, fun _ => rfl⟩
  | insertCorrelationGroup =>
    simp only [Statement.exec, require_bind_eq_ok] at h
    obtain ⟨-, -, h⟩ := h
    cases h
    exact ⟨id, fun _ => rfl, fun _ => rfl⟩
  | insertCorrelationGroupAsset =>
    simp only [Statement.exec, require_bind_eq_ok] at h
    obtain ⟨-, -, -, h⟩ := h
    cases h
    exact ⟨id, fun _ => rfl, fun _ => rfl⟩
  | insertAccount =>
    simp only [Statement.exec, require_bind_eq_ok, column_bind_eq_ok] at h
    obtain ⟨_, -, -, -, h⟩ := h
    cases h
    exact ⟨id, fun _ => rfl, fun _ => rfl⟩
  | updateEquity | updateOrder =>
    simp only [Statement.exec, require_bind_eq_ok, column_bind_eq_ok] at h
    obtain ⟨_, -, -, h⟩ := h
    cases h
    exact ⟨id, fun _ => rfl, fun _ => rfl⟩
  | updateRiskConfig =>
    simp only [Statement.exec, require_bind_eq_ok, column_bind_eq_ok] at h
    obtain ⟨_, -, _, -, _, -, -, h⟩ := h
    cases h
    exact ⟨id, fun _ => rfl, fun _ => rfl⟩
  | upsertCircuitBreaker =>
    simp only [Statement.exec] at h
    split_ifs at h
    · cases h
      exact ⟨id, fun _ => rfl, fun _ => rfl⟩
    · cases h
      exact ⟨id, fun _ => rfl, fun _ => rfl⟩
  | insertOrder orderId a clientOrderId symbol side orderType quantity price exchangeMode =>
    simp only [Statement.exec, column_bind_eq_ok] at h
    obtain ⟨_, -, h⟩ := h
    cases hp : optionalColumn 30 10 price with
    | error e =>
      rw [hp] at h
      cases h
    | ok p =>
      rw [hp] at h
      obtain ⟨-, h⟩ := require_bind_eq_ok.mp h
      obtain ⟨-, h⟩ := require_bind_eq_ok.mp h
      obtain ⟨-, h⟩ := require_bind_eq_ok.mp h
      cases h
      exact ⟨id, fun _ => rfl, fun _ => rfl⟩
  | insertFill =>
    simp only [Statement.exec, require_bind_eq_ok, column_bind_eq_ok] at h
    obtain ⟨_, -, _, -, _, -, -, h⟩ := h
    split_ifs at h
    · cases h
      exact ⟨id, fun _ => rfl, fun _ => rfl⟩
    · cases h
      exact ⟨id, fun _ => rfl, fun _ => rfl⟩
  | insertCommand =>
    simp only [Statement.exec, require_bind_eq_ok] at h
    obtain ⟨-, h⟩ := h
    split_ifs at h
    · cases h
      exact ⟨id, fun _ => rfl, fun _ => rfl⟩
    · cases h
      exact ⟨id, fun _ => rfl, fun _ => rfl⟩
  | insertPosition accountId symbol side quantity avgEntryPrice =>
    simp only [Statement.exec, require_bind_eq_ok, column_bind_eq_ok] at h
    obtain ⟨q, -, p, -, -, -, h⟩ := h
    cases h
    exact ⟨(· ++ [⟨freshId (db.positions.map (·.id)), accountId, symbol, side, q, p, .open, none⟩]),
      fun _ => rfl, False.elim⟩
  | closePosition rowId =>
    simp only [Statement.exec, require_bind_eq_ok] at h
    obtain ⟨-, h⟩ := h
    cases h
    exact ⟨_, fun _ => rfl, False.elim⟩
  | updatePosition rowId side quantity avgEntryPrice =>
    simp only [Statement.exec, require_bind_eq_ok, column_bind_eq_ok] at h
    obtain ⟨q, -, p, -, -, h⟩ := h
    cases h
    exact ⟨_, fun _ => rfl, False.elim⟩

/-- The statement inserts a position. -/
def Statement.InsertsPosition {β : Type} : Statement β → Prop
  | .insertPosition .. => True
  | _ => False

lemma Adds.read_of_insert {q : Statement β}
    {next : Except SqlError β → Program Statement SqlError ε α}
    {read : Option (Option PositionRecord)} {d : Decimal}
    (h : Adds accountId symbol read d (query q next)) (hq : q.InsertsPosition) :
    read = some none := by
  cases h with
  | other hoff => cases q <;> first | exact hq.elim | exact hoff.elim
  | select | close | update => exact hq.elim
  | insert => rfl

/-- A program that has ended with a value adds nothing more. -/
lemma Adds.of_value {read : Option (Option PositionRecord)} {d : Decimal} {a : α}
    (h : Adds accountId symbol read d (done (.ok a) : Program Statement SqlError ε α)) : d = 0 := by
  cases h with
  | value => rfl

/-- Only an insertion can follow when no position was found. -/
lemma Adds.of_found_none {p : Program Statement SqlError ε α} {d : Decimal}
    (h : Adds accountId symbol (some none) d p) :
    ∃ side quantity price next,
      p = query (.insertPosition accountId symbol side quantity price) next := by
  cases h with
  | insert => exact ⟨_, _, _, _, rfl⟩

/-- An answered statement: what has been added and what is still to be added make the same sum. -/
lemma Adds.answer {q : Statement β} {next : Except SqlError β → Program Statement SqlError ε α}
    {read : Option (Option PositionRecord)} {d : Decimal} {db : Db} {b : β} {change : Db → Db}
    (h : Adds accountId symbol read d (query q next)) (hv : PositionsValid db.positions)
    (hread : ∀ row, read = some row → row = (db.openOn accountId symbol).head?)
    (hexec : q.exec db = .ok (b, change)) :
    ∃ read' d', Adds accountId symbol read' d' (next (.ok b)) ∧
      PositionsValid (change db).positions ∧
      (change db).signedOpen accountId symbol + d' = db.signedOpen accountId symbol + d ∧
      ∀ row, read' = some row → row = ((change db).openOn accountId symbol).head? := by
  have hcommit : postgres.Commits (sql q) db b (change db) := commits_sql.mpr ⟨change, hexec, rfl⟩
  cases h with
  | other hq h =>
    obtain ⟨g, hg, hid⟩ := Statement.exec_positions hexec
    have hpositions : (change db).positions = db.positions := by rw [hg, hid hq, id]
    refine ⟨none, d, h _, hpositions ▸ hv, ?_, fun _ h => nomatch h⟩
    rw [signedOpen_congr hpositions]
  | select h =>
    obtain ⟨rfl, hdb⟩ := commits_selectOpenPosition.mp hcommit
    rw [hdb]
    refine ⟨some _, d, h _, hv, rfl, fun row hrow => ?_⟩
    rw [← Option.some.inj hrow]
  | @insert _ x price _ d' hx hd h =>
    obtain ⟨y, p, hy, hp, hpos, hnonneg, hnone, hdb⟩ := commits_insertPosition.mp hcommit
    have heffect := DeltaEffect.of_insert (x := x) hv hnone (Numeric.fits_of_store hy)
      (Numeric.fits_of_store hp) hpos hnonneg
    rw [← hdb] at heffect
    refine ⟨none, d', h _, heffect.valid, ?_, fun _ h => nomatch h⟩
    rw [heffect.signedOpen_of_isScaled hx hy, Db.signedOpen_of_nil hnone, hd, zero_add]
  | @close _ row =>
    have hhead := (hread (some row) rfl).symm
    have hmem := (Db.mem_openOn.mp (List.mem_of_head? hhead)).1
    exact (not_commits_closePosition hmem hcommit).elim
  | @update _ row x price _ d' hx hd h =>
    have hhead := (hread (some row) rfl).symm
    rcases hv.openOn_cases accountId symbol with hnone | ⟨row', hmem, hrow⟩
    · rw [hnone] at hhead
      cases hhead
    · rw [hrow] at hhead
      obtain rfl : row' = row := Option.some.inj hhead
      obtain ⟨y, p, hy, hp, hpos, hnonneg, hdb⟩ := (commits_updatePosition hv hmem).mp hcommit
      have heffect := DeltaEffect.of_update (x := x) hv hmem hrow (Numeric.fits_of_store hy)
        (Numeric.fits_of_store hp) hpos hnonneg
      rw [← hdb] at heffect
      have hsigned := hv.isScaled_signedOpen accountId symbol
      rw [Db.signedOpen_of_singleton hrow] at hsigned
      have hscaled : Numeric.IsScaled 10 x := by
        have hsum := hx.add hsigned
        rwa [sub_add_cancel] at hsum
      refine ⟨none, d', h _, heffect.valid, ?_, fun _ h => nomatch h⟩
      rw [heffect.signedOpen_of_isScaled hscaled hy, Db.signedOpen_of_singleton hrow, hd]
      ring

end Confluence
