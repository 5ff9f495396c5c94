import Confluence.Server.Locks
import Confluence.Server.PositionWrites

/-!
# Concurrent fills of one position

Transactions that persist the fills of different orders lock these orders only. Statement by
statement they read one position and rewrite it, and what they add to it survives if each reads it
alone.
-/

namespace Confluence

/-- What one transaction persists: an adapter's result for an order, with the snapshot that it was
computed from. -/
structure PersistRequest where
  orderId : Uuid
  snapshot : ReconcileSnapshot
  result : ReconcileResult

/-- What the result adds to positions. -/
def PersistRequest.delta (r : PersistRequest) : Decimal :=
  (r.result.positionsDelta.map (·.quantityDelta)).sum

variable {ι : Type}

/-- Results for orders of one account, each persisted in a transaction. -/
def persists (accountId : Uuid) (request : ι → PersistRequest) :
    Workload Statement Db SqlError RowLock ι DispatchOutcome Unit where
  engine := postgres
  locks := Statement.locks
  tx i := persistReconcileResultTx accountId (request i).orderId (request i).snapshot
    (request i).result

abbrev PersistSession (ι : Type) := Session Statement Db SqlError ι DispatchOutcome Unit

abbrev Persists (ι : Type) := Interleaving Statement Db SqlError RowLock ι DispatchOutcome Unit

/-- The statement reads the open position. -/
def Statement.readsPosition {β : Type} (accountId : Uuid) (symbol : String) : Statement β → Bool
  | .selectOpenPosition a s => decide (a = accountId) && decide (s = symbol)
  | _ => false

/-- The next statement of the session reads the open position. -/
def readsNext (accountId : Uuid) (symbol : String) (x : PersistSession ι) : Bool :=
  match x.rest with
  | .query q _ => q.readsPosition accountId symbol
  | .done _ => false

def hasRead (accountId : Uuid) (symbol : String) (x : PersistSession ι) : Bool :=
  x.asked.any fun q => q.2.readsPosition accountId symbol

/-- A transaction reads an open position for the first time only while no other transaction that has
read it is under way, and adds quantities that the column keeps. -/
def ReadsAlone (accountId : Uuid) (symbol : String) (request : ι → PersistRequest)
    (s : Persists ι) : SessionAction ι → Prop
  | .start _ i =>
    ∀ delta ∈ (request i).result.positionsDelta, Numeric.IsScaled 10 delta.quantityDelta
  | .query n => ∀ x, s.sessions n = some x → x.failed = false →
    readsNext accountId symbol x = true → hasRead accountId symbol x = false →
    (x.change s.store).openOn accountId symbol ≠ [] →
    ∀ m y, m ≠ n → s.sessions m = some y → y.failed = false → hasRead accountId symbol y = false
  | .commit _ | .rollback _ => True

variable {accountId : Uuid} {symbol : String} {request : ι → PersistRequest} {s s' : Persists ι}
  {n m : ℕ} {x y : PersistSession ι}

/-! ### How far a session is -/

/-- The session has read the position, and what it has added and will add is the delta of its
request. If no position is committed, it has claimed the entry of the unique index for its own. -/
structure Owns (accountId : Uuid) (symbol : String) (request : ι → PersistRequest)
    (s : Persists ι) (n : ℕ) (x : PersistSession ι) : Prop where
  change : ∃ g : List PositionRecord → List PositionRecord,
    ∀ db, (x.change db).positions = g db.positions
  valid : PositionsValid (x.change s.store).positions
  adds : ∃ read d, Adds accountId symbol read d x.rest ∧
    (x.change s.store).signedOpen accountId symbol + d =
      s.store.signedOpen accountId symbol + (request x.request).delta ∧
    ∀ row, read = some row → row = ((x.change s.store).openOn accountId symbol).head?
  holds : s.store.openOn accountId symbol = [] → (RowLock.openPosition accountId symbol, n) ∈ s.locked

/-- The session has failed, has not read the position, has found none and is about to insert one, or
owns what it has read. -/
inductive Tracks (accountId : Uuid) (symbol : String) (request : ι → PersistRequest)
    (s : Persists ι) (n : ℕ) (x : PersistSession ι) : Prop
  | failed (h : x.failed = true)
  | idle (hread : hasRead accountId symbol x = false)
      (hchange : ∀ db, (x.change db).positions = db.positions)
      (h : Adds accountId symbol none (request x.request).delta x.rest)
  | flat (hread : hasRead accountId symbol x = true)
      (hchange : ∀ db, (x.change db).positions = db.positions)
      (h : Adds accountId symbol (some none) (request x.request).delta x.rest)
  | owner (hread : hasRead accountId symbol x = true) (h : Owns accountId symbol request s n x)

/-- Sessions are tracked, and the owner of a committed position is the only one that has read it. -/
structure FillsTracked (accountId : Uuid) (symbol : String) (request : ι → PersistRequest)
    (s : Persists ι) : Prop where
  valid : PositionsValid s.store.positions
  session : ∀ n x, s.sessions n = some x → Tracks accountId symbol request s n x
  alone : ∀ n x m y, s.sessions n = some x → x.failed = false → hasRead accountId symbol x = true →
    Owns accountId symbol request s n x → s.store.openOn accountId symbol ≠ [] →
    m ≠ n → s.sessions m = some y → y.failed = false → hasRead accountId symbol y = false
  holder : ∀ n m, (RowLock.openPosition accountId symbol, n) ∈ s.locked →
    (RowLock.openPosition accountId symbol, m) ∈ s.locked → n = m

/-- Steps that leave the positions and the session's locks. -/
lemma Owns.frame (h : Owns accountId symbol request s n x)
    (hpositions : s'.store.positions = s.store.positions)
    (hlocked : (RowLock.openPosition accountId symbol, n) ∈ s.locked →
      (RowLock.openPosition accountId symbol, n) ∈ s'.locked) :
    Owns accountId symbol request s' n x := by
  obtain ⟨⟨g, hg⟩, hvalid, ⟨read, d, hadds, hsum, hread⟩, hholds⟩ := h
  have hview : (x.change s'.store).positions = (x.change s.store).positions := by
    rw [hg, hg, hpositions]
  refine ⟨⟨g, hg⟩, hview ▸ hvalid, ⟨read, d, hadds, ?_, ?_⟩, ?_⟩
  · rw [signedOpen_congr hview, signedOpen_congr hpositions, hsum]
  · rw [openOn_congr hview]
    exact hread
  · rw [openOn_congr hpositions]
    exact fun hnone => hlocked (hholds hnone)

lemma Tracks.frame (h : Tracks accountId symbol request s n x)
    (hpositions : s'.store.positions = s.store.positions)
    (hlocked : (RowLock.openPosition accountId symbol, n) ∈ s.locked →
      (RowLock.openPosition accountId symbol, n) ∈ s'.locked) :
    Tracks accountId symbol request s' n x := by
  cases h with
  | failed h => exact .failed h
  | idle hread hchange h => exact .idle hread hchange h
  | flat hread hchange h => exact .flat hread hchange h
  | owner hread h => exact .owner hread (h.frame hpositions hlocked)

/-! ### What a query does to its session -/

lemma hasRead_answer {W : Workload Statement Db SqlError RowLock ι DispatchOutcome Unit} {β : Type}
    {q : Statement β} {next : Except SqlError β → Program Statement SqlError DispatchOutcome Unit}
    {db : Db} :
    hasRead accountId symbol (W.answer x q next db) =
      (q.readsPosition accountId symbol || hasRead accountId symbol x) := by
  unfold Workload.answer
  split <;> rfl

lemma readsPosition_of_offPositions {β : Type} {q : Statement β} (h : q.OffPositions) :
    q.readsPosition accountId symbol = false := by
  cases q <;> first | rfl | exact h.elim

/-- A session that has read goes on to own what it adds. -/
lemma owns_answered {β : Type} {q : Statement β}
    {next : Except SqlError β → Program Statement SqlError DispatchOutcome Unit}
    {read : Option (Option PositionRecord)} {d : Decimal} {b : β} {change : Db → Db}
    (hlocal : ∃ g : List PositionRecord → List PositionRecord,
      ∀ db, (x.change db).positions = g db.positions)
    (hv : PositionsValid (x.change s.store).positions)
    (hadds : Adds accountId symbol read d (.query q next))
    (hsum : (x.change s.store).signedOpen accountId symbol + d =
      s.store.signedOpen accountId symbol + (request x.request).delta)
    (hread : ∀ row, read = some row → row = ((x.change s.store).openOn accountId symbol).head?)
    (hexec : q.exec (x.change s.store) = .ok (b, change)) (hstore : s'.store = s.store)
    (hholds : s.store.openOn accountId symbol = [] →
      (RowLock.openPosition accountId symbol, n) ∈ s'.locked) {asked : List (Σ β : Type, Statement β)} :
    Owns accountId symbol request s' n
      { x with rest := next (.ok b), change := change ∘ x.change, asked } := by
  obtain ⟨g, hg⟩ := hlocal
  obtain ⟨read', d', hadds', hvalid, hsum', hread'⟩ := hadds.answer hv hread hexec
  obtain ⟨k, hk, -⟩ := Statement.exec_positions hexec
  constructor
  · refine ⟨k ∘ g, fun db => ?_⟩
    simp only [Function.comp_apply, hk, hg]
  · rw [hstore]
    exact hvalid
  · refine ⟨read', d', hadds', ?_, ?_⟩
    · rw [hstore, ← hsum, ← hsum']
      rfl
    · rw [hstore]
      exact hread'
  · rw [hstore]
    exact hholds

/-- A session is tracked through the answer to its query. -/
lemma Tracks.answer {β : Type} {q : Statement β}
    {next : Except SqlError β → Program Statement SqlError DispatchOutcome Unit}
    (h : Tracks accountId symbol request s n x) (hv : PositionsValid s.store.positions)
    (hrest : x.rest = .query q next) (hstore : s'.store = s.store)
    (hlocked : ∀ p ∈ s.locked, p ∈ s'.locked)
    (hlocks : ∀ l ∈ Statement.locks q (x.change s.store), (l, n) ∈ s'.locked) :
    Tracks accountId symbol request s' n
      ((persists accountId request).answer x q next s.store) := by
  have hasked : hasRead accountId symbol ((persists accountId request).answer x q next s.store) =
      (q.readsPosition accountId symbol || hasRead accountId symbol x) := hasRead_answer
  unfold Workload.answer at hasked ⊢
  cases hexec : q.exec (x.change s.store) with
  | error e =>
    simp only [persists, postgres, hexec]
    exact .failed rfl
  | ok r =>
    obtain ⟨b, change⟩ := r
    simp only [persists, postgres, hexec] at hasked ⊢
    cases h with
    | failed h => exact .failed h
    | idle hread hchange h =>
      rw [hread, Bool.or_false] at hasked
      have hview : (x.change s.store).positions = s.store.positions := hchange s.store
      rw [hrest] at h
      generalize hdelta : (request x.request).delta = d at h
      cases h with
      | other hq h =>
        obtain ⟨g, hg, hid⟩ := Statement.exec_positions hexec
        refine .idle (hasked.trans (readsPosition_of_offPositions hq)) (fun db => ?_) ?_
        · simp only [Function.comp_apply, hg, hid hq, hchange, id]
        · rw [hdelta]
          exact h _
      | select h =>
        replace hasked := hasked.trans (show (Statement.selectOpenPosition accountId symbol).readsPosition
          accountId symbol = true by simp [Statement.readsPosition])
        by_cases hnone : s.store.openOn accountId symbol = []
        · have hchange' : b = none ∧ change = id := by
            simp only [Statement.exec, openOn_congr hview, hnone, List.head?_nil] at hexec
            cases hexec
            exact ⟨rfl, rfl⟩
          obtain ⟨rfl, rfl⟩ := hchange'
          refine .flat hasked hchange ?_
          rw [hdelta]
          exact h none
        · refine .owner hasked (owns_answered ⟨id, hchange⟩ (hview ▸ hv) (.select h) ?_
            (by simp) hexec hstore fun h => (hnone h).elim)
          rw [signedOpen_congr hview, hdelta]
    | flat hread hchange h =>
      rw [hread, Bool.or_true] at hasked
      have hview : (x.change s.store).positions = s.store.positions := hchange s.store
      have hadds := h
      obtain ⟨side, quantity, price, next', hinsert⟩ := h.of_found_none
      cases hrest.symm.trans hinsert
      have hcommit : postgres.Commits (sql _) (x.change s.store) b (change (x.change s.store)) :=
        commits_sql.mpr ⟨change, hexec, rfl⟩
      obtain ⟨-, -, -, -, -, -, hnone, -⟩ := commits_insertPosition.mp hcommit
      rw [hinsert] at hadds
      refine .owner hasked (owns_answered ⟨id, hchange⟩ (hview ▸ hv) hadds ?_ ?_ hexec hstore
        fun _ => hlocks _ (List.mem_singleton_self _))
      · rw [signedOpen_congr hview]
      · intro row hrow
        rw [hnone, ← Option.some.inj hrow, List.head?_nil]
    | owner hread h =>
      rw [hread, Bool.or_true] at hasked
      obtain ⟨hlocal, hvalid, ⟨read, d, hadds, hsum, hreadRow⟩, hholds⟩ := h
      rw [hrest] at hadds
      exact .owner hasked (owns_answered hlocal hvalid hadds hsum hreadRow hexec hstore
        fun hnone => hlocked _ (hholds hnone))

/-! ### Steps -/

/-- The owner of a committed position is not one of the sessions that found none. -/
lemma Owns.openOn_of_flat (h : Owns accountId symbol request s n x)
    (hchange : ∀ db, (x.change db).positions = db.positions) {d : Decimal}
    (hadds : Adds accountId symbol (some none) d x.rest) :
    s.store.openOn accountId symbol = [] := by
  obtain ⟨-, -, ⟨read, d', hadds', -, hread⟩, -⟩ := h
  obtain ⟨side, quantity, price, next, hinsert⟩ := hadds.of_found_none
  rw [hinsert] at hadds'
  have hnone := hread none (hadds'.read_of_insert trivial)
  rw [openOn_congr (hchange s.store)] at hnone
  exact List.head?_eq_none_iff.mp hnone.symm

namespace FillsTracked

variable (h : FillsTracked accountId symbol request s)
include h

lemma start {i : ι} (hsymbol : ∀ i, ∀ delta ∈ (request i).result.positionsDelta,
      delta.symbol = symbol)
    (hok : ReadsAlone accountId symbol request s (.start n i))
    (hstep : (persists accountId request).step s (.start n i) = some s') :
    FillsTracked accountId symbol request s' := by
  simp only [Workload.step] at hstep
  split_ifs at hstep with hnone
  obtain rfl := Option.some.inj hstep
  have hbegin : hasRead accountId symbol ((persists accountId request).begin i) = false := rfl
  refine ⟨h.valid, fun m x hx => ?_, fun k x m y hx hxf hxr howns hopen hne hy hyf => ?_, h.holder⟩
  · obtain ⟨rfl, rfl⟩ | ⟨-, hx⟩ := Interleaving.of_put_sessions hx
    · exact .idle hbegin (fun _ => rfl) (adds_persistReconcileResultTx (hsymbol i) hok _ _)
    · exact (h.session m x hx).frame rfl id
  · obtain ⟨rfl, rfl⟩ | ⟨-, hx⟩ := Interleaving.of_put_sessions hx
    · rw [hbegin] at hxr
      cases hxr
    · obtain ⟨rfl, rfl⟩ | ⟨-, hy⟩ := Interleaving.of_put_sessions hy
      · exact hbegin
      · exact h.alone k x m y hx hxf hxr (howns.frame rfl id) hopen hne hy hyf

/-- The session that has asked owns a committed position: either it did so before, or its answer is
the position, which no other session has read. -/
lemma alone_answer (hx : s.sessions n = some x) {β : Type} {q : Statement β}
    {next : Except SqlError β → Program Statement SqlError DispatchOutcome Unit}
    (hrest : x.rest = .query q next) (hfailed : x.failed = false)
    (hok : ReadsAlone accountId symbol request s (.query n))
    (hyf : ((persists accountId request).answer x q next s.store).failed = false)
    (hyr : hasRead accountId symbol ((persists accountId request).answer x q next s.store) = true)
    (hopen : s.store.openOn accountId symbol ≠ []) (hne : m ≠ n) (hy : s.sessions m = some y)
    (hmf : y.failed = false) : hasRead accountId symbol y = false := by
  have hview (hchange : ∀ db, (x.change db).positions = db.positions) :
      (x.change s.store).openOn accountId symbol = s.store.openOn accountId symbol :=
    openOn_congr (hchange s.store)
  rw [hasRead_answer, Bool.or_eq_true] at hyr
  cases h.session n x hx with
  | failed hf =>
    rw [hf] at hfailed
    cases hfailed
  | idle hread hchange hadds =>
    have hreads := hyr.resolve_right (by rw [hread]; exact Bool.false_ne_true)
    refine hok x hx hfailed ?_ hread ?_ m y hne hy hmf
    · rw [readsNext, hrest]
      exact hreads
    · rw [hview hchange]
      exact hopen
  | flat hread hchange hadds =>
    -- its insertion fails, since there is a committed position
    obtain ⟨side, quantity, price, next', hinsert⟩ := hadds.of_found_none
    cases hrest.symm.trans hinsert
    unfold Workload.answer at hyf
    cases hexec : (Statement.insertPosition accountId symbol side quantity price).exec
        (x.change s.store) with
    | error e =>
      simp only [persists, postgres, hexec] at hyf
      cases hyf
    | ok r =>
      have hcommit : postgres.Commits (sql _) (x.change s.store) r.1 (r.2 (x.change s.store)) :=
        commits_sql.mpr ⟨r.2, hexec, rfl⟩
      obtain ⟨-, -, -, -, -, -, hnone, -⟩ := commits_insertPosition.mp hcommit
      rw [hview hchange] at hnone
      exact (hopen hnone).elim
  | owner hread howns => exact h.alone n x m y hx hfailed hread howns hopen hne hy hmf

/-- A session does not read the position that another one owns. -/
lemma unread_answer (hx : s.sessions n = some x) {β : Type} {q : Statement β}
    {next : Except SqlError β → Program Statement SqlError DispatchOutcome Unit}
    (hrest : x.rest = .query q next) (hfailed : x.failed = false)
    (hok : ReadsAlone accountId symbol request s (.query n)) (hne : m ≠ n)
    (hy : s.sessions m = some y) (hyf : y.failed = false)
    (hyr : hasRead accountId symbol y = true) (howns : Owns accountId symbol request s m y)
    (hopen : s.store.openOn accountId symbol ≠ []) :
    hasRead accountId symbol ((persists accountId request).answer x q next s.store) = false := by
  have hread := h.alone m y n x hy hyf hyr howns hopen hne.symm hx hfailed
  rw [hasRead_answer, hread, Bool.or_false]
  cases hreads : q.readsPosition accountId symbol with
  | false => rfl
  | true =>
    have hview : (x.change s.store).openOn accountId symbol = s.store.openOn accountId symbol := by
      cases h.session n x hx with
      | failed hf =>
        rw [hf] at hfailed
        cases hfailed
      | idle _ hchange _ => exact openOn_congr (hchange s.store)
      | flat hread' | owner hread' =>
        rw [hread'] at hread
        cases hread
    have hnext : readsNext accountId symbol x = true := by
      rw [readsNext, hrest]
      exact hreads
    rw [hok x hx hfailed hnext hread (hview ▸ hopen) m y hne hy hyf] at hyr
    cases hyr

lemma query (hok : ReadsAlone accountId symbol request s (.query n))
    (hstep : (persists accountId request).step s (.query n) = some s') :
    FillsTracked accountId symbol request s' := by
  obtain ⟨x, y, wanted, hx, hfree, rfl, -, β, q, next, hrest, hy⟩ := Workload.of_step_query hstep
  have hkeep : ∀ p ∈ s.locked, p ∈ wanted.map (·, n) ++ s.locked :=
    fun p hp => List.mem_append_right _ hp
  have hlocked {k : ℕ} (hk : (RowLock.openPosition accountId symbol, k) ∈
      wanted.map (·, n) ++ s.locked) : (RowLock.openPosition accountId symbol ∈ wanted ∧ k = n) ∨
        (RowLock.openPosition accountId symbol, k) ∈ s.locked := by
    rcases List.mem_append.mp hk with hk | hk
    · obtain ⟨l, hl, heq⟩ := List.mem_map.mp hk
      cases heq
      exact .inl ⟨hl, rfl⟩
    · exact .inr hk
  refine ⟨h.valid, fun k z hz => ?_, fun k z m w hz hzf hzr howns hopen hne hw hwf => ?_,
    fun k m hk hm => ?_⟩
  · obtain ⟨rfl, rfl⟩ | ⟨hk, hz'⟩ := Interleaving.of_put_sessions hz
    · rcases hy with ⟨hfailed, -, rfl⟩ | ⟨-, rfl, rfl⟩
      · exact .failed hfailed
      · refine (h.session k x hx).answer h.valid hrest rfl hkeep fun l hl => ?_
        exact List.mem_append_left _ (List.mem_map.mpr ⟨l, hl, rfl⟩)
    · exact (h.session k z hz').frame rfl (hkeep _)
  · obtain ⟨rfl, rfl⟩ | ⟨hk, hz'⟩ := Interleaving.of_put_sessions hz
    · obtain ⟨rfl, rfl⟩ | ⟨-, hw'⟩ := Interleaving.of_put_sessions hw
      · exact (hne rfl).elim
      · rcases hy with ⟨hfailed, -, rfl⟩ | ⟨hfailed, -, rfl⟩
        · exact (Bool.false_ne_true (hzf.symm.trans hfailed)).elim
        · exact h.alone_answer hx hrest hfailed hok hzf hzr hopen hne hw' hwf
    · have howns' : Owns accountId symbol request s k z := howns.frame rfl fun hlock =>
        (hlocked hlock).resolve_left fun hnew => hk hnew.2
      obtain ⟨rfl, rfl⟩ | ⟨-, hw'⟩ := Interleaving.of_put_sessions hw
      · rcases hy with ⟨hfailed, -, rfl⟩ | ⟨hfailed, -, rfl⟩
        · exact (Bool.false_ne_true (hwf.symm.trans hfailed)).elim
        · exact h.unread_answer hx hrest hfailed hok hk hz' hzf hzr howns' hopen
      · exact h.alone k z m w hz' hzf hzr howns' hopen hne hw' hwf
  · rcases hlocked hk with ⟨hwanted, hkn⟩ | hold
    · rcases hlocked hm with ⟨-, hmn⟩ | hold'
      · rw [hkn, hmn]
      · exact hkn.trans (hfree (_, m) hold' hwanted).symm
    · rcases hlocked hm with ⟨hwanted, hmn⟩ | hold'
      · exact (hfree (_, k) hold hwanted).trans hmn.symm
      · exact h.holder k m hold hold'

lemma drop (n : ℕ) : FillsTracked accountId symbol request (s.drop n) := by
  have hlocked {p : RowLock × ℕ} (hp : p ∈ (s.drop n).locked) : p ∈ s.locked :=
    List.mem_of_mem_filter hp
  refine ⟨h.valid, fun m x hx => ?_, fun k x m y hx hxf hxr howns hopen hne hy hyf => ?_,
    fun k m hk hm => h.holder k m (hlocked hk) (hlocked hm)⟩
  · obtain ⟨hm, hx⟩ := Interleaving.of_drop_sessions hx
    exact (h.session m x hx).frame rfl fun hlock =>
      List.mem_filter.mpr ⟨hlock, decide_eq_true hm⟩
  · exact h.alone k x m y (Interleaving.of_drop_sessions hx).2 hxf hxr (howns.frame rfl hlocked)
      hopen hne (Interleaving.of_drop_sessions hy).2 hyf

/-- Another table changes. -/
lemma of_positions {db : Db} (hdb : db.positions = s.store.positions) :
    FillsTracked accountId symbol request { s with store := db } := by
  refine ⟨hdb ▸ h.valid, fun m x hx => (h.session m x hx).frame hdb id,
    fun k x m y hx hxf hxr howns hopen => ?_, h.holder⟩
  refine h.alone k x m y hx hxf hxr (howns.frame hdb.symm id) ?_
  rwa [← openOn_congr hdb]

/-- The commit of the owner: the others have read nothing, or will fail. -/
lemma of_owner (hx : s.sessions n = some x) (hfailed : x.failed = false)
    (hread : hasRead accountId symbol x = true) (howns : Owns accountId symbol request s n x) :
    FillsTracked accountId symbol request { s.drop n with store := x.change s.store } := by
  have hdrop := h.drop n
  have hother {m : ℕ} {y : PersistSession ι} (hy : (s.drop n).sessions m = some y)
      (hyf : y.failed = false) (hyr : hasRead accountId symbol y = true) :
      (∀ db, (y.change db).positions = db.positions) ∧
        Adds accountId symbol (some none) (request y.request).delta y.rest := by
    obtain ⟨hne, hy'⟩ := Interleaving.of_drop_sessions hy
    cases h.session m y hy' with
    | failed hf =>
      rw [hf] at hyf
      cases hyf
    | idle hread' =>
      rw [hread'] at hyr
      cases hyr
    | flat _ hchange hadds => exact ⟨hchange, hadds⟩
    | owner _ howns' =>
      by_cases hopen : s.store.openOn accountId symbol = []
      · exact (hne (h.holder m n (howns'.holds hopen) (howns.holds hopen))).elim
      · rw [h.alone n x m y hx hfailed hread howns hopen hne hy' hyf] at hyr
        cases hyr
  refine ⟨howns.valid, fun m y hy => ?_, fun k y m z hy hyf hyr howns' hopen => ?_, hdrop.holder⟩
  · cases hyf : y.failed with
    | true => exact .failed hyf
    | false =>
      cases hyr : hasRead accountId symbol y with
      | true =>
        obtain ⟨hchange, hadds⟩ := hother hy hyf hyr
        exact .flat hyr hchange hadds
      | false =>
        cases hdrop.session m y hy with
        | failed hf => exact .failed hf
        | idle hread' hchange hadds => exact .idle hread' hchange hadds
        | flat hread' | owner hread' =>
          rw [hread'] at hyr
          cases hyr
  · obtain ⟨hchange, hadds⟩ := hother hy hyf hyr
    exact (hopen (howns'.openOn_of_flat hchange hadds)).elim

/-- A commit adds the delta of its request to the position. -/
lemma commit (hstep : (persists accountId request).step s (.commit n) = some s') :
    FillsTracked accountId symbol request s' ∧
      ∀ x, s.sessions n = some x → x.failed = false →
        s'.store.signedOpen accountId symbol =
          s.store.signedOpen accountId symbol + (request x.request).delta := by
  obtain ⟨x, u, hx, hrest, rfl⟩ := Workload.of_step_commit hstep
  have hunique {y : PersistSession ι} (hy : s.sessions n = some y) : y = x :=
    Option.some.inj (hy.symm.trans hx)
  cases hfailed : x.failed with
  | true =>
    simp only [if_true]
    refine ⟨(h.drop n).of_positions rfl, fun y hy hyf => ?_⟩
    rw [hunique hy, hfailed] at hyf
    cases hyf
  | false =>
    simp only [Bool.false_eq_true, if_false]
    cases h.session n x hx with
    | failed hf => exact (Bool.false_ne_true (hfailed.symm.trans hf)).elim
    | idle _ hchange hadds =>
      have hpositions := hchange s.store
      refine ⟨(h.drop n).of_positions hpositions, fun y hy _ => ?_⟩
      rw [hunique hy, signedOpen_congr hpositions]
      rw [hrest] at hadds
      rw [hadds.of_value, add_zero]
    | flat _ _ hadds =>
      obtain ⟨side, quantity, price, next, hinsert⟩ := hadds.of_found_none
      cases hrest.symm.trans hinsert
    | owner hread howns =>
      refine ⟨h.of_owner hx hfailed hread howns, fun y hy _ => ?_⟩
      obtain ⟨-, -, ⟨read, d, hadds, hsum, -⟩, -⟩ := howns
      rw [hrest] at hadds
      rw [hadds.of_value, add_zero] at hsum
      rw [hunique hy]
      exact hsum

lemma step (hsymbol : ∀ i, ∀ delta ∈ (request i).result.positionsDelta, delta.symbol = symbol)
    {a : SessionAction ι} (hok : ReadsAlone accountId symbol request s a)
    (hstep : (persists accountId request).step s a = some s') :
    FillsTracked accountId symbol request s' := by
  cases a with
  | start n i => exact h.start hsymbol hok hstep
  | query n => exact h.query hok hstep
  | commit n => exact (h.commit hstep).1
  | rollback n =>
    simp only [Workload.step] at hstep
    split_ifs at hstep
    obtain rfl := Option.some.inj hstep
    exact h.drop n

end FillsTracked

lemma fillsTracked_of_quiet (request : ι → PersistRequest) (hquiet : Workload.Quiet s)
    (hv : PositionsValid s.store.positions) : FillsTracked accountId symbol request s where
  valid := hv
  session n x hx := by rw [hquiet.1 n] at hx; cases hx
  alone n x m y hx := by rw [hquiet.1 n] at hx; cases hx
  holder n m hn := by rw [hquiet.2] at hn; cases hn

/-- Two submitted orders to buy a unit, and a long position of one unit. -/
def twoBuys : Db :=
  { Db.empty with
    orders := [
      ⟨⟨1⟩, ⟨1⟩, "a", "BTCUSDT", .buy, .market, 1, none, .submitted, .paper, 0⟩,
      ⟨⟨2⟩, ⟨1⟩, "b", "BTCUSDT", .buy, .market, 1, none, .submitted, .paper, 0⟩]
    positions := [⟨1, ⟨1⟩, "BTCUSDT", .long, 1, 100, .open, none⟩] }

/-- The fill of one of the two. -/
def fillBuy (second : Bool) : PersistRequest where
  orderId := if second then ⟨2⟩ else ⟨1⟩
  snapshot :=
    { order := ⟨if second then ⟨2⟩ else ⟨1⟩, if second then "b" else "a", "BTCUSDT", .buy, .market, 1,
        none, .submitted⟩
      fills := [] }
  result :=
    { newStatus := some .filled
      fillsToAdd := [⟨if second then "b:0" else "a:0", 1, 100, 0, "USDT"⟩]
      positionsDelta := [⟨"BTCUSDT", 1⟩]
      events := [⟨"order_filled", []⟩] }

def twoBuysQuiet : Persists Bool := { store := twoBuys, sessions := fun _ => none, locked := [] }

lemma fillBuy_symbol : ∀ i, ∀ delta ∈ (fillBuy i).result.positionsDelta, delta.symbol = "BTCUSDT" := by
  decide

lemma fillBuy_scaled :
    ∀ i, ∀ delta ∈ (fillBuy i).result.positionsDelta, Numeric.IsScaled 10 delta.quantityDelta := by
  decide +kernel

lemma twoBuys_valid : PositionsValid twoBuys.positions where
  ids := by decide
  fits := by decide +kernel
  checked := by decide +kernel
  oneOpen := by decide +kernel

/-- One transaction after the other. -/
def serialFills : List (SessionAction Bool) :=
  [.start 0 false] ++ List.replicate 6 (.query 0) ++ [.commit 0] ++
    [.start 1 true] ++ List.replicate 6 (.query 1) ++ [.commit 1]

/-- No other of the two sessions is under way when one asks. -/
def AsksAlone (s : Persists Bool) : SessionAction Bool → Prop
  | .start n _ => n < 2
  | .query n => n < 2 ∧ s.sessions (1 - n) = none
  | .commit _ | .rollback _ => True

instance (s : Persists Bool) : ∀ a, Decidable (AsksAlone s a)
  | .start n _ => inferInstanceAs (Decidable (n < 2))
  | .query n =>
    haveI : Decidable (s.sessions (1 - n) = none) :=
      decidable_of_iff ((s.sessions (1 - n)).isNone = true) Option.isNone_iff_eq_none
    inferInstanceAs (Decidable (n < 2 ∧ s.sessions (1 - n) = none))
  | .commit _ | .rollback _ => inferInstanceAs (Decidable True)

/-- There are only two sessions. -/
lemma none_of_step {W : Workload Statement Db SqlError RowLock Bool DispatchOutcome Unit}
    {s s' : Persists Bool} {a : SessionAction Bool} (h : ∀ m ≥ 2, s.sessions m = none)
    (hok : AsksAlone s a) (hstep : W.step s a = some s') : ∀ m ≥ 2, s'.sessions m = none := by
  intro m hm
  have hdrop (n : ℕ) : (s.drop n).sessions m = none := by
    by_contra hs
    obtain ⟨y, hy⟩ := Option.ne_none_iff_exists'.mp hs
    have hold := (Interleaving.of_drop_sessions hy).2
    rw [h m hm] at hold
    cases hold
  cases a with
  | start n i =>
    have hn : n < 2 := hok
    simp only [Workload.step] at hstep
    split_ifs at hstep
    obtain rfl := Option.some.inj hstep
    show Function.update s.sessions n _ m = none
    rw [Function.update_of_ne (by omega), h m hm]
  | query n =>
    have hn : n < 2 := hok.1
    obtain ⟨x, y, wanted, -, -, rfl, -⟩ := Workload.of_step_query hstep
    show Function.update s.sessions n _ m = none
    rw [Function.update_of_ne (by omega), h m hm]
  | commit n =>
    obtain ⟨x, u, -, -, rfl⟩ := Workload.of_step_commit hstep
    exact hdrop n
  | rollback n =>
    simp only [Workload.step] at hstep
    split_ifs at hstep
    obtain rfl := Option.some.inj hstep
    exact hdrop n

/-- Both read the position before one of them commits. -/
def overlappingFills : List (SessionAction Bool) :=
  [.start 0 false, .start 1 true] ++ List.replicate 3 (.query 0) ++ List.replicate 3 (.query 1) ++
    List.replicate 3 (.query 0) ++ [.commit 0] ++ List.replicate 3 (.query 1) ++ [.commit 1]

end Confluence
