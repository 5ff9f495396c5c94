import Confluence.Library.Paging
import Confluence.Server.Routes

/-!
# The pages of the audit log

A client reads the events of an account page by page, each from the last identifier of the page
before. Whatever events are inserted between the pages, it comes to an empty page, and then it has
got every event that was there at first exactly once, in strictly descending order.
-/

namespace Confluence

/-- The rows of the account's events. -/
def Db.eventRows (db : Db) (columns : ℕ → Uuid × Timestamp) (accountId : Uuid) :
    List RiskEventView :=
  (db.riskEvents.filter fun r => decide (r.accountId = accountId)).zipIdx.map fun (r, n) =>
    { id := (columns n).1, eventType := r.eventType, payload := r.payload
      createdAt := (columns n).2 }

/-- Identifiers are ordered as numbers. -/
def RiskEventView.key (v : RiskEventView) : ℕ := v.id.bits.toNat

/-- The number of events that a request may get. -/
def EventsQuery.pageSize (limit : Option ℤ) : ℕ := (min (max (limit.getD 50) 1) 500).toNat

/-- What a client has got, and the event before which it continues. -/
structure AuditReader where
  before : Option Uuid
  seen : List RiskEventView

/-- The client after `n` requests, the `i`-th of which finds the database `dbs i`. -/
def auditReaders (columns : ℕ → Uuid × Timestamp) (accountId : Uuid) (dbs : ℕ → Db)
    (limits : ℕ → Option ℤ) : ℕ → AuditReader
  | 0 => ⟨none, []⟩
  | n + 1 =>
    let reader := auditReaders columns accountId dbs limits n
    match (listRiskEvents columns accountId ⟨limits n, reader.before⟩ (dbs n)).1 with
    | .ok events => ⟨(events.getLast?.map (·.id)).or reader.before, reader.seen ++ events⟩
    | .error _ => reader

section

variable {columns : ℕ → Uuid × Timestamp} {accountId : Uuid} {dbs : ℕ → Db}
  {limits : ℕ → Option ℤ} {db db' : Db}

lemma riskEventPage_eq (before : Option Uuid) (limit : ℕ) :
    db.riskEventPage columns accountId before limit =
      Paging.page RiskEventView.key (before.map (·.bits.toNat)) limit
        (db.eventRows columns accountId) := by
  have hbelow (r : RiskEventView) :
      (before.all fun cursor => decide (r.id.bits < cursor.bits)) =
        decide (Paging.Below RiskEventView.key (before.map (·.bits.toNat)) r) := by
    cases before <;> simp [Paging.Below, RiskEventView.key, BitVec.lt_def]
  rw [Paging.page, Paging.sorted]
  simp only [← hbelow]
  rfl

lemma RiskEventView.key_inj {v w : RiskEventView} : v.key = w.key ↔ v.id = w.id := by
  constructor
  · intro h
    exact congrArg Uuid.mk (BitVec.eq_of_toNat_eq h)
  · intro h
    rw [key, key, h]

/-- A request answers with a page. -/
lemma listRiskEvents_eq (limit : Option ℤ) (before : Option Uuid) :
    listRiskEvents columns accountId ⟨limit, before⟩ db =
      (.ok (Paging.page RiskEventView.key (before.map (·.bits.toNat)) (EventsQuery.pageSize limit)
        (db.eventRows columns accountId)), db) := by
  rw [← riskEventPage_eq]
  rfl

lemma pageSize_pos (limit : Option ℤ) : 0 < EventsQuery.pageSize limit := by
  unfold EventsQuery.pageSize
  omega

/-- The client is a reader of pages. -/
lemma readers_eq (n : ℕ) :
    Paging.readers RiskEventView.key (fun i => (dbs i).eventRows columns accountId)
        (fun i => EventsQuery.pageSize (limits i)) n =
      ⟨(auditReaders columns accountId dbs limits n).before.map (·.bits.toNat),
        (auditReaders columns accountId dbs limits n).seen⟩ := by
  induction n with
  | zero => rfl
  | succ n ih =>
    rw [Paging.readers, ih, auditReaders, listRiskEvents_eq]
    simp only [Paging.Reader.read, Option.map_or, Option.map_map]
    rfl

lemma eventRows_append {events : List RiskEventRecord}
    (h : db'.riskEvents = db.riskEvents ++ events) :
    db.eventRows columns accountId ⊆ db'.eventRows columns accountId := by
  rw [Db.eventRows, Db.eventRows, h, List.filter_append, List.zipIdx_append, List.map_append]
  exact List.subset_append_left ..

/-- A client that reads from its last event on, until a page is empty, comes to an end. It has then
got every event that was there at first exactly once, and all that it has got in strictly descending
order, whatever events have been inserted meanwhile. -/
theorem events_read_once (hgrow : ∀ n, ∃ events,
      (dbs (n + 1)).riskEvents = (dbs n).riskEvents ++ events)
    (hids : ∀ n, (((dbs n).eventRows columns accountId).map (·.id)).Nodup) :
    ∃ n, (listRiskEvents columns accountId
        ⟨limits n, (auditReaders columns accountId dbs limits n).before⟩ (dbs n)).1 = .ok [] ∧
      (∀ i < n, (listRiskEvents columns accountId
        ⟨limits i, (auditReaders columns accountId dbs limits i).before⟩ (dbs i)).1 ≠ .ok []) ∧
      (auditReaders columns accountId dbs limits n).seen.Pairwise
        (fun a b => b.id.bits < a.id.bits) ∧
      ∀ e ∈ (dbs 0).eventRows columns accountId,
        (auditReaders columns accountId dbs limits n).seen.filter
          (fun v => decide (v.id = e.id)) = [e] := by
  have hsub (n : ℕ) :
      (dbs 0).eventRows columns accountId ⊆ (dbs n).eventRows columns accountId := by
    induction n with
    | zero => exact List.Subset.refl _
    | succ n ih =>
      obtain ⟨events, hevents⟩ := hgrow n
      exact List.Subset.trans ih (eventRows_append hevents)
  have hkeys (n : ℕ) : (((dbs n).eventRows columns accountId).map RiskEventView.key).Nodup := by
    have hdistinct := List.pairwise_map.mp (hids n)
    exact List.pairwise_map.mpr (hdistinct.imp fun h hkey => h (RiskEventView.key_inj.mp hkey))
  obtain ⟨n, hempty, hfirst, hdescending, hall⟩ :=
    Paging.exists_all_read hsub hkeys fun i => pageSize_pos (limits i)
  have hpage (i : ℕ) : (listRiskEvents columns accountId
      ⟨limits i, (auditReaders columns accountId dbs limits i).before⟩ (dbs i)).1 =
      .ok (Paging.pageAt RiskEventView.key (fun i => (dbs i).eventRows columns accountId)
        (fun i => EventsQuery.pageSize (limits i)) i) := by
    rw [listRiskEvents_eq, Paging.pageAt, readers_eq]
  rw [readers_eq] at hdescending hall
  refine ⟨n, by rw [hpage, hempty], fun i hi => ?_, hdescending, fun e he => ?_⟩
  · rw [hpage]
    exact fun h => hfirst i hi (Except.ok.inj h)
  · have hfilter := hdescending.filter_eq (hall e he)
    rw [← hfilter]
    apply List.filter_congr
    intro v _
    rw [decide_eq_decide]
    exact RiskEventView.key_inj.symm

end

/-! ### An event that is inserted behind the cursor -/

/-- The account's first event has a larger identifier than its second. -/
def descendingColumns (n : ℕ) : Uuid × Timestamp := (⟨BitVec.ofNat 128 (5 - n)⟩, 0)

/-- The second event is inserted after the first request. -/
def insertedAfterFirst : ℕ → Db
  | 0 => { Db.empty with riskEvents := [⟨⟨1⟩, "account_created", []⟩] }
  | _ + 1 => { Db.empty with
      riskEvents := [⟨⟨1⟩, "account_created", []⟩, ⟨⟨1⟩, "kill_switch_engaged", []⟩] }

theorem events_read_once_inserted :
    ∃ n, (auditReaders descendingColumns ⟨1⟩ insertedAfterFirst (fun _ => some 1) n).seen.filter
        (fun v => decide (v.id = ⟨5⟩)) = [⟨⟨5⟩, "account_created", [], 0⟩] ∧
      (auditReaders descendingColumns ⟨1⟩ insertedAfterFirst (fun _ => some 1) n).seen.Pairwise
        fun a b => b.id.bits < a.id.bits := by
  have hgrow (n : ℕ) : ∃ events, (insertedAfterFirst (n + 1)).riskEvents =
      (insertedAfterFirst n).riskEvents ++ events := by
    cases n with
    | zero => exact ⟨[⟨⟨1⟩, "kill_switch_engaged", []⟩], rfl⟩
    | succ n => exact ⟨[], rfl⟩
  have hids (n : ℕ) :
      (((insertedAfterFirst n).eventRows descendingColumns ⟨1⟩).map (·.id)).Nodup := by
    cases n with
    | zero => decide
    | succ n =>
      exact (by decide : (((insertedAfterFirst 1).eventRows descendingColumns ⟨1⟩).map (·.id)).Nodup)
  obtain ⟨n, -, -, hdescending, hall⟩ :=
    @events_read_once _ _ _ (fun _ => some 1) hgrow hids
  exact ⟨n, hall ⟨⟨5⟩, "account_created", [], 0⟩ (by simp [Db.eventRows, insertedAfterFirst,
    descendingColumns, Db.empty]), hdescending⟩

end Confluence
