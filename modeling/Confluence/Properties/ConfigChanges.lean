import Confluence.Server.Locks
import Confluence.Server.Effects

/-!
# Concurrent changes of the risk configuration

A request reads the version without a lock, and its update takes the row only at that version. So
the requests that commit replace one version after another, each as if it ran alone. The event of a
change tells the percentages of the request, which the columns of the row round.
-/

namespace Confluence

open Program

/-- The percentages as the row keeps them. -/
def RiskConfig.rounded (cfg : RiskConfig) : RiskConfig where
  dailyMaxLossPct := Numeric.roundTo 4 cfg.dailyMaxLossPct
  maxPositionPctEquity := Numeric.roundTo 4 cfg.maxPositionPctEquity
  maxConcurrentPositions := cfg.maxConcurrentPositions
  maxCorrelatedExposurePct := Numeric.roundTo 4 cfg.maxCorrelatedExposurePct

/-- No percentage has a fifth decimal. -/
def RiskConfig.FourDecimals (cfg : RiskConfig) : Prop :=
  Numeric.IsScaled 4 cfg.dailyMaxLossPct ∧ Numeric.IsScaled 4 cfg.maxPositionPctEquity ∧
    Numeric.IsScaled 4 cfg.maxCorrelatedExposurePct

instance (cfg : RiskConfig) : Decidable cfg.FourDecimals := inferInstanceAs (Decidable (_ ∧ _))

lemma RiskConfig.rounded_eq_iff {cfg : RiskConfig} : cfg.rounded = cfg ↔ cfg.FourDecimals := by
  obtain ⟨loss, position, concurrent, exposure⟩ := cfg
  simp only [rounded, FourDecimals, RiskConfig.mk.injEq, Numeric.roundTo_eq_self_iff, true_and]

/-- The configuration of the account with its version, as it is read. -/
def Db.riskConfigView (db : Db) (accountId : Uuid) : Option RiskConfigView :=
  (db.riskConfig accountId).map fun row => ⟨row.1, row.2⟩

/-- The primary key of `risk_configs`: at most one row of the account. -/
def Db.OneRiskConfig (db : Db) (accountId : Uuid) : Prop :=
  (db.riskConfigs.filter fun r => r.accountId = accountId).length ≤ 1

instance (db : Db) (accountId : Uuid) : Decidable (db.OneRiskConfig accountId) :=
  inferInstanceAs (Decidable (_ ≤ 1))

/-- What one event tells of a change. -/
structure ConfigChange where
  old : RiskConfigView
  new : RiskConfigView

def ConfigChange.event (accountId : Uuid) (c : ConfigChange) : RiskEventRecord where
  accountId := accountId
  eventType := "risk_config_changed"
  payload := [("old", .obj c.old.payload), ("new", .obj c.new.payload)]

lemma RiskConfigView.payload_injective : Function.Injective RiskConfigView.payload := by
  rintro ⟨⟨loss, position, concurrent, exposure⟩, version⟩
    ⟨⟨loss', position', concurrent', exposure'⟩, version'⟩ h
  simp only [payload, List.cons.injEq, Prod.mk.injEq, Datum.decimal.injEq, Datum.int.injEq,
    true_and, and_true] at h
  obtain ⟨rfl, rfl, rfl, rfl, rfl⟩ := h
  rfl

lemma ConfigChange.event_injective (accountId : Uuid) :
    Function.Injective (ConfigChange.event accountId) := by
  rintro ⟨old, new⟩ ⟨old', new'⟩ h
  simp only [event, RiskEventRecord.mk.injEq, List.cons.injEq, Prod.mk.injEq, Datum.obj.injEq,
    true_and, and_true] at h
  obtain ⟨hold, hnew⟩ := h
  rw [RiskConfigView.payload_injective hold, RiskConfigView.payload_injective hnew]

/-! ### One request -/

variable {accountId : Uuid} {db db' : Db} {body view : RiskConfigView}

/-- `put_risk_config` from its validation to its commit. -/
def putRiskConfigRequest (accountId : Uuid) (body : RiskConfigView) : Tx RiskConfigView :=
  match validateRiskConfig body with
  | .error e => fail e
  | .ok () => putRiskConfigTx accountId body

lemma atomically_putRiskConfigRequest :
    postgres.atomically (putRiskConfigRequest accountId body) db =
      putRiskConfig accountId body db := by
  unfold putRiskConfigRequest putRiskConfig
  cases validateRiskConfig body <;> rfl

/-- The rows of the account at the version. -/
def atVersion (accountId : Uuid) (version : ℤ) (r : RiskConfigRecord) : Bool :=
  decide (r.accountId = accountId) && decide (r.version = version)

/-- The row after a change to the configuration. -/
def RiskConfigRecord.changed (r : RiskConfigRecord) (view : RiskConfigView) : RiskConfigRecord :=
  { r with config := view.config.rounded, version := view.version }

def Db.withRiskConfig (db : Db) (accountId : Uuid) (version : ℤ) (view : RiskConfigView) : Db :=
  { db with
    riskConfigs := updateWhere (atVersion accountId version) (·.changed view) db.riskConfigs }

lemma exec_updateRiskConfig {config : RiskConfig} {newVersion version : ℤ} {updated : ℕ}
    {change : Db → Db} (h : (Statement.updateRiskConfig accountId config newVersion version).exec db =
      .ok (updated, change)) :
    updated = (db.riskConfigs.filter (atVersion accountId version)).length ∧
      change = fun db => db.withRiskConfig accountId version ⟨config, newVersion⟩ := by
  simp only [Statement.exec, column_bind_eq_ok, require_bind_eq_ok] at h
  obtain ⟨loss, hloss, position, hposition, exposure, hexposure, -, hexec⟩ := h
  obtain rfl := Numeric.eq_roundTo_of_store hloss
  obtain rfl := Numeric.eq_roundTo_of_store hposition
  obtain rfl := Numeric.eq_roundTo_of_store hexposure
  cases hexec
  exact ⟨rfl, rfl⟩

/-- A request that commits replaces the version that it carries. -/
lemma of_commits_change (h : postgres.Commits (putRiskConfigTx accountId body) db view db') :
    ∃ old, db.riskConfigView accountId = some ⟨old, body.version⟩ ∧
      view = ⟨body.config, body.version + 1⟩ ∧
      (db.riskConfigs.filter (atVersion accountId body.version)).length = 1 ∧
      db' = { db.withRiskConfig accountId body.version view with
        riskEvents := db.riskEvents ++ [ConfigChange.event accountId ⟨⟨old, body.version⟩, view⟩] } := by
  simp only [putRiskConfigTx, Engine.commits_bind, commits_loadRiskConfig] at h
  obtain ⟨⟨old, version⟩, _, ⟨hrow, rfl⟩, h⟩ := h
  simp only at h
  split_ifs at h with hversion
  · exact (Engine.not_commits_fail h).elim
  · obtain rfl : version = body.version := not_not.mp hversion
    simp only [Engine.commits_bind] at h
    obtain ⟨updated, _, hupdate, h⟩ := h
    split_ifs at h with hupdated
    · exact (Engine.not_commits_fail h).elim
    · simp only [Engine.commits_bind, commits_insertRiskEvent, Engine.commits_pure] at h
      obtain ⟨_, _, ⟨-, rfl⟩, rfl, rfl⟩ := h
      obtain ⟨change, hexec, rfl⟩ := commits_sql.mp hupdate
      obtain ⟨rfl, rfl⟩ := exec_updateRiskConfig hexec
      refine ⟨old, ?_, rfl, not_not.mp hupdated, rfl⟩
      rw [Db.riskConfigView, hrow]
      rfl

lemma strict_putRiskConfigTx (accountId : Uuid) (body : RiskConfigView) :
    postgres.Strict (putRiskConfigTx accountId body) := by
  refine .bind (strict_loadRiskConfig _) fun _ => .ite (Engine.strict_done _) ?_
  refine .bind (strict_sql _) fun _ => .ite (Engine.strict_done _) ?_
  exact .bind (strict_sql _) fun _ => Engine.strict_pure _

/-- A request that succeeds has committed. -/
lemma commits_of_atomically
    (h : postgres.atomically (putRiskConfigRequest accountId body) db = (.ok view, db')) :
    postgres.Commits (putRiskConfigTx accountId body) db view db' := by
  unfold putRiskConfigRequest at h
  cases hvalid : validateRiskConfig body with
  | error e =>
    rw [hvalid] at h
    cases h
  | ok u =>
    rw [hvalid] at h
    have hcommit := (strict_putRiskConfigTx accountId body).commits (congrArg Prod.fst h)
    rwa [h] at hcommit

/-- The row of the account after an update. -/
lemma riskConfigView_withRiskConfig {version : ℤ} :
    (db.withRiskConfig accountId version view).riskConfigView accountId =
      (db.riskConfigView accountId).map fun stored =>
        if stored.version = version then ⟨view.config.rounded, view.version⟩ else stored := by
  unfold Db.riskConfigView Db.riskConfig Db.withRiskConfig
  rw [find?_updateWhere]
  · cases hrow : db.riskConfigs.find? fun r => r.accountId = accountId with
    | none => rfl
    | some r =>
      have hid : r.accountId = accountId := by simpa using List.find?_some hrow
      by_cases hversion : r.version = version
      · simp [atVersion, hid, hversion, RiskConfigRecord.changed]
      · simp [atVersion, hversion]
  · exact fun _ => rfl

lemma riskConfigView_of_commits
    (h : postgres.Commits (putRiskConfigTx accountId body) db view db') :
    db'.riskConfigView accountId = some ⟨view.config.rounded, view.version⟩ := by
  obtain ⟨old, hrow, rfl, -, rfl⟩ := of_commits_change h
  show (db.withRiskConfig accountId body.version ⟨body.config, body.version + 1⟩).riskConfigView
    accountId = _
  rw [riskConfigView_withRiskConfig, hrow, Option.map_some, if_pos rfl]

lemma oneRiskConfig_of_commits (hone : db.OneRiskConfig accountId)
    (h : postgres.Commits (putRiskConfigTx accountId body) db view db') :
    db'.OneRiskConfig accountId := by
  obtain ⟨old, -, -, -, rfl⟩ := of_commits_change h
  unfold Db.OneRiskConfig at *
  simp only [Db.withRiskConfig]
  rw [filter_updateWhere]
  · simpa [updateWhere] using hone
  · exact fun _ => rfl

/-! ### Interleaved requests -/

/-- Requests to change the configuration of one account. -/
def putRiskConfigs (accountId : Uuid) :
    Workload Statement Db SqlError RowLock RiskConfigView ApiError RiskConfigView where
  engine := postgres
  locks := Statement.locks
  tx := putRiskConfigRequest accountId

abbrev ConfigSession := Session Statement Db SqlError RiskConfigView ApiError RiskConfigView

abbrev ConfigRequests :=
  Interleaving Statement Db SqlError RowLock RiskConfigView ApiError RiskConfigView

/-- What follows the update. -/
def afterUpdate (accountId : Uuid) (old : RiskConfig) (body : RiskConfigView) :
    Except SqlError ℕ → Tx RiskConfigView
  | .ok updated =>
    if updated ≠ 1 then
      fail (.conflict ["risk config was modified concurrently; re-read and retry"])
    else do
      insertRiskEvent accountId "risk_config_changed"
        [("old", .obj (RiskConfigView.payload ⟨old, body.version⟩)),
          ("new", .obj (RiskConfigView.payload ⟨body.config, body.version + 1⟩))]
      return { body with version := body.version + 1 }
  | .error e => fail (.db e)

/-- What follows a read that has found the version of the request. -/
def updateConfig (accountId : Uuid) (old : RiskConfig) (body : RiskConfigView) :
    Tx RiskConfigView :=
  .query (.updateRiskConfig accountId body.config (body.version + 1) body.version)
    (afterUpdate accountId old body)

/-- What follows the read of the configuration. -/
def afterRead (accountId : Uuid) (body : RiskConfigView) :
    Except SqlError (Option (RiskConfig × ℤ)) → Tx RiskConfigView
  | .ok (some row) =>
    if row.2 = body.version then updateConfig accountId row.1 body
    else fail (.conflict
      ["risk config version is ", row.2, ", request had ", body.version])
  | .ok none => fail .notFound
  | .error e => fail (.db e)

lemma putRiskConfigTx_eq : putRiskConfigTx accountId body =
    .query (.selectRiskConfig accountId) (afterRead accountId body) := by
  unfold putRiskConfigTx
  show Program.query _ _ = _
  congr 1
  funext r
  rcases r with e | _ | ⟨old, version⟩
  · rfl
  · rfl
  · by_cases hversion : version = body.version
    · subst hversion
      show (if _ then _ else _) = if _ then _ else _
      rw [if_neg (by simp), if_pos rfl]
      show Program.query _ _ = Program.query _ _
      congr 1
      funext r
      cases r <;> rfl
    · show (if _ then _ else _) = if _ then _ else _
      rw [if_pos hversion, if_neg hversion]

/-- A session that has not begun, or has read the version that its request carries. Since then the
version may have grown, and has not come back. -/
inductive ReadsConfig (accountId : Uuid) (x : ConfigSession) (db : Db) : Prop
  | fresh (h : x = (putRiskConfigs accountId).begin x.request)
  | read (old : RiskConfig) (hvalid : validateRiskConfig x.request = .ok ())
      (hrest : x.rest = updateConfig accountId old x.request) (hchange : ∀ db, x.change db = db)
      (hfailed : x.failed = false)
      (hrow : ∀ stored ∈ db.riskConfigView accountId, x.request.version ≤ stored.version ∧
        (stored.version = x.request.version → stored.config = old))

lemma riskConfigView_of_atVersion {version : ℤ} (hone : db.OneRiskConfig accountId)
    (h : (db.riskConfigs.filter (atVersion accountId version)).length = 1) :
    ∃ r ∈ db.riskConfigs, r.accountId = accountId ∧
      db.riskConfigView accountId = some ⟨r.config, version⟩ := by
  obtain ⟨r, hr⟩ := List.length_eq_one_iff.mp h
  have hmem : r ∈ db.riskConfigs.filter (atVersion accountId version) := by
    rw [hr]
    exact List.mem_singleton_self r
  obtain ⟨hmem, hversion⟩ := List.mem_filter.mp hmem
  obtain ⟨hid, hversion⟩ := Bool.and_eq_true_iff.mp hversion
  have hid : r.accountId = accountId := of_decide_eq_true hid
  refine ⟨r, hmem, hid, ?_⟩
  have hown : r ∈ db.riskConfigs.filter fun r => r.accountId = accountId :=
    List.mem_filter.mpr ⟨hmem, decide_eq_true hid⟩
  have hfilter : (db.riskConfigs.filter fun r => r.accountId = accountId) = [r] := by
    unfold Db.OneRiskConfig at hone
    cases hl : db.riskConfigs.filter fun r => r.accountId = accountId with
    | nil =>
      rw [hl] at hown
      cases hown
    | cons r' rows =>
      rw [hl] at hown hone
      obtain rfl : rows = [] := List.length_eq_zero_iff.mp (by simpa using hone)
      rw [List.mem_singleton.mp hown]
  rw [Db.riskConfigView, Db.riskConfig, ← List.head?_filter, hfilter, ← of_decide_eq_true hversion]
  rfl

/-- The run goes on from what it has read as long as the row is at that version. -/
lemma ReadsConfig.current {x : ConfigSession} {old : RiskConfig}
    (hvalid : validateRiskConfig x.request = .ok ())
    (hrest : x.rest = updateConfig accountId old x.request) (hchange : ∀ db, x.change db = db)
    (hfailed : x.failed = false)
    (hrow : db.riskConfigView accountId = some ⟨old, x.request.version⟩) :
    x.Current (putRiskConfigs accountId) db := by
  have hselect : (Statement.selectRiskConfig accountId).exec db =
      .ok (some (old, x.request.version), id) := by
    obtain ⟨row, hfound, hview⟩ := Option.map_eq_some_iff.mp hrow
    obtain ⟨rfl, hversion⟩ := RiskConfigView.mk.inj hview
    rw [← hversion]
    exact congrArg (fun r => Except.ok (r, id)) hfound
  have htx : (putRiskConfigs accountId).tx x.request =
      .query (.selectRiskConfig accountId) (afterRead accountId x.request) := by
    rw [← putRiskConfigTx_eq]
    show putRiskConfigRequest accountId x.request = _
    rw [putRiskConfigRequest, hvalid]
  unfold Session.Current Session.view
  rw [htx, hrest, hchange, hfailed]
  simp only [Engine.run, Bool.false_eq_true, if_false, putRiskConfigs, postgres, hselect,
    afterRead, if_true, id]

/-- Requests check at their update what they have read. -/
lemma optimistic_putRiskConfigs (accountId : Uuid) :
    (putRiskConfigs accountId).Optimistic (.riskConfig accountId)
      (fun db => db.OneRiskConfig accountId) (ReadsConfig accountId) where
  begins _ _ _ := .fresh rfl
  pending x db h := by
    cases h with
    | fresh h =>
      refine ⟨by rw [h]; rfl, fun view hdone => ?_⟩
      have hrest : x.rest = putRiskConfigRequest accountId x.request := by
        rw [h]
        rfl
      rw [putRiskConfigRequest, hdone] at hrest
      cases hvalid : validateRiskConfig x.request with
      | error e =>
        rw [hvalid] at hrest
        cases hrest
      | ok u =>
        simp only [hvalid, putRiskConfigTx_eq] at hrest
        cases hrest
    | read old _ hrest _ hfailed => exact ⟨hfailed, fun view hdone => by cases hrest.symm.trans hdone⟩
  asks x db β q next hone h hquery := by
    cases h with
    | fresh h =>
      have hrest : x.rest = putRiskConfigRequest accountId x.request := by
        rw [h]
        rfl
      rw [putRiskConfigRequest, hquery] at hrest
      cases hvalid : validateRiskConfig x.request with
      | error e =>
        rw [hvalid] at hrest
        cases hrest
      | ok u =>
        simp only [hvalid, putRiskConfigTx_eq] at hrest
        cases hrest
        have hchange (db : Db) : x.change db = db := by
          rw [h]
          rfl
        refine .inr ?_
        have hexec : (Statement.selectRiskConfig accountId).exec (x.change db) =
            .ok (db.riskConfig accountId, id) := by
          rw [hchange]
          rfl
        rw [Workload.answer_ok hexec]
        rcases hrow : db.riskConfig accountId with _ | ⟨old, version⟩
        · exact .inr ⟨.notFound, rfl⟩
        · by_cases hversion : version = x.request.version
          · refine .inl (.read old hvalid (if_pos hversion) hchange ?_ fun stored hstored => ?_)
            · rw [h]
              rfl
            · rw [Db.riskConfigView, hrow] at hstored
              obtain rfl := Option.some.inj hstored
              exact ⟨hversion.ge, fun _ => rfl⟩
          · exact .inr ⟨_, if_neg hversion⟩
    | read old hvalid hrest hchange hfailed hrow =>
      cases hquery.symm.trans hrest
      cases hexec : (Statement.updateRiskConfig accountId x.request.config (x.request.version + 1)
        x.request.version).exec (x.change db) with
      | error e =>
        rw [Workload.answer_error hexec]
        exact .inr (.inr ⟨_, rfl⟩)
      | ok r =>
        obtain ⟨updated, change⟩ := r
        obtain ⟨hupdated, -⟩ := exec_updateRiskConfig hexec
        rw [hchange] at hupdated
        by_cases hone' : updated = 1
        · obtain ⟨r, hr, hid, hfound⟩ := riskConfigView_of_atVersion hone (hupdated.symm.trans hone')
          have hold : r.config = old := (hrow _ hfound).2 rfl
          rw [hold] at hfound
          refine .inl ⟨?_, ReadsConfig.current hvalid hrest hchange hfailed hfound⟩
          show _ ∈ ((x.change db).riskConfigs.filter fun r => r.accountId = accountId).map _
          rw [hchange]
          exact List.mem_map.mpr ⟨r, List.mem_filter.mpr ⟨hr, decide_eq_true hid⟩, by rw [hid]⟩
        · rw [Workload.answer_ok hexec]
          exact .inr (.inr ⟨_, if_pos hone'⟩)
  keeps body db view db' hone h := by
    exact oneRiskConfig_of_commits hone (commits_of_atomically h)
  survives body db view db' hone h x hx := by
    cases hx with
    | fresh hfresh => exact .fresh hfresh
    | read old hvalid hrest hchange hfailed hrow =>
      have hcommit := commits_of_atomically h
      obtain ⟨stored, hstored, rfl, -, -⟩ := of_commits_change hcommit
      have hbefore := (hrow _ hstored).1
      refine .read old hvalid hrest hchange hfailed fun now hnow => ?_
      rw [riskConfigView_of_commits hcommit] at hnow
      obtain rfl := Option.some.inj hnow
      simp only at hbefore ⊢
      exact ⟨by omega, fun h => by omega⟩

/-! ### The history of the configuration -/

/-- From version `v` on, each request carries the version that it replaces, and is answered with the
next. -/
def ReplaceInTurn : ℤ → List (RiskConfigView × RiskConfigView) → Prop
  | _, [] => True
  | v, (body, view) :: answered =>
    body.version = v ∧ view.version = v + 1 ∧ ReplaceInTurn (v + 1) answered

/-- The requests that succeed take one version after another and leave one event each. The events
link: each old configuration is the new one before it, and the last new one is stored. -/
structure ConfigsLogged (accountId : Uuid) (db db' : Db)
    (answered : List (RiskConfigView × RiskConfigView)) : Prop where
  inTurn : ∀ stored ∈ db.riskConfigView accountId, ReplaceInTurn stored.version answered
  events : ∃ changes : List ConfigChange,
    db'.riskEvents = db.riskEvents ++ changes.map (·.event accountId) ∧
    changes.map (·.old.version) = answered.map (·.1.version) ∧
    changes.map (·.new.version) = answered.map (·.2.version) ∧
    changes.IsChain (fun c d => c.new = d.old) ∧
    ∀ c ∈ changes.getLast?, db'.riskConfigView accountId = some c.new

/-- The changes of requests that succeed one after another. -/
def changesFrom : RiskConfigView → List (RiskConfigView × RiskConfigView) → List ConfigChange
  | _, [] => []
  | old, (_, view) :: answered =>
    ⟨old, view⟩ :: changesFrom ⟨view.config.rounded, view.version⟩ answered

/-- What they leave stored. -/
def storedAfter : RiskConfigView → List (RiskConfigView × RiskConfigView) → RiskConfigView
  | stored, [] => stored
  | _, (_, view) :: answered => storedAfter ⟨view.config.rounded, view.version⟩ answered

variable {answered : List (RiskConfigView × RiskConfigView)} {stored : RiskConfigView}

lemma changesFrom_old (h : ReplaceInTurn stored.version answered) :
    (changesFrom stored answered).map (·.old.version) = answered.map (·.1.version) := by
  induction answered generalizing stored with
  | nil => rfl
  | cons a answered ih =>
    obtain ⟨body, view⟩ := a
    obtain ⟨hbody, hview, h⟩ := h
    simp only [changesFrom, List.map_cons, hbody]
    rw [ih (by rwa [hview])]

lemma changesFrom_new (stored : RiskConfigView)
    (answered : List (RiskConfigView × RiskConfigView)) :
    (changesFrom stored answered).map (·.new.version) = answered.map (·.2.version) := by
  induction answered generalizing stored with
  | nil => rfl
  | cons a answered ih => simp only [changesFrom, List.map_cons, ih]

/-- The events link as long as the columns round nothing. -/
lemma linked_changesFrom_iff (stored : RiskConfigView)
    (answered : List (RiskConfigView × RiskConfigView)) :
    ((changesFrom stored answered).IsChain (fun c d => c.new = d.old) ∧
      ∀ c ∈ (changesFrom stored answered).getLast?, storedAfter stored answered = c.new) ↔
      ∀ a ∈ answered, a.2.config.FourDecimals := by
  have hround (view : RiskConfigView) :
      (⟨view.config.rounded, view.version⟩ : RiskConfigView) = view ↔ view.config.FourDecimals := by
    rw [← RiskConfig.rounded_eq_iff]
    exact ⟨fun h => congrArg RiskConfigView.config h, fun h => by rw [h]⟩
  induction answered generalizing stored with
  | nil => simp [changesFrom]
  | cons a answered ih =>
    obtain ⟨body, view⟩ := a
    have ih := @ih ⟨view.config.rounded, view.version⟩
    cases answered with
    | nil => simp [changesFrom, storedAfter, hround]
    | cons b answered =>
      simp only [changesFrom, storedAfter, List.isChain_cons_cons, List.getLast?_cons_cons,
        List.forall_mem_cons] at ih ⊢
      rw [eq_comm, hround, and_assoc]
      exact and_congr_right fun _ => ih

/-- The history that the requests leave when each runs alone. -/
lemma history_of_alone (hone : db.OneRiskConfig accountId)
    (hrun : (putRiskConfigs accountId).alone.Run (fun _ _ => True) db answered db') :
    (db.riskConfigView accountId = none ∧ answered = [] ∧ db' = db) ∨
      ∃ stored, db.riskConfigView accountId = some stored ∧
        ReplaceInTurn stored.version answered ∧ (∀ a ∈ answered, a.2.config = a.1.config) ∧
        db'.riskConfigView accountId = some (storedAfter stored answered) ∧
        db'.riskEvents = db.riskEvents ++ (changesFrom stored answered).map (·.event accountId) := by
  induction hrun with
  | nil db =>
    cases hview : db.riskConfigView accountId with
    | none => exact .inl ⟨rfl, rfl, rfl⟩
    | some stored =>
      exact .inr ⟨stored, rfl, trivial, List.forall_mem_nil _, rfl, (List.append_nil _).symm⟩
  | @cons db t db' a answered _ hstep hrun ih =>
    obtain ⟨body, view⟩ := a
    have hcommit := commits_of_atomically (Workload.alone_step.mp hstep)
    have hview := riskConfigView_of_commits hcommit
    have ih := ih (oneRiskConfig_of_commits hone hcommit)
    obtain ⟨old, hold, rfl, -, ht⟩ := of_commits_change hcommit
    rcases ih with ⟨hnone, -⟩ | ⟨stored, hstored, hturn, hconfig, hlast, hevents⟩
    · cases hview.symm.trans hnone
    · obtain rfl := Option.some.inj (hview.symm.trans hstored)
      refine .inr ⟨_, hold, ⟨rfl, rfl, hturn⟩, ?_, hlast, ?_⟩
      · exact List.forall_mem_cons.mpr ⟨rfl, hconfig⟩
      · rw [hevents, ht]
        simp only [changesFrom, List.map_cons, List.append_assoc, List.singleton_append]

lemma configsLogged_iff_of_alone (hone : db.OneRiskConfig accountId)
    (hrun : (putRiskConfigs accountId).alone.Run (fun _ _ => True) db answered db') :
    ConfigsLogged accountId db db' answered ↔ ∀ a ∈ answered, a.1.config.FourDecimals := by
  rcases history_of_alone hone hrun with
    ⟨hnone, rfl, rfl⟩ | ⟨stored, hstored, hturn, hconfig, hlast, hevents⟩
  · have hlogged : ConfigsLogged accountId db' db' [] :=
      ⟨fun _ _ => trivial, [], (List.append_nil _).symm, rfl, rfl, .nil, fun _ h => by cases h⟩
    exact ⟨fun _ _ h => (by cases h), fun _ => hlogged⟩
  · have hlinked := linked_changesFrom_iff stored answered
    have hfour : (∀ a ∈ answered, a.1.config.FourDecimals) ↔
        ∀ a ∈ answered, a.2.config.FourDecimals :=
      forall₂_congr fun a ha => by rw [hconfig a ha]
    rw [hfour, ← hlinked]
    constructor
    · rintro ⟨-, changes, hchanges, -, -, hchain, hstoredLast⟩
      have hsame : changes = changesFrom stored answered := by
        rw [hevents] at hchanges
        exact (List.map_injective_iff.mpr (ConfigChange.event_injective accountId)
          (List.append_cancel_left hchanges)).symm
      subst hsame
      refine ⟨hchain, fun c hc => ?_⟩
      exact Option.some.inj (hlast.symm.trans (hstoredLast c hc))
    · rintro ⟨hchain, hfinal⟩
      refine ⟨fun now hnow => ?_, changesFrom stored answered, hevents, changesFrom_old hturn,
        changesFrom_new stored answered, hchain, fun c hc => ?_⟩
      · obtain rfl := Option.some.inj (hstored.symm.trans hnow)
        exact hturn
      · rw [hlast, hfinal c hc]

variable {s s' : ConfigRequests} {as : List (SessionAction RiskConfigView)}

lemma alone_of_run (hquiet : Workload.Quiet s) (hone : s.store.OneRiskConfig accountId)
    {ok : ConfigRequests → SessionAction RiskConfigView → Prop}
    (hrun : (putRiskConfigs accountId).machine.Run ok s as s') :
    (putRiskConfigs accountId).alone.Run (fun _ _ => True) s.store
      ((putRiskConfigs accountId).outcomes s as) s'.store :=
  ((putRiskConfigs accountId).inOrder_of_quiet _ _ hquiet hone).run_alone
    (optimistic_putRiskConfigs accountId) hrun

/-- However requests interleave, those that succeed replace one version after another and leave one
event each. -/
theorem config_versions_in_turn (hquiet : Workload.Quiet s)
    (hone : s.store.OneRiskConfig accountId)
    (hrun : (putRiskConfigs accountId).machine.Run (fun _ _ => True) s as s') :
    (∀ stored ∈ s.store.riskConfigView accountId,
      ReplaceInTurn stored.version ((putRiskConfigs accountId).outcomes s as)) ∧
    s'.store.riskEvents.length =
      s.store.riskEvents.length + ((putRiskConfigs accountId).outcomes s as).length := by
  rcases history_of_alone hone (alone_of_run hquiet hone hrun) with
    ⟨hnone, hempty, hsame⟩ | ⟨stored, hstored, hturn, -, -, hevents⟩
  · rw [hempty, hsame]
    exact ⟨fun _ _ => trivial, rfl⟩
  · refine ⟨fun now hnow => ?_, ?_⟩
    · obtain rfl := Option.some.inj (hstored.symm.trans hnow)
      exact hturn
    · have hlength := congrArg List.length
        (changesFrom_new stored ((putRiskConfigs accountId).outcomes s as))
      simp only [List.length_map] at hlength
      rw [hevents, List.length_append, List.length_map, hlength]

/-- Their events tell what is stored exactly when none of them carries a fifth decimal. -/
theorem config_changes_logged_iff (hquiet : Workload.Quiet s)
    (hone : s.store.OneRiskConfig accountId)
    (hrun : (putRiskConfigs accountId).machine.Run (fun _ _ => True) s as s') :
    ConfigsLogged accountId s.store s'.store ((putRiskConfigs accountId).outcomes s as) ↔
      ∀ a ∈ (putRiskConfigs accountId).outcomes s as, a.1.config.FourDecimals :=
  configsLogged_iff_of_alone hone (alone_of_run hquiet hone hrun)

/-! ### Requests for the first version -/

/-- An account with its first configuration. -/
def firstConfig : Db := { Db.empty with riskConfigs := [⟨⟨1⟩, ⟨2, 5, 5, 10⟩, 1⟩] }

def firstConfigQuiet : ConfigRequests :=
  { store := firstConfig, sessions := fun _ => none, locked := [] }

/-- The first version with another daily loss. -/
def changeLoss (pct : Decimal) : RiskConfigView := ⟨⟨pct, 5, 5, 10⟩, 1⟩

/-- Both requests read the first version, and one of them loses the race. -/
def racingChanges : List (SessionAction RiskConfigView) :=
  [.start 0 (changeLoss 3), .start 1 (changeLoss 4), .query 0, .query 1, .query 1, .query 1,
    .commit 1, .query 0, .rollback 0]

theorem config_changes_logged_racing :
    ∃ s', (putRiskConfigs ⟨1⟩).machine.Run (fun _ _ => True) firstConfigQuiet racingChanges s' ∧
      (putRiskConfigs ⟨1⟩).outcomes firstConfigQuiet racingChanges =
        [(changeLoss 4, { changeLoss 4 with version := 2 })] ∧
      ConfigsLogged ⟨1⟩ firstConfig s'.store
        ((putRiskConfigs ⟨1⟩).outcomes firstConfigQuiet racingChanges) := by
  obtain ⟨s', hrun, -⟩ := Machine.exists_run_of_exec (M := (putRiskConfigs ⟨1⟩).machine)
    (p := fun _ => true)
    (show (Machine.exec _ (fun _ _ => True) firstConfigQuiet racingChanges).any _ = true by
      decide +kernel)
  have houtcomes : (putRiskConfigs ⟨1⟩).outcomes firstConfigQuiet racingChanges =
      [(changeLoss 4, { changeLoss 4 with version := 2 })] := by decide +kernel
  refine ⟨s', hrun, houtcomes, ?_⟩
  have hone : firstConfig.OneRiskConfig ⟨1⟩ := by decide
  refine (config_changes_logged_iff ⟨fun _ => rfl, rfl⟩ hone hrun).mpr ?_
  rw [houtcomes]
  decide +kernel

/-- A percentage with five decimals. -/
def fineChange : List (SessionAction RiskConfigView) :=
  [.start 0 (changeLoss (3 + 1 / 20000)), .query 0, .query 0, .query 0, .commit 0]

theorem config_changes_drift :
    ¬ ∀ (accountId : Uuid) (s s' : ConfigRequests) (as : List (SessionAction RiskConfigView)),
      Workload.Quiet s → s.store.OneRiskConfig accountId →
      (putRiskConfigs accountId).machine.Run (fun _ _ => True) s as s' →
      ConfigsLogged accountId s.store s'.store ((putRiskConfigs accountId).outcomes s as) := by
  intro h
  obtain ⟨s', hrun, -⟩ := Machine.exists_run_of_exec (M := (putRiskConfigs ⟨1⟩).machine)
    (p := fun _ => true)
    (show (Machine.exec _ (fun _ _ => True) firstConfigQuiet fineChange).any _ = true by
      decide +kernel)
  have hquiet : Workload.Quiet firstConfigQuiet := ⟨fun _ => rfl, rfl⟩
  have hone : firstConfig.OneRiskConfig ⟨1⟩ := by decide
  have hfour := (configsLogged_iff_of_alone hone (alone_of_run hquiet hone hrun)).mp
    (h ⟨1⟩ firstConfigQuiet s' fineChange hquiet hone hrun)
  exact absurd hfour (by decide +kernel)

end Confluence
