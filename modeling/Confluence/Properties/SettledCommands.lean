import Confluence.Properties.MarketPrice
import Confluence.Server.Steps

/-!
# Settled commands

A worker whose lease has expired still writes the outcome of its dispatch, whoever holds the command
by then. When every outcome is written by the holder of the latest claim, a settled command keeps its
status and is not claimed again.
-/

namespace Confluence

/-- The claims that are not written back yet: the command and the expiry of the lease. -/
def Server.holders (s : Server) : List (ℕ × Timestamp) :=
  (s.tasks.filter fun t => t.stage.holds).map fun t => (t.cmd.id, t.lease)

/-- An outcome is written by the holder of the command's latest claim only. -/
def MarksOwnClaim (s : Server) : Action → Prop
  | .advance i supervisor => ∀ t ∈ s.tasks[i]?, marks supervisor t.cmd t.stage = true →
      ∀ r ∈ s.db.exchangeCommands, r.id = t.cmd.id → r.leasedUntil = some t.lease
  | _ => True

instance (s : Server) (a : Action) : Decidable (MarksOwnClaim s a) :=
  match a with
  | .advance i supervisor =>
    inferInstanceAs (Decidable (∀ t ∈ s.tasks[i]?, marks supervisor t.cmd t.stage = true →
      ∀ r ∈ s.db.exchangeCommands, r.id = t.cmd.id → r.leasedUntil = some t.lease))
  | .tick _ | .request _ _ _ | .enqueueCancel _ _ _ _ | .claim _ _ | .crash _ => isTrue trivial

/-- A holder's lease has expired, or it is the row's lease, and then the row is leased; no lease has
two holders. -/
structure Leases (s : Server) : Prop where
  ids : (s.db.exchangeCommands.map (·.id)).Nodup
  holders : s.holders.Nodup
  known : ∀ h ∈ s.holders, h.1 ∈ s.db.exchangeCommands.map (·.id)
  current : ∀ h ∈ s.holders, ∀ r ∈ s.db.exchangeCommands, r.id = h.1 → r.leasedUntil = some h.2 →
    r.status = .leased
  expired : ∀ h ∈ s.holders, ∀ r ∈ s.db.exchangeCommands, r.id = h.1 →
    h.2 < s.db.now ∨ r.leasedUntil = some h.2

section

variable {s s' : Server} {db db' : Db} {tasks tasks' : List Task}

/-! ### Holders -/

lemma holders_append (db : Db) (tasks tasks' : List Task) :
    Server.holders ⟨db, tasks ++ tasks'⟩ =
      Server.holders ⟨db, tasks⟩ ++ Server.holders ⟨db, tasks'⟩ := by
  simp [Server.holders]

lemma holders_eraseIdx (tasks : List Task) (i : ℕ) (db : Db) :
    (Server.holders ⟨db, tasks.eraseIdx i⟩).Sublist (Server.holders ⟨db, tasks⟩) :=
  ((List.eraseIdx_sublist ..).filter _).map _

/-- A step of a worker takes no hold. -/
lemma holders_updateTask {tasks : List Task} {i : ℕ} {t : Task} (ht : tasks[i]? = some t)
    {next : Option Stage}
    (hnext : ∀ stage, next = some stage → stage.holds = true → t.stage.holds = true) (db : Db) :
    (Server.holders ⟨db, updateTask tasks i t next⟩).Sublist (Server.holders ⟨db, tasks⟩) := by
  obtain ⟨front, back, rfl, hupdate⟩ := updateTask_eq ht
  rw [hupdate, List.append_assoc, holders_append, holders_append db front (t :: back)]
  refine List.Sublist.append (List.Sublist.refl _) ?_
  cases next with
  | none => exact ((List.sublist_cons_self ..).filter _).map _
  | some stage =>
    by_cases hstage : stage.holds = true
    · simp [Server.holders, hstage, hnext stage rfl hstage]
    · have hsub := ((List.sublist_cons_self t back).filter fun t => t.stage.holds).map
        fun t => (t.cmd.id, t.lease)
      simpa [Server.holders, hstage] using hsub

/-- A task that gives up its hold leaves the other holders. -/
lemma holders_of_release {tasks : List Task} {i : ℕ} {t : Task} (ht : tasks[i]? = some t)
    (hholds : t.stage.holds = true) {next : Option Stage}
    (hnext : ∀ stage, next = some stage → stage.holds = false) (db : Db) :
    (Server.holders ⟨db, tasks⟩).Perm
      ((t.cmd.id, t.lease) :: Server.holders ⟨db, updateTask tasks i t next⟩) := by
  obtain ⟨front, back, rfl, hupdate⟩ := updateTask_eq ht
  have hgone : Server.holders ⟨db, (next.map fun stage => { t with stage }).toList⟩ = [] := by
    cases next with
    | none => rfl
    | some stage => simp [Server.holders, hnext stage rfl]
  have hhead : Server.holders ⟨db, t :: back⟩ =
      (t.cmd.id, t.lease) :: Server.holders ⟨db, back⟩ := by
    simp [Server.holders, hholds]
  rw [hupdate, holders_append, holders_append, holders_append, hgone, hhead, List.append_nil]
  exact List.perm_middle

/-! ### Commands -/

/-- Nobody holds a command that can be claimed, but for expired leases. -/
lemma Leases.expired_of_claimable (h : Leases s) {holder : ℕ × Timestamp}
    (hholder : holder ∈ s.holders) {r : CommandRecord} (hr : r ∈ s.db.exchangeCommands)
    (hid : r.id = holder.1) (hclaim : r.claimable s.db.now = true) : holder.2 < s.db.now := by
  rcases h.expired holder hholder r hr hid with hlt | hlease
  · exact hlt
  · have hleased := h.current holder hholder r hr hid hlease
    simp [CommandRecord.claimable, hleased, hlease] at hclaim
    exact hclaim

/-- The invariant only reads the clock, the commands and the holders. -/
lemma Leases.of_sublist (h : Leases ⟨db, tasks⟩)
    (hsub : (Server.holders ⟨db, tasks'⟩).Sublist (Server.holders ⟨db, tasks⟩))
    (hdb : Enqueues db db') : Leases ⟨db', tasks'⟩ := by
  have hmem (holder : ℕ × Timestamp) (hholder : holder ∈ Server.holders ⟨db', tasks'⟩) :
      holder ∈ Server.holders ⟨db, tasks⟩ := hsub.subset hholder
  obtain ⟨hnow, hcommands | ⟨accountId, commandType, mode, key, payload, -, -, hcommands⟩⟩ := hdb
  · constructor
    · simpa only [hcommands] using h.ids
    · exact h.holders.sublist hsub
    · intro holder hholder
      simpa only [hcommands] using h.known holder (hmem holder hholder)
    · intro holder hholder r hr
      exact h.current holder (hmem holder hholder) r (hcommands ▸ hr)
    · intro holder hholder r hr
      simpa only [hnow] using h.expired holder (hmem holder hholder) r (hcommands ▸ hr)
  · -- a new row has an identifier that nobody holds
    have hfresh (holder : ℕ × Timestamp) (hholder : holder ∈ Server.holders ⟨db', tasks'⟩)
        {r : CommandRecord} (hr : r ∈ db'.exchangeCommands) (hid : r.id = holder.1) :
        r ∈ db.exchangeCommands := by
      rw [hcommands] at hr
      rcases List.mem_append.mp hr with hr | hr
      · exact hr
      · have hlt := lt_freshId (h.known holder (hmem holder hholder))
        rw [List.mem_singleton.mp hr] at hid
        exact (hlt.ne' hid).elim
    constructor
    · simp only [hcommands, List.map_append, List.map_cons, List.map_nil]
      refine List.nodup_append.mpr ⟨h.ids, by simp, ?_⟩
      intro i hi j hj
      have hlt := lt_freshId hi
      rw [List.mem_singleton.mp hj]
      exact hlt.ne
    · exact h.holders.sublist hsub
    · intro holder hholder
      simp only [hcommands, List.map_append]
      exact List.mem_append_left _ (h.known holder (hmem holder hholder))
    · intro holder hholder r hr hid
      exact h.current holder (hmem holder hholder) r (hfresh holder hholder hr hid) hid
    · intro holder hholder r hr hid
      simpa only [hnow] using
        h.expired holder (hmem holder hholder) r (hfresh holder hholder hr hid) hid

lemma Leases.tick (h : Leases s) (seconds : ℕ) :
    Leases { s with db := { s.db with now := s.db.now + seconds } } := by
  refine ⟨h.ids, h.holders, h.known, h.current, ?_⟩
  intro holder hholder r hr hid
  rcases h.expired holder hholder r hr hid with hlt | hlease
  · exact .inl (Nat.lt_add_right seconds hlt)
  · exact .inr hlease

lemma holders_newTasks (now : Timestamp) (claimed : List ClaimedCommand) (db : Db) :
    Server.holders ⟨db, newTasks now claimed⟩ =
      claimed.map fun cmd => (cmd.id, now + leaseSeconds) := by
  have hall : (newTasks now claimed).filter (fun t => t.stage.holds) = newTasks now claimed := by
    rw [List.filter_eq_self]
    intro t ht
    obtain ⟨cmd, -, rfl⟩ := List.mem_map.mp ht
    rfl
  rw [Server.holders, hall, newTasks, List.map_map]
  rfl

lemma Leases.claim (h : Leases s) (limit : ℕ) (locked : List ℕ) :
    Leases
      { db := s.db.leased (s.db.claimCandidates limit locked)
        tasks := s.tasks ++ newTasks s.db.now (s.db.claimedCommands limit locked) } := by
  set ids := s.db.claimCandidates limit locked with hids
  set claimed := s.db.claimedCommands limit locked with hclaimed
  have hholders : Server.holders ⟨s.db.leased ids, s.tasks ++ newTasks s.db.now claimed⟩ =
      s.holders ++ claimed.map fun cmd => (cmd.id, s.db.now + leaseSeconds) := by
    rw [holders_append, holders_newTasks]
    rfl
  -- an old holder of a claimed row has an expired lease
  have hold (holder : ℕ × Timestamp) (hholder : holder ∈ s.holders) (hin : holder.1 ∈ ids) :
      holder.2 < s.db.now := by
    obtain ⟨r, hr, hclaim, hid⟩ := mem_claimCandidates hin
    exact h.expired_of_claimable hholder hr hid hclaim
  have hnew (holder : ℕ × Timestamp)
      (hholder : holder ∈ claimed.map fun cmd => (cmd.id, s.db.now + leaseSeconds)) :
      holder.1 ∈ ids ∧ holder.1 ∈ s.db.exchangeCommands.map (·.id) ∧
        holder.2 = s.db.now + leaseSeconds := by
    obtain ⟨cmd, hcmd, rfl⟩ := List.mem_map.mp hholder
    obtain ⟨r, hr, hin, rfl⟩ := mem_claimedCommands hcmd
    exact ⟨hin, List.mem_map_of_mem hr, rfl⟩
  have hsame : ((s.db.leased ids).exchangeCommands.map (·.id)) =
      s.db.exchangeCommands.map (·.id) := by
    rw [Db.leased, map_updateWhere]
    exact fun _ => rfl
  constructor
  · rw [hsame]
    exact h.ids
  · rw [hholders, List.nodup_append]
    refine ⟨h.holders, ?_, ?_⟩
    · have hnodup : (claimed.map (·.id)).Nodup := by
        have hsub : (s.db.exchangeCommands.filter fun r => ids.contains r.id).Sublist
            s.db.exchangeCommands := List.filter_sublist
        have hids := h.ids.sublist (hsub.map _)
        rw [hclaimed, Db.claimedCommands, List.map_map]
        exact hids
      refine List.Nodup.of_map Prod.fst ?_
      rw [List.map_map]
      exact hnodup
    · rintro holder hholder _ hholder' rfl
      obtain ⟨hin, -, hlease⟩ := hnew holder hholder'
      have hlt := hold holder hholder hin
      rw [hlease] at hlt
      exact Nat.not_lt.mpr (Nat.le_add_right _ _) hlt
  · rw [hholders, hsame]
    intro holder hholder
    rcases List.mem_append.mp hholder with hholder | hholder
    · exact h.known holder hholder
    · exact (hnew holder hholder).2.1
  · rw [hholders]
    intro holder hholder r' hr' hid hlease
    obtain ⟨r, hr, rfl⟩ := mem_updateWhere.mp hr'
    by_cases hin : ids.contains r.id = true
    · rw [if_pos hin]
    · rw [if_neg hin] at hid hlease ⊢
      rcases List.mem_append.mp hholder with hholder | hholder
      · exact h.current holder hholder r hr hid hlease
      · rw [List.contains_iff_mem, hid] at hin
        exact (hin (hnew holder hholder).1).elim
  · rw [hholders]
    intro holder hholder r' hr' hid
    obtain ⟨r, hr, rfl⟩ := mem_updateWhere.mp hr'
    by_cases hin : ids.contains r.id = true
    · rw [if_pos hin] at hid ⊢
      rcases List.mem_append.mp hholder with hholder | hholder
      · rw [List.contains_iff_mem] at hin
        exact .inl (hold holder hholder (hid ▸ hin))
      · rw [(hnew holder hholder).2.2]
        exact .inr rfl
    · rw [if_neg hin] at hid ⊢
      rcases List.mem_append.mp hholder with hholder | hholder
      · exact h.expired holder hholder r hr hid
      · rw [List.contains_iff_mem, hid] at hin
        exact (hin (hnew holder hholder).1).elim

/-- The holder of the latest claim settles the command or lets it go. -/
lemma Leases.mark (h : Leases ⟨db, tasks⟩) {id : ℕ} {lease : Timestamp}
    (hperm : (Server.holders ⟨db, tasks⟩).Perm ((id, lease) :: Server.holders ⟨db, tasks'⟩))
    (hlatest : ∀ r ∈ db.exchangeCommands, r.id = id → r.leasedUntil = some lease)
    (f : CommandRecord → CommandRecord) (hf : ∀ r, (f r).id = r.id)
    (hlease : ∀ r, (f r).leasedUntil = none ∨ (f r).leasedUntil = r.leasedUntil) :
    Leases ⟨{ db with
      exchangeCommands := updateWhere (fun r => decide (r.id = id)) f db.exchangeCommands },
        tasks'⟩ := by
  have hnodup := hperm.nodup_iff.mp h.holders
  rw [List.nodup_cons] at hnodup
  have hmem (holder : ℕ × Timestamp) (hholder : holder ∈ Server.holders ⟨db, tasks'⟩) :
      holder ∈ Server.holders ⟨db, tasks⟩ :=
    hperm.mem_iff.mpr (List.mem_cons_of_mem _ hholder)
  -- the row's lease is that of the marking task, which nobody else has
  have hother (holder : ℕ × Timestamp) (hholder : holder ∈ Server.holders ⟨db, tasks'⟩)
      {r : CommandRecord} (hr : r ∈ db.exchangeCommands) (hid : r.id = holder.1)
      (hrow : r.id = id) : r.leasedUntil ≠ some holder.2 := by
    intro hsome
    rw [hlatest r hr hrow] at hsome
    have heq : holder = (id, lease) := Prod.ext (hid.symm.trans hrow) (Option.some.inj hsome).symm
    exact hnodup.1 (heq ▸ hholder)
  have hsame : (updateWhere (fun r => decide (r.id = id)) f db.exchangeCommands).map (·.id) =
      db.exchangeCommands.map (·.id) := map_updateWhere hf
  constructor
  · rw [hsame]
    exact h.ids
  · exact hnodup.2
  · rw [hsame]
    exact fun holder hholder => h.known holder (hmem holder hholder)
  · intro holder hholder r' hr' hid hsome
    obtain ⟨r, hr, rfl⟩ := mem_updateWhere.mp hr'
    by_cases hrow : r.id = id
    · rw [if_pos (by simpa using hrow)] at hid hsome
      rw [hf] at hid
      rcases hlease r with hnone | hkept
      · rw [hnone] at hsome
        cases hsome
      · rw [hkept] at hsome
        exact (hother holder hholder hr hid hrow hsome).elim
    · rw [if_neg (by simpa using hrow)] at hid hsome ⊢
      exact h.current holder (hmem holder hholder) r hr hid hsome
  · intro holder hholder r' hr' hid
    obtain ⟨r, hr, rfl⟩ := mem_updateWhere.mp hr'
    by_cases hrow : r.id = id
    · rw [if_pos (by simpa using hrow), hf] at hid
      rcases h.expired holder (hmem holder hholder) r hr hid with hlt | hsome
      · exact .inl hlt
      · exact (hother holder hholder hr hid hrow hsome).elim
    · rw [if_neg (by simpa using hrow)] at hid ⊢
      exact h.expired holder (hmem holder hholder) r hr hid

end

/-! ### Runs -/

lemma holds_of_marks {supervisor : Supervisor} {cmd : ClaimedCommand} {stage : Stage}
    (h : marks supervisor cmd stage = true) : stage.holds = true := by
  cases stage with
  | claimed => rfl
  | dispatched outcome => rfl
  | _ => cases h

/-- A worker that has written its outcome does not come back. -/
lemma WorkerStep.holds_of_next {supervisor : Supervisor} {cmd : ClaimedCommand} {db db' : Db}
    {stage : Stage} {next : Option Stage} (h : WorkerStep supervisor cmd db stage next db')
    (hnext : next.isSome) : stage.holds = true := by
  cases h with
  | rejected => cases hnext
  | audited => cases hnext
  | _ => rfl

section

variable {init : Server → Prop} {s s' : Server} {a : Action}

/-- No action that keeps to the guard breaks the invariant. -/
lemma Leases.step (h : Leases s) (hok : MarksOwnClaim s a) (hstep : s.step a = some s') :
    Leases s' := by
  cases serverStep_of_step hstep with
  | tick seconds => exact h.tick seconds
  | request hrequest => exact h.of_sublist (List.Sublist.refl _) hrequest.enqueues
  | enqueueCancel accountId orderId mode tag =>
    have hknown (name : String) : CommandType.cancelOrder ≠ .unknown name := by simp
    exact h.of_sublist (List.Sublist.refl _) (enqueues_withCommand s.db accountId hknown ..)
  | claim limit locked => exact h.claim limit locked
  | crash hi => exact h.of_sublist (holders_eraseIdx s.tasks _ s.db) (.refl s.db)
  | @advance i supervisor task next db' htask hworker =>
    cases hmarks : marks supervisor task.cmd task.stage with
    | false =>
      refine h.of_sublist (holders_updateTask htask ?_ s.db) (hworker.enqueues hmarks)
      rintro stage rfl -
      exact hworker.holds_of_next rfl
    | true =>
      obtain ⟨hdb, hnext⟩ := hworker.of_marks hmarks
      have hperm := holders_of_release htask (holds_of_marks hmarks) hnext s.db
      have hlatest := hok task htask hmarks
      rcases hdb with ⟨status, -, rfl⟩ | rfl
      · exact h.mark hperm hlatest (fun r => { r with status }) (fun _ => rfl) fun _ => .inr rfl
      · exact h.mark hperm hlatest
          (fun r => { r with status := .pending, leasedUntil := none, attempts := r.attempts + 1 })
          (fun _ => rfl) fun _ => .inl rfl

/-- The command with the identifier is there, with the status. -/
def Db.HasStatus (db : Db) (id : ℕ) (status : CommandStatus) : Prop :=
  ∃ r ∈ db.exchangeCommands, r.id = id ∧ r.status = status

lemma Leases.eq_of_id (h : Leases s) {r r' : CommandRecord} (hr : r ∈ s.db.exchangeCommands)
    (hr' : r' ∈ s.db.exchangeCommands) (hid : r.id = r'.id) : r = r' :=
  List.inj_on_of_nodup_map h.ids hr hr' hid

/-- A settled command cannot be claimed. -/
lemma Leases.not_mem_claimCandidates (h : Leases s) {r : CommandRecord}
    (hr : r ∈ s.db.exchangeCommands) (hsettled : r.status.isSettled = true) (limit : ℕ)
    (locked : List ℕ) : r.id ∉ s.db.claimCandidates limit locked := by
  intro hin
  obtain ⟨r', hr', hclaim, hid⟩ := mem_claimCandidates hin
  obtain rfl := h.eq_of_id hr' hr hid
  cases hstatus : r'.status <;> simp [CommandRecord.claimable, CommandStatus.isSettled, hstatus] at hclaim hsettled

lemma Enqueues.hasStatus {db db' : Db} (h : Enqueues db db') {id : ℕ} {status : CommandStatus}
    (hstatus : db.HasStatus id status) : db'.HasStatus id status := by
  obtain ⟨r, hr, hid, hr'⟩ := hstatus
  rcases h.commands with hcommands | ⟨_, _, _, _, _, -, -, hcommands⟩
  · exact ⟨r, hcommands ▸ hr, hid, hr'⟩
  · exact ⟨r, hcommands ▸ List.mem_append_left _ hr, hid, hr'⟩

lemma hasStatus_updateWhere {db : Db} {id : ℕ} {status : CommandStatus} {p : CommandRecord → Bool}
    {f : CommandRecord → CommandRecord} (h : db.HasStatus id status)
    (hp : ∀ r ∈ db.exchangeCommands, r.id = id → p r = false) :
    Db.HasStatus { db with exchangeCommands := updateWhere p f db.exchangeCommands } id status := by
  obtain ⟨r, hr, hid, hstatus⟩ := h
  refine ⟨r, mem_updateWhere.mpr ⟨r, hr, ?_⟩, hid, hstatus⟩
  rw [hp r hr hid]
  rfl

/-- An action that keeps to the guard leaves settled commands alone. -/
lemma hasStatus_step (h : Leases s) (hok : MarksOwnClaim s a) {id : ℕ} {status : CommandStatus}
    (hsettled : status.isSettled = true) (hstatus : s.db.HasStatus id status)
    (hstep : s.step a = some s') : s'.db.HasStatus id status := by
  -- the row of a settled command is the only one with its identifier
  have hrow (r : CommandRecord) (hr : r ∈ s.db.exchangeCommands) (hid : r.id = id) :
      r.status = status := by
    obtain ⟨r', hr', hid', hstatus'⟩ := hstatus
    rw [h.eq_of_id hr hr' (hid.trans hid'.symm), hstatus']
  cases serverStep_of_step hstep with
  | tick seconds => exact hstatus
  | request hrequest => exact hrequest.enqueues.hasStatus hstatus
  | enqueueCancel accountId orderId mode tag =>
    have hknown (name : String) : CommandType.cancelOrder ≠ .unknown name := by simp
    exact (enqueues_withCommand s.db accountId hknown ..).hasStatus hstatus
  | claim limit locked =>
    refine hasStatus_updateWhere hstatus fun r hr hid => ?_
    have hnot := h.not_mem_claimCandidates hr (by rw [hrow r hr hid, hsettled]) limit locked
    simpa using hnot
  | crash hi => exact hstatus
  | @advance i supervisor task next db' htask hworker =>
    cases hmarks : marks supervisor task.cmd task.stage with
    | false => exact (hworker.enqueues hmarks).hasStatus hstatus
    | true =>
      obtain ⟨hdb, hnext⟩ := hworker.of_marks hmarks
      have hholder : (task.cmd.id, task.lease) ∈ s.holders := by
        have hperm := holders_of_release htask (holds_of_marks hmarks) hnext s.db
        exact hperm.mem_iff.mpr (List.mem_cons_self ..)
      -- the marked command is leased, and so is not the settled one
      have hother (r : CommandRecord) (hr : r ∈ s.db.exchangeCommands) (hid : r.id = id) :
          decide (r.id = task.cmd.id) = false := by
        rw [decide_eq_false_iff_not]
        intro hmarked
        have hleased := h.current _ hholder r hr hmarked (hok task htask hmarks r hr hmarked)
        rw [hrow r hr hid] at hleased
        rw [hleased] at hsettled
        cases hsettled
      rcases hdb with ⟨status, -, rfl⟩ | rfl
      · exact hasStatus_updateWhere hstatus hother
      · exact hasStatus_updateWhere hstatus hother

/-- At the start nobody holds a command. -/
def Unclaimed (s : Server) : Prop :=
  (s.db.exchangeCommands.map (·.id)).Nodup ∧ s.tasks = []

lemma leases_of_reachable (h : (server Unclaimed).Reachable MarksOwnClaim s) : Leases s := by
  refine h.invariant ?_ ?_
  · rintro ⟨db, tasks⟩ ⟨hids, htasks⟩
    have hholders : Server.holders ⟨db, tasks⟩ = [] := by
      simp only at htasks
      rw [Server.holders, htasks]
      rfl
    exact ⟨hids, by simp [hholders], by simp [hholders], by simp [hholders], by simp [hholders]⟩
  · intro s a s' hleases hok hstep
    exact hleases.step hok hstep

/-- In the runs in which every outcome is written by the holder of the latest claim, a settled
command keeps its status and is not claimed again. -/
theorem settled_command_kept {as : List Action}
    (hreach : (server Unclaimed).Reachable MarksOwnClaim s) {r : CommandRecord}
    (hr : r ∈ s.db.exchangeCommands) (hsettled : r.status.isSettled = true)
    (hrun : (server Unclaimed).Run MarksOwnClaim s as s') :
    (∃ r' ∈ s'.db.exchangeCommands, r'.id = r.id) ∧
    (∀ r' ∈ s'.db.exchangeCommands, r'.id = r.id → r'.status = r.status) ∧
    ∀ limit locked claimed db',
      postgres.atomically (claimPendingCommands limit leaseSeconds locked) s'.db =
        (.ok claimed, db') → ∀ cmd ∈ claimed, cmd.id ≠ r.id := by
  have hkeep (s : Server) (a : Action) (s' : Server)
      (h : Leases s ∧ s.db.HasStatus r.id r.status) (hok : MarksOwnClaim s a)
      (hstep : (server Unclaimed).step s a = some s') :
      Leases s' ∧ s'.db.HasStatus r.id r.status :=
    ⟨h.1.step hok hstep, hasStatus_step h.1 hok hsettled h.2 hstep⟩
  obtain ⟨hleases, r', hr', hid', hstatus'⟩ :=
    hrun.preserves hkeep ⟨leases_of_reachable hreach, r, hr, rfl, rfl⟩
  refine ⟨⟨r', hr', hid'⟩, ?_, ?_⟩
  · intro r'' hr'' hid''
    rw [hleases.eq_of_id hr'' hr' (hid''.trans hid'.symm), hstatus']
  · intro limit locked claimed db' hclaim cmd hcmd hid
    rw [atomically_claim] at hclaim
    obtain ⟨hclaimed, -⟩ := Prod.mk.inj hclaim
    rw [← Except.ok.inj hclaimed] at hcmd
    obtain ⟨r'', hr'', hin, rfl⟩ := mem_claimedCommands hcmd
    obtain rfl := hleases.eq_of_id hr'' hr' (hid.trans hid'.symm)
    exact hleases.not_mem_claimCandidates hr' (by rw [hstatus', hsettled]) limit locked hin

end

/-! ### A submitted market order of one unit -/

def submittedOrder : OrderRecord :=
  { newOrder ⟨2⟩ ⟨1⟩ (Uuid.simple ⟨2⟩) "BTCUSDT" .buy .market 1 none .paper with
    status := .submitted }

/-- The order and the pending command to reconcile it. -/
def submittedOne : Server :=
  { db := { equity1000 with
      orders := [submittedOrder]
      exchangeCommands := [{
        id := 1, accountId := ⟨1⟩, commandType := .reconcileOrder, exchangeMode := .paper
        status := .pending, idempotencyKey := toString (⟨2⟩ : Uuid) ++ ":reconcile:initial"
        payload := orderPayload ⟨2⟩, attempts := 0, leasedUntil := none, createdAt := 0 }] }
    tasks := [] }

/-- The command has the status. -/
def reaches (status : CommandStatus) (s : Server) : Bool :=
  s.db.exchangeCommands.any fun r => decide (r.id = 1) && decide (r.status = status)

lemma hasStatus_of_reaches {status : CommandStatus} {s : Server} (h : reaches status s = true) :
    ∃ r ∈ s.db.exchangeCommands, r.id = 1 ∧ r.status = status := by
  obtain ⟨r, hr, hp⟩ := List.any_eq_true.mp h
  rw [Bool.and_eq_true, decide_eq_true_eq, decide_eq_true_eq] at hp
  exact ⟨r, hr, hp⟩

/-- A worker claims the command and delivers it. -/
def deliverOne : List Action :=
  [.claim 1 [], .advance 0 paperAt100, .advance 0 paperAt100, .advance 0 paperAt100,
    .advance 0 paperAt100]

/-- One worker alone delivers the command, which later claims leave alone. -/
theorem settled_command_kept_submittedOne :
    ∃ s s', (server Unclaimed).Run MarksOwnClaim submittedOne deliverOne s ∧
      (server Unclaimed).Run MarksOwnClaim s [.tick 60, .claim 10 []] s' ∧
      ∃ r ∈ s.db.exchangeCommands, r.status = .delivered ∧
        ∀ r' ∈ s'.db.exchangeCommands, r'.id = r.id → r'.status = r.status := by
  have hexec : ((server Unclaimed).exec MarksOwnClaim submittedOne deliverOne).any (fun s =>
      reaches .delivered s &&
        ((server Unclaimed).exec MarksOwnClaim s [.tick 60, .claim 10 []]).isSome) = true := by
    decide +kernel
  obtain ⟨s, hrun, hs⟩ := Machine.exists_run_of_exec hexec
  rw [Bool.and_eq_true] at hs
  obtain ⟨r, hr, -, hdelivered⟩ := hasStatus_of_reaches hs.1
  obtain ⟨s', hlater⟩ := Option.isSome_iff_exists.mp hs.2
  have hrun' := Machine.run_of_exec hlater
  have hreach : (server Unclaimed).Reachable MarksOwnClaim s :=
    ⟨submittedOne, deliverOne, ⟨by decide, rfl⟩, hrun⟩
  have hkept := settled_command_kept hreach hr (by rw [hdelivered]; rfl) hrun'
  exact ⟨s, s', hrun, hrun', r, hr, hdelivered, hkept.2.1⟩

/-- The first worker's lease expires before it persists; the second worker delivers the command, and
then the first requeues it. -/
def overtakenOne : List Action :=
  [.claim 1 [], .advance 0 paperAt100, .advance 0 paperAt100, .tick 31,
    .claim 1 [], .advance 1 paperAt100, .advance 1 paperAt100, .advance 1 paperAt100,
    .advance 1 paperAt100]

theorem settled_command_not_kept :
    ¬ ∀ (s s' : Server) (as : List Action),
      (server Unclaimed).Reachable (fun _ _ => True) s →
        (server Unclaimed).Run (fun _ _ => True) s as s' →
          ∀ r ∈ s.db.exchangeCommands, r.status.isSettled = true →
            ∀ r' ∈ s'.db.exchangeCommands, r'.id = r.id → r'.status = r.status := by
  intro h
  have hexec : ((server Unclaimed).exec (fun _ _ => True) submittedOne overtakenOne).any (fun s =>
      reaches .delivered s &&
        ((server Unclaimed).exec (fun _ _ => True) s
          [.advance 0 paperAt100, .advance 0 paperAt100]).any (reaches .pending)) = true := by
    decide +kernel
  obtain ⟨s, hrun, hs⟩ := Machine.exists_run_of_exec hexec
  rw [Bool.and_eq_true] at hs
  obtain ⟨r, hr, hid, hdelivered⟩ := hasStatus_of_reaches hs.1
  obtain ⟨s', hrun', hs'⟩ := Machine.exists_run_of_exec hs.2
  obtain ⟨r', hr', hid', hpending⟩ := hasStatus_of_reaches hs'
  have hreach : (server Unclaimed).Reachable (fun _ _ => True) s :=
    ⟨submittedOne, overtakenOne, ⟨by decide, rfl⟩, hrun⟩
  have hsame := h s s' _ hreach hrun' r hr (by rw [hdelivered]; rfl) r' hr' (hid'.trans hid.symm)
  rw [hpending, hdelivered] at hsame
  cases hsame

end Confluence
