import Confluence.Properties.SettledCommands

/-!
# Leases exclude

Workers that write their outcomes before their leases expire never share a command: of the claims of
one command at most one is alive, and the row is leased to it. Such workers write the outcomes of the
latest claims only.
-/

namespace Confluence

/-- An outcome is written before the lease of the claim has expired. -/
def Punctual (s : Server) : Action → Prop
  | .advance i supervisor => ∀ t ∈ s.tasks[i]?, marks supervisor t.cmd t.stage = true →
      s.db.now ≤ t.lease
  | _ => True

instance (s : Server) (a : Action) : Decidable (Punctual s a) :=
  match a with
  | .advance i supervisor =>
    inferInstanceAs (Decidable (∀ t ∈ s.tasks[i]?, marks supervisor t.cmd t.stage = true →
      s.db.now ≤ t.lease))
  | .tick _ | .request _ _ _ | .enqueueCancel _ _ _ _ | .claim _ _ | .crash _ => isTrue trivial

/-- The claim has not been written back, and its lease lasts. -/
def Task.Live (t : Task) (now : Timestamp) : Prop := t.stage.holds = true ∧ now ≤ t.lease

instance (t : Task) (now : Timestamp) : Decidable (t.Live now) := inferInstanceAs (Decidable (_ ∧ _))

section

variable {s : Server}

/-- The row of a live claim is leased to it. -/
lemma Leases.leasedUntil (h : Leases s) {i : ℕ} {t : Task} (ht : s.tasks[i]? = some t)
    (hlive : t.Live s.db.now) {r : CommandRecord} (hr : r ∈ s.db.exchangeCommands)
    (hid : r.id = t.cmd.id) : r.leasedUntil = some t.lease ∧ r.status = .leased := by
  have hholder : (t.cmd.id, t.lease) ∈ s.holders :=
    List.mem_map.mpr ⟨t, List.mem_filter.mpr ⟨List.mem_of_getElem? ht, hlive.1⟩, rfl⟩
  rcases h.expired _ hholder r hr hid with hlt | hlease
  · exact absurd hlive.2 (not_le.mpr hlt)
  · exact ⟨hlease, h.current _ hholder r hr hid hlease⟩

/-- No lease has two holders. -/
lemma index_eq_of_holders {tasks : List Task} {db : Db}
    (h : (Server.holders ⟨db, tasks⟩).Nodup) {i j : ℕ} {t t' : Task} (ht : tasks[i]? = some t)
    (ht' : tasks[j]? = some t') (hholds : t.stage.holds = true) (hholds' : t'.stage.holds = true)
    (hid : t.cmd.id = t'.cmd.id) (hlease : t.lease = t'.lease) : i = j := by
  induction tasks generalizing i j with
  | nil => simp at ht
  | cons u us ih =>
    have htail : (Server.holders ⟨db, us⟩).Nodup :=
      h.sublist (((List.sublist_cons_self u us).filter _).map _)
    -- a hold of the first task is not one of the others
    have hhead {k : ℕ} {v : Task} (hu : u.stage.holds = true) (hv : us[k]? = some v)
        (hvholds : v.stage.holds = true) (heq : (u.cmd.id, u.lease) = (v.cmd.id, v.lease)) : False := by
      have hcons : Server.holders ⟨db, u :: us⟩ = (u.cmd.id, u.lease) :: Server.holders ⟨db, us⟩ := by
        simp [Server.holders, hu]
      rw [hcons, List.nodup_cons] at h
      refine h.1 (heq ▸ ?_)
      exact List.mem_map.mpr ⟨v, List.mem_filter.mpr ⟨List.mem_of_getElem? hv, hvholds⟩, rfl⟩
    cases i with
    | zero =>
      obtain rfl : u = t := by simpa using ht
      cases j with
      | zero => rfl
      | succ j =>
        rw [List.getElem?_cons_succ] at ht'
        exact (hhead hholds ht' hholds' (by rw [hid, hlease])).elim
    | succ i =>
      rw [List.getElem?_cons_succ] at ht
      cases j with
      | zero =>
        obtain rfl : u = t' := by simpa using ht'
        exact (hhead hholds' ht hholds (by rw [hid, hlease])).elim
      | succ j =>
        rw [List.getElem?_cons_succ] at ht'
        rw [ih htail ht ht']

/-- A punctual worker writes the outcome of the latest claim. -/
lemma Leases.marksOwnClaim (h : Leases s) {a : Action} (hok : Punctual s a) : MarksOwnClaim s a := by
  cases a with
  | advance i supervisor =>
    intro t ht hmarks r hr hid
    exact (h.leasedUntil ht ⟨holds_of_marks hmarks, hok t ht hmarks⟩ hr hid).1
  | _ => trivial

lemma leases_of_unclaimed (h : Unclaimed s) : Leases s := by
  obtain ⟨hids, htasks⟩ := h
  have hholders : s.holders = [] := by simp [Server.holders, htasks]
  exact ⟨hids, by simp [hholders], by simp [hholders], by simp [hholders], by simp [hholders]⟩

lemma leases_of_punctual (h : (server Unclaimed).Reachable Punctual s) : Leases s := by
  refine h.invariant (fun _ => leases_of_unclaimed) ?_
  intro s a s' hleases hok hstep
  exact hleases.step (hleases.marksOwnClaim hok) hstep

/-- However many workers there are, and whatever else happens, at most one live claim of a command
exists; the row of the command is leased to it, and nobody can claim the command before the lease
expires. -/
theorem leases_exclude (h : (server Unclaimed).Reachable Punctual s) {i : ℕ} {t : Task}
    (ht : s.tasks[i]? = some t) (hlive : t.Live s.db.now) :
    (∀ j t', s.tasks[j]? = some t' → t'.cmd.id = t.cmd.id → t'.Live s.db.now → j = i) ∧
      (∃ r ∈ s.db.exchangeCommands, r.id = t.cmd.id ∧ r.status = .leased ∧
        r.leasedUntil = some t.lease) ∧
      ∀ limit locked, t.cmd.id ∉ s.db.claimCandidates limit locked := by
  have hleases := leases_of_punctual h
  have hholder : (t.cmd.id, t.lease) ∈ s.holders :=
    List.mem_map.mpr ⟨t, List.mem_filter.mpr ⟨List.mem_of_getElem? ht, hlive.1⟩, rfl⟩
  obtain ⟨r, hr, hid⟩ := List.mem_map.mp (hleases.known _ hholder)
  have hid : r.id = t.cmd.id := hid
  obtain ⟨hlease, hstatus⟩ := hleases.leasedUntil ht hlive hr hid
  refine ⟨?_, ⟨r, hr, hid, hstatus, hlease⟩, ?_⟩
  · intro j t' ht' hid' hlive'
    have hlease' := (hleases.leasedUntil ht' hlive' hr (hid.trans hid'.symm)).1
    rw [hlease] at hlease'
    exact index_eq_of_holders hleases.holders ht' ht hlive'.1 hlive.1 hid'
      (Option.some.inj hlease').symm
  · intro limit locked hin
    obtain ⟨r', hr', hclaim, hid'⟩ := mem_claimCandidates hin
    have hlt := hleases.expired_of_claimable hholder hr' hid' hclaim
    exact absurd hlive.2 (not_le.mpr hlt)

end

/-- While the first claim of the command is alive, a second worker that looks for commands gets none. -/
theorem leases_exclude_submittedOne :
    ∃ s t, (server Unclaimed).Reachable Punctual s ∧ s.tasks[0]? = some t ∧ t.Live s.db.now ∧
      ∀ limit locked, t.cmd.id ∉ s.db.claimCandidates limit locked := by
  have hexec : ((server Unclaimed).exec Punctual submittedOne
      [.claim 1 [], .tick 30, .claim 10 []]).any
        (fun s => s.tasks[0]?.any fun t => decide (t.Live s.db.now)) = true := by
    decide +kernel
  obtain ⟨s, hrun, hs⟩ := Machine.exists_run_of_exec hexec
  obtain ⟨t, ht, hlive⟩ := (Option.any_eq_true _ _).mp hs
  have hreach : (server Unclaimed).Reachable Punctual s := ⟨submittedOne, _, ⟨by decide, rfl⟩, hrun⟩
  have hexcluded := leases_exclude hreach ht (of_decide_eq_true hlive)
  exact ⟨s, t, hreach, ht, of_decide_eq_true hlive, hexcluded.2.2⟩

end Confluence
