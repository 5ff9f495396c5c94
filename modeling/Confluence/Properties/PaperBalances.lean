import Confluence.Exchange.PaperAccount

/-!
# Reservations are covered

However reservations, releases and credits follow one another, the free balance of an asset is what
has been freed and not reserved, and it is never negative.
-/

namespace Confluence

section

variable {account account' : PaperAccount} {a : PaperAction} {as : List PaperAction}
  {init : PaperAccount → Prop}

/-- The balances after an operation. -/
lemma freeBalance_step (h : account.step a = some account') (asset : String) :
    account'.freeBalance asset = account.freeBalance asset + a.freed asset - a.reserved asset := by
  cases a with
  | reserve other amount =>
    obtain ⟨-, rfl⟩ := PaperAccount.reserve_eq_ok.mp (PaperAccount.step_reserve.mp h)
    rw [PaperAccount.freeBalance_withBalance]
    simp only [PaperAction.freed, PaperAction.reserved]
    split_ifs with hsame
    · rw [hsame, add_zero]
    · rw [add_zero, sub_zero]
  | release other amount | credit other amount =>
    cases h
    simp only [PaperAccount.release, PaperAccount.credit, PaperAccount.freeBalance_withBalance,
      PaperAction.freed, PaperAction.reserved]
    split_ifs with hsame
    · rw [hsame, sub_zero]
    · rw [add_zero, sub_zero]

/-- No operation overdraws an asset. -/
lemma nonneg_step (h : account.step a = some account') (hback : a.GivesBack)
    (hfree : ∀ asset, 0 ≤ account.freeBalance asset) (asset : String) :
    0 ≤ account'.freeBalance asset := by
  cases a with
  | reserve other amount =>
    obtain ⟨hle, rfl⟩ := PaperAccount.reserve_eq_ok.mp (PaperAccount.step_reserve.mp h)
    rw [PaperAccount.freeBalance_withBalance]
    split_ifs
    · exact sub_nonneg.mpr hle
    · exact hfree asset
  | release other amount | credit other amount =>
    cases h
    have hback : 0 ≤ amount := hback
    simp only [PaperAccount.release, PaperAccount.credit, PaperAccount.freeBalance_withBalance]
    split_ifs
    · exact add_nonneg (hfree other) hback
    · exact hfree asset

/-- In every run, the free balance of an asset is what it was with what has been freed since, without
what has been reserved, and reservations never take more than that. -/
theorem reservations_covered
    (hrun : (paperAccounts init).Run (fun _ a => a.GivesBack) account as account')
    (hfree : ∀ asset, 0 ≤ account.freeBalance asset) (asset : String) :
    account'.freeBalance asset = account.freeBalance asset +
        (as.map (PaperAction.freed asset)).sum - (as.map (PaperAction.reserved asset)).sum ∧
      (as.map (PaperAction.reserved asset)).sum ≤
        account.freeBalance asset + (as.map (PaperAction.freed asset)).sum := by
  have hnonneg : ∀ asset, 0 ≤ account'.freeBalance asset :=
    hrun.preserves (I := fun t => ∀ asset, 0 ≤ t.freeBalance asset)
      (fun _ _ _ hfree hback hstep => nonneg_step hstep hback hfree) hfree
  have hsum : account'.freeBalance asset = account.freeBalance asset +
      (as.map (PaperAction.freed asset)).sum - (as.map (PaperAction.reserved asset)).sum := by
    refine hrun.history (I := fun as t => t.freeBalance asset = account.freeBalance asset +
      (as.map (PaperAction.freed asset)).sum - (as.map (PaperAction.reserved asset)).sum) ?_ ?_
    · simp
    · intro as t a t' _ ht _ hstep
      rw [freeBalance_step hstep, ht]
      simp only [List.map_append, List.map_singleton, List.sum_append, List.sum_singleton]
      ring
  have hleft := hnonneg asset
  rw [hsum] at hleft
  exact ⟨hsum, sub_nonneg.mp hleft⟩

end

/-- A reservation that is released, and one that stays. -/
theorem reservations_covered_releasedOne :
    ∃ account', (paperAccounts (· = .new)).Run (fun _ a => a.GivesBack)
        (PaperAccount.new.withBalance "USDT" 1000)
        [.reserve "USDT" 300, .release "USDT" 300, .reserve "USDT" 200] account' ∧
      account'.freeBalance "USDT" = 800 := by
  have hexec : ((paperAccounts (· = .new)).exec (fun _ a => a.GivesBack)
      (PaperAccount.new.withBalance "USDT" 1000)
      [.reserve "USDT" 300, .release "USDT" 300, .reserve "USDT" 200]).any
        (fun _ => true) = true := by
    decide +kernel
  obtain ⟨account', hrun, -⟩ := Machine.exists_run_of_exec hexec
  have hfree (asset : String) : 0 ≤ (PaperAccount.new.withBalance "USDT" 1000).freeBalance asset := by
    rw [PaperAccount.freeBalance_withBalance]
    split_ifs
    · norm_num
    · simp
  refine ⟨account', hrun, ?_⟩
  rw [(reservations_covered hrun hfree "USDT").1]
  decide +kernel

end Confluence
