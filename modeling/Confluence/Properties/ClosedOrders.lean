import Confluence.Properties.SettledCommands
import Confluence.Server.Orders

/-!
# Closed orders

Once an order is filled, cancelled or rejected, nothing about it changes any more, whatever workers
still carry for it.
-/

namespace Confluence

/-- Orders with identifiers of their own, and no worker yet. -/
structure Resting (s : Server) : Prop where
  ids : (s.db.orders.map (·.id)).Nodup
  tasks : s.tasks = []

section

variable {s s' : Server} {a : Action} {o : OrderRecord}

lemma orderly_of_resting (h : Resting s) : Orderly s := by
  refine ⟨h.ids, fun t ht => ?_⟩
  rw [h.tasks] at ht
  cases ht

lemma orderly_of_reachable (h : (server Resting).Reachable (fun _ a => UsesAdapters a) s) :
    Orderly s := by
  have hinit (s : Server) (hs : Resting s) : Orderly s := orderly_of_resting hs
  have hkeep (s : Server) (a : Action) (s' : Server) (hs : Orderly s) (hok : UsesAdapters a)
      (hstep : (server Resting).step s a = some s') : Orderly s' :=
    hs.step hok (serverStep_of_step hstep)
  exact h.invariant hinit hkeep

/-- A closed order keeps its status, its filled quantity and its fills in every run. -/
theorem closed_order_kept {as : List Action}
    (hreach : (server Resting).Reachable (fun _ a => UsesAdapters a) s) (ho : o ∈ s.db.orders)
    (hclosed : o.status.isTerminal = true)
    (hrun : (server Resting).Run (fun _ a => UsesAdapters a) s as s') :
    o ∈ s'.db.orders ∧ (∀ o' ∈ s'.db.orders, o'.id = o.id → o' = o) ∧
      s'.db.fillRows o.id = s.db.fillRows o.id := by
  have hkeep (s₁ : Server) (a : Action) (s₂ : Server)
      (h : Orderly s₁ ∧ o ∈ s₁.db.orders ∧ s₁.db.fillRows o.id = s.db.fillRows o.id)
      (hok : UsesAdapters a) (hstep : (server Resting).step s₁ a = some s₂) :
      Orderly s₂ ∧ o ∈ s₂.db.orders ∧ s₂.db.fillRows o.id = s.db.fillRows o.id := by
    obtain ⟨horderly, hmem, hfills⟩ := h
    have hstep := serverStep_of_step hstep
    obtain ⟨hmem', hfills'⟩ := keeps_of_isTerminal horderly hstep hmem hclosed
    exact ⟨horderly.step hok hstep, hmem', hfills'.trans hfills⟩
  obtain ⟨horderly, hmem, hfills⟩ := hrun.preserves hkeep ⟨orderly_of_reachable hreach, ho, rfl⟩
  refine ⟨hmem, fun o' ho' hid => ?_, hfills⟩
  exact List.inj_on_of_nodup_map horderly.ids ho' hmem hid

end

/-! ### A worker that comes too late -/

lemma usesAdapters_paperAt100 : paperAt100.UsesAdapters := by
  constructor
  · intro adapter hadapter
    exact ⟨_, _, (Option.some.inj hadapter).symm⟩
  · intro adapter hadapter
    cases hadapter

/-- The order is filled once, and a worker that carries a second fill for it finds it closed. -/
theorem closed_order_kept_overtakenOne :
    ∃ s s' o, (server Resting).Reachable (fun _ a => UsesAdapters a) s ∧ o ∈ s.db.orders ∧
      o.status = .filled ∧
      (server Resting).Run (fun _ a => UsesAdapters a) s
        [.advance 0 paperAt100, .advance 0 paperAt100] s' ∧
      o ∈ s'.db.orders ∧ s'.db.fillRows o.id = s.db.fillRows o.id := by
  have hexec : ((server Resting).exec (fun _ _ => True) submittedOne overtakenOne).any (fun s =>
      (s.db.orders.any fun o => decide (o.status = .filled)) &&
        ((server Resting).exec (fun _ _ => True) s
          [.advance 0 paperAt100, .advance 0 paperAt100]).isSome) = true := by
    decide +kernel
  obtain ⟨s, hrun, hs⟩ := Machine.exists_run_of_exec hexec
  rw [Bool.and_eq_true] at hs
  obtain ⟨o, ho, hfilled⟩ := List.any_eq_true.mp hs.1
  have hfilled := of_decide_eq_true hfilled
  obtain ⟨s', hlater⟩ := Option.isSome_iff_exists.mp hs.2
  have hadapters : ∀ a ∈ overtakenOne, UsesAdapters a := by
    simp [overtakenOne, UsesAdapters, usesAdapters_paperAt100]
  have hadapters' : ∀ a ∈ [Action.advance 0 paperAt100, .advance 0 paperAt100], UsesAdapters a := by
    simp [UsesAdapters, usesAdapters_paperAt100]
  have hreach : (server Resting).Reachable (fun _ a => UsesAdapters a) s :=
    ⟨submittedOne, _, ⟨by decide, rfl⟩, (hrun.of_actions hadapters).mono fun _ _ h => h.1⟩
  have hrun' := ((Machine.run_of_exec hlater).of_actions hadapters').mono fun _ _ h => h.1
  have hkept := closed_order_kept hreach ho (by rw [hfilled]; rfl) hrun'
  exact ⟨s, s', o, hreach, ho, hfilled, hrun', hkept.1, hkept.2.2⟩

end Confluence
