import Confluence.Properties.AttendedOrders
import Confluence.Server.CommandModes

/-!
# Orders and their venues

However the modes of accounts are switched, commands carry the mode of the order that they name, so
that paper orders stay with the paper adapter and live orders with the live one.
-/

namespace Confluence

/-- Commands match their orders, and there is no worker yet. -/
structure CommandsMatch (s : Server) : Prop where
  ids : (s.db.orders.map (·.id)).Nodup
  commands : ∀ r ∈ s.db.exchangeCommands, r.claimed.Matches s.db
  tasks : s.tasks = []

section

variable {s : Server}

lemma modesMatch_of_commandsMatch (h : CommandsMatch s) : ModesMatch s := by
  refine ⟨h.ids, h.commands, fun t ht => ?_⟩
  rw [h.tasks] at ht
  cases ht

lemma modesMatch_of_reachable (h : (server CommandsMatch).Reachable CancelsMatch s) :
    ModesMatch s := by
  have hinit (s : Server) (hs : CommandsMatch s) : ModesMatch s := modesMatch_of_commandsMatch hs
  have hkeep (s : Server) (a : Action) (s' : Server) (hs : ModesMatch s) (hok : CancelsMatch s a)
      (hstep : (server CommandsMatch).step s a = some s') : ModesMatch s' :=
    hs.step hok (serverStep_of_step hstep)
  exact h.invariant hinit hkeep

lemma ClaimedCommand.Matches.of_mem {cmd : ClaimedCommand} {db : Db} {o : OrderRecord}
    (h : cmd.Matches db) (hids : (db.orders.map (·.id)).Nodup) (ho : o ∈ db.orders)
    (hid : extractOrderId cmd = some o.id) :
    cmd.accountId = o.accountId ∧ cmd.exchangeMode = o.exchangeMode := by
  obtain ⟨o', ho', hmode⟩ := h o.id hid
  obtain ⟨hmem, hsame, hacc⟩ := Db.mem_of_order? ho'
  obtain rfl := List.inj_on_of_nodup_map hids hmem ho hsame
  exact ⟨hacc.symm, hmode.symm⟩

/-- Every command that names an order has its account and mode, and the adapter that a worker is about
to call, which is the one of its command's mode, is that of the order in its hands. -/
theorem commands_follow_orders (h : (server CommandsMatch).Reachable CancelsMatch s) :
    (∀ r ∈ s.db.exchangeCommands, ∀ o ∈ s.db.orders, extractOrderId r.claimed = some o.id →
      r.accountId = o.accountId ∧ r.exchangeMode = o.exchangeMode) ∧
    ∀ t ∈ s.tasks, ∀ orderId snapshot, t.stage = .hydrated orderId snapshot →
      ∀ o ∈ s.db.orders, o.id = snapshot.order.orderId →
        ∀ supervisor : Supervisor,
          supervisor.resolve t.cmd.exchangeMode = supervisor.resolve o.exchangeMode := by
  have hs := modesMatch_of_reachable h
  constructor
  · intro r hr o ho hid
    exact (hs.commands r hr).of_mem hs.ids ho hid
  · intro t ht orderId snapshot hstage o ho hid supervisor
    obtain ⟨hmatches, hnames⟩ := hs.tasks t ht
    unfold Task.NamesOrder at hnames
    rw [hstage] at hnames
    obtain ⟨horder, hsnapshot⟩ := hnames
    rw [← hsnapshot, ← hid] at horder
    rw [(hmatches.of_mem hs.ids ho horder).2]

end

def Stage.isHydrated : Stage → Bool
  | .hydrated _ _ => true
  | _ => false

lemma Stage.of_isHydrated {stage : Stage} (h : stage.isHydrated = true) :
    ∃ orderId snapshot, stage = .hydrated orderId snapshot := by
  cases stage with
  | hydrated orderId snapshot => exact ⟨orderId, snapshot, rfl⟩
  | _ => cases h

/-- A submitted paper order whose worker is about to reconcile it. -/
theorem commands_follow_orders_unusedOne :
    ∃ s, (server CommandsMatch).Reachable CancelsMatch s ∧
      (∃ t ∈ s.tasks, ∃ orderId snapshot, t.stage = .hydrated orderId snapshot) ∧
      s.db.exchangeCommands ≠ [] ∧
      ∀ r ∈ s.db.exchangeCommands, ∀ o ∈ s.db.orders, extractOrderId r.claimed = some o.id →
        r.accountId = o.accountId ∧ r.exchangeMode = o.exchangeMode := by
  have hexec : ((server CommandsMatch).exec (fun _ _ => True) unusedOne
      ((orderAndReconcile { buyTen with quantity := 1 }).take 8)).any
        (fun s => (s.tasks.any fun t => t.stage.isHydrated) &&
          decide (s.db.exchangeCommands.length = 2)) = true := by
    decide +kernel
  obtain ⟨s, hrun, hs⟩ := Machine.exists_run_of_exec hexec
  have hmatch (s : Server) (a : Action) (ha : TradesAt100 a) (hcancel : ∀ a' o m k,
      a ≠ .enqueueCancel a' o m k) : CancelsMatch s a := by
    cases a with
    | enqueueCancel a' o m k => exact (hcancel a' o m k rfl).elim
    | _ => trivial
  have hactions : ∀ a ∈ (orderAndReconcile { buyTen with quantity := 1 }).take 8,
      TradesAt100 a ∧ ∀ a' o m k, a ≠ .enqueueCancel a' o m k := by
    simp [orderAndReconcile, TradesAt100]
  have hreach : (server CommandsMatch).Reachable CancelsMatch s :=
    ⟨unusedOne, _, ⟨List.nodup_nil, by simp [unusedOne, equity1000, Db.empty], rfl⟩,
      (hrun.of_actions hactions).mono fun s a h => hmatch s a h.1.1 h.1.2⟩
  rw [Bool.and_eq_true, decide_eq_true_eq] at hs
  obtain ⟨t, ht, hstage⟩ := List.any_eq_true.mp hs.1
  refine ⟨s, hreach, ⟨t, ht, Stage.of_isHydrated hstage⟩, ?_, (commands_follow_orders hreach).1⟩
  intro hnil
  rw [hnil] at hs
  cases hs.2

end Confluence
