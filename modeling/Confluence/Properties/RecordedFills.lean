import Confluence.Properties.MarketPrice
import Confluence.Server.Ledger

/-!
# Recorded fills

Orders, fills and positions agree however the passes of the workers interleave, and no worker finds
that all fills of its result are recorded already.
-/

namespace Confluence

/-- The next step of the task is to persist a result whose fills all turn out to be recorded
already, for an order that is still as in the snapshot. -/
def Task.TakesDuplicateBranch (db : Db) (t : Task) : Prop :=
  match t.stage with
  | .reconciled orderId snapshot result =>
    ∃ locked, db.order? t.cmd.accountId orderId = some locked ∧
      locked.filledQuantity = snapshot.filled ∧ locked.status = snapshot.order.status ∧
      result.fillsToAdd ≠ [] ∧
      ∃ db', postgres.Commits (insertFills t.cmd.accountId orderId result.fillsToAdd) db [] db'
  | _ => False

/-- Paper and live trading, with any book and any answers of the venue that keep to ten digits. -/
def Supervisor.Trades (supervisor : Supervisor) : Prop :=
  (∀ adapter, supervisor.paperAdapter = some adapter →
    ∃ md now, adapter = Confluence.paperAdapter md now) ∧
  ∀ adapter, supervisor.liveAdapter = some adapter →
    ∃ parse answer, ScaledAnswer parse answer ∧ adapter = binanceAdapter parse answer

/-- Workers trade; everything else may happen. -/
def WorkersTrade : Action → Prop
  | .advance _ supervisor => supervisor.Trades
  | _ => True

lemma Supervisor.Trades.sound {supervisor : Supervisor} (h : supervisor.Trades) :
    supervisor.Sound := by
  intro mode adapter hadapter snapshot result hresult
  cases mode with
  | paper =>
    obtain ⟨md, now, rfl⟩ := h.1 adapter hadapter
    exact PaperAdapter.adapterResult hresult
  | live =>
    obtain ⟨parse, answer, hanswer, rfl⟩ := h.2 adapter hadapter
    exact BinanceAdapter.adapterResult hanswer hresult

/-- The branch ends the transaction with `ReconciliationRequired`. -/
lemma Task.TakesDuplicateBranch.atomically {db : Db} {t : Task} {orderId : Uuid}
    {snapshot : ReconcileSnapshot} {result : ReconcileResult}
    (h : t.TakesDuplicateBranch db) (hstage : t.stage = .reconciled orderId snapshot result) :
    (postgres.atomically (persistReconcileResultTx t.cmd.accountId orderId snapshot result) db).1 =
      .error .reconciliationRequired := by
  unfold TakesDuplicateBranch at h
  rw [hstage] at h
  obtain ⟨locked, ho, hfilled, hstatus, hne, db', hcommit⟩ := h
  have hlock : postgres.run (lockOrder t.cmd.accountId orderId) ⟨db, false⟩ =
      (.ok locked, ⟨db, false⟩) := by
    rw [run_lockOrder, ho]
    rfl
  have hrun : postgres.run (insertFills t.cmd.accountId orderId result.fillsToAdd) ⟨db, false⟩ =
      (.ok [], ⟨db', false⟩) := hcommit
  have hdup : (!result.fillsToAdd.isEmpty && ([] : List Fill).isEmpty) = true := by
    simpa using hne
  rw [Engine.atomically, persistReconcileResultTx, Engine.run_bind, Engine.run_mapError, hlock]
  simp only [Except.mapError]
  rw [if_neg (by simp [hfilled, hstatus]), Engine.run_bind, hrun]
  simp only
  rw [if_pos hdup]
  rfl

section

variable {db : Db} {opening : Uuid → String → Decimal}

/-- No worker finds all fills of its result recorded. -/
lemma Db.Balanced.not_takesDuplicateBranch (h : db.Balanced opening) {t : Task}
    (ht : t.Agrees db) : ¬ t.TakesDuplicateBranch db := by
  intro hdup
  unfold Task.TakesDuplicateBranch at hdup
  cases hstage : t.stage with
  | reconciled orderId snapshot result =>
    unfold Task.Agrees at ht
    rw [hstage] at hdup ht
    obtain ⟨locked, ho, hfilled, -, hne, db', hcommit⟩ := hdup
    obtain ⟨hsnapshot, hresult⟩ := ht
    have hlength := h.length_fills ho hsnapshot hfilled
    obtain ⟨o', ho', hterms, -⟩ := hsnapshot
    obtain rfl : locked = o' := Option.some.inj (ho.symm.trans ho')
    cases hresult with
    | unchanged => exact hne rfl
    | moved => exact hne rfl
    | filled hevents hid =>
      rw [hlength, hterms] at hid
      rcases of_commits_insertFills_singleton hcommit with ⟨hhas, -, -⟩ | ⟨-, hinserted, -⟩
      · exact h.not_hasTradeId ho hid hhas
      · cases hinserted
  | _ =>
    rw [hstage] at hdup
    exact hdup

end

/-! ### Two workers poll a live order -/

/-- A submitted live order of one unit and the pending command to reconcile it. -/
def submittedLive : Server :=
  { db := { equity1000 with
      orders := [{ newOrder ⟨2⟩ ⟨1⟩ (Uuid.simple ⟨2⟩) "BTCUSDT" .buy .limit 1 (some 100) .live with
        status := .submitted }]
      exchangeCommands := [{
        id := 1, accountId := ⟨1⟩, commandType := .reconcileOrder, exchangeMode := .live
        status := .pending, idempotencyKey := toString (⟨2⟩ : Uuid) ++ ":reconcile:initial"
        payload := orderPayload ⟨2⟩, attempts := 0, leasedUntil := none, createdAt := 0 }] }
    tasks := [] }

def parseQuantity : String → Option Decimal
  | "0.4" => some (2 / 5)
  | "1" => some 1
  | "100" => some 100
  | _ => none

def statusAnswer (status executedQty : String) : Json :=
  .obj [("status", .str status), ("executedQty", .str executedQty), ("price", .str "100")]

/-- Live trading when the venue gives this answer. -/
def answering (status executedQty : String) : Supervisor :=
  { paperAdapter := none
    liveAdapter := some (binanceAdapter parseQuantity (.ok (statusAnswer status executedQty))) }

/-- The first worker hydrates, its lease expires, and a second worker records a partial fill before
the first tries to record the whole quantity. -/
def pollTwice : List Action :=
  [.claim 1 [], .advance 0 (answering "NEW" "0"), .tick 31,
    .claim 1 [], .advance 1 (answering "NEW" "0"), .advance 1 (answering "PARTIALLY_FILLED" "0.4"),
    .advance 1 (answering "PARTIALLY_FILLED" "0.4"), .advance 0 (answering "FILLED" "1"),
    .advance 0 (answering "FILLED" "1")]

lemma trades_answering {status executedQty : String}
    (h : Numeric.IsScaled 10 ((parseQuantity executedQty).getD 0)) :
    (answering status executedQty).Trades := by
  refine ⟨fun adapter hadapter => (nomatch hadapter), fun adapter hadapter => ?_⟩
  refine ⟨parseQuantity, _, fun body hbody => ?_, (Option.some.inj hadapter).symm⟩
  rw [← Except.ok.inj hbody]
  exact h

lemma workersTrade_pollTwice : ∀ a ∈ pollTwice, WorkersTrade a := by
  have hnone : (answering "NEW" "0").Trades := trades_answering (by decide +kernel)
  have hpartial : (answering "PARTIALLY_FILLED" "0.4").Trades :=
    trades_answering (by decide +kernel)
  have hfilled : (answering "FILLED" "1").Trades := trades_answering (by decide +kernel)
  simp [pollTwice, WorkersTrade, hnone, hpartial, hfilled]

lemma unfilled_submittedLive : Unfilled submittedLive where
  ids := by decide
  clients := by decide +kernel
  quantities := by decide +kernel
  positions := ⟨List.nodup_nil, by simp [submittedLive, equity1000, Db.empty],
    by simp [submittedLive, equity1000, Db.empty], by simp [submittedLive, equity1000, Db.empty]⟩
  fills := rfl
  tasks := rfl

end Confluence
