import Confluence.Properties.MarketPrice
import Confluence.Server.Steps

/-!
# Exchange modes

Open orders are to trade in their account's mode. The guard on a mode switch covers the update of an
existing configuration only: an account without one is in paper mode, and its first configuration may
switch it to live unguarded.
-/

namespace Confluence

/-- Every open order has its account's mode. -/
def Db.OrdersFollowMode (db : Db) : Prop :=
  ∀ r ∈ db.orders, r.status.isTerminal = false → r.exchangeMode = db.exchangeMode r.accountId

instance (db : Db) : Decidable db.OrdersFollowMode :=
  inferInstanceAs (Decidable (∀ r ∈ db.orders, r.status.isTerminal = false →
    r.exchangeMode = db.exchangeMode r.accountId))

/-- The first configuration of an account sets it to live only while the account is idle. -/
def FirstLiveIdle (s : Server) : Action → Prop
  | .request _ accountId (.putExchangeConfig _ body) =>
    s.db.configRow accountId = none → parseMode body.mode = .live → s.db.Idle accountId
  | _ => True

/-- A start that satisfies the schema, with open orders, if any, in their account's mode. -/
structure ModesAgree (s : Server) : Prop where
  ids : (s.db.orders.map (·.id)).Nodup
  positions : PositionsValid s.db.positions
  orders : s.db.OrdersFollowMode

section

variable {s s' : Server} {a : Action} {accountId : Uuid}

lemma openPositions_of_idle {db : Db} (hv : PositionsValid db.positions) (h : db.Idle accountId) :
    db.openPositions accountId = [] := by
  rw [List.eq_nil_iff_forall_not_mem]
  intro r hr
  have hpos : r.quantity > 0 := (hv.checked r (List.mem_of_mem_filter hr)).1
  have hmem : r ∈ (db.openPositions accountId).filter fun r => decide (r.quantity > 0) :=
    List.mem_filter.mpr ⟨hr, decide_eq_true hpos⟩
  rw [h.2] at hmem
  exact List.not_mem_nil hmem

/-- When the mode of an account changes, the account is idle. -/
lemma idle_of_mode_changed (hok : FirstLiveIdle s a) (hstep : s.step a = some s')
    (hmode : s'.db.exchangeMode accountId ≠ s.db.exchangeMode accountId) :
    s.db.Idle accountId := by
  cases serverStep_of_step hstep with
  | tick seconds => exact (hmode rfl).elim
  | enqueueCancel a orderId mode tag => exact (hmode rfl).elim
  | claim limit locked => exact (hmode rfl).elim
  | crash hi => exact (hmode rfl).elim
  | advance htask hworker =>
    obtain ⟨_, _, _, _, _, rfl⟩ := hworker.frame
    exact (hmode rfl).elim
  | @request env a r db' hrequest =>
    cases hrequest with
    | audited => exact (hmode rfl).elim
    | riskState => exact (hmode rfl).elim
    | placed => exact (hmode rfl).elim
    | @configured encrypt body exchangeConfigs riskEvents hmodes hidle =>
      simp only [hmodes] at hmode
      split_ifs at hmode with hacc
      · subst hacc
        rcases hidle with hnone | hsame | hidle
        · -- without a row the mode is paper, so that a change is one to live
          have hpaper : s.db.exchangeMode accountId = .paper := by
            have hrow : (s.db.exchangeConfigs.find? fun r => r.accountId = accountId) = none := hnone
            simp [Db.exchangeMode, hrow]
          have hlive : parseMode body.mode = .live := by
            rw [hpaper] at hmode
            cases hbody : parseMode body.mode with
            | paper => exact (hmode hbody).elim
            | live => rfl
          exact hok hnone hlive
        · exact (hmode hsame).elim
        · exact hidle
      · exact (hmode rfl).elim

lemma ModesAgree.step (h : ModesAgree s) (hok : FirstLiveIdle s a) (hstep : s.step a = some s') :
    ModesAgree s' := by
  cases serverStep_of_step hstep with
  | tick seconds => exact ⟨h.ids, h.positions, h.orders⟩
  | enqueueCancel a orderId mode tag => exact ⟨h.ids, h.positions, h.orders⟩
  | claim limit locked => exact ⟨h.ids, h.positions, h.orders⟩
  | crash hi => exact ⟨h.ids, h.positions, h.orders⟩
  | @advance i supervisor task next db' htask hworker =>
    have hmoves := hworker.movesOrder
    have hmode : db'.exchangeMode = s.db.exchangeMode := by
      obtain ⟨_, _, _, _, _, rfl⟩ := hworker.frame
      rfl
    refine ⟨?_, hworker.positionsValid h.positions, ?_⟩
    · rw [hmoves.ids]
      exact h.ids
    · intro r' hr' hopen
      rw [hmode]
      obtain ⟨r, hr, rfl | ⟨status, q, hlegal, -, -, -, rfl⟩⟩ := hmoves.of_mem h.ids hr'
      · exact h.orders r' hr hopen
      · -- an order that moves was open before
        refine h.orders r hr ?_
        cases hterminal : r.status.isTerminal with
        | false => rfl
        | true => simp [OrderStateMachine.not_legal_of_isTerminal hterminal] at hlegal
  | @request env acc r db' hrequest =>
    cases hrequest with
    | audited => exact ⟨h.ids, h.positions, h.orders⟩
    | riskState => exact ⟨h.ids, h.positions, h.orders⟩
    | @placed orderId body q p happroved hq hp hpos hid hclient =>
      refine ⟨ids_placed h.ids hid env acc body q p, h.positions, ?_⟩
      intro r hr hopen
      simp only [Db.placed, Db.withCommand] at hr
      rcases List.mem_append.mp hr with hr | hr
      · exact h.orders r hr hopen
      · rw [List.mem_singleton.mp hr]
        rfl
    | @configured encrypt body exchangeConfigs riskEvents hmodes hidle =>
      refine ⟨h.ids, h.positions, ?_⟩
      intro r hr hopen
      by_contra hne
      -- the order's account has changed its mode, although it has an open order
      have hchanged : ({ s.db with exchangeConfigs, riskEvents : Db }).exchangeMode r.accountId ≠
          s.db.exchangeMode r.accountId := by
        intro hsame
        exact hne ((h.orders r hr hopen).trans hsame.symm)
      have hidle := idle_of_mode_changed hok hstep hchanged
      have hmem : r ∈ s.db.openOrders r.accountId := by
        rw [Db.openOrders, List.mem_filter]
        exact ⟨hr, by simp [hopen]⟩
      rw [hidle.1] at hmem
      exact List.not_mem_nil hmem

/-- In the runs in which an account's first configuration makes it live only while it is idle, open
orders have their account's mode, and the mode never changes while a position is open. -/
theorem orders_follow_mode (h : (server ModesAgree).Reachable FirstLiveIdle s) :
    s.db.OrdersFollowMode ∧
    ∀ a s' accountId, FirstLiveIdle s a → s.step a = some s' →
      s'.db.exchangeMode accountId ≠ s.db.exchangeMode accountId →
        s.db.openPositions accountId = [] := by
  have hagree : ModesAgree s := by
    refine h.invariant (fun s hs => hs) ?_
    intro s a s' hs hok hstep
    exact hs.step hok hstep
  refine ⟨hagree.orders, ?_⟩
  intro a s' accountId hok hstep hmode
  exact openPositions_of_idle hagree.positions (idle_of_mode_changed hok hstep hmode)

end

/-! ### An account without a configuration -/

/-- An account with equity 10000, which is in paper mode. -/
def unconfigured : Server :=
  { db := { equity1000 with accounts := [⟨⟨1⟩, .active, 10000, none⟩] }, tasks := [] }

/-- The first configuration of the account, which makes it live. -/
def goLive : Action :=
  .request quotedAt100 ⟨1⟩
    (.putExchangeConfig (fun _ => .ok [])
      { mode := "live", testnet := true, apiKey := none, apiSecret := none, version := 0 })

/-- A market order of one unit. -/
def buyOneNow : Action :=
  .request quotedAt100 ⟨1⟩ (.placeOrder ⟨2⟩ { buyTen with quantity := 1 })

lemma modesAgree_unconfigured : ModesAgree unconfigured where
  ids := List.nodup_nil
  positions := ⟨List.nodup_nil, by simp [unconfigured, equity1000, Db.empty],
    by simp [unconfigured, equity1000, Db.empty], by simp [unconfigured, equity1000, Db.empty]⟩
  orders := by simp [Db.OrdersFollowMode, unconfigured, equity1000, Db.empty]

/-- Configured first, the account's order is a live one. -/
theorem orders_follow_mode_configuredFirst :
    ∃ s, (server ModesAgree).Run FirstLiveIdle unconfigured [goLive, buyOneNow] s ∧
      s.db.orders.length = 1 ∧ s.db.exchangeMode ⟨1⟩ = .live ∧ s.db.OrdersFollowMode := by
  have hrun : (server ModesAgree).Run FirstLiveIdle unconfigured [goLive, buyOneNow] _ :=
    .cons (fun _ _ => ⟨rfl, rfl⟩) rfl (.cons trivial rfl (.nil _))
  have hreach := Machine.Reachable.run ⟨unconfigured, [], modesAgree_unconfigured, .nil _⟩ hrun
  exact ⟨_, hrun, by decide +kernel, by decide +kernel, (orders_follow_mode hreach).1⟩

/-- Configured second, the account is live with an open paper order. -/
theorem orders_not_follow_mode :
    ¬ ∀ s, (server ModesAgree).Reachable (fun _ _ => True) s → s.db.OrdersFollowMode := by
  intro h
  have hrun : (server ModesAgree).Run (fun _ _ => True) unconfigured [buyOneNow, goLive] _ :=
    .cons trivial rfl (.cons trivial rfl (.nil _))
  have hviolated := h _ ⟨unconfigured, _, modesAgree_unconfigured, hrun⟩
  exact absurd hviolated (by decide +kernel)

end Confluence
