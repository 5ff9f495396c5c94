import Confluence.Server.CommandModes

/-!
# Submissions

Whether an order is still to be sent is known from its `submit_order` command. As long as that
command is claimed by one worker at a time, and other commands of the order wait until it is
settled, a worker that is about to send the order has found it pending, and it still is.
-/

namespace Confluence

/-- The command is to submit the order, if any, that `orderId` gives. -/
def CommandRecord.Submits (r : CommandRecord) (accountId : Uuid) (orderId : Option Uuid) : Prop :=
  r.commandType = .submitOrder ∧ r.accountId = accountId ∧ extractOrderId r.claimed = orderId

instance (r : CommandRecord) (accountId : Uuid) (orderId : Option Uuid) :
    Decidable (r.Submits accountId orderId) :=
  inferInstanceAs (Decidable (_ ∧ _))

/-- No command is left that might send the order. -/
def Db.SubmitSettled (db : Db) (accountId : Uuid) (orderId : Option Uuid) : Prop :=
  ∀ r ∈ db.exchangeCommands, r.Submits accountId orderId → r.status.isSettled = true

instance (db : Db) (accountId : Uuid) (orderId : Option Uuid) :
    Decidable (db.SubmitSettled accountId orderId) :=
  inferInstanceAs (Decidable (∀ r ∈ db.exchangeCommands, _))

/-- The worker may still send the order, or let another worker do so. -/
def Stage.unsent : Stage → Bool
  | .claimed | .hydrated .. | .accepted _ | .dispatched (.error .retry) => true
  | _ => false

def Stage.isClaimed : Stage → Bool
  | .claimed => true
  | _ => false

/-- The worker may still write the order's status, other than to record that it was sent. -/
def Task.writes (t : Task) : Bool :=
  match t.stage with
  | .reconciled .. | .rejecting _ => true
  | .hydrated .. | .accepted _ | .dispatched (.error .permanentlyRejected) =>
    decide (t.cmd.commandType ≠ .submitOrder)
  | _ => false

/-- Of two workers that hold the same submission, one is done. -/
def Apart (t t' : Task) : Prop :=
  t.cmd.id = t'.cmd.id → (t.cmd.commandType = .submitOrder ∨ t'.cmd.commandType = .submitOrder) →
    t.stage.holds = false ∨ t'.stage.holds = false

/-- A submission is taken over from an expired lease only while the order is pending and no worker
holds it any more, and other commands of an order are taken up when its submission is settled. -/
def KeepsSubmissions (s : Server) : Action → Prop
  | .claim limit locked =>
    ∀ r ∈ s.db.exchangeCommands, r.id ∈ s.db.claimCandidates limit locked →
      r.commandType = .submitOrder → r.status = .leased →
        (∀ t ∈ s.tasks, t.cmd.id = r.id → t.stage.holds = false) ∧
        ∀ o ∈ s.db.orders, r.Submits o.accountId (some o.id) → o.status = .pending
  | .advance i _ =>
    ∀ t ∈ s.tasks[i]?, t.stage.isClaimed = true → t.cmd.commandType ≠ .submitOrder →
      s.db.SubmitSettled t.cmd.accountId (extractOrderId t.cmd)
  | _ => True

/-- The commands that submit orders, the orders and the workers agree. -/
structure Submissions (s : Server) : Prop where
  ids : (s.db.exchangeCommands.map (·.id)).Nodup
  owner : ∀ r ∈ s.db.exchangeCommands, r.commandType = .submitOrder →
    ∃ o ∈ s.db.orders, r.Submits o.accountId (some o.id)
  one : ∀ r ∈ s.db.exchangeCommands, ∀ r' ∈ s.db.exchangeCommands, ∀ o ∈ s.db.orders,
    r.Submits o.accountId (some o.id) → r'.Submits o.accountId (some o.id) → r.id = r'.id
  known : ∀ t ∈ s.tasks, ∃ r ∈ s.db.exchangeCommands, r.claimed = t.cmd
  leased : ∀ t ∈ s.tasks, t.cmd.commandType = .submitOrder → t.stage.holds = true →
    ∀ r ∈ s.db.exchangeCommands, r.id = t.cmd.id → r.status = .leased
  apart : s.tasks.Pairwise Apart
  unsent : ∀ r ∈ s.db.exchangeCommands, ∀ o ∈ s.db.orders, r.Submits o.accountId (some o.id) →
    (r.status = .pending ∨ ∃ t ∈ s.tasks, t.cmd.id = r.id ∧ t.stage.unsent = true) →
      o.status = .pending
  names : ∀ t ∈ s.tasks, t.NamesOrder ∧
    ∀ orderId, t.stage = .rejecting orderId → extractOrderId t.cmd = some orderId
  hydrated : ∀ t ∈ s.tasks, t.cmd.commandType = .submitOrder → ∀ orderId snapshot,
    t.stage = .hydrated orderId snapshot → snapshot.order.status = .pending
  writers : ∀ t ∈ s.tasks, t.writes = true →
    (∃ o ∈ s.db.orders, o.accountId = t.cmd.accountId ∧ extractOrderId t.cmd = some o.id) ∧
      s.db.SubmitSettled t.cmd.accountId (extractOrderId t.cmd)

section

variable {db db' : Db} {tasks : List Task} {t : Task} {i : ℕ} {next : Option Stage}

/-- What a worker knows of its row. -/
lemma submits_of_claimed {r : CommandRecord} {cmd : ClaimedCommand} (h : r.claimed = cmd)
    {accountId : Uuid} {orderId : Option Uuid} : r.Submits accountId orderId ↔
      cmd.commandType = .submitOrder ∧ cmd.accountId = accountId ∧ extractOrderId cmd = orderId := by
  rw [← h]
  rfl

lemma Apart.symm {t t' : Task} (h : Apart t t') : Apart t' t := fun hid htype =>
  (h hid.symm htype.symm).symm

/-! ### Changes that keep the invariant -/

/-- Only the orders, the commands and the workers matter. -/
lemma Submissions.congr (h : Submissions ⟨db, tasks⟩) (horders : db'.orders = db.orders)
    (hcommands : db'.exchangeCommands = db.exchangeCommands) : Submissions ⟨db', tasks⟩ := by
  have hsettled (accountId : Uuid) (orderId : Option Uuid) :
      db'.SubmitSettled accountId orderId ↔ db.SubmitSettled accountId orderId := by
    unfold Db.SubmitSettled
    rw [hcommands]
  constructor
  · simpa only [hcommands] using h.ids
  · simpa only [hcommands, horders] using h.owner
  · simpa only [hcommands, horders] using h.one
  · simpa only [hcommands] using h.known
  · simpa only [hcommands] using h.leased
  · exact h.apart
  · simpa only [hcommands, horders] using h.unsent
  · exact h.names
  · exact h.hydrated
  · simpa only [hsettled, horders] using h.writers

/-- An order whose submission no worker can send any more may move. -/
lemma Submissions.move (h : Submissions ⟨db, tasks⟩) {accountId orderId : Uuid}
    (hsent : ∀ r ∈ db.exchangeCommands, r.Submits accountId (some orderId) →
      r.status ≠ .pending ∧ ∀ t ∈ tasks, t.cmd.id = r.id → t.stage.unsent = false)
    {status : OrderStatus} {q : Decimal}
    (horders : db'.orders = (db.withStatus accountId orderId status q).orders)
    (hcommands : db'.exchangeCommands = db.exchangeCommands) : Submissions ⟨db', tasks⟩ := by
  -- an order keeps its account and identifier, and its status unless it is the one
  have hold {o' : OrderRecord} (ho' : o' ∈ db'.orders) : ∃ o ∈ db.orders,
      o'.accountId = o.accountId ∧ o'.id = o.id ∧
        (o'.status = o.status ∨ (o.accountId = accountId ∧ o.id = orderId)) := by
    rw [horders, Db.withStatus, mem_updateWhere] at ho'
    obtain ⟨o, ho, rfl⟩ := ho'
    refine ⟨o, ho, ?_⟩
    by_cases hrow : o.id = orderId ∧ o.accountId = accountId
    · simp [hrow.1, hrow.2]
    · rw [if_neg (by simpa using hrow)]
      exact ⟨rfl, rfl, .inl rfl⟩
  have hnew {o : OrderRecord} (ho : o ∈ db.orders) :
      ∃ o' ∈ db'.orders, o'.accountId = o.accountId ∧ o'.id = o.id := by
    rw [horders]
    refine ⟨_, mem_updateWhere.mpr ⟨o, ho, rfl⟩, ?_⟩
    split_ifs
    · exact ⟨rfl, rfl⟩
    · exact ⟨rfl, rfl⟩
  have hsettled (accountId : Uuid) (orderId : Option Uuid) :
      db'.SubmitSettled accountId orderId ↔ db.SubmitSettled accountId orderId := by
    unfold Db.SubmitSettled
    rw [hcommands]
  constructor
  · simpa only [hcommands] using h.ids
  · intro r hr htype
    obtain ⟨o, ho, hsubmits⟩ := h.owner r (hcommands ▸ hr) htype
    obtain ⟨o', ho', haccount, hid⟩ := hnew ho
    exact ⟨o', ho', by rw [haccount, hid]; exact hsubmits⟩
  · intro r hr r' hr' o' ho' hsubmits hsubmits'
    obtain ⟨o, ho, haccount, hid, -⟩ := hold ho'
    rw [haccount, hid] at hsubmits hsubmits'
    exact h.one r (hcommands ▸ hr) r' (hcommands ▸ hr') o ho hsubmits hsubmits'
  · simpa only [hcommands] using h.known
  · simpa only [hcommands] using h.leased
  · exact h.apart
  · intro r hr o' ho' hsubmits hunsent
    have hr : r ∈ db.exchangeCommands := hcommands ▸ hr
    obtain ⟨o, ho, haccount, hid, hstatus⟩ := hold ho'
    rw [haccount, hid] at hsubmits
    rcases hstatus with hsame | ⟨rfl, rfl⟩
    · rw [hsame]
      exact h.unsent r hr o ho hsubmits hunsent
    · obtain ⟨hpending, hworkers⟩ := hsent r hr hsubmits
      rcases hunsent with hunsent | ⟨t, ht, htid, hstage⟩
      · exact (hpending hunsent).elim
      · rw [hworkers t ht htid] at hstage
        cases hstage
  · exact h.names
  · exact h.hydrated
  · intro t ht hwrites
    obtain ⟨⟨o, ho, haccount, hid⟩, hset⟩ := h.writers t ht hwrites
    obtain ⟨o', ho', haccount', hid'⟩ := hnew ho
    exact ⟨⟨o', ho', haccount'.trans haccount, by rw [hid']; exact hid⟩, (hsettled _ _).mpr hset⟩

/-- A new command: one that submits an order is the first one to, and the order is pending. -/
lemma Submissions.enqueue (h : Submissions ⟨db, tasks⟩) (commandType : CommandType)
    (accountId orderId : Uuid)
    (hsubmit : commandType = .submitOrder →
      (∃ o ∈ db.orders, o.accountId = accountId ∧ o.id = orderId) ∧
      (∀ o ∈ db.orders, o.id = orderId → o.status = .pending) ∧
      (∀ r ∈ db.exchangeCommands, ¬ r.Submits accountId (some orderId)) ∧
      ∀ t ∈ tasks, t.writes = true → extractOrderId t.cmd ≠ some orderId)
    (mode : ExchangeMode) (key : String) :
    Submissions ⟨db.withCommand accountId commandType mode key (orderPayload orderId), tasks⟩ := by
  rcases db.withCommand_cases accountId commandType mode key (orderPayload orderId)
    with ⟨-, hdb⟩ | ⟨-, hdb⟩
  · rw [hdb]
    exact h
  · rw [hdb]
    set row := db.newCommand accountId commandType mode key (orderPayload orderId)
    have hrow {a : Uuid} {i : Uuid} (hsubmits : row.Submits a (some i)) :
        commandType = .submitOrder ∧ accountId = a ∧ orderId = i := by
      obtain ⟨htype, haccount, hid⟩ := hsubmits
      have hpayload : extractOrderId row.claimed = some orderId := extractOrderId_orderPayload ..
      exact ⟨htype, haccount, Option.some.inj (hpayload.symm.trans hid)⟩
    have hcases {r : CommandRecord} (hr : r ∈ db.exchangeCommands ++ [row]) :
        r ∈ db.exchangeCommands ∨ r = row := by
      simpa using hr
    constructor
    · simp only [List.map_append, List.map_cons, List.map_nil]
      refine List.nodup_append.mpr ⟨h.ids, by simp, ?_⟩
      intro j hj k hk
      rw [List.mem_singleton.mp hk]
      exact (lt_freshId hj).ne
    · intro r hr htype
      rcases hcases hr with hr | rfl
      · exact h.owner r hr htype
      · obtain ⟨⟨o, ho, rfl, rfl⟩, -⟩ := hsubmit htype
        exact ⟨o, ho, htype, rfl, extractOrderId_orderPayload ..⟩
    · intro r hr r' hr' o ho hsubmits hsubmits'
      rcases hcases hr with hold | rfl
      · rcases hcases hr' with hold' | rfl
        · exact h.one r hold r' hold' o ho hsubmits hsubmits'
        · obtain ⟨htype, rfl, rfl⟩ := hrow hsubmits'
          exact ((hsubmit htype).2.2.1 r hold hsubmits).elim
      · obtain ⟨htype, rfl, rfl⟩ := hrow hsubmits
        rcases hcases hr' with hold' | rfl
        · exact ((hsubmit htype).2.2.1 r' hold' hsubmits').elim
        · rfl
    · intro t ht
      obtain ⟨r, hr, hclaimed⟩ := h.known t ht
      exact ⟨r, List.mem_append_left _ hr, hclaimed⟩
    · intro t ht htype hholds r hr hid
      rcases hcases hr with hr | rfl
      · exact h.leased t ht htype hholds r hr hid
      · -- the new row has an identifier that no worker knows
        obtain ⟨r₀, hr₀, hclaimed⟩ := h.known t ht
        have hlt := lt_freshId (List.mem_map_of_mem (f := (·.id)) hr₀)
        have hid₀ : r₀.id = t.cmd.id := congrArg ClaimedCommand.id hclaimed
        rw [hid₀] at hlt
        exact (hlt.ne' hid).elim
    · exact h.apart
    · intro r hr o ho hsubmits hunsent
      rcases hcases hr with hr | rfl
      · exact h.unsent r hr o ho hsubmits hunsent
      · obtain ⟨htype, -, hid⟩ := hrow hsubmits
        exact (hsubmit htype).2.1 o ho hid.symm
    · exact h.names
    · exact h.hydrated
    · intro t ht hwrites
      obtain ⟨horder, hset⟩ := h.writers t ht hwrites
      refine ⟨horder, fun r hr hsubmits => ?_⟩
      rcases hcases hr with hr | rfl
      · exact hset r hr hsubmits
      · obtain ⟨o, -, -, hid⟩ := horder
        rw [hid] at hsubmits
        obtain ⟨htype, -, horderId⟩ := hrow hsubmits
        exact ((hsubmit htype).2.2.2 t ht hwrites (by rw [hid, horderId])).elim

/-- A new order with its submission. -/
lemma Submissions.placed (h : Submissions ⟨db, tasks⟩) {orderId : Uuid}
    (hid : ∀ r ∈ db.orders, r.id ≠ orderId) (env : Surroundings) (accountId : Uuid)
    (body : PlaceOrderRequest) (q : Decimal) (p : Option Decimal) :
    Submissions ⟨db.placed env accountId orderId body q p, tasks⟩ := by
  set mode := db.exchangeMode accountId
  set o := newOrder orderId accountId orderId.simple body.symbol body.side body.orderType q p mode
  have hcases {o' : OrderRecord} (ho' : o' ∈ db.orders ++ [o]) : o' ∈ db.orders ∨ o' = o := by
    simpa using ho'
  -- no command names the order yet
  have hnone {r : CommandRecord} (hr : r ∈ db.exchangeCommands) {a : Uuid} :
      ¬ r.Submits a (some orderId) := by
    intro hsubmits
    obtain ⟨o', ho', hsubmits'⟩ := h.owner r hr hsubmits.1
    exact hid o' ho' (Option.some.inj (hsubmits'.2.2.symm.trans hsubmits.2.2))
  have hordered : Submissions ⟨{ db with orders := db.orders ++ [o] }, tasks⟩ := by
    constructor
    · exact h.ids
    · intro r hr htype
      obtain ⟨o', ho', hsubmits⟩ := h.owner r hr htype
      exact ⟨o', List.mem_append_left _ ho', hsubmits⟩
    · intro r hr r' hr' o' ho' hsubmits hsubmits'
      rcases hcases ho' with ho' | rfl
      · exact h.one r hr r' hr' o' ho' hsubmits hsubmits'
      · exact (hnone hr hsubmits).elim
    · exact h.known
    · exact h.leased
    · exact h.apart
    · intro r hr o' ho' hsubmits hunsent
      rcases hcases ho' with ho' | rfl
      · exact h.unsent r hr o' ho' hsubmits hunsent
      · rfl
    · exact h.names
    · exact h.hydrated
    · intro t ht hwrites
      obtain ⟨⟨o', ho', hnames⟩, hset⟩ := h.writers t ht hwrites
      exact ⟨⟨o', List.mem_append_left _ ho', hnames⟩, hset⟩
  have hsubmitted := hordered.enqueue .submitOrder accountId orderId (fun _ => ?_) mode
    (toString orderId ++ ":submit")
  · exact hsubmitted.congr rfl rfl
  · refine ⟨⟨o, by simp, rfl, rfl⟩, fun o' ho' hid' => ?_, fun r hr => hnone hr, ?_⟩
    · rcases hcases ho' with ho' | rfl
      · exact (hid o' ho' hid').elim
      · rfl
    · intro t ht hwrites hnames
      obtain ⟨⟨o', ho', -, hid'⟩, -⟩ := h.writers t ht hwrites
      exact hid o' ho' (Option.some.inj (hid'.symm.trans hnames))

/-- Workers may crash, or be done. -/
lemma Submissions.sublist (h : Submissions ⟨db, tasks⟩) {tasks' : List Task}
    (hsub : tasks'.Sublist tasks) : Submissions ⟨db, tasks'⟩ := by
  constructor
  · exact h.ids
  · exact h.owner
  · exact h.one
  · exact fun t ht => h.known t (hsub.subset ht)
  · exact fun t ht => h.leased t (hsub.subset ht)
  · exact h.apart.sublist hsub
  · intro r hr o ho hsubmits hunsent
    refine h.unsent r hr o ho hsubmits (hunsent.imp_right ?_)
    rintro ⟨t, ht, hworker⟩
    exact ⟨t, hsub.subset ht, hworker⟩
  · exact fun t ht => h.names t (hsub.subset ht)
  · exact fun t ht => h.hydrated t (hsub.subset ht)
  · exact fun t ht => h.writers t (hsub.subset ht)

variable {front back : List Task}

/-- A worker goes on to the next stage. -/
lemma Submissions.retask (h : Submissions ⟨db, front ++ t :: back⟩) (stage : Stage)
    (hholds : stage.holds = true → t.stage.holds = true)
    (hunsent : stage.unsent = true → ∀ r ∈ db.exchangeCommands, ∀ o ∈ db.orders,
      r.Submits o.accountId (some o.id) → t.cmd.id = r.id → o.status = .pending)
    (hnames : Task.NamesOrder { t with stage } ∧
      ∀ orderId, stage = .rejecting orderId → extractOrderId t.cmd = some orderId)
    (hhydrated : t.cmd.commandType = .submitOrder → ∀ orderId snapshot,
      stage = .hydrated orderId snapshot → snapshot.order.status = .pending)
    (hwriters : Task.writes { t with stage } = true →
      (∃ o ∈ db.orders, o.accountId = t.cmd.accountId ∧ extractOrderId t.cmd = some o.id) ∧
        db.SubmitSettled t.cmd.accountId (extractOrderId t.cmd)) :
    Submissions ⟨db, front ++ { t with stage } :: back⟩ := by
  have hmem {P : Task → Prop} (hnew : P { t with stage })
      (hold : ∀ t' ∈ front ++ t :: back, P t') : ∀ t' ∈ front ++ { t with stage } :: back, P t' := by
    intro t' ht'
    rcases List.mem_append.mp ht' with hfront | hrest
    · exact hold t' (List.mem_append_left _ hfront)
    · rcases List.mem_cons.mp hrest with rfl | hback
      · exact hnew
      · exact hold t' (List.mem_append_right _ (List.mem_cons_of_mem _ hback))
  have ht : t ∈ front ++ t :: back := List.mem_append_right _ (List.mem_cons_self ..)
  constructor
  · exact h.ids
  · exact h.owner
  · exact h.one
  · exact hmem (h.known t ht) h.known
  · exact hmem (fun htype hstage => h.leased t ht htype (hholds hstage)) h.leased
  · have hapart := (List.pairwise_middle Apart.symm).mp h.apart
    refine (List.pairwise_middle Apart.symm).mpr ?_
    obtain ⟨hhead, htail⟩ := List.pairwise_cons.mp hapart
    refine List.pairwise_cons.mpr ⟨fun t' ht' hid htype => ?_, htail⟩
    refine (hhead t' ht' hid htype).imp_left fun hdone => ?_
    by_contra hstage
    rw [Bool.not_eq_false] at hstage
    rw [hholds hstage] at hdone
    cases hdone
  · intro r hr o ho hsubmits hunsent'
    rcases hunsent' with hpending | ⟨t', ht', hid, hstage⟩
    · exact h.unsent r hr o ho hsubmits (.inl hpending)
    · rcases List.mem_append.mp ht' with hfront | hrest
      · exact h.unsent r hr o ho hsubmits (.inr ⟨t', List.mem_append_left _ hfront, hid, hstage⟩)
      · rcases List.mem_cons.mp hrest with rfl | hback
        · exact hunsent hstage r hr o ho hsubmits hid
        · exact h.unsent r hr o ho hsubmits
            (.inr ⟨t', List.mem_append_right _ (List.mem_cons_of_mem _ hback), hid, hstage⟩)
  · exact hmem hnames h.names
  · exact hmem hhydrated h.hydrated
  · exact hmem hwriters h.writers

/-- The status of some commands is written. -/
lemma Submissions.mark (h : Submissions ⟨db, tasks⟩) {p : ℕ → Bool}
    {f : CommandRecord → CommandRecord} (status : CommandStatus)
    (hclaimed : ∀ r, (f r).claimed = r.claimed) (hstatus : ∀ r, (f r).status = status)
    (hfree : status ≠ .leased → ∀ t ∈ tasks, p t.cmd.id = true → t.cmd.commandType = .submitOrder →
      t.stage.holds = false)
    (hopen : status.isSettled = false → ∀ r ∈ db.exchangeCommands, p r.id = true →
      r.commandType = .submitOrder → r.status.isSettled = false)
    (hpending : status = .pending → ∀ r ∈ db.exchangeCommands, ∀ o ∈ db.orders, p r.id = true →
      r.Submits o.accountId (some o.id) → o.status = .pending) :
    Submissions ⟨{ db with
      exchangeCommands := updateWhere (fun r => p r.id) f db.exchangeCommands }, tasks⟩ := by
  have hid (r : CommandRecord) : (f r).id = r.id := congrArg ClaimedCommand.id (hclaimed r)
  have htype (r : CommandRecord) : (f r).commandType = r.commandType :=
    congrArg ClaimedCommand.commandType (hclaimed r)
  have hsubmits (r : CommandRecord) (a : Uuid) (i : Option Uuid) :
      (f r).Submits a i ↔ r.Submits a i := by
    have haccount : (f r).accountId = r.accountId :=
      congrArg ClaimedCommand.accountId (hclaimed r)
    simp only [CommandRecord.Submits, htype, haccount, hclaimed]
  -- a row of the new table is an old one, marked or not
  have hold {r' : CommandRecord}
      (hr' : r' ∈ updateWhere (fun r => p r.id) f db.exchangeCommands) :
      ∃ r ∈ db.exchangeCommands, r'.id = r.id ∧ r'.commandType = r.commandType ∧
        (∀ a i, r'.Submits a i ↔ r.Submits a i) ∧
        ((p r.id = true ∧ r'.status = status) ∨ (p r.id = false ∧ r'.status = r.status)) := by
    obtain ⟨r, hr, rfl⟩ := mem_updateWhere.mp hr'
    refine ⟨r, hr, ?_⟩
    by_cases hp : p r.id = true
    · rw [if_pos hp]
      exact ⟨hid r, htype r, hsubmits r, .inl ⟨hp, hstatus r⟩⟩
    · rw [if_neg hp]
      exact ⟨rfl, rfl, fun _ _ => Iff.rfl, .inr ⟨by simpa using hp, rfl⟩⟩
  constructor
  · have hids : (updateWhere (fun r => p r.id) f db.exchangeCommands).map (·.id) =
        db.exchangeCommands.map (·.id) := map_updateWhere hid
    simpa only [hids] using h.ids
  · intro r' hr' hsubmit
    obtain ⟨r, hr, -, htype', hsame, -⟩ := hold hr'
    obtain ⟨o, ho, howner⟩ := h.owner r hr (htype' ▸ hsubmit)
    exact ⟨o, ho, (hsame _ _).mpr howner⟩
  · intro r hr r' hr' o ho hone hone'
    obtain ⟨r₁, hr₁, hid₁, -, hsame₁, -⟩ := hold hr
    obtain ⟨r₂, hr₂, hid₂, -, hsame₂, -⟩ := hold hr'
    rw [hid₁, hid₂]
    exact h.one r₁ hr₁ r₂ hr₂ o ho ((hsame₁ _ _).mp hone) ((hsame₂ _ _).mp hone')
  · intro t ht
    obtain ⟨r, hr, hknown⟩ := h.known t ht
    refine ⟨_, mem_updateWhere.mpr ⟨r, hr, rfl⟩, ?_⟩
    split_ifs
    · rw [hclaimed, hknown]
    · exact hknown
  · intro t ht hsubmit hstage r' hr' hrow
    obtain ⟨r, hr, hid', -, -, hmarked | hkept⟩ := hold hr'
    · rw [hmarked.2]
      by_contra hne
      have hdone := hfree hne t ht (by rw [← hrow, hid']; exact hmarked.1) hsubmit
      rw [hstage] at hdone
      cases hdone
    · rw [hkept.2]
      exact h.leased t ht hsubmit hstage r hr (by rw [← hid', hrow])
  · exact h.apart
  · intro r' hr' o ho hone hunsent
    obtain ⟨r, hr, hid', -, hsame, hrow⟩ := hold hr'
    have hone := (hsame _ _).mp hone
    rcases hunsent with hwaits | ⟨t, ht, htid, hstage⟩
    · rcases hrow with hmarked | hkept
      · exact hpending (hmarked.2.symm.trans hwaits) r hr o ho hmarked.1 hone
      · exact h.unsent r hr o ho hone (.inl (hkept.2.symm.trans hwaits))
    · exact h.unsent r hr o ho hone (.inr ⟨t, ht, htid.trans hid', hstage⟩)
  · exact h.names
  · exact h.hydrated
  · intro t ht hwrites
    obtain ⟨horder, hset⟩ := h.writers t ht hwrites
    refine ⟨horder, fun r' hr' hone => ?_⟩
    obtain ⟨r, hr, -, -, hsame, hrow⟩ := hold hr'
    have hsettled := hset r hr ((hsame _ _).mp hone)
    rcases hrow with hmarked | hkept
    · rw [hmarked.2]
      by_contra hunsettled
      have hwas := hopen (by simpa using hunsettled) r hr hmarked.1 ((hsame _ _).mp hone).1
      rw [hsettled] at hwas
      cases hwas
    · rw [hkept.2]
      exact hsettled

/-- Workers that have just claimed commands. -/
lemma Submissions.claim (h : Submissions ⟨db, tasks⟩) {added : List Task}
    (hstage : ∀ t ∈ added, t.stage = .claimed)
    (hknown : ∀ t ∈ added, ∃ r ∈ db.exchangeCommands, r.claimed = t.cmd ∧ r.status = .leased)
    (hdistinct : added.Pairwise fun t t' => t.cmd.id ≠ t'.cmd.id)
    (hfree : ∀ t ∈ tasks, ∀ t' ∈ added, t.cmd.id = t'.cmd.id → t'.cmd.commandType = .submitOrder →
      t.stage.holds = false)
    (hunsent : ∀ t ∈ added, ∀ r ∈ db.exchangeCommands, ∀ o ∈ db.orders, t.cmd.id = r.id →
      r.Submits o.accountId (some o.id) → o.status = .pending) :
    Submissions ⟨db, tasks ++ added⟩ := by
  have hmem {P : Task → Prop} (hnew : ∀ t ∈ added, P t) (hold : ∀ t ∈ tasks, P t) :
      ∀ t ∈ tasks ++ added, P t := by
    intro t ht
    rcases List.mem_append.mp ht with ht | ht
    · exact hold t ht
    · exact hnew t ht
  constructor
  · exact h.ids
  · exact h.owner
  · exact h.one
  · refine hmem (fun t ht => ?_) h.known
    obtain ⟨r, hr, hclaimed, -⟩ := hknown t ht
    exact ⟨r, hr, hclaimed⟩
  · refine hmem (fun t ht _ _ r hr hid => ?_) h.leased
    obtain ⟨r', hr', hclaimed, hleased⟩ := hknown t ht
    have hid' : r'.id = t.cmd.id := congrArg ClaimedCommand.id hclaimed
    obtain rfl := List.inj_on_of_nodup_map h.ids hr hr' (hid.trans hid'.symm)
    exact hleased
  · refine List.pairwise_append.mpr ⟨h.apart, ?_, ?_⟩
    · exact hdistinct.imp fun hne hid => (hne hid).elim
    · intro t ht t' ht' hid htype
      refine .inl (hfree t ht t' ht' hid ?_)
      -- both commands are the row with this identifier
      obtain ⟨r, hr, hclaimed⟩ := h.known t ht
      obtain ⟨r', hr', hclaimed', -⟩ := hknown t' ht'
      have hrow : r.id = r'.id :=
        (congrArg ClaimedCommand.id hclaimed).trans
          (hid.trans (congrArg ClaimedCommand.id hclaimed').symm)
      obtain rfl := List.inj_on_of_nodup_map h.ids hr hr' hrow
      rw [← hclaimed, hclaimed', or_self] at htype
      exact htype
  · intro r hr o ho hsubmits hwaits
    rcases hwaits with hpending | ⟨t, ht, hid, hstage'⟩
    · exact h.unsent r hr o ho hsubmits (.inl hpending)
    · rcases List.mem_append.mp ht with ht | ht
      · exact h.unsent r hr o ho hsubmits (.inr ⟨t, ht, hid, hstage'⟩)
      · exact hunsent t ht r hr o ho hid hsubmits
  · refine hmem (fun t ht => ⟨?_, fun orderId hrejecting => ?_⟩) h.names
    · rw [Task.NamesOrder, hstage t ht]
      trivial
    · rw [hstage t ht] at hrejecting
      cases hrejecting
  · refine hmem (fun t ht _ orderId snapshot hhydrated => ?_) h.hydrated
    rw [hstage t ht] at hhydrated
    cases hhydrated
  · refine hmem (fun t ht hwrites => ?_) h.writers
    rw [Task.writes, hstage t ht] at hwrites
    cases hwrites

/-! ### Orders that no worker will send -/

lemma Stage.holds_of_unsent {stage : Stage} (h : stage.unsent = true) : stage.holds = true := by
  cases stage with
  | rejecting orderId => cases h
  | auditing reason => cases h
  | _ => rfl

/-- No worker holds a submission that is settled. -/
lemma Submissions.unsent_of_settled (h : Submissions ⟨db, tasks⟩) {r : CommandRecord}
    (hr : r ∈ db.exchangeCommands) (htype : r.commandType = .submitOrder)
    (hsettled : r.status.isSettled = true) :
    r.status ≠ .pending ∧ ∀ t ∈ tasks, t.cmd.id = r.id → t.stage.unsent = false := by
  refine ⟨?_, fun t ht hid => ?_⟩
  · intro hpending
    rw [hpending] at hsettled
    cases hsettled
  by_contra hunsent
  rw [Bool.not_eq_false] at hunsent
  obtain ⟨r', hr', hclaimed⟩ := h.known t ht
  obtain rfl := List.inj_on_of_nodup_map h.ids hr hr'
    (hid.symm.trans (congrArg ClaimedCommand.id hclaimed).symm)
  have htype' : t.cmd.commandType = .submitOrder := by rw [← hclaimed]; exact htype
  have hleased := h.leased t ht htype' (Stage.holds_of_unsent hunsent) r hr hid.symm
  rw [hleased] at hsettled
  cases hsettled

/-- While a worker holds the submission of an order, no other worker can send the order. -/
lemma Submissions.unsent_of_holds (h : Submissions ⟨db, front ++ t :: back⟩)
    (htype : t.cmd.commandType = .submitOrder) (hholds : t.stage.holds = true) {r : CommandRecord}
    (hr : r ∈ db.exchangeCommands) (hsubmits : r.Submits t.cmd.accountId (extractOrderId t.cmd)) :
    r.id = t.cmd.id ∧ r.status ≠ .pending ∧
      ∀ t' ∈ front ++ back, t'.cmd.id = r.id → t'.stage.holds = false := by
  have ht : t ∈ front ++ t :: back := List.mem_append_right _ (List.mem_cons_self ..)
  obtain ⟨r', hr', hclaimed⟩ := h.known t ht
  have htype' : r'.commandType = .submitOrder :=
    (congrArg ClaimedCommand.commandType hclaimed).trans htype
  obtain ⟨o, ho, howner⟩ := h.owner r' hr' htype'
  obtain ⟨-, haccount, horder⟩ := (submits_of_claimed hclaimed).mp howner
  rw [haccount, horder] at hsubmits
  have hid : r.id = t.cmd.id :=
    (h.one r hr r' hr' o ho hsubmits howner).trans (congrArg ClaimedCommand.id hclaimed)
  refine ⟨hid, ?_, fun t' ht' hid' => ?_⟩
  · rw [h.leased t ht htype hholds r hr hid]
    simp
  · obtain ⟨hapart, -⟩ := List.pairwise_cons.mp ((List.pairwise_middle Apart.symm).mp h.apart)
    rcases hapart t' ht' (hid.symm.trans hid'.symm) (.inl htype) with hdone | hdone
    · rw [hholds] at hdone
      cases hdone
    · exact hdone

/-- The order of a worker that may write it can move. -/
lemma Submissions.movedIfLegal (h : Submissions ⟨db, tasks⟩) {accountId orderId : Uuid}
    (hsent : ∀ r ∈ db.exchangeCommands, r.Submits accountId (some orderId) →
      r.status ≠ .pending ∧ ∀ t ∈ tasks, t.cmd.id = r.id → t.stage.unsent = false)
    {o : OrderRecord} {status : OrderStatus} (ho : db.order? accountId orderId = some o)
    (hmove : db.MovedIfLegal o status db') : Submissions ⟨db', tasks⟩ := by
  obtain ⟨-, rfl, rfl⟩ := Db.mem_of_order? ho
  unfold Db.MovedIfLegal at hmove
  split_ifs at hmove with hlegal
  · obtain ⟨q, -, -, -, rfl⟩ := hmove
    exact h.move hsent rfl rfl
  · rw [hmove]
    exact h

/-! ### The steps of a worker -/

/-- A worker that is done with its command, or has nothing left to do but to write an event. -/
lemma Submissions.done (h : Submissions ⟨db, front ++ t :: back⟩) :
    Submissions ⟨db, front ++ back⟩ :=
  h.sublist (List.Sublist.append_left (List.sublist_cons_self ..) _)

lemma Submissions.audit (h : Submissions ⟨db, front ++ t :: back⟩) (reason : Option String) :
    Submissions ⟨db, front ++ { t with stage := .auditing reason } :: back⟩ :=
  h.retask (.auditing reason) (fun hholds => nomatch hholds) (fun hunsent => nomatch hunsent)
    ⟨trivial, by simp⟩ (by simp) (fun hwrites => nomatch hwrites)

/-- Only the worker itself holds its submission. -/
lemma Submissions.others_done (h : Submissions ⟨db, front ++ t :: back⟩)
    (hholds : t.stage.holds = true) {t' : Task} (ht' : t' ∈ front ++ back)
    (hid : t'.cmd.id = t.cmd.id) (htype : t'.cmd.commandType = .submitOrder) :
    t'.stage.holds = false := by
  obtain ⟨hapart, -⟩ := List.pairwise_cons.mp ((List.pairwise_middle Apart.symm).mp h.apart)
  rcases hapart t' ht' hid.symm (.inr htype) with hdone | hdone
  · rw [hholds] at hdone
    cases hdone
  · exact hdone

/-- The worker settles its command and has nothing left to do but to write an event. -/
lemma Submissions.settle (h : Submissions ⟨db, front ++ t :: back⟩)
    (status : CommandStatus) (hholds : t.stage.holds = true) (hsettled : status.isSettled = true)
    (reason : Option String) :
    Submissions ⟨db.withCommandStatus t.cmd.id status,
      front ++ { t with stage := .auditing reason } :: back⟩ := by
  refine (h.audit reason).mark (p := fun i => decide (i = t.cmd.id)) status (fun _ => rfl) (fun _ => rfl)
    (fun _ t' ht' hid htype => ?_) (fun hunsettled => ?_) (fun hpending => ?_)
  · have hid : t'.cmd.id = t.cmd.id := by simpa using hid
    rcases List.mem_append.mp ht' with hfront | hrest
    · exact h.others_done hholds (List.mem_append_left _ hfront) hid htype
    · rcases List.mem_cons.mp hrest with rfl | hback
      · rfl
      · exact h.others_done hholds (List.mem_append_right _ hback) hid htype
  · rw [hsettled] at hunsettled
    cases hunsettled
  · rw [hpending] at hsettled
    cases hsettled

/-- The worker gives its command back. -/
lemma Submissions.requeue (h : Submissions ⟨db, front ++ t :: back⟩)
    (hunsent : t.stage.unsent = true) :
    Submissions ⟨db.requeued t.cmd.id, front ++ back⟩ := by
  have hholds := Stage.holds_of_unsent hunsent
  have ht : t ∈ front ++ t :: back := List.mem_append_right _ (List.mem_cons_self ..)
  refine h.done.mark (p := fun i => decide (i = t.cmd.id)) .pending (fun _ => rfl)
    (fun _ => rfl) (fun _ t' ht' hid htype => ?_) (fun _ r hr hid htype => ?_)
    (fun _ r hr o ho hid hsubmits => ?_)
  · exact h.others_done hholds ht' (by simpa using hid) htype
  · have hid : r.id = t.cmd.id := by simpa using hid
    obtain ⟨r', hr', hclaimed⟩ := h.known t ht
    obtain rfl := List.inj_on_of_nodup_map h.ids hr hr'
      (hid.trans (congrArg ClaimedCommand.id hclaimed).symm)
    have htype' : t.cmd.commandType = .submitOrder := by rw [← hclaimed]; exact htype
    rw [h.leased t ht htype' hholds r hr hid]
    rfl
  · have hid : r.id = t.cmd.id := by simpa using hid
    exact h.unsent r hr o ho hsubmits (.inr ⟨t, ht, hid.symm, hunsent⟩)

/-- The order of the command, and its submission as far as it is settled with the command. -/
lemma Submissions.order_of_submit (h : Submissions ⟨db, front ++ t :: back⟩)
    (htype : t.cmd.commandType = .submitOrder) (hholds : t.stage.holds = true)
    {status : CommandStatus} (hsettled : status.isSettled = true) :
    (∃ o ∈ db.orders, o.accountId = t.cmd.accountId ∧ extractOrderId t.cmd = some o.id) ∧
      (db.withCommandStatus t.cmd.id status).SubmitSettled t.cmd.accountId
        (extractOrderId t.cmd) := by
  have ht : t ∈ front ++ t :: back := List.mem_append_right _ (List.mem_cons_self ..)
  constructor
  · obtain ⟨r, hr, hclaimed⟩ := h.known t ht
    obtain ⟨o, ho, howner⟩ := h.owner r hr
      ((congrArg ClaimedCommand.commandType hclaimed).trans htype)
    obtain ⟨-, haccount, horder⟩ := (submits_of_claimed hclaimed).mp howner
    exact ⟨o, ho, haccount.symm, horder⟩
  · intro r' hr' hsubmits
    obtain ⟨r, hr, rfl⟩ := mem_updateWhere.mp hr'
    by_cases hid : r.id = t.cmd.id
    · rw [if_pos (by simpa using hid)]
      exact hsettled
    · rw [if_neg (by simpa using hid)] at hsubmits
      exact (hid (h.unsent_of_holds htype hholds hr hsubmits).1).elim

/-- Every step of a worker keeps the invariant. -/
theorem WorkerStep.submissions {supervisor : Supervisor}
    (h : WorkerStep supervisor t.cmd db t.stage next db')
    (hs : Submissions ⟨db, front ++ t :: back⟩)
    (hok : t.stage.isClaimed = true → t.cmd.commandType ≠ .submitOrder →
      db.SubmitSettled t.cmd.accountId (extractOrderId t.cmd)) :
    Submissions
      ⟨db', front ++ (next.map fun stage => { t with stage }).toList ++ back⟩ := by
  have ht : t ∈ front ++ t :: back := List.mem_append_right _ (List.mem_cons_self ..)
  have hnames := fun (stage : Stage) (hnext : next = some stage) => h.namesOrder (hs.names t ht).1 hnext
  obtain ⟨cmd, lease, before⟩ := t
  cases h with
  | noAdapter hadapter =>
    have hsettled := hs.settle .reconciliationRequired rfl rfl (some Confluence.noAdapter)
    simpa using hsettled
  | notHydrated hadapter hnone =>
    have hnext := hs.retask (.dispatched (.error .reconciliationRequired))
      (fun _ => rfl) (fun hunsent => nomatch hunsent) ⟨trivial, by simp⟩ (by simp)
      (fun hwrites => nomatch hwrites)
    simpa using hnext
  | @hydrated orderId o hadapter horder htype ho =>
    obtain ⟨hmem, hid, haccount⟩ := Db.mem_of_order? ho
    have hnext := hs.retask (.hydrated orderId (db.reconcileSnapshot o)) (fun _ => rfl)
      (fun _ r hr o' ho' hsubmits hrow => ?_) ⟨hnames _ rfl, by simp⟩
      (fun hsubmit orderId' snapshot hstage => ?_) (fun hwrites => ?_)
    · simpa using hnext
    · exact hs.unsent r hr o' ho' hsubmits (.inr ⟨_, ht, hrow, rfl⟩)
    · obtain ⟨-, rfl⟩ := Stage.hydrated.inj hstage
      obtain ⟨r, hr, hclaimed⟩ := hs.known _ ht
      refine hs.unsent r hr o hmem ?_ (.inr ⟨_, ht, ?_, rfl⟩)
      · rw [hid, haccount]
        exact (submits_of_claimed hclaimed).mpr ⟨hsubmit, rfl, horder⟩
      · exact (congrArg ClaimedCommand.id hclaimed).symm
    · have hsubmit : cmd.commandType ≠ .submitOrder := by simpa [Task.writes] using hwrites
      exact ⟨⟨o, hmem, haccount, by rw [hid]; exact horder⟩, hok rfl hsubmit⟩
  | @called adapter orderId snapshot hadapter =>
    have hid : extractOrderId cmd = some orderId := (hs.names _ ht).1.1
    have hnext := hs.retask (callAdapter cmd adapter orderId snapshot) (fun _ => rfl)
      (fun _ r hr o ho hsubmits hrow => ?_) ⟨hnames _ rfl, fun orderId' hstage => ?_⟩
      (fun hsubmit orderId' snapshot' hstage => ?_) (fun hwrites => ?_)
    · simpa using hnext
    · exact hs.unsent r hr o ho hsubmits (.inr ⟨_, ht, hrow, rfl⟩)
    · rcases callAdapter_cases cmd adapter orderId snapshot with
        ⟨e, hcall⟩ | ⟨-, hcall⟩ | ⟨-, result, -, hcall⟩ <;> rw [hcall] at hstage <;> cases hstage
    · rcases callAdapter_cases cmd adapter orderId snapshot with
        ⟨e, hcall⟩ | ⟨-, hcall⟩ | ⟨-, result, -, hcall⟩ <;> rw [hcall] at hstage <;> cases hstage
    · have hother : cmd.commandType ≠ .submitOrder := by
        rcases callAdapter_cases cmd adapter orderId snapshot with
          ⟨e, hcall⟩ | ⟨-, hcall⟩ | ⟨htype, result, -, hcall⟩
        · rw [hcall] at hwrites
          cases e with
          | permanentlyRejected => simpa [Task.writes] using hwrites
          | retry => cases hwrites
          | reconciliationRequired => cases hwrites
        · rw [hcall] at hwrites
          simpa [Task.writes] using hwrites
        · rw [htype]
          simp
      exact hs.writers _ ht (by simpa [Task.writes] using hother)
  | @submitted orderId o db₁ htype ho hmove =>
    have hid : extractOrderId cmd = some orderId := (hs.names _ ht).1
    have hnext := hs.retask (.dispatched (.ok ())) (fun _ => rfl)
      (fun hunsent => nomatch hunsent) ⟨trivial, by simp⟩ (by simp) (fun hwrites => nomatch hwrites)
    have hmoved := hnext.movedIfLegal (fun r hr hsubmits => ?_) ho hmove
    · obtain ⟨orders, rfl⟩ := hmove.frame
      have henqueued := hmoved.enqueue .reconcileOrder cmd.accountId orderId
        (fun htype => nomatch htype) cmd.exchangeMode (toString orderId ++ ":reconcile:initial")
      simpa using henqueued
    · rw [← hid] at hsubmits
      obtain ⟨-, hpending, hothers⟩ := hs.unsent_of_holds htype rfl hr hsubmits
      have hnot {t' : Task} (ht' : t' ∈ front ++ back) (hid' : t'.cmd.id = r.id) :
          t'.stage.unsent = false := by
        by_contra hunsent
        have hholds := Stage.holds_of_unsent (by simpa using hunsent)
        rw [hothers t' ht' hid'] at hholds
        cases hholds
      refine ⟨hpending, fun t' ht' hid' => ?_⟩
      rcases List.mem_append.mp ht' with hfront | hrest
      · exact hnot (List.mem_append_left _ hfront) hid'
      · rcases List.mem_cons.mp hrest with rfl | hback
        · rfl
        · exact hnot (List.mem_append_right _ hback) hid'
  | @cancelled orderId o db₁ riskEvents htype ho hmove =>
    have hid : extractOrderId cmd = some orderId := (hs.names _ ht).1
    have htype : cmd.commandType = .cancelOrder := htype
    obtain ⟨-, hset⟩ := hs.writers _ ht (by simp [Task.writes, htype])
    have hnext := hs.retask (.dispatched (.ok ())) (fun _ => rfl)
      (fun hunsent => nomatch hunsent) ⟨trivial, by simp⟩ (by simp) (fun hwrites => nomatch hwrites)
    have hmoved := hnext.movedIfLegal (fun r hr hsubmits => hnext.unsent_of_settled hr hsubmits.1
      (hset r hr (by rw [hid]; exact hsubmits))) ho hmove
    obtain ⟨orders, rfl⟩ := hmove.frame
    have henqueued := hmoved.enqueue .reconcileOrder cmd.accountId orderId
      (fun htype => nomatch htype) cmd.exchangeMode (toString orderId ++ ":reconcile:post-cancel")
    simp only [Option.map_some, Option.toList_some, List.append_assoc, List.singleton_append]
    exact henqueued.congr rfl rfl
  | @notAccepted orderId e hrejected =>
    have hnext := hs.retask (.dispatched (.error e)) (fun _ => rfl)
      (fun _ r hr o ho hsubmits hrow => ?_) ⟨trivial, by simp⟩ (by simp) (fun hwrites => ?_)
    · simpa using hnext
    · exact hs.unsent r hr o ho hsubmits (.inr ⟨_, ht, hrow, rfl⟩)
    · cases e with
      | permanentlyRejected => exact (hrejected rfl).elim
      | retry => cases hwrites
      | reconciliationRequired => cases hwrites
  | @persisted orderId snapshot result _ hcommit =>
    have hid : extractOrderId cmd = some orderId := (hs.names _ ht).1
    obtain ⟨-, hset⟩ := hs.writers _ ht rfl
    have hnext := hs.retask (.dispatched (.ok ())) (fun _ => rfl)
      (fun hunsent => nomatch hunsent) ⟨trivial, by simp⟩ (by simp) (fun hwrites => nomatch hwrites)
    have hsent := fun r hr (hsubmits : r.Submits cmd.accountId (some orderId)) =>
      hnext.unsent_of_settled hr hsubmits.1 (hset r hr (by rw [hid]; exact hsubmits))
    obtain ⟨o, _, orderFills, positions, db₁, riskEvents, ho, -, -, -, -, -, hstatus, rfl⟩ :=
      of_commits_persistReconcileResultTx hcommit
    obtain ⟨-, rfl, haccount⟩ := Db.mem_of_order? ho
    have hmoved : Submissions ⟨{ db₁ with riskEvents }, front ++
        { cmd, lease, stage := .dispatched (.ok ()) } :: back⟩ := by
      cases hnew : result.newStatus with
      | none =>
        rw [hnew] at hstatus
        rw [show db₁ = _ from hstatus]
        exact hnext.congr rfl rfl
      | some status =>
        rw [hnew] at hstatus
        obtain ⟨-, q, -, -, -, rfl⟩ := hstatus
        rw [haccount]
        exact hnext.move hsent rfl rfl
    simpa using hmoved
  | @notPersisted orderId snapshot result outcome herror hrejected =>
    obtain ⟨horder, hset⟩ := hs.writers _ ht rfl
    have hnext := hs.retask (.dispatched outcome) (fun _ => rfl)
      (fun _ r hr o ho hsubmits hrow => ?_) ⟨trivial, by simp⟩ (by simp) (fun hwrites => ?_)
    · simpa using hnext
    · -- the submission would be leased and settled
      obtain ⟨r', hr', hclaimed⟩ := hs.known _ ht
      obtain rfl := List.inj_on_of_nodup_map hs.ids hr hr'
        (hrow.symm.trans (congrArg ClaimedCommand.id hclaimed).symm)
      obtain ⟨htype, haccount, hid⟩ := (submits_of_claimed hclaimed).mp hsubmits
      have hleased := hs.leased _ ht htype rfl r hr hrow.symm
      have hsettled := hset r hr ((submits_of_claimed hclaimed).mpr ⟨htype, rfl, rfl⟩)
      rw [hleased] at hsettled
      cases hsettled
    · match outcome with
      | .ok () => cases hwrites
      | .error .retry => cases hwrites
      | .error .reconciliationRequired => cases hwrites
      | .error .permanentlyRejected => exact (hrejected _ rfl rfl).elim
  | delivered =>
    have hsettled := (hs.settle .delivered rfl rfl none).done
    simpa using hsettled
  | requeued =>
    have hrequeued := hs.requeue rfl
    simpa using hrequeued
  | permanentlyRejected =>
    have hsettled := hs.settle .permanentlyRejected rfl rfl none
    cases hid : extractOrderId cmd with
    | none => simpa using hsettled.done
    | some orderId =>
      have hnext := hsettled.retask (.rejecting orderId) (fun hholds => nomatch hholds)
        (fun hunsent => nomatch hunsent) ⟨trivial, fun orderId' hstage => ?_⟩ (by simp)
        (fun _ => ?_)
      · simpa [hid] using hnext
      · rw [← Stage.rejecting.inj hstage]
        exact hid
      · by_cases htype : cmd.commandType = .submitOrder
        · exact hs.order_of_submit htype rfl rfl
        · obtain ⟨horder, hset⟩ := hs.writers _ ht (by simpa [Task.writes] using htype)
          refine ⟨horder, fun r' hr' hsubmits => ?_⟩
          obtain ⟨r, hr, rfl⟩ := mem_updateWhere.mp hr'
          split_ifs at hsubmits ⊢
          · rfl
          · exact hset r hr hsubmits
  | reconciliationRequired =>
    have hsettled := hs.settle .reconciliationRequired rfl rfl none
    simpa using hsettled
  | @rejected orderId db₁ riskEvents hmove =>
    have hid : extractOrderId cmd = some orderId := (hs.names _ ht).2 orderId rfl
    obtain ⟨horder, hset⟩ := hs.writers _ ht rfl
    have hdone := hs.done
    have hmoved : Submissions ⟨db₁, front ++ back⟩ := by
      rcases hmove with rfl | ⟨o, ho, hmove⟩
      · exact hdone
      · exact hdone.movedIfLegal (fun r hr hsubmits => hdone.unsent_of_settled hr hsubmits.1
          (hset r hr (by rw [hid]; exact hsubmits))) ho hmove
    have hevents : Submissions ⟨{ db₁ with riskEvents }, front ++ back⟩ := hmoved.congr rfl rfl
    simpa using hevents
  | @audited reason riskEvents =>
    have hevents : Submissions ⟨{ db with riskEvents }, front ++ back⟩ := hs.done.congr rfl rfl
    simpa using hevents

/-! ### Every step -/

/-- A claim hands out submissions of pending orders, one at a time. -/
lemma Submissions.claimed (h : Submissions ⟨db, tasks⟩) {limit : ℕ} {locked : List ℕ}
    (hok : KeepsSubmissions ⟨db, tasks⟩ (.claim limit locked)) :
    Submissions ⟨db.leased (db.claimCandidates limit locked),
      tasks ++ newTasks db.now (db.claimedCommands limit locked)⟩ := by
  set ids := db.claimCandidates limit locked with hids
  have hclaimable {r : CommandRecord} (hr : r ∈ db.exchangeCommands) (hid : r.id ∈ ids) :
      r.status = .pending ∨ r.status = .leased := by
    obtain ⟨r', hr', hclaimable, hid'⟩ := mem_claimCandidates hid
    obtain rfl := List.inj_on_of_nodup_map h.ids hr' hr hid'
    rw [CommandRecord.claimable, Bool.or_eq_true, Bool.and_eq_true, decide_eq_true_eq,
      decide_eq_true_eq] at hclaimable
    exact hclaimable.imp_right And.left
  have hnew {t : Task} (ht : t ∈ newTasks db.now (db.claimedCommands limit locked)) :
      t.stage = .claimed ∧ ∃ r ∈ db.exchangeCommands, r.id ∈ ids ∧ r.claimed = t.cmd := by
    obtain ⟨cmd, hcmd, rfl⟩ := List.mem_map.mp ht
    exact ⟨rfl, mem_claimedCommands hcmd⟩
  have hmarked : Submissions ⟨db.leased ids, tasks⟩ := by
    refine h.mark (p := fun i => ids.contains i) .leased (fun _ => rfl) (fun _ => rfl)
      (fun hne => (hne rfl).elim) (fun _ r hr hid _ => ?_) (fun hpending => nomatch hpending)
    rcases hclaimable hr (List.contains_iff_mem.mp hid) with hstatus | hstatus
    · rw [hstatus]
      rfl
    · rw [hstatus]
      rfl
  refine hmarked.claim (fun t ht => (hnew ht).1) (fun t ht => ?_) ?_ (fun t ht t' ht' hid htype => ?_)
    (fun t ht r' hr' o ho hid hsubmits => ?_)
  · obtain ⟨-, r, hr, hid, hclaimed⟩ := hnew ht
    refine ⟨_, mem_updateWhere.mpr ⟨r, hr, rfl⟩, ?_⟩
    rw [if_pos (List.contains_iff_mem.mpr hid)]
    exact ⟨hclaimed, rfl⟩
  · simp only [newTasks, Db.claimedCommands, List.map_map, List.pairwise_map]
    have hdistinct : db.exchangeCommands.Pairwise fun r r' => r.id ≠ r'.id :=
      List.pairwise_map.mp h.ids
    exact hdistinct.filter _
  · obtain ⟨-, r, hr, hrow, hclaimed⟩ := hnew ht'
    have hid' : t.cmd.id = r.id := hid.trans (congrArg ClaimedCommand.id hclaimed).symm
    have htype' : r.commandType = .submitOrder :=
      (congrArg ClaimedCommand.commandType hclaimed).trans htype
    rcases hclaimable hr hrow with hpending | hleased
    · -- a worker that holds it has leased it
      by_contra hholds
      obtain ⟨r₀, hr₀, hclaimed₀⟩ := h.known t ht
      obtain rfl := List.inj_on_of_nodup_map h.ids hr₀ hr
        ((congrArg ClaimedCommand.id hclaimed₀).trans hid')
      have hleased := h.leased t ht ((congrArg ClaimedCommand.commandType hclaimed₀).symm.trans htype')
        (by simpa using hholds) r₀ hr₀ hid'.symm
      rw [hpending] at hleased
      cases hleased
    · exact (hok r hr hrow htype' hleased).1 t ht hid'
  · obtain ⟨-, r, hr, hrow, hclaimed⟩ := hnew ht
    obtain ⟨r₁, hr₁, rfl⟩ := mem_updateWhere.mp hr'
    have hid₁ : r₁.id = r.id := by
      have hid' := (congrArg ClaimedCommand.id hclaimed).trans hid
      split_ifs at hid' with hp
      · exact hid'.symm
      · exact hid'.symm
    obtain rfl := List.inj_on_of_nodup_map h.ids hr₁ hr hid₁
    have hsubmits : r₁.Submits o.accountId (some o.id) := by
      split_ifs at hsubmits with hp
      · exact hsubmits
      · exact hsubmits
    rcases hclaimable hr hrow with hpending | hleased
    · exact h.unsent r₁ hr o ho hsubmits (.inl hpending)
    · exact (hok r₁ hr hrow hsubmits.1 hleased).2 o ho hsubmits

/-- Every step that meets the condition keeps the invariant. -/
theorem Submissions.step {s s' : Server} {a : Action} (h : Submissions s)
    (hok : KeepsSubmissions s a) (hstep : ServerStep s a s') : Submissions s' := by
  obtain ⟨db, tasks⟩ := s
  cases hstep with
  | tick seconds => exact h.congr rfl rfl
  | enqueueCancel accountId orderId mode tag =>
    exact h.enqueue .cancelOrder accountId orderId (fun htype => nomatch htype) mode _
  | claim limit locked => exact h.claimed hok
  | crash hi => exact h.sublist (List.eraseIdx_sublist ..)
  | request hrequest =>
    cases hrequest with
    | audited => exact h.congr rfl rfl
    | riskState => exact h.congr rfl rfl
    | configured => exact h.congr rfl rfl
    | placed happroved hq hp hpos hid hclient => exact h.placed hid _ _ _ _ _
  | @advance i supervisor t next db' htask hworker =>
    obtain ⟨front, back, rfl, hupdate⟩ := updateTask_eq htask
    rw [hupdate]
    exact hworker.submissions h (hok t htask)

end

end Confluence
