import Confluence.Server.Ledger

/-!
# Attended orders

An open order is attended while a command about it is still to be processed: the submission as long
as it is pending, a reconciliation from then on. The idempotency keys tell how far an order has come,
so that a key in use never keeps an order from the command that it needs.
-/

namespace Confluence

/-- Still to be processed, by a worker or by hand. -/
def CommandStatus.isLive : CommandStatus → Bool
  | pending | leased | reconciliationRequired => true
  | delivered | permanentlyRejected => false

/-- The command is about the order. -/
def CommandRecord.RefersTo (r : CommandRecord) (o : OrderRecord) : Prop :=
  r.accountId = o.accountId ∧ extractOrderId r.claimed = some o.id

/-- The command that brings an open order further. -/
def OrderStatus.nextCommand : OrderStatus → CommandType
  | pending => .submitOrder
  | _ => .reconcileOrder

/-- Closed, or open with something left to fill and a live command that brings it further. -/
def Db.Attends (db : Db) (o : OrderRecord) : Prop :=
  o.status.isTerminal = true ∨
    (o.filledQuantity < o.quantity ∧ ∃ r ∈ db.exchangeCommands,
      r.RefersTo o ∧ r.commandType = o.status.nextCommand ∧ r.status.isLive = true)

/-- What a key says about its order: it exists, it was submitted, it was to be cancelled. -/
structure CommandRecord.Explained (db : Db) (r : CommandRecord) : Prop where
  submit : ∀ i : Uuid, r.idempotencyKey = toString i ++ ":submit" →
    ∃ o, db.order? r.accountId i = some o
  initial : ∀ i : Uuid, r.idempotencyKey = toString i ++ ":reconcile:initial" →
    ∃ o, db.order? r.accountId i = some o ∧ o.status ≠ .pending
  postCancel : ∀ i : Uuid, r.idempotencyKey = toString i ++ ":reconcile:post-cancel" →
    ∃ o, db.order? r.accountId i = some o ∧
      (o.status = .cancelRequested ∨ o.status.isTerminal = true)

/-- Every order is attended and every key explained. -/
structure Db.Attended (db : Db) : Prop where
  ids : (db.exchangeCommands.map (·.id)).Nodup
  orders : ∀ o ∈ db.orders, db.Attends o
  keys : ∀ r ∈ db.exchangeCommands, r.Explained db

/-- How statuses change on paper: there are no partial fills. -/
inductive OrderStatus.Leads : OrderStatus → OrderStatus → Prop
  | stays (status : OrderStatus) : Leads status status
  | submitted : Leads pending submitted
  | cancelRequested {status : OrderStatus} (h : status.isTerminal = false) :
    Leads status cancelRequested
  | closed {status status' : OrderStatus} (h : status.isTerminal = false)
      (h' : status'.isTerminal = true) : Leads status status'

/-- Orders stay, with statuses that lead on. -/
def Db.Leads (db db' : Db) : Prop :=
  ∀ a i o, db.order? a i = some o → ∃ o', db'.order? a i = some o' ∧ o.status.Leads o'.status

/-- The order has come as far as the command can bring it. -/
def OrderRecord.Passed (o : OrderRecord) : CommandType → Prop
  | .submitOrder => o.status ≠ .pending
  | .reconcileOrder => o.status.isTerminal = true
  | _ => True

/-- What a worker carries brings its order further, and a success has done so. -/
def Task.Progresses (db : Db) (t : Task) : Prop :=
  match t.stage with
  | .hydrated orderId snapshot =>
    extractOrderId t.cmd = some orderId ∧
      (snapshot.order.status.isTerminal = false → snapshot.filled < snapshot.order.quantity)
  | .accepted orderId => extractOrderId t.cmd = some orderId
  | .reconciled orderId snapshot result =>
    extractOrderId t.cmd = some orderId ∧ t.cmd.commandType = .reconcileOrder ∧
      (snapshot.order.status.isTerminal = true ∨
        ∃ status, status.isTerminal = true ∧ result.newStatus = some status)
  | .dispatched (.ok ()) =>
    ∃ orderId o, extractOrderId t.cmd = some orderId ∧
      db.order? t.cmd.accountId orderId = some o ∧ o.Passed t.cmd.commandType
  | .dispatched (.error e) => NotRejected e
  | .rejecting _ => False
  | _ => True

/-! ### Keys -/

lemma toString_append_inj {i j : Uuid} {k l : String} (h : toString i ++ k = toString j ++ l) :
    i = j ∧ k = l := by
  have hlength (i : Uuid) : (toString i).toList.length = 36 := by
    have htext : (toString i).toList = i.hyphenated := String.toList_ofList
    rw [htext, Uuid.length_hyphenated]
  have hlist := congrArg String.toList h
  rw [String.toList_append, String.toList_append] at hlist
  obtain ⟨hi, hk⟩ := List.append_inj hlist (by rw [hlength, hlength])
  exact ⟨Uuid.toString_injective (String.toList_inj.mp hi), String.toList_inj.mp hk⟩

section

variable {db db' : Db} {accountId orderId : Uuid} {o : OrderRecord} {status status' : OrderStatus}

/-! ### Statuses that lead on -/

lemma OrderStatus.Leads.ne_pending (h : status.Leads status') (hne : status ≠ .pending) :
    status' ≠ .pending := by
  cases h with
  | stays => exact hne
  | submitted => exact (hne rfl).elim
  | cancelRequested => simp
  | closed _ hclosed =>
    rintro rfl
    cases hclosed

lemma OrderStatus.Leads.isTerminal (h : status.Leads status') (hclosed : status.isTerminal = true) :
    status'.isTerminal = true := by
  cases h with
  | stays => exact hclosed
  | submitted => cases hclosed
  | cancelRequested hopen =>
    rw [hopen] at hclosed
    cases hclosed
  | closed _ h => exact h

lemma OrderStatus.Leads.cancelled (h : status.Leads status')
    (hcancel : status = .cancelRequested ∨ status.isTerminal = true) :
    status' = .cancelRequested ∨ status'.isTerminal = true := by
  rcases hcancel with rfl | hclosed
  · cases h with
    | stays => exact .inl rfl
    | cancelRequested => exact .inl rfl
    | closed _ h => exact .inr h
  · exact .inr (h.isTerminal hclosed)

lemma Db.Leads.of_same (h : db'.orders = db.orders) : db.Leads db' := by
  intro a i o ho
  refine ⟨o, ?_, .stays _⟩
  rw [Db.order?, h]
  exact ho

lemma CommandRecord.Explained.leads {r : CommandRecord} (h : r.Explained db)
    (hleads : db.Leads db') : r.Explained db' := by
  constructor
  · intro i hkey
    obtain ⟨o, ho⟩ := h.submit i hkey
    obtain ⟨o', ho', -⟩ := hleads _ _ _ ho
    exact ⟨o', ho'⟩
  · intro i hkey
    obtain ⟨o, ho, hne⟩ := h.initial i hkey
    obtain ⟨o', ho', hstatus⟩ := hleads _ _ _ ho
    exact ⟨o', ho', hstatus.ne_pending hne⟩
  · intro i hkey
    obtain ⟨o, ho, hcancel⟩ := h.postCancel i hkey
    obtain ⟨o', ho', hstatus⟩ := hleads _ _ _ ho
    exact ⟨o', ho', hstatus.cancelled hcancel⟩

/-- A key says what its suffix says of the order that it begins with. -/
lemma CommandRecord.Explained.of_key {r : CommandRecord} {i : Uuid} {suffix : String}
    (hkey : r.idempotencyKey = toString i ++ suffix)
    (hsubmit : suffix = ":submit" → ∃ o, db.order? r.accountId i = some o)
    (hinitial : suffix = ":reconcile:initial" →
      ∃ o, db.order? r.accountId i = some o ∧ o.status ≠ .pending)
    (hpostCancel : suffix = ":reconcile:post-cancel" →
      ∃ o, db.order? r.accountId i = some o ∧
        (o.status = .cancelRequested ∨ o.status.isTerminal = true)) : r.Explained db := by
  constructor
  · intro j hj
    obtain ⟨rfl, hsuffix⟩ := toString_append_inj (hkey.symm.trans hj)
    exact hsubmit hsuffix
  · intro j hj
    obtain ⟨rfl, hsuffix⟩ := toString_append_inj (hkey.symm.trans hj)
    exact hinitial hsuffix
  · intro j hj
    obtain ⟨rfl, hsuffix⟩ := toString_append_inj (hkey.symm.trans hj)
    exact hpostCancel hsuffix

lemma Task.Progresses.leads {t : Task} (h : t.Progresses db) (hleads : db.Leads db') :
    t.Progresses db' := by
  unfold Task.Progresses at h ⊢
  split at h
  · exact h
  · exact h
  · exact h
  · obtain ⟨i, o, hid, ho, hpassed⟩ := h
    obtain ⟨o', ho', hstatus⟩ := hleads _ _ _ ho
    refine ⟨i, o', hid, ho', ?_⟩
    cases htype : t.cmd.commandType with
    | submitOrder =>
      rw [htype] at hpassed
      exact hstatus.ne_pending hpassed
    | reconcileOrder =>
      rw [htype] at hpassed
      exact hstatus.isTerminal hpassed
    | cancelOrder => trivial
    | unknown name => trivial
  · exact h
  · exact h
  · trivial

/-! ### Tables that change -/

/-- More commands, and others in the place of those that were there. -/
lemma Db.Attends.mono (h : db.Attends o)
    (hlive : o.status.isTerminal = false → ∀ r ∈ db.exchangeCommands, r.RefersTo o →
      r.commandType = o.status.nextCommand → r.status.isLive = true →
      ∃ r' ∈ db'.exchangeCommands, r'.RefersTo o ∧ r'.commandType = o.status.nextCommand ∧
        r'.status.isLive = true) : db'.Attends o := by
  by_cases hterminal : o.status.isTerminal = true
  · exact .inl hterminal
  · obtain ⟨hunfilled, r, hr, hrefers, htype, hstatus⟩ := h.resolve_left hterminal
    exact .inr ⟨hunfilled, hlive (by simpa using hterminal) r hr hrefers htype hstatus⟩

/-- A write that keeps the orders attended, leads them on and keeps the commands. -/
structure Db.KeepsAttended (db db' : Db) : Prop where
  attended : db'.Attended
  leads : db.Leads db'
  claimed : ∀ r ∈ db.exchangeCommands, ∃ r' ∈ db'.exchangeCommands, r'.claimed = r.claimed

lemma Db.Attended.congr (h : db.Attended) (horders : db'.orders = db.orders)
    (hcommands : db'.exchangeCommands = db.exchangeCommands) : db.KeepsAttended db' := by
  have hleads : db.Leads db' := .of_same horders
  refine ⟨⟨?_, ?_, ?_⟩, hleads, ?_⟩
  · rw [hcommands]
    exact h.ids
  · rw [horders]
    intro o ho
    apply (h.orders o ho).mono
    intro _ r hr hrefers htype hlive
    exact ⟨r, hcommands ▸ hr, hrefers, htype, hlive⟩
  · rw [hcommands]
    intro r hr
    exact (h.keys r hr).leads hleads
  · rw [hcommands]
    exact fun r hr => ⟨r, hr, rfl⟩

lemma Db.KeepsAttended.congr {db₁ : Db} (h : db.KeepsAttended db₁) (horders : db'.orders = db₁.orders)
    (hcommands : db'.exchangeCommands = db₁.exchangeCommands) : db.KeepsAttended db' := by
  obtain ⟨hattended, hleads, -⟩ := h.attended.congr horders hcommands
  refine ⟨hattended, ?_, ?_⟩
  · intro a i o ho
    obtain ⟨o', ho', hstatus⟩ := h.leads a i o ho
    refine ⟨o', ?_, hstatus⟩
    rw [Db.order?, horders]
    exact ho'
  · rw [hcommands]
    exact h.claimed

/-- Another status of some commands, which leaves live the commands that open orders need. -/
lemma Db.Attended.updateCommands (h : db.Attended) {p : CommandRecord → Bool}
    {f : CommandRecord → CommandRecord} (hclaimed : ∀ r, (f r).claimed = r.claimed)
    (hkey : ∀ r, (f r).idempotencyKey = r.idempotencyKey)
    (hlive : ∀ r ∈ db.exchangeCommands, p r = true → (f r).status.isLive = true ∨
      ∀ o ∈ db.orders, r.RefersTo o → o.Passed r.commandType) :
    db.KeepsAttended { db with exchangeCommands := updateWhere p f db.exchangeCommands } := by
  have hid (r : CommandRecord) : (f r).id = r.id := congrArg ClaimedCommand.id (hclaimed r)
  have hacc (r : CommandRecord) : (f r).accountId = r.accountId :=
    congrArg ClaimedCommand.accountId (hclaimed r)
  have htypes (r : CommandRecord) : (f r).commandType = r.commandType :=
    congrArg ClaimedCommand.commandType (hclaimed r)
  have hleads : db.Leads { db with exchangeCommands := updateWhere p f db.exchangeCommands } :=
    .of_same rfl
  have hmem {r : CommandRecord} (hr : r ∈ db.exchangeCommands) :
      (if p r then f r else r) ∈ updateWhere p f db.exchangeCommands :=
    mem_updateWhere.mpr ⟨r, hr, rfl⟩
  refine ⟨⟨?_, ?_, ?_⟩, hleads, ?_⟩
  · simp only
    rw [map_updateWhere]
    · exact h.ids
    · exact hid
  · intro o ho
    apply (h.orders o ho).mono
    intro hopen r hr hrefers htype hstatus
    by_cases hrow : p r = true
    · rcases hlive r hr hrow with hlive | hpassed
      · refine ⟨_, hmem hr, ?_⟩
        rw [if_pos hrow, CommandRecord.RefersTo, hacc, hclaimed, htypes]
        exact ⟨hrefers, htype, hlive⟩
      · -- the order is already past what the command can do
        have hpassed := hpassed o ho hrefers
        rw [htype] at hpassed
        cases hcase : o.status with
        | pending =>
          rw [hcase] at hpassed
          exact (hpassed hcase).elim
        | filled | cancelled | rejected =>
          rw [hcase] at hopen
          cases hopen
        | submitted | partiallyFilled | cancelRequested =>
          rw [hcase] at hpassed hopen
          have hclosed : o.status.isTerminal = true := hpassed
          rw [hcase, hopen] at hclosed
          cases hclosed
    · refine ⟨_, hmem hr, ?_⟩
      rw [if_neg hrow]
      exact ⟨hrefers, htype, hstatus⟩
  · intro r' hr'
    obtain ⟨r, hr, rfl⟩ := mem_updateWhere.mp hr'
    have hexplained := (h.keys r hr).leads hleads
    split_ifs
    · constructor
      · rw [hkey, hacc]
        exact hexplained.submit
      · rw [hkey, hacc]
        exact hexplained.initial
      · rw [hkey, hacc]
        exact hexplained.postCancel
    · exact hexplained
  · intro r hr
    refine ⟨_, hmem hr, ?_⟩
    split_ifs
    · exact hclaimed r
    · rfl

/-- A new identifier for a new command. -/
lemma nodup_newCommand (hids : (db.exchangeCommands.map (·.id)).Nodup) (accountId : Uuid)
    (commandType : CommandType) (mode : ExchangeMode) (key : String) (payload : Json) :
    ((db.exchangeCommands ++ [db.newCommand accountId commandType mode key payload]).map
      (·.id)).Nodup := by
  rw [List.map_append, List.nodup_append]
  refine ⟨hids, by simp, ?_⟩
  intro i hi j hj
  rw [List.map_singleton, List.mem_singleton] at hj
  rw [hj]
  exact (lt_freshId hi).ne

/-- A new command under an explained key. -/
lemma Db.Attended.withCommand (h : db.Attended) (accountId : Uuid) (commandType : CommandType)
    (mode : ExchangeMode) (key : String) (payload : Json)
    (hexplained : (db.newCommand accountId commandType mode key payload).Explained db) :
    db.KeepsAttended (db.withCommand accountId commandType mode key payload) := by
  rcases db.withCommand_cases accountId commandType mode key payload with ⟨-, hdb⟩ | ⟨-, hdb⟩
  · rw [hdb]
    exact h.congr rfl rfl
  · rw [hdb]
    have hleads : db.Leads
        { db with
          exchangeCommands := db.exchangeCommands ++
            [db.newCommand accountId commandType mode key payload] } := .of_same rfl
    refine ⟨⟨nodup_newCommand h.ids .., ?_, ?_⟩, hleads, ?_⟩
    · intro o ho
      apply (h.orders o ho).mono
      intro _ r hr hrefers htype hlive
      exact ⟨r, List.mem_append_left _ hr, hrefers, htype, hlive⟩
    · intro r hr
      rcases List.mem_append.mp hr with hr | hr
      · exact (h.keys r hr).leads hleads
      · rw [List.mem_singleton.mp hr]
        exact hexplained.leads hleads
    · exact fun r hr => ⟨r, List.mem_append_left _ hr, rfl⟩

lemma Db.leads_withStatus (hids : (db.orders.map (·.id)).Nodup) (ho : o ∈ db.orders)
    (hstatus : o.status.Leads status) (q : Decimal) :
    db.Leads (db.withStatus o.accountId o.id status q) := by
  intro a i o' ho'
  have hafter := order?_withStatus db o.accountId o.id status q a i
  rw [ho', Option.map_some] at hafter
  refine ⟨_, hafter, ?_⟩
  split_ifs with hrow
  · simp only [Bool.and_eq_true, decide_eq_true_eq] at hrow
    obtain rfl := List.inj_on_of_nodup_map hids (Db.mem_of_order? ho').1 ho hrow.1
    exact hstatus
  · exact .stays _

/-- An order that moves on, with the commands that it needs then. -/
lemma Db.Attended.move (h : db.Attended) (hids : (db.orders.map (·.id)).Nodup) (ho : o ∈ db.orders)
    (hstatus : o.status.Leads status) (q : Decimal) (rows : List CommandRecord)
    (hrowIds : ((db.exchangeCommands ++ rows).map (·.id)).Nodup)
    (hrows : ∀ r ∈ rows, r.Explained (db.withStatus o.accountId o.id status q))
    (hattends : Db.Attends { db with exchangeCommands := db.exchangeCommands ++ rows }
      { o with status, filledQuantity := q }) :
    db.KeepsAttended
      { db.withStatus o.accountId o.id status q with
        exchangeCommands := db.exchangeCommands ++ rows } := by
  have hleads := db.leads_withStatus hids ho hstatus q
  refine ⟨⟨hrowIds, ?_, ?_⟩, hleads, ?_⟩
  · intro r' hr'
    obtain ⟨r, hr, rfl⟩ := mem_updateWhere.mp hr'
    by_cases hrow : (decide (r.id = o.id) && decide (r.accountId = o.accountId)) = true
    · rw [if_pos hrow]
      simp only [Bool.and_eq_true, decide_eq_true_eq] at hrow
      obtain rfl := List.inj_on_of_nodup_map hids hr ho hrow.1
      exact hattends
    · rw [if_neg hrow]
      apply (h.orders r hr).mono
      intro _ cmd hcmd hrefers htype hlive
      exact ⟨cmd, List.mem_append_left _ hcmd, hrefers, htype, hlive⟩
  · intro r hr
    rcases List.mem_append.mp hr with hr | hr
    · exact (h.keys r hr).leads hleads
    · have hexplained := hrows r hr
      exact ⟨hexplained.submit, hexplained.initial, hexplained.postCancel⟩
  · exact fun r hr => ⟨r, List.mem_append_left _ hr, rfl⟩

/-- An order that is closed needs no command. -/
lemma Db.Attended.close (h : db.Attended) (hids : (db.orders.map (·.id)).Nodup) (ho : o ∈ db.orders)
    (hopen : o.status.isTerminal = false) (hclosed : status.isTerminal = true) (q : Decimal) :
    db.KeepsAttended (db.withStatus o.accountId o.id status q) := by
  have hmoved := h.move hids ho (.closed hopen hclosed) q [] (by simpa using h.ids) (by simp)
    (.inl hclosed)
  exact hmoved.congr rfl (List.append_nil _).symm

/-- An order that is submitted or to be cancelled is reconciled next, under a key of its own. -/
lemma Db.Attended.enqueueReconcile (h : db.Attended) (hids : (db.orders.map (·.id)).Nodup)
    (ho : o ∈ db.orders) (hopen : o.status.isTerminal = false) (hstatus : o.status.Leads status)
    (hnext : status.nextCommand = .reconcileOrder) (mode : ExchangeMode) {key : String}
    (hkey : ¬ db.hasKey o.accountId key)
    (hexplained : (db.newCommand o.accountId .reconcileOrder mode key (orderPayload o.id)).Explained
      (db.withStatus o.accountId o.id status o.filledQuantity)) :
    db.KeepsAttended
      ((db.withStatus o.accountId o.id status o.filledQuantity).withCommand o.accountId
        .reconcileOrder mode key (orderPayload o.id)) := by
  rcases (db.withStatus o.accountId o.id status o.filledQuantity).withCommand_cases o.accountId
    .reconcileOrder mode key (orderPayload o.id) with ⟨hhas, -⟩ | ⟨-, hdb⟩
  · exact (hkey hhas).elim
  · rw [hdb]
    apply h.move hids ho hstatus o.filledQuantity
    · exact nodup_newCommand h.ids ..
    · intro r hr
      rw [List.mem_singleton.mp hr]
      exact hexplained
    · obtain ⟨hunfilled, -⟩ := (h.orders o ho).resolve_left (by simp [hopen])
      refine .inr ⟨hunfilled, _, List.mem_append_right _ (List.mem_singleton_self _), ?_, ?_, rfl⟩
      · exact ⟨rfl, extractOrderId_orderPayload ..⟩
      · exact hnext.symm

/-- A new order with its submission. -/
lemma Db.Attended.place (h : db.Attended) (hid : ∀ r ∈ db.orders, r.id ≠ o.id)
    (hpending : o.status = .pending) (hunfilled : o.filledQuantity < o.quantity)
    (mode : ExchangeMode) :
    db.KeepsAttended
      (Db.withCommand { db with orders := db.orders ++ [o] } o.accountId .submitOrder mode
        (toString o.id ++ ":submit") (orderPayload o.id)) := by
  have hleads : db.Leads { db with orders := db.orders ++ [o] } := by
    intro a i o' ho'
    exact ⟨o', order?_append ho', .stays _⟩
  have hfound := order?_append_self hid
  have hkey : ¬ db.hasKey o.accountId (toString o.id ++ ":submit") := by
    rintro ⟨r, hr, hacc, hkey⟩
    obtain ⟨o', ho'⟩ := (h.keys r hr).submit o.id hkey
    obtain ⟨hmem, hsame, -⟩ := Db.mem_of_order? ho'
    exact hid o' hmem hsame
  rcases Db.withCommand_cases { db with orders := db.orders ++ [o] } o.accountId .submitOrder mode
    (toString o.id ++ ":submit") (orderPayload o.id) with ⟨hhas, -⟩ | ⟨-, hdb⟩
  · exact (hkey hhas).elim
  · rw [hdb]
    refine ⟨⟨nodup_newCommand h.ids .., ?_, ?_⟩, hleads, ?_⟩
    · intro r hr
      rcases List.mem_append.mp hr with hr | hr
      · apply (h.orders r hr).mono
        intro _ cmd hcmd hrefers htype hlive
        exact ⟨cmd, List.mem_append_left _ hcmd, hrefers, htype, hlive⟩
      · rw [List.mem_singleton.mp hr]
        refine .inr ⟨hunfilled, _, List.mem_append_right _ (List.mem_singleton_self _), ?_, ?_, rfl⟩
        · exact ⟨rfl, extractOrderId_orderPayload ..⟩
        · rw [hpending]
          rfl
    · intro r hr
      rcases List.mem_append.mp hr with hr | hr
      · have hexplained := (h.keys r hr).leads hleads
        exact ⟨hexplained.submit, hexplained.initial, hexplained.postCancel⟩
      · rw [List.mem_singleton.mp hr]
        exact .of_key rfl (fun _ => ⟨o, hfound⟩) (by simp) (by simp)
    · exact fun r hr => ⟨r, List.mem_append_left _ hr, rfl⟩

end

end Confluence
