import Confluence.Properties.HexTexts
import Confluence.Properties.SettingsLog
import Confluence.Server.Credentials

/-!
# Credentials are kept

What is stored of an account's key, or of its secret, is the text of the last request of the account
that gave one and succeeded: it decrypts to that text, under the key that was used for it and the
account's id. Requests that give none keep it.
-/

namespace Confluence

inductive Credential
  | apiKey
  | apiSecret
deriving DecidableEq

def Credential.text : Credential → PutExchangeConfig → Option String
  | .apiKey, body => body.apiKey
  | .apiSecret, body => body.apiSecret

def Credential.ciphertext : Credential → ExchangeSettings → Option (List UInt8)
  | .apiKey, x => x.apiKeyCiphertext
  | .apiSecret, x => x.apiSecretCiphertext

/-- What is stored of the credential. -/
def Db.credential (db : Db) (c : Credential) (accountId : Uuid) : Option (List UInt8) :=
  (db.configRow accountId).bind fun row => c.ciphertext row.settings

def Credential.storedIn (c : Credential) (x : Option Settings) : Option (List UInt8) :=
  (x.bind (·.exchange)).bind c.ciphertext

/-- A text with what encrypts it. -/
structure Given where
  encrypt : String → Except ApiError (List UInt8)
  text : String

/-- The credential that a request of the account gives. -/
def ServiceAction.given (c : Credential) (accountId : Uuid) : ServiceAction → Option Given
  | .act (.act (.request _ a (.putExchangeConfig encrypt body))) =>
    if a = accountId then (c.text body).map (Given.mk encrypt) else none
  | _ => none

/-- The credential that was given last. -/
def lastGiven (c : Credential) (accountId : Uuid) (log : List ServiceAction) : Option Given :=
  log.foldl (fun last act => act.given c accountId <|> last) none

/-- The ciphertext is that of the last text. -/
def Stores (ct : Option (List UInt8)) : Option Given → Prop
  | none => ct = none
  | some g => ∃ blob, g.encrypt g.text = .ok blob ∧ ct = some blob

section

variable {db db' : Db} {accountId a : Uuid} {c : Credential} {s s' : Server}
  {act : ServiceAction} {last : Option Given}

/-! ### The key of the process -/

/-- Sixty-four hexadecimal digits, of either case, are the key that they denote. -/
lemma encryptionKey_of_denotes {hexKey : String} (key : EncryptionKey)
    (h : Denotes hexKey.toList key.bytes) : (encryptionKey (some hexKey)).run = some (.ok key) := by
  have hdecodes := (decodesHex_iff hexKey).mpr (.inl ⟨_, h⟩)
  have hbytes := (hdecodes.2 key.bytes).mpr h
  simp only [encryptionKey, ExceptT.run_mk, hbytes, Option.bind_eq_bind, Option.bind_some]
  exact dif_pos key.length_bytes

/-- What a request has encrypted decrypts under the key of its time. -/
lemma decrypt_of_requestEncryption {cipher : Aead} (hcipher : cipher.Inverts) {value : Option String}
    {key : EncryptionKey} (hkey : (encryptionKey value).run = some (.ok key))
    {nonces : String → Nonce} {encrypt : String → Except ApiError (List UInt8)}
    (hencrypt : requestEncryption cipher value accountId nonces = some encrypt) {text : String}
    {blob : List UInt8} (h : encrypt text = .ok blob) :
    key.decrypt cipher blob (asBytes (toString accountId)) = .ok (asBytes text) := by
  rw [requestEncryption, hkey] at hencrypt
  obtain rfl := Option.some.inj hencrypt
  simp only [encryptFresh] at h
  cases hct : key.encrypt cipher (asBytes text) (asBytes (toString accountId)) (nonces text) with
  | ok ct =>
    rw [hct] at h
    obtain rfl := Except.ok.inj h
    exact EncryptionKey.decrypt_of_encrypt hcipher hct
  | error e =>
    rw [hct] at h
    cases h

/-! ### Settings and the stored ciphertext -/

lemma credential_eq (hs : db.Sound) (hconfigured : db.AccountsConfigured) (c : Credential)
    (accountId : Uuid) : db.credential c accountId = c.storedIn (db.settings accountId) := by
  cases h : db.settings accountId with
  | none =>
    obtain ⟨-, -, hconfig, -⟩ := settings_eq_none hs hconfigured h
    rw [Db.credential, hconfig]
    rfl
  | some x =>
    simp only [Db.settings, Option.bind_eq_bind, Option.bind_eq_some_iff] at h
    obtain ⟨account, -, risk, -, hx⟩ := h
    obtain rfl := Option.some.inj hx
    cases hrow : db.configRow accountId <;> simp [Db.credential, Credential.storedIn, hrow]

/-- A text that is given replaces what is stored. -/
lemma ciphertext_settings (c : Credential) (encrypt : String → Except ApiError (List UInt8))
    (body : PutExchangeConfig) (old : Option ExchangeSettings) :
    c.ciphertext (body.settings encrypt old) =
      (encrypted encrypt (c.text body) <|> old.bind c.ciphertext) := by
  cases c <;> rfl

/-! ### Requests that succeed -/

lemma commits_of_isOk {α : Type} {p : Tx α} (hp : postgres.Strict p)
    (h : (postgres.atomically p db).1.isOk = true) :
    ∃ x, postgres.Commits p db x (postgres.atomically p db).2 := by
  cases hanswer : (postgres.atomically p db).1 with
  | ok x => exact ⟨x, hp.commits hanswer⟩
  | error e =>
    rw [hanswer] at h
    cases h

/-- A new account has had no settings. -/
lemma settings_of_createAccount {equity : Option Decimal}
    (h : (createAccount accountId equity db).1.isOk = true) : db.settings accountId = none := by
  unfold createAccount at h
  split_ifs at h with hneg
  · cases h
  · obtain ⟨view, hcommit⟩ := commits_of_isOk (strict_createAccountTx accountId _) h
    simp only [createAccountTx, Engine.commits_bind, commits_sql, Statement.exec,
      column_bind_eq_ok, require_bind_eq_ok] at hcommit
    obtain ⟨_, _, ⟨_, ⟨_, -, -, hnew, -⟩, -⟩, -⟩ := hcommit
    have hrow : db.accountRow accountId = none := by simpa [Db.accountRow] using hnew
    rw [Db.settings, hrow]
    rfl

lemma encrypts_of_commits {encrypt : String → Except ApiError (List UInt8)} {text : String}
    {ct : Option (List UInt8)}
    (h : postgres.Commits (encryptOptional encrypt (some text)) db ct db') :
    ∃ blob, encrypt text = .ok blob := by
  simp only [encryptOptional] at h
  cases hct : encrypt text with
  | ok blob => exact ⟨blob, rfl⟩
  | error e =>
    rw [hct] at h
    exact (Engine.not_commits_fail h).elim

/-- A configuration that is accepted is of an account that exists, and its texts are encrypted. -/
lemma of_putExchangeConfig {encrypt : String → Except ApiError (List UInt8)}
    {body : PutExchangeConfig} (h : (putExchangeConfig encrypt accountId body db).1.isOk = true) :
    (db.accountRow accountId).isSome ∧
      ∀ c text, Credential.text c body = some text → ∃ blob, encrypt text = .ok blob := by
  unfold putExchangeConfig at h
  split_ifs at h with hmode
  · cases h
  · obtain ⟨view, hcommit⟩ := commits_of_isOk (strict_putExchangeConfigTx encrypt accountId body) h
    simp only [putExchangeConfigTx, Engine.commits_bind, commits_lockAccount,
      commits_selectExchangeConfig] at hcommit
    obtain ⟨account, _, ⟨haccount, -⟩, _, _, -, _, _, -, keyCt, _, hkey, secretCt, _, hsecret, -⟩ :=
      hcommit
    refine ⟨by rw [haccount]; rfl, fun c text htext => ?_⟩
    cases c with
    | apiKey =>
      replace htext : body.apiKey = some text := htext
      rw [htext] at hkey
      exact encrypts_of_commits hkey
    | apiSecret =>
      replace htext : body.apiSecret = some text := htext
      rw [htext] at hsecret
      exact encrypts_of_commits hsecret

/-! ### Runs -/

lemma Server.log_subset (s : Server) (as : List ServiceAction) : s.log as ⊆ as := by
  induction as generalizing s with
  | nil => exact List.Subset.refl _
  | cons act as ih =>
    rw [Server.log]
    cases s.serviceStep act with
    | none => exact List.nil_subset _
    | some s' =>
      simp only
      split_ifs with haccepted
      · exact List.cons_subset_cons _ (ih s')
      · exact List.subset_cons_of_subset _ (ih s')

/-- The text that was given last is one that was given. -/
lemma given_of_lastGiven {log : List ServiceAction} {g : Given}
    (h : lastGiven c accountId log = some g) : ∃ act ∈ log, act.given c accountId = some g := by
  induction log using List.reverseRecOn with
  | nil => cases h
  | append_singleton log act ih =>
    rw [lastGiven, List.foldl_append, List.foldl_cons, List.foldl_nil] at h
    cases hgiven : act.given c accountId with
    | some g' =>
      rw [hgiven] at h
      exact ⟨act, by simp, hgiven.trans h⟩
    | none =>
      rw [hgiven] at h
      obtain ⟨act', hact', hgiven'⟩ := ih h
      exact ⟨act', List.mem_append_left _ hact', hgiven'⟩

/-- A configuration that is accepted stores the text that it gives, if it gives one. -/
lemma stores_putExchangeConfig {encrypt : String → Except ApiError (List UInt8)}
    {body : PutExchangeConfig} (hs : db.Sound) (hconfigured : db.AccountsConfigured)
    (haccepted : (putExchangeConfig encrypt accountId body db).1.isOk = true)
    (h : Stores (c.storedIn (db.settings accountId)) last) :
    Stores (c.storedIn ((db.settings accountId).map (·.after (.putExchangeConfig encrypt body))))
      ((c.text body).map (Given.mk encrypt) <|> last) := by
  obtain ⟨haccount, hencrypts⟩ := of_putExchangeConfig haccepted
  cases hx : db.settings accountId with
  | none =>
    obtain ⟨hnone, -⟩ := settings_eq_none hs hconfigured hx
    rw [hnone] at haccount
    cases haccount
  | some x =>
    rw [hx] at h
    have hafter : c.storedIn ((some x).map (·.after (.putExchangeConfig encrypt body))) =
        (encrypted encrypt (c.text body) <|> c.storedIn (some x)) :=
      ciphertext_settings c encrypt body x.exchange
    rw [hafter]
    cases htext : c.text body with
    | none => exact h
    | some text =>
      obtain ⟨blob, hblob⟩ := hencrypts c text htext
      exact ⟨blob, hblob, by simp [encrypted, hblob, Except.toOption]⟩

/-- Actions that succeed store what they give, and nothing else changes what is stored. -/
lemma stores_of_accepted (hs : db.Sound) (hconfigured : db.AccountsConfigured)
    (haccepted : act.accepted db = true) (h : Stores (c.storedIn (db.settings accountId)) last) :
    Stores (c.storedIn (Settings.apply accountId (db.settings accountId) act))
      (act.given c accountId <|> last) := by
  have hkept {f : Settings → Settings} (hf : ∀ x, (f x).exchange = x.exchange) :
      Stores (c.storedIn ((db.settings accountId).map f)) last := by
    cases hx : db.settings accountId with
    | none =>
      rw [hx] at h
      exact h
    | some x =>
      rw [hx] at h
      simp only [Credential.storedIn, Option.map_some, Option.bind_some, hf]
      exact h
  cases act with
  | createAccount a equity =>
    by_cases ha : a = accountId
    · subst ha
      rw [settings_of_createAccount haccepted] at h
      simp only [Settings.apply, if_true]
      exact h
    · simp only [Settings.apply, if_neg ha]
      exact h
  | putCorrelationGroups a groups =>
    by_cases ha : a = accountId
    · simp only [Settings.apply, if_pos ha]
      exact hkept fun _ => rfl
    · simp only [Settings.apply, if_neg ha]
      exact h
  | act act =>
    cases act with
    | fault => exact h
    | act act =>
      cases act with
      | request env a r =>
        by_cases ha : a = accountId
        · subst ha
          cases r with
          | putExchangeConfig encrypt body =>
            simp only [Settings.apply, ServiceAction.given, if_true]
            exact stores_putExchangeConfig hs hconfigured haccepted h
          | placeOrder | evaluateTrade | putEquity | putRiskConfig | engageKillSwitch
          | releaseKillSwitch =>
            simp only [Settings.apply, if_true]
            exact hkept fun _ => rfl
        · have hgiven : (ServiceAction.act (.act (.request env a r))).given c accountId = none := by
            cases r <;> simp [ServiceAction.given, ha]
          rw [hgiven]
          simp only [Settings.apply, if_neg ha]
          exact h
      | tick | enqueueCancel | claim | advance | crash => exact h

/-- What is stored after a run is the last of what was given before it and in its log. -/
lemma stores_of_run {init : Server → Prop} {as : List ServiceAction} (hs : s.Sound)
    (hconfigured : s.db.AccountsConfigured) (hrun : (service init).Run CancelsKnown s as s')
    (h : Stores (c.storedIn (s.db.settings accountId)) last) :
    Stores (c.storedIn (s'.db.settings accountId))
      ((s.log as).foldl (fun last act => act.given c accountId <|> last) last) := by
  induction hrun generalizing last with
  | nil => exact h
  | @cons s s₁ s' act as hok hstep _ ih =>
    replace hstep : s.serviceStep act = some s₁ := hstep
    have hs₁ := sound_of_serviceStep hs hok hstep
    have hconfigured₁ := accountsConfigured_of_serviceStep hs hok hstep hconfigured
    have hsettings := settings_of_serviceStep hs hstep accountId
    rw [Server.log, hstep]
    simp only
    by_cases haccepted : act.accepted s.db = true
    · rw [if_pos haccepted] at hsettings ⊢
      refine ih hs₁ hconfigured₁ ?_
      rw [hsettings]
      exact stores_of_accepted hs.db hconfigured haccepted h
    · rw [if_neg haccepted] at hsettings ⊢
      refine ih hs₁ hconfigured₁ ?_
      rw [hsettings]
      exact h

/-- In every run from the empty tables, there is a ciphertext for an account exactly when one of its
successful requests gave a text. It decrypts to the last one, under the account's id and the key that
the request found in the environment. -/
theorem credentials_recovered {cipher : Aead} (hcipher : cipher.Inverts) {as : List ServiceAction}
    (hrun : (service (· = .fresh)).Run CancelsKnown .fresh as s) (c : Credential)
    (accountId : Uuid) :
    match lastGiven c accountId (Server.fresh.log as) with
    | none => s.db.credential c accountId = none
    | some g => ∃ blob, s.db.credential c accountId = some blob ∧
        ∀ value key nonces, (encryptionKey value).run = some (.ok key) →
          requestEncryption cipher value accountId nonces = some g.encrypt →
          key.decrypt cipher blob (asBytes (toString accountId)) = .ok (asBytes g.text) := by
  have hfresh : Server.fresh.Sound ∧ Server.fresh.db.AccountsConfigured := by
    refine ⟨sound_fresh, ?_⟩
    rintro _ ⟨⟩
  obtain ⟨hs, hconfigured⟩ := sound_of_run hfresh hrun
  have hstores : Stores (s.db.credential c accountId)
      (lastGiven c accountId (Server.fresh.log as)) := by
    rw [credential_eq hs.db hconfigured]
    exact stores_of_run hfresh.1 hfresh.2 hrun rfl
  cases hlast : lastGiven c accountId (Server.fresh.log as) with
  | none =>
    rw [hlast] at hstores
    exact hstores
  | some g =>
    rw [hlast] at hstores
    obtain ⟨blob, hblob, hstored⟩ := hstores
    exact ⟨blob, hstored, fun value key nonces hkey hencrypt =>
      decrypt_of_requestEncryption hcipher hkey hencrypt hblob⟩

end

/-! ### A key that is kept -/

/-- What AES-256-GCM answers for one text; it fails for any other. -/
def recordedAead : Aead where
  encrypt key nonce aad msg :=
    if key = List.replicate 32 7 ∧ nonce = List.replicate 12 1 ∧
        aad = asBytes "00000000-0000-0000-0000-000000000001" ∧ msg = asBytes "key" then
      .ok [29, 132, 240, 105, 197, 137, 109, 163, 176, 255, 165, 29, 87, 232, 180, 172, 248, 240, 255]
    else .error "aead::Error"
  decrypt key nonce aad ct :=
    if key = List.replicate 32 7 ∧ nonce = List.replicate 12 1 ∧
        aad = asBytes "00000000-0000-0000-0000-000000000001" ∧ ct =
          [29, 132, 240, 105, 197, 137, 109, 163, 176, 255, 165, 29, 87, 232, 180, 172, 248, 240, 255]
    then .ok (asBytes "key")
    else .error "aead::Error"

lemma inverts_recordedAead : recordedAead.Inverts := by
  intro key nonce aad msg ct h
  simp only [recordedAead] at h ⊢
  split_ifs at h with hinput
  obtain ⟨rfl, rfl, rfl, rfl⟩ := hinput
  cases h
  simp

def sevens : EncryptionKey := ⟨List.replicate 32 7, rfl⟩

def ones : String → Nonce := fun _ => ⟨List.replicate 12 1, rfl⟩

/-- A request that gives a key, one that gives nothing, and one that is refused. -/
def keyThenNone : List ServiceAction :=
  let request (mode : String) (apiKey : Option String) (version : ℤ) : ServiceAction :=
    .act (.act (.request quotedAt100 ⟨1⟩
      (.putExchangeConfig (encryptFresh recordedAead sevens ⟨1⟩ ones)
        { mode, testnet := true, apiKey, apiSecret := none, version })))
  [.createAccount ⟨1⟩ none, request "paper" (some "key") 0, request "live" none 1,
    request "paper" (some "key") 1]

theorem credentials_recovered_keyThenNone :
    ∃ s blob, (service (· = .fresh)).Run CancelsKnown .fresh keyThenNone s ∧
      s.db.exchangeMode ⟨1⟩ = .live ∧ s.db.credential .apiKey ⟨1⟩ = some blob ∧
      sevens.decrypt recordedAead blob (asBytes (toString (⟨1⟩ : Uuid))) = .ok (asBytes "key") ∧
      s.db.credential .apiSecret ⟨1⟩ = none := by
  have hexec : ((service (· = .fresh)).exec (fun _ _ => True) .fresh keyThenNone).any
      (fun s => decide (s.db.exchangeMode ⟨1⟩ = .live)) = true := by
    decide +kernel
  obtain ⟨s, hrun, hlive⟩ := Machine.exists_run_of_exec hexec
  have hgood (act : ServiceAction) (hact : act ∈ keyThenNone) (t : Server) : CancelsKnown t act := by
    fin_cases hact <;> trivial
  have hrun : (service (· = .fresh)).Run CancelsKnown .fresh keyThenNone s :=
    (hrun.of_actions hgood).mono fun t _ h => h.1 t
  have hkey := credentials_recovered inverts_recordedAead hrun .apiKey ⟨1⟩
  have hsecret := credentials_recovered inverts_recordedAead hrun .apiSecret ⟨1⟩
  have htext : (lastGiven .apiKey ⟨1⟩ (Server.fresh.log keyThenNone)).map (·.text) = some "key" := by
    decide +kernel
  have hnone : (lastGiven .apiSecret ⟨1⟩ (Server.fresh.log keyThenNone)).map (·.text) = none := by
    decide +kernel
  rw [Option.map_eq_none_iff.mp hnone] at hsecret
  obtain ⟨g, hlast, hg⟩ := Option.map_eq_some_iff.mp htext
  rw [hlast] at hkey
  obtain ⟨blob, hblob, hdecrypts⟩ := hkey
  have hencrypt : g.encrypt = encryptFresh recordedAead sevens ⟨1⟩ ones := by
    obtain ⟨act, hact, hgiven⟩ := given_of_lastGiven hlast
    have hact := Server.log_subset _ _ hact
    fin_cases hact <;> cases hgiven <;> rfl
  have hread := encryptionKey_of_denotes sevens (denotes_hexEncode _)
  refine ⟨s, blob, hrun, of_decide_eq_true hlive, hblob, ?_, hsecret⟩
  rw [← hg]
  refine hdecrypts _ sevens ones hread ?_
  rw [requestEncryption, hread, hencrypt]
  rfl

end Confluence
