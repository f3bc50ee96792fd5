import FreeHsm.Token.Auth

/-!
# Outcomes of the life-cycle functions

One inductive type per function of `Token/Auth.lean` lists everything a call can
do, and one `_cases` lemma says that the list is complete. Every invariant of the
token is proved from these lists; no later proof unfolds a life-cycle function.
-/

namespace FreeHsm

namespace Token

/-! ## What a PIN attempt can do -/

/-- What is known of a PIN that was tried: the role was not locked, and the result is what the
    wrapped DEK opens to. -/
structure Tried (C : Crypto) (t : Token) (role : Role) (pin : Bytes) (r : Option Key)
    (es : List Event) : Prop where
  notLocked : t.header.failed.get role < pinMaxFailed
  initialized : role = .user → t.header.userInitialized = true
  iter : 1000 ≤ t.header.pbkdf2Iter
  right : ∀ dek, r = some dek → t.header.unwrapDek C role pin = some dek
  events : (r = none ∧ es = [.pinTried role false]) ∨
    ∃ pt, t.header.unwrapBytes C role pin = some pt ∧
      es = [t.header.unwrapEvent C role pin pt, .pinTried role r.isSome]

variable {C : Crypto} {env : Env} {t t' : Token} {role : Role} {pin : Bytes} {es : List Event}
  {d d' : Disk} {rv : Rv}

theorem evalPin_ok {b : Bool} {r : Option Key} (h : t.evalPin C env role pin b = .ok (r, es)) :
    Tried C t role pin r es := by
  unfold evalPin at h
  split at h
  · cases h
  rename_i hlocked
  split at h
  · cases h
  rename_i hinit
  dsimp only at h
  split at h
  · cases h
  rename_i kek hkdf
  obtain ⟨rfl, hiter⟩ := pbkdf2_ok hkdf
  have hnot : t.header.failed.get role < pinMaxFailed := UInt32.not_le.mp hlocked
  have huser : role = .user → t.header.userInitialized = true := by
    intro hrole
    simpa [hrole] using hinit
  split at h
  · cases h
  split at h
  · -- the decryption failed
    cases h
    exact ⟨hnot, huser, hiter, nofun, .inl ⟨rfl, rfl⟩⟩
  · rename_i pt hopen
    have hbytes : t.header.unwrapBytes C role pin = some pt := aesGcmDecrypt_ok hopen
    split at h
    · rename_i hlen
      cases h
      refine ⟨hnot, huser, hiter, ?_, .inr ⟨pt, hbytes, rfl⟩⟩
      rintro dek ⟨⟩
      simp [Header.unwrapDek, hbytes, hlen]
    · cases h
      exact ⟨hnot, huser, hiter, nofun, .inr ⟨pt, hbytes, rfl⟩⟩

theorem Tried.no_sealed {r : Option Key} (h : Tried C t role pin r es) (t' : Token) (key : Key)
    (nonce : Nonce) : .sealed t' key nonce ∉ es := by
  rcases h.events with ⟨-, rfl⟩ | ⟨pt, -, rfl⟩
  · simp
  · simp [Header.unwrapEvent]

theorem loadIfNeeded_cases {file : Option Bytes} (h : t.loadIfNeeded C env file = (t', es)) :
    (t.objectsLoaded = true ∧ t' = t ∧ es = []) ∨
      (t.objectsLoaded = false ∧ ∃ rv, LoadObjectsOutcome C env t file rv t' es) := by
  unfold loadIfNeeded at h
  split at h
  · rename_i hloaded
    cases h
    exact .inl ⟨hloaded, rfl, rfl⟩
  · rename_i hloaded
    refine .inr ⟨by simpa using hloaded, (objectsDecryptLoad C env t file).1, ?_⟩
    apply objectsDecryptLoad_cases
    rw [← h]

/-- What a login loads changes nothing but the store, and records nothing but a decryption. -/
theorem loadIfNeeded_frame {file : Option Bytes} (h : t.loadIfNeeded C env file = (t', es)) :
    (∃ objs next loaded pub, t' =
      { t with objects := objs, nextHandle := next, objectsLoaded := loaded,
               objectsPublic := pub }) ∧
    (es = [] ∨ ∃ key nonce aad ct tag pt, es = [.opened key nonce aad ct tag pt]) := by
  rcases loadIfNeeded_cases h with ⟨-, rfl, rfl⟩ | ⟨-, rv, hload⟩
  · exact ⟨⟨_, _, _, _, rfl⟩, .inl rfl⟩
  · cases hload with
    | refused | failed | noBlob => exact ⟨⟨_, _, _, _, rfl⟩, .inl rfl⟩
    | malformed | loaded => exact ⟨⟨_, _, _, _, rfl⟩, .inr ⟨_, _, _, _, _, _, rfl⟩⟩

/-- Everything `fhsm_token_login` can do. -/
inductive LoginOutcome (C : Crypto) (env : Env) (t : Token) (role : Role) (pin : Bytes) (d : Disk) :
    Rv → Token → Disk → Prop
  | refused (e : Err) : LoginOutcome C env t role pin d (.err e) t d
  | wrong (es : List Event) (htried : Tried C t role pin none es) (hrole : role ≠ .none)
      (t' : Token) (ht' : t' = { t.recordFailure env role with dek := some ⟨zeroKey, false⟩ }) :
    LoginOutcome C env t role pin d (t'.wrongPinRv role) t' (writeAtomic C env t' (d.record es)).2
  | tpmRefused (dek : Key) (es : List Event) (htried : Tried C t role pin (some dek) es)
      (hrole : role ≠ .none) (hfree : t.loggedIn = .none) (htpm : env.tpmRefuses dek = true) :
    LoginOutcome C env t role pin d (.err .deviceError)
      { t with dek := some ⟨zeroKey, t.dekLive⟩ } (d.record es)
  | accepted (dek : Key) (es es' : List Event) (htried : Tried C t role pin (some dek) es)
      (hrole : role ≠ .none) (hfree : t.loggedIn = .none) (htpm : env.tpmRefuses dek = false)
      (t₁ t' : Token)
      (ht₁ : t₁ = { t.clearFailures role with loggedIn := role, dek := some ⟨dek, true⟩ })
      (ht' : t₁.loadIfNeeded C env d.file = (t', es')) :
    LoginOutcome C env t role pin d .ok t'
      (writeAtomic C env t' (d.record (es ++ .cleared role :: es'))).2

theorem login_cases (h : t.login C env role pin d = (rv, t', d')) :
    LoginOutcome C env t role pin d rv t' d' := by
  unfold login at h
  split at h
  · cases h; exact .refused _
  rename_i hsame
  split at h
  · cases h; exact .refused _
  rename_i hfree
  have hfree : t.loggedIn = .none := not_not.mp hfree
  have hrole : role ≠ .none := fun hr => hsame (hfree.trans hr.symm)
  split at h
  · cases h; exact .refused _
  · rename_i es heval
    cases h
    exact .wrong es (evalPin_ok heval) hrole _ rfl
  · rename_i dek es heval
    split at h
    · rename_i htpm
      cases h
      exact .tpmRefused dek es (evalPin_ok heval) hrole hfree htpm
    · rename_i htpm
      cases h
      exact .accepted dek es _ (evalPin_ok heval) hrole hfree (by simpa using htpm) _ _ rfl rfl

/-- A successful login: the PIN opened the wrap of the role, and the token was loaded and written
    under its DEK. -/
theorem login_accepted (h : LoginOutcome C env t role pin d .ok t' d') :
    ∃ dek es es', Tried C t role pin (some dek) es ∧ role ≠ .none ∧ env.tpmRefuses dek = false ∧
      loadIfNeeded C env { t.clearFailures role with loggedIn := role, dek := some ⟨dek, true⟩ }
        d.file = (t', es') ∧ t'.loggedIn = role ∧ t'.dek = some ⟨dek, true⟩ ∧
      d' = (writeAtomic C env t' (d.record (es ++ .cleared role :: es'))).2 := by
  generalize hrv : Rv.ok = rv at h
  cases h with
  | refused | tpmRefused => cases hrv
  | wrong es htried hrole t' ht' =>
    unfold wrongPinRv at hrv
    split at hrv <;> cases hrv
  | accepted dek es es' htried hrole hfree htpm t₁ t' ht₁ hload =>
    subst ht₁
    obtain ⟨⟨objs, next, loaded, pub, hframe⟩, -⟩ := loadIfNeeded_frame hload
    exact ⟨dek, es, es', htried, hrole, htpm, hload, by rw [hframe], by rw [hframe], rfl⟩

theorem login_live (h : LoginOutcome C env t role pin d .ok t' d') :
    role ≠ .none ∧ t'.loggedIn = role ∧ ∃ dek, t'.dek = some ⟨dek, true⟩ := by
  obtain ⟨dek, -, -, -, hrole, -, -, hin, hdek, -⟩ := login_accepted h
  exact ⟨hrole, hin, dek, hdek⟩

/-- Everything `fhsm_token_verify_pin` can do. -/
inductive VerifyOutcome (C : Crypto) (env : Env) (t : Token) (role : Role) (pin : Bytes)
    (d : Disk) : Rv → Token → Disk → Prop
  | refused (e : Err) : VerifyOutcome C env t role pin d (.err e) t d
  | wrong (es : List Event) (htried : Tried C t role pin none es) (hrole : role ≠ .none)
      (t' : Token) (ht' : t' = t.recordFailure env role) :
    VerifyOutcome C env t role pin d (t'.wrongPinRv role) t' (writeAtomic C env t' (d.record es)).2
  | right (dek : Key) (es : List Event) (htried : Tried C t role pin (some dek) es)
      (hrole : role ≠ .none) (t' : Token) (ht' : t' = t.clearFailures role) :
    VerifyOutcome C env t role pin d .ok t'
      (writeAtomic C env t' (d.record (es ++ [.cleared role]))).2

theorem verifyPin_cases (h : t.verifyPin C env role pin d = (rv, t', d')) :
    VerifyOutcome C env t role pin d rv t' d' := by
  unfold verifyPin at h
  split at h
  · cases h; exact .refused _
  rename_i hrole
  split at h
  · cases h; exact .refused _
  · rename_i es heval
    cases h
    exact .wrong es (evalPin_ok heval) hrole _ rfl
  · rename_i dek es heval
    cases h
    exact .right dek es (evalPin_ok heval) hrole _ rfl

/-! ## What setting a PIN can do -/

/-- Nothing makes PBKDF2 or the encryption that wraps a DEK fail. -/
structure CanWrap (env : Env) : Prop where
  running : env.moduleError = false
  kdf : env.kdfErr = none
  wrap : env.wrapErr = none

/-- The token with another wrap for a role. -/
def setWrap (t : Token) (role : Role) (w : Wrap) : Token :=
  { t with header := { t.header with wrap := t.header.wrap.set role w } }

/-- Everything `rewrapDek` can do. -/
inductive RewrapOutcome (C : Crypto) (env : Env) (t : Token) (role : Role) (pin : Bytes)
    (dek : Key) : Option Err → Token → List Event → Prop
  /-- The old ciphertext, or debris, beside the new salt and nonce. -/
  | failed (e : Err) (ct : Vector UInt8 48) (hfail : 1000 ≤ t.header.pbkdf2Iter → ¬ CanWrap env) :
    RewrapOutcome C env t role pin dek (some e) (t.setWrap role ⟨env.rngSalt, env.rngWrapNonce, ct⟩) []
  | done (hcan : CanWrap env) :
    RewrapOutcome C env t role pin dek none
      (t.setWrap role (t.header.wrapFor C env.rngSalt env.rngWrapNonce pin dek))
      [.wrapped (C.pbkdf2 pin env.rngSalt t.header.pbkdf2Iter) env.rngWrapNonce t.header.aad dek]

theorem not_canWrap_of_pbkdf2 {salt : Vector UInt8 16} {iter : UInt32} {e : Err}
    (h : env.pbkdf2 C pin salt iter = .error e) (hiter : 1000 ≤ iter) : ¬ CanWrap env := by
  intro hcan
  have hiter : ¬ iter < 1000 := UInt32.not_lt.mpr hiter
  simp [Env.pbkdf2, hcan.running, hiter, hcan.kdf] at h

theorem not_canWrap_of_wrapDek {old ct : Vector UInt8 48} {kek dek : Key} {nonce : Nonce}
    {aad : Bytes} {e : Err} (h : env.wrapDek C old kek nonce aad dek = (some e, ct)) :
    ¬ CanWrap env := by
  intro hcan
  simp [Env.wrapDek, hcan.running, hcan.wrap] at h

theorem canWrap_of_ok {salt : Vector UInt8 16} {iter : UInt32} {kek kek' dek : Key}
    {old ct : Vector UInt8 48} {nonce : Nonce} {aad : Bytes}
    (hkdf : env.pbkdf2 C pin salt iter = .ok kek)
    (hwrap : env.wrapDek C old kek' nonce aad dek = (none, ct)) : CanWrap env := by
  unfold Env.pbkdf2 at hkdf
  split at hkdf
  · cases hkdf
  rename_i hrun
  split at hkdf
  · cases hkdf
  split at hkdf
  · cases hkdf
  rename_i hnoKdf
  rw [Env.wrapDek, if_neg hrun] at hwrap
  split at hwrap
  · cases hwrap
  rename_i hnoWrap
  exact ⟨by simpa using hrun, hnoKdf, hnoWrap⟩

theorem rewrapDek_cases {dek : Key} {r : Option Err}
    (h : t.rewrapDek C env role pin dek = (r, t', es)) :
    RewrapOutcome C env t role pin dek r t' es := by
  unfold rewrapDek at h
  dsimp only at h
  split at h
  · rename_i hkdf
    cases h
    exact .failed _ _ (not_canWrap_of_pbkdf2 hkdf)
  · rename_i kek hkdf
    obtain ⟨rfl, -⟩ := pbkdf2_ok hkdf
    split at h
    · rename_i hwrap
      cases h
      exact .failed _ _ fun _ => not_canWrap_of_wrapDek hwrap
    · rename_i ct hwrap
      cases h
      have hcan := canWrap_of_ok hkdf hwrap
      rw [wrapDek_ok hwrap]
      exact .done hcan

/-- Everything `fhsm_token_init_user_pin` can do. -/
inductive InitUserPinOutcome (C : Crypto) (env : Env) (t : Token) (pin : Bytes) (d : Disk) :
    Rv → Token → Disk → Prop
  | refused (e : Err) : InitUserPinOutcome C env t pin d (.err e) t d
  | failed (e : Err) (dek : Key) (t' : Token) (hdek : t.liveDek = some dek)
      (hre : RewrapOutcome C env t .user (cstr pin) dek (some e) t' []) :
    InitUserPinOutcome C env t pin d (.err e) t' d
  | done (dek : Key) (es : List Event) (t₁ t' : Token) (rv : Rv) (d' : Disk)
      (hso : t.loggedIn = .so) (hdek : t.liveDek = some dek)
      (hre : RewrapOutcome C env t .user (cstr pin) dek none t₁ es)
      (ht' : t' = { t₁.clearFailures .user with
        header := { (t₁.clearFailures .user).header with userInitialized := true } })
      (hwrite : writeAtomic C env t' (d.record (es ++ [.cleared .user])) = (rv, d')) :
    InitUserPinOutcome C env t pin d rv t' d'

theorem initUserPin_cases (h : t.initUserPin C env pin d = (rv, t', d')) :
    InitUserPinOutcome C env t pin d rv t' d' := by
  unfold initUserPin at h
  split at h
  · cases h; exact .refused _
  split at h
  · rename_i dek hso hdek
    split at h
    · rename_i e t₁ es hre
      have hcase := rewrapDek_cases hre
      cases h
      cases hcase
      rw [Disk.record_nil]
      exact .failed e dek _ hdek (rewrapDek_cases hre)
    · rename_i t₁ es hre
      cases h
      exact .done dek es t₁ _ _ _ hso hdek (rewrapDek_cases hre) rfl rfl
  · cases h; exact .refused _

/-- Everything `fhsm_token_set_pin` can do. -/
inductive SetPinOutcome (C : Crypto) (loginEnv env : Env) (t : Token) (role : Role)
    (oldPin newPin : Bytes) (d : Disk) : Rv → Token → Disk → Prop
  | refused (e : Err) : SetPinOutcome C loginEnv env t role oldPin newPin d (.err e) t d
  | noLogin (e : Err) (t' : Token) (d' : Disk)
      (hlogin : LoginOutcome C loginEnv t role (cstr oldPin) d (.err e) t' d')
      (hfirst : ¬ (cstr newPin).length < 4 ∧ t.login C loginEnv role (cstr oldPin) d = (.err e, t', d')) :
    SetPinOutcome C loginEnv env t role oldPin newPin d (.err e) t' d'
  | failed (e : Err) (dek : Key) (t₁ t' : Token) (d₁ : Disk)
      (hlogin : LoginOutcome C loginEnv t role (cstr oldPin) d .ok t₁ d₁)
      (hre : RewrapOutcome C env t₁ role (cstr newPin) dek (some e) t' [])
      (hfirst : ¬ (cstr newPin).length < 4 ∧ t.login C loginEnv role (cstr oldPin) d = (.ok, t₁, d₁)) :
    SetPinOutcome C loginEnv env t role oldPin newPin d (.err e) t' d₁
  | done (dek : Key) (es : List Event) (t₁ t' : Token) (d₁ d' : Disk) (rv : Rv)
      (hlogin : LoginOutcome C loginEnv t role (cstr oldPin) d .ok t₁ d₁)
      (hdek : dek = (t₁.dek.map Dek.key).getD zeroKey)
      (hre : RewrapOutcome C env t₁ role (cstr newPin) dek none t' es)
      (hwrite : writeAtomic C env t' (d₁.record es) = (rv, d'))
      (hfirst : ¬ (cstr newPin).length < 4 ∧ t.login C loginEnv role (cstr oldPin) d = (.ok, t₁, d₁)) :
    SetPinOutcome C loginEnv env t role oldPin newPin d rv t' d'

theorem setPin_cases {loginEnv : Env} {oldPin newPin : Bytes}
    (h : t.setPin C loginEnv env role oldPin newPin d = (rv, t', d')) :
    SetPinOutcome C loginEnv env t role oldPin newPin d rv t' d' := by
  unfold setPin at h
  split at h
  · cases h; exact .refused _
  rename_i hlong
  split at h
  · rename_i e t₁ d₁ hlogin
    cases h
    exact .noLogin e _ _ (login_cases hlogin) ⟨hlong, hlogin⟩
  · rename_i t₁ d₁ hlogin
    split at h
    · rename_i e t₂ es hre
      have hcase := rewrapDek_cases hre
      cases h
      cases hcase
      rw [Disk.record_nil]
      exact .failed e _ t₁ _ d₁ (login_cases hlogin) (rewrapDek_cases hre) ⟨hlong, hlogin⟩
    · rename_i t₂ es hre
      cases h
      exact .done _ es t₁ _ d₁ _ _ (login_cases hlogin) rfl (rewrapDek_cases hre) rfl ⟨hlong, hlogin⟩

/-! ## What creating a token can do -/

/-- The token `fhsm_token_init` builds. -/
def initialToken (C : Crypto) (env : Env) (soPin label : Bytes) : Token :=
  let header := freshHeader env zeroed.header label env.rngSaltUser
  { zeroed with
    header := { header with
      wrap := header.wrap.set .so
        (header.wrapFor C env.rngSalt env.rngWrapNonce (cstr soPin) env.rngDek) }
    dek := some ⟨env.rngDek, true⟩
    nextHandle := 1
    objectsLoaded := true }

/-- The history entry of wrapping the DEK of a new token. -/
def wrappedEvent (C : Crypto) (env : Env) (header : Header) (pin : Bytes) : Event :=
  .wrapped (C.pbkdf2 (cstr pin) env.rngSalt newPbkdf2Iter) env.rngWrapNonce header.aad env.rngDek

/-- Everything `fhsm_token_init` can do. -/
inductive InitOutcome (C : Crypto) (env : Env) (soPin label : Bytes) (d : Disk) :
    Rv → Option Token → Disk → Prop
  | refused (e : Err) : InitOutcome C env soPin label d (.err e) none d
  | notSealed (e : Err) (hcan : CanWrap env) :
    InitOutcome C env soPin label d (.err e) none
      (d.record [wrappedEvent C env (initialToken C env soPin label).header soPin])
  | written (rv : Rv) (d' : Disk)
      (hwrite : writeAtomic C env (initialToken C env soPin label) (d.record
        [wrappedEvent C env (initialToken C env soPin label).header soPin,
          .cleared .so, .cleared .user]) = (rv, d')) (hcan : CanWrap env) :
    InitOutcome C env soPin label d (if rv = .ok then .ok else .err .functionFailed)
      (if rv = .ok then some (initialToken C env soPin label) else none) d'

theorem init_cases {soPin label : Bytes} {t : Option Token}
    (h : Token.init C env soPin label d = (rv, t, d')) :
    InitOutcome C env soPin label d rv t d' := by
  unfold Token.init at h
  split at h
  · cases h; exact .refused _
  split at h
  · cases h; exact .refused _
  dsimp only at h
  split at h
  · cases h; exact .refused _
  rename_i kek hkdf
  obtain ⟨rfl, -⟩ := pbkdf2_ok hkdf
  split at h
  · cases h; exact .refused _
  rename_i ct hwrap
  have hcan := canWrap_of_ok hkdf hwrap
  rw [wrapDek_ok hwrap] at h
  split at h
  · cases h; exact .notSealed _ hcan
  split at h
  · rename_i d₁ hwrite
    rw [Disk.record_record] at hwrite
    cases h
    exact .written .ok _ hwrite hcan
  · rename_i e d₁ hwrite
    rw [Disk.record_record] at hwrite
    cases h
    exact .written (.err e) _ hwrite hcan

/-- Everything `fhsm_token_load` can do. -/
inductive LoadOutcome (env : Env) (d : Disk) : Rv → Option Token → Prop
  | refused (e : Err) : LoadOutcome env d (.err e) none
  | done (f : Bytes) (header : Header) (until₀ : PerRole Nat) (hfile : d.file = some f)
      (hlen : tokFileSize ≤ f.length) (hdecode : Header.decode f = some header) :
    LoadOutcome env d .ok
      (some (publicViewLoad env { zeroed with header := header, throttleUntilMs := until₀ } d.file))

theorem load_cases {t : Option Token} (h : Token.load env d = (rv, t)) :
    LoadOutcome env d rv t := by
  unfold Token.load at h
  split at h
  · cases h; exact .refused _
  · cases h; exact .refused _
  · rename_i f hfile hread
    split at h
    · cases h; exact .refused _
    rename_i hlen
    split at h
    · cases h; exact .refused _
    rename_i header hdecode
    split at h
    · cases h; exact .refused _
    cases h
    have hfile : d.file = some f := by
      split at hfile
      · cases hfile
      · exact hfile
    exact .done f header _ hfile (Nat.not_lt.mp hlen) hdecode

/-- The token `fhsm_token_reinit` builds. -/
def reinitToken (C : Crypto) (env : Env) (t : Token) (newSoPin label : Bytes) : Token :=
  let header := freshHeader env t.header label (Vector.replicate 16 0)
  { header := { header with
      wrap := header.wrap.set .so
        (header.wrapFor C env.rngSalt env.rngWrapNonce (cstr newSoPin) env.rngDek)
      userInitialized := false
      failed := ⟨0, 0⟩ }
    throttleUntilMs := ⟨0, 0⟩
    dek := some ⟨env.rngDek, true⟩
    loggedIn := .none
    objects := .empty
    nextHandle := 1
    objectsLoaded := true
    objectsPublic := false }

/-- Everything `fhsm_token_reinit` can do. -/
inductive ReinitOutcome (C : Crypto) (env : Env) (t : Token) (newSoPin label : Bytes) (d : Disk) :
    Rv → Token → Disk → Prop
  | refused (e : Err) : ReinitOutcome C env t newSoPin label d (.err e) t d
  /-- The old wraps are gone and there is no buffer for a new DEK. -/
  | noBuffer (e : Err) (hdek : t.dek = none) (halloc : env.secureAlloc = false) (h : Header)
      (hfailed : h.failed = t.header.failed) :
    ReinitOutcome C env t newSoPin label d (.err e) { t with header := h } d
  /-- The new DEK is live and the store is empty, but nothing wraps the DEK. -/
  | notWrapped (e : Err) (hfail : ¬ CanWrap env) (h : Header)
      (hfailed : h.failed = t.header.failed) :
    ReinitOutcome C env t newSoPin label d (.err e)
      { t with header := h, dek := some ⟨env.rngDek, true⟩, objects := .empty,
               objectsPublic := false, nextHandle := 1, objectsLoaded := true } d
  | written (rv : Rv) (d' : Disk)
      (hwrite : writeAtomic C env (t.reinitToken C env newSoPin label) (d.record
        [wrappedEvent C env (t.reinitToken C env newSoPin label).header newSoPin,
          .cleared .so, .cleared .user]) = (rv, d')) (hcan : CanWrap env) :
    ReinitOutcome C env t newSoPin label d rv (t.reinitToken C env newSoPin label) d'

theorem reinit_cases {newSoPin label : Bytes} (h : t.reinit C env newSoPin label d = (rv, t', d')) :
    ReinitOutcome C env t newSoPin label d rv t' d' := by
  unfold reinit at h
  split at h
  · cases h; exact .refused _
  dsimp only at h
  split at h
  · rename_i hbuf
    simp only [Bool.and_eq_true, Option.isNone_iff_eq_none, Bool.not_eq_true'] at hbuf
    cases h
    exact .noBuffer _ hbuf.1 hbuf.2 _ rfl
  · split at h
    · rename_i hkdf
      cases h
      exact .notWrapped _ (not_canWrap_of_pbkdf2 hkdf (by decide)) _ rfl
    · rename_i kek hkdf
      obtain ⟨rfl, -⟩ := pbkdf2_ok hkdf
      split at h
      · rename_i hwrap
        cases h
        exact .notWrapped _ (not_canWrap_of_wrapDek hwrap) _ rfl
      · rename_i ct hwrap
        have hcan := canWrap_of_ok hkdf hwrap
        rw [wrapDek_ok hwrap] at h
        cases h
        exact .written _ _ rfl hcan

end Token

end FreeHsm
