import FreeHsm.Token.Run

/-!
# The live DEK is the wrapped DEK

`dek_live`, the DEK buffer and the two wraps are separate fields. The invariant
that ties them together is: a live DEK is what the SO wrap, and the USER wrap once
there is one, unwraps to. Then whatever `write_atomic` encrypts can be read back
after a login.

Two kinds of exit break it: a TPM refusal wipes the buffer of a live DEK, and a
failure between the new salt and the new ciphertext of a wrap leaves a wrap that no
PIN opens. `TokenOp.Safe` excludes exactly these; on every other call the invariant
is preserved.
-/

namespace FreeHsm

open ByteLayout Token Transition
open List hiding Vector

/-- Decrypting with the KEK of another PIN fails. -/
def Crypto.OtherKekFails (C : Crypto) : Prop :=
  ∀ pin pin' salt iter nonce aad pt, C.pbkdf2 pin' salt iter ≠ C.pbkdf2 pin salt iter →
    C.decrypt (C.pbkdf2 pin' salt iter) nonce aad
      (C.encrypt (C.pbkdf2 pin salt iter) nonce aad pt).1
      (C.encrypt (C.pbkdf2 pin salt iter) nonce aad pt).2 = none

namespace Header

variable {C : Crypto} {h h' : Header} {role : Role} {dek : Key}

/-- The wrap of a role unwraps to `dek`: some PIN opens it, and no PIN opens it to anything
    else. -/
def WrapsDek (C : Crypto) (h : Header) (role : Role) (dek : Key) : Prop :=
  (∃ pin, h.unwrapDek C role pin = some dek) ∧
    ∀ pin dek', h.unwrapDek C role pin = some dek' → dek' = dek

/-- `dek` is the DEK of the token: the SO wrap and, once the USER PIN is set, the USER wrap
    unwrap to it. -/
def Protects (C : Crypto) (h : Header) (dek : Key) : Prop :=
  h.WrapsDek C .so dek ∧ (h.userInitialized = true → h.WrapsDek C .user dek)

theorem WrapsDek.congr (hw : h'.wrap.get role = h.wrap.get role)
    (hiter : h'.pbkdf2Iter = h.pbkdf2Iter) (haad : h'.aad = h.aad) (hd : h.WrapsDek C role dek) :
    h'.WrapsDek C role dek := by
  have hsame : ∀ pin, h'.unwrapDek C role pin = h.unwrapDek C role pin := by
    intro pin
    simp only [unwrapDek, unwrapBytes, hw, hiter, haad]
  obtain ⟨⟨pin, hpin⟩, huniq⟩ := hd
  exact ⟨⟨pin, by rw [hsame, hpin]⟩, fun pin dek' hpin' => huniq pin dek' (by rw [← hsame, hpin'])⟩

theorem openedBy_wrapFor (hC : C.OtherKekFails) {salt : Vector UInt8 16} {nonce : Nonce}
    {pin : Bytes} (hw : h.wrap.get role = h.wrapFor C salt nonce pin dek) :
    h.OpenedBy C role pin dek := by
  have hlen : (C.encrypt (C.pbkdf2 pin salt h.pbkdf2Iter) nonce h.aad dek.toList).1.length = 32 := by
    rw [C.length_encrypt, Vector.length_toList]
  rcases hseal : C.encrypt (C.pbkdf2 pin salt h.pbkdf2Iter) nonce h.aad dek.toList with ⟨ct, tag⟩
  rw [hseal] at hlen
  -- the buffer is ciphertext and tag side by side
  have hbuf : (h.wrap.get role).ct.toList = ct ++ tag.toList := by
    rw [hw]
    simp only [wrapFor, hseal]
    exact toList_vecAt (by rw [length_append, hlen, Vector.length_toList])
  have hct : (h.wrap.get role).ct.toList.take 32 = ct := by rw [hbuf, take_left' hlen]
  have htag : vecAt (h.wrap.get role).ct.toList 32 16 = tag := by
    have happ := vecAt_append_right ct tag.toList 0 16
    rw [hlen] at happ
    have hself := vecAt_toList_append tag []
    rw [append_nil] at hself
    rw [hbuf, happ, hself]
  have hsalt : (h.wrap.get role).salt = salt := by rw [hw]; simp only [wrapFor, hseal]
  have hnonce : (h.wrap.get role).nonce = nonce := by rw [hw]; simp only [wrapFor, hseal]
  have hbytes : ∀ pin', h.unwrapBytes C role pin' =
      C.decrypt (C.pbkdf2 pin' salt h.pbkdf2Iter) nonce h.aad ct tag := by
    intro pin'
    simp only [unwrapBytes, hct, htag, hsalt, hnonce]
  have hopen : C.decrypt (C.pbkdf2 pin salt h.pbkdf2Iter) nonce h.aad ct tag = some dek.toList := by
    have hopen := C.decrypt_encrypt (C.pbkdf2 pin salt h.pbkdf2Iter) nonce h.aad dek.toList
    rwa [hseal] at hopen
  have hself : vecAt dek.toList 0 32 = dek := by
    have hself := vecAt_toList_append dek []
    rwa [append_nil] at hself
  intro pin'
  rw [hsalt]
  split
  · -- the same KEK gives the same DEK
    rename_i hkek
    simp [unwrapDek, hbytes, hkek, hopen, hself]
  · rename_i hkek
    have hfail := hC pin pin' salt h.pbkdf2Iter nonce h.aad dek.toList hkek
    rw [hseal] at hfail
    simp [unwrapDek, hbytes, hfail]

theorem wrapsDek_wrapFor (hC : C.OtherKekFails) {salt : Vector UInt8 16} {nonce : Nonce}
    {pin : Bytes} (hw : h.wrap.get role = h.wrapFor C salt nonce pin dek) :
    h.WrapsDek C role dek := by
  have hopens := openedBy_wrapFor hC hw
  refine ⟨⟨pin, by rw [hopens pin, if_pos rfl]⟩, fun pin' dek' hdek' => ?_⟩
  rw [hopens pin'] at hdek'
  split at hdek' <;> cases hdek'
  rfl

/-- Only the wraps, the iteration count, the serial and the user flag matter to the DEK. -/
theorem Protects.congr (hw : h'.wrap = h.wrap) (hiter : h'.pbkdf2Iter = h.pbkdf2Iter)
    (haad : h'.aad = h.aad) (huser : h'.userInitialized = h.userInitialized)
    (hd : h.Protects C dek) : h'.Protects C dek :=
  ⟨hd.1.congr (by rw [hw]) hiter haad,
    fun hinit => (hd.2 (huser ▸ hinit)).congr (by rw [hw]) hiter haad⟩

theorem Protects.wrapsDek (hd : h.Protects C dek) (hrole : role ≠ .none)
    (huser : role = .user → h.userInitialized = true) : h.WrapsDek C role dek := by
  cases role with
  | none => exact absurd rfl hrole
  | user => exact hd.2 (huser rfl)
  | so => exact hd.1

/-- Wrapping the same DEK under a new PIN keeps it the DEK of the token. -/
theorem Protects.rewrap (hC : C.OtherKekFails) (hd : h.Protects C dek) (hrole : role ≠ .none)
    (salt : Vector UInt8 16) (nonce : Nonce) (pin : Bytes)
    (hw : h'.wrap = h.wrap.set role (h.wrapFor C salt nonce pin dek))
    (hiter : h'.pbkdf2Iter = h.pbkdf2Iter) (haad : h'.aad = h.aad)
    (huser : role ≠ .user → h'.userInitialized = h.userInitialized) : h'.Protects C dek := by
  have hsame : h'.wrapFor C salt nonce pin dek = h.wrapFor C salt nonce pin dek := by
    simp only [wrapFor, hiter, haad]
  have hnew : h'.WrapsDek C role dek := by
    apply wrapsDek_wrapFor hC
    rw [hw, PerRole.get_set_self, hsame]
  have hother : ∀ r, r ≠ .none → r ≠ role → h'.wrap.get r = h.wrap.get r := by
    intro r hr hne
    rw [hw, PerRole.get_set_of_ne _ _ hrole hr hne]
  cases role with
  | none => exact absurd rfl hrole
  | so =>
    refine ⟨hnew, fun hinit => ?_⟩
    have hinit : h.userInitialized = true := by rw [← huser nofun, hinit]
    exact (hd.2 hinit).congr (hother .user nofun nofun) hiter haad
  | user => exact ⟨hd.1.congr (hother .so nofun nofun) hiter haad, fun _ => hnew⟩

end Header

/-! ## The invariant -/

/-- The header wraps one DEK, which is not the zero key, and a live DEK is that one. -/
def Token.DekOk (C : Crypto) (t : Token) : Prop :=
  ∃ dek, dek ≠ zeroKey ∧ t.header.Protects C dek ∧
    ∀ key, t.liveDek = some key → key = dek ∧ 1000 ≤ t.header.pbkdf2Iter

/-- The header a file starts with wraps one DEK, which is not the zero key. -/
def FileDekOk (C : Crypto) (file : Option Bytes) : Prop :=
  ∀ f h, file = some f → Header.decode f = some h → ∃ dek, dek ≠ zeroKey ∧ h.Protects C dek

/-- Every blob was encrypted under the DEK its token's header wraps. -/
def SealedOk (C : Crypto) (log : List Event) : Prop :=
  ∀ t key nonce, .sealed t key nonce ∈ log → key ≠ zeroKey ∧ t.header.Protects C key

structure Disk.DekOk (C : Crypto) (d : Disk) : Prop where
  file : FileDekOk C d.file
  log : SealedOk C d.log

structure World.DekOk (C : Crypto) (w : World) : Prop where
  tok : ∀ t, w.tok = some t → t.DekOk C
  disk : w.disk.DekOk C

section

variable {C : Crypto} {env : Env} {t t' : Token} {d d' : Disk} {rv : Rv}

theorem Token.DekOk.protects {key : Key} (h : t.DekOk C) (hlive : t.liveDek = some key) :
    key ≠ zeroKey ∧ t.header.Protects C key := by
  obtain ⟨dek, hzero, hprot, hkey⟩ := h
  obtain ⟨rfl, -⟩ := hkey key hlive
  exact ⟨hzero, hprot⟩

/-- The invariant of a token looks at its header and its live DEK only. -/
theorem Token.DekOk.congr (hheader : t'.header = t.header) (hdek : t'.dek = t.dek)
    (h : t.DekOk C) : t'.DekOk C := by
  have hlive : t'.liveDek = t.liveDek := by simp only [liveDek, hdek]
  simpa only [DekOk, hheader, hlive] using h

theorem Disk.DekOk.record {es : List Event} (h : d.DekOk C)
    (hes : ∀ t key nonce, .sealed t key nonce ∉ es) : (d.record es).DekOk C := by
  refine ⟨h.file, fun t key nonce hmem => ?_⟩
  rcases mem_append.mp hmem with hmem | hmem
  · exact h.log t key nonce hmem
  · exact absurd hmem (hes t key nonce)

/-- A write by a token that satisfies the invariant. -/
theorem Disk.DekOk.write (h : writeAtomic C env t d = (rv, d')) (ht : t.DekOk C) (hd : d.DekOk C) :
    d'.DekOk C := by
  have hfile : ∀ tail, FileDekOk C (some (t.header.encode ++ tail)) := by
    rintro tail f h ⟨⟩ hdecode
    rw [t.header.decode_encode, Option.some.injEq] at hdecode
    obtain ⟨dek, hzero, hprot, -⟩ := ht
    exact ⟨dek, hzero, hdecode ▸ hprot⟩
  have hseal : ∀ {dek nonce rv}, t.liveDek = some dek →
      SealedOk C (d.log ++ [.sealed t dek nonce, .wrote rv]) := by
    intro dek nonce rv hlive t' key nonce' hmem
    rcases mem_append.mp hmem with hmem | hmem
    · exact hd.log t' key nonce' hmem
    · simp only [mem_cons, Event.sealed.injEq, reduceCtorEq, not_mem_nil, or_self, or_false] at hmem
      obtain ⟨rfl, rfl, -⟩ := hmem
      exact ht.protects hlive
  have hwrote : ∀ rv, SealedOk C (d.log ++ [.wrote rv]) := by
    intro rv
    have hrec : (d.record [.wrote rv]).DekOk C := hd.record (by simp)
    exact hrec.log
  cases writeAtomic_cases h with
  | failed e => exact ⟨hd.file, hwrote _⟩
  | lost dek hdek => exact ⟨hd.file, hseal hdek⟩
  | kept | emptied => exact ⟨hfile _, hwrote _⟩
  | stored dek hdek => exact ⟨hfile _, hseal hdek⟩

/-! ## PIN attempts -/

theorem Token.DekOk.recordFailure (env : Env) (role : Role) (h : t.DekOk C) :
    (t.recordFailure env role).DekOk C := by
  obtain ⟨dek, hzero, hprot, hkey⟩ := h
  exact ⟨dek, hzero, hprot.congr rfl rfl rfl rfl, hkey⟩

theorem Token.DekOk.clearFailures (role : Role) (h : t.DekOk C) :
    (t.clearFailures role).DekOk C := by
  obtain ⟨dek, hzero, hprot, hkey⟩ := h
  exact ⟨dek, hzero, hprot.congr rfl rfl rfl rfl, hkey⟩

theorem Token.DekOk.notLive (h : t.DekOk C) (hheader : t'.header = t.header)
    (hdek : t'.liveDek = none) : t'.DekOk C := by
  obtain ⟨dek, hzero, hprot, -⟩ := h
  refine ⟨dek, hzero, hheader ▸ hprot, ?_⟩
  intro key hlive
  rw [hdek] at hlive
  cases hlive

variable {role : Role} {pin : Bytes} {dek : Key}

theorem Token.Tried.dek_eq {dek' : Key} {es : List Event} (h : Tried C t role pin (some dek) es)
    (hrole : role ≠ .none) (hprot : t.header.Protects C dek') : dek = dek' :=
  (hprot.wrapsDek hrole h.initialized).2 pin dek (h.right dek rfl)

/-- The TPM does not refuse a login with the right PIN while a DEK is live. -/
def Token.TpmSafe (C : Crypto) (env : Env) (t : Token) (role : Role) (pin : Bytes) : Prop :=
  ∀ key, t.liveDek = some key → t.header.unwrapDek C role pin = some key →
    env.tpmRefuses key = false

theorem dekOk_login (h : LoginOutcome C env t role pin d rv t' d') (ht : t.DekOk C) (hd : d.DekOk C)
    (hsafe : t.TpmSafe C env role pin) : t'.DekOk C ∧ d'.DekOk C := by
  cases h with
  | refused => exact ⟨ht, hd⟩
  | wrong es htried hrole t' ht' =>
    have ht' : t'.DekOk C := by
      subst ht'
      exact (ht.recordFailure env role).notLive rfl rfl
    exact ⟨ht', .write rfl ht' (hd.record htried.no_sealed)⟩
  | tpmRefused dek es htried hrole hfree htpm =>
    refine ⟨?_, hd.record htried.no_sealed⟩
    cases hlive : t.liveDek with
    | none =>
      have hdead : t.dekLive = false := by rw [dekLive, hlive]; rfl
      exact ht.notLive rfl (by rw [hdead]; rfl)
    | some key =>
      -- the PIN is right and its DEK is the live one: excluded
      obtain ⟨-, hprot⟩ := ht.protects hlive
      obtain rfl := htried.dek_eq hrole hprot
      rw [hsafe dek hlive (htried.right dek rfl)] at htpm
      cases htpm
  | accepted dek es es' htried hrole hfree htpm t₁ t' ht₁ hload =>
    have ht₁ : t₁.DekOk C := by
      obtain ⟨dek', hzero, hprot, -⟩ := ht
      obtain rfl := htried.dek_eq hrole hprot
      subst ht₁
      refine ⟨dek, hzero, hprot.congr rfl rfl rfl rfl, ?_⟩
      rintro key ⟨⟩
      exact ⟨rfl, htried.iter⟩
    obtain ⟨⟨objs, next, loaded, pub, hframe⟩, hes'⟩ := loadIfNeeded_frame hload
    have ht' : t'.DekOk C := ht₁.congr (by rw [hframe]) (by rw [hframe])
    refine ⟨ht', .write rfl ht' (hd.record ?_)⟩
    intro t'' key nonce hmem
    rcases mem_append.mp hmem with hmem | hmem
    · exact htried.no_sealed t'' key nonce hmem
    · rcases hes' with rfl | ⟨_, _, _, _, _, _, rfl⟩ <;> simp at hmem

theorem dekOk_verifyPin (h : VerifyOutcome C env t role pin d rv t' d') (ht : t.DekOk C)
    (hd : d.DekOk C) : t'.DekOk C ∧ d'.DekOk C := by
  cases h with
  | refused => exact ⟨ht, hd⟩
  | wrong es htried hrole t' ht' =>
    have ht' : t'.DekOk C := ht' ▸ ht.recordFailure env role
    exact ⟨ht', .write rfl ht' (hd.record htried.no_sealed)⟩
  | right dek es htried hrole t' ht' =>
    have ht' : t'.DekOk C := ht' ▸ ht.clearFailures role
    refine ⟨ht', .write rfl ht' (hd.record ?_)⟩
    intro t'' key nonce hmem
    simp [htried.no_sealed] at hmem

/-! ## New wraps -/

section

variable (hC : C.OtherKekFails)

include hC

theorem dekOk_initUserPin (h : InitUserPinOutcome C env t pin d rv t' d') (ht : t.DekOk C)
    (hd : d.DekOk C) (hsafe : t.header.userInitialized = true → CanWrap env) :
    t'.DekOk C ∧ d'.DekOk C := by
  cases h with
  | refused => exact ⟨ht, hd⟩
  | failed e dek t' hdek hre =>
    refine ⟨?_, hd⟩
    cases hre with | failed e ct hfail =>
    obtain ⟨dek', hzero, hprot, hkey⟩ := ht
    -- the user wrap is lost, so there was none
    have hnone : ¬ t.header.userInitialized = true := fun hinit =>
      hfail (hkey dek hdek).2 (hsafe hinit)
    exact ⟨dek', hzero, ⟨hprot.1.congr rfl rfl rfl, fun hinit => absurd hinit hnone⟩, hkey⟩
  | done dek es t₁ t' rv d' hso hdek hre ht' hwrite =>
    cases hre
    have ht' : t'.DekOk C := by
      obtain ⟨dek', hzero, hprot, hkey⟩ := ht
      obtain ⟨rfl, -⟩ := hkey dek hdek
      subst ht'
      refine ⟨dek, hzero, ?_, hkey⟩
      have hrole : Role.user ≠ .none := nofun
      exact hprot.rewrap hC hrole env.rngSalt env.rngWrapNonce (cstr pin)
        rfl rfl rfl (fun hne => absurd rfl hne)
    exact ⟨ht', .write hwrite ht' (hd.record (by simp))⟩

theorem dekOk_setPin {loginEnv : Env} {oldPin newPin : Bytes}
    (h : SetPinOutcome C loginEnv env t role oldPin newPin d rv t' d') (ht : t.DekOk C)
    (hd : d.DekOk C) (hsafe : t.TpmSafe C loginEnv role (cstr oldPin)) (hwrap : CanWrap env) :
    t'.DekOk C ∧ d'.DekOk C := by
  cases h with
  | refused => exact ⟨ht, hd⟩
  | noLogin e t' d' hlogin => exact dekOk_login hlogin ht hd hsafe
  | failed e dek t₁ t' d₁ hlogin hre =>
    cases hre with | failed e ct hfail =>
    -- the login left a live DEK, so the iteration count is allowed
    obtain ⟨dek', hzero, hprot, hkey⟩ := (dekOk_login hlogin ht hd hsafe).1
    obtain ⟨-, -, key, hkeyEq⟩ := login_live hlogin
    have hlive : t₁.liveDek = some key := by rw [liveDek, hkeyEq]
    exact absurd hwrap (hfail (hkey key hlive).2)
  | done dek es t₁ t' d₁ d' rv hlogin hdek hre hwrite =>
    cases hre
    obtain ⟨⟨dek', hzero, hprot, hkey⟩, hd₁⟩ := dekOk_login hlogin ht hd hsafe
    obtain ⟨hrole, -, key, hkeyEq⟩ := login_live hlogin
    have hlive : t₁.liveDek = some dek := by
      rw [hdek, liveDek, hkeyEq]
      rfl
    obtain ⟨rfl, -⟩ := hkey dek hlive
    have ht' : (t₁.setWrap role (t₁.header.wrapFor C env.rngSalt env.rngWrapNonce (cstr newPin)
        dek)).DekOk C :=
      ⟨dek, hzero, hprot.rewrap hC hrole _ _ _ rfl rfl rfl (fun _ => rfl), hkey⟩
    exact ⟨ht', .write hwrite ht' (hd₁.record (by simp))⟩

/-! ## New tokens -/

/-- A new header whose SO wrap was made from the live DEK, without a user. -/
theorem Token.DekOk.fresh {salt : Vector UInt8 16} {nonce : Nonce} (hzero : dek ≠ zeroKey)
    (hdek : t.dek = some ⟨dek, true⟩)
    (hwrap : t.header.wrap.get .so = t.header.wrapFor C salt nonce pin dek)
    (huser : t.header.userInitialized = false) (hiter : 1000 ≤ t.header.pbkdf2Iter) :
    t.DekOk C := by
  refine ⟨dek, hzero, ⟨Header.wrapsDek_wrapFor hC hwrap, ?_⟩, ?_⟩
  · intro hinit
    rw [huser] at hinit
    cases hinit
  · intro key hlive
    rw [liveDek, hdek] at hlive
    cases hlive
    exact ⟨rfl, hiter⟩

theorem dekOk_init {soPin label : Bytes} {tok : Option Token}
    (h : InitOutcome C env soPin label d rv tok d') (hd : d.DekOk C) (hdraw : env.rngDek ≠ zeroKey) :
    (∀ t, tok = some t → t.DekOk C) ∧ d'.DekOk C := by
  have hnew : (initialToken C env soPin label).DekOk C :=
    .fresh hC hdraw rfl rfl rfl (show 1000 ≤ newPbkdf2Iter by decide)
  cases h with
  | refused => exact ⟨nofun, hd⟩
  | notSealed e => exact ⟨nofun, hd.record (by simp [wrappedEvent])⟩
  | written rv d' hwrite =>
    refine ⟨?_, .write hwrite hnew (hd.record (by simp [wrappedEvent]))⟩
    intro t ht
    split at ht <;> cases ht
    exact hnew

end

theorem dekOk_load {tok : Option Token} (h : LoadOutcome env d rv tok) (hd : d.DekOk C) :
    ∀ t, tok = some t → t.DekOk C := by
  cases h with
  | refused => nofun
  | done f header until₀ hfile hlen hdecode =>
    rintro t ⟨⟩
    obtain ⟨dek, hzero, hprot⟩ := hd.file f header hfile hdecode
    obtain ⟨objs, next, pub, hframe⟩ := publicViewLoad_frame env
      { zeroed with header := header, throttleUntilMs := until₀ } d.file
    rw [hframe]
    exact ⟨dek, hzero, hprot, nofun⟩

theorem dekOk_reinit (hC : C.OtherKekFails) {newSoPin label : Bytes}
    (h : ReinitOutcome C env t newSoPin label d rv t' d') (ht : t.DekOk C) (hd : d.DekOk C)
    (hdraw : env.rngDek ≠ zeroKey) (hwrap : CanWrap env)
    (halloc : t.dek = none → env.secureAlloc = true) : t'.DekOk C ∧ d'.DekOk C := by
  cases h with
  | refused => exact ⟨ht, hd⟩
  | noBuffer e hdek hfail =>
    rw [halloc hdek] at hfail
    cases hfail
  | notWrapped e hfail => exact absurd hwrap hfail
  | written rv d' hwrite =>
    have hnew : (t.reinitToken C env newSoPin label).DekOk C :=
      .fresh hC hdraw rfl rfl rfl (show 1000 ≤ newPbkdf2Iter by decide)
    exact ⟨hnew, .write hwrite hnew (hd.record (by simp [wrappedEvent]))⟩

end

/-! ## Runs -/

/-- The calls that keep the invariant. A new DEK is not the zero key; a login with the right PIN
    is not refused by the TPM while a DEK is live; and a wrap that is replaced is replaced
    completely. -/
def TokenOp.Safe (C : Crypto) (w : World) : TokenOp → Prop
  | .init env _ _ => env.rngDek ≠ zeroKey
  | .login env role pin => ∀ t, w.tok = some t → t.TpmSafe C env role pin
  | .initUserPin env _ =>
    ∀ t, w.tok = some t → t.header.userInitialized = true → CanWrap env
  | .setPin loginEnv env role oldPin _ =>
    (∀ t, w.tok = some t → t.TpmSafe C loginEnv role (cstr oldPin)) ∧ CanWrap env
  | .reinit env _ _ =>
    env.rngDek ≠ zeroKey ∧ CanWrap env ∧ ∀ t, w.tok = some t → t.dek = none → env.secureAlloc = true
  | _ => True

theorem dekOk_step {C : Crypto} (hC : C.OtherKekFails) (w : World) (op : TokenOp)
    (hw : w.DekOk C) (hsafe : op.Safe C w) : (w.step C op).DekOk C := by
  -- the token and the disk of the next state, for calls on a loaded token
  have hnext : ∀ {t : Token} {d : Disk}, t.DekOk C ∧ d.DekOk C → World.DekOk C ⟨some t, d⟩ := by
    rintro t d ⟨ht, hd⟩
    exact ⟨by rintro _ ⟨⟩; exact ht, hd⟩
  obtain ⟨rv, hcase⟩ := step_cases C w op
  generalize w.step C op = w' at hcase
  cases hcase with
  | idle => exact hw
  | init env soPin label rv t d hnone h =>
    obtain ⟨ht, hd⟩ := dekOk_init hC h hw.disk hsafe
    exact ⟨ht, hd⟩
  | load env rv t hnone h => exact ⟨dekOk_load h hw.disk, hw.disk⟩
  | close => exact ⟨nofun, hw.disk⟩
  | login env role pin rv t t' d htok h =>
    exact hnext (dekOk_login h (hw.tok t htok) hw.disk (hsafe t htok))
  | verifyPin env role pin rv t t' d htok h =>
    exact hnext (dekOk_verifyPin h (hw.tok t htok) hw.disk)
  | logout t htok =>
    exact hnext ⟨(hw.tok t htok).notLive rfl (liveDek_dropDek t), hw.disk⟩
  | initUserPin env pin rv t t' d htok h =>
    exact hnext (dekOk_initUserPin hC h (hw.tok t htok) hw.disk (hsafe t htok))
  | setPin loginEnv env role oldPin newPin rv t t' d htok h =>
    exact hnext (dekOk_setPin hC h (hw.tok t htok) hw.disk (hsafe.1 t htok) hsafe.2)
  | reinit env newSoPin label rv t t' d htok h =>
    exact hnext (dekOk_reinit hC h (hw.tok t htok) hw.disk hsafe.1 hsafe.2.1 (hsafe.2.2 t htok))
  | object env op rv t t' d htok hcall h =>
    have ht := hw.tok t htok
    rcases h with ⟨rfl, rfl⟩ | ⟨objs, next, rfl, hwrite⟩
    · exact hnext ⟨ht, hw.disk⟩
    · have ht' : Token.DekOk C { t with objects := objs, nextHandle := next } := ht.congr rfl rfl
      exact hnext ⟨ht', .write hwrite ht' hw.disk⟩

/-- In every run of safe calls from a file whose header wraps one DEK, a live DEK is what the
    wraps of the token unwrap to, and every blob was encrypted under such a DEK. -/
theorem liveDek_protected {C : Crypto} (hC : C.OtherKekFails) (w : World) (ops : List TokenOp)
    (hnone : w.tok = none) (hlog : w.disk.log = []) (hfile : FileDekOk C w.disk.file)
    (hsafe : Along (World.step C) (fun w op => op.Safe C w) w ops) :
    (∀ t key, (run (World.step C) w ops).tok = some t → t.liveDek = some key →
      t.header.Protects C key) ∧
    ∀ t key nonce, .sealed t key nonce ∈ (run (World.step C) w ops).disk.log →
      key ≠ zeroKey ∧ t.header.Protects C key := by
  have hstart : w.DekOk C := by
    refine ⟨?_, hfile, ?_⟩
    · intro t ht
      rw [hnone] at ht
      cases ht
    · intro t key nonce hmem
      rw [hlog] at hmem
      cases hmem
  have hend := run_invariant (dekOk_step hC) hstart hsafe
  exact ⟨fun t key ht hlive => ((hend.tok t ht).protects hlive).2, hend.disk.log⟩

theorem Crypto.otherKekFails_plain : Crypto.plain.OtherKekFails := by
  intro pin pin' salt iter nonce aad pt hne
  -- the first half of a KEK determines the KEK
  have hhalf : ∀ p, vecAt (Crypto.plain.pbkdf2 p salt iter).toList 0 16 = vecAt p 0 16 := by
    intro p
    show vecAt (vecAt ((vecAt p 0 16).toList ++ replicate 16 0) 0 32).toList 0 16 = _
    rw [toList_vecAt (by simp), vecAt_toList_append]
  show (if _ then _ else _) = none
  rw [if_neg]
  show ¬ vecAt (Crypto.plain.pbkdf2 pin salt iter).toList 0 16 = _
  rw [hhalf, hhalf]
  intro heq
  apply hne
  show vecAt _ 0 32 = vecAt _ 0 32
  rw [heq]

/-- A new token, a login and a new object: the live DEK is the one that was drawn. -/
theorem liveDek_protected_objectAdd :
    let soPin : Bytes := replicate 8 0x31
    let w := run (World.step .plain) ⟨none, ⟨none, []⟩⟩
      [.init .quiet soPin [], .login .quiet .so soPin,
        .object .quiet (.add ⟨ckoPublicKey, 0, [], [1, 2, 3], [], 0⟩)]
    w.tok.bind Token.liveDek = some (Vector.replicate 32 1) ∧
      ∀ t key, w.tok = some t → t.liveDek = some key → t.header.Protects .plain key := by
  have hdraw : Env.quiet.rngDek ≠ zeroKey := by decide +kernel
  refine ⟨by decide +kernel,
    (liveDek_protected Crypto.otherKekFails_plain ⟨none, ⟨none, []⟩⟩ _ rfl rfl nofun ?_).1⟩
  exact ⟨hdraw, fun _ _ _ _ _ => rfl, trivial, trivial⟩

def Event.sealKey : Event → Option Key
  | .sealed _ key _ => some key
  | _ => none

/-- A login that the TPM refuses leaves the wiped buffer live, and the next object is encrypted
    under 32 zero bytes, which no wrap of the token holds. -/
theorem tpmRefusal_seals_zeroKey :
    let soPin : Bytes := replicate 8 0x31
    let noTpm : Env := { Env.quiet with tpmCompanion := some (.error .deviceError) }
    let w := run (World.step .plain) ⟨none, ⟨none, []⟩⟩
      [.init .quiet soPin [], .login noTpm .so soPin,
        .object .quiet (.add ⟨ckoPublicKey, 0, [], [1, 2, 3], [], 0⟩)]
    w.tok.bind Token.liveDek = some zeroKey ∧
      w.tok.bind (fun t => t.header.unwrapDek .plain .so soPin) = some (Vector.replicate 32 1) ∧
      some zeroKey ∈ w.disk.log.map Event.sealKey := by
  decide +kernel

end FreeHsm
