import FreeHsm.Token.DekInvariant

/-!
# Changing a PIN

`fhsm_token_set_pin` and `fhsm_token_init_user_pin` write the new salt and nonce of
a wrap over the old ones, then derive the KEK, encrypt the DEK and write the file.
Each of the three may fail, and no exit puts the old fields back. So whether a
failed call leaves the old PIN in force depends on how far it came.
-/

namespace FreeHsm

open Token Transition Header

/-! ## Headers with the same wrap of a role -/

/-- What decides which PINs open the wrap of a role. -/
structure Header.SameWrap (role : Role) (h h' : Header) : Prop where
  wrap : h'.wrap.get role = h.wrap.get role
  iter : h'.pbkdf2Iter = h.pbkdf2Iter
  aad : h'.aad = h.aad

namespace Header.SameWrap

variable {role : Role} {h h' h'' : Header}

theorem refl (role : Role) (h : Header) : h.SameWrap role h := ⟨rfl, rfl, rfl⟩

theorem trans (hs : h.SameWrap role h') (hs' : h'.SameWrap role h'') : h.SameWrap role h'' :=
  ⟨hs'.wrap.trans hs.wrap, hs'.iter.trans hs.iter, hs'.aad.trans hs.aad⟩

theorem unwrapDek (hs : h.SameWrap role h') (C : Crypto) (pin : Bytes) :
    h'.unwrapDek C role pin = h.unwrapDek C role pin := by
  simp [Header.unwrapDek, unwrapBytes, hs.wrap, hs.iter, hs.aad]

theorem openedBy {C : Crypto} {pin : Bytes} {dek : Key} (hs : h.SameWrap role h')
    (ho : h.OpenedBy C role pin dek) : h'.OpenedBy C role pin dek := by
  intro pin'
  rw [hs.unwrapDek, ho pin', hs.wrap, hs.iter]

end Header.SameWrap

/-! ## The section that wraps the DEK -/

/-- PBKDF2 and the encryption of a new wrap succeed. -/
def Token.CanRewrap (env : Env) (t : Token) : Prop := CanWrap env ∧ 1000 ≤ t.header.pbkdf2Iter

/-- What a new wrap that fails leaves in the ciphertext buffer. -/
def Token.leftInWrap (env : Env) (t : Token) (role : Role) : Vector UInt8 48 :=
  let old := (t.header.wrap.get role).ct
  if env.moduleError || t.header.pbkdf2Iter < 1000 || env.kdfErr.isSome then old
  else env.wrapErr.elim old Prod.snd

/-- The second section of `fhsm_token_set_pin`, after the login with the old PIN. -/
def Token.setPinWrap (C : Crypto) (env : Env) (t : Token) (role : Role) (newPin : Bytes) (d : Disk) :
    Rv × Token × Disk :=
  match t.rewrapDek C env role (cstr newPin) ((t.dek.map Dek.key).getD zeroKey) with
  | (some e, t, es) => (.err e, t, d.record es)
  | (none, t, es) =>
    let (rv, d) := writeAtomic C env t (d.record es)
    (rv, t, d)

theorem setPin_eq (C : Crypto) (loginEnv env : Env) (t : Token) (role : Role) (oldPin newPin : Bytes)
    (d : Disk) :
    t.setPin C loginEnv env role oldPin newPin d =
      if (cstr newPin).length < 4 then (.err .pinIncorrect, t, d)
      else match t.login C loginEnv role (cstr oldPin) d with
        | (.err e, t, d) => (.err e, t, d)
        | (.ok, t, d) => t.setPinWrap C env role newPin d := rfl

section

variable {C : Crypto} {env : Env} {t t' : Token} {role : Role} {pin : Bytes} {dek : Key} {d d' : Disk}
  {rv : Rv}

theorem rewrapDek_of_canRewrap (h : t.CanRewrap env) :
    t.rewrapDek C env role pin dek =
      (none, t.setWrap role (t.header.wrapFor C env.rngSalt env.rngWrapNonce pin dek),
        [.wrapped (C.pbkdf2 pin env.rngSalt t.header.pbkdf2Iter) env.rngWrapNonce t.header.aad
          dek]) := by
  obtain ⟨⟨hrunning, hkdf, hwrap⟩, hiter⟩ := h
  have hiter : ¬t.header.pbkdf2Iter < 1000 := UInt32.not_lt.2 hiter
  simp only [rewrapDek, Env.pbkdf2, Env.wrapDek, hrunning, hkdf, hwrap, hiter, Bool.false_eq_true,
    ↓reduceIte]
  rfl

theorem rewrapDek_of_not_canRewrap (C : Crypto) (role : Role) (pin : Bytes) (dek : Key)
    (h : ¬t.CanRewrap env) :
    ∃ e, t.rewrapDek C env role pin dek =
      (some e, t.setWrap role ⟨env.rngSalt, env.rngWrapNonce, t.leftInWrap env role⟩, []) := by
  unfold rewrapDek leftInWrap Env.pbkdf2 Env.wrapDek
  dsimp only
  by_cases hrunning : env.moduleError = true
  · exact ⟨.functionFailed, by simp [hrunning, setWrap]⟩
  by_cases hiter : t.header.pbkdf2Iter < 1000
  · exact ⟨.fipsNotApproved, by simp [hrunning, hiter, setWrap]⟩
  cases hkdf : env.kdfErr with
  | some e => exact ⟨e, by simp [hrunning, hiter, setWrap]⟩
  | none =>
    cases hwrap : env.wrapErr with
    | some r => exact ⟨r.1, by simp [hrunning, hiter, setWrap]⟩
    | none =>
      exact absurd ⟨⟨by simpa using hrunning, hkdf, hwrap⟩, UInt32.not_lt.1 hiter⟩ h

/-- Whether the objects can be stored does not depend on the header. -/
theorem storeBytes_congr {file : Option Bytes} (hdek : t'.dek = t.dek)
    (hloaded : t'.objectsLoaded = t.objectsLoaded) (hobjects : t'.objects = t.objects) :
    (storeBytes C env t' file).map (fun _ => ()) = (storeBytes C env t file).map fun _ => () := by
  have hlive : t'.liveDek = t.liveDek := by simp only [liveDek, hdek]
  unfold storeBytes Env.sealBlob
  rw [hlive, hloaded, hobjects]
  cases t.liveDek with
  | none => rfl
  | some dek =>
    cases t.objectsLoaded with
    | false => rfl
    | true =>
      dsimp only
      by_cases hobjs : t.objects.objs = []
      · rw [if_pos hobjs, if_pos hobjs]
      · rw [if_neg hobjs, if_neg hobjs]
        cases env.heapAlloc
        · rfl
        · cases env.moduleError
          · cases env.blobErr <;> rfl
          · rfl

theorem writeAtomic_fst (es : List Event) (hdek : t'.dek = t.dek)
    (hloaded : t'.objectsLoaded = t.objectsLoaded) (hobjects : t'.objects = t.objects) :
    (writeAtomic C env t' (d.record es)).1 = (writeAtomic C env t d).1 := by
  have hsame : (storeBytes C env t' (d.record es).file).map (fun _ => ()) =
      (storeBytes C env t d.file).map fun _ => () := storeBytes_congr hdek hloaded hobjects
  unfold writeAtomic
  cases hnew : storeBytes C env t' (d.record es).file with
  | error e =>
    cases hold : storeBytes C env t d.file with
    | error e' =>
      rw [hnew, hold] at hsame
      cases hsame
      rfl
    | ok r => rw [hnew, hold] at hsame; cases hsame
  | ok r =>
    cases hold : storeBytes C env t d.file with
    | error e' => rw [hnew, hold] at hsame; cases hsame
    | ok r' => cases env.writeOk <;> rfl

/-- The file after a successful write starts with the header in memory. -/
theorem header_of_write (h : writeAtomic C env t d = (.ok, d')) :
    d'.file.bind decode = some t.header := by
  generalize hrv : Rv.ok = rv at h
  cases writeAtomic_cases h with
  | failed | lost => cases hrv
  | kept | emptied | stored => exact t.header.decode_encode _

/-- Everything the section that wraps the DEK can do; `initUserPin` also clears the failures and
    marks the role as initialised, which no wrap depends on. -/
inductive WrapSection (C : Crypto) (env : Env) (t : Token) (role : Role) (pin : Bytes) (dek : Key)
    (d : Disk) : Rv → Token → Disk → Prop
  | failed (e : Err) (hfail : ¬t.CanRewrap env) :
    WrapSection C env t role pin dek d (.err e)
      (t.setWrap role ⟨env.rngSalt, env.rngWrapNonce, t.leftInWrap env role⟩) d
  | written (rv : Rv) (t' : Token) (d' : Disk) (es : List Event) (hcan : t.CanRewrap env)
      (hwrap : t'.header.wrap = t.header.wrap.set role
        (t.header.wrapFor C env.rngSalt env.rngWrapNonce pin dek))
      (hiter : t'.header.pbkdf2Iter = t.header.pbkdf2Iter) (haad : t'.header.aad = t.header.aad)
      (hwrite : writeAtomic C env t' (d.record es) = (rv, d'))
      (hrv : (writeAtomic C env t d).1 = rv) :
    WrapSection C env t role pin dek d rv t' d'

theorem WrapSection.of_write {es : List Event} (hcan : t.CanRewrap env)
    (hwrap : t'.header.wrap = t.header.wrap.set role
      (t.header.wrapFor C env.rngSalt env.rngWrapNonce pin dek))
    (hiter : t'.header.pbkdf2Iter = t.header.pbkdf2Iter) (haad : t'.header.aad = t.header.aad)
    (hdek : t'.dek = t.dek) (hloaded : t'.objectsLoaded = t.objectsLoaded)
    (hobjects : t'.objects = t.objects) :
    WrapSection C env t role pin dek d (writeAtomic C env t' (d.record es)).1 t'
      (writeAtomic C env t' (d.record es)).2 :=
  .written _ _ _ es hcan hwrap hiter haad rfl (writeAtomic_fst es hdek hloaded hobjects).symm

theorem setPinWrap_cases {newPin : Bytes} (hdek : t.dek.map Dek.key = some dek)
    (h : t.setPinWrap C env role newPin d = (rv, t', d')) :
    WrapSection C env t role (cstr newPin) dek d rv t' d' := by
  unfold setPinWrap at h
  rw [hdek, Option.getD_some] at h
  by_cases hcan : t.CanRewrap env
  · rw [rewrapDek_of_canRewrap hcan] at h
    obtain ⟨rfl, rfl, rfl⟩ : _ ∧ _ ∧ _ := by simpa using h
    exact .of_write hcan rfl rfl rfl rfl rfl rfl
  · obtain ⟨e, he⟩ := rewrapDek_of_not_canRewrap C role (cstr newPin) dek hcan
    rw [he] at h
    cases h
    rw [Disk.record_nil]
    exact .failed e hcan

theorem setPinWrap_frame {newPin : Bytes} (h : t.setPinWrap C env role newPin d = (rv, t', d')) :
    ∃ w, t' = t.setWrap role w := by
  unfold setPinWrap at h
  split at h
  · rename_i e t₁ es hre
    cases h
    cases rewrapDek_cases hre
    exact ⟨_, rfl⟩
  · rename_i t₁ es hre
    cases h
    cases rewrapDek_cases hre
    exact ⟨_, rfl⟩

theorem initUserPin_section (hlen : ¬(cstr pin).length < 4) (hso : t.loggedIn = .so)
    (hdek : t.liveDek = some dek) (h : t.initUserPin C env pin d = (rv, t', d')) :
    WrapSection C env t .user (cstr pin) dek d rv t' d' := by
  unfold initUserPin at h
  rw [if_neg hlen, hso, hdek] at h
  dsimp only at h
  by_cases hcan : t.CanRewrap env
  · rw [rewrapDek_of_canRewrap hcan] at h
    obtain ⟨rfl, rfl, rfl⟩ : _ ∧ _ ∧ _ := by simpa using h
    exact .of_write hcan rfl rfl rfl rfl rfl rfl
  · obtain ⟨e, he⟩ := rewrapDek_of_not_canRewrap C .user (cstr pin) dek hcan
    rw [he] at h
    cases h
    rw [Disk.record_nil]
    exact .failed e hcan

end

/-! ## Later calls -/

/-- Two roles do not share their copy of a field. -/
def Role.Apart (r r' : Role) : Prop := r = .so ↔ r' ≠ .so

theorem Role.Apart.of_ne {r r' : Role} (hr : r ≠ .none) (hr' : r' ≠ .none) (h : r ≠ r') :
    r.Apart r' := by
  cases r <;> cases r' <;> simp_all [Role.Apart]

/-- A call that sets no PIN of a role. -/
def TokenOp.LeavesPin (role : Role) : TokenOp → Prop
  | .setPin _ _ r _ _ => r.Apart role
  | .initUserPin _ _ => role = .so
  | .reinit _ _ _ | .close => False
  | _ => True

section

variable {C : Crypto} {env : Env} {t t' : Token} {role : Role} {d d' : Disk} {rv : Rv}

variable {r : Role} {pin : Bytes}

/-- A login changes nothing in the header but the failure counters. -/
theorem login_header (h : LoginOutcome C env t r pin d rv t' d') :
    ∃ failed, t'.header = { t.header with failed := failed } := by
  cases h with
  | refused | tpmRefused => exact ⟨t.header.failed, rfl⟩
  | wrong es htried hrole t' ht' =>
    subst ht'
    exact ⟨_, rfl⟩
  | accepted dek es es' htried hrole hfree htpm t₁ t' ht₁ hload =>
    obtain ⟨⟨objs, next, loaded, pub, hframe⟩, -⟩ := loadIfNeeded_frame hload
    subst ht₁
    subst hframe
    exact ⟨_, rfl⟩

theorem login_sameWrap (role : Role) (h : LoginOutcome C env t r pin d rv t' d') :
    t.header.SameWrap role t'.header := by
  obtain ⟨failed, hheader⟩ := login_header h
  rw [hheader]
  exact ⟨rfl, rfl, rfl⟩

theorem verifyPin_sameWrap (role : Role) (h : VerifyOutcome C env t r pin d rv t' d') :
    t.header.SameWrap role t'.header := by
  cases h with
  | refused => exact .refl role _
  | wrong es htried hrole t' ht' | right dek es htried hrole t' ht' =>
    subst ht'
    exact ⟨rfl, rfl, rfl⟩

theorem setWrap_sameWrap {w : Wrap} (h : r.Apart role) :
    t.header.SameWrap role (t.setWrap r w).header := by
  refine ⟨?_, rfl, rfl⟩
  unfold Role.Apart at h
  cases r <;> cases role <;> first | rfl | simp at h

theorem rewrap_sameWrap {dek : Key} {res : Option Err} {es : List Event}
    (h : RewrapOutcome C env t r pin dek res t' es) (hr : r.Apart role) :
    t.header.SameWrap role t'.header := by
  cases h <;> exact setWrap_sameWrap hr

theorem step_sameWrap {w : World} {op : TokenOp} (htok : w.tok = some t) (hop : op.LeavesPin role) :
    ∃ t', (w.step C op).tok = some t' ∧ t.header.SameWrap role t'.header := by
  obtain ⟨rv, hcase⟩ := step_cases C w op
  generalize w.step C op = w' at hcase
  cases hcase with
  | idle => exact ⟨t, htok, .refl role _⟩
  | init env soPin label rv t' d hnone h => cases htok.symm.trans hnone
  | load env rv t' hnone h => cases htok.symm.trans hnone
  | close | reinit => exact hop.elim
  | login env r pin rv t₁ t' d htok₁ h =>
    cases htok.symm.trans htok₁
    exact ⟨t', rfl, login_sameWrap role h⟩
  | verifyPin env r pin rv t₁ t' d htok₁ h =>
    cases htok.symm.trans htok₁
    exact ⟨t', rfl, verifyPin_sameWrap role h⟩
  | logout t₁ htok₁ =>
    cases htok.symm.trans htok₁
    exact ⟨_, rfl, ⟨rfl, rfl, rfl⟩⟩
  | initUserPin env pin rv t₁ t' d htok₁ h =>
    cases htok.symm.trans htok₁
    refine ⟨t', rfl, ?_⟩
    obtain rfl : role = .so := hop
    cases h with
    | refused => exact .refl _ _
    | failed e dek t' hdek hre => exact rewrap_sameWrap hre (.of_ne nofun nofun nofun)
    | done dek es t₁ t' rv d' hso hdek hre ht' hwrite =>
      have hsame : t.header.SameWrap .so t₁.header := rewrap_sameWrap hre (.of_ne nofun nofun nofun)
      subst ht'
      exact hsame.trans ⟨rfl, rfl, rfl⟩
  | setPin loginEnv env r oldPin newPin rv t₁ t' d htok₁ h =>
    cases htok.symm.trans htok₁
    refine ⟨t', rfl, ?_⟩
    cases h with
    | refused => exact .refl _ _
    | noLogin e t' d' hlogin => exact login_sameWrap role hlogin
    | failed e dek t₁ t' d₁ hlogin hre =>
      exact (login_sameWrap role hlogin).trans
        (rewrap_sameWrap hre hop)
    | done dek es t₁ t' d₁ d' rv hlogin hdek hre hwrite =>
      exact (login_sameWrap role hlogin).trans
        (rewrap_sameWrap hre hop)
  | object env op rv t₁ t' d htok₁ hcall h =>
    cases htok.symm.trans htok₁
    refine ⟨t', rfl, ?_⟩
    rcases h with ⟨rfl, rfl⟩ | ⟨objs, next, rfl, hwrite⟩
    · exact .refl _ _
    · exact ⟨rfl, rfl, rfl⟩

/-- Calls that set no PIN of a role leave its wrap alone, in every run. -/
theorem run_sameWrap {w : World} {ops : List TokenOp} (htok : w.tok = some t)
    (hops : ∀ op ∈ ops, op.LeavesPin role) :
    ∃ t', (run (World.step C) w ops).tok = some t' ∧ t.header.SameWrap role t'.header := by
  induction ops generalizing w t with
  | nil => exact ⟨t, htok, .refl role _⟩
  | cons op ops ih =>
    obtain ⟨t₁, htok₁, hsame⟩ := step_sameWrap (C := C) htok (hops op List.mem_cons_self)
    obtain ⟨t', htok', hsame'⟩ := ih htok₁ fun o ho => hops o (List.mem_cons_of_mem _ ho)
    exact ⟨t', htok', hsame.trans hsame'⟩

end

/-- A PIN opens the wrap of a role to `dek`, in memory and in the file that any later write leaves
    while the PIN of the role is not set again. -/
structure StaysOpen (C : Crypto) (role : Role) (pin : Bytes) (dek : Key) (t : Token) (d : Disk) :
    Prop where
  memory : t.header.unwrapDek C role pin = some dek
  files : ∀ ops, (∀ op ∈ ops, op.LeavesPin role) →
    ∀ t' env d', (run (World.step C) ⟨some t, d⟩ ops).tok = some t' →
      writeAtomic C env t' (run (World.step C) ⟨some t, d⟩ ops).disk = (.ok, d') →
      ∃ h, d'.file.bind Header.decode = some h ∧ h.unwrapDek C role pin = some dek

theorem staysOpen_iff {C : Crypto} {role : Role} {pin : Bytes} {dek : Key} {t : Token} {d : Disk} :
    StaysOpen C role pin dek t d ↔ t.header.unwrapDek C role pin = some dek := by
  refine ⟨StaysOpen.memory, fun hmem => ⟨hmem, fun ops hops t' env d' htok hwrite => ?_⟩⟩
  obtain ⟨t'', htok'', hsame⟩ :=
    run_sameWrap (C := C) (w := ⟨some t, d⟩) (t := t) rfl hops
  cases htok.symm.trans htok''
  exact ⟨t'.header, header_of_write hwrite, by rw [hsame.unwrapDek, hmem]⟩

/-! ## What a new wrap does to the PINs in force -/

/-- A new wrap takes no PIN of a role out of force without putting the new one in. If it cannot be
    made, the old PINs open what the new salt and nonce form with the bytes left in the buffer; if
    it cannot be written, they have the KEK of the new PIN. -/
structure Token.WrapSafe (C : Crypto) (env : Env) (t : Token) (d : Disk) (role : Role) (pin : Bytes)
    (dek : Key) : Prop where
  notMade : ¬t.CanRewrap env → ∀ pin' dek', t.header.unwrapDek C role pin' = some dek' →
    (t.setWrap role ⟨env.rngSalt, env.rngWrapNonce, t.leftInWrap env role⟩).header.unwrapDek C role
      pin' = some dek'
  notWritten : t.CanRewrap env → (writeAtomic C env t d).1 ≠ .ok →
    ∀ pin' dek', t.header.unwrapDek C role pin' = some dek' →
      dek' = dek ∧ C.pbkdf2 pin' env.rngSalt t.header.pbkdf2Iter =
        C.pbkdf2 pin env.rngSalt t.header.pbkdf2Iter

namespace WrapSection

variable {C : Crypto} {env : Env} {t t' : Token} {role : Role} {pin : Bytes} {dek : Key}
  {d d' : Disk} {rv : Rv}

theorem openedBy (hC : C.OtherKekFails) (h : WrapSection C env t role pin dek d rv t' d')
    (hcan : t.CanRewrap env) : t'.header.OpenedBy C role pin dek := by
  cases h with
  | failed e hfail => exact absurd hcan hfail
  | written rv t' d' es _ hwrap hiter haad hwrite hrv =>
    have hnew : t'.header.wrap.get role =
        t'.header.wrapFor C env.rngSalt env.rngWrapNonce pin dek := by
      rw [hwrap, PerRole.get_set_self]
      simp [wrapFor, hiter, haad]
    exact openedBy_wrapFor hC hnew

theorem unwrapDek_eq (hC : C.OtherKekFails) (h : WrapSection C env t role pin dek d rv t' d')
    (hcan : t.CanRewrap env) (pin' : Bytes) :
    t'.header.unwrapDek C role pin' =
      if C.pbkdf2 pin' env.rngSalt t.header.pbkdf2Iter = C.pbkdf2 pin env.rngSalt t.header.pbkdf2Iter
      then some dek else none := by
  have hopens := h.openedBy hC hcan pin'
  cases h with
  | failed e hfail => exact absurd hcan hfail
  | written rv t' d' es _ hwrap hiter haad hwrite hrv =>
    rw [hiter, hwrap, PerRole.get_set_self] at hopens
    exact hopens

theorem write_eq (h : WrapSection C env t role pin dek d rv t' d') (hcan : t.CanRewrap env) :
    (writeAtomic C env t d).1 = rv := by
  cases h with
  | failed e hfail => exact absurd hcan hfail
  | written rv t' d' es _ hwrap hiter haad hwrite hrv => exact hrv

/-- A section that fails leaves the old PINs in force exactly when it is safe. -/
theorem error_iff (hC : C.OtherKekFails) (h : WrapSection C env t role pin dek d rv t' d') :
    (∀ e, rv = .err e → ∀ pin' dek', t.header.unwrapDek C role pin' = some dek' →
      StaysOpen C role pin' dek' t' d') ↔ t.WrapSafe C env d role pin dek := by
  simp only [staysOpen_iff]
  by_cases hcan : t.CanRewrap env
  · -- the new wrap stands in memory, written or not
    have heq := h.unwrapDek_eq hC hcan
    have hopen : ∀ pin' dek', t'.header.unwrapDek C role pin' = some dek' ↔
        dek' = dek ∧ C.pbkdf2 pin' env.rngSalt t.header.pbkdf2Iter =
          C.pbkdf2 pin env.rngSalt t.header.pbkdf2Iter := by
      intro pin' dek'
      rw [heq pin']
      split
      · rename_i hkek
        simp [hkek, eq_comm]
      · rename_i hkek
        simp [hkek]
    have hrv := h.write_eq hcan
    constructor
    · intro herr
      refine ⟨fun hno => absurd hcan hno, fun _ hne pin' dek' hold => ?_⟩
      cases rv with
      | ok => exact absurd hrv hne
      | err e => exact (hopen pin' dek').1 (herr e rfl pin' dek' hold)
    · rintro hsafe e rfl pin' dek' hold
      exact (hopen pin' dek').2 (hsafe.notWritten hcan (by rw [hrv]; nofun) pin' dek' hold)
  · cases h with
    | written rv t' d' es hcan' hwrap hiter haad hwrite hrv => exact absurd hcan' hcan
    | failed e hfail =>
      constructor
      · intro herr
        exact ⟨fun _ => herr e rfl, fun hcan' => absurd hcan' hcan⟩
      · rintro hsafe - -
        exact hsafe.notMade hcan

/-- A section that succeeds has stored the header, and left the other role alone. -/
theorem stored (hrole : role ≠ .none) (h : WrapSection C env t role pin dek d .ok t' d') :
    t.CanRewrap env ∧ (writeAtomic C env t d).1 = .ok ∧
      d'.file.bind decode = some t'.header ∧
      ∀ r, r ≠ .none → r ≠ role → t'.header.wrap.get r = t.header.wrap.get r := by
  generalize hok : Rv.ok = rv at h
  cases h with
  | failed e hfail => cases hok
  | written rv t' d' es hcan hwrap hiter haad hwrite hrv =>
    subst hok
    refine ⟨hcan, hrv, header_of_write hwrite, fun r hr hne => ?_⟩
    rw [hwrap, PerRole.get_set_of_ne _ _ hrole hr hne]

end WrapSection

/-! ## What setting a PIN is for -/

/-- A call that sets a PIN. -/
inductive PinCall
  | setPin (loginEnv env : Env) (role : Role) (oldPin newPin : Bytes)
  | initUserPin (env : Env) (pin : Bytes)

namespace PinCall

def role : PinCall → Role
  | setPin _ _ role _ _ => role
  | initUserPin _ _ => .user

def newPin : PinCall → Bytes
  | setPin _ _ _ _ newPin => cstr newPin
  | initUserPin _ pin => cstr pin

def run (C : Crypto) (t : Token) (d : Disk) : PinCall → Rv × Token × Disk
  | setPin loginEnv env role oldPin newPin => t.setPin C loginEnv env role oldPin newPin d
  | initUserPin env pin => t.initUserPin C env pin d

/-- The DEK the caller has proved to know: the one under the old PIN, or the one of the SO. -/
def Proves (C : Crypto) (t : Token) (dek : Key) : PinCall → Prop
  | setPin _ _ role oldPin _ => t.header.unwrapDek C role (cstr oldPin) = some dek
  | initUserPin _ _ => ∃ pin, t.header.unwrapDek C .so pin = some dek

/-- After an error every PIN of the role that was in force stays so; after a success exactly the
    new one is, in memory and in the file, with the DEK as before and the other role as before. -/
structure Spec (C : Crypto) (call : PinCall) (t : Token) (d : Disk) : Prop where
  error : ∀ e, (call.run C t d).1 = .err e → ∀ pin dek,
    t.header.unwrapDek C call.role pin = some dek →
      StaysOpen C call.role pin dek (call.run C t d).2.1 (call.run C t d).2.2
  success : (call.run C t d).1 = .ok →
    (∃ dek, (∀ dek', call.Proves C t dek' → dek' = dek) ∧
      (call.run C t d).2.1.header.OpenedBy C call.role call.newPin dek) ∧
    (call.run C t d).2.2.file.bind Header.decode = some (call.run C t d).2.1.header ∧
    ∀ r, r ≠ .none → r ≠ call.role →
      (call.run C t d).2.1.header.wrap.get r = t.header.wrap.get r

/-- When a call does what it is for. Only a call that has passed its checks replaces a wrap. -/
def Holds (C : Crypto) (t : Token) (d : Disk) : PinCall → Prop
  | setPin loginEnv env role oldPin newPin =>
    ¬(cstr newPin).length < 4 → ∀ t₁ d₁ dek,
      t.login C loginEnv role (cstr oldPin) d = (.ok, t₁, d₁) → t₁.liveDek = some dek →
        t₁.WrapSafe C env d₁ role (cstr newPin) dek
  | initUserPin env pin =>
    ¬(cstr pin).length < 4 → t.loggedIn = .so → ∀ dek, t.liveDek = some dek →
      t.WrapSafe C env d .user (cstr pin) dek ∧
        (t.CanRewrap env → (writeAtomic C env t d).1 = .ok →
          ∀ pin' dek', t.header.unwrapDek C .so pin' = some dek' → dek' = dek)

variable {C : Crypto}

variable {t t' : Token} {d d' : Disk}

/-- A call that fails and leaves the wrap of its role alone meets the specification. -/
theorem Spec.of_refused {call : PinCall} {e : Err} (hrun : call.run C t d = (.err e, t', d'))
    (hsame : t.header.SameWrap call.role t'.header) : call.Spec C t d := by
  refine ⟨fun e' _ pin dek hopen => ?_, fun hok => ?_⟩
  · rw [hrun, staysOpen_iff, hsame.unwrapDek, hopen]
  · rw [hrun] at hok
    cases hok

/-- The calls that get as far as the new wrap, from the token they make it in. -/
theorem spec_iff_of_section (hC : C.OtherKekFails) {call : PinCall} {env : Env} {t₁ : Token}
    {d₁ : Disk} {rv : Rv} {dek : Key} (hrun : call.run C t d = (rv, t', d'))
    (hrole : call.role ≠ .none) (hsame : ∀ r, t.header.SameWrap r t₁.header)
    (hsec : WrapSection C env t₁ call.role call.newPin dek d₁ rv t' d') :
    call.Spec C t d ↔ t₁.WrapSafe C env d₁ call.role call.newPin dek ∧
      (t₁.CanRewrap env → (writeAtomic C env t₁ d₁).1 = .ok →
        ∀ dek', call.Proves C t dek' → dek' = dek) := by
  have herror := hsec.error_iff hC
  simp only [(hsame call.role).unwrapDek] at herror
  constructor
  · intro hspec
    refine ⟨herror.1 fun e he => ?_, fun hcan hok dek' hproves => ?_⟩
    · subst he
      simpa [hrun] using hspec.error e (by rw [hrun])
    · -- the new PIN opens one DEK only
      have hrv : rv = .ok := (hsec.write_eq hcan).symm.trans hok
      obtain ⟨⟨dek₂, hdek₂, hopens⟩, -⟩ := hspec.success (by rw [hrun]; exact hrv)
      rw [hrun] at hopens
      have hnew := hsec.openedBy hC hcan call.newPin
      rw [hopens call.newPin, if_pos rfl, if_pos rfl, Option.some.injEq] at hnew
      rw [hdek₂ dek' hproves, hnew]
  · rintro ⟨hsafe, hdek⟩
    refine ⟨fun e he => ?_, fun hok => ?_⟩
    · rw [hrun] at he ⊢
      exact herror.2 hsafe e he
    · rw [hrun] at hok ⊢
      subst hok
      obtain ⟨hcan, hwrite, hfile, hother⟩ := hsec.stored hrole
      refine ⟨⟨dek, hdek hcan hwrite, hsec.openedBy hC hcan⟩, hfile, fun r hr hne => ?_⟩
      rw [hother r hr hne, (hsame r).wrap]

/-- A call that sets a PIN does what it is for exactly when `Holds`. -/
theorem spec_iff_holds (C : Crypto) (hC : C.OtherKekFails) (call : PinCall) (t : Token) (d : Disk) :
    call.Spec C t d ↔ call.Holds C t d := by
  cases call with
  | setPin loginEnv env role oldPin newPin =>
    rcases hrun : (setPin loginEnv env role oldPin newPin).run C t d with ⟨rv, t', d'⟩
    have heq := hrun
    simp only [run, setPin_eq] at heq
    by_cases hshort : (cstr newPin).length < 4
    · rw [if_pos hshort] at heq
      cases heq
      exact ⟨fun _ hlen => absurd hshort hlen, fun _ => .of_refused hrun (.refl _ _)⟩
    · rw [if_neg hshort] at heq
      rcases hlogin : t.login C loginEnv role (cstr oldPin) d with ⟨rv₁, t₁, d₁⟩
      rw [hlogin] at heq
      have hsame := fun r => login_sameWrap r (login_cases hlogin)
      cases rv₁ with
      | err e =>
        cases heq
        refine ⟨fun _ _ t₂ d₂ dek hok => ?_, fun _ => .of_refused hrun (hsame _)⟩
        cases hlogin.symm.trans hok
      | ok =>
        obtain ⟨dek, _, _, htried, hrole, -, -, -, hbuf, -⟩ := login_accepted (login_cases hlogin)
        have hopen := htried.right dek rfl
        have hlive : t₁.liveDek = some dek := by rw [liveDek, hbuf]
        have hsec := setPinWrap_cases (by rw [hbuf]; rfl) heq
        rw [spec_iff_of_section hC hrun hrole hsame hsec]
        constructor
        · rintro ⟨hsafe, -⟩ - t₂ d₂ dek₂ hok hlive₂
          cases hlogin.symm.trans hok
          cases hlive.symm.trans hlive₂
          exact hsafe
        · intro hholds
          refine ⟨hholds hshort t₁ d₁ dek hlogin hlive, fun _ _ dek' hproves => ?_⟩
          cases hopen.symm.trans hproves
          rfl
  | initUserPin env pin =>
    rcases hrun : (initUserPin env pin).run C t d with ⟨rv, t', d'⟩
    have heq : t.initUserPin C env pin d = (rv, t', d') := hrun
    by_cases hshort : (cstr pin).length < 4
    · rw [Token.initUserPin, if_pos hshort] at heq
      cases heq
      exact ⟨fun _ hlen => absurd hshort hlen, fun _ => .of_refused hrun (.refl _ _)⟩
    · by_cases hready : t.loggedIn = .so ∧ ∃ dek, t.liveDek = some dek
      · obtain ⟨hso, dek, hlive⟩ := hready
        have hsec := initUserPin_section hshort hso hlive heq
        rw [spec_iff_of_section hC hrun (fun h => by cases h) (fun r => .refl r _) hsec]
        constructor
        · rintro ⟨hsafe, hdek⟩ - - dek₂ hlive₂
          cases hlive.symm.trans hlive₂
          exact ⟨hsafe, fun hcan hok pin' dek' hopen => hdek hcan hok dek' ⟨pin', hopen⟩⟩
        · intro hholds
          obtain ⟨hsafe, hdek⟩ := hholds hshort hso dek hlive
          refine ⟨hsafe, ?_⟩
          rintro hcan hok dek' ⟨pin', hopen⟩
          exact hdek hcan hok pin' dek' hopen
      · -- the checks refuse the call
        have hrefused : t.initUserPin C env pin d = (.err .userNotLoggedIn, t, d) := by
          rw [Token.initUserPin, if_neg hshort]
          split
          · rename_i dek hso hlive
            exact absurd ⟨hso, dek, hlive⟩ hready
          · rfl
        cases heq.symm.trans hrefused
        refine ⟨fun _ _ hso dek hlive => absurd ⟨hso, dek, hlive⟩ hready, fun _ => ?_⟩
        exact .of_refused hrun (.refl _ _)

/-- A new token. -/
def newToken : Token := initialToken .plain .quiet (List.replicate 8 0x31) []

/-- Its file. -/
def newDisk : Disk := (writeAtomic .plain .quiet newToken ⟨none, []⟩).2

/-- The SO changes their PIN. -/
def soChange (env : Env) : PinCall :=
  setPin .quiet env .so (List.replicate 8 0x31) (List.replicate 8 0x32)

theorem spec_iff_holds_soChange : ((soChange .quiet).run .plain newToken newDisk).1 = .ok ∧
      (soChange .quiet).Spec .plain newToken newDisk := by
  refine ⟨by decide +kernel, (spec_iff_holds .plain Crypto.otherKekFails_plain _ _ _).2 ?_⟩
  intro _ t₁ d₁ dek hlogin hlive
  have hcan : t₁.CanRewrap .quiet :=
    ⟨⟨rfl, rfl, rfl⟩, (login_sameWrap .so (login_cases hlogin)).iter ▸
      show 1000 ≤ newPbkdf2Iter by decide⟩
  have hwrite : (writeAtomic .plain .quiet
      (newToken.login .plain .quiet .so (cstr (List.replicate 8 0x31)) newDisk).2.1
      (newToken.login .plain .quiet .so (cstr (List.replicate 8 0x31)) newDisk).2.2).1 = .ok := by
    decide +kernel
  rw [hlogin] at hwrite
  exact ⟨fun hno => absurd hcan hno, fun _ hne => absurd hwrite hne⟩

/-- The file cannot be written. -/
def diskFull : Env := { Env.quiet with writeOk := false }

/-- The call fails, and the old PIN opens the wrap no more. -/
theorem failed_soChange_drops_old_pin :
    ((soChange diskFull).run .plain newToken newDisk).1 = .err .functionFailed ∧
      ¬(soChange diskFull).Spec .plain newToken newDisk := by
  have hrv : ((soChange diskFull).run .plain newToken newDisk).1 = .err .functionFailed := by
    decide +kernel
  refine ⟨hrv, fun hspec => ?_⟩
  have hopen : newToken.header.unwrapDek .plain .so (List.replicate 8 0x31) =
      some (Vector.replicate 32 1) := by
    decide +kernel
  have hmem := (hspec.error .functionFailed hrv _ _ hopen).memory
  revert hmem
  decide +kernel

end PinCall

end FreeHsm
