import FreeHsm.Token.Sealing
import FreeHsm.Token.Throttle

/-!
# Starting over

`fhsm_token_reinit` draws a new DEK, wraps it under the new SO PIN alone, empties the
store and clears counters and throttles. It does not seal the new DEK: where
`fhsm_token_init` wrote a companion file, the next login compares the new DEK with
the sealed copy of the old one.
-/

namespace FreeHsm

open ByteLayout Token

/-! ## What a call reads of the disk -/

/-- A call gave the same answer, token and file. -/
def SeenAlike (r₁ r₂ : Rv × Token × Disk) : Prop :=
  r₁.1 = r₂.1 ∧ r₁.2.1 = r₂.2.1 ∧ r₁.2.2.file = r₂.2.2.file

namespace Token

theorem created_alike {r₁ r₂ : Rv × Disk} (h : r₁.1 = r₂.1 ∧ r₁.2.file = r₂.2.file) (t : Token) :
    let created (r : Rv × Disk) : Rv × Option Token × Disk :=
      match r with
      | (.ok, d) => (.ok, some t, d)
      | (.err _, d) => (.err .functionFailed, none, d)
    (created r₁).2.1 = (created r₂).2.1 ∧ (created r₁).2.2.file = (created r₂).2.2.file := by
  obtain ⟨rv, d₁⟩ := r₁
  obtain ⟨rv₂, d₂⟩ := r₂
  obtain ⟨rfl, hfile⟩ := h
  cases rv <;> exact ⟨rfl, hfile⟩

variable {C : Crypto} {env : Env} {t : Token} {d₁ d₂ : Disk} (hfile : d₁.file = d₂.file)

include hfile

theorem writeAtomic_alike (t : Token) (es₁ es₂ : List Event) :
    (writeAtomic C env t (d₁.record es₁)).1 = (writeAtomic C env t (d₂.record es₂)).1 ∧
      (writeAtomic C env t (d₁.record es₁)).2.file = (writeAtomic C env t (d₂.record es₂)).2.file := by
  have hfile' : (d₁.record es₁).file = (d₂.record es₂).file := hfile
  unfold writeAtomic
  rw [hfile']
  cases storeBytes C env t (d₂.record es₂).file with
  | error e => exact ⟨rfl, hfile⟩
  | ok p =>
    dsimp only
    split
    · exact ⟨rfl, rfl⟩
    · exact ⟨rfl, hfile⟩

theorem write_alike (t : Token) (es₁ es₂ : List Event) :
    SeenAlike
      ((writeAtomic C env t (d₁.record es₁)).1, t, (writeAtomic C env t (d₁.record es₁)).2)
      ((writeAtomic C env t (d₂.record es₂)).1, t, (writeAtomic C env t (d₂.record es₂)).2) :=
  have h := writeAtomic_alike hfile t es₁ es₂
  ⟨h.1, rfl, h.2⟩

theorem login_alike (role : Role) (pin : Bytes) :
    SeenAlike (t.login C env role pin d₁) (t.login C env role pin d₂) := by
  unfold login
  rw [hfile]
  split
  · exact ⟨rfl, rfl, hfile⟩
  split
  · exact ⟨rfl, rfl, hfile⟩
  split
  · exact ⟨rfl, rfl, hfile⟩
  · exact ⟨rfl, rfl, (writeAtomic_alike hfile _ _ _).2⟩
  · split
    · exact ⟨rfl, rfl, hfile⟩
    · exact ⟨rfl, rfl, (writeAtomic_alike hfile _ _ _).2⟩

theorem verifyPin_alike (role : Role) (pin : Bytes) :
    SeenAlike (t.verifyPin C env role pin d₁) (t.verifyPin C env role pin d₂) := by
  unfold verifyPin
  split
  · exact ⟨rfl, rfl, hfile⟩
  split
  · exact ⟨rfl, rfl, hfile⟩
  · exact ⟨rfl, rfl, (writeAtomic_alike hfile _ _ _).2⟩
  · exact ⟨rfl, rfl, (writeAtomic_alike hfile _ _ _).2⟩

theorem initUserPin_alike (pin : Bytes) :
    SeenAlike (t.initUserPin C env pin d₁) (t.initUserPin C env pin d₂) := by
  unfold initUserPin
  split
  · exact ⟨rfl, rfl, hfile⟩
  split
  · split
    · exact ⟨rfl, rfl, hfile⟩
    · exact write_alike hfile _ _ _
  · exact ⟨rfl, rfl, hfile⟩

theorem setPin_alike (loginEnv : Env) (role : Role) (oldPin newPin : Bytes) :
    SeenAlike (t.setPin C loginEnv env role oldPin newPin d₁)
      (t.setPin C loginEnv env role oldPin newPin d₂) := by
  unfold setPin
  split
  · exact ⟨rfl, rfl, hfile⟩
  -- the login inside it first
  have hlogin : SeenAlike (t.login C loginEnv role (cstr oldPin) d₁)
      (t.login C loginEnv role (cstr oldPin) d₂) := login_alike hfile role _
  generalize t.login C loginEnv role (cstr oldPin) d₁ = r₁ at hlogin ⊢
  generalize t.login C loginEnv role (cstr oldPin) d₂ = r₂ at hlogin ⊢
  obtain ⟨rv₁, t₁, d₁'⟩ := r₁
  obtain ⟨rv₂, t₂, d₂'⟩ := r₂
  obtain ⟨rfl, rfl, hfile'⟩ := hlogin
  cases rv₁ with
  | err e => exact ⟨rfl, rfl, hfile'⟩
  | ok =>
    dsimp only
    split
    · exact ⟨rfl, rfl, hfile'⟩
    · exact write_alike hfile' _ _ _

theorem reinit_alike (newSoPin label : Bytes) :
    SeenAlike (t.reinit C env newSoPin label d₁) (t.reinit C env newSoPin label d₂) := by
  unfold reinit
  split
  · exact ⟨rfl, rfl, hfile⟩
  dsimp only
  split
  · exact ⟨rfl, rfl, hfile⟩
  split
  · exact ⟨rfl, rfl, hfile⟩
  split
  · exact ⟨rfl, rfl, hfile⟩
  · exact write_alike hfile _ _ _

theorem object_alike (op : ObjectOp) :
    SeenAlike (t.object C env op d₁) (t.object C env op d₂) := by
  rcases object_moves env t op with ⟨rv, -, hobj⟩ | ⟨t₁, -, hobj⟩
  · rw [hobj C env d₁ rfl, hobj C env d₂ rfl]
    exact ⟨rfl, rfl, hfile⟩
  · rw [hobj C env d₁ rfl, hobj C env d₂ rfl]
    rw [← Disk.record_nil d₁, ← Disk.record_nil d₂]
    exact write_alike hfile t₁ [] []

theorem init_alike (soPin label : Bytes) :
    (init C env soPin label d₁).2.1 = (init C env soPin label d₂).2.1 ∧
      (init C env soPin label d₁).2.2.file = (init C env soPin label d₂).2.2.file := by
  unfold init
  split
  · exact ⟨rfl, hfile⟩
  split
  · exact ⟨rfl, hfile⟩
  dsimp only
  split
  · exact ⟨rfl, hfile⟩
  split
  · exact ⟨rfl, hfile⟩
  split
  · exact ⟨rfl, hfile⟩
  · rw [Disk.record_record, Disk.record_record]
    exact created_alike (writeAtomic_alike hfile _ _ _) _

end Token

/-- The same token is loaded, if any, and the files are the same. -/
def World.Agree (w₁ w₂ : World) : Prop := w₁.tok = w₂.tok ∧ w₁.disk.file = w₂.disk.file

theorem step_agree (C : Crypto) {w₁ w₂ : World} (h : w₁.Agree w₂) (op : TokenOp) :
    (w₁.step C op).Agree (w₂.step C op) := by
  obtain ⟨tok, d₁⟩ := w₁
  obtain ⟨tok₂, d₂⟩ := w₂
  obtain ⟨rfl, hfile⟩ := h
  have hon : ∀ f : Disk → Rv × Token × Disk, SeenAlike (f d₁) (f d₂) →
      World.Agree ⟨some (f d₁).2.1, (f d₁).2.2⟩ ⟨some (f d₂).2.1, (f d₂).2.2⟩ :=
    fun f hf => ⟨congrArg some hf.2.1, hf.2.2⟩
  cases tok with
  | none =>
    cases op with
    | init env soPin label => exact init_alike hfile soPin label
    | load env =>
      refine ⟨?_, hfile⟩
      change (load env d₁).2 = (load env d₂).2
      unfold load
      rw [hfile]
    | close => exact ⟨rfl, hfile⟩
    | _ => exact ⟨rfl, hfile⟩
  | some t =>
    cases op with
    | init | load | close | logout => exact ⟨rfl, hfile⟩
    | login env role pin => exact hon _ (login_alike hfile role pin)
    | verifyPin env role pin => exact hon _ (verifyPin_alike hfile role pin)
    | initUserPin env pin => exact hon _ (initUserPin_alike hfile pin)
    | setPin loginEnv env role oldPin newPin =>
      exact hon _ (setPin_alike hfile loginEnv role oldPin newPin)
    | reinit env newSoPin label => exact hon _ (reinit_alike hfile newSoPin label)
    | object env op => exact hon _ (object_alike hfile op)

theorem run_agree (C : Crypto) {w₁ w₂ : World} (h : w₁.Agree w₂) (ops : List TokenOp) :
    (Transition.run (World.step C) w₁ ops).Agree (Transition.run (World.step C) w₂ ops) := by
  induction ops generalizing w₁ w₂ with
  | nil => exact h
  | cons op ops ih => exact ih (step_agree C h op)

/-! ## After a reinitialisation -/

/-- The library, the secure heap and the module serve a call. -/
structure Env.Serves (env : Env) : Prop where
  running : env.moduleError = false
  kdf : env.kdfErr = none
  opens : env.openErr 0 = none
  buffer : env.secureAlloc = true

/-- The token in the process that made the call, or in one that loads the file. -/
inductive Reopened (t' : Token) (d' : Disk) : Token → Prop
  | same : Reopened t' d' t'
  | loaded (env : Env) (t₁ : Token) (h : Token.load env d' = (.ok, some t₁)) : Reopened t' d' t₁

/-- What reinitialising is for. -/
structure StartsOver (C : Crypto) (tpm : Tpm) (required : Bool) (c : Companion) (env : Env)
    (t : Token) (newSoPin label : Bytes) (t' : Token) (d' : Disk) : Prop where
  /-- The new SO PIN gives the new DEK. -/
  login : ∀ env₁ t₁ rv t₂ d₂, Reopened t' d' t₁ → Env.Serves env₁ →
    t₁.login C (c.env tpm required env₁) .so (cstr newSoPin) d' = (rv, t₂, d₂) →
    rv = .ok ∧ t₂.dek = some ⟨env.rngDek, true⟩
  /-- No other PIN logs in, and none does as the user. -/
  pins : ∀ env₁ t₁ role pin, Reopened t' d' t₁ → (t₁.login C env₁ role pin d').1 = .ok →
    role = .so ∧ C.pbkdf2 pin env.rngSalt Token.newPbkdf2Iter =
      C.pbkdf2 (cstr newSoPin) env.rngSalt Token.newPbkdf2Iter
  empty : ∀ t₁, Reopened t' d' t₁ → t₁.objects = .empty
  /-- Whatever happens next would have happened with any other store, DEK and disk before. -/
  fresh : ∀ (t₂ : Token) d₂ t₂' d₂', t₂.header.label = t.header.label → t₂.header.serial = t.header.serial →
    t₂.reinit C env newSoPin label d₂ = (.ok, t₂', d₂') → ∀ ops,
    (Transition.run (World.step C) ⟨some t', d'⟩ ops).Agree
      (Transition.run (World.step C) ⟨some t₂', d₂'⟩ ops)
  clear : ∀ t₁, Reopened t' d' t₁ →
    t₁.header.failed = ⟨0, 0⟩ ∧ t₁.throttleUntilMs = ⟨0, 0⟩

namespace Token

variable {C : Crypto} {env : Env} {t t' : Token} {newSoPin label : Bytes} {d d' : Disk}

/-- Token and file after a reinitialisation: the store is open and empty, so the file is a header
alone. -/
theorem reinit_seen (h : t.reinit C env newSoPin label d = (.ok, t', d')) :
    t' = t.reinitToken C env newSoPin label ∧ d'.file = some (t'.header.encode ++ []) := by
  have hcase := reinit_cases h
  generalize hrv : Rv.ok = rv at hcase
  cases hcase with
  | refused | noBuffer | notWrapped => cases hrv
  | written rv d' hwrite =>
    subst hrv
    refine ⟨rfl, ?_⟩
    have hbytes : ∀ file,
        storeBytes C env (t.reinitToken C env newSoPin label) file = .ok ([], []) := by
      intro file
      have hdek : (t.reinitToken C env newSoPin label).liveDek = some env.rngDek := rfl
      have hloaded : (t.reinitToken C env newSoPin label).objectsLoaded = true := rfl
      rw [storeBytes, hdek, hloaded]
      exact if_pos rfl
    rw [writeAtomic, hbytes] at hwrite
    dsimp only at hwrite
    split at hwrite
    · cases hwrite
      rfl
    · cases hwrite

theorem publicViewLoad_header (env : Env) (t : Token) (h : Header) :
    ∃ pub, publicViewLoad env t (some (h.encode ++ [])) = { t with objectsPublic := pub } := by
  have hlen : (h.encode ++ []).length = tokFileSize := by rw [List.append_nil, h.length_encode]
  unfold publicViewLoad
  split
  · rename_i f hf hread
    split at hf
    · cases hf
    · cases hf
      exact ⟨true, if_pos hlen⟩
  · exact ⟨t.objectsPublic, rfl⟩

theorem Reopened.spec {t₁ : Token} (hnew : t' = t.reinitToken C env newSoPin label)
    (hfile : d'.file = some (t'.header.encode ++ [])) (h : Reopened t' d' t₁) :
    t₁.header = t'.header ∧ t₁.loggedIn = .none ∧ t₁.objects = .empty ∧
      t₁.throttleUntilMs = ⟨0, 0⟩ := by
  cases h with
  | same =>
    subst hnew
    exact ⟨rfl, rfl, rfl, rfl⟩
  | loaded env₁ t₁ hload =>
    have hcase := load_cases hload
    generalize htok : some t₁ = tok at hcase
    cases hcase with
    | done f header until₀ hf hlen hdecode =>
      cases htok
      rw [hfile] at hf
      cases hf
      rw [Header.decode_encode] at hdecode
      cases hdecode
      have hso := load_until hload .so
      have huser := load_until hload .user
      rw [hfile] at hso huser ⊢
      obtain ⟨pub, hview⟩ := publicViewLoad_header env₁
        { zeroed with header := t'.header, throttleUntilMs := until₀ } t'.header
      rw [hview] at hso huser ⊢
      subst hnew
      refine ⟨rfl, rfl, rfl, ?_⟩
      obtain ⟨user₀, so₀⟩ := until₀
      obtain rfl := hso.trans (if_pos rfl)
      obtain rfl := huser.trans (if_pos rfl)
      rfl

end Token

/-- The store, the DEK, the counters and the disk of before do not show after it. -/
theorem reinit_agree {C : Crypto} {env : Env} {newSoPin label : Bytes} {t₁ t₂ t₁' t₂' : Token}
    {d₁ d₂ d₁' d₂' : Disk} (hlabel : t₂.header.label = t₁.header.label)
    (hserial : t₂.header.serial = t₁.header.serial)
    (h₁ : t₁.reinit C env newSoPin label d₁ = (.ok, t₁', d₁'))
    (h₂ : t₂.reinit C env newSoPin label d₂ = (.ok, t₂', d₂')) :
    World.Agree ⟨some t₁', d₁'⟩ ⟨some t₂', d₂'⟩ := by
  obtain ⟨rfl, hfile₁⟩ := reinit_seen h₁
  obtain ⟨rfl, hfile₂⟩ := reinit_seen h₂
  have hsame : t₂.reinitToken C env newSoPin label = t₁.reinitToken C env newSoPin label := by
    unfold reinitToken freshHeader
    rw [hlabel, hserial]
    rfl
  rw [hsame] at hfile₂ ⊢
  exact ⟨rfl, hfile₁.trans hfile₂.symm⟩

/-- After a reinitialisation the new SO PIN works, and nothing of the old token is left, exactly when
the TPM does not mind the new DEK: there is no companion file to be seen and sealing is not required,
or the file gives the very bytes that were drawn. -/
theorem reinit_startsOver_iff {C : Crypto} (hC : C.OtherKekFails) (tpm : Tpm) (required : Bool)
    (c : Companion) {env : Env} {t t' : Token} {newSoPin label : Bytes} {d d' : Disk}
    (h : t.reinit C env newSoPin label d = (.ok, t', d')) :
    StartsOver C tpm required c env t newSoPin label t' d' ↔ c.Passes tpm required env.rngDek := by
  obtain ⟨hnew, hfile⟩ := reinit_seen h
  have hspec : ∀ t₁, Reopened t' d' t₁ → _ := fun _ => Token.Reopened.spec hnew hfile
  have hopened : t'.header.OpenedBy C .so (cstr newSoPin) env.rngDek := by
    subst hnew
    exact Header.openedBy_wrapFor hC rfl
  have hpin : t'.header.unwrapDek C .so (cstr newSoPin) = some env.rngDek :=
    (hopened _).trans (if_pos rfl)
  have hcan : ∀ env₁ t₁, Reopened t' d' t₁ → Env.Serves env₁ →
      Token.CanTry (c.env tpm required env₁) t₁ .so := by
    intro env₁ t₁ hre hserves
    refine ⟨hserves.running, hserves.kdf, hserves.opens, hserves.buffer, ?_, ?_, nofun⟩
    · rw [(hspec t₁ hre).1, hnew]
      change 1000 ≤ newPbkdf2Iter
      decide
    · rw [(hspec t₁ hre).1, hnew]
      change 0 < pinMaxFailed
      decide
  constructor
  · intro hover
    rw [c.passes_iff tpm required .quiet]
    have hserves : Env.Serves .quiet := ⟨rfl, rfl, rfl, rfl⟩
    have hright := login_right (hcan _ _ .same hserves) hpin (hspec _ .same).2.1 nofun d'
    rcases hlogin : t'.login C (c.env tpm required .quiet) .so (cstr newSoPin) d' with ⟨rv, t₂, d₂⟩
    obtain ⟨rfl, -⟩ := hover.login _ _ _ _ _ .same hserves hlogin
    rw [hlogin] at hright
    cases hrefuse : (c.env tpm required .quiet).tpmRefuses env.rngDek with
    | false => rfl
    | true =>
      rw [hrefuse] at hright
      cases hright
  · intro hpass
    refine ⟨fun env₁ t₁ rv t₂ d₂ hre hserves hlogin => ?_, fun env₁ t₁ role pin hre hok => ?_,
      fun t₁ hre => (hspec t₁ hre).2.2.1, fun t₂ d₂ t₂' d₂' hlabel hserial h₂ ops =>
        run_agree C (reinit_agree hlabel hserial h h₂) ops, fun t₁ hre => ?_⟩
    · have hpin₁ : t₁.header.unwrapDek C .so (cstr newSoPin) = some env.rngDek := by
        rw [(hspec t₁ hre).1, hpin]
      have hright := login_right (hcan _ _ hre hserves) hpin₁ (hspec _ hre).2.1 nofun d'
      rw [hlogin, (c.passes_iff tpm required env₁ _).1 hpass] at hright
      obtain rfl : rv = .ok := hright
      obtain ⟨dek, _, _, htried, -, -, -, -, hlive, -⟩ := login_accepted (login_cases hlogin)
      have hdek := htried.right dek rfl
      rw [hpin₁] at hdek
      cases hdek
      exact ⟨rfl, hlive⟩
    · rcases hlogin : t₁.login C env₁ role pin d' with ⟨rv, t₂, d₂⟩
      rw [hlogin] at hok
      obtain rfl : rv = .ok := hok
      obtain ⟨dek, _, _, htried, hrole, -⟩ := login_accepted (login_cases hlogin)
      have hdek := htried.right dek rfl
      have huser := htried.initialized
      rw [(hspec t₁ hre).1] at hdek huser
      cases role with
      | none => exact absurd rfl hrole
      | user =>
        rw [hnew] at huser
        cases huser rfl
      | so =>
        rw [hopened pin] at hdek
        split at hdek
        · rename_i hkek
          rw [hnew] at hkek
          exact ⟨rfl, hkek⟩
        · cases hdek
    · obtain ⟨hheader, -, -, huntil⟩ := hspec t₁ hre
      rw [hheader, hnew]
      exact ⟨rfl, huntil⟩

/-- The companion file of a token with the zero DEK, as `fhsm_token_init` would have written it, or
none. -/
def companionOf (file : Option Bytes) : Companion where
  path := []
  path_lt := Nat.zero_lt_succ _
  file := file
  readable := true
  opens := true
  reads := some 2048

/-- A reinitialisation that draws another DEK. -/
def reinitialised : Rv × Token × Disk :=
  (tokenWithDek zeroKey).reinit .plain { Env.quiet with rngDek := Vector.replicate 32 1 }
    (List.replicate 8 0x32) [] ⟨none, []⟩

theorem reinit_startsOver_iff_unsealed :
    StartsOver .plain .plain false (companionOf none)
      { Env.quiet with rngDek := Vector.replicate 32 1 } (tokenWithDek zeroKey) (List.replicate 8 0x32)
      [] reinitialised.2.1 reinitialised.2.2 :=
  (reinit_startsOver_iff Crypto.otherKekFails_plain .plain false (companionOf none)
    (Prod.ext (show reinitialised.1 = .ok by decide +kernel) rfl)).2 ⟨nofun, fun _ => rfl⟩

/-- With a companion file the SO could log in before; afterwards the new PIN is refused. -/
theorem reinit_locks_out_sealed :
    let env := (companionOf (some (Tpm.pack zeroKey.toList [1]))).env .plain false .quiet
    ((tokenWithDek zeroKey).login .plain env .so (List.replicate 8 0x31) ⟨none, []⟩).1 = .ok ∧
      reinitialised.1 = .ok ∧
      (reinitialised.2.1.login .plain env .so (List.replicate 8 0x32) reinitialised.2.2).1 =
        .err .deviceError := by
  decide +kernel

end FreeHsm
