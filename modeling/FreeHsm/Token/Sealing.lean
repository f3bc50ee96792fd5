import FreeHsm.ForStd.StateExcept
import FreeHsm.Token.DekInvariant

/-!
# The sealed copy of the DEK

A token may have a companion file with its DEK sealed to the TPM. `fhsm_tpm_seal` packs
the two outputs of `tpm2 create` into a blob, `fhsm_tpm_unseal` takes the blob apart and
runs `tpm2 load` and `tpm2 unseal` on them, and `fhsm_token_login` compares what comes out
with the DEK that the PIN unwrapped. The commands are a parameter.

A file that may not be read is taken for one that is not there, and of a long file only
the first 2048 bytes are read.
-/

namespace FreeHsm

open ByteLayout StateExcept Token
open List hiding Vector

/-! ## The TPM -/

/-- The TPM with the outcomes of the commands that are run on it. -/
structure Tpm where
  /-- A context file, as `load` writes it. -/
  Ctx : Type
  available : Bool
  /-- The memory files of a call can be made, written and read. -/
  memfds : Bool
  createPolicy : Bool
  /-- The two output files. -/
  createCmd : Key → Option (Bytes × Bytes)
  loadCmd : Bytes → Bytes → Option Ctx
  unsealCmd : Ctx → Option Bytes

namespace Tpm

variable (tpm : Tpm)

/-- `"TPS1"`. -/
def magic : Bytes := [0x54, 0x50, 0x53, 0x31]

/-- The blob: magic, two lengths, two parts. -/
def pack (pub priv : Bytes) : Bytes :=
  magic ++ (le32 (UInt32.ofNat pub.length) ++ (le32 (UInt32.ofNat priv.length) ++ (pub ++ priv)))

/-- `fhsm_tpm_seal`, into a buffer of 2048 bytes. Each output is read into 512 bytes. -/
def tpmSeal (secret : Key) : Except Err Bytes :=
  if !tpm.available then .error .tpmUnavailable
  else if !tpm.memfds then .error .functionFailed
  else if !tpm.createPolicy then .error .functionFailed
  else match tpm.createCmd secret with
    | none => .error .functionFailed
    | some (pub, priv) =>
      let pub := pub.take 512
      let priv := priv.take 512
      if pub = [] ∨ priv = [] then .error .functionFailed
      else if 2048 < 12 + pub.length + priv.length then .error .functionFailed
      else .ok (pack pub priv)

/-- `fhsm_tpm_unseal`. -/
def tpmUnseal (blob : Bytes) : Except Err Key :=
  if !tpm.available then .error .tpmUnavailable
  else if blob.length < 12 then .error .argumentsBad
  else if blob.take 4 ≠ magic then .error .functionFailed
  else
    let pubLen := (u32At blob 4).toNat
    let privLen := (u32At blob 8).toNat
    if 12 + pubLen + privLen ≠ blob.length then .error .functionFailed
    else if !tpm.memfds then .error .functionFailed
    else if !tpm.createPolicy then .error .functionFailed
    else match tpm.loadCmd ((blob.drop 12).take pubLen) ((blob.drop (12 + pubLen)).take privLen) with
      | none => .error .functionFailed
      | some ctx => match tpm.unsealCmd ctx with
        | none => .error .functionFailed
        | some out => if out.length < 32 then .error .functionFailed else .ok (vecAt out 0 32)

/-- Under unchanged PCRs the TPM gives back what was sealed, and takes nothing but what it made. -/
structure Faithful : Prop where
  returns : ∀ key pub priv, tpm.createCmd key = some (pub, priv) →
    ∃ ctx, tpm.loadCmd pub priv = some ctx ∧ tpm.unsealCmd ctx = some key.toList
  only : ∀ pub priv ctx out, tpm.loadCmd pub priv = some ctx → tpm.unsealCmd ctx = some out →
    ∃ key, tpm.createCmd key = some (pub, priv) ∧ out = key.toList

/-- The part of a call that does not depend on what is sealed succeeds. -/
structure Works : Prop where
  available : tpm.available = true
  memfds : tpm.memfds = true
  createPolicy : tpm.createPolicy = true

/-- Both outputs of `create`, where there are any, fit their buffers. -/
def Fits : Prop :=
  ∀ key pub priv, tpm.createCmd key = some (pub, priv) → pub ≠ [] → priv ≠ [] →
    pub.length ≤ 512 ∧ priv.length ≤ 512

end Tpm

/-! ## The companion file -/

/-- A companion file and what the system says of it. -/
structure Companion where
  /-- The path of the token, as `fhsm_token_t` holds it. -/
  path : Bytes
  path_lt : path.length < 512
  /-- What is in the file, if there is one. -/
  file : Option Bytes
  /-- `access(path, R_OK)` succeeds on the file. -/
  readable : Bool
  /-- `open` succeeds on the file. -/
  opens : Bool
  /-- What `read` returns: an error, or up to this number of bytes. -/
  reads : Option Nat

/-- `build_tpm_path` into 1024 bytes. -/
def buildTpmPath (path : Bytes) : Option Bytes :=
  if 1024 ≤ (path ++ [0x2e, 0x74, 0x70, 0x6d]).length then none
  else some (path ++ [0x2e, 0x74, 0x70, 0x6d])

/-- `fhsm_token_tpm_dek_match`. -/
def tokenTpmDekMatch (a b : Key) : Bool :=
  (a.toList.zip b.toList).foldl (fun diff x => diff ||| (x.1 ^^^ x.2)) 0 == 0

namespace Companion

variable (tpm : Tpm) (c : Companion)

/-- `fhsm_token_tpm_seal`, with what is in the file afterwards; `stored` says that the file could
be written and put in place. -/
def tokenTpmSeal (path : Bytes) (stored : Bool) (dek : Key) : Except Err Bytes :=
  if !tpm.available then .error .tpmUnavailable
  else match buildTpmPath path with
    | none => .error .argumentsBad
    | some tpmPath => match tpm.tpmSeal dek with
      | .error e => .error e
      | .ok blob =>
        -- the name of the temporary file, with `.new`
        if 1024 ≤ tpmPath.length + 4 then .error .functionFailed
        else if stored then .ok blob else .error .functionFailed

/-- `fhsm_token_tpm_blob_exists`. -/
def tokenTpmBlobExists : Bool :=
  match buildTpmPath c.path with
  | none => false
  | some _ => c.file.isSome && c.readable

/-- What the one `read` of `fhsm_token_tpm_unseal` puts into its 2048 bytes. -/
def delivered : Option Bytes :=
  match c.file, c.opens, c.reads with
  | some content, true, some n => some (content.take (min n 2048))
  | _, _, _ => none

/-- `fhsm_token_tpm_unseal`. -/
def tokenTpmUnseal : Except Err Key :=
  if !tpm.available then .error .tpmUnavailable
  else match buildTpmPath c.path with
    | none => .error .argumentsBad
    | some _ => match c.delivered with
      | none => .error .functionFailed
      | some bs => if bs = [] then .error .functionFailed else tpm.tpmUnseal bs

/-- What `fhsm_token_login` meets. -/
def env (required : Bool) (env : Env) : Env :=
  { env with
    tpmRequired := required
    tpmCompanion := if c.tokenTpmBlobExists then some (c.tokenTpmUnseal tpm) else none }

end Companion

/-! ## A login with the right PIN -/

namespace Token

variable {C : Crypto} {env : Env} {t : Token} {role : Role} {pin : Bytes} {dek : Key}

/-- Nothing keeps a PIN from being tried. -/
structure CanTry (env : Env) (t : Token) (role : Role) : Prop where
  running : env.moduleError = false
  kdf : env.kdfErr = none
  opens : env.openErr 0 = none
  buffer : env.secureAlloc = true
  iter : 1000 ≤ t.header.pbkdf2Iter
  notLocked : t.header.failed.get role < pinMaxFailed
  initialized : role = .user → t.header.userInitialized = true

theorem evalPin_right (hcan : CanTry env t role) (hdek : t.header.unwrapDek C role pin = some dek)
    (b : Bool) : ∃ es, t.evalPin C env role pin b = .ok (some dek, es) := by
  unfold Header.unwrapDek at hdek
  split at hdek
  case h_2 => cases hdek
  rename_i pt hpt
  split at hdek
  case isFalse => cases hdek
  rename_i hlen
  cases hdek
  have hiter : ¬ t.header.pbkdf2Iter < 1000 := UInt32.not_lt.2 hcan.iter
  have hlocked : ¬ pinMaxFailed ≤ t.header.failed.get role := UInt32.not_le.2 hcan.notLocked
  have huser : ¬ (role = .user ∧ t.header.userInitialized = false) := by
    rintro ⟨hrole, hno⟩
    rw [hcan.initialized hrole] at hno
    cases hno
  have hkdf : ∀ salt, env.pbkdf2 C pin salt t.header.pbkdf2Iter =
      .ok (C.pbkdf2 pin salt t.header.pbkdf2Iter) := by
    intro salt
    simp [Env.pbkdf2, hcan.running, hiter, hcan.kdf]
  have hopen : ∀ key nonce aad ct tag, C.decrypt key nonce aad ct tag = some pt →
      env.aesGcmDecrypt C 0 key nonce aad ct tag = .ok pt := by
    intro key nonce aad ct tag h
    simp [Env.aesGcmDecrypt, hcan.running, hcan.opens, h]
  unfold evalPin
  rw [if_neg hlocked, if_neg huser]
  dsimp only
  rw [hkdf]
  dsimp only
  rw [if_neg (by simp [hcan.buffer]), hopen _ _ _ _ _ hpt]
  dsimp only
  rw [if_pos hlen]
  exact ⟨_, rfl⟩

theorem login_right (hcan : CanTry env t role) (hdek : t.header.unwrapDek C role pin = some dek)
    (hfree : t.loggedIn = .none) (hrole : role ≠ .none) (d : Disk) :
    (t.login C env role pin d).1 = if env.tpmRefuses dek then .err .deviceError else .ok := by
  obtain ⟨es, heval⟩ := evalPin_right hcan hdek t.dek.isNone
  unfold login
  rw [if_neg (by rw [hfree]; exact hrole.symm), if_neg (by simp [hfree]), heval]
  dsimp only
  split <;> rfl

end Token

/-! ## Packing -/

namespace Tpm

variable {tpm : Tpm} {pub priv blob : Bytes} {key : Key}

theorem length_pack (pub priv : Bytes) : (pack pub priv).length = 12 + pub.length + priv.length := by
  simp only [pack, magic, length_append, length_le32, length_cons, length_nil]
  omega

theorem unpack_pack (hpub : pub.length ≤ 512) (hpriv : priv.length ≤ 512) :
    (pack pub priv).take 4 = magic ∧ (u32At (pack pub priv) 4).toNat = pub.length ∧
      (u32At (pack pub priv) 8).toNat = priv.length ∧
      ((pack pub priv).drop 12).take pub.length = pub ∧
      ((pack pub priv).drop (12 + pub.length)).take priv.length = priv := by
  have hn : ∀ n, n ≤ 512 → (UInt32.ofNat n).toNat = n := by
    intro n hn
    rw [UInt32.toNat_ofNat', Nat.mod_eq_of_lt (by omega)]
  have hdrop : (pack pub priv).drop 12 = pub ++ priv := rfl
  refine ⟨rfl, ?_, ?_, ?_, ?_⟩
  · have hat : u32At (pack pub priv) 4 = UInt32.ofNat pub.length := by
      rw [pack]
      exact (u32At_append_right magic _ 0).trans (u32At_le32_append _ _)
    rw [hat, hn _ hpub]
  · have hat : u32At (pack pub priv) 8 = UInt32.ofNat priv.length := by
      rw [pack, ← append_assoc]
      exact (u32At_append_right (magic ++ le32 (UInt32.ofNat pub.length)) _ 0).trans
        (u32At_le32_append _ _)
    rw [hat, hn _ hpriv]
  · rw [hdrop, take_left]
  · rw [← drop_drop, hdrop, drop_left, take_length]

theorem tpmSeal_of_create (hworks : tpm.Works) (hcreate : tpm.createCmd key = some (pub, priv))
    (hpub : pub ≠ []) (hpriv : priv ≠ []) :
    tpm.tpmSeal key = .ok (pack (pub.take 512) (priv.take 512)) := by
  have hnonempty : ∀ bs : Bytes, bs ≠ [] → bs.take 512 ≠ [] := by
    intro bs hbs hnil
    rcases take_eq_nil_iff.1 hnil with h | h
    · cases h
    · exact hbs h
  have hroom : ¬ 2048 < 12 + (pub.take 512).length + (priv.take 512).length := by
    have := length_take_le 512 pub
    have := length_take_le 512 priv
    omega
  have hsome : ¬ (pub.take 512 = [] ∨ priv.take 512 = []) := by
    rintro (h | h)
    · exact hnonempty pub hpub h
    · exact hnonempty priv hpriv h
  unfold tpmSeal
  rw [hworks.available, hworks.memfds, hworks.createPolicy, hcreate]
  simp only [Bool.not_true, Bool.false_eq_true, ↓reduceIte]
  rw [if_neg hsome, if_neg hroom]

theorem tpmSeal_ok (h : tpm.tpmSeal key = .ok blob) :
    tpm.Works ∧ ∃ pub priv, tpm.createCmd key = some (pub, priv) ∧ pub ≠ [] ∧ priv ≠ [] ∧
      blob = pack (pub.take 512) (priv.take 512) := by
  simp only [tpmSeal, ite_error_eq_ok, Bool.not_eq_true', Bool.not_eq_false] at h
  obtain ⟨havail, hmem, hpol, h⟩ := h
  split at h
  · cases h
  rename_i pub priv hcreate
  simp only [ite_error_eq_ok] at h
  obtain ⟨hsome, -, h⟩ := h
  cases h
  refine ⟨⟨havail, hmem, hpol⟩, pub, priv, hcreate, ?_, ?_, rfl⟩
  · rintro rfl
    exact hsome (.inl rfl)
  · rintro rfl
    exact hsome (.inr rfl)

theorem tpmUnseal_pack (hworks : tpm.Works) (hpub : pub.length ≤ 512) (hpriv : priv.length ≤ 512)
    (key : Key) :
    tpm.tpmUnseal (pack pub priv) = .ok key ↔ ∃ ctx out, tpm.loadCmd pub priv = some ctx ∧
      tpm.unsealCmd ctx = some out ∧ 32 ≤ out.length ∧ vecAt out 0 32 = key := by
  obtain ⟨hmagic, hlen, hlen', hpart, hpart'⟩ := unpack_pack hpub hpriv
  have htotal := length_pack pub priv
  unfold tpmUnseal
  rw [hworks.available, hworks.memfds, hworks.createPolicy]
  dsimp only
  rw [if_neg (by decide), if_neg (by omega), if_neg (not_not.2 hmagic), hlen, hlen',
    if_neg (by omega), if_neg (by decide), if_neg (by decide), hpart, hpart']
  cases hload : tpm.loadCmd pub priv with
  | none => simp
  | some ctx =>
    cases hunseal : tpm.unsealCmd ctx with
    | none => simp [hunseal]
    | some out =>
      simp only [hunseal]
      by_cases hshort : out.length < 32
      · rw [if_pos hshort]
        constructor
        · exact nofun
        · rintro ⟨_, _, ⟨⟩, heq, hlong, -⟩
          rw [hunseal] at heq
          cases heq
          omega
      · rw [if_neg hshort]
        constructor
        · rintro ⟨⟩
          exact ⟨ctx, out, rfl, hunseal, by omega, rfl⟩
        · rintro ⟨_, _, ⟨⟩, heq, -, hkey⟩
          rw [hunseal] at heq
          cases heq
          rw [hkey]

theorem tpmUnseal_tpmSeal (hfaithful : tpm.Faithful) (hfits : tpm.Fits)
    (h : tpm.tpmSeal key = .ok blob) : tpm.tpmUnseal blob = .ok key := by
  obtain ⟨hworks, pub, priv, hcreate, hpub, hpriv, rfl⟩ := tpmSeal_ok h
  obtain ⟨hlen, hlen'⟩ := hfits key pub priv hcreate hpub hpriv
  rw [take_of_length_le hlen, take_of_length_le hlen', tpmUnseal_pack hworks hlen hlen' key]
  obtain ⟨ctx, hload, hunseal⟩ := hfaithful.returns key pub priv hcreate
  refine ⟨ctx, key.toList, hload, hunseal, by rw [Vector.length_toList], ?_⟩
  have hself := vecAt_toList_append key []
  rwa [append_nil] at hself

theorem length_tpmSeal (h : tpm.tpmSeal key = .ok blob) : blob.length ≤ 2048 := by
  obtain ⟨-, pub, priv, -, -, -, rfl⟩ := tpmSeal_ok h
  rw [length_pack, length_take, length_take]
  omega

end Tpm

/-! ## The comparison -/

theorem tokenTpmDekMatch_iff (a b : Key) : tokenTpmDekMatch a b = true ↔ a = b := by
  -- the accumulator is zero exactly when it was and all bytes agree
  have hloop : ∀ (l l' : Bytes) (diff : UInt8), l.length = l'.length →
      ((l.zip l').foldl (fun diff x => diff ||| (x.1 ^^^ x.2)) diff = 0 ↔ diff = 0 ∧ l = l') := by
    intro l
    induction l with
    | nil =>
      intro l' diff hlen
      cases l' with
      | nil => simp
      | cons => cases hlen
    | cons x l ih =>
      intro l' diff hlen
      cases l' with
      | nil => cases hlen
      | cons y l' =>
        rw [zip_cons_cons, foldl_cons, ih l' _ (by simpa using hlen), UInt8.or_eq_zero_iff,
          UInt8.xor_eq_zero_iff, cons.injEq, and_assoc]
  rw [tokenTpmDekMatch, beq_iff_eq, hloop _ _ _ (by rw [Vector.length_toList, Vector.length_toList])]
  constructor
  · rintro ⟨-, h⟩
    exact Vector.toList_inj.1 h
  · rintro rfl
    exact ⟨rfl, rfl⟩

/-- `fhsm_token_login` refuses for the TPM exactly when the file is seen and does not give the DEK,
or is not seen and sealing is required. -/
theorem Companion.tpmRefuses_env (tpm : Tpm) (c : Companion) (required : Bool) (env : Env) (dek : Key) :
    (c.env tpm required env).tpmRefuses dek =
      if c.tokenTpmBlobExists then
        (match c.tokenTpmUnseal tpm with
          | .ok key => !tokenTpmDekMatch dek key
          | .error _ => true)
      else required := by
  unfold Companion.env Env.tpmRefuses
  cases c.tokenTpmBlobExists with
  | false => rfl
  | true =>
    dsimp only [↓reduceIte]
    cases c.tokenTpmUnseal tpm with
    | error e => rfl
    | ok key =>
      have hmatch : tokenTpmDekMatch dek key = (key == dek) := by
        rw [Bool.eq_iff_iff, tokenTpmDekMatch_iff, beq_iff_eq]
        exact eq_comm
      simp only [hmatch]
      rfl

/-- The TPM lets a login with this DEK pass. -/
def Companion.Passes (tpm : Tpm) (required : Bool) (c : Companion) (dek : Key) : Prop :=
  (c.tokenTpmBlobExists = true → c.tokenTpmUnseal tpm = .ok dek) ∧
    (c.tokenTpmBlobExists = false → required = false)

theorem Companion.passes_iff (tpm : Tpm) (required : Bool) (c : Companion) (env : Env) (dek : Key) :
    c.Passes tpm required dek ↔ (c.env tpm required env).tpmRefuses dek = false := by
  rw [c.tpmRefuses_env, Companion.Passes]
  cases c.tokenTpmBlobExists with
  | false => simp
  | true =>
    simp only [↓reduceIte, forall_const, Bool.true_eq_false, false_implies, and_true]
    cases c.tokenTpmUnseal tpm with
    | error e => simp
    | ok key =>
      simp only [Except.ok.injEq, Bool.not_eq_false']
      rw [tokenTpmDekMatch_iff, eq_comm]

/-! ## Logging in -/

namespace Companion

variable {tpm : Tpm} {c : Companion} {key : Key}

theorem buildTpmPath_of_lt {path : Bytes} (h : path.length < 512) :
    buildTpmPath path = some (path ++ [0x2e, 0x74, 0x70, 0x6d]) := by
  rw [buildTpmPath, if_neg]
  simp only [length_append, length_cons, length_nil]
  omega

theorem tokenTpmBlobExists_eq (c : Companion) : c.tokenTpmBlobExists = (c.file.isSome && c.readable) := by
  rw [tokenTpmBlobExists, buildTpmPath_of_lt c.path_lt]

theorem tpmUnseal_ok {bs : Bytes} (h : tpm.tpmUnseal bs = .ok key) :
    tpm.available = true ∧ bs ≠ [] := by
  simp only [Tpm.tpmUnseal, ite_error_eq_ok] at h
  obtain ⟨havail, hlen, -⟩ := h
  refine ⟨by simpa using havail, ?_⟩
  rintro rfl
  exact hlen (by decide)

theorem tokenTpmUnseal_ok_iff : c.tokenTpmUnseal tpm = .ok key ↔
    ∃ bs, c.delivered = some bs ∧ tpm.tpmUnseal bs = .ok key := by
  unfold tokenTpmUnseal
  rw [buildTpmPath_of_lt c.path_lt]
  dsimp only
  constructor
  · intro h
    split at h
    · cases h
    split at h
    · cases h
    rename_i bs hbs
    split at h
    · cases h
    · exact ⟨bs, hbs, h⟩
  · rintro ⟨bs, hbs, h⟩
    obtain ⟨havail, hne⟩ := tpmUnseal_ok h
    rw [havail, hbs]
    dsimp only
    rw [if_neg (by decide), if_neg hne, h]

theorem tokenTpmSeal_ok {path : Bytes} {stored : Bool} {blob : Bytes}
    (h : tokenTpmSeal tpm path stored key = .ok blob) : tpm.tpmSeal key = .ok blob := by
  unfold tokenTpmSeal at h
  repeat' split at h
  all_goals cases h
  assumption

theorem file_of_delivered {bs : Bytes} (h : c.delivered = some bs) : c.file.isSome = true := by
  unfold delivered at h
  split at h
  · rename_i hfile _ _
    rw [hfile]
    rfl
  · cases h

end Companion

/-- What the sealed copy is for. -/
structure SealingSound (tpm : Tpm) (required : Bool) (c : Companion) : Prop where
  /-- A login succeeds without a companion file where sealing is not required, or with one that was
  read whole and gives the DEK of the PIN. -/
  accepted : ∀ C env t role pin d, (Token.login C (c.env tpm required env) t role pin d).1 = .ok →
    (c.file = none ∧ required = false) ∨ ∃ content key, c.file = some content ∧
      c.delivered = some content ∧ tpm.tpmUnseal content = .ok key ∧
      t.header.unwrapDek C role pin = some key
  /-- A login that only the TPM keeps from succeeding changes nothing but the DEK buffer. -/
  refused : ∀ C env t role pin d rv t' d',
    (Token.login C { env with tpmRequired := false, tpmCompanion := none } t role pin d).1 = .ok →
    Token.login C (c.env tpm required env) t role pin d = (rv, t', d') → rv ≠ .ok →
    t'.loggedIn = t.loggedIn ∧ t'.header = t.header ∧ t'.throttleUntilMs = t.throttleUntilMs ∧
      t'.dek.map Dek.key = some zeroKey ∧ d'.file = d.file
  /-- A companion file that sealing wrote gives the DEK back. -/
  returned : tpm.Faithful → ∀ path stored key content, path.length < 512 →
    Companion.tokenTpmSeal tpm path stored key = .ok content → ∀ c' : Companion,
    c'.file = some content → c'.opens = true → (∃ n, c'.reads = some n ∧ content.length ≤ n) →
    c'.tokenTpmUnseal tpm = .ok key

theorem login_tpmRefused (tpm : Tpm) (required : Bool) (c : Companion) {C : Crypto} {env : Env}
    {t t' : Token} {role : Role} {pin : Bytes} {d d' : Disk} {rv : Rv}
    (hbare : (Token.login C { env with tpmRequired := false, tpmCompanion := none } t role pin d).1 =
      .ok)
    (h : Token.login C (c.env tpm required env) t role pin d = (rv, t', d')) (hno : rv ≠ .ok) :
    t'.loggedIn = t.loggedIn ∧ t'.header = t.header ∧ t'.throttleUntilMs = t.throttleUntilMs ∧
      t'.dek.map Dek.key = some zeroKey ∧ d'.file = d.file := by
  unfold Token.login at hbare h
  -- the checks and the PIN do not look at the TPM
  have heval : t.evalPin C (c.env tpm required env) role pin t.dek.isNone =
      t.evalPin C { env with tpmRequired := false, tpmCompanion := none } role pin t.dek.isNone := rfl
  rw [heval] at h
  split at hbare
  · cases hbare
  rename_i hsame
  rw [if_neg hsame] at h
  split at hbare
  · cases hbare
  rename_i hfree
  rw [if_neg hfree] at h
  split at hbare
  · cases hbare
  · rename_i es hwrong
    unfold wrongPinRv at hbare
    dsimp only at hbare
    split at hbare <;> cases hbare
  · rename_i dek es hright
    rw [hright] at h
    dsimp only at h
    split at h
    · cases h
      exact ⟨rfl, rfl, rfl, rfl, rfl⟩
    · cases h
      exact absurd rfl hno

/-- A token with a given DEK, and its SO PIN. -/
def tokenWithDek (dek : Key) : Token :=
  Token.initialToken .plain { Env.quiet with rngDek := dek } (List.replicate 8 0x31) []

theorem unwrapDek_tokenWithDek (dek : Key) :
    (tokenWithDek dek).header.unwrapDek .plain .so (replicate 8 0x31) = some dek := by
  have hopened : (tokenWithDek dek).header.OpenedBy .plain .so (cstr (replicate 8 0x31)) dek :=
    Header.openedBy_wrapFor Crypto.otherKekFails_plain rfl
  exact (hopened (replicate 8 0x31)).trans (if_pos rfl)

theorem login_tokenWithDek (tpm : Tpm) (required : Bool) (c : Companion) (dek : Key)
    (hpass : c.Passes tpm required dek) :
    (Token.login .plain (c.env tpm required .quiet) (tokenWithDek dek) .so (replicate 8 0x31)
      ⟨none, []⟩).1 = .ok := by
  have hcan : Token.CanTry (c.env tpm required .quiet) (tokenWithDek dek) .so :=
    ⟨rfl, rfl, rfl, rfl, by change 1000 ≤ newPbkdf2Iter; decide,
      by change 0 < pinMaxFailed; decide, nofun⟩
  have hlogin := login_right hcan (unwrapDek_tokenWithDek dek) rfl nofun ⟨none, []⟩
  rw [(c.passes_iff tpm required .quiet dek).1 hpass] at hlogin
  exact hlogin

/-- A login depends on the sealed copy as it should exactly when a companion file that may not be
read comes with sealing required, a file of which only a part was read does not unseal, and the
outputs of a faithful TPM fit their buffers. -/
theorem sealing_sound_iff (tpm : Tpm) (required : Bool) (c : Companion) :
    SealingSound tpm required c ↔
      (c.file.isSome = true → c.readable = false → required = true) ∧
      (c.readable = true → ∀ bs, c.delivered = some bs → c.file ≠ some bs →
        ∀ key, tpm.tpmUnseal bs ≠ .ok key) ∧
      (tpm.Faithful → tpm.Works → tpm.Fits) := by
  constructor
  · intro hsound
    refine ⟨fun hfile hno => ?_, fun hreadable bs hbs hpart key hkey => ?_,
      fun hfaithful hworks key pub priv hcreate hpub hpriv => ?_⟩
    · -- a file that is taken for absent: some token has another DEK than the file
      by_contra hreq
      obtain ⟨content, hcontent⟩ := Option.isSome_iff_exists.1 hfile
      obtain ⟨dek, hdek⟩ : ∃ dek : Key, tpm.tpmUnseal content ≠ .ok dek := by
        by_contra! hall
        have hsame := (hall zeroKey).symm.trans (hall (Vector.replicate 32 1))
        exact absurd (Except.ok.inj hsame) (by decide)
      have hpass : c.Passes tpm required dek := by
        rw [Companion.Passes, c.tokenTpmBlobExists_eq, hno, Bool.and_false]
        exact ⟨nofun, fun _ => Bool.eq_false_iff.2 hreq⟩
      rcases hsound.accepted _ _ _ _ _ _ (login_tokenWithDek tpm required c dek hpass) with
        ⟨hnone, -⟩ | ⟨content', key, hcontent', -, hkey, hpin⟩
      · cases hcontent.symm.trans hnone
      · cases hcontent.symm.trans hcontent'
        cases (unwrapDek_tokenWithDek dek).symm.trans hpin
        exact hdek hkey
    · -- a part that unseals: some token has the DEK it gives
      have hpass : c.Passes tpm required key := by
        rw [Companion.Passes, c.tokenTpmBlobExists_eq, hreadable, Companion.file_of_delivered hbs]
        exact ⟨fun _ => Companion.tokenTpmUnseal_ok_iff.2 ⟨bs, hbs, hkey⟩, nofun⟩
      rcases hsound.accepted _ _ _ _ _ _ (login_tokenWithDek tpm required c key hpass) with
        ⟨hnone, -⟩ | ⟨content, key', hcontent, hwhole, -, -⟩
      · have hsome := Companion.file_of_delivered hbs
        rw [hnone] at hsome
        cases hsome
      · cases hbs.symm.trans hwhole
        exact hpart hcontent
    · -- an output that was cut short: the TPM did not make it
      have hseal : Companion.tokenTpmSeal tpm [] true key =
          .ok (Tpm.pack (pub.take 512) (priv.take 512)) := by
        rw [Companion.tokenTpmSeal, hworks.available, Companion.buildTpmPath_of_lt (by decide),
          Tpm.tpmSeal_of_create hworks hcreate hpub hpriv]
        rfl
      let c' : Companion := ⟨[], by decide, some (Tpm.pack (pub.take 512) (priv.take 512)), true, true,
        some (Tpm.pack (pub.take 512) (priv.take 512)).length⟩
      have hback := hsound.returned hfaithful [] true key _ (by decide) hseal c' rfl rfl
        ⟨_, rfl, Nat.le_refl _⟩
      obtain ⟨bs, hbs, hunseal⟩ := Companion.tokenTpmUnseal_ok_iff.1 hback
      have hlen := length_take_le 512 pub
      have hlen' := length_take_le 512 priv
      have hwhole : bs = Tpm.pack (pub.take 512) (priv.take 512) := by
        refine (Option.some.inj hbs).symm.trans (take_of_length_le ?_)
        rw [Tpm.length_pack]
        omega
      rw [hwhole, Tpm.tpmUnseal_pack hworks hlen hlen'] at hunseal
      obtain ⟨ctx, out, hload, hout, -, hkey⟩ := hunseal
      obtain ⟨key', hcreate', rfl⟩ := hfaithful.only _ _ ctx out hload hout
      have hself := vecAt_toList_append key' []
      rw [append_nil, hkey] at hself
      rw [← hself, hcreate] at hcreate'
      obtain ⟨hpub', hpriv'⟩ := Prod.mk.inj (Option.some.inj hcreate')
      exact ⟨hpub' ▸ hlen, hpriv' ▸ hlen'⟩
  · rintro ⟨hhidden, hpart, hfits⟩
    refine ⟨fun C env t role pin d hok => ?_, fun _ _ _ _ _ _ _ _ _ => login_tpmRefused tpm required c,
      fun hfaithful path stored key content hpath hseal c' hfile hopens hreads => ?_⟩
    · rcases hlogin : Token.login C (c.env tpm required env) t role pin d with ⟨rv, t', d'⟩
      rw [hlogin] at hok
      subst hok
      obtain ⟨dek, _, _, htried, -, htpm, -⟩ := login_accepted (login_cases hlogin)
      obtain ⟨hseen, hunseen⟩ := (c.passes_iff tpm required env dek).2 htpm
      rw [c.tokenTpmBlobExists_eq] at hseen hunseen
      cases hfile : c.file.isSome with
      | false =>
        rw [hfile] at hunseen
        exact .inl ⟨by simpa using hfile, hunseen rfl⟩
      | true =>
        cases hreadable : c.readable with
        | false =>
          have hreq := hunseen (by rw [hreadable, Bool.and_false])
          rw [hhidden hfile hreadable] at hreq
          cases hreq
        | true =>
          rw [hfile, hreadable] at hseen
          obtain ⟨bs, hbs, hunseal⟩ := Companion.tokenTpmUnseal_ok_iff.1 (hseen rfl)
          have hwhole : c.file = some bs := by
            by_contra hne
            exact hpart hreadable bs hbs hne _ hunseal
          exact .inr ⟨bs, _, hwhole, hbs, hunseal, htried.right _ rfl⟩
    · have hblob := Companion.tokenTpmSeal_ok hseal
      have hback := Tpm.tpmUnseal_tpmSeal hfaithful (hfits hfaithful (Tpm.tpmSeal_ok hblob).1) hblob
      obtain ⟨n, hn, hlong⟩ := hreads
      -- a blob is shorter than the buffer it is read into
      have hshort := Tpm.length_tpmSeal hblob
      refine Companion.tokenTpmUnseal_ok_iff.2 ⟨content, ?_, hback⟩
      rw [Companion.delivered, hfile, hopens, hn]
      dsimp only
      rw [take_of_length_le (by omega)]

/-- A TPM whose public part is the secret itself. -/
def Tpm.plain : Tpm where
  Ctx := Key
  available := true
  memfds := true
  createPolicy := true
  createCmd key := some (key.toList, [1])
  loadCmd pub priv := if pub.length = 32 ∧ priv = [1] then some (vecAt pub 0 32) else none
  unsealCmd key := some key.toList

/-- The companion file of a token with another DEK, which the process may not read. -/
def unreadableCompanion : Companion where
  path := []
  path_lt := by decide
  file := some (Tpm.pack (List.replicate 32 1) [1])
  readable := false
  opens := false
  reads := none

/-- The file is there and cannot be read, and the login succeeds. -/
theorem login_unreadable_companion :
    (Token.login .plain (unreadableCompanion.env .plain false .quiet) (tokenWithDek zeroKey) .so
      (replicate 8 0x31) ⟨none, []⟩).1 = .ok ∧
    unreadableCompanion.file.isSome = true ∧ unreadableCompanion.delivered = none ∧
    ¬ SealingSound .plain false unreadableCompanion := by
  have hok : (Token.login .plain (unreadableCompanion.env .plain false .quiet) (tokenWithDek zeroKey)
      .so (replicate 8 0x31) ⟨none, []⟩).1 = .ok := by decide +kernel
  refine ⟨hok, rfl, rfl, fun hsound => ?_⟩
  rcases hsound.accepted _ _ _ _ _ _ hok with ⟨hnone, -⟩ | ⟨content, key, -, hread, -, -⟩
  · cases hnone
  · cases hread

end FreeHsm
