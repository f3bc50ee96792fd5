import FreeHsm.Token.File

/-!
# Token life cycle and PINs

`fhsm_token_init`, `_load`, `_login`, `_verify_pin`, `_logout`, `_init_user_pin`,
`_set_pin` and `_reinit`. Each function takes the token and the disk and returns
what the source leaves in both, also on its error exits.

`login` and `verify_pin` repeat the same statements up to the outcome of the
decryption; they are `evalPin`. `init_user_pin` and `set_pin` repeat the wrapping
of the DEK under a new PIN; it is `rewrapDek`.
-/

namespace FreeHsm

/-- The doubling loop of `throttle_delay_ms`, for at most `n` rounds. -/
def throttleDouble : (n : Nat) → (ms : Nat) → Nat
  | 0, ms => ms
  | n + 1, ms => if ms < pinThrottleMaxMs then throttleDouble n (2 * ms) else ms

/-- `throttle_delay_ms`. -/
def throttleDelayMs (fails : UInt32) : Nat :=
  if fails = 0 then 0
  else min (throttleDouble (fails.toNat - 1) pinThrottleBaseMs) pinThrottleMaxMs

/-- The TPM cross-check of a login refuses the unwrapped `dek`. -/
def Env.tpmRefuses (env : Env) (dek : Key) : Bool :=
  match env.tpmCompanion with
  | some (.ok sealedDek) => sealedDek != dek
  | some (.error _) => true
  | none => env.tpmRequired

variable (h : Header) (C : Crypto) (role : Role)

/-- The wrapped DEK of a role, decrypted with a PIN. -/
def Header.unwrapBytes (pin : Bytes) : Option Bytes :=
  let w := h.wrap.get role
  C.decrypt (C.pbkdf2 pin w.salt h.pbkdf2Iter) w.nonce h.aad (w.ct.toList.take 32)
    (vecAt w.ct.toList 32 16)

/-- The DEK a PIN of a role gives access to. -/
def Header.unwrapDek (pin : Bytes) : Option Key :=
  match h.unwrapBytes C role pin with
  | some pt => if pt.length = 32 then some (vecAt pt 0 32) else none
  | none => none

/-- The wrap of a role opens under exactly the PINs that have the KEK of `pin`, and gives `dek`. -/
def Header.OpenedBy (pin : Bytes) (dek : Key) : Prop :=
  ∀ pin', h.unwrapDek C role pin' =
    if C.pbkdf2 pin' (h.wrap.get role).salt h.pbkdf2Iter =
      C.pbkdf2 pin (h.wrap.get role).salt h.pbkdf2Iter then some dek else none

/-- A DEK wrapped under the KEK of a PIN. -/
def Header.wrapFor (salt : Vector UInt8 16) (nonce : Nonce) (pin : Bytes) (dek : Key) : Wrap :=
  let (ct, tag) := C.encrypt (C.pbkdf2 pin salt h.pbkdf2Iter) nonce h.aad dek.toList
  ⟨salt, nonce, vecAt (ct ++ tag.toList) 0 48⟩

/-- The history entry of that decryption. -/
def Header.unwrapEvent (pin pt : Bytes) : Event :=
  let w := h.wrap.get role
  .opened (C.pbkdf2 pin w.salt h.pbkdf2Iter) w.nonce h.aad (w.ct.toList.take 32)
    (vecAt w.ct.toList 32 16) pt

namespace Token

/-! ## PIN attempts -/

variable (C : Crypto) (env : Env) (t : Token) (role : Role)

/-- The part `fhsm_token_login` and `fhsm_token_verify_pin` share: refuse without looking at
    the PIN, or try it on the wrapped DEK of the role. A running throttle only delays the
    attempt. `needsBuffer` says that the DEK buffer has to be allocated first. -/
def evalPin (pin : Bytes) (needsBuffer : Bool) : Except Err (Option Key × List Event) :=
  if pinMaxFailed ≤ t.header.failed.get role then .error .pinLocked
  else if role = .user ∧ t.header.userInitialized = false then .error .userNotLoggedIn
  else
    let w := t.header.wrap.get role
    match env.pbkdf2 C pin w.salt t.header.pbkdf2Iter with
    | .error e => .error e
    | .ok kek =>
      if needsBuffer && !env.secureAlloc then .error .hostMemory
      else
        let ct := w.ct.toList.take 32
        let tag := vecAt w.ct.toList 32 16
        match env.aesGcmDecrypt C 0 kek w.nonce t.header.aad ct tag with
        | .error _ => .ok (none, [.pinTried role false])
        | .ok pt =>
          let opened := t.header.unwrapEvent C role pin pt
          if pt.length = 32 then .ok (some (vecAt pt 0 32), [opened, .pinTried role true])
          else .ok (none, [opened, .pinTried role false])

/-- `(*fails)++; *until = now + throttle_delay_ms(*fails);` where `now` is not before the
    running deadline. -/
def recordFailure : Token :=
  let fails := t.header.failed.get role + 1
  let now := max env.nowMs (t.throttleUntilMs.get role)
  { t with
    header := { t.header with failed := t.header.failed.set role fails }
    throttleUntilMs := t.throttleUntilMs.set role (now + throttleDelayMs fails) }

/-- `*fails = 0; *until = 0;` -/
def clearFailures : Token :=
  { t with
    header := { t.header with failed := t.header.failed.set role 0 }
    throttleUntilMs := t.throttleUntilMs.set role 0 }

/-- The return code after a wrong PIN. -/
def wrongPinRv : Rv :=
  if pinMaxFailed ≤ t.header.failed.get role then .err .pinLocked else .err .pinIncorrect

/-- `if (!t->objects_loaded) (void)objects_decrypt_load(t);` -/
def loadIfNeeded (file : Option Bytes) : Token × List Event :=
  if t.objectsLoaded then (t, [])
  else (objectsDecryptLoad C env t file).2

/-- `fhsm_token_login`. -/
def login (pin : Bytes) (d : Disk) : Rv × Token × Disk :=
  if t.loggedIn = role then (.err .userAlreadyLoggedIn, t, d)
  else if t.loggedIn ≠ .none then (.err .userAnotherAlreadyLoggedIn, t, d)
  else match t.evalPin C env role pin t.dek.isNone with
    | .error e => (.err e, t, d)
    | .ok (none, es) =>
      let t := { t.recordFailure env role with dek := some ⟨zeroKey, false⟩ }
      (t.wrongPinRv role, t, (writeAtomic C env t (d.record es)).2)
    | .ok (some dek, es) =>
      if env.tpmRefuses dek then
        -- the buffer is wiped, `dek_live` keeps the value it had
        (.err .deviceError, { t with dek := some ⟨zeroKey, t.dekLive⟩ }, d.record es)
      else
        let t := { t.clearFailures role with loggedIn := role, dek := some ⟨dek, true⟩ }
        let (t, es') := t.loadIfNeeded C env d.file
        (.ok, t, (writeAtomic C env t (d.record (es ++ .cleared role :: es'))).2)

/-- `fhsm_token_verify_pin`. -/
def verifyPin (pin : Bytes) (d : Disk) : Rv × Token × Disk :=
  if role = .none then (.err .argumentsBad, t, d)
  else match t.evalPin C env role pin true with
    | .error e => (.err e, t, d)
    | .ok (none, es) =>
      let t := t.recordFailure env role
      (t.wrongPinRv role, t, (writeAtomic C env t (d.record es)).2)
    | .ok (some _, es) =>
      let t := t.clearFailures role
      (.ok, t, (writeAtomic C env t (d.record (es ++ [.cleared role]))).2)

/-- `fhsm_token_logout`. The objects and `objects_loaded` stay. -/
def logout : Token := { t.dropDek with loggedIn := .none }

/-! ## Setting PINs -/

/-- Wrap the DEK of a role under a new PIN: fresh salt and nonce first, then the KEK, then the
    encryption. A failure leaves the new salt and nonce beside the old ciphertext. -/
def rewrapDek (pin : Bytes) (dek : Key) : Option Err × Token × List Event :=
  let old := (t.header.wrap.get role).ct
  let withCt (ct : Vector UInt8 48) : Token :=
    { t with header := { t.header with
        wrap := t.header.wrap.set role ⟨env.rngSalt, env.rngWrapNonce, ct⟩ } }
  match env.pbkdf2 C pin env.rngSalt t.header.pbkdf2Iter with
  | .error e => (some e, withCt old, [])
  | .ok kek =>
    match env.wrapDek C old kek env.rngWrapNonce t.header.aad dek with
    | (some e, ct) => (some e, withCt ct, [])
    | (none, ct) => (none, withCt ct, [.wrapped kek env.rngWrapNonce t.header.aad dek])

/-- `fhsm_token_init_user_pin`. -/
def initUserPin (userPin : Bytes) (d : Disk) : Rv × Token × Disk :=
  if (cstr userPin).length < 4 then (.err .pinIncorrect, t, d)
  else match t.loggedIn, t.liveDek with
    | .so, some dek =>
      match t.rewrapDek C env .user (cstr userPin) dek with
      | (some e, t, es) => (.err e, t, d.record es)
      | (none, t, es) =>
        let t := t.clearFailures .user
        let t := { t with header := { t.header with userInitialized := true } }
        let (rv, d) := writeAtomic C env t (d.record (es ++ [.cleared .user]))
        (rv, t, d)
    | _, _ => (.err .userNotLoggedIn, t, d)

/-- `fhsm_token_set_pin`: a login with the old PIN, in `loginEnv`, then a new wrap of the DEK
    the login left in the buffer. -/
def setPin (loginEnv env : Env) (t : Token) (role : Role) (oldPin newPin : Bytes) (d : Disk) :
    Rv × Token × Disk :=
  if (cstr newPin).length < 4 then (.err .pinIncorrect, t, d)
  else match t.login C loginEnv role (cstr oldPin) d with
    | (.err e, t, d) => (.err e, t, d)
    | (.ok, t, d) =>
      match t.rewrapDek C env role (cstr newPin) ((t.dek.map Dek.key).getD zeroKey) with
      | (some e, t, es) => (.err e, t, d.record es)
      | (none, t, es) =>
        let (rv, d) := writeAtomic C env t (d.record es)
        (rv, t, d)

/-! ## Creating and destroying -/

/-- The iteration count of a new token. -/
def newPbkdf2Iter : UInt32 := 200000

def zeroWrap : Wrap := ⟨Vector.replicate 16 0, Vector.replicate 12 0, Vector.replicate 48 0⟩

/-- The header of a new token before its DEK is wrapped; `label` and `serial` are printed
    over the old contents. -/
def freshHeader (old : Header) (label : Bytes) (saltUser : Vector UInt8 16) : Header :=
  { label := snprintfInto old.label label
    serial := snprintfInto old.serial (serialText env.rngSerial)
    pbkdf2Iter := newPbkdf2Iter
    wrap :=
      { so := { zeroWrap with salt := env.rngSalt }
        user := { zeroWrap with salt := saltUser } }
    userInitialized := old.userInitialized
    failed := old.failed }

/-- A zeroed `struct fhsm_token_s`. -/
def zeroed : Token where
  header :=
    { label := Vector.replicate 64 0
      serial := Vector.replicate 64 0
      pbkdf2Iter := 0
      wrap := ⟨zeroWrap, zeroWrap⟩
      userInitialized := false
      failed := ⟨0, 0⟩ }
  throttleUntilMs := ⟨0, 0⟩
  dek := none
  loggedIn := .none
  objects := .empty
  nextHandle := 0
  objectsLoaded := false
  objectsPublic := false

/-- `fhsm_token_init`. -/
def init (soPin label : Bytes) (d : Disk) : Rv × Option Token × Disk :=
  if (cstr soPin).length < 8 then (.err .pinIncorrect, none, d)
  else if !env.heapAlloc || !env.secureAlloc then (.err .hostMemory, none, d)
  else
    let header := freshHeader env zeroed.header label env.rngSaltUser
    match env.pbkdf2 C (cstr soPin) env.rngSalt newPbkdf2Iter with
    | .error e => (.err e, none, d)
    | .ok kek =>
      match env.wrapDek C zeroWrap.ct kek env.rngWrapNonce header.aad env.rngDek with
      | (some e, _) => (.err e, none, d)
      | (none, ct) =>
        let d := d.record [.wrapped kek env.rngWrapNonce header.aad env.rngDek]
        let t : Token := { zeroed with
          header := { header with wrap := header.wrap.set .so ⟨env.rngSalt, env.rngWrapNonce, ct⟩ }
          dek := some ⟨env.rngDek, true⟩
          nextHandle := 1
          objectsLoaded := true }
        match env.tpmRequired, env.tpmSealErr with
        | true, some e => (.err e, none, d)
        | _, _ =>
          match writeAtomic C env t (d.record [.cleared .so, .cleared .user]) with
          | (.ok, d) => (.ok, some t, d)
          | (.err _, d) => (.err .functionFailed, none, d)

/-- `fhsm_token_load`. -/
def load (d : Disk) : Rv × Option Token :=
  match (if env.openFails then none else d.file), env.readErr with
  | none, _ => (.err .tokenNotPresent, none)
  | some _, some _ => (.err .functionFailed, none)
  | some f, none =>
    if f.length < tokFileSize then (.err .functionFailed, none)
    else match Header.decode f with
      | none => (.err .functionFailed, none)
      | some header =>
        if !env.heapAlloc then (.err .hostMemory, none)
        else
          let deadline (fails : UInt32) : Nat :=
            if fails = 0 then 0 else env.nowMs + throttleDelayMs fails
          let t : Token := { zeroed with
            header := header
            throttleUntilMs := ⟨deadline header.failed.so, deadline header.failed.user⟩ }
          (.ok, some (publicViewLoad env t d.file))

/-- `fhsm_token_reinit`. The store is emptied and the new DEK is live before it is wrapped; the
    TPM companion is not sealed again. -/
def reinit (newSoPin label : Bytes) (d : Disk) : Rv × Token × Disk :=
  if (cstr newSoPin).length < 4 then (.err .pinIncorrect, t, d)
  else
    let t₁ := { t with header := freshHeader env t.header label (Vector.replicate 16 0) }
    if t.dek.isNone && !env.secureAlloc then (.err .hostMemory, t₁, d)
    else
      let t₂ := { t₁ with
        dek := some ⟨env.rngDek, true⟩
        objects := .empty
        objectsPublic := false
        nextHandle := 1
        objectsLoaded := true }
      match env.pbkdf2 C (cstr newSoPin) env.rngSalt newPbkdf2Iter with
      | .error e => (.err e, t₂, d)
      | .ok kek =>
        let withCt (ct : Vector UInt8 48) : Header :=
          { t₂.header with wrap := t₂.header.wrap.set .so ⟨env.rngSalt, env.rngWrapNonce, ct⟩ }
        match env.wrapDek C zeroWrap.ct kek env.rngWrapNonce t₂.header.aad env.rngDek with
        | (some e, ct) => (.err e, { t₂ with header := withCt ct }, d)
        | (none, ct) =>
          let t₃ := { t₂ with
            header := { withCt ct with userInitialized := false, failed := ⟨0, 0⟩ }
            throttleUntilMs := ⟨0, 0⟩
            loggedIn := .none }
          let (rv, d) := writeAtomic C env t₃ (d.record
            [.wrapped kek env.rngWrapNonce t₂.header.aad env.rngDek, .cleared .so, .cleared .user])
          (rv, t₃, d)

end Token

end FreeHsm
