import FreeHsm.Token.Blob

/-!
# Token state

`struct fhsm_token_s`, the file it is stored in, and what a token function gets
from outside: the cryptographic primitives (`Crypto`) and the outcome of every
call that leaves the module (`Env`: random bytes, allocations, file system, TPM,
clock).

The fields that `write_atomic` stores form the `Header`; the two copies the source
keeps of every per-role field are a `PerRole`. `dek_live` sits beside the buffer it
is about, so a live DEK without a buffer cannot be built.
-/

namespace FreeHsm

abbrev Key := Vector UInt8 32
abbrev Nonce := Vector UInt8 12
abbrev Tag := Vector UInt8 16

/-- 32 zero bytes: a wiped DEK buffer, and the `zero_dek` of `objects_decrypt_load`. -/
def zeroKey : Key := Vector.replicate 32 0

/-! ## The outside -/

/-- PBKDF2 and AES-256-GCM as OpenSSL computes them. Decrypting an encryption under the
    same key, nonce and associated data gives the plaintext back. -/
structure Crypto where
  pbkdf2 : (pin : Bytes) → (salt : Vector UInt8 16) → (iter : UInt32) → Key
  encrypt : Key → Nonce → (aad pt : Bytes) → Bytes × Tag
  decrypt : Key → Nonce → (aad ct : Bytes) → Tag → Option Bytes
  length_encrypt : ∀ k n aad pt, (encrypt k n aad pt).1.length = pt.length
  decrypt_encrypt : ∀ k n aad pt,
    decrypt k n aad (encrypt k n aad pt).1 (encrypt k n aad pt).2 = some pt

/-- An instance: the ciphertext is the plaintext, the tag is half of the key, and a KEK is
    half PIN and half zeros. -/
def Crypto.plain : Crypto where
  pbkdf2 pin _ _ := vecAt (Vector.toList (vecAt pin 0 16) ++ List.replicate 16 0) 0 32
  encrypt k _ _ pt := (pt, vecAt k.toList 0 16)
  decrypt k _ _ ct tag := if tag = vecAt k.toList 0 16 then some ct else none
  length_encrypt _ _ _ _ := rfl
  decrypt_encrypt _ _ _ _ := if_pos rfl

/-- What the environment decides for one call of a token function. The return value of
    `fhsm_rng_bytes` is ignored at every call site here, so a draw is just what the buffer
    holds afterwards. -/
structure Env where
  /-- `fhsm_state_get() == FHSM_STATE_ERROR`. -/
  moduleError : Bool
  nowMs : Nat
  rngSerial : Vector UInt8 8
  rngSalt : Vector UInt8 16
  rngSaltUser : Vector UInt8 16
  rngDek : Key
  rngWrapNonce : Nonce
  rngBlobNonce : Nonce
  /-- `calloc` and `malloc`. -/
  heapAlloc : Bool
  /-- `fhsm_secure_zalloc` of a DEK buffer. -/
  secureAlloc : Bool
  /-- `obj_alloc_value` for the `i`-th value the call allocates. -/
  valueAlloc : Nat → Bool
  /-- An OpenSSL failure inside `fhsm_pbkdf2`. -/
  kdfErr : Option Err
  /-- An OpenSSL failure while a DEK is wrapped, with what it leaves in the buffer. -/
  wrapErr : Option (Err × Vector UInt8 48)
  /-- An OpenSSL failure while the objects blob is encrypted. -/
  blobErr : Option Err
  /-- An OpenSSL failure in the `i`-th decryption of the call, tag mismatch apart. -/
  openErr : Nat → Option Err
  /-- `open` of the token file fails although the file is there. -/
  openFails : Bool
  /-- A failure to read the opened token file. -/
  readErr : Option Err
  /-- The temporary file was written and renamed. -/
  writeOk : Bool
  /-- `fhsm_token_tpm_required()`. -/
  tpmRequired : Bool
  tpmSealErr : Option Err
  /-- The companion file, if there is one, and what unsealing it gives. -/
  tpmCompanion : Option (Except Err Key)

/-- An environment in which every call succeeds and there is no TPM. -/
def Env.quiet : Env where
  moduleError := false
  nowMs := 0
  rngSerial := Vector.replicate 8 0
  rngSalt := Vector.replicate 16 0
  rngSaltUser := Vector.replicate 16 0
  rngDek := Vector.replicate 32 1
  rngWrapNonce := Vector.replicate 12 0
  rngBlobNonce := Vector.replicate 12 0
  heapAlloc := true
  secureAlloc := true
  valueAlloc := fun _ => true
  kdfErr := none
  wrapErr := none
  blobErr := none
  openErr := fun _ => none
  openFails := false
  readErr := none
  writeOk := true
  tpmRequired := false
  tpmSealErr := none
  tpmCompanion := none

variable (env : Env) (C : Crypto)

/-- `fhsm_pbkdf2`: refused in the error state and below 1000 iterations. -/
def Env.pbkdf2 (pin : Bytes) (salt : Vector UInt8 16) (iter : UInt32) : Except Err Key :=
  if env.moduleError then .error .functionFailed
  else if iter < 1000 then .error .fipsNotApproved
  else match env.kdfErr with
    | some e => .error e
    | none => .ok (C.pbkdf2 pin salt iter)

/-- `fhsm_aes_gcm_decrypt`, the `i`-th of the call. -/
def Env.aesGcmDecrypt (i : Nat) (key : Key) (nonce : Nonce) (aad ct : Bytes) (tag : Tag) :
    Except Err Bytes :=
  if env.moduleError then .error .functionFailed
  else match env.openErr i with
    | some e => .error e
    | none => match C.decrypt key nonce aad ct tag with
      | some pt => .ok pt
      | none => .error .encryptedDataInvalid

/-- `fhsm_aes_gcm_encrypt` of the objects blob. -/
def Env.sealBlob (key : Key) (aad pt : Bytes) : Except Err (Bytes × Tag) :=
  if env.moduleError then .error .functionFailed
  else match env.blobErr with
    | some e => .error e
    | none => .ok (C.encrypt key env.rngBlobNonce aad pt)

/-- `fhsm_aes_gcm_encrypt` of a DEK into a 48-byte wrap buffer that holds `old`. -/
def Env.wrapDek (old : Vector UInt8 48) (kek : Key) (nonce : Nonce) (aad : Bytes) (dek : Key) :
    Option Err × Vector UInt8 48 :=
  if env.moduleError then (some .functionFailed, old)
  else match env.wrapErr with
    | some (e, buf) => (some e, buf)
    | none =>
      let (ct, tag) := C.encrypt kek nonce aad dek.toList
      (none, vecAt (ct ++ tag.toList) 0 48)

theorem pbkdf2_ok {C : Crypto} {env : Env} {pin : Bytes} {salt : Vector UInt8 16} {iter : UInt32}
    {kek : Key} (h : env.pbkdf2 C pin salt iter = .ok kek) :
    kek = C.pbkdf2 pin salt iter ∧ 1000 ≤ iter := by
  unfold Env.pbkdf2 at h
  split at h
  · cases h
  split at h
  · cases h
  rename_i hiter
  split at h <;> cases h
  exact ⟨rfl, UInt32.not_lt.mp hiter⟩

theorem aesGcmDecrypt_ok {C : Crypto} {env : Env} {i : Nat} {key : Key} {nonce : Nonce}
    {aad ct : Bytes} {tag : Tag} {pt : Bytes}
    (h : env.aesGcmDecrypt C i key nonce aad ct tag = .ok pt) :
    C.decrypt key nonce aad ct tag = some pt := by
  unfold Env.aesGcmDecrypt at h
  split at h
  · cases h
  split at h
  · cases h
  · split at h <;> cases h
    assumption

/-- A successful wrap is the encryption of the DEK, ciphertext and tag side by side. -/
theorem wrapDek_ok {C : Crypto} {env : Env} {old ct : Vector UInt8 48} {kek : Key} {nonce : Nonce}
    {aad : Bytes} {dek : Key} (h : env.wrapDek C old kek nonce aad dek = (none, ct)) :
    ct = vecAt ((C.encrypt kek nonce aad dek.toList).1 ++
      (C.encrypt kek nonce aad dek.toList).2.toList) 0 48 := by
  unfold Env.wrapDek at h
  split at h
  · cases h
  · split at h <;> cases h
    rfl

/-! ## C strings -/

/-- The bytes of a C string: everything before the first NUL. -/
def cstr (s : Bytes) : Bytes := s.takeWhile (· != 0)

/-- `snprintf(buf, n, "%s", s)`: bytes after the terminator stay as they were. -/
def snprintfInto {n : Nat} (buf : Vector UInt8 n) (s : Bytes) : Vector UInt8 n :=
  let text := (cstr s).take (n - 1)
  vecAt (text ++ 0 :: buf.toList.drop (text.length + 1)) 0 n

def hexDigit (n : UInt8) : UInt8 := if n < 10 then 0x30 + n else 0x57 + n

/-- `"FHSM-%02x%02x%02x%02x%02x%02x%02x%02x"`. -/
def serialText (s : Vector UInt8 8) : Bytes :=
  ([0x46, 0x48, 0x53, 0x4D, 0x2D] : Bytes) ++
    s.toList.flatMap fun (b : UInt8) => [hexDigit (b >>> 4), hexDigit (b &&& 15)]

/-! ## The token -/

/-- The two copies of a field the source keeps for the SO and the USER. -/
structure PerRole (α : Type) where
  so : α
  user : α
  deriving DecidableEq

namespace PerRole

variable {α : Type}

/-- `role == FHSM_ROLE_SO ? so : user`. -/
def get (p : PerRole α) : Role → α
  | .so => p.so
  | _ => p.user

def set (p : PerRole α) (r : Role) (a : α) : PerRole α :=
  match r with
  | .so => { p with so := a }
  | _ => { p with user := a }

@[simp] theorem get_set_self (p : PerRole α) (r : Role) (a : α) : (p.set r a).get r = a := by
  cases r <;> rfl

theorem get_set_of_ne (p : PerRole α) {r r' : Role} (a : α) (hr : r ≠ .none) (hr' : r' ≠ .none)
    (h : r' ≠ r) : (p.set r a).get r' = p.get r' := by
  cases r <;> cases r' <;> first | rfl | contradiction

end PerRole

/-- A DEK wrapped under the KEK of a PIN. -/
structure Wrap where
  salt : Vector UInt8 16
  nonce : Nonce
  /-- 32 bytes of ciphertext, then the tag. -/
  ct : Vector UInt8 48
  deriving DecidableEq

@[ext]
structure Header where
  label : Vector UInt8 64
  serial : Vector UInt8 64
  pbkdf2Iter : UInt32
  wrap : PerRole Wrap
  userInitialized : Bool
  failed : PerRole UInt32
  deriving DecidableEq

/-- The associated data of every encryption of a token. A serial without a NUL is cut at the
    end of its field. -/
def Header.aad (h : Header) : Bytes := cstr h.serial.toList

/-- The DEK buffer and `dek_live`. -/
structure Dek where
  key : Key
  live : Bool
  deriving DecidableEq

/-- `struct fhsm_token_s`. -/
structure Token where
  header : Header
  throttleUntilMs : PerRole Nat
  /-- `none` is the null pointer. -/
  dek : Option Dek
  loggedIn : Role
  objects : ObjStore
  nextHandle : UInt32
  objectsLoaded : Bool
  objectsPublic : Bool

namespace Token

/-- The DEK, while `dek_live` is set. -/
def liveDek (t : Token) : Option Key :=
  match t.dek with
  | some ⟨key, true⟩ => some key
  | _ => none

/-- `t->dek_live`. -/
def dekLive (t : Token) : Bool := t.liveDek.isSome

/-- `t->dek_live && t->objects_loaded`: the store in memory is the store of the token. -/
def storeOpen (t : Token) : Bool := t.dekLive && t.objectsLoaded

/-- `if (t->dek) fhsm_zeroize(t->dek, DEK_LEN); t->dek_live = 0;` -/
def dropDek (t : Token) : Token :=
  { t with dek := t.dek.map fun _ => ⟨zeroKey, false⟩ }

@[simp] theorem liveDek_dropDek (t : Token) : t.dropDek.liveDek = none := by
  cases h : t.dek <;> simp [dropDek, liveDek, h]

end Token

/-! ## The file and the history -/

/-- What the proofs remember of a run. None of it is read by the token. -/
inductive Event
  /-- A DEK was wrapped: key, nonce, associated data, DEK. -/
  | wrapped (kek : Key) (nonce : Nonce) (aad : Bytes) (dek : Key)
  /-- `write_atomic` encrypted the objects of `t` under `dek`. -/
  | sealed (t : Token) (dek : Key) (nonce : Nonce)
  /-- A decryption succeeded. -/
  | opened (key : Key) (nonce : Nonce) (aad ct : Bytes) (tag : Tag) (pt : Bytes)
  /-- A PIN was tried on the wrapped DEK of a role. -/
  | pinTried (role : Role) (right : Bool)
  /-- The failure counter of a role was cleared. -/
  | cleared (role : Role)
  /-- `write_atomic` returned. -/
  | wrote (rv : Rv)

/-- The token file and the history so far, latest event last. -/
structure Disk where
  file : Option Bytes
  log : List Event

variable (d : Disk) (es : List Event)

def Disk.record (es : List Event) : Disk := { d with log := d.log ++ es }

@[simp] theorem Disk.record_nil : d.record [] = d := by simp [Disk.record]

@[simp] theorem Disk.record_record (es' : List Event) :
    (d.record es).record es' = d.record (es ++ es') := by simp [Disk.record]

@[simp] theorem Disk.log_record : (d.record es).log = d.log ++ es := rfl

end FreeHsm
