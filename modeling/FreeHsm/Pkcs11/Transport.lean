import FreeHsm.Pkcs11.Creation
import FreeHsm.Pkcs11.Generate

/-!
# Keys that enter

`C_UnwrapKey`, `C_EncapsulateKey` and `C_DecapsulateKey`. Each looks at the policy of the
key it works under and then at the key's class and type; the order of the checks differs
from one to the next.

What the functions do before they touch the store is a function of the store, the
session and the arguments (`unwrapPlan`, `encapsulatePlan`, `decapsulatePlan`).
-/

namespace FreeHsm

open TokenM StateExcept

section

variable {P : Provider} (L : KeyLib P)

/-! ## Mechanisms -/

variable (c : Caller) (tok : Token) (m : Mech) (mech : UInt64)

/-- `mech_is_aes_kw`. -/
def KeyLib.isAesKw : Bool :=
  mech == ckmAesKeyWrap || mech == ckmAesKeyWrapKwp ||
    (mech == ckmAesKeyWrapPad && !L.strict && !L.fipsMode)

/-- `mech_is_aes_cbc_wrap`. -/
def isAesCbcWrap : Bool := mech == ckmAesCbc || mech == ckmAesCbcPad

/-- The initial value of a CBC wrapping mechanism, for a key that AES takes; what
`aes_cbc_wrap_run` checks before it calls OpenSSL. -/
def KeyLib.cbcWrapIv (key : Bytes) : Except Err Bytes :=
  if L.strict || L.fipsMode then .error .mechanismInvalid
  else if m.param.isNull ∨ m.param.len ≠ 16 then .error .mechanismParamInvalid
  else if (aesBits? key.length).isNone then .error .wrappingKeySizeRange
  else .ok m.param.data

/-! ## C_UnwrapKey -/

/-- `unwrap_plain_cap`: the room for the unwrapped key. -/
def KeyLib.unwrapPlainCap (u : Obj) (wlen : Nat) : Except Err Nat := do
  let cap ←
    if L.isAesKw m.type then
      if u.keyType ≠ ckkAes then .error .keyTypeInconsistent
      else do
        let _ ← kwIvFromMech m
        if (aesBits? u.value.length).isNone then .error .wrappingKeySizeRange
        else if wlen < (if m.type = ckmAesKeyWrap then 24 else 16) ∨ wlen % 8 ≠ 0 then
          .error .wrappedKeyLenRange
        else .ok (wlen - 8)
    else if m.type = ckmRsaPkcsOaep ∨ m.type = ckmRsaPkcs ∨ m.type = ckmRsaX509 then
      if m.type ≠ ckmRsaPkcsOaep ∧ L.strict then .error .mechanismInvalid
      else if u.cls ≠ ckoPrivateKey ∨ u.keyType ≠ ckkRsa then .error .unwrappingKeyTypeInconsistent
      else if wlen = 0 then .error .wrappedKeyLenRange
      else .ok wlen
    else if isAesCbcWrap m.type then
      if u.keyType ≠ ckkAes then .error .unwrappingKeyTypeInconsistent
      else if wlen = 0 ∨ wlen % 16 ≠ 0 then .error .wrappedKeyLenRange
      else .ok (wlen + 16)
    else .error .mechanismInvalid
  if objValueMax < wlen then .error .wrappedKeyLenRange else return cap

/-- `unwrap_decrypt`. The room is what `unwrap_plain_cap` computed, so its checks pass. -/
def KeyLib.unwrapDecrypt (key wrapped : Bytes) : Except Err Bytes :=
  if L.isAesKw m.type then do
    let iv ← kwIvFromMech m
    L.unwrap (.aesKw (m.type != ckmAesKeyWrap) iv) key wrapped
  else if m.type = ckmRsaPkcsOaep then L.unwrap (.rsaOaep m.param.data) key wrapped
  else if m.type = ckmRsaPkcs ∨ m.type = ckmRsaX509 then
    L.unwrap (.rsaV15 (m.type == ckmRsaX509)) key wrapped
  else if isAesCbcWrap m.type then do
    let iv ← L.cbcWrapIv m key
    L.unwrap (.aesCbc (m.type == ckmAesCbcPad) iv) key wrapped
  else .error .mechanismInvalid

/-- The class of an unwrapped key: a private key if the template says so, otherwise a secret
key whatever it says. -/
def unwrapClass (t : Template) : UInt32 :=
  if t.ulong? ckaClass = some ckoPrivateKey.toUInt64 then ckoPrivateKey else ckoSecretKey

/-- The flags of an unwrapped key. -/
def unwrapFlags (t : Template) : UInt8 :=
  (if t.bbool ckaSensitive true then objfSensitive else 0) |||
    flagIf t ckaExtractable objfExtractable

/-- A key type that fixes the length of its keys. -/
def lengthFits (keyType : UInt32) (len : Nat) : Bool :=
  (keyType != ckkAes || (aesBits? len).isSome) && (keyType != ckkDes3 || len == 24)

/-- `unwrap_import` up to the new object. -/
def KeyLib.unwrapImport (u : Obj) (t : Template) (pt : Bytes) : Except Err AddArgs :=
  let keyType := templateKeyType t ckkAes
  if !t.bbool ckaSensitive true && hasBit u.flags objfUnwrapSens then .error .attributeReadOnly
  else if !lengthFits keyType pt.length then .error .keyTypeInconsistent
  else if (t.ulong? ckaValueLen).any (·.toNat != pt.length) then .error .attributeValueInvalid
  else if unwrapClass t ≠ ckoPrivateKey then
    .ok ⟨ckoSecretKey, keyType, t.labelText, pt, t.templateId, unwrapFlags t⟩
  else match L.pkcs8Key pt with
    | none => .error .wrappedKeyInvalid
    | some pk =>
      if !L.isCkk pk keyType then .error .keyTypeInconsistent
      else match L.i2dPriv pk with
        | none => .error .functionFailed
        | some der =>
          .ok ⟨ckoPrivateKey, keyType, t.labelText, der, t.templateId,
            unwrapFlags t ||| objfSensitive⟩

/-- The checks of `C_UnwrapKey` before the key is looked up. -/
def unwrapGate (hUnwrapping : UInt64) (arg : TemplateArg) : Except Err Template :=
  if L.errorState then .error .functionFailed
  else do
    let t ← checkCreationTemplate c arg
    checkRoToken (some c.flags) t
    tok.checkAllowedMech hUnwrapping m.type
    tok.checkNestedTmpl hUnwrapping .unwrap t
    tok.checkUsage hUnwrapping .unwrap
    if c.role = .none then .error .userNotLoggedIn else return t

/-- `C_UnwrapKey` up to the new object. -/
def unwrapPlan (hUnwrapping : UInt64) (wrapped : Bytes) (arg : TemplateArg) :
    Except Err (Template × AddArgs × Tail) := do
  let t ← unwrapGate L c tok m hUnwrapping arg
  let u ← tok.objectGet hUnwrapping.toUInt32
  let cap ← L.unwrapPlainCap m u wrapped.length
  if !L.secureAlloc cap then .error .deviceMemory
  else do
    let pt ← L.unwrapDecrypt m u.value wrapped
    let args ← L.unwrapImport u t pt
    return (t, args, { history := keyFromOutside, usage := computeUsage (unwrapClass t) t })

/-- `C_UnwrapKey` on an open session. -/
def unwrapKey (C : Crypto) (env : Envs) (c : Caller) (m : Mech) (hUnwrapping : UInt64)
    (wrapped : Bytes) (arg : TemplateArg) : TokenM UInt32 := do
  let (t, args, tail) ← check (unwrapPlan L c (← get).tok m hUnwrapping wrapped arg)
  createWith C env c t args tail

/-! ## C_EncapsulateKey and C_DecapsulateKey -/

/-- `CKM_ML_KEM_OP`. -/
def ckmMlKem : UInt64 := 0x17

/-- `kem_store_secret` up to the new object. -/
def kemSecret (t : Template) (ss : Bytes) : Except Err (AddArgs × Tail) :=
  let keyType := templateKeyType t ckkGenericSecret
  let len := (t.ulong? ckaValueLen).elim ss.length (·.toNat)
  if (t.ulong? ckaClass).any (· != ckoSecretKey.toUInt64) then .error .templateInconsistent
  else if len = 0 ∧ (t.ulong? ckaValueLen).isSome ∨ ss.length < len then
    .error .attributeValueInvalid
  else if !lengthFits keyType len then .error .templateInconsistent
  else .ok (⟨ckoSecretKey, keyType, t.labelText, ss.take len, t.templateId,
      flagIf t ckaSensitive objfSensitive |||
        (if t.bbool ckaExtractable true then objfExtractable else 0)⟩,
    { history := keyFromOutside, usage := computeUsage ckoSecretKey t })

/-- The checks of the two functions up to the key: its class has to be the given one, and
`denied` is the bit that forbids the operation. -/
def kemGate (hKey : UInt64) (cls : UInt32) (denied : UInt8) (arg : TemplateArg) :
    Except Err (Template × Obj) :=
  if L.errorState then .error .functionFailed
  else do
    let t ← checkCreationTemplate c arg
    rejectMechSupplied t
    checkRoToken (some c.flags) t
    if mech ≠ ckmMlKem then .error .mechanismInvalid
    else if c.role = .none then .error .userNotLoggedIn
    else do
      let o ← tok.objectGet hKey.toUInt32
      if o.cls ≠ cls ∨ o.keyType ≠ ckkMlKem then .error .keyTypeInconsistent
      else do
        tok.checkAllowedMech hKey mech
        if hasBit o.flags2 denied then .error .keyFunctionNotPermitted else return (t, o)

/-- What `C_EncapsulateKey` comes to. -/
inductive EncapPlan
  | size (n : Nat)
  | secret (ct : Bytes) (t : Template) (args : AddArgs) (tail : Tail)

/-- `C_EncapsulateKey` up to the new object. -/
def encapsulatePlan (hPublic : UInt64) (arg : TemplateArg) (out : OutArg) :
    Except Err EncapPlan := do
  if !L.errorState ∧ out = .noLen then .error .argumentsBad else .ok ()
  let (t, o) ← kemGate L c tok mech hPublic ckoPublicKey objf2NoEncapsulate arg
  let (ctLen, ssLen) ← L.kemLens o.value
  match out with
  | .noLen => .error .argumentsBad
  | .query => return .size ctLen
  | .room n =>
    if n < ctLen then .error .bufferTooSmall
    else if 64 < ssLen then .error .functionFailed
    else do
      let (ct, ss) ← L.encapsulate o.value
      let (args, tail) ← kemSecret t ss
      return .secret ct t args tail

/-- The outcome of `C_EncapsulateKey`: the length, or the ciphertext and the new key. -/
inductive EncapOut
  | size (n : Nat)
  | key (ct : Bytes) (handle : UInt32)
  deriving DecidableEq, Repr

/-- `C_EncapsulateKey` on an open session. -/
def encapsulateKey (C : Crypto) (env : Envs) (c : Caller) (mech hPublic : UInt64)
    (arg : TemplateArg) (out : OutArg) : TokenM EncapOut := do
  match ← check (encapsulatePlan L c (← get).tok mech hPublic arg out) with
  | .size n => return .size n
  | .secret ct t args tail => return .key ct (← createWith C env c t args tail)

/-- `C_DecapsulateKey` up to the new object. -/
def decapsulatePlan (hPrivate : UInt64) (ct : Bytes) (arg : TemplateArg) :
    Except Err (Template × AddArgs × Tail) := do
  let (t, o) ← kemGate L c tok mech hPrivate ckoPrivateKey objf2NoDecapsulate arg
  let want ← L.kemCiphertextLen o.value
  if want.any (· != ct.length) then .error .encryptedDataLenRange
  else do
    let ss ← L.decapsulate o.value ct
    if 64 < ss.length then .error .functionFailed
    else do
      let (args, tail) ← kemSecret t ss
      return (t, args, tail)

/-- `C_DecapsulateKey` on an open session. -/
def decapsulateKey (C : Crypto) (env : Envs) (c : Caller) (mech hPrivate : UInt64) (ct : Bytes)
    (arg : TemplateArg) : TokenM UInt32 := do
  let (t, args, tail) ← check (decapsulatePlan L c (← get).tok mech hPrivate ct arg)
  createWith C env c t args tail

end

end FreeHsm
