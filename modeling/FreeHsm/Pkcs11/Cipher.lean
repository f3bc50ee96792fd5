import FreeHsm.Pkcs11.OpSlot

/-!
# Encryption and decryption

`C_EncryptInit`, `C_Encrypt`, `C_EncryptUpdate`, `C_EncryptFinal` and their four
counterparts for decryption. A one-shot call builds a context of its own from the
parameters of the slot; the multipart calls share the context `cipher_ctx`, which
`ensure_cipher_ctx` builds when there is none.
-/

namespace FreeHsm

open StateExcept OpM

section

variable {P : Provider} (env : OpEnv P)

/-! ## One-shot calls -/

/-- The key sizes a cipher name is chosen by; any other size takes the largest. -/
def aesBits (keyLen : Nat) : Nat := if keyLen = 16 then 128 else if keyLen = 24 then 192 else 256

/-- The same where any other size is refused. -/
def aesBits? (keyLen : Nat) : Option Nat :=
  if keyLen = 16 then some 128
  else if keyLen = 24 then some 192
  else if keyLen = 32 then some 256
  else none

variable (s : Setup) (mech : UInt32) (c : P.Cipher)

/-- One update and the final block. -/
def updateFinal (data : Bytes) (bad : Err) : OpM P Reply :=
  match P.cipherUpdate env.seed c data with
  | (none, _) => refuse bad
  | (some a, c) =>
    match P.cipherFinal env.seed c with
    | (none, _) => refuse bad
    | (some b, _) => pure (.data (a ++ b))

/-- `oaep_ctx_init`, up to the padding it sets. -/
def oaepPadding (o : OaepParams) : Except Err RsaPadding :=
  match oaepMd o.hashAlg, mgfMd o.mgf with
  | some h, some g =>
    if P.fetch env.seed (.md h) && P.fetch env.seed (.md g) then
      .ok (.oaep h g (if o.source = 1 then o.label else none))
    else .error .mechanismParamInvalid
  | _, _ => .error .mechanismParamInvalid

/-- `oaep_ctx_init`. -/
def oaepCtxInit (enc : Bool) (k : P.Pkey) (o : OaepParams) : OpM P RsaPadding := do
  refuseIf (!P.ctxNew env.seed) .hostMemory
  let pad ← ofExcept (oaepPadding env o)
  refuseIf (!P.rsaInit env.seed enc k pad) .functionFailed
  pure pad

/-- `C_Encrypt` with `CKM_RSA_PKCS_OAEP`. -/
def oaepEncrypt (o : Obj) (data : Bytes) (out : OutArg) : OpM P Reply := do
  refuseIf (o.cls != ckoPublicKey || o.keyType != ckkRsa) .keyTypeInconsistent
  match P.d2iPub env.seed o.value with
  | none => refuse .functionFailed
  | some k => do
    let pad ← oaepCtxInit env true k s.oaep
    let size := P.pkeySize k
    let hl := match oaepMd s.oaep.hashAlg with
      | some h => P.oaepMdSize env.seed k h
      | none => 0
    refuseIf (size == 0 || hl == 0) .functionFailed
    refuseIf (size < 2 * hl + 2 || size - 2 * hl - 2 < data.length) .dataLenRange
    match P.rsaLen env.seed true k pad data with
    | none => refuse .functionFailed
    | some need => sized out need do
      match P.rsaCrypt env.seed true k pad data with
      | none => refuse .functionFailed
      | some b => pure (.data b)

/-- The padding of the two RSA mechanisms that are not approved. -/
def plainPadding : RsaPadding :=
  if mech = ckmRsaPkcs.toUInt32 then .pkcs1 else .none

/-- `C_Encrypt` with `CKM_RSA_PKCS` and `CKM_RSA_X_509`. -/
def rsaEncrypt (o : Obj) (data : Bytes) (out : OutArg) : OpM P Reply := do
  refuseIf env.strict .mechanismInvalid
  refuseIf (o.cls != ckoPublicKey || o.keyType != ckkRsa) .keyTypeInconsistent
  let pad := plainPadding s.mechanism
  match P.d2iPub env.seed o.value with
  | none => refuse .functionFailed
  | some k => do
    refuseIf (!P.ctxNew env.seed || !P.rsaInit env.seed true k pad) .functionFailed
    match P.rsaLen env.seed true k pad data with
    | none => refuse .functionFailed
    | some need => sized out need do
      match P.rsaCrypt env.seed true k pad data with
      | none => refuse .functionFailed
      | some b => pure (.data b)

/-- `rsa_decrypt_sized`: decrypt into scratch memory, then compare the lengths. -/
def rsaDecryptSized (k : P.Pkey) (pad : RsaPadding) (maxLen : Nat) (data : Bytes) (room : Nat) :
    OpM P Reply := do
  refuseIf (maxLen == 0) .encryptedDataInvalid
  refuseIf (!P.alloc env.seed maxLen) .hostMemory
  match P.rsaCrypt env.seed false k pad data with
  | none => refuse .encryptedDataInvalid
  | some b =>
    if maxLen < b.length then refuse .encryptedDataInvalid
    else if room < b.length then throw (.tooSmall b.length)
    else pure (.data b)

/-- A size query, or the sized decryption. -/
def rsaDecryptOut (k : P.Pkey) (pad : RsaPadding) (maxLen : Nat) (data : Bytes) :
    OutArg → OpM P Reply
  | .noLen => refuse .argumentsBad
  | .query => pure (.size maxLen)
  | .room n => rsaDecryptSized env k pad maxLen data n

/-- `C_Decrypt` with `CKM_RSA_PKCS_OAEP`. -/
def oaepDecrypt (o : Obj) (data : Bytes) (out : OutArg) : OpM P Reply := do
  refuseIf (o.cls != ckoPrivateKey || o.keyType != ckkRsa) .keyTypeInconsistent
  match P.d2iPriv env.seed o.value with
  | none => refuse .functionFailed
  | some k => do
    let pad ← oaepCtxInit env false k s.oaep
    match P.rsaLen env.seed false k pad data with
    | none => refuse .functionFailed
    | some need => rsaDecryptOut env k pad need data out

/-- `C_Decrypt` with `CKM_RSA_PKCS` and `CKM_RSA_X_509`: the ciphertext is as long as the
modulus. -/
def rsaDecrypt (o : Obj) (data : Bytes) (out : OutArg) : OpM P Reply := do
  refuseIf env.strict .mechanismInvalid
  refuseIf (o.cls != ckoPrivateKey || o.keyType != ckkRsa) .keyTypeInconsistent
  let pad := plainPadding s.mechanism
  match P.d2iPriv env.seed o.value with
  | none => refuse .functionFailed
  | some k => do
    refuseIf (P.pkeySize k == 0) .functionFailed
    refuseIf (data.length != P.pkeySize k) .encryptedDataLenRange
    refuseIf (!P.ctxNew env.seed || !P.rsaInit env.seed false k pad) .functionFailed
    match P.rsaLen env.seed false k pad data with
    | none => refuse .encryptedDataInvalid
    | some need => rsaDecryptOut env k pad need data out

/-- The cipher of the two key-wrap mechanisms. -/
def kwSpec (enc : Bool) (s : Setup) (key : Bytes) : CipherSpec where
  enc := enc
  alg := ⟨if s.mechanism = ckmAesKeyWrap.toUInt32 then .wrap else .wrapPad, aesBits key.length⟩
  key := key
  iv := s.iv

/-- `C_Encrypt` with `CKM_AES_KEY_WRAP` and `CKM_AES_KEY_WRAP_KWP`. -/
def kwEncrypt (o : Obj) (data : Bytes) (out : OutArg) : OpM P Reply := do
  refuseIf (o.keyType != ckkAes) .keyTypeInconsistent
  refuseIf (aesBits? o.value.length).isNone .wrappingKeySizeRange
  let kw := s.mechanism == ckmAesKeyWrap.toUInt32
  refuseIf (if kw then data.length < 16 || data.length % 8 != 0 else data.length == 0)
    .dataLenRange
  let need := if kw then data.length + 8 else (data.length + 7) / 8 * 8 + 8
  sized out need do
    let spec := kwSpec true s o.value
    refuseIf (!P.fetch env.seed (.cipher spec.alg)) .mechanismInvalid
    refuseIf (!P.ctxNew env.seed) .hostMemory
    match P.cipherInit env.seed spec with
    | none => refuse .functionFailed
    | some c => updateFinal env c data .functionFailed

/-- `C_Decrypt` with the two key-wrap mechanisms: at most 4096 bytes, decrypted into a
buffer of its own. -/
def kwDecrypt (o : Obj) (data : Bytes) (out : OutArg) : OpM P Reply := do
  refuseIf (o.keyType != ckkAes) .keyTypeInconsistent
  refuseIf (aesBits? o.value.length).isNone .wrappingKeySizeRange
  let minBlob := if s.mechanism = ckmAesKeyWrap.toUInt32 then 24 else 16
  refuseIf (data.length < minBlob || data.length % 8 != 0) .encryptedDataLenRange
  let upper := data.length - 8
  sized out upper do
    refuseIf (4096 < upper) .encryptedDataLenRange
    let spec := kwSpec false s o.value
    refuseIf (!P.fetch env.seed (.cipher spec.alg)) .mechanismInvalid
    refuseIf (!P.ctxNew env.seed) .hostMemory
    match P.cipherInit env.seed spec with
    | none => refuse .functionFailed
    | some c => do
      let r ← updateFinal env c data .encryptedDataInvalid
      match r, out with
      | .data b, .room n => if n < b.length then throw (.tooSmall b.length) else pure (.data b)
      | r, _ => pure r

/-- A cipher named by its mode and run in one update and a final block. -/
def cipherOneShot (spec : CipherSpec) (need : Nat) (bad : Err) (data : Bytes) (out : OutArg) :
    OpM P Reply := do
  refuseIf (!P.fetch env.seed (.cipher spec.alg)) .mechanismInvalid
  refuseIf (!P.ctxNew env.seed) .hostMemory
  match P.cipherInit env.seed spec with
  | none => refuse .functionFailed
  | some c => sized out need (updateFinal env c data bad)

/-- The modes of the four AES mechanisms without a tag. -/
def aesMode : CipherMode :=
  if mech = ckmAesCtr.toUInt32 then .ctr
  else if mech = ckmAesEcb.toUInt32 then .ecb
  else .cbc

/-- Their context; only `CKM_AES_CBC_PAD` pads. -/
def aesSpec (enc : Bool) (s : Setup) (bits : Nat) (key : Bytes) : CipherSpec where
  enc := enc
  alg := ⟨aesMode s.mechanism, bits⟩
  key := key
  iv := if s.mechanism = ckmAesEcb.toUInt32 then none else s.iv
  padding := s.mechanism == ckmAesCbcPad.toUInt32

/-- What a failing cipher means: bad input to a decryption, a failure otherwise. -/
def cipherFailure (enc : Bool) : Err := if enc then .functionFailed else .encryptedDataInvalid

/-- `C_Encrypt` and `C_Decrypt` with AES-ECB, CBC, CBC-PAD and CTR. -/
def aesOneShot (enc : Bool) (s : Setup) (o : Obj) (data : Bytes) (out : OutArg) :
    OpM P Reply := do
  refuseIf (o.keyType != ckkAes) .keyTypeInconsistent
  refuseIf (s.mechanism != ckmAesEcb.toUInt32 && s.iv.isNone) .argumentsBad
  let spec := aesSpec enc s (aesBits o.value.length) o.value
  cipherOneShot env spec (data.length + if enc ∧ spec.padding then 16 else 0)
    (cipherFailure enc) data out

/-- `C_Encrypt` and `C_Decrypt` with `CKM_DES3_CBC`. -/
def des3OneShot (enc : Bool) (s : Setup) (o : Obj) (data : Bytes) (out : OutArg) :
    OpM P Reply := do
  refuseIf env.strict .mechanismInvalid
  refuseIf (o.keyType != ckkDes3) .keyTypeInconsistent
  refuseIf s.iv.isNone .argumentsBad
  refuseIf (o.value.length != 24) .keySizeRange
  cipherOneShot env { enc := enc, alg := ⟨.des3Cbc, 192⟩, key := o.value, iv := s.iv } data.length
    (cipherFailure enc) data out

/-- `op->gcm_tag_len ? op->gcm_tag_len : 16`. -/
def Setup.tagLen : Nat := if s.gcmTagLen = 0 then 16 else s.gcmTagLen

/-- A cipher that ends in a tag: seal the data and append the tag. -/
def sealTagged (data : Bytes) (tagLen : Nat) : OpM P Reply :=
  match P.cipherUpdate env.seed c data with
  | (none, _) => refuse .functionFailed
  | (some a, c) =>
    match P.cipherFinal env.seed c with
    | (none, _) => refuse .functionFailed
    | (some b, c) =>
      match P.cipherTag env.seed c tagLen with
      | none => refuse .functionFailed
      | some t => pure (.data (a ++ b ++ t))

def ccmSpec (enc : Bool) (s : Setup) (bits : Nat) (key aad : Bytes) (dataLen : Nat) (tag : Bytes) :
    CipherSpec where
  enc := enc
  alg := ⟨.ccm, bits⟩
  key := key
  iv := some s.gcmIv
  aad := aad
  ccm := some (s.tagLen, dataLen, tag)

/-- `C_Encrypt` with `CKM_AES_CCM`. -/
def ccmEncrypt (o : Obj) (aad data : Bytes) (out : OutArg) : OpM P Reply := do
  refuseIf (o.keyType != ckkAes) .keyTypeInconsistent
  sized out (data.length + s.tagLen) do
    match aesBits? o.value.length with
    | none => refuse .keySizeRange
    | some bits => do
      refuseIf (!P.ctxNew env.seed) .hostMemory
      match P.cipherInit env.seed (ccmSpec true s bits o.value aad data.length []) with
      | none => refuse .functionFailed
      | some c => sealTagged env c data s.tagLen

/-- `C_Decrypt` with `CKM_AES_CCM`: the tag is given before the data. -/
def ccmDecrypt (o : Obj) (aad data : Bytes) (out : OutArg) : OpM P Reply := do
  refuseIf (o.keyType != ckkAes) .keyTypeInconsistent
  refuseIf (data.length < s.tagLen) .encryptedDataInvalid
  let ctLen := data.length - s.tagLen
  sized out ctLen do
    match aesBits? o.value.length with
    | none => refuse .keySizeRange
    | some bits => do
      refuseIf (!P.ctxNew env.seed) .hostMemory
      match P.cipherInit env.seed (ccmSpec false s bits o.value aad ctLen (data.drop ctLen)) with
      | none => refuse .functionFailed
      | some c =>
        match P.cipherUpdate env.seed c (data.take ctLen) with
        | (none, _) => refuse .encryptedDataInvalid
        | (some a, _) => pure (.data a)

/-- The nonce of GCM. Without a stored one twelve random bytes are drawn. -/
def gcmNonce : Bytes :=
  if s.gcmIvLen ≠ 0 then s.gcmIv else s.iv.getD (P.rng env.seed 12)

def gcmSpec (enc : Bool) (s : Setup) (bits : Nat) (key aad : Bytes) : CipherSpec where
  enc := enc
  alg := ⟨.gcm, bits⟩
  key := key
  iv := some (gcmNonce env s)
  aad := aad

/-- `C_Encrypt` with `CKM_AES_GCM`. -/
def gcmEncrypt (o : Obj) (aad data : Bytes) (out : OutArg) : OpM P Reply := do
  refuseIf (s.mechanism != ckmAesGcm.toUInt32 || o.keyType != ckkAes) .mechanismInvalid
  sized out (data.length + s.tagLen) do
    match aesBits? o.value.length with
    | none => refuse .keySizeRange
    | some bits => do
      refuseIf (!P.ctxNew env.seed) .hostMemory
      match P.cipherInit env.seed (gcmSpec env true s bits o.value aad) with
      | none => refuse .functionFailed
      | some c => sealTagged env c data s.tagLen

/-- `C_Decrypt` with `CKM_AES_GCM`: the last bytes are the tag. -/
def gcmDecrypt (o : Obj) (aad data : Bytes) (out : OutArg) : OpM P Reply := do
  refuseIf (s.mechanism != ckmAesGcm.toUInt32 || o.keyType != ckkAes) .mechanismInvalid
  refuseIf (data.length < s.tagLen) .encryptedDataInvalid
  let ptLen := data.length - s.tagLen
  sized out ptLen do
    match aesBits? o.value.length with
    | none => refuse .keySizeRange
    | some bits => do
      refuseIf (!P.ctxNew env.seed) .hostMemory
      match P.cipherInit env.seed (gcmSpec env false s bits o.value aad) with
      | none => refuse .functionFailed
      | some c =>
        match P.cipherUpdate env.seed c (data.take ptLen) with
        | (none, _) => refuse .functionFailed
        | (some a, c) =>
          match P.cipherSetTag env.seed c (data.drop ptLen) with
          | none => refuse .functionFailed
          | some c =>
            match P.cipherFinal env.seed c with
            | (none, _) => refuse .encryptedDataInvalid
            | (some b, _) => pure (.data (a ++ b))

/-- The branch of `C_Encrypt` for a mechanism. -/
def encryptWith (o : Obj) (aad data : Bytes) (out : OutArg) : OpM P Reply :=
  if s.mechanism = ckmRsaPkcsOaep.toUInt32 then oaepEncrypt env s o data out
  else if s.mechanism = ckmRsaPkcs.toUInt32 ∨ s.mechanism = ckmRsaX509.toUInt32 then
    rsaEncrypt env s o data out
  else if s.mechanism = ckmAesKeyWrap.toUInt32 ∨ s.mechanism = ckmAesKeyWrapKwp.toUInt32 then
    kwEncrypt env s o data out
  else if s.mechanism ∈ [ckmAesEcb, ckmAesCbc, ckmAesCbcPad, ckmAesCtr].map (·.toUInt32) then
    aesOneShot env true s o data out
  else if s.mechanism = ckmDes3Cbc.toUInt32 then des3OneShot env true s o data out
  else if s.mechanism = ckmAesCcm.toUInt32 then ccmEncrypt env s o aad data out
  else gcmEncrypt env s o aad data out

/-- The branch of `C_Decrypt` for a mechanism. -/
def decryptWith (o : Obj) (aad data : Bytes) (out : OutArg) : OpM P Reply :=
  if s.mechanism = ckmRsaPkcsOaep.toUInt32 then oaepDecrypt env s o data out
  else if s.mechanism = ckmRsaPkcs.toUInt32 ∨ s.mechanism = ckmRsaX509.toUInt32 then
    rsaDecrypt env s o data out
  else if s.mechanism = ckmAesKeyWrap.toUInt32 ∨ s.mechanism = ckmAesKeyWrapKwp.toUInt32 then
    kwDecrypt env s o data out
  else if s.mechanism ∈ [ckmAesEcb, ckmAesCbc, ckmAesCbcPad, ckmAesCtr].map (·.toUInt32) then
    aesOneShot env false s o data out
  else if s.mechanism = ckmDes3Cbc.toUInt32 then des3OneShot env false s o data out
  else if s.mechanism = ckmAesCcm.toUInt32 then ccmDecrypt env s o aad data out
  else gcmDecrypt env s o aad data out

/-- The longest input of one call, `0x7FFFFFFF`. -/
def inputMax : Nat := 0x7FFFFFFF

/-- `C_Encrypt`. -/
def encrypt (data : Buf) (out : OutArg) (op : Op P) : Except Refusal Reply × Op P :=
  op.call (.ok ()) fun s =>
    match env.tok with
    | none => refuse .sessionHandleInvalid
    | some t => ending do
      let o ← ofExcept (t.objectGet s.keyHandle)
      refuseIf (out == .noLen || data.dangling) .argumentsBad
      refuseIf (inputMax < data.len) .dataLenRange
      let l ← get
      encryptWith env s o l.gcmAad data.data out

/-- `C_Decrypt`. -/
def decrypt (data : Buf) (out : OutArg) (op : Op P) : Except Refusal Reply × Op P :=
  op.call (.ok ()) fun s => do
    requireCtxAuth s
    match env.tok with
    | none => refuse .sessionHandleInvalid
    | some t => ending do
      refuseIf (out == .noLen || data.dangling) .argumentsBad
      refuseIf (inputMax < data.len) .dataLenRange
      let o ← ofExcept (t.objectGet s.keyHandle)
      let l ← get
      decryptWith env s o l.gcmAad data.data out

/-! ## Multipart calls -/

/-- The result of `op_cipher_kind`. -/
inductive CipherKind
  | gcm
  | ctr
  | block
  | blockPad
  deriving DecidableEq, Repr

/-- `op_cipher_kind`. -/
def opCipherKind : Option CipherKind :=
  if mech = ckmAesGcm.toUInt32 then some .gcm
  else if mech = ckmAesCtr.toUInt32 then some .ctr
  else if mech = ckmAesEcb.toUInt32 ∨ mech = ckmAesCbc.toUInt32 then some .block
  else if mech = ckmAesCbcPad.toUInt32 then some .blockPad
  else none

/-- Whether input is held back until a block is full. -/
def buffersBlocks : Bool :=
  opCipherKind mech == some .block || opCipherKind mech == some .blockPad

def setCipher (c : Option P.Cipher) : OpM P Unit := modify ({ · with cipherCtx := c })

/-- The context a multipart operation starts with. -/
def multipartSpec (enc : Bool) (s : Setup) (bits : Nat) (key aad : Bytes) : CipherSpec :=
  if s.mechanism = ckmAesGcm.toUInt32 then gcmSpec env enc s bits key aad
  else aesSpec enc s bits key

/-- `ensure_cipher_ctx`. A context that is there is taken as it is. -/
def ensureCipherCtx (enc : Bool) (s : Setup) : OpM P P.Cipher := do
  let l ← get
  match l.cipherCtx with
  | some c => pure c
  | none =>
    match env.tok with
    | none => refuse .sessionHandleInvalid
    | some t => do
      let o ← ofExcept (t.objectGet s.keyHandle)
      refuseIf (o.keyType != ckkAes) .mechanismInvalid
      refuseIf (opCipherKind s.mechanism).isNone .mechanismInvalid
      match aesBits? o.value.length with
      | none => refuse .keySizeRange
      | some bits => do
        let spec := multipartSpec env enc s bits o.value l.gcmAad
        refuseIf (!P.fetch env.seed (.cipher spec.alg)) .mechanismInvalid
        refuseIf (!P.ctxNew env.seed) .hostMemory
        match P.cipherInit env.seed spec with
        | none => refuse .functionFailed
        | some c => do
          setCipher (some c)
          pure c

/-- `EVP_CipherUpdate` on the context of the slot. -/
def updateCtx (part : Bytes) : OpM P Bytes :=
  match P.cipherUpdate env.seed c part with
  | (none, c') => do
    setCipher (some c')
    refuse .functionFailed
  | (some b, c') => do
    setCipher (some c')
    pure b

/-- `C_EncryptUpdate`. -/
def encryptUpdate (part : Buf) (out : OutArg) (op : Op P) : Except Refusal Reply × Op P :=
  op.call (.ok ()) fun s =>
    match env.tok with
    | none => refuse .sessionHandleInvalid
    | some _ => endingOnError do
      refuseIf (out == .noLen || part.dangling) .argumentsBad
      refuseIf (inputMax < part.len) .dataLenRange
      let c ← ensureCipherCtx env true s
      let l ← get
      let block := buffersBlocks s.mechanism
      let need := if block then (l.encPending + part.len) / 16 * 16 else part.len
      sized out need do
        let b ← updateCtx env c part.data
        modify fun l =>
          if block then { l with encPending := (l.encPending + part.len) % 16 } else l
        pure (.data b)

/-- The tag that ends a GCM encryption. -/
def finalTag : OpM P Bytes :=
  if opCipherKind s.mechanism = some .gcm then
    match P.cipherTag env.seed c s.tagLen with
    | none => refuse .functionFailed
    | some t => pure t
  else pure []

/-- `C_EncryptFinal`. -/
def encryptFinal (out : OutArg) (op : Op P) : Except Refusal Reply × Op P :=
  op.call (.ok ()) fun s =>
    let bound := match opCipherKind s.mechanism with
      | some .gcm => s.tagLen
      | some .blockPad => 16
      | _ => 0
    sized out bound <| endingOnError do
      let c ← ensureCipherCtx env true s
      -- the context is freed whatever happens from here on
      setCipher none
      match P.cipherFinal env.seed c with
      | (none, _) => refuse .functionFailed
      | (some b, c) => do
        let t ← finalTag env s c
        stop
        pure (.data (b ++ t))

/-- `decrypt_update_exact_len`: the length a copy of the context would write. -/
def decryptUpdateExactLen (part : Bytes) (bound : Nat) : Except Err Nat :=
  if !P.ctxNew env.seed then .error .hostMemory
  else if !P.cipherCopy env.seed c then .error .functionFailed
  else if !P.alloc env.seed (max bound 1) then .error .hostMemory
  else match P.cipherUpdate env.seed c part with
    | (none, _) => .error .functionFailed
    | (some b, _) => .ok b.length

/-- `decrypt_final_exact_len`. -/
def decryptFinalExactLen (bound : Nat) : Except Err Nat :=
  if !P.ctxNew env.seed then .error .hostMemory
  else if !P.cipherCopy env.seed c then .error .functionFailed
  else if !P.alloc env.seed (max bound 1) then .error .hostMemory
  else match P.cipherFinal env.seed c with
    | (none, _) => .error .encryptedDataInvalid
    | (some b, _) => .ok b.length

/-- The size query and the length check of a decryption: a buffer under the bound is
compared with the exact length. -/
def probed (out : OutArg) (bound : Nat) (exact : Except Err Nat) (k : OpM P Reply) :
    OpM P Reply :=
  match out with
  | .noLen => refuse .argumentsBad
  | .query => pure (.size bound)
  | .room n =>
    if n < bound then do
      let need ← ofExcept exact
      if n < need then throw (.tooSmall need) else k
    else k

/-- `C_DecryptUpdate`. -/
def decryptUpdate (part : Buf) (out : OutArg) (op : Op P) : Except Refusal Reply × Op P :=
  op.call (.ok ()) fun s => do
    requireCtxAuth s
    match env.tok with
    | none => refuse .sessionHandleInvalid
    | some _ => endingOnError do
      refuseIf (out == .noLen || part.dangling) .argumentsBad
      refuseIf (inputMax < part.len) .dataLenRange
      let c ← ensureCipherCtx env false s
      let bound := if buffersBlocks s.mechanism then part.len + 16 else part.len
      probed out bound (decryptUpdateExactLen env c part.data bound) do
        let b ← updateCtx env c part.data
        pure (.data b)

/-- A padding error that the probe of `C_DecryptFinal` finds frees the context. -/
def freeAfterProbe (out : OutArg) (bound : Nat) (exact : Except Err Nat) : OpM P Unit :=
  match out, exact with
  | .room n, .error .encryptedDataInvalid => if n < bound then setCipher none else pure ()
  | _, _ => pure ()

/-- `C_DecryptFinal`. -/
def decryptFinal (out : OutArg) (op : Op P) : Except Refusal Reply × Op P :=
  op.call (.ok ()) fun s => do
    requireCtxAuth s
    if out = .noLen then refuse .argumentsBad
    else endingOnError do
      let c ← ensureCipherCtx env false s
      let bound := if opCipherKind s.mechanism = some .blockPad then 16 else 0
      let exact := decryptFinalExactLen env c bound
      freeAfterProbe out bound exact
      probed out bound exact do
        setCipher none
        match P.cipherFinal env.seed c with
        | (none, _) => refuse .encryptedDataInvalid
        | (some b, _) => do
          stop
          pure (.data b)

/-! ## Init -/

/-- `fhsm_nonfips_enc_rejected`. -/
def nonfipsEncRejected (mech : UInt64) : Bool :=
  env.strict && [ckmDes3Cbc, ckmRsaPkcs, ckmRsaX509].contains mech

/-- The mechanisms of `fhsm_cipher_mech_valid`. -/
def cipherMechs : List UInt64 :=
  [ckmAesEcb, ckmAesCbc, ckmAesCbcPad, ckmAesCtr, ckmAesGcm, ckmAesCcm, ckmDes3Cbc, ckmRsaPkcs,
   ckmRsaX509, ckmRsaPkcsOaep, ckmAesKeyWrap, ckmAesKeyWrapKwp]

/-- `fhsm_cipher_mech_valid`, after `fhsm_nonfips_enc_rejected`. -/
def cipherMechValid (mech : UInt64) : Bool := !nonfipsEncRejected env mech && cipherMechs.contains mech

/-- `C_EncryptInit`. -/
def encryptInit (m : Option Mech) (hKey : UInt64) (op : Op P) : Except Refusal Reply × Op P :=
  keyedInit env m hKey (cipherMechValid env) .encrypt op

/-- `C_DecryptInit`. -/
def decryptInit (m : Option Mech) (hKey : UInt64) (op : Op P) : Except Refusal Reply × Op P :=
  keyedInit env m hKey (cipherMechValid env) .decrypt op

end

end FreeHsm
