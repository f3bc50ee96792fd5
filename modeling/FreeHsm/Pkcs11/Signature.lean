import FreeHsm.Pkcs11.Cipher

/-!
# Signatures and MACs

`C_SignInit`, `C_Sign`, `C_SignUpdate`, `C_SignFinal` and the four functions for
verification. Multipart input goes to one of four places: the digest context (the
composite mechanism and the pre-hash variants of ML-DSA and SLH-DSA), the buffer
`mp_buf` (the other signatures) or the MAC context (HMAC, CMAC, GMAC), which
`mac_stream_open` builds when there is none.
-/

namespace FreeHsm

open StateExcept OpM

/-- `FHSM_MULTIPART_MAX`. -/
def multipartMax : Nat := 16777216

variable (mech : UInt32)

/-- `fhsm_hmac_hash_of`: the digest; the MAC is as long as it. -/
def hmacHashOf : Option MdAlg :=
  if mech = 0x221 then some .sha1
  else if mech = 0x256 then some .sha224
  else if mech = 0x049 then some .sha512x224
  else if mech = 0x04D then some .sha512x256
  else if mech = 0x251 then some .sha256
  else if mech = 0x261 then some .sha384
  else if mech = 0x271 then some .sha512
  else if mech = 0x2B6 then some .sha3x224
  else if mech = 0x2B1 then some .sha3x256
  else if mech = 0x2C1 then some .sha3x384
  else if mech = 0x2D1 then some .sha3x512
  else none

/-- `mech_hash_name`. -/
def mechHashName : Option MdAlg :=
  if mech ∈ [0x06, 0x0E] then some .sha1
  else if mech ∈ [0x46, 0x47] then some .sha224
  else if mech ∈ [0x1044, 0x40, 0x43] then some .sha256
  else if mech ∈ [0x1045, 0x41, 0x44] then some .sha384
  else if mech ∈ [0x1046, 0x42, 0x45] then some .sha512
  else if mech = 0x66 then some .sha3x224
  else if mech = 0x60 then some .sha3x256
  else if mech = 0x61 then some .sha3x384
  else if mech = 0x62 then some .sha3x512
  else none

def isComposite : Bool := mech == ckmCompositeMldsa65Ed25519.toUInt32

/-- The two MACs built on AES. -/
def isAesMac : Bool := mech == ckmAesCmac.toUInt32 || mech == ckmAesGmac.toUInt32

/-- `sig_family_bound`. -/
def sigFamilyBound : Nat :=
  if mech = ckmSlhDsa.toUInt32 ∨ hmSlh mech then 65536
  else if mech = ckmMlDsa.toUInt32 ∨ hmldsaIs mech then 8192
  else 512

/-- `3309 + 64`. -/
def compositeSigLen : Nat := 3373

/-- `fhsm_composite_ph_len`. -/
def compositePhLen : Nat := 64

/-- `HMLDSA_OID_PREFIX`. -/
def hmOid : Bytes := [0x06, 0x09, 0x60, 0x86, 0x48, 0x01, 0x65, 0x03, 0x04, 0x02]

section

variable {P : Provider} (env : OpEnv P)

/-! ## Primitives -/

/-- A digest of one piece of data; an extendable function is cut to `n` bytes. -/
def digestOnce (md : MdAlg) (n : Nat) (data : Bytes) : Option Bytes := do
  let c ← if P.fetch env.seed (.md md) && P.ctxNew env.seed then P.mdInit env.seed md else none
  let c ← match P.mdUpdate env.seed c data with
    | (true, c) => some c
    | (false, _) => none
  if md.isXof then P.mdFinalXof env.seed c n
  else (P.mdFinal env.seed c).filter (·.length == n)

variable (t : Token) (s : Setup)

/-- `hmldsa_message`: the encoded message of a pre-hash signature. -/
def hmldsaMessage (prehashed : Bool) (data : Bytes) : Except Err Bytes :=
  match if s.hmRow = 0 then none else hmTable[s.hmRow - 1]? with
  | none => .error .functionFailed
  | some r =>
    if 255 < s.pqCtx.length then .error .functionFailed
    else
      let head := 0x01 :: UInt8.ofNat s.pqCtx.length :: (s.pqCtx ++ hmOid ++ [r.arc])
      if hmGeneric s.mechanism || prehashed then
        if data.length = r.outLen then .ok (head ++ data) else .error .dataLenRange
      else
        match digestOnce env r.md r.outLen data with
        | some d => .ok (head ++ d)
        | none => .error .functionFailed

/-- `fhsm_hmac`. -/
def hmac (md : MdAlg) (key data : Bytes) : Except Err Bytes :=
  if env.errorState then .error .functionFailed
  else if !P.fetch env.seed (.mac .hmac) then .error .mechanismInvalid
  else if !P.ctxNew env.seed then .error .hostMemory
  else match P.macInit env.seed (.hmac md) key with
    | none => .error .functionFailed
    | some c =>
      match P.macUpdate env.seed c data with
      | (false, _) => .error .functionFailed
      | (true, c) => (P.macFinal env.seed c).elim (.error .functionFailed) .ok

/-- `aes_cmac` and `aes_gmac`: sixteen bytes. -/
def aesMac (spec : MacSpec) (key data : Bytes) : Except Err Bytes :=
  if !P.fetch env.seed (.mac spec.kind) then .error .mechanismInvalid
  else if !P.ctxNew env.seed then .error .hostMemory
  else if (aesBits? key.length).isNone then .error .keySizeRange
  else match P.macInit env.seed spec key with
    | none => .error .functionFailed
    | some c =>
      match P.macUpdate env.seed c data with
      | (false, _) => .error .functionFailed
      | (true, c) =>
        match P.macFinal env.seed c with
        | some tag => if tag.length = 16 then .ok tag else .error .functionFailed
        | none => .error .functionFailed

/-- The MAC of an AES mechanism; GMAC needs a nonce. -/
def aesMacSpec (key : Bytes) : Except Err MacSpec :=
  if s.mechanism = ckmAesGmac.toUInt32 then
    if s.gcmGiven && s.gcmIvLen != 0 then .ok (.gmac key.length s.gcmIv) else .error .argumentsBad
  else .ok (.cmac key.length)

/-- The length of an AES MAC. -/
def aesMacLen : Nat :=
  if s.mechanism = ckmAesGmac.toUInt32 ∧ s.gcmTagLen ≠ 0 then s.gcmTagLen else 16

/-- `pss_apply_params`. -/
def pssPadding : Except Err SigPadding :=
  let salt := if s.pss.given then some s.pss.saltLen else none
  if !s.pss.given || s.pss.mgf == 0 then .ok (.pss salt none)
  else if known env (mgfMd s.pss.mgf.toUInt64) then .ok (.pss salt (mgfMd s.pss.mgf.toUInt64))
  else .error .mechanismParamInvalid

/-- The context of an RSA or ECDSA signature. `CKM_RSA_PKCS_PSS` takes its digest from the
parameter. -/
def rsaSpec : Except Err SigSpec :=
  match mechHashName s.mechanism with
  | some md =>
    if mechIsPss s.mechanism then
      (pssPadding env s).map fun pad => { md := some md, padding := pad }
    else .ok { md := some md }
  | none =>
    if mechIsPss s.mechanism then
      if known env (oaepMd s.pss.hash.toUInt64) then
        (pssPadding env s).map fun pad => { md := oaepMd s.pss.hash.toUInt64, padding := pad }
      else .error .mechanismParamInvalid
    else .ok { padding := if s.mechanism = ckmRsaX509.toUInt32 then .raw else .default }

/-- The context string of ML-DSA and SLH-DSA. -/
def pqContext : Option Bytes :=
  if s.mechanism ≠ ckmEddsa.toUInt32 ∧ s.pqGiven ∧ s.pqCtx ≠ [] then some s.pqCtx else none

/-- The mechanisms that sign the message itself without a digest of their own. -/
def isPure (mech : UInt32) : Bool :=
  mech == ckmMlDsa.toUInt32 || mech == ckmSlhDsa.toUInt32 || mech == ckmEddsa.toUInt32

/-- `sign_asymmetric`. -/
def signAsymmetric (prehashed : Bool) (data : Bytes) (cap : Nat) : Except Err Bytes := do
  let o ← t.objectGet s.keyHandle
  if o.cls ≠ ckoPrivateKey then .error .keyTypeInconsistent
  else match P.d2iPriv env.seed o.value with
    | none => .error .functionFailed
    | some k =>
      let sigOf (spec : SigSpec) (msg : Bytes) : Except Err Bytes :=
        (P.sign env.seed k spec msg cap).elim (.error .functionFailed) .ok
      if (o.keyType = ckkRsa ∧ P.pkeyKind k ≠ .rsa) ∨ (o.keyType = ckkEc ∧ P.pkeyKind k ≠ .ec) then
        .error .keyTypeInconsistent
      else if s.hmRow ≠ 0 then do
        let msg ← hmldsaMessage env s prehashed data
        let spec : SigSpec := { deterministic := s.pqHedge == 2, encoded := true }
        if !P.ctxNew env.seed then .error .hostMemory
        else if !P.signInit env.seed k spec then .error .functionFailed
        else sigOf spec msg
      else if isPure s.mechanism then
        let spec : SigSpec :=
          { context := pqContext s
            deterministic := s.mechanism != ckmEddsa.toUInt32 && s.pqHedge == 2 }
        if !P.ctxNew env.seed then .error .hostMemory
        else if !P.signInit env.seed k {} then .error .functionFailed
        else if spec ≠ {} ∧ !P.setParams env.seed k spec then .error .functionFailed
        else sigOf spec data
      else
        match rsaSpec env s with
        | .error _ => .error .functionFailed
        | .ok spec =>
          if !P.ctxNew env.seed || !P.signInit env.seed k spec then .error .functionFailed
          else do
            let sig ← sigOf spec data
            if mechIsEcdsa s.mechanism then
              let nlen := (P.pkeyBits k + 7) / 8
              if nlen = 0 ∨ cap < 2 * nlen then .error .functionFailed
              else (P.ecdsaDerToRaw env.seed sig nlen).elim (.error .functionFailed) .ok
            else .ok sig

/-- `fhsm_exact_sig_len`, zero when it is not known. -/
def exactSigLen : Nat :=
  match t.objectGet s.keyHandle with
  | .error _ => 0
  | .ok o =>
    if o.cls ≠ ckoPrivateKey then 0
    else match P.d2iPriv env.seed o.value with
      | none => 0
      | some k =>
        if mechIsEcdsa s.mechanism then 2 * ((P.pkeyBits k + 7) / 8) else P.pkeySize k

/-- The answer of a verification. -/
def verdict (v : Verdict) (onError : Err) : Except Err Unit :=
  match v with
  | .good => .ok ()
  | .bad => .error .signatureInvalid
  | .error => .error onError

/-- The public key of a verification; a raw ML-DSA key is recognised by its length. -/
def verifyKey (o : Obj) : Option P.Pkey :=
  match P.d2iPub env.seed o.value with
  | some k => some k
  | none =>
    if (s.mechanism = ckmMlDsa.toUInt32 ∨ s.hmRow ≠ 0) ∧ o.value.length ∈ [1312, 1952, 2592] then
      P.rawMldsaPub env.seed o.value
    else none

/-- The verification of an RSA or ECDSA signature in the form OpenSSL reads. -/
def verifyRsa (k : P.Pkey) (data sig : Bytes) : Except Err Unit :=
  let onError := if mechIsEcdsa s.mechanism then Err.signatureInvalid else .functionFailed
  if !P.ctxNew env.seed then .error .signatureInvalid
  else match rsaSpec env s with
    | .error e =>
      if (mechHashName s.mechanism).isSome ∧ P.verifyInit env.seed k { md := mechHashName s.mechanism }
      then .error e else .error .signatureInvalid
    | .ok spec =>
      if !P.verifyInit env.seed k spec then .error .signatureInvalid
      else verdict (P.verify env.seed k spec sig data) onError

/-- `verify_asymmetric`, apart from `op->active = 0`, which all its ends do. -/
def verifyAsymmetric (prehashed : Bool) (data sig : Bytes) : Except Err Unit := do
  let o ← t.objectGet s.keyHandle
  if o.cls ≠ ckoPublicKey then .error .keyTypeInconsistent
  else if s.pqTooLong then .error .signatureInvalid
  else match verifyKey env s o with
    | none => .error .functionFailed
    | some k =>
      if s.hmRow ≠ 0 then
        match hmldsaMessage env s prehashed data with
        | .error .dataLenRange => .error .signatureInvalid
        | .error e => .error e
        | .ok msg =>
          if !P.ctxNew env.seed || !P.verifyInit env.seed k { encoded := true } then
            .error .functionFailed
          else verdict (P.verify env.seed k { encoded := true } sig msg) .signatureInvalid
      else if isPure s.mechanism then
        if !P.ctxNew env.seed then .error .hostMemory
        else if !P.verifyInit env.seed k {} then .error .signatureInvalid
        else if (pqContext s).isSome ∧ !P.setParams env.seed k { context := pqContext s } then
          .error .functionFailed
        else verdict (P.verify env.seed k { context := pqContext s } sig data) .functionFailed
      else if mechIsEcdsa s.mechanism then
        let nlen := (P.pkeyBits k + 7) / 8
        if nlen = 0 ∨ sig.length ≠ 2 * nlen then .error .signatureInvalid
        else match P.ecdsaRawToDer env.seed sig nlen with
          | none => .error .signatureInvalid
          | some der => verifyRsa env s k data der
      else verifyRsa env s k data sig

/-! ## One-shot calls -/

/-- A refusal that ends the operation when the input is too long or missing. -/
def checkInput (data : Buf) : OpM P Unit := endingOnError do
  refuseIf (inputMax < data.len) .dataLenRange
  refuseIf data.dangling .argumentsBad

def requireCompositeKey (o : Obj) (cls : UInt32) : OpM P Unit :=
  refuseIf (o.cls != cls || o.keyType != ckkCompositeMldsa65Ed25519) .keyTypeInconsistent

/-- The asymmetric end of `C_Sign` and `C_SignFinal`: the signature is made before the
buffer is measured. -/
def signOut (prehashed : Bool) (data : Bytes) : OutArg → OpM P Reply
  | .noLen => refuse .argumentsBad
  | .query =>
    let exact := exactSigLen env t s
    pure (.size (if exact = 0 then sigFamilyBound s.mechanism else exact))
  | .room n => do
    let cap := sigFamilyBound s.mechanism
    refuseIf (512 < cap && !P.alloc env.seed cap) .hostMemory
    let sig ← ofExcept (signAsymmetric env t s prehashed data cap)
    if n < sig.length then throw (.tooSmall sig.length) else pure (.data sig)

/-- The branch of `C_Sign` for a mechanism. -/
def signWith (prehashed : Bool) (data : Bytes) (out : OutArg) : OpM P Reply :=
  if isComposite s.mechanism then do
    let o ← ofExcept (t.objectGet s.keyHandle)
    requireCompositeKey o ckoPrivateKey
    sized out compositeSigLen do
      let sig ← ofExcept (P.compositeSign env.seed false o.value data)
      pure (.data sig)
  else match hmacHashOf s.mechanism with
    | some md => do
      let o ← ofExcept (t.objectGet s.keyHandle)
      sized out md.size do
        let mac ← ofExcept (hmac env md o.value data)
        pure (.data mac)
    | none =>
      if isAesMac s.mechanism then do
        let o ← ofExcept (t.objectGet s.keyHandle)
        refuseIf (o.keyType != ckkAes) .keyTypeInconsistent
        sized out (aesMacLen s) do
          let spec ← ofExcept (aesMacSpec s o.value)
          let mac ← ofExcept (aesMac env spec o.value data)
          pure (.data (mac.take (aesMacLen s)))
      else signOut env t s prehashed data out

/-- `C_Sign`. A missing length pointer is the one argument error that keeps the operation. -/
def sign (data : Buf) (out : OutArg) (op : Op P) : Except Refusal Reply × Op P :=
  op.call (.ok ()) fun s => do
    requireCtxAuth s
    endingOnError (refuseIf (inputMax < data.len) .dataLenRange)
    refuseIf (out == .noLen) .argumentsBad
    endingOnError (refuseIf data.dangling .argumentsBad)
    match env.tok with
    | none => refuse .sessionHandleInvalid
    | some t => do
      let l ← get
      ending (signWith env t s l.hmPrehashed data.data out)

/-- A computed MAC against the one of the caller. -/
def checkMac (mac : Bytes) (n : Nat) (sig : Bytes) : Except Err Unit :=
  if sig.length = n ∧ n ≤ mac.length ∧ mac.take n = sig then .ok () else .error .signatureInvalid

/-- The branch of `C_Verify` for a mechanism. -/
def verifyWith (prehashed : Bool) (data sig : Bytes) : Except Err Unit := do
  let o ← t.objectGet s.keyHandle
  if isComposite s.mechanism then
    if o.cls ≠ ckoPublicKey ∨ o.keyType ≠ ckkCompositeMldsa65Ed25519 then
      .error .keyTypeInconsistent
    else P.compositeVerify env.seed false o.value sig data
  else match hmacHashOf s.mechanism with
    | some md => do
      let mac ← hmac env md o.value data
      checkMac mac mac.length sig
    | none =>
      if isAesMac s.mechanism then
        if o.keyType ≠ ckkAes then .error .keyTypeInconsistent
        else do
          let spec ← aesMacSpec s o.value
          let mac ← aesMac env spec o.value data
          checkMac mac (aesMacLen s) sig
      else verifyAsymmetric env t s prehashed data sig

/-- `C_Verify`. -/
def verify (data sig : Buf) (op : Op P) : Except Refusal Reply × Op P :=
  op.call (.ok ()) fun s => do
    checkInput data
    match env.tok with
    | none => refuse .sessionHandleInvalid
    | some t => do
      let l ← get
      stop
      ofExcept (verifyWith env t s l.hmPrehashed data.data sig.data)
      pure .done

/-! ## Multipart calls -/

def setMd (c : Option P.Md) : OpM P Unit := modify ({ · with mdCtx := c })

def setMac (c : Option P.Mac) : OpM P Unit := modify ({ · with macCtx := c })

/-- `op_free_multipart`. -/
def freeMultipart : OpM P Unit := modify ({ · with mpBuf := [] })

/-- `op_append_multipart`. Whether the buffer has to grow is left to the allocator. -/
def appendMultipart (part : Bytes) : OpM P Unit := do
  let l ← get
  if part.length = 0 then pure ()
  else if multipartMax < l.mpBuf.length + part.length then do
    freeMultipart
    stop
    refuse .dataLenRange
  else if !P.alloc env.seed (l.mpBuf.length + part.length) then do
    freeMultipart
    stop
    refuse .hostMemory
  else modify ({ · with mpBuf := l.mpBuf ++ part })

/-- Continue the digest context of the slot, or start one; no input is not given to it. -/
def feedDigest (md : MdAlg) (noFetch : Err) (part : Bytes) : OpM P Unit := do
  let l ← get
  let c ← match l.mdCtx with
    | some c => pure c
    | none => do
      refuseIf (!P.fetch env.seed (.md md)) noFetch
      match if P.ctxNew env.seed then P.mdInit env.seed md else none with
      | none => refuse .functionFailed
      | some c => do
        setMd (some c)
        pure c
  if part.length = 0 then pure ()
  else match P.mdUpdate env.seed c part with
    | (ok, c) => do
      setMd (some c)
      refuseIf (!ok) .functionFailed

/-- `composite_ph_update`; the pre-hash is SHA-512. -/
def compositePhUpdate (part : Bytes) : OpM P Unit := feedDigest env .sha512 .mechanismInvalid part

/-- `composite_ph_final`. -/
def compositePhFinal : OpM P Bytes := do
  let l ← get
  match l.mdCtx with
  | some _ => pure ()
  | none => compositePhUpdate env []
  let l ← get
  setMd none
  match l.mdCtx.bind (P.mdFinal env.seed) with
  | some ph => if ph.length = compositePhLen then pure ph else refuse .functionFailed
  | none => refuse .functionFailed

/-- `hmldsa_ph_update`. -/
def hmldsaPhUpdate (part : Bytes) : OpM P Unit := do
  refuseIf (hmGeneric s.mechanism) .functionNotSupported
  let l ← get
  refuseIf l.hmPrehashed .functionFailed
  match hmTable[s.hmRow - 1]? with
  | none => refuse .functionFailed
  | some r => feedDigest env r.md .functionFailed part

/-- `hmldsa_ph_finish`: the digest replaces the buffered input. -/
def hmldsaPhFinish : OpM P Unit := do
  refuseIf (hmGeneric s.mechanism) .functionNotSupported
  let l ← get
  match l.mdCtx, hmTable[s.hmRow - 1]? with
  | some c, some r => do
    setMd none
    match if r.md.isXof then P.mdFinalXof env.seed c r.outLen
        else (P.mdFinal env.seed c).filter (·.length == r.outLen) with
    | none => refuse .functionFailed
    | some ph => do
      freeMultipart
      appendMultipart env ph
      modify ({ · with hmPrehashed := true })
  | _, _ => pure ()

/-- `hmldsa_fail`. -/
def orHmldsaFail {α : Type} (x : OpM P α) : OpM P α :=
  tryCatch x fun e => do
    setMd none
    freeMultipart
    stop
    throw e

/-- `mech_sign_is_buffered_multipart`. -/
def isBufferedMultipart (mech : UInt32) : Bool :=
  !isComposite mech && !isAesMac mech && (hmacHashOf mech).isNone

/-- `mac_stream_len`. -/
def macStreamLen : Nat :=
  match hmacHashOf s.mechanism with
  | some md => md.size
  | none =>
    if s.mechanism = ckmAesCmac.toUInt32 then 16
    else if s.mechanism = ckmAesGmac.toUInt32 then
      if s.gcmTagLen ≠ 0 ∧ s.gcmTagLen ≤ 16 then s.gcmTagLen else 16
    else 0

/-- The MAC a stream starts with. -/
def macStreamSpec (o : Obj) : Except Err MacSpec :=
  match hmacHashOf s.mechanism with
  | some md => .ok (.hmac md)
  | none =>
    if !isAesMac s.mechanism then .error .mechanismInvalid
    else if o.keyType ≠ ckkAes then .error .keyTypeInconsistent
    else do
      let spec ← aesMacSpec s o.value
      if (aesBits? o.value.length).isNone then .error .keySizeRange else .ok spec

/-- The MAC context of the slot, or the one `mac_stream_open` builds. -/
def macStream : OpM P P.Mac := do
  let l ← get
  match l.macCtx with
  | some c => pure c
  | none =>
    match env.tok with
    | none => refuse .sessionHandleInvalid
    | some t => do
      let o ← ofExcept (t.objectGet s.keyHandle)
      let spec ← ofExcept (macStreamSpec s o)
      refuseIf (!P.fetch env.seed (.mac spec.kind)) .mechanismInvalid
      refuseIf (!P.ctxNew env.seed) .hostMemory
      match P.macInit env.seed spec o.value with
      | none => refuse .functionFailed
      | some c => do
        setMac (some c)
        pure c

/-- The `fail` label of the MAC paths. -/
def orMacFail {α : Type} (x : OpM P α) : OpM P α :=
  tryCatch x fun e => do
    setMac none
    stop
    throw e

/-- `C_SignUpdate` and `C_VerifyUpdate` once their arguments are checked. -/
def updateWith (part : Bytes) : OpM P Reply := do
  if isComposite s.mechanism then compositePhUpdate env part
  else if s.hmRow ≠ 0 then orHmldsaFail (hmldsaPhUpdate env s part)
  else if isBufferedMultipart s.mechanism then appendMultipart env part
  else match env.tok with
    | none => refuse .sessionHandleInvalid
    | some _ => orMacFail do
      let c ← macStream env s
      match P.macUpdate env.seed c part with
      | (ok, c) => do
        setMac (some c)
        refuseIf (!ok) .functionFailed
  pure .done

/-- `C_SignUpdate`. -/
def signUpdate (part : Buf) (op : Op P) : Except Refusal Reply × Op P :=
  op.call (.ok ()) fun s => do
    requireCtxAuth s
    checkInput part
    updateWith env s part.data

/-- `C_VerifyUpdate`. -/
def verifyUpdate (part : Buf) (op : Op P) : Except Refusal Reply × Op P :=
  op.call (.ok ()) fun s => do
    checkInput part
    match env.tok with
    | none => refuse .sessionHandleInvalid
    | some _ => updateWith env s part.data

/-- The MAC that ends a stream. -/
def macStreamFinal : OpM P Bytes := do
  let c ← macStream env s
  match P.macFinal env.seed c with
  | none => refuse .functionFailed
  | some mac => pure mac

/-- `C_SignFinal` with a MAC. -/
def signFinalMac (out : OutArg) : OpM P Reply := do
  let n := macStreamLen s
  orMacFail (refuseIf (n == 0) .mechanismInvalid)
  sized out n <| orMacFail do
    let mac ← macStreamFinal env s
    refuseIf (mac.length < n) .functionFailed
    setMac none
    stop
    pure (.data (mac.take n))

/-- `C_SignFinal` with buffered or pre-hashed input. An error or the signature frees the
buffer, a short one of the caller keeps it. -/
def signFinalBuffered (out : OutArg) : OpM P Reply := do
  if s.hmRow ≠ 0 then orHmldsaFail (hmldsaPhFinish env s) else pure ()
  let l ← get
  tryCatch
    (do
      let r ← signOut env t s l.hmPrehashed l.mpBuf out
      match r with
      | .size n => pure (.size n)
      | r => do
        freeMultipart
        stop
        pure r)
    fun
      | .tooSmall n => throw (.tooSmall n)
      | .rv e => do
        freeMultipart
        stop
        refuse e

/-- `C_SignFinal` with the composite mechanism. -/
def signFinalComposite (out : OutArg) : OpM P Reply :=
  sized out compositeSigLen do
    match env.tok with
    | none => refuse .sessionHandleInvalid
    | some t => ending do
      let o ← ofExcept (t.objectGet s.keyHandle)
      requireCompositeKey o ckoPrivateKey
      let ph ← compositePhFinal env
      let sig ← ofExcept (P.compositeSign env.seed true o.value ph)
      pure (.data sig)

/-- `C_SignFinal`. -/
def signFinal (out : OutArg) (op : Op P) : Except Refusal Reply × Op P :=
  op.call (.ok ()) fun s => do
    requireCtxAuth s
    refuseIf (out == .noLen) .argumentsBad
    if isComposite s.mechanism then signFinalComposite env s out
    else if isBufferedMultipart s.mechanism then
      match env.tok with
      | none => endingOnError (refuse .sessionHandleInvalid)
      | some t => signFinalBuffered env t s out
    else signFinalMac env s out

/-- `C_VerifyFinal`. -/
def verifyFinal (sig : Buf) (op : Op P) : Except Refusal Reply × Op P :=
  op.call (.ok ()) fun s => do
    refuseIf sig.isNull .argumentsBad
    if isComposite s.mechanism then
      match env.tok with
      | none => refuse .sessionHandleInvalid
      | some t => ending do
        let o ← ofExcept (t.objectGet s.keyHandle)
        requireCompositeKey o ckoPublicKey
        let ph ← compositePhFinal env
        ofExcept (P.compositeVerify env.seed true o.value sig.data ph)
        pure .done
    else if isBufferedMultipart s.mechanism then
      match env.tok with
      | none => do
        freeMultipart
        stop
        refuse .sessionHandleInvalid
      | some t => do
        if s.hmRow ≠ 0 then orHmldsaFail (hmldsaPhFinish env s) else pure ()
        let l ← get
        freeMultipart
        stop
        ofExcept (verifyAsymmetric env t s l.hmPrehashed l.mpBuf sig.data)
        pure .done
    else orMacFail do
      refuseIf (macStreamLen s == 0) .mechanismInvalid
      let mac ← macStreamFinal env s
      setMac none
      stop
      ofExcept (checkMac mac (macStreamLen s) sig.data)
      pure .done

/-! ## Init -/

/-- The mechanisms of `C_SignInit` and `C_VerifyInit`. -/
def signMechs : List UInt64 :=
  [0x221, 0x256, 0x049, 0x04D, 0x251, 0x261, 0x271, 0x2B6, 0x2B1, 0x2C1, 0x2D1,
   ckmAesCmac, ckmAesGmac, ckmEcdsa, 0x1044, 0x1045, 0x1046, ckmEddsa,
   ckmRsaPkcs, 0x40, 0x41, 0x42, ckmRsaPkcsPss, 0x43, 0x44, 0x45, 0x47, 0x46,
   0x66, 0x60, 0x61, 0x62, ckmMlDsa, ckmSlhDsa, ckmHashMlDsa,
   0x23, 0x24, 0x25, 0x26, 0x27, 0x28, 0x29, 0x2A, 0x2B, 0x2C, ckmHashSlhDsa,
   0x36, 0x37, 0x38, 0x39, 0x3A, 0x3B, 0x3C, 0x3D, 0x3E, 0x3F]

/-- Those that a FIPS build refuses. -/
def legacySignMechs : List UInt64 :=
  [ckmSha1RsaPkcs, ckmSha1RsaPkcsPss, ckmRsaX509, ckmCompositeMldsa65Ed25519]

def signMechValid (mech : UInt64) : Bool :=
  signMechs.contains mech || (!env.strict && legacySignMechs.contains mech)

/-- `C_SignInit`: a context string that is too long is refused here, and only here. -/
def signInit (m : Option Mech) (hKey : UInt64) (op : Op P) : Except Refusal Reply × Op P :=
  match keyedInit env m hKey (signMechValid env) .sign op with
  | (.ok r, op) =>
    if op.params.pq.tooLong then
      (.error (.rv .mechanismParamInvalid), { op with live := { op.live with active := false } })
    else (.ok r, op)
  | r => r

/-- `C_VerifyInit`. -/
def verifyInit (m : Option Mech) (hKey : UInt64) (op : Op P) : Except Refusal Reply × Op P :=
  keyedInit env m hKey (signMechValid env) .verify op

end

end FreeHsm
