import FreeHsm.ForStd.StateExcept
import FreeHsm.Pkcs11.Policy
import FreeHsm.Pkcs11.Provider
import Mathlib.Data.Bool.AllAny

/-!
# Operation slots

`fhsm_op_t` and `op_init`. A slot is static memory that every operation of a
session and a direction reuses, so it is modelled with the bytes that earlier
operations left in it: `iv`, `gcm_iv` and `pq_ctx` are overwritten from the front
and keep the rest, and a refused `C_*Init` keeps what it has already written.

The calls that continue an operation read the parameters of its `C_*Init` only
through `Params.setup`, which cuts every buffer to its length. `Running` is the part
of a slot that those calls change.

`op_init` neither frees nor clears `cipher_ctx` and `mac_ctx`.
-/

namespace FreeHsm

open StateExcept

/-! ## Mechanisms -/

def ckmRsaPkcs : UInt64 := 0x0001
def ckmRsaX509 : UInt64 := 0x0003
def ckmSha1RsaPkcs : UInt64 := 0x0006
def ckmRsaPkcsOaep : UInt64 := 0x0009
def ckmRsaPkcsPss : UInt64 := 0x000D
def ckmSha1RsaPkcsPss : UInt64 := 0x000E
def ckmMlDsa : UInt64 := 0x001D
def ckmHashMlDsa : UInt64 := 0x001F
def ckmSlhDsa : UInt64 := 0x002E
def ckmHashSlhDsa : UInt64 := 0x0034
def ckmDes3Cbc : UInt64 := 0x0133
def ckmEcdsa : UInt64 := 0x1041
def ckmEddsa : UInt64 := 0x1057
def ckmAesEcb : UInt64 := 0x1081
def ckmAesCbc : UInt64 := 0x1082
def ckmAesCbcPad : UInt64 := 0x1085
def ckmAesCtr : UInt64 := 0x1086
def ckmAesGcm : UInt64 := 0x1087
def ckmAesCcm : UInt64 := 0x1088
def ckmAesCmac : UInt64 := 0x108A
def ckmAesGmac : UInt64 := 0x108E
def ckmAesKeyWrap : UInt64 := 0x2109
def ckmAesKeyWrapPad : UInt64 := 0x210A
def ckmAesKeyWrapKwp : UInt64 := 0x210B
def ckmCompositeMldsa65Ed25519 : UInt64 := 0x80004202

def ckkRsa : UInt32 := 0x00
def ckkEc : UInt32 := 0x03
def ckkDes3 : UInt32 := 0x15
def ckkAes : UInt32 := 0x1F
def ckkCompositeMldsa65Ed25519 : UInt32 := 0x80004202

/-- `FHSM_AAD_MAX`. -/
def aadMax : Nat := 1048576

/-- `CK_MECHANISM`, with the caller's memory that its parameter points into. -/
structure Mech where
  type : UInt64
  param : Buf
  mem : UInt64 → UInt8

namespace Mech

/-- The `i`-th `CK_ULONG` of the parameter. -/
def ulong (m : Mech) (i : Nat) : UInt64 := u64At m.param.data (ckUlongSize * i)

/-- The `n` bytes at an address. -/
def memory (m : Mech) (ptr : UInt64) (n : Nat) : Bytes :=
  (List.range n).map fun i => m.mem (ptr + UInt64.ofNat i)

theorem length_memory (m : Mech) (ptr : UInt64) (n : Nat) : (m.memory ptr n).length = n := by
  simp [memory]

end Mech

/-- `mech_is_pss`. -/
def mechIsPss (m : UInt32) : Bool := [0x0D, 0x43, 0x44, 0x45, 0x47, 0x0E].contains m

/-- `fhsm_mech_is_ecdsa`. -/
def mechIsEcdsa (m : UInt32) : Bool := [0x1041, 0x1044, 0x1045, 0x1046].contains m

/-- `oaep_md`, without the fetch. -/
def oaepMd (ckm : UInt64) : Option MdAlg :=
  if ckm = 0x220 then some .sha1
  else if ckm = 0x255 then some .sha224
  else if ckm = 0x250 then some .sha256
  else if ckm = 0x260 then some .sha384
  else if ckm = 0x270 then some .sha512
  else if ckm = 0x2B5 then some .sha3x224
  else if ckm = 0x2B0 then some .sha3x256
  else if ckm = 0x2C0 then some .sha3x384
  else if ckm = 0x2D0 then some .sha3x512
  else none

/-- `mgf_md`, without the fetch. -/
def mgfMd (mgf : UInt64) : Option MdAlg :=
  if mgf = 1 then some .sha1
  else if mgf = 5 then some .sha224
  else if mgf = 2 then some .sha256
  else if mgf = 3 then some .sha384
  else if mgf = 4 then some .sha512
  else if mgf = 6 then some .sha3x224
  else if mgf = 7 then some .sha3x256
  else if mgf = 8 then some .sha3x384
  else if mgf = 9 then some .sha3x512
  else none

/-- A row of the table `HMLDSA`. -/
structure HmRow where
  mech : UInt32
  slhMech : UInt32
  digest : UInt64
  md : MdAlg
  arc : UInt8
  outLen : Nat

/-- `HMLDSA`. -/
def hmTable : List HmRow :=
  [⟨0x23, 0x36, 0x255, .sha224, 4, 28⟩, ⟨0x24, 0x37, 0x250, .sha256, 1, 32⟩,
   ⟨0x25, 0x38, 0x260, .sha384, 2, 48⟩, ⟨0x26, 0x39, 0x270, .sha512, 3, 64⟩,
   ⟨0, 0, 0x048, .sha512x224, 5, 28⟩, ⟨0, 0, 0x04C, .sha512x256, 6, 32⟩,
   ⟨0x27, 0x3A, 0x2B5, .sha3x224, 7, 28⟩, ⟨0x28, 0x3B, 0x2B0, .sha3x256, 8, 32⟩,
   ⟨0x29, 0x3C, 0x2C0, .sha3x384, 9, 48⟩, ⟨0x2A, 0x3D, 0x2D0, .sha3x512, 10, 64⟩,
   ⟨0x2B, 0x3E, 0, .shake128, 11, 32⟩, ⟨0x2C, 0x3F, 0, .shake256, 12, 64⟩]

/-- One more than the index of the first row, zero when there is none. -/
def hmIndex (p : HmRow → Bool) : Nat := (hmTable.findIdx? p).elim 0 (· + 1)

variable (mech : UInt32)

/-- `hmldsa_row_of_mech`. -/
def hmldsaRowOfMech : Nat :=
  hmIndex fun r => (r.mech != 0 && r.mech == mech) || (r.slhMech != 0 && r.slhMech == mech)

/-- `hm_generic`. -/
def hmGeneric : Bool := mech == 0x1F || mech == 0x34

/-- `hm_slh`. -/
def hmSlh : Bool :=
  mech == 0x34 || hmTable.any fun r => r.slhMech != 0 && r.slhMech == mech

/-- `hmldsa_is`. -/
def hmldsaIs : Bool := hmGeneric mech || hmldsaRowOfMech mech != 0

/-- The mechanisms whose `C_*Init` reads a hedge variant. -/
def readsHedge : Bool := mech == 0x1D || mech == 0x2E || hmldsaIs mech

/-- How many bytes of `op->iv` a mechanism fills and its cipher reads. -/
def ivBytes : Nat :=
  if mech = 0x133 ∨ mech = 0x2109 then 8
  else if mech = 0x210B then 4
  else if mech = 0x1087 then 12
  else 16

/-! ## The slot -/

/-- `pss_have`, `pss_saltlen`, `pss_mgf`, `pss_hash`. -/
structure PssParams where
  given : Bool := false
  saltLen : UInt64 := 0
  mgf : UInt32 := 0
  hash : UInt32 := 0
  deriving DecidableEq

/-- `gcm_have`, `gcm_iv`, `gcm_iv_len`, `gcm_tag_len`. -/
structure GcmParams where
  given : Bool := false
  iv : Vector UInt8 512 := Vector.replicate 512 0
  ivLen : Nat := 0
  tagLen : Nat := 0
  deriving DecidableEq

/-- `pq_ctx_have`, `pq_ctx`, `pq_ctx_len`, `pq_hedge`, `pq_ctx_toolong`. -/
structure PqParams where
  given : Bool := false
  ctx : Vector UInt8 256 := Vector.replicate 256 0
  ctxLen : Nat := 0
  hedge : UInt64 := 0
  tooLong : Bool := false
  deriving DecidableEq

/-- `fhsm_oaep_params_t` with its label copied. -/
structure OaepParams where
  hashAlg : UInt64 := 0
  mgf : UInt64 := 0
  source : UInt64 := 0
  label : Option Bytes := none
  deriving DecidableEq

/-- The fields of a slot that only `op_init` writes. -/
structure Params where
  keyHandle : UInt32 := 0
  mechanism : UInt32 := 0
  iv : Vector UInt8 16 := Vector.replicate 16 0
  haveIv : Bool := false
  pss : PssParams := {}
  gcm : GcmParams := {}
  pq : PqParams := {}
  hmRow : Nat := 0
  ctxAuthRequired : Bool := false
  /-- The entry of `g_oaep_enc` or `g_oaep_dec` of the same session. -/
  oaep : OaepParams := {}
  deriving DecidableEq

/-- The fields of a slot that the calls on a running operation change. -/
structure Running (P : Provider) where
  active : Bool := false
  mdCtx : Option P.Md := none
  macCtx : Option P.Mac := none
  cipherCtx : Option P.Cipher := none
  encPending : Nat := 0
  gcmAad : Bytes := []
  hmPrehashed : Bool := false
  ctxAuthDone : Bool := false
  mpBuf : Bytes := []

/-- `fhsm_op_t`. -/
structure Op (P : Provider) where
  params : Params := {}
  live : Running P := {}

/-- What a running operation reads of its parameters: each buffer up to its length,
and only what its mechanism uses. -/
structure Setup where
  keyHandle : UInt32
  mechanism : UInt32
  iv : Option Bytes
  pss : PssParams
  gcmGiven : Bool
  gcmIvLen : Nat
  gcmIv : Bytes
  gcmTagLen : Nat
  pqGiven : Bool
  pqCtx : Bytes
  pqTooLong : Bool
  pqHedge : UInt64
  hmRow : Nat
  ctxAuthRequired : Bool
  oaep : OaepParams
  deriving DecidableEq

namespace GcmParams

def nonce (g : GcmParams) : Bytes := g.iv.toList.take g.ivLen

end GcmParams

namespace PqParams

def context (p : PqParams) : Bytes := p.ctx.toList.take p.ctxLen

end PqParams

namespace Params

/-- The initialisation vector, if `C_*Init` stored one. -/
def storedIv (p : Params) : Option Bytes :=
  if p.haveIv then some (p.iv.toList.take (ivBytes p.mechanism)) else none

def setup (p : Params) : Setup where
  keyHandle := p.keyHandle
  mechanism := p.mechanism
  iv := p.storedIv
  pss := p.pss
  gcmGiven := p.gcm.given
  gcmIvLen := p.gcm.ivLen
  gcmIv := p.gcm.nonce
  gcmTagLen := p.gcm.tagLen
  pqGiven := p.pq.given
  pqCtx := p.pq.context
  pqTooLong := p.pq.tooLong
  pqHedge := if readsHedge p.mechanism then p.pq.hedge else 0
  hmRow := p.hmRow
  ctxAuthRequired := p.ctxAuthRequired
  oaep := if p.mechanism = ckmRsaPkcsOaep.toUInt32 then p.oaep else {}

end Params

/-- What a call on a slot finds around it. -/
structure OpEnv (P : Provider) where
  /-- `fhsm_session_token(hSession)`. -/
  tok : Option Token
  /-- `fhsm_state_get() == FHSM_STATE_ERROR`. -/
  errorState : Bool
  /-- `fhsm_build_fips_strict`. -/
  strict : Bool
  /-- `FHSM_OPENSC_GMAC_ALIAS` is set. -/
  gmacAlias : Bool
  seed : P.Seed

/-- `resolve_mech`. -/
def resolveMech {P : Provider} (env : OpEnv P) (m : UInt32) : UInt32 :=
  if m = ckmAesGmac.toUInt32 ∧ env.gmacAlias then ckmAesCmac.toUInt32 else m

/-! ## `op_init` -/

abbrev InitM (P : Provider) := ExceptT Err (StateM (Op P))

namespace Op

variable {P : Provider}

variable (op : Op P)

def putIv (iv : Vector UInt8 16) : Op P :=
  { op with params := { op.params with iv := iv, haveIv := true } }

/-- `memcpy` into `op->iv`. -/
def writeIv (b : Bytes) : Op P := op.putIv (overlay op.params.iv b)

def putNonce (iv : Vector UInt8 512) : Op P :=
  { op with params := { op.params with gcm := { op.params.gcm with iv := iv } } }

/-- `memcpy` into `op->gcm_iv`. -/
def writeNonce (b : Bytes) : Op P := op.putNonce (overlay op.params.gcm.iv b)

/-- Record the lengths that go with the nonce. -/
def setGcm (ivLen tagLen : Nat) : Op P :=
  { op with params := { op.params with
      gcm := { op.params.gcm with given := true, ivLen := ivLen, tagLen := tagLen } } }

/-- Record the length of the nonce alone. -/
def setNonceLen (ivLen : Nat) : Op P :=
  { op with params := { op.params with gcm := { op.params.gcm with ivLen := ivLen } } }

def setAad (aad : Bytes) : Op P := { op with live := { op.live with gcmAad := aad } }

def setOaep (o : OaepParams) : Op P := { op with params := { op.params with oaep := o } }

def setPss (pss : PssParams) : Op P := { op with params := { op.params with pss := pss } }

def setHedge (hedge : UInt64) : Op P :=
  { op with params := { op.params with pq := { op.params.pq with hedge := hedge } } }

def putContext (ctx : Vector UInt8 256) (n : Nat) : Op P :=
  { op with params := { op.params with pq := { op.params.pq with
      given := true, ctx := ctx, ctxLen := n } } }

/-- `memcpy` into `op->pq_ctx`, and the length. -/
def writeContext (b : Bytes) : Op P :=
  op.putContext (overlay op.params.pq.ctx b) b.length

/-- No context string, and whether that is because it was too long. -/
def dropContext (tooLong : Bool) : Op P :=
  { op with params := { op.params with pq := { op.params.pq with
      given := false, ctxLen := 0, tooLong := tooLong } } }

/-- No pre-hash row and nothing hashed yet. -/
def resetHm : Op P where
  params := { op.params with hmRow := 0 }
  live := { op.live with hmPrehashed := false }

def setHmRow (row : Nat) : Op P := { op with params := { op.params with hmRow := row } }

def activate : Op P := { op with live := { op.live with active := true } }

/-- The start of `op_init`: what it resets before it looks at the parameter. -/
def reset (env : OpEnv P) (m : Mech) (hKey : UInt64) (op : Op P) : Op P where
  params := { op.params with
    keyHandle := hKey.toUInt32
    mechanism := resolveMech env m.type.toUInt32
    haveIv := false
    gcm := { op.params.gcm with given := false, ivLen := 0, tagLen := 16 }
    ctxAuthRequired := match env.tok with
      | some t => (t.objects.find? hKey.toUInt32).any (hasBit ·.flags objfAlwaysAuth)
      | none => false }
  live := { op.live with
    mdCtx := none, encPending := 0, gcmAad := [], ctxAuthDone := false, mpBuf := [] }

end Op

section

variable {P : Provider} (env : OpEnv P) (m : Mech)

/-- Copy the additional data into memory of its own. -/
def storeAad (aad : Bytes) : InitM P Unit :=
  if aad.length = 0 then pure ()
  else do
    failIf (!P.alloc env.seed aad.length) .hostMemory
    modify (·.setAad aad)

/-- The six-word parameter of GCM and GMAC: nonce, additional data, tag bits. -/
def gcmStruct : InitM P Unit := do
  let ivPtr := m.ulong 0
  let ivLen := (m.ulong 1).toNat
  let aadPtr := m.ulong 3
  let aadLen := (m.ulong 4).toNat
  let tagBits := if m.ulong 5 = 0 then 128 else (m.ulong 5).toNat
  failIf ((ivLen != 0 && ivPtr == 0) || (aadLen != 0 && aadPtr == 0)) .mechanismParamInvalid
  failIf (512 < ivLen || aadMax < aadLen || 128 < tagBits || tagBits % 8 != 0) .argumentsBad
  modify (·.writeNonce (m.memory ivPtr ivLen))
  storeAad env (m.memory aadPtr aadLen)
  modify (·.setGcm ivLen (tagBits / 8))

variable (mech : UInt32)

/-- Lines 9812-9873: the parameter of GCM, and that of GMAC if it is long enough. -/
def initGcm : InitM P Unit :=
  if (m.type = ckmAesGcm ∨ mech = ckmAesGmac.toUInt32) ∧ !m.param.isNull then
    if 48 ≤ m.param.len then gcmStruct env m
    else if m.type = ckmAesGcm ∧ 12 ≤ m.param.len then do
      -- a bare nonce
      modify (·.writeIv (m.param.data.take 12))
      modify (·.writeNonce (m.param.data.take 12))
      modify (·.setGcm 12 16)
    else pure ()
  else pure ()

/-- Lines 9875-9880. -/
def initCbc : InitM P Unit :=
  if (m.type = ckmAesCbc ∨ m.type = ckmAesCbcPad) ∧ !m.param.isNull ∧ m.param.len = 16 then
    modify (·.writeIv m.param.data)
  else pure ()

/-- Lines 9902-9907. -/
def initDes3 : InitM P Unit :=
  if m.type = ckmDes3Cbc then do
    failIf (m.param.isNull || m.param.len != 8) .mechanismParamInvalid
    modify (·.writeIv m.param.data)
  else pure ()

/-- Lines 9916-9937: a bare counter block, or a counter width and the block. -/
def initCtr : InitM P Unit :=
  if m.type = ckmAesCtr then do
    failIf m.param.isNull .mechanismParamInvalid
    if m.param.len = 16 then modify (·.writeIv m.param.data)
    else if ckUlongSize + 16 ≤ m.param.len then do
      failIf (m.ulong 0 == 0 || m.ulong 0 > 128) .mechanismParamInvalid
      modify (·.writeIv ((m.param.data.drop ckUlongSize).take 16))
    else throw .mechanismParamInvalid
  else pure ()

/-- `kw_iv_from_mech`: no parameter, or an initial value of the right length. -/
def kwIvFromMech : Except Err (Option Bytes) :=
  if m.param.isNull ∧ m.param.len = 0 then .ok none
  else if m.type = ckmAesKeyWrapPad ∧ m.param.len ≠ 4 then .ok none
  else if m.param.isNull ∨ m.param.len ≠ (if m.type = ckmAesKeyWrap then 8 else 4) then
    .error .mechanismParamInvalid
  else .ok (some m.param.data)

/-- Lines 9949-9959. -/
def initKw : InitM P Unit :=
  if m.type = ckmAesKeyWrap ∨ m.type = ckmAesKeyWrapKwp then
    match kwIvFromMech m with
    | .error e => throw e
    | .ok none => pure ()
    | .ok (some iv) => modify (·.writeIv iv)
  else pure ()

/-- Lines 9981-10030: GMAC with a bare nonce; without any nonce it is refused. -/
def initGmac : InitM P Unit :=
  if mech = ckmAesGmac.toUInt32 then do
    let given ← (·.params.gcm.given) <$> get
    if given then pure ()
    else if m.param.isNull ∨ m.param.len = 0 then throw .mechanismParamInvalid
    else do
      failIf (512 < m.param.len) .argumentsBad
      failIf (m.param.len < 12) .mechanismParamInvalid
      modify (·.writeNonce m.param.data)
      modify (·.setGcm m.param.len 16)
  else pure ()

/-- Lines 10037-10064. -/
def initCcm : InitM P Unit :=
  if m.type = ckmAesCcm then do
    failIf (m.param.isNull || m.param.len < 48) .mechanismParamInvalid
    let nonce := m.ulong 1
    let nonceLen := (m.ulong 2).toNat
    let aadLen := (m.ulong 4).toNat
    let macLen := (m.ulong 5).toNat
    failIf (nonce == 0 || nonceLen < 7 || 13 < nonceLen) .mechanismParamInvalid
    failIf (!([4, 6, 8, 10, 12, 14, 16].contains macLen)) .mechanismParamInvalid
    failIf (aadMax < aadLen || (aadLen != 0 && m.ulong 3 == 0)) .mechanismParamInvalid
    modify (·.writeNonce (m.memory nonce nonceLen))
    modify (·.setNonceLen nonceLen)
    storeAad env (m.memory (m.ulong 3) aadLen)
    modify (·.setGcm nonceLen macLen)
  else pure ()

/-- A digest that OpenSSL knows. -/
def known (md : Option MdAlg) : Bool := md.any fun a => P.fetch env.seed (.md a)

/-- Lines 10067-10097 with `fhsm_oaep_params_from_mech`: the label is copied, at most 64
bytes of it. -/
def initOaep : InitM P Unit :=
  if m.type = ckmRsaPkcsOaep then do
    modify (·.setOaep {})
    failIf (m.param.isNull || m.param.len < 40) .mechanismParamInvalid
    let given : OaepParams := { hashAlg := m.ulong 0, mgf := m.ulong 1, source := m.ulong 2 }
    let len := (m.ulong 4).toNat
    modify (·.setOaep given)
    failIf (given.source == 1 && len != 0 && m.ulong 3 == 0) .mechanismParamInvalid
    failIf (!(known env (oaepMd given.hashAlg) && known env (mgfMd given.mgf)))
      .mechanismParamInvalid
    failIf (given.source == 1 && len != 0 && 64 < len) .mechanismParamInvalid
    modify (·.setOaep { given with
      label := if given.source = 1 ∧ len ≠ 0 then some (m.memory (m.ulong 3) len) else none })
  else pure ()

/-- Lines 10103-10144. -/
def initPss : InitM P Unit := do
  modify (·.setPss {})
  if mechIsPss mech then do
    failIf (m.param.isNull || m.param.len < 24) .mechanismParamInvalid
    modify (·.setPss { hash := (m.ulong 0).toUInt32 })
    failIf (mech == ckmRsaPkcsPss.toUInt32 && !known env (oaepMd (m.ulong 0)))
      .mechanismParamInvalid
    let pss : PssParams :=
      { hash := (m.ulong 0).toUInt32, mgf := (m.ulong 1).toUInt32, saltLen := m.ulong 2 }
    modify (·.setPss pss)
    failIf (m.ulong 2 > 1024) .mechanismParamInvalid
    modify (·.setPss { pss with given := true })
  else pure ()

/-- `fhsm_parse_pq_params`, apart from the hedge variant it returns. -/
def parsePqParams : InitM P Unit :=
  if m.param.isNull ∨ m.param.len < 24 then pure ()
  else if m.ulong 2 = 0 then modify (·.writeContext [])
  else if m.ulong 2 > 256 ∨ m.ulong 1 = 0 then pure ()
  else modify (·.writeContext (m.memory (m.ulong 1) (m.ulong 2).toNat))

/-- The hedge variant of the parameter, zero without one. -/
def hedgeVariant : UInt64 := if m.param.isNull ∨ m.param.len < 24 then 0 else m.ulong 0

/-- Lines 10152-10187. -/
def initPq : InitM P Unit := do
  modify (·.dropContext false)
  if mech = ckmMlDsa.toUInt32 ∨ mech = ckmSlhDsa.toUInt32 then do
    parsePqParams m
    failIf (hedgeVariant m > 2) .mechanismParamInvalid
    modify (·.setHedge (hedgeVariant m))
    if m.param.isNull ∨ m.param.len < 24 then pure ()
    else if m.ulong 2 > 255 then modify (·.dropContext true)
    else failIf (m.ulong 2 != 0 && m.ulong 1 == 0) .mechanismParamInvalid
  else pure ()

/-- The row that the digest of a generic pre-hash parameter names. -/
def hmRowOfDigest (digest : UInt64) : Nat := hmIndex fun r => r.digest != 0 && r.digest == digest

/-- `hmldsa_init`. -/
def hmldsaInit : InitM P Unit := do
  let generic := hmGeneric mech
  modify (·.setHmRow (if generic then 0 else hmldsaRowOfMech mech))
  modify (·.dropContext false)
  modify (·.setHedge 0)
  if m.param.isNull ∧ m.param.len = 0 then failIf generic .mechanismParamInvalid
  else do
    failIf (m.param.isNull || m.param.len != (if generic then 32 else 24)) .mechanismParamInvalid
    failIf (m.ulong 0 > 2) .mechanismParamInvalid
    failIf (m.ulong 2 != 0 && m.ulong 1 == 0 && m.ulong 2 ≤ 255) .mechanismParamInvalid
    failIf (generic && hmRowOfDigest (m.ulong 3) == 0) .mechanismParamInvalid
    modify (·.setHmRow (if generic then hmRowOfDigest (m.ulong 3) else hmldsaRowOfMech mech))
    modify (·.setHedge (m.ulong 0))
    if m.ulong 2 > 255 then modify (·.dropContext true)
    else modify (·.writeContext (m.memory (m.ulong 1) (m.ulong 2).toNat))

/-- Lines 10188-10193. -/
def initHm : InitM P Unit := do
  modify (·.resetHm)
  if hmldsaIs mech then hmldsaInit m mech else pure ()

/-- The kind of an asymmetric key object. -/
def keyKind (hKey : UInt64) : Option PkeyKind :=
  match env.tok.bind fun t => (t.objectGet hKey.toUInt32).toOption with
  | some o =>
    if o.cls = ckoPublicKey then (P.d2iPub env.seed o.value).map P.pkeyKind
    else if o.cls = ckoPrivateKey then (P.d2iPriv env.seed o.value).map P.pkeyKind
    else none
  | none => none

/-- Lines 10212-10295: without a parameter an Ed448 key that was named by its curve is
refused; with one, only the empty context of pure Ed448 is accepted. -/
def eddsaRefused (hKey : UInt64) : Bool :=
  if m.param.isNull then
    (env.tok.bind (·.objects.find? hKey.toUInt32)).any (hasBit ·.flags3 objf3EdCurveName) &&
      keyKind env hKey == some .ed448
  else
    m.param.len < 24 || m.ulong 1 != 0 || byteAt m.param.data 0 != 0 ||
      keyKind env hKey == some .ed25519

/-- Lines 10300-10306: the parameters that must be there. -/
def initDone : InitM P Unit := do
  let p ← (fun op => (op.params.haveIv, op.params.gcm.given, op.params.gcm.ivLen)) <$> get
  failIf ((m.type == ckmAesCbc || m.type == ckmAesCbcPad) && !p.1) .mechanismParamInvalid
  failIf (m.type == ckmAesGcm && (!p.2.1 || p.2.2 < 12)) .mechanismParamInvalid
  modify (·.activate)

/-- `op_init`. -/
def opInit (hKey : UInt64) : InitM P Unit := do
  let active ← (·.live.active) <$> get
  failIf active .operationActive
  modify (·.reset env m hKey)
  let mech := resolveMech env m.type.toUInt32
  initGcm env m mech
  initCbc m
  initDes3 m
  initCtr m
  initKw m
  initGmac m mech
  initCcm env m
  initOaep env m
  initPss env m mech
  initPq m mech
  initHm m mech
  failIf (mech == ckmEddsa.toUInt32 && eddsaRefused env m hKey) .mechanismParamInvalid
  initDone m

end

/-! ## Calls on a running operation -/

/-- The output buffer of a call and its length pointer. -/
inductive OutArg
  | noLen
  | query
  | room (n : Nat)
  deriving DecidableEq, Repr

/-- What a call returns with `CKR_OK`. -/
inductive Reply
  | done
  | size (n : Nat)
  | data (b : Bytes)
  deriving DecidableEq, Repr

/-- What a call returns otherwise. `CKR_BUFFER_TOO_SMALL` comes with the length. -/
inductive Refusal
  | rv (e : Err)
  | tooSmall (need : Nat)
  deriving DecidableEq, Repr

abbrev OpM (P : Provider) := ExceptT Refusal (StateM (Running P))

namespace OpM

variable {P : Provider}

def refuse {α : Type} (e : Err) : OpM P α := throw (.rv e)

def refuseIf (c : Bool) (e : Err) : OpM P Unit := failIf c (.rv e)

def ofExcept {α : Type} : Except Err α → OpM P α
  | .ok a => pure a
  | .error e => refuse e

/-- `op->active = 0`. -/
def stop : OpM P Unit := modify ({ · with active := false })

/-- A size query and a short buffer leave the operation running; any other answer of a
call that goes through here ends it. -/
def ending (x : OpM P Reply) : OpM P Reply :=
  tryCatch
    (do
      let r ← x
      match r with
      | .size n => pure (.size n)
      | r => do stop; pure r)
    fun
      | .tooSmall n => throw (.tooSmall n)
      | .rv e => do stop; refuse e

/-- Only an error ends the operation. -/
def endingOnError {α : Type} (x : OpM P α) : OpM P α :=
  tryCatch x fun
    | .tooSmall n => throw (.tooSmall n)
    | .rv e => do stop; refuse e

/-- The size query and the length check before output is produced. -/
def sized (out : OutArg) (need : Nat) (k : OpM P Reply) : OpM P Reply :=
  match out with
  | .noLen => refuse .argumentsBad
  | .query => pure (.size need)
  | .room n => if n < need then throw (.tooSmall need) else k

/-- `op_require_ctx_auth`. -/
def requireCtxAuth (s : Setup) : OpM P Unit := do
  let l ← get
  if s.ctxAuthRequired ∧ !l.ctxAuthDone then do
    stop
    refuse .userNotLoggedIn
  else pure ()

end OpM

/-- A call on a running operation: what is checked before the slot is looked at, and the
call itself. -/
def Op.call {P : Provider} (op : Op P) (pre : Except Err Unit) (body : Setup → OpM P Reply) :
    Except Refusal Reply × Op P :=
  match pre with
  | .error e => (.error (.rv e), op)
  | .ok () =>
    if op.live.active then
      let r := exec (body op.params.setup) op.live
      (r.1, { op with live := r.2 })
    else (.error (.rv .operationNotInitialized), op)

/-! ## `C_*Init` -/

/-- What a mechanism asks of the type of its key. -/
inductive KeyTypeRule
  | any
  | exactly (kt : UInt32)
  | symmetric
  deriving DecidableEq, Repr

/-- The table of `fhsm_check_key_mech_type`. -/
def keyTypeRule (mech : UInt64) : KeyTypeRule :=
  if mech ∈ [0x0001, 0x0003, 0x0009, 0x000D, 0x0006, 0x0040, 0x0041, 0x0042, 0x0043, 0x0044,
      0x0045, 0x000E, 0x0047] then .exactly 0x00
  else if mech ∈ [0x1041, 0x1042, 0x1043, 0x1044, 0x1045, 0x1046] then .exactly 0x03
  else if mech = 0x1057 then .exactly 0x40
  else if mech ∈ [0x001D, 0x001F, 0x0023, 0x0024, 0x0025, 0x0026, 0x0027, 0x0028, 0x0029, 0x002A,
      0x002B, 0x002C] then .exactly 0x4A
  else if mech ∈ [0x002E, 0x0034, 0x0036, 0x0037, 0x0038, 0x0039, 0x003A, 0x003B, 0x003C, 0x003D,
      0x003E, 0x003F] then .exactly 0x4B
  else if mech ∈ [0x1081, 0x1082, 0x1085, 0x1086, 0x1087, 0x1088, 0x108A, 0x108E] then
    .exactly 0x1F
  else if mech = 0x0133 then .exactly 0x15
  else if mech ∈ [0x0360, 0x0362, 0x0363, 0x0364] then .exactly 0x10
  else if mech ∈ [0x0251, 0x0261, 0x0271, 0x0256, 0x02B1, 0x02C1, 0x02D1, 0x02B6, 0x0221] then
    .symmetric
  else .any

/-- `fhsm_check_key_mech_type`. -/
def checkKeyMechType (t : Token) (hKey mech : UInt64) : Except Err Unit :=
  match t.objectGet hKey.toUInt32 with
  | .error _ => .ok ()
  | .ok o =>
    match keyTypeRule mech with
    | .any => .ok ()
    | .exactly kt => if o.keyType = kt then .ok () else .error .keyTypeInconsistent
    | .symmetric =>
      if o.keyType = 0x00 ∨ o.keyType = 0x03 ∨ o.keyType = 0x40 then .error .keyTypeInconsistent
      else .ok ()

/-- The checks of a keyed `C_*Init` before it reaches its slot. -/
def keyedGate {P : Provider} (env : OpEnv P) (m : Option Mech) (hKey : UInt64)
    (valid : UInt64 → Bool) (usage : Usage) : Except Err Mech := do
  match env.tok with
  | none => .error .sessionHandleInvalid
  | some t =>
    match m with
    | none => .error .argumentsBad
    | some m => do
      if valid m.type then .ok () else .error .mechanismInvalid
      let _ ← t.requireKey hKey
      checkKeyMechType t hKey m.type
      t.checkAllowedMech hKey m.type
      t.checkUsage hKey usage
      .ok m

/-- `C_EncryptInit`, `C_DecryptInit`, `C_SignInit` and `C_VerifyInit` on their slots. -/
def keyedInit {P : Provider} (env : OpEnv P) (m : Option Mech) (hKey : UInt64)
    (valid : UInt64 → Bool) (usage : Usage) (op : Op P) : Except Refusal Reply × Op P :=
  match keyedGate env m hKey valid usage with
  | .error e => (.error (.rv e), op)
  | .ok m =>
    match exec (opInit env m hKey) op with
    | (.ok (), op') => (.ok .done, op')
    | (.error e, op') => (.error (.rv e), op')

end FreeHsm
