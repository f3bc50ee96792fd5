import FreeHsm.Pkcs11.Digest
import FreeHsm.Pkcs11.Kbkdf
import FreeHsm.Pkcs11.Transport

/-!
# C_DeriveKey

Four families of mechanisms: the key derivation functions of SP 800-108, HKDF, the
mechanisms that combine the bytes of a key with other bytes, and ECDH. Two of them may
read a second key: HKDF a salt key, and `CKM_CONCATENATE_BASE_AND_KEY` the key that is
appended.
-/

namespace FreeHsm

open TokenM StateExcept

/-! ## Parameters -/

def ckmConcatBaseKey : UInt64 := 0x360
def ckmConcatBaseData : UInt64 := 0x362
def ckmConcatDataBase : UInt64 := 0x363
def ckmXorBaseData : UInt64 := 0x364
def ckmHkdfDerive : UInt64 := 0x402A
def ckmHkdfData : UInt64 := 0x402B
def ckmEcdh1Derive : UInt64 := 0x1050
def ckmEcdh1CofactorDerive : UInt64 := 0x1051

/-- `CK_HKDF_PARAMS`. -/
structure HkdfParams where
  extract : Bool
  expand : Bool
  prfHash : UInt64
  saltType : UInt64
  salt : Buf
  hSaltKey : UInt64
  info : Buf
  deriving DecidableEq

/-- `CK_ECDH1_DERIVE_PARAMS`. -/
structure EcdhParams where
  kdf : UInt64
  publicData : Buf
  deriving DecidableEq

/-- A derivation mechanism. The fields are the readings of its parameter as the structure that
each family takes it for, if it is there and long enough. -/
structure DeriveMech where
  type : UInt64
  kdf : Option KdfParams := none
  hkdf : Option HkdfParams := none
  key : Option UInt64 := none
  data : Option Buf := none
  ecdh : Option EcdhParams := none

/-- A parameter that has to be there. -/
def requireParam {α : Type} (p : Option α) : Except Err α :=
  p.elim (.error .mechanismParamInvalid) .ok

/-- The mode of an SP 800-108 mechanism. -/
def kbkdfMode (mech : UInt64) : Option IteratedPrf.Mode :=
  if mech = 0x3AC then some .counter
  else if mech = 0x3AD then some .feedback
  else if mech = 0x3AE then some .doublePipeline
  else none

/-- The key of a derivation, if its class is right. -/
def Token.deriveKeyObject (tok : Token) (h : UInt64) (cls : UInt32) : Except Err Obj := do
  let o ← tok.objectGet h.toUInt32
  if o.cls ≠ cls then .error .keyTypeInconsistent else return o

section

variable {P : Provider} (L : KeyLib P)

/-! ## HKDF -/

variable (tok : Token) (m : DeriveMech)

/-- The salt of HKDF. Of a salt key only class and usage are looked at. -/
def hkdfSalt (p : HkdfParams) : Except Err Bytes :=
  if p.saltType = 1 then .ok []
  else if p.saltType = 2 then
    if p.salt.usable then .ok p.salt.data else .error .mechanismParamInvalid
  else if p.saltType = 4 then do
    let o ← tok.deriveKeyObject p.hSaltKey ckoSecretKey
    tok.checkUsage p.hSaltKey .derive
    return o.value
  else .error .mechanismParamInvalid

/-- `hp.bExtract` and `hp.bExpand`. -/
def HkdfParams.mode (p : HkdfParams) : Except Err HkdfMode :=
  match p.extract, p.expand with
  | true, true => .ok .extractAndExpand
  | true, false => .ok .extractOnly
  | false, true => .ok .expandOnly
  | false, false => .error .mechanismParamInvalid

/-- The length of the output. -/
def hkdfLen (mode : HkdfMode) (h : Nat) (t : Template) : Except Err Nat := do
  let len ←
    if mode = .extractOnly ∨ (t.findAttr ckaValueLen).isNone then .ok h
    else requiredLen t .templateIncomplete
  if len = 0 ∨ (if mode = .extractOnly then h else 255 * h) < len then
    .error .attributeValueInvalid
  else return len

/-- The HKDF part of `C_DeriveKey`. -/
def hkdfSecret (hBase : UInt64) (t : Template) : Except Err (Bytes × DeriveFrom) := do
  let p ← requireParam m.hkdf
  let mode ← p.mode
  match digestMechToHash p.prfHash with
  | none => .error .mechanismParamInvalid
  | some md =>
    if md = .md5 ∧ L.strict then .error .mechanismParamInvalid
    else do
      let base ← tok.deriveKeyObject hBase ckoSecretKey
      let salt ← hkdfSalt tok p
      if !p.info.usable then .error .mechanismParamInvalid
      else do
        let len ← hkdfLen mode md.size t
        let okm ← L.hkdf mode md base.value salt p.info.data len
        return (okm.toList,
          { dflt := if m.type = ckmHkdfData then ckoData else ckoSecretKey, base := hBase })

/-! ## Combining bytes -/

/-- `FHSM_DERIVE_MAX`. -/
def deriveMax : Nat := 4096

/-- The mechanisms that combine the bytes of a key with other bytes. -/
def isCombiner (mech : UInt64) : Bool :=
  mech == ckmConcatBaseKey || mech == ckmConcatBaseData || mech == ckmConcatDataBase ||
    mech == ckmXorBaseData

/-- The bytes to combine with, and the handle of the key they are from. -/
def combineWith : Except Err (Bytes × UInt64) :=
  if m.type = ckmConcatBaseKey then do
    let h2 ← requireParam m.key
    let o ← tok.deriveKeyObject h2 ckoSecretKey
    tok.checkUsage h2 .derive
    return (o.value, h2)
  else do
    let data ← requireParam m.data
    if data.usable then return (data.data, 0) else .error .mechanismParamInvalid

/-- The bytes of a combination. -/
def combineBytes (mech : UInt64) (base other : Bytes) : Bytes :=
  if mech = ckmXorBaseData then
    (List.range other.length).map fun i => (if i < base.length then byteAt base i else 0) ^^^ byteAt other i
  else if mech = ckmConcatDataBase then other ++ base
  else base ++ other

/-- The combining part of `C_DeriveKey`. -/
def combineSecret (hBase : UInt64) : Except Err (Bytes × DeriveFrom) := do
  let base ← tok.deriveKeyObject hBase ckoSecretKey
  checkKeyMechType tok hBase m.type
  let (other, base2) ← combineWith tok m
  let secret := combineBytes m.type base.value other
  if secret.length = 0 ∨ deriveMax < secret.length then .error .mechanismParamInvalid
  else if !P.alloc L.seed secret.length then .error .hostMemory
  else return (secret, { dflt := ckoSecretKey, base := hBase, base2 := base2, combines := true })

/-! ## ECDH -/

/-- `FHSM_ECDH_Z_MAX`. -/
def ecdhZMax : Nat := 128

/-- The ECDH part of `C_DeriveKey`. -/
def ecdhSecret (hBase : UInt64) : Except Err (Bytes × DeriveFrom) :=
  match m.ecdh with
  | none => .error .argumentsBad
  | some p =>
    if p.kdf ≠ 1 ∨ p.publicData.isNull ∨ p.publicData.len = 0 then .error .argumentsBad
    else do
      let base ← tok.deriveKeyObject hBase ckoPrivateKey
      let isEcm : Bool := base.keyType == ckkMontgomery
      if isEcm && (L.strict || !L.ecmAvailable) then .error .mechanismInvalid
      else if !isEcm && base.keyType != ckkEc then .error .keyTypeInconsistent
      else do
        let z ← L.ecdh isEcm base.value p.publicData.data
        if z.length = 0 ∨ ecdhZMax < z.length then .error .functionFailed
        else return (z, { dflt := ckoSecretKey, base := hBase })

/-! ## The function -/

/-- The checks of `C_DeriveKey` before the mechanism. -/
def deriveGate (c : Caller) (tok : Token) (mech hBase : UInt64) (arg : TemplateArg) :
    Except Err Template :=
  if L.errorState then .error .functionFailed
  else do
    let t ← checkCreationTemplate c arg
    checkRoToken (some c.flags) t
    tok.checkAllowedMech hBase mech
    tok.checkNestedTmpl hBase .derive t
    tok.checkUsage hBase .derive
    if c.role = .none then .error .userNotLoggedIn else return t

/-- The secret of a derivation by a mechanism other than those of SP 800-108. -/
def deriveSecret (hBase : UInt64) (t : Template) : Except Err (Bytes × DeriveFrom) :=
  if m.type = ckmHkdfDerive ∨ m.type = ckmHkdfData then hkdfSecret L tok m hBase t
  else if isCombiner m.type then combineSecret L tok m hBase
  else if m.type = ckmEcdh1Derive ∨ m.type = ckmEcdh1CofactorDerive then ecdhSecret L tok m hBase
  else .error .mechanismInvalid

/-- `C_DeriveKey` on an open session: the handles of the new objects. -/
def deriveKey (C : Crypto) (env : Envs) (c : Caller) (m : DeriveMech) (hBase : UInt64)
    (arg : TemplateArg) : TokenM (List UInt32) := do
  let tok := (← get).tok
  let t ← check (deriveGate L c tok m.type hBase arg)
  match kbkdfMode m.type with
  | some mode => kbkdfDerive C L.toKeyEnv env c mode m.kdf hBase arg
  | none => do
    let (secret, d) ← check (deriveSecret L tok m hBase t)
    return [← deriveStoreSecret C env c t secret d]

end

end FreeHsm
