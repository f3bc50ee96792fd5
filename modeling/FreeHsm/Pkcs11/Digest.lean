import FreeHsm.Pkcs11.Cipher

/-!
# Digests

`C_DigestInit`, `C_Digest`, `C_DigestUpdate`, `C_DigestKey` and `C_DigestFinal`. Of
`fhsm_op_t` they use four fields.
-/

namespace FreeHsm

open StateExcept

/-- The part of `fhsm_op_t` that the digest functions use. -/
structure DigestOp (P : Provider) where
  active : Bool := false
  mechanism : UInt32 := 0
  /-- `op->hash`; the zero of fresh memory names no digest. -/
  hash : Option MdAlg := none
  mdCtx : Option P.Md := none

abbrev DigestM (P : Provider) := ExceptT Refusal (StateM (DigestOp P))

/-- `digest_mech_to_hash`. -/
def digestMechToHash (mech : UInt64) : Option MdAlg :=
  if mech = 0x250 then some .sha256
  else if mech = 0x260 then some .sha384
  else if mech = 0x270 then some .sha512
  else if mech = 0x255 then some .sha224
  else if mech = 0x048 then some .sha512x224
  else if mech = 0x04C then some .sha512x256
  else if mech = 0x2B5 then some .sha3x224
  else if mech = 0x2B0 then some .sha3x256
  else if mech = 0x2C0 then some .sha3x384
  else if mech = 0x2D0 then some .sha3x512
  else if mech = 0x220 then some .sha1
  else if mech = 0x210 then some .md5
  else none

/-- The digests a FIPS build refuses. -/
def MdAlg.nonApproved (md : MdAlg) : Bool := md == .sha1 || md == .md5

namespace DigestM

variable {P : Provider}

def refuse {α : Type} (e : Err) : DigestM P α := throw (.rv e)

def refuseIf (c : Bool) (e : Err) : DigestM P Unit := failIf c (.rv e)

def stop : DigestM P Unit := modify ({ · with active := false })

/-- `digest_update_fail`. -/
def orUpdateFail {α : Type} (x : DigestM P α) : DigestM P α :=
  tryCatch x fun e => do
    modify ({ · with active := false, mdCtx := none })
    throw e

end DigestM

section

variable {P : Provider} (env : OpEnv P)

open DigestM

/-- `fhsm_hash_oneshot`. -/
def hashOneshot (md : MdAlg) (data : Bytes) : Except Err Bytes :=
  if env.errorState then .error .functionFailed
  else if !P.fetch env.seed (.md md) then .error .mechanismInvalid
  else if !P.ctxNew env.seed then .error .hostMemory
  else match P.mdInit env.seed md with
    | none => .error .functionFailed
    | some c =>
      match P.mdUpdate env.seed c data with
      | (false, _) => .error .functionFailed
      | (true, c) => (P.mdFinal env.seed c).elim (.error .functionFailed) .ok

/-- `C_DigestInit`. The digest is written before the last two refusals. -/
def digestInit (m : Option Mech) : DigestM P Reply := do
  refuseIf env.errorState .functionFailed
  refuseIf env.tok.isNone .sessionHandleInvalid
  match m with
  | none => refuse .argumentsBad
  | some m => do
    let active ← (·.active) <$> get
    refuseIf active .operationActive
    refuseIf (!m.param.isNull || m.param.len != 0) .mechanismParamInvalid
    match digestMechToHash m.type with
    | none => refuse .mechanismInvalid
    | some md => do
      modify ({ · with hash := some md })
      refuseIf (md.nonApproved && env.strict) .mechanismInvalid
      refuseIf (!P.fetch env.seed (.md md)) .mechanismInvalid
      modify ({ · with mdCtx := none, active := true, mechanism := m.type.toUInt32 })
      pure .done

/-- The digest of a running operation. -/
def runningDigest : DigestM P MdAlg := do
  let op ← get
  match op.active, op.hash with
  | true, some md => pure md
  | _, _ => refuse .operationNotInitialized

/-- The end of a digest operation: its one-shot result. -/
def finishOneshot (md : MdAlg) (data : Bytes) : DigestM P Reply := do
  stop
  match hashOneshot env md data with
  | .error e => refuse e
  | .ok d => pure (.data d)

/-- The size query and the length check. -/
def sizedDigest (out : OutArg) (need : Nat) (k : DigestM P Reply) : DigestM P Reply :=
  match out with
  | .noLen => refuse .argumentsBad
  | .query => pure (.size need)
  | .room n => if n < need then throw (.tooSmall need) else k

/-- `C_Digest`. A context of earlier updates is neither used nor freed. -/
def digest (data : Buf) (out : OutArg) : DigestM P Reply := do
  refuseIf (out == .noLen) .argumentsBad
  let md ← runningDigest
  if inputMax < data.len then do
    stop
    refuse .dataLenRange
  else if data.dangling then do
    stop
    refuse .argumentsBad
  else sizedDigest out md.size (finishOneshot env md data.data)

/-- The digest context of the slot, or a new one. -/
def digestCtx (md : MdAlg) : DigestM P P.Md := do
  let op ← get
  match op.mdCtx with
  | some c => pure c
  | none => do
    refuseIf (!P.ctxNew env.seed) .hostMemory
    refuseIf (!P.fetch env.seed (.md md)) .functionFailed
    match P.mdInit env.seed md with
    | none => refuse .functionFailed
    | some c => do
      modify ({ · with mdCtx := some c })
      pure c

/-- `C_DigestUpdate`. -/
def digestUpdate (part : Buf) : DigestM P Reply := do
  let md ← runningDigest
  orUpdateFail do
    refuseIf (inputMax < part.len) .dataLenRange
    refuseIf part.dangling .argumentsBad
    let c ← digestCtx env md
    match P.mdUpdate env.seed c part.data with
    | (ok, c) => do
      modify ({ · with mdCtx := some c })
      refuseIf (!ok) .functionFailed
      pure .done

/-- `C_DigestKey`: a refused key leaves the operation running, and so does a failed update. -/
def digestKey (hKey : UInt64) : DigestM P Reply := do
  let md ← runningDigest
  match env.tok with
  | none => refuse .sessionHandleInvalid
  | some t => do
    let mech ← (·.mechanism) <$> get
    match t.checkAllowedMech hKey mech.toUInt64 with
    | .error e => refuse e
    | .ok () => pure ()
    refuseIf ((t.objects.find? hKey.toUInt32).any Obj.sensitive) .keyIndigestible
    match t.objectGet hKey.toUInt32 with
    | .error e => refuse e
    | .ok o => do
      refuseIf (o.cls != ckoSecretKey) .keyIndigestible
      let c ← orUpdateFail (digestCtx env md)
      match P.mdUpdate env.seed c o.value with
      | (ok, c) => do
        modify ({ · with mdCtx := some c })
        refuseIf (!ok) .functionFailed
        pure .done

/-- `C_DigestFinal`. -/
def digestFinal (out : OutArg) : DigestM P Reply := do
  let md ← runningDigest
  sizedDigest out md.size do
    let op ← get
    match op.mdCtx with
    | none => finishOneshot env md []
    | some c => do
      modify ({ · with active := false, mdCtx := none })
      match P.mdFinal env.seed c with
      | none => refuse .functionFailed
      | some d => pure (.data d)

end

end FreeHsm
