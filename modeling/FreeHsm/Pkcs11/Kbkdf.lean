import FreeHsm.ForStd.IteratedPrf
import FreeHsm.Pkcs11.Creation
import FreeHsm.Pkcs11.KeyLib
import FreeHsm.Pkcs11.Signature

/-!
# Key derivation by SP 800-108

`kbkdf_derive`: the three SP 800-108 mechanisms of `C_DeriveKey`. A caller describes
the input of the PRF by a list of fields: the iteration variable, a counter, the
length of the output, and byte strings, in any order. One call derives one key or
several; each key starts at a multiple of the PRF's output length.

`kbkdfPlan` is everything up to the bytes of the keys, which does not change the
token; `kbkdfStore` makes the objects.
-/

namespace FreeHsm

open ByteLayout TokenM IteratedPrf

/-! ## The mechanism parameter -/

/-- A caller's pointer to an array and the number of its entries. -/
inductive ArrayArg (α : Type)
  | null (count : Nat)
  | list (entries : List α)

/-- `CK_PRF_DATA_PARAM`. -/
structure PrfDataParam where
  type : UInt64
  value : Buf
  deriving DecidableEq

/-- `CK_DERIVED_KEY`: the template, and whether there is room for the handle. -/
structure DerivedKey where
  tmpl : TemplateArg
  hasHandle : Bool

/-- `CK_SP800_108_KDF_PARAMS`, and the two fields that `CK_SP800_108_FEEDBACK_KDF_PARAMS` has
besides. -/
structure KdfParams where
  prfType : UInt64
  dataParams : ArrayArg PrfDataParam
  iv : Buf := .null 0
  additional : ArrayArg DerivedKey

/-- `CK_SP800_108_ITERATION_VARIABLE`. -/
def iterationVariable : UInt64 := 1
/-- `CK_SP800_108_OPTIONAL_COUNTER`. -/
def optionalCounter : UInt64 := 2
/-- `CK_SP800_108_DKM_LENGTH`. -/
def dkmLength : UInt64 := 3
/-- `CK_SP800_108_BYTE_ARRAY`. -/
def byteArray : UInt64 := 4

/-- `FHSM_KBKDF_MAX_DATA_PARAMS`. -/
def kbkdfMaxDataParams : Nat := 64
/-- `FHSM_KBKDF_MAX_FIELD`. -/
def kbkdfMaxField : Nat := 65536
/-- `FHSM_KBKDF_MAX_KEYS`. -/
def kbkdfMaxKeys : Nat := 32
/-- `FHSM_KBKDF_MAX_DKM`. -/
def kbkdfMaxDkm : Nat := 1024 * 1024

/-- How an integer is written: `ulWidthInBits` and `bLittleEndian`. -/
structure IntFormat where
  bits : Nat
  le : Bool
  deriving DecidableEq, Repr

/-- `kbkdf_update_int`. -/
def IntFormat.encode (f : IntFormat) (v : Nat) : Bytes := intBytes v (f.bits / 8) f.le

namespace PrfDataParam

/-- The value as a `CK_SP800_108_COUNTER_FORMAT`. -/
def counterFormat (p : PrfDataParam) : IntFormat :=
  ⟨(u64At p.value.data 8).toNat, byteAt p.value.data 0 != 0⟩

/-- The value as a `CK_SP800_108_DKM_LENGTH_FORMAT`. -/
def lengthFormat (p : PrfDataParam) : IntFormat :=
  ⟨(u64At p.value.data 16).toNat, byteAt p.value.data 8 != 0⟩

/-- `dkmLengthMethod`. -/
def lengthMethod (p : PrfDataParam) : UInt64 := u64At p.value.data 0

end PrfDataParam

/-- `CK_SP800_108_DKM_LENGTH_SUM_OF_KEYS`. -/
def sumOfKeys : UInt64 := 1
/-- `CK_SP800_108_DKM_LENGTH_SUM_OF_SEGMENTS`. -/
def sumOfSegments : UInt64 := 2

/-! ## `kbkdf_check_fields` -/

/-- The counts of `kbkdf_check_fields`: each is refused a second time. -/
structure FieldsSeen where
  iter : Bool := false
  counter : Bool := false
  dkm : Bool := false
  deriving DecidableEq

/-- A width of whole bytes, up to a limit. -/
def widthOk (bits limit : Nat) : Bool := bits != 0 && bits ≤ limit && bits % 8 == 0

/-- The check of a counter format. -/
def counterFormatOk (p : PrfDataParam) : Bool :=
  !p.value.isNull && p.value.len == 16 && widthOk p.counterFormat.bits 32

/-- The check of a length format. -/
def lengthFormatOk (p : PrfDataParam) : Bool :=
  !p.value.isNull && p.value.len == 24 &&
    (p.lengthMethod == sumOfKeys || p.lengthMethod == sumOfSegments) &&
    widthOk p.lengthFormat.bits 64

/-- One round of the loop of `kbkdf_check_fields`. In counter mode the iteration variable is the
counter, and a second one is refused. -/
def checkField (mode : Mode) (seen : FieldsSeen) (p : PrfDataParam) : Option FieldsSeen :=
  if p.type = iterationVariable then
    if seen.iter then none
    else if mode = .counter then
      if counterFormatOk p then some { seen with iter := true } else none
    else if p.value.isNull ∧ p.value.len = 0 then some { seen with iter := true } else none
  else if p.type = optionalCounter then
    if mode = .counter ∨ seen.counter then none
    else if counterFormatOk p then some { seen with counter := true } else none
  else if p.type = dkmLength then
    if !seen.dkm ∧ lengthFormatOk p then some { seen with dkm := true } else none
  else if p.type = byteArray then
    if p.value.isNull ∨ p.value.len = 0 ∨ kbkdfMaxField < p.value.len then none else some seen
  else none

/-- `kbkdf_check_fields`. -/
def checkFields (mode : Mode) : ArrayArg PrfDataParam → Except Err (List PrfDataParam)
  | .null _ => .error .mechanismParamInvalid
  | .list ps =>
    if ps.length = 0 ∨ kbkdfMaxDataParams < ps.length then .error .mechanismParamInvalid
    else match ps.foldlM (checkField mode) {} with
      | some seen => if seen.iter then .ok ps else .error .mechanismParamInvalid
      | none => .error .mechanismParamInvalid

/-! ## `kbkdf_check_ranges` -/

/-- The numbers that go into the fields: PRF calls, bits of all keys, bits of all calls. -/
structure KdfSizes where
  segments : Nat
  keysBits : Nat
  segsBits : Nat
  deriving DecidableEq

/-- The value of a length field. -/
def KdfSizes.dkm (z : KdfSizes) (p : PrfDataParam) : Nat :=
  if p.lengthMethod = sumOfKeys then z.keysBits else z.segsBits

/-- The width of a field and the largest value it has to hold; no width is zero. -/
def KdfSizes.range (z : KdfSizes) (p : PrfDataParam) : Nat × Nat :=
  if (p.type = iterationVariable ∧ !p.value.isNull) ∨ p.type = optionalCounter then
    (p.counterFormat.bits, z.segments)
  else if p.type = dkmLength then (p.lengthFormat.bits, z.dkm p)
  else (0, 0)

/-- `kbkdf_check_ranges`. -/
def checkRanges (ps : List PrfDataParam) (z : KdfSizes) : Except Err Unit :=
  if ps.any fun p => (z.range p).1 != 0 && (z.range p).1 < 64 && (z.range p).2 >>> (z.range p).1 != 0
  then .error .mechanismParamInvalid else .ok ()

/-! ## `kbkdf_run` -/

/-- What a field puts into the PRF: `kbkdf_input`. The input that starts the second sequence of the
double pipeline has neither the iteration variable nor a counter. -/
def fieldInput (mode : Mode) (z : KdfSizes) (i : Nat) (iter : Bytes) (forIv : Bool)
    (p : PrfDataParam) : Option Bytes :=
  if p.type = iterationVariable then
    if forIv then none
    else if mode = .counter then some (p.counterFormat.encode i)
    else if iter.length = 0 then none else some iter
  else if p.type = optionalCounter then
    if forIv then none else some (p.counterFormat.encode i)
  else if p.type = dkmLength then some (p.lengthFormat.encode (z.dkm p))
  else some p.value.data

/-- `kbkdf_input`: the pieces given to the MAC. -/
def kbkdfInput (mode : Mode) (z : KdfSizes) (ps : List PrfDataParam) (i : Nat) (iter : Bytes)
    (forIv : Bool) : List Bytes :=
  ps.filterMap (fieldInput mode z i iter forIv)

section

variable {P : Provider} (K : KeyEnv P)

/-- One piece of the input of a PRF call. -/
def prfUpdate (c : P.Mac) (b : Bytes) : Option P.Mac :=
  match P.macUpdate K.seed c b with
  | (true, c) => some c
  | (false, _) => none

/-- A PRF call: a MAC over some pieces, of the right length. -/
def prfCall (spec : MacSpec) (key : Bytes) (h : Nat) (pieces : List Bytes) : Option Bytes := do
  let c ← P.macInit K.seed spec key
  let c ← pieces.foldlM (prfUpdate K) c
  (P.macFinal K.seed c).filter (·.length == h)

/-- The loop of `kbkdf_run` from call `i` on. `a` is the buffer of the second sequence, `prev` the
block before this one. -/
def kbkdfLoop (prf : List Bytes → Option Bytes) (mode : Mode) (z : KdfSizes)
    (ps : List PrfDataParam) (iv : Bytes) : (n i : Nat) → (a prev : Bytes) → Option Bytes
  | 0, _, _, _ => some []
  | n + 1, i, a, prev => do
    let a ← match mode with
      | .doublePipeline => prf (if i = 1 then kbkdfInput mode z ps 0 [] true else [a])
      | _ => some a
    let iter := match mode with
      | .doublePipeline => a
      | .feedback => if i = 1 then iv else prev
      | .counter => []
    let seg ← prf (kbkdfInput mode z ps i iter false)
    let rest ← kbkdfLoop prf mode z ps iv n (i + 1) a seg
    some (seg ++ rest)

/-- `kbkdf_run`. -/
def kbkdfRun (spec : MacSpec) (key : Bytes) (h : Nat) (mode : Mode) (ps : List PrfDataParam)
    (iv : Bytes) (z : KdfSizes) : Option Bytes :=
  kbkdfLoop (prfCall K spec key h) mode z ps iv z.segments 1 [] []

/-! ## `kbkdf_derive` -/

/-- The PRF of a base key, with its output length. -/
def kbkdfPrf (prfType : UInt64) (o : Obj) : Except Err (MacSpec × Nat) :=
  if prfType = 0x108A then
    if o.keyType ≠ ckkAes ∨ (aesBits? o.value.length).isNone then .error .keyTypeInconsistent
    else .ok (.cmac o.value.length, 16)
  else if prfType = 0x138 then
    if K.strict || K.fipsMode then .error .mechanismParamInvalid
    else if o.keyType ≠ ckkDes3 ∨ o.value.length ≠ 24 then .error .keyTypeInconsistent
    else .ok (.cmacDes3, 8)
  else if 0xFFFFFFFF < prfType then .error .mechanismParamInvalid
  else match hmacHashOf prfType.toUInt32 with
    | some md => .ok (.hmac md, md.size)
    | none => .error .mechanismParamInvalid

/-- `kbkdf_check_template`: the template of a key, and its length. -/
def kbkdfCheckTemplate (c : Caller) (tok : Token) (hBase : UInt64) (arg : TemplateArg) :
    Except Err (Template × Nat) := do
  let t ← checkTemplate arg
  checkTrustedAttr c.role t
  checkBoolAttrLengths t
  checkUlongAttrLengths t
  checkRoToken (some c.flags) t
  tok.checkNestedTmpl hBase .derive t
  if (t.ulong? ckaClass).any (· != ckoSecretKey.toUInt64) then .error .templateInconsistent
  else match t.ulong? ckaValueLen with
    | none => .error .templateIncomplete
    | some req =>
      if req = 0 ∨ kbkdfMaxDkm < req.toNat then .error .attributeValueInvalid
      else if t.ulong? ckaKeyType = some ckkAes.toUInt64 ∧ (aesBits? req.toNat).isNone then
        .error .attributeValueInvalid
      else .ok (t, req.toNat)

/-- PRF calls for a key. -/
def segmentsFor (h len : Nat) : Nat := (len + h - 1) / h

/-- The sizes of a derivation of keys of some lengths. -/
def kdfSizes (h : Nat) (lens : List Nat) : KdfSizes :=
  let segments := (lens.map (segmentsFor h)).sum
  ⟨segments, (lens.map (· * 8)).sum, segments * h * 8⟩

/-- The bytes of the keys. -/
def cutKeys (h : Nat) : List Nat → Bytes → List Bytes
  | [], _ => []
  | len :: lens, okm => okm.take len :: cutKeys h lens (okm.drop (segmentsFor h len * h))

/-- The additional keys of a derivation. -/
def additionalKeys : ArrayArg DerivedKey → Except Err (List DerivedKey)
  | .null 0 => .ok []
  | .null _ => .error .mechanismParamInvalid
  | .list ks =>
    if ks.length = 0 ∨ kbkdfMaxKeys < ks.length ∨ ks.any (!·.hasHandle) then
      .error .mechanismParamInvalid
    else .ok ks

/-- The parameter, if its pointer is there and its size is the one of its mechanism. -/
def kdfParams (mode : Mode) : Option KdfParams → Except Err KdfParams
  | none => .error .mechanismParamInvalid
  | some p =>
    if mode = .feedback ∧ (p.iv.dangling ∨ (!p.iv.isNull ∧ p.iv.len = 0) ∨ kbkdfMaxField < p.iv.len)
    then .error .mechanismParamInvalid
    else .ok p

/-- `kbkdf_derive` up to the bytes of the keys. -/
def kbkdfPlan (c : Caller) (tok : Token) (mode : Mode) (param : Option KdfParams) (hBase : UInt64)
    (arg : TemplateArg) : Except Err (List (Template × Bytes)) := do
  let p ← kdfParams mode param
  let extra ← additionalKeys p.additional
  let ps ← checkFields mode p.dataParams
  let o ← tok.objectGet hBase.toUInt32
  if o.cls ≠ ckoSecretKey then .error .keyTypeInconsistent
  else do
    let (spec, h) ← kbkdfPrf K p.prfType o
    let keys ← (arg :: extra.map (·.tmpl)).mapM (kbkdfCheckTemplate c tok hBase)
    let z := kdfSizes h (keys.map (·.2))
    if kbkdfMaxDkm < z.segments * h then .error .attributeValueInvalid
    else do
      checkRanges ps z
      if !P.alloc K.seed (z.segments * h) then .error .hostMemory
      else if !(P.fetch K.seed (.mac spec.kind) && P.ctxNew K.seed) then .error .functionFailed
      else match kbkdfRun K spec o.value h mode ps p.iv.data z with
        | none => .error .functionFailed
        | some okm => .ok ((keys.map (·.1)).zip (cutKeys h (keys.map (·.2)) okm))

end

section

variable (C : Crypto)

/-- Destroy the keys that were made. -/
def destroyAll (env : Envs) : List UInt32 → TokenM Unit
  | [] => pure ()
  | handle :: handles => do
    ignored (object C (env 0) (.destroy handle))
    destroyAll (env.after 1) handles

/-- The loop of `kbkdf_derive` that makes the objects. `made` are those of the rounds before; they
are destroyed when a round fails. -/
def kbkdfStore (c : Caller) (d : DeriveFrom) :
    (env : Envs) → List (Template × Bytes) → (made : List UInt32) → TokenM (List UInt32)
  | _, [], made => pure made
  | env, (t, secret) :: keys, made => do
    let handle ← tryCatch (deriveStoreSecret C env c t secret d) fun e => do
      destroyAll C (env.after createCalls) made
      throw e
    kbkdfStore c d (env.after createCalls) keys (made ++ [handle])

/-- `kbkdf_derive`: the handles of the keys. -/
def kbkdfDerive {P : Provider} (K : KeyEnv P) (env : Envs) (c : Caller) (mode : Mode)
    (param : Option KdfParams) (hBase : UInt64) (arg : TemplateArg) : TokenM (List UInt32) := do
  let keys ← check (kbkdfPlan K c (← get).tok mode param hBase arg)
  kbkdfStore C c { dflt := ckoSecretKey, base := hBase } env keys []

end

end FreeHsm
