import FreeHsm.Pkcs11.Creation

/-!
# Reading and changing attributes

`C_GetAttributeValue`, and what `C_SetAttributeValue` looks at.

`Obj.report` is what `C_GetAttributeValue` finds for one attribute of an object. The
attributes that OpenSSL reads out of an encoded key or certificate come from `KeyView`.
-/

namespace FreeHsm

open TokenM StateExcept

/-! ## Attribute types of keys and certificates -/

def ckaIssuer : UInt64 := 0x81
def ckaSerialNumber : UInt64 := 0x82
def ckaSubject : UInt64 := 0x101
def ckaSignRecover : UInt64 := 0x109
def ckaVerifyRecover : UInt64 := 0x10B

/-- What OpenSSL reads out of encoded keys and certificates. -/
structure KeyView where
  /-- `extract_pubkey_attr`, for a class, a key type and a value; the flag asks for the printable
  name of an Edwards curve. -/
  publicAttr : UInt32 → UInt32 → Bytes → Bool → UInt64 → Option Bytes
  /-- `extract_cert_attr`. -/
  certAttr : Bytes → UInt64 → Option Bytes
  /-- The raw form of a post-quantum public key. -/
  rawPublic : Bytes → Option Bytes
  /-- `fhsm_pset_selector_of`. -/
  parameterSet : UInt32 → UInt32 → Bytes → Option UInt64

/-- What there is to read of an attribute. -/
inductive Report
  | bytes (b : Bytes)
  /-- A nested template. -/
  | entries (es : List PolicyAttr)
  | sensitive
  | invalid
  deriving DecidableEq

/-- A `CK_BBOOL`. -/
def Report.bbool (b : Bool) : Report := .bytes [if b then 1 else 0]

/-- Bytes that may not be there. -/
def Report.ofOption (b : Option Bytes) : Report := b.elim .invalid .bytes

namespace Obj

variable (o : Obj)

/-- A secret or private key. -/
def isSecret : Bool := o.cls == ckoSecretKey || o.cls == ckoPrivateKey

/-- A key that a KEM attribute is for. -/
def isKem (cls : UInt32) : Bool := o.keyType == ckkMlKem && o.cls == cls

/-- `fhsm_usage_bool`. -/
def usageBool (bit : UInt8) (dflt : Bool) : Bool :=
  if hasBit o.usageFlags usageValid then hasBit o.usageFlags bit else dflt

/-- The truth value of an attribute that has one. -/
def boolReport (type : UInt64) : Option Bool :=
  if type = ckaSensitive then some (hasBit o.flags objfSensitive)
  else if type = ckaExtractable then some (hasBit o.flags objfExtractable)
  else if type = ckaToken then some (o.ownerSession == 0)
  else if type = ckaPrivate then some !(o.cls == ckoPublicKey || o.cls == ckoCertificate)
  else if type = ckaModifiable then some !(hasBit o.flags objfUnmodifiable)
  else if type = ckaCopyable then some !(hasBit o.flags2 objf2NotCopyable)
  else if type = ckaDestroyable then some !(hasBit o.flags objfUndestroyable)
  else if type = ckaLocal then some (hasBit o.flags objfLocal)
  else if type = ckaAlwaysAuth then some (hasBit o.flags objfAlwaysAuth)
  else if type = ckaWrapWithTrusted then some (hasBit o.flags2 objf2WrapWithTrusted)
  else if type = ckaTrusted then some (hasBit o.flags objfTrusted)
  else if type = ckaAlwaysSensitive then
    some (o.sensitive && !hasBit o.flags3 objf3WasNotSensitive)
  else if type = ckaNeverExtractable then
    some (!o.extractable && !hasBit o.flags3 objf3WasExtractable)
  else if type = ckaEncrypt then some (o.usageBool usageEncrypt (o.cls != ckoPrivateKey))
  else if type = ckaVerify then some (o.usageBool usageVerify (o.cls != ckoPrivateKey))
  else if type = ckaWrap then some (o.usageBool usageWrap (o.cls != ckoPrivateKey))
  else if type = ckaDecrypt then some (o.usageBool usageDecrypt (o.cls != ckoPublicKey))
  else if type = ckaSign then some (o.usageBool usageSign (o.cls != ckoPublicKey))
  else if type = ckaUnwrap then some (o.usageBool usageUnwrap (o.cls != ckoPublicKey))
  else if type = ckaDerive then some (o.usageBool usageDerive false)
  else if type = ckaSignRecover ∨ type = ckaVerifyRecover then some false
  else if type = ckaEncapsulate ∧ o.isKem ckoPublicKey then
    some !(hasBit o.flags2 objf2NoEncapsulate)
  else if type = ckaDecapsulate ∧ o.isKem ckoPrivateKey then
    some !(hasBit o.flags2 objf2NoDecapsulate)
  else none

/-- `CKA_VALUE`: the value of a sensitive object, or of a key that may not leave, is kept back. -/
def valueReport (V : KeyView) : Report :=
  if o.sensitive || (o.isSecret && !o.extractable) then .sensitive
  else if o.cls = ckoPublicKey ∧ (pqcFamilyOf o.keyType.toUInt64).isSome then
    .ofOption (V.rawPublic o.value)
  else .bytes o.value

/-- A nested template that is there. -/
def tmplReport (which : TmplWhich) : Report :=
  if hasBit o.flags2 which.presentBit then .entries (o.tmpl which) else .invalid

/-- One attribute, as `C_GetAttributeValue` finds it. -/
def report (V : KeyView) (type : UInt64) : Report :=
  match o.boolReport type with
  | some b => .bbool b
  | none =>
    if type = ckaClass then .bytes (le64 o.cls.toUInt64)
    else if type = ckaKeyType then
      if o.cls = ckoCertificate then .invalid else .bytes (le64 o.keyType.toUInt64)
    else if type = ckaCertificateType then
      if o.cls ≠ ckoCertificate then .invalid else .bytes (le64 o.keyType.toUInt64)
    else if type = ckaValue then o.valueReport V
    else if type = ckaValueLen then .bytes (le64 (UInt64.ofNat o.value.length))
    else if type = ckaParameterSet then
      .ofOption ((V.parameterSet o.cls o.keyType o.value).map le64)
    else if type = ckaAllowedMechanisms then
      if hasBit o.flags2 objf2HasAllowedMech then .bytes (o.allowed.flatMap (le64 ·.toUInt64))
      else .invalid
    else if type = ckaWrapTemplate then o.tmplReport .wrap
    else if type = ckaUnwrapTemplate then o.tmplReport .unwrap
    else if type = ckaDeriveTemplate then o.tmplReport .derive
    else if [ckaModulusBits, ckaModulus, ckaPublicExponent, ckaEcPoint, ckaEcParams].contains type then
      .ofOption (V.publicAttr o.cls o.keyType o.value (hasBit o.flags3 objf3EdCurveName) type)
    else if type = ckaLabel then .bytes (cstr o.label.toList)
    else if type = ckaId then .bytes (o.id.toList.take o.idLen.toNat)
    else if type = ckaStartDate then .bytes (o.startDate.toList.take o.startDateLen.toNat)
    else if type = ckaEndDate then .bytes (o.endDate.toList.take o.endDateLen.toNat)
    else if type = ckaApplication then .bytes (o.application.toList.take o.applicationLen.toNat)
    else if [ckaSubject, ckaIssuer, ckaSerialNumber].contains type then
      .ofOption (if o.cls = ckoCertificate then V.certAttr o.value type else none)
    else .invalid

theorem report_of_bool {V : KeyView} {type : UInt64} {b : Bool} (h : o.boolReport type = some b) :
    o.report V type = .bbool b := by
  rw [report, h]

end Obj

/-! ## C_GetAttributeValue -/

/-- An attribute as it is asked for: the room for its value, and for the values of the entries of a
nested template. A null pointer is no room. -/
structure AttrQuery where
  type : UInt64
  room : Option Nat
  nested : List (Option Nat) := []
  deriving DecidableEq

/-- What is written for one attribute. -/
inductive AttrAnswer
  | size (n : Nat)
  | data (b : Bytes)
  | entries (es : List (UInt32 × AttrAnswer))
  /-- `CK_UNAVAILABLE_INFORMATION`. -/
  | unavailable
  deriving Repr

/-- Into a buffer of some room, if there is one. -/
def AttrAnswer.fill (room : Option Nat) (b : Bytes) : AttrAnswer :=
  match room with
  | none => .size b.length
  | some n => if n < b.length then .unavailable else .data b

/-- The return code of one attribute. -/
inductive AttrStatus
  | fine
  | tooSmall
  | sensitive
  | invalid
  deriving DecidableEq, Repr

/-- The attributes whose readers report a buffer that is too small as an attribute that is not
there. -/
def readByLibrary (type : UInt64) : Bool :=
  [ckaModulusBits, ckaModulus, ckaPublicExponent, ckaEcPoint, ckaEcParams, ckaSubject, ckaIssuer,
    ckaSerialNumber].contains type

/-- One round of the loop of `C_GetAttributeValue`. -/
def Obj.answer (o : Obj) (V : KeyView) (q : AttrQuery) : AttrStatus × AttrAnswer :=
  match o.report V q.type with
  | .invalid => (.invalid, .unavailable)
  | .sensitive => (.sensitive, .unavailable)
  | .bytes b =>
    match AttrAnswer.fill q.room b with
    | .unavailable => (if readByLibrary q.type then .invalid else .tooSmall, .unavailable)
    | a => (.fine, a)
  | .entries es =>
    let need := es.length * ckAttributeSize
    match q.room with
    | none => (.fine, .size need)
    | some n =>
      if n < need then (.tooSmall, .unavailable)
      else (.fine, .entries (es.zipIdx.map fun (e, k) =>
        (e.type, .fill ((q.nested[k]?).getD none) e.bytes)))

/-- The return code of `C_GetAttributeValue` from those of its attributes. -/
def attrRv (ss : List AttrStatus) : Rv :=
  if ss.contains .tooSmall then .err .bufferTooSmall
  else if ss.contains .sensitive then .err .attributeSensitive
  else if ss.contains .invalid then .err .attributeTypeInvalid
  else .ok

/-- The object a caller may see. -/
def Token.visibleObject (t : Token) (hObject : UInt64) : Except Err Obj :=
  match t.objectGet hObject.toUInt32 with
  | .error e => .error (objectLookupRv e)
  | .ok o => if t.objectAccessDenied o.cls then .error .objectHandleInvalid else .ok o

/-- `C_GetAttributeValue` on an open session. A null template has to be empty. -/
def getAttributeValue (V : KeyView) (t : Token) (hObject : UInt64) (isNull : Bool)
    (qs : List AttrQuery) : Rv × List AttrAnswer :=
  if maxTemplateAttrs < qs.length ∨ (isNull ∧ qs ≠ []) then (.err .argumentsBad, [])
  else match t.visibleObject hObject with
    | .error e => (.err e, [])
    | .ok o =>
      let answers := qs.map (o.answer V)
      (attrRv (answers.map (·.1)), answers.map (·.2))

/-! ## C_SetAttributeValue -/

/-- A token object may not be touched on a read-only session. -/
def Token.checkRoObject (t : Token) (c : Caller) (handle : UInt32) : Except Err Unit :=
  if (t.objects.find? handle).any (·.ownerSession == 0) && c.flags &&& ckfRwSession == 0 then
    .error .sessionReadOnly
  else .ok ()

/-- The last value of an attribute; an empty one is there even without a pointer. -/
def Template.lastValue (t : Template) (type : UInt64) : Option Bytes :=
  (t.findRev? (·.type == type)).map (·.value.data)

end FreeHsm
