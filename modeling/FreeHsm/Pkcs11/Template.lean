import FreeHsm.Token.Object

/-!
# Attribute templates

`CK_ATTRIBUTE`, and the helpers of `fhsm_pkcs11.c` that read a template without
looking at any object: lookup, the length checks, the boolean reader and
`fhsm_compute_usage`.

An attribute value is caller memory, so it is either a null pointer with some
length or a byte string. The three array attributes hold further attributes; the
reading of a value as such an array is the field `nested`.
-/

namespace FreeHsm

/-- A caller's pointer and length. -/
inductive Buf
  | null (len : Nat)
  | bytes (b : Bytes)
  deriving DecidableEq, Repr

namespace Buf

def len : Buf → Nat
  | null n => n
  | bytes b => b.length

def isNull : Buf → Bool
  | null _ => true
  | bytes _ => false

/-- The bytes a `memcpy` of the whole buffer reads. -/
def data : Buf → Bytes
  | null _ => []
  | bytes b => b

/-- A null pointer that claims to have bytes. -/
def dangling (b : Buf) : Bool := b.isNull && b.len != 0

end Buf

/-- An entry of an array attribute. -/
structure NestedAttr where
  type : UInt64
  value : Buf
  deriving DecidableEq

/-- `CK_ATTRIBUTE`. -/
structure Attr where
  type : UInt64
  value : Buf
  /-- The value read as an array of `CK_ATTRIBUTE`. -/
  nested : List NestedAttr := []
  deriving DecidableEq

/-- A template once `fhsm_check_template` has let it through. -/
abbrev Template := List Attr

/-- The pair `pTemplate, ulCount`. -/
inductive TemplateArg
  | null (count : Nat)
  | list (attrs : Template)

/-! ## Attribute types -/

def ckaClass : UInt64 := 0x000
def ckaToken : UInt64 := 0x001
def ckaPrivate : UInt64 := 0x002
def ckaLabel : UInt64 := 0x003
def ckaApplication : UInt64 := 0x010
def ckaValue : UInt64 := 0x011
def ckaTrusted : UInt64 := 0x086
def ckaKeyType : UInt64 := 0x100
def ckaId : UInt64 := 0x102
def ckaSensitive : UInt64 := 0x103
def ckaEncrypt : UInt64 := 0x104
def ckaDecrypt : UInt64 := 0x105
def ckaWrap : UInt64 := 0x106
def ckaUnwrap : UInt64 := 0x107
def ckaSign : UInt64 := 0x108
def ckaVerify : UInt64 := 0x10A
def ckaDerive : UInt64 := 0x10C
def ckaStartDate : UInt64 := 0x110
def ckaEndDate : UInt64 := 0x111
def ckaValueLen : UInt64 := 0x161
def ckaExtractable : UInt64 := 0x162
def ckaLocal : UInt64 := 0x163
def ckaNeverExtractable : UInt64 := 0x164
def ckaAlwaysSensitive : UInt64 := 0x165
def ckaModifiable : UInt64 := 0x170
def ckaCopyable : UInt64 := 0x171
def ckaDestroyable : UInt64 := 0x172
def ckaEcParams : UInt64 := 0x180
def ckaAlwaysAuth : UInt64 := 0x202
def ckaWrapWithTrusted : UInt64 := 0x210
def ckaEncapsulate : UInt64 := 0x633
def ckaDecapsulate : UInt64 := 0x634
def ckaWrapTemplate : UInt64 := 0x40000211
def ckaUnwrapTemplate : UInt64 := 0x40000212
def ckaDeriveTemplate : UInt64 := 0x40000213
def ckaAllowedMechanisms : UInt64 := 0x40000600

/-- `fhsm_bool_attr_types`. -/
def boolAttrTypes : List UInt64 :=
  [0x001, 0x002, 0x086, 0x103, 0x104, 0x105, 0x106, 0x107, 0x108, 0x109, 0x10A,
   0x10B, 0x10C, 0x162, 0x163, 0x164, 0x165, 0x170, 0x171, 0x172, 0x202, 0x210]

/-- `fhsm_ulong_attr_types`. -/
def ulongAttrTypes : List UInt64 := [0x000, 0x100, 0x161, 0x121, 0x080]

/-- `FHSM_MAX_TEMPLATE_ATTRS`. -/
def maxTemplateAttrs : Nat := 1024

/-- `sizeof(CK_ULONG)`. -/
def ckUlongSize : Nat := 8

/-- `sizeof(CK_ATTRIBUTE)`. -/
def ckAttributeSize : Nat := 24

/-- The `CK_ULONG` at byte `off`. -/
def u64At (b : Bytes) (off : Nat) : UInt64 :=
  (u32At b off).toUInt64 ||| ((u32At b (off + 4)).toUInt64 <<< 32)

/-! ## Readers -/

namespace Template

variable (t : Template)

/-- `find_attr`: the first attribute of a type. -/
def findAttr (type : UInt64) : Option Attr := t.find? (·.type == type)

/-- `tmpl_bbool` without its default: a value of exactly one byte, as a truth value. -/
def bbool? (type : UInt64) : Option Bool :=
  match t.findAttr type with
  | some ⟨_, .bytes [b], _⟩ => some (b != 0)
  | _ => none

/-- `tmpl_bbool`. -/
def bbool (type : UInt64) (dflt : Bool) : Bool := (t.bbool? type).getD dflt

/-- A `CK_ULONG` attribute of the right size. -/
def ulong? (type : UInt64) : Option UInt64 :=
  match t.findAttr type with
  | some ⟨_, .bytes b, _⟩ => if b.length = ckUlongSize then some (u64At b 0) else none
  | _ => none

/-- `fhsm_template_id`. -/
def templateId : Bytes :=
  match t.findAttr ckaId with
  | some a => a.value.data
  | none => []

/-- The label of a creation template: at most 63 bytes, as a C string. -/
def labelText : Bytes :=
  match t.findAttr ckaLabel with
  | some a => a.value.data.take 63
  | none => []

end Template

/-! ## Checks -/

/-- `fhsm_check_template`. -/
def checkTemplate : TemplateArg → Except Err Template
  | .null 0 => .ok []
  | .null _ => .error .argumentsBad
  | .list t =>
    if t.length > maxTemplateAttrs then .error .argumentsBad
    else if t.any (·.value.dangling) then .error .attributeValueInvalid
    else .ok t

/-- One of the given types with a value that is there but has the wrong size. -/
def badLength (types : List UInt64) (size : Nat) (a : Attr) : Bool :=
  types.contains a.type && !a.value.isNull && a.value.len != size

/-- `fhsm_check_bool_attr_lengths`. -/
def checkBoolAttrLengths (t : Template) : Except Err Unit :=
  if t.any (badLength boolAttrTypes 1) then .error .attributeValueInvalid else .ok ()

/-- `fhsm_check_ulong_attr_lengths`. -/
def checkUlongAttrLengths (t : Template) : Except Err Unit :=
  if t.any (badLength ulongAttrTypes ckUlongSize) then .error .attributeValueInvalid else .ok ()

/-- `fhsm_reject_mech_supplied`. -/
def rejectMechSupplied (t : Template) : Except Err Unit :=
  if t.any (·.type == ckaValue) then .error .templateInconsistent else .ok ()

/-- `fhsm_check_trusted_attr`: only the SO may ask for `CKA_TRUSTED`. -/
def checkTrustedAttr (role : Role) (t : Template) : Except Err Unit :=
  if t.bbool ckaTrusted false && role != .so then .error .attributeReadOnly else .ok ()

/-- `CKF_RW_SESSION`. -/
def ckfRwSession : UInt64 := 0x2

/-- `fhsm_check_ro_token`. The flags are those of the session, if there is one. -/
def checkRoToken (flags : Option UInt64) (t : Template) : Except Err Unit :=
  match flags with
  | some f =>
    if t.bbool ckaToken false && f &&& ckfRwSession == 0 then .error .sessionReadOnly else .ok ()
  | none => .ok ()

/-- `fhsm_check_private_login`: a key object is private unless the template says otherwise. -/
def checkPrivateLogin (role : Role) (t : Template) : Except Err Unit :=
  let isKey := t.ulong? ckaClass == some 4 || t.ulong? ckaClass == some 3
  if t.bbool ckaPrivate isKey && role == .none then .error .userNotLoggedIn else .ok ()

/-- `fhsm_date_wellformed`: empty, or eight digits with a month and a day in range. -/
def dateWellformed (d : Bytes) : Bool :=
  let digit (i : Nat) : Nat := (byteAt d i).toNat - 48
  let month := digit 4 * 10 + digit 5
  let day := digit 6 * 10 + digit 7
  d.length == 0 ||
    (d.length == 8 && d.all (fun b => 48 ≤ b && b ≤ 57)
      && 1 ≤ month && month ≤ 12 && 1 ≤ day && day ≤ 31)

/-! ## Usage flags -/

/-- The usage a class has when its template says nothing. -/
def classUsage (cls : UInt32) : UInt8 :=
  if cls = ckoSecretKey then
    usageEncrypt ||| usageDecrypt ||| usageSign ||| usageVerify ||| usageWrap ||| usageUnwrap
  else if cls = ckoPublicKey then usageEncrypt ||| usageVerify ||| usageWrap
  else if cls = ckoPrivateKey then usageDecrypt ||| usageSign ||| usageUnwrap ||| usageDerive
  else 0

/-- The attribute of each usage bit. -/
def usageMap : List (UInt64 × UInt8) :=
  [(ckaEncrypt, usageEncrypt), (ckaDecrypt, usageDecrypt), (ckaSign, usageSign),
   (ckaVerify, usageVerify), (ckaWrap, usageWrap), (ckaUnwrap, usageUnwrap),
   (ckaDerive, usageDerive)]

/-- `fhsm_compute_usage`. -/
def computeUsage (cls : UInt32) (t : Template) : UInt8 :=
  usageMap.foldl (fun u (type, bit) =>
    match t.bbool? type with
    | some true => u ||| bit
    | some false => u &&& ~~~bit
    | none => u) (usageValid ||| classUsage cls)

end FreeHsm
