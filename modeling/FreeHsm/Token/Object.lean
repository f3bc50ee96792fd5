import FreeHsm.Common

/-!
# Stored objects

`fhsm_object_t` and the bounds its writers enforce. Every function of the source
that fills an object checks the lengths it stores (the parsers, `object_add`,
`set_id`, `set_meta`, `set_allowed_mechs`, `set_tmpl`), so the bounds are fields
of the structures here: an object that breaks one cannot be built.

A C array with its count (`allowed`, `wrap`, `unwrap`, `derive`) is a list; a
fixed-size buffer with a separate length (`id`, the dates, `application`) keeps
both, since the buffer is written to disk in full.
-/

namespace FreeHsm

/-- `b` has a bit of the mask `m` set: the source's `b & m`. -/
def hasBit (b m : UInt8) : Bool := b &&& m != 0

theorem or_and_right (a b m : UInt8) : (a ||| b) &&& m = (a &&& m) ||| (b &&& m) := by
  apply UInt8.toBitVec_inj.1
  ext i
  simp [Bool.and_or_distrib_right]

theorem hasBit_or (a b m : UInt8) : hasBit (a ||| b) m = (hasBit a m || hasBit b m) := by
  rw [Bool.eq_iff_iff, Bool.or_eq_true]
  simp only [hasBit, bne_iff_ne, or_and_right, ne_eq, UInt8.or_eq_zero_iff, not_and_or]

theorem hasBit_clear {k m : UInt8} (b : UInt8) (h : ~~~k &&& m = m) :
    hasBit (b &&& ~~~k) m = hasBit b m := by
  rw [hasBit, UInt8.and_assoc, h, hasBit]

theorem hasBit_congr {a b k m : UInt8} (h : a &&& k = b &&& k) (hm : k &&& m = m) :
    hasBit a m = hasBit b m := by
  rw [hasBit, hasBit, ← hm, ← UInt8.and_assoc, h, UInt8.and_assoc]

theorem hasBit_clear_self (b m : UInt8) : hasBit (b &&& ~~~m) m = false := by
  simp [hasBit, UInt8.and_assoc]

/-! ## Flag bits -/

def objfSensitive : UInt8 := 0x01
def objfExtractable : UInt8 := 0x02
def objfUnmodifiable : UInt8 := 0x04
def objfUndestroyable : UInt8 := 0x08
def objfLocal : UInt8 := 0x10
def objfAlwaysAuth : UInt8 := 0x20
def objfTrusted : UInt8 := 0x40
def objfUnwrapSens : UInt8 := 0x80

def objf2NoEncapsulate : UInt8 := 0x01
def objf2NoDecapsulate : UInt8 := 0x02
def objf2NotCopyable : UInt8 := 0x04
def objf2HasAllowedMech : UInt8 := 0x08
def objf2HasWrapTmpl : UInt8 := 0x10
def objf2HasUnwrapTmpl : UInt8 := 0x20
def objf2HasDeriveTmpl : UInt8 := 0x40
def objf2WrapWithTrusted : UInt8 := 0x80

def objf3EdCurveName : UInt8 := 0x01
def objf3WasNotSensitive : UInt8 := 0x02
def objf3WasExtractable : UInt8 := 0x04

def usageEncrypt : UInt8 := 0x01
def usageDecrypt : UInt8 := 0x02
def usageSign : UInt8 := 0x04
def usageVerify : UInt8 := 0x08
def usageWrap : UInt8 := 0x10
def usageUnwrap : UInt8 := 0x20
def usageDerive : UInt8 := 0x40
def usageValid : UInt8 := 0x80

/-! ## Object classes -/

def ckoData : UInt32 := 0x00
def ckoCertificate : UInt32 := 0x01
def ckoPublicKey : UInt32 := 0x02
def ckoPrivateKey : UInt32 := 0x03
def ckoSecretKey : UInt32 := 0x04

/-- One entry of a nested policy template (`fhsm_policy_attr_t`). Only the first
    `len` bytes of `value` are significant. -/
@[ext]
structure PolicyAttr where
  type : UInt32
  kind : UInt8
  len : UInt8
  value : Vector UInt8 48
  kind_ok : kind ≠ 0 ∧ kind ≤ 3
  len_le : len.toNat ≤ policyValueMax
  deriving DecidableEq

/-- One object of the in-memory store (`fhsm_object_t`). -/
@[ext]
structure Obj where
  handle : UInt32
  cls : UInt32
  keyType : UInt32
  label : Vector UInt8 64
  value : Bytes
  id : Vector UInt8 32
  idLen : UInt32
  flags : UInt8
  flags2 : UInt8
  flags3 : UInt8
  ownerSession : UInt32
  usageFlags : UInt8
  startDate : Vector UInt8 8
  startDateLen : UInt8
  endDate : Vector UInt8 8
  endDateLen : UInt8
  application : Vector UInt8 64
  applicationLen : UInt8
  valueSecure : Bool
  allowed : List UInt32
  wrap : List PolicyAttr
  unwrap : List PolicyAttr
  derive : List PolicyAttr
  value_le : value.length ≤ objValueMax
  idLen_le : idLen.toNat ≤ 32
  startDateLen_le : startDateLen.toNat ≤ 8
  endDateLen_le : endDateLen.toNat ≤ 8
  applicationLen_le : applicationLen.toNat ≤ 64
  allowed_le : allowed.length ≤ policyMechMax
  wrap_le : wrap.length ≤ policyAttrMax
  unwrap_le : unwrap.length ≤ policyAttrMax
  derive_le : derive.length ≤ policyAttrMax
  deriving DecidableEq

/-- An object slot after `memset(o, 0, sizeof(*o))`. -/
def Obj.zero : Obj where
  handle := 0
  cls := 0
  keyType := 0
  label := Vector.replicate 64 0
  value := []
  id := Vector.replicate 32 0
  idLen := 0
  flags := 0
  flags2 := 0
  flags3 := 0
  ownerSession := 0
  usageFlags := 0
  startDate := Vector.replicate 8 0
  startDateLen := 0
  endDate := Vector.replicate 8 0
  endDateLen := 0
  application := Vector.replicate 64 0
  applicationLen := 0
  valueSecure := false
  allowed := []
  wrap := []
  unwrap := []
  derive := []
  value_le := Nat.zero_le _
  idLen_le := by decide
  startDateLen_le := by decide
  endDateLen_le := by decide
  applicationLen_le := by decide
  allowed_le := Nat.zero_le _
  wrap_le := Nat.zero_le _
  unwrap_le := Nat.zero_le _
  derive_le := Nat.zero_le _

namespace Obj

def sensitive (o : Obj) : Bool := hasBit o.flags objfSensitive
def extractable (o : Obj) : Bool := hasBit o.flags objfExtractable

/-- `obj_is_public`: an object the public section may hold. -/
def isPublic (o : Obj) : Bool :=
  o.ownerSession == 0 && (o.cls == ckoPublicKey || o.cls == ckoCertificate) && !o.sensitive

/-- `obj_serialized`: whether a serialization of the store includes the object. -/
def serialized (publicOnly : Bool) (o : Obj) : Bool :=
  if publicOnly then o.isPublic else o.ownerSession == 0

end Obj

/-- The object array of a token: `objects[0 .. object_count)`, never more than
    `FHSM_MAX_OBJECTS` of them. -/
@[ext]
structure ObjStore where
  objs : List Obj
  length_le : objs.length ≤ maxObjects

namespace ObjStore

def empty : ObjStore := ⟨[], Nat.zero_le _⟩

/-- The first object with a handle: the lookup loop of every object function. -/
def find? (s : ObjStore) (handle : UInt32) : Option Obj :=
  s.objs.find? (·.handle == handle)

end ObjStore

end FreeHsm
