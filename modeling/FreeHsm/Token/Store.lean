import FreeHsm.ForStd.ListEdit
import FreeHsm.Token.File

/-!
# Object functions of a token

`fhsm_token_object_add`, `_destroy`, the setters and `_destroy_session_objects`.
All of them act on the store in memory and then call `write_atomic`; a failing
write does not undo the change in memory.

The setters share one shape (`objectUpdate`): refuse without a live DEK and a
loaded store, find the first object with the handle, change it, write.
-/

namespace FreeHsm

open ListEdit ByteLayout
open List hiding Vector

namespace ObjStore

variable (s : ObjStore) (handle : UInt32)

def modify (f : Obj → Obj) : ObjStore where
  objs := modifyFirst (·.handle == handle) f s.objs
  length_le := by rw [length_modifyFirst]; exact s.length_le

def push (o : Obj) (h : s.objs.length < maxObjects) : ObjStore where
  objs := s.objs ++ [o]
  length_le := by rw [List.length_append]; exact h

/-- Remove the first object with a handle, the last object moving into its slot. -/
def remove : ObjStore where
  objs := match s.objs.findIdx? (·.handle == handle) with
    | none => s.objs
    | some i => swapRemove s.objs i
  length_le := by
    have h := s.length_le
    split
    · exact h
    · rw [length_swapRemove]; omega

/-- Remove every object of a session. -/
def removeOwned (owner : UInt32) : ObjStore where
  objs := sweep (·.ownerSession == owner) s.objs.length 0 s.objs
  length_le := Nat.le_trans (length_sweep_le ..) s.length_le

theorem remove_subperm : List.Subperm (s.remove handle).objs s.objs := by
  unfold remove
  dsimp only
  split
  · exact .refl _
  · exact swapRemove_subperm ..

theorem removeOwned_subperm (owner : UInt32) :
    List.Subperm (s.removeOwned owner).objs s.objs := sweep_subperm ..

end ObjStore

/-- `memcpy` of `bs` over the start of a buffer. -/
def overlay {n : Nat} (buf : Vector UInt8 n) (bs : Bytes) : Vector UInt8 n :=
  vecAt (bs ++ buf.toList.drop bs.length) 0 n

theorem take_overlay {n : Nat} (buf : Vector UInt8 n) {bs : Bytes} (h : bs.length ≤ n) :
    (overlay buf bs).toList.take bs.length = bs := by
  have hlen : (bs ++ buf.toList.drop bs.length).length = n := by
    simp only [length_append, length_drop, Vector.length_toList]
    omega
  rw [overlay, toList_vecAt hlen, take_left]

theorem take_overlay_ofNat {n : Nat} (buf : Vector UInt8 n) {bs : Bytes} (h : bs.length ≤ n)
    (hn : n < 256) : (overlay buf bs).toList.take (UInt8.ofNat bs.length).toNat = bs := by
  rw [UInt8.toNat_ofNat', Nat.mod_eq_of_lt (by omega)]
  exact take_overlay buf h

theorem ne_zero_of_mem_cstr {text : Bytes} {b : UInt8} (h : b ∈ cstr text) : (b != 0) = true :=
  all_eq_true.1 all_takeWhile b h

theorem cstr_eq_self {text : Bytes} (h : ∀ b ∈ text, (b != 0) = true) : cstr text = text := by
  show takeWhile (· != 0) text = text
  rw [← append_nil text, takeWhile_append_of_pos (by simpa using h)]
  rfl

theorem cstr_of_no_nul {text : Bytes} (h : 0 ∉ text) : cstr text = text := by
  apply cstr_eq_self
  intro b hb
  rw [bne_iff_ne]
  intro h0
  exact h (h0 ▸ hb)

theorem cstr_take_cstr (text : Bytes) (n : Nat) : cstr ((cstr text).take n) = (cstr text).take n :=
  cstr_eq_self fun _ hb => ne_zero_of_mem_cstr (mem_of_mem_take hb)

/-- What `snprintf` wrote reads back as the string, cut to the buffer. -/
theorem cstr_snprintfInto {n : Nat} (buf : Vector UInt8 (n + 1)) (text : Bytes) :
    cstr (snprintfInto buf text).toList = (cstr text).take n := by
  have hlen : ((cstr text).take n ++
      0 :: buf.toList.drop (((cstr text).take n).length + 1)).length = n + 1 := by
    simp only [length_append, length_take, length_cons, length_drop, Vector.length_toList]
    omega
  have hnz : ∀ b ∈ (cstr text).take n, (b != 0) = true := fun b hb =>
    ne_zero_of_mem_cstr (mem_of_mem_take hb)
  unfold snprintfInto
  rw [Nat.add_sub_cancel, toList_vecAt hlen, cstr, takeWhile_append_of_pos hnz]
  simp

/-- A template entry as a caller of `set_tmpl` passes it, before any check. -/
structure RawPolicyAttr where
  type : UInt32
  kind : UInt8
  len : UInt8
  value : Vector UInt8 48
  deriving DecidableEq

/-- The checks of `fhsm_token_object_set_tmpl` on one entry. -/
def RawPolicyAttr.check (a : RawPolicyAttr) : Except Err PolicyAttr :=
  if hlen : a.len.toNat ≤ policyValueMax then
    if hkind : a.kind ≠ 0 ∧ a.kind ≤ 3 then
      .ok { type := a.type, kind := a.kind, len := a.len, value := a.value,
            kind_ok := hkind, len_le := hlen }
    else .error .attributeValueInvalid
  else .error .attributeValueInvalid

/-- Which of the three nested templates. -/
inductive TmplWhich
  | wrap
  | unwrap
  | derive
  deriving DecidableEq, Repr

/-- `tmpl_present_bit`. -/
def TmplWhich.presentBit : TmplWhich → UInt8
  | .wrap => objf2HasWrapTmpl
  | .unwrap => objf2HasUnwrapTmpl
  | .derive => objf2HasDeriveTmpl

def Obj.setTmpl (o : Obj) (which : TmplWhich) (as : List PolicyAttr)
    (h : as.length ≤ policyAttrMax) : Obj :=
  let o := { o with flags2 := o.flags2 ||| which.presentBit }
  match which with
  | .wrap => { o with wrap := as, wrap_le := h }
  | .unwrap => { o with unwrap := as, unwrap_le := h }
  | .derive => { o with derive := as, derive_le := h }

/-- The dates and the application; a null argument leaves its field alone. -/
def Obj.setMeta (o : Obj) (start finish app : Option Bytes)
    (h : (start.getD []).length ≤ 8 ∧ (finish.getD []).length ≤ 8 ∧ (app.getD []).length ≤ 64) :
    Obj :=
  { o with
    startDate := overlay o.startDate (start.getD [])
    startDateLen := if start.isSome then UInt8.ofNat (start.getD []).length else o.startDateLen
    endDate := overlay o.endDate (finish.getD [])
    endDateLen := if finish.isSome then UInt8.ofNat (finish.getD []).length else o.endDateLen
    application := overlay o.application (app.getD [])
    applicationLen := if app.isSome then UInt8.ofNat (app.getD []).length else o.applicationLen
    startDateLen_le := by
      split
      · rw [UInt8.toNat_ofNat']; exact Nat.le_trans (Nat.mod_le ..) h.1
      · exact o.startDateLen_le
    endDateLen_le := by
      split
      · rw [UInt8.toNat_ofNat']; exact Nat.le_trans (Nat.mod_le ..) h.2.1
      · exact o.endDateLen_le
    applicationLen_le := by
      split
      · rw [UInt8.toNat_ofNat']; exact Nat.le_trans (Nat.mod_le ..) h.2.2
      · exact o.applicationLen_le }

/-- The arguments of `fhsm_token_object_add`. -/
structure AddArgs where
  cls : UInt32
  keyType : UInt32
  label : Bytes
  value : Bytes
  id : Bytes
  flags : UInt8

namespace Token

variable (C : Crypto) (env : Env) (t : Token) (handle : UInt32)

/-- `fhsm_token_object_get` and the other lookups that need a visible store. -/
def objectGet : Except Err Obj :=
  if !t.objectsLoaded && !t.objectsPublic then .error .userNotLoggedIn
  else match t.objects.find? handle with
    | none => .error .keyHandleInvalid
    | some o => .ok o

/-- The handle the next object gets. -/
def newHandle : UInt32 := if t.nextHandle = 0 then 1 else t.nextHandle

/-- The object `fhsm_token_object_add` puts in the free slot. -/
def newObject (a : AddArgs) (hvalue : a.value.length ≤ objValueMax) (hid : a.id.length ≤ 32) :
    Obj :=
  { Obj.zero with
    handle := t.newHandle
    cls := a.cls
    keyType := a.keyType
    label := snprintfInto Obj.zero.label a.label
    value := a.value
    valueSecure := hasBit a.flags objfSensitive && a.value.length != 0
    id := overlay Obj.zero.id a.id
    idLen := UInt32.ofNat a.id.length
    flags := a.flags
    flags3 := (if hasBit a.flags objfSensitive then 0 else objf3WasNotSensitive) |||
      (if hasBit a.flags objfExtractable then objf3WasExtractable else 0)
    value_le := hvalue
    idLen_le := by
      rw [UInt32.toNat_ofNat']
      exact Nat.le_trans (Nat.mod_le ..) hid }

/-- `fhsm_token_object_add`, with the handle it returns. -/
def objectAdd (a : AddArgs) (d : Disk) : Rv × Option UInt32 × Token × Disk :=
  if hvalue : a.value.length ≤ objValueMax then
    if hid : a.id.length ≤ 32 then
      if !t.storeOpen then (.err .userNotLoggedIn, none, t, d)
      else if hroom : t.objects.objs.length < maxObjects then
        let o := t.newObject a hvalue hid
        match allocValue env.valueAlloc 0 o with
        | .error e => (.err e, none, t, d)
        | .ok () =>
          let t := { t with objects := t.objects.push o hroom, nextHandle := o.handle + 1 }
          let (rv, d) := writeAtomic C env t d
          (rv, some o.handle, t, d)
      else (.err .deviceMemory, none, t, d)
    else (.err .argumentsBad, none, t, d)
  else (.err .keySizeRange, none, t, d)

/-- The shape of every setter: the first object with the handle goes through `f`. -/
def objectUpdate (f : Obj → Except Err Obj) (d : Disk) : Rv × Token × Disk :=
  if !t.storeOpen then (.err .userNotLoggedIn, t, d)
  else match t.objects.find? handle with
    | none => (.err .keyHandleInvalid, t, d)
    | some o =>
      match f o with
      | .error e => (.err e, t, d)
      | .ok o' =>
        let t := { t with objects := t.objects.modify handle fun _ => o' }
        let (rv, d) := writeAtomic C env t d
        (rv, t, d)

/-- `fhsm_token_object_set_usage`. -/
def setUsage (usage : UInt8) :=
  objectUpdate C env t handle fun o => .ok { o with usageFlags := usage }

/-- `fhsm_token_object_mark_session`. -/
def markSession (owner : UInt32) (d : Disk) : Rv × Token × Disk :=
  if owner = 0 then (.err .argumentsBad, t, d)
  else objectUpdate C env t handle (fun o => .ok { o with ownerSession := owner }) d

/-- `fhsm_token_object_set_meta`. -/
def setMeta (start finish app : Option Bytes) (d : Disk) : Rv × Token × Disk :=
  if h : (start.getD []).length ≤ 8 ∧ (finish.getD []).length ≤ 8 ∧ (app.getD []).length ≤ 64 then
    objectUpdate C env t handle (fun o => .ok (o.setMeta start finish app h)) d
  else (.err .attributeValueInvalid, t, d)

/-- `fhsm_token_object_set_allowed_mechs`. -/
def setAllowedMechs (mechs : List UInt32) (d : Disk) : Rv × Token × Disk :=
  if h : mechs.length ≤ policyMechMax then
    objectUpdate C env t handle (fun o => .ok
      { o with allowed := mechs, allowed_le := h, flags2 := o.flags2 ||| objf2HasAllowedMech }) d
  else (.err .attributeValueInvalid, t, d)

/-- `fhsm_token_object_set_tmpl`. -/
def setTmpl (which : TmplWhich) (raw : List RawPolicyAttr) (d : Disk) : Rv × Token × Disk :=
  match raw.mapM RawPolicyAttr.check with
  | .error e => (.err e, t, d)
  | .ok as =>
    if h : as.length ≤ policyAttrMax then
      objectUpdate C env t handle (fun o => .ok (o.setTmpl which as h)) d
    else (.err .attributeValueInvalid, t, d)

/-- `fhsm_token_object_set_label`. -/
def setLabel (label : Bytes) :=
  objectUpdate C env t handle fun o =>
    .ok { o with label := overlay (Vector.replicate 64 0) ((cstr label).take 63) }

/-- `fhsm_token_object_set_id`. -/
def setId (id : Bytes) (d : Disk) : Rv × Token × Disk :=
  if h : id.length ≤ 32 then
    objectUpdate C env t handle (fun o => .ok
      { o with
        id := overlay (Vector.replicate 32 0) id
        idLen := UInt32.ofNat id.length
        idLen_le := by
          rw [UInt32.toNat_ofNat']
          exact Nat.le_trans (Nat.mod_le ..) h }) d
  else (.err .attributeValueInvalid, t, d)

/-- `fhsm_token_object_set_flags`: a value that becomes sensitive moves to the secure heap. -/
def setFlags (flags : UInt8) :=
  objectUpdate C env t handle fun o =>
    if hasBit flags objfSensitive && !o.valueSecure && o.value.length != 0 then
      if env.valueAlloc 0 then .ok { o with flags := flags, valueSecure := true }
      else .error .deviceMemory
    else .ok { o with flags := flags }

/-- `fhsm_token_object_set_flags2`. -/
def setFlags2 (flags2 : UInt8) :=
  objectUpdate C env t handle fun o => .ok { o with flags2 := flags2 }

/-- `fhsm_token_object_set_flags3`. -/
def setFlags3 (flags3 : UInt8) :=
  objectUpdate C env t handle fun o => .ok { o with flags3 := flags3 }

/-- `fhsm_token_object_destroy`. -/
def objectDestroy (d : Disk) : Rv × Token × Disk :=
  if !t.storeOpen then (.err .userNotLoggedIn, t, d)
  else match t.objects.find? handle with
    | none => (.err .keyHandleInvalid, t, d)
    | some _ =>
      let t := { t with objects := t.objects.remove handle }
      let (rv, d) := writeAtomic C env t d
      (rv, t, d)

/-- `fhsm_token_destroy_session_objects`. It does not ask for a live DEK. -/
def destroySessionObjects (owner : UInt32) (d : Disk) : Rv × Token × Disk :=
  if owner = 0 then (.err .argumentsBad, t, d)
  else if t.objects.objs.any (·.ownerSession == owner) then
    let t := { t with objects := t.objects.removeOwned owner }
    let (rv, d) := writeAtomic C env t d
    (rv, t, d)
  else (.ok, t, d)

end Token

/-- A call of an object function. -/
inductive ObjectOp
  | add (a : AddArgs)
  | setUsage (handle : UInt32) (usage : UInt8)
  | markSession (handle owner : UInt32)
  | setMeta (handle : UInt32) (start finish app : Option Bytes)
  | setAllowedMechs (handle : UInt32) (mechs : List UInt32)
  | setTmpl (handle : UInt32) (which : TmplWhich) (raw : List RawPolicyAttr)
  | setLabel (handle : UInt32) (label : Bytes)
  | setId (handle : UInt32) (id : Bytes)
  | setFlags (handle : UInt32) (flags : UInt8)
  | setFlags2 (handle : UInt32) (flags2 : UInt8)
  | setFlags3 (handle : UInt32) (flags3 : UInt8)
  | destroy (handle : UInt32)
  | destroySession (owner : UInt32)

/-- Run an object function. -/
def Token.object (C : Crypto) (env : Env) (t : Token) (op : ObjectOp) (d : Disk) :
    Rv × Token × Disk :=
  match op with
  | .add a => let (rv, _, t, d) := t.objectAdd C env a d; (rv, t, d)
  | .setUsage handle usage => t.setUsage C env handle usage d
  | .markSession handle owner => t.markSession C env handle owner d
  | .setMeta handle start finish app => t.setMeta C env handle start finish app d
  | .setAllowedMechs handle mechs => t.setAllowedMechs C env handle mechs d
  | .setTmpl handle which raw => t.setTmpl C env handle which raw d
  | .setLabel handle label => t.setLabel C env handle label d
  | .setId handle id => t.setId C env handle id d
  | .setFlags handle flags => t.setFlags C env handle flags d
  | .setFlags2 handle flags2 => t.setFlags2 C env handle flags2 d
  | .setFlags3 handle flags3 => t.setFlags3 C env handle flags3 d
  | .destroy handle => t.objectDestroy C env handle d
  | .destroySession owner => t.destroySessionObjects C env owner d

/-- What an object function can do: nothing, or a change of the store and one write. -/
def StoreStep (C : Crypto) (env : Env) (t : Token) (d : Disk) (rv : Rv) (t' : Token) (d' : Disk) :
    Prop :=
  (t' = t ∧ d' = d) ∨
    ∃ objs next, t' = { t with objects := objs, nextHandle := next } ∧
      writeAtomic C env t' d = (rv, d')

end FreeHsm
