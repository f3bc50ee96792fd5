import Mathlib.Data.Fintype.Basic
import FreeHsm.Token.Blob
import Mathlib.Data.List.Forall2

/-!
# Round trip of the objects blob

`parse_objects` applied to what `serialize_objects` writes gives back the written
objects. The proof follows the nesting of the format: template entries, templates,
records, the record list, the blob.

What comes back is `Obj.stored`: the same object, except that the bytes of a
template value past its length are zero and the value sits on the heap its
sensitivity asks for.
-/

namespace FreeHsm

open ByteLayout
open List hiding Vector

theorem require_of {p : Prop} [Decidable p] (h : p) : require p = .ok ⟨h⟩ := dif_pos h

/-! ## What a record keeps -/

variable (a : PolicyAttr)

/-- The 48-byte value field an entry is written with: its significant bytes, then zeros. -/
def PolicyAttr.valueField : Bytes :=
  a.value.toList.take a.len.toNat ++ List.replicate (policyValueMax - a.len.toNat) 0

/-- The template entry as it is read back: nothing past its length survives. -/
def PolicyAttr.stored : PolicyAttr :=
  { a with value := vecAt a.valueField 0 48 }

/-- The object as it is read back. -/
def Obj.stored (o : Obj) : Obj :=
  { o with
    ownerSession := 0
    valueSecure := o.sensitive && o.value.length != 0
    wrap := o.wrap.map PolicyAttr.stored
    unwrap := o.unwrap.map PolicyAttr.stored
    derive := o.derive.map PolicyAttr.stored
    wrap_le := by simpa using o.wrap_le
    unwrap_le := by simpa using o.unwrap_le
    derive_le := by simpa using o.derive_le }

/-- Two template entries agree up to the bytes past their length. -/
def PolicyAttr.SamePersisted (b : PolicyAttr) : Prop :=
  a.type = b.type ∧ a.kind = b.kind ∧ a.len = b.len ∧
    a.value.toList.take a.len.toNat = b.value.toList.take b.len.toNat

/-- Two objects agree on every field a record keeps. -/
structure Obj.SamePersisted (a b : Obj) : Prop where
  handle : a.handle = b.handle
  cls : a.cls = b.cls
  keyType : a.keyType = b.keyType
  value : a.value = b.value
  label : a.label = b.label
  id : a.id = b.id
  idLen : a.idLen = b.idLen
  flags : a.flags = b.flags
  flags2 : a.flags2 = b.flags2
  flags3 : a.flags3 = b.flags3
  usageFlags : a.usageFlags = b.usageFlags
  startDate : a.startDate = b.startDate
  startDateLen : a.startDateLen = b.startDateLen
  endDate : a.endDate = b.endDate
  endDateLen : a.endDateLen = b.endDateLen
  application : a.application = b.application
  applicationLen : a.applicationLen = b.applicationLen
  allowed : a.allowed = b.allowed
  wrap : List.Forall₂ PolicyAttr.SamePersisted a.wrap b.wrap
  unwrap : List.Forall₂ PolicyAttr.SamePersisted a.unwrap b.unwrap
  derive : List.Forall₂ PolicyAttr.SamePersisted a.derive b.derive

theorem PolicyAttr.length_valueField : a.valueField.length = 48 := by
  have hlen : a.len.toNat ≤ 48 := a.len_le
  simp only [valueField, length_append, length_take, length_replicate,
    Vector.length_toList, policyValueMax]
  omega

theorem PolicyAttr.samePersisted_stored : a.SamePersisted a.stored := by
  refine ⟨rfl, rfl, rfl, ?_⟩
  have hlen : a.len.toNat ≤ 48 := a.len_le
  have htake : (a.value.toList.take a.len.toNat).length = a.len.toNat := by
    rw [length_take, Vector.length_toList]; omega
  show _ = (vecAt a.valueField 0 48).toList.take a.len.toNat
  rw [toList_vecAt a.length_valueField, valueField, take_left' htake]

private theorem forall₂_stored (as : List PolicyAttr) :
    List.Forall₂ PolicyAttr.SamePersisted as (as.map PolicyAttr.stored) := by
  induction as with
  | nil => exact .nil
  | cons a as ih => exact .cons a.samePersisted_stored ih

theorem Obj.samePersisted_stored (o : Obj) : o.SamePersisted o.stored := by
  constructor
  case wrap => exact forall₂_stored o.wrap
  case unwrap => exact forall₂_stored o.unwrap
  case derive => exact forall₂_stored o.derive
  all_goals rfl

/-! ## Template entries -/

theorem policyEntrySegs_eq :
    policyEntrySegs a = [le32 a.type, [a.kind], [a.len], [0, 0], a.stored.value.toList] := by
  have hlen : ¬ a.len.toNat > policyValueMax := not_lt.mpr a.len_le
  have hvalue : a.stored.value.toList = a.valueField := toList_vecAt a.length_valueField
  simp only [policyEntrySegs, if_neg hlen, hvalue, PolicyAttr.valueField]

@[simp] theorem length_policyEntry : (policyEntrySegs a).flatten.length = policyEntrySize := by
  simp [policyEntrySegs_eq, policyEntrySize]

theorem getPolicyEntry_eq {e : Bytes} {a : PolicyAttr}
    (htype : u32At e 0 = a.type) (hkind : byteAt e 4 = a.kind) (hlen : byteAt e 5 = a.len)
    (hvalue : vecAt e 8 48 = a.value) : getPolicyEntry e = .ok a := by
  obtain ⟨type, kind, len, value, kind_ok, len_le⟩ := a
  subst htype hkind hlen hvalue
  simp only [getPolicyEntry, require_of kind_ok, require_of len_le, bind, Except.bind, pure,
    Except.pure]

theorem getPolicyEntry_append (rest : Bytes) :
    getPolicyEntry ((policyEntrySegs a).flatten ++ rest) = .ok a.stored := by
  rw [policyEntrySegs_eq]
  apply getPolicyEntry_eq
  · exact u32At_flatten 0 rest rfl (by simp [offsetOf])
  · exact byteAt_flatten 1 rest rfl (by simp [offsetOf])
  · exact byteAt_flatten 2 rest rfl (by simp [offsetOf])
  · exact vecAt_flatten 4 rest rfl (by simp [offsetOf])

variable {n : Nat} {as : List PolicyAttr}

theorem getPolicyEntries_append (as : List PolicyAttr) (rest : Bytes) (hn : n = as.length) :
    getPolicyEntries n (as.flatMap (fun a => (policyEntrySegs a).flatten) ++ rest) =
      .ok ⟨as.map PolicyAttr.stored, by simp [hn]⟩ := by
  subst hn
  induction as with
  | nil => rfl
  | cons a as ih =>
    have hdrop : ((policyEntrySegs a).flatten ++
        (as.flatMap (fun a => (policyEntrySegs a).flatten) ++ rest)).drop policyEntrySize =
        as.flatMap (fun a => (policyEntrySegs a).flatten) ++ rest := by
      rw [← length_policyEntry a, drop_left]
    simp only [length_cons, flatMap_cons, append_assoc, getPolicyEntries,
      getPolicyEntry_append, hdrop, ih, bind, Except.bind, pure, Except.pure, map_cons]

/-! ## Templates -/

theorem entrySlots_eq (as : List PolicyAttr) (n : Nat) (h : as.length ≤ n) :
    (range n).flatMap (policySlot as) =
    as.flatMap (fun a => (policyEntrySegs a).flatten) ++
      replicate ((n - as.length) * policyEntrySize) 0 := by
  induction n generalizing as with
  | zero =>
    obtain rfl := eq_nil_of_length_eq_zero (Nat.le_zero.mp h)
    rfl
  | succ n ih =>
    rw [range_succ_eq_map, flatMap_cons, flatMap_map]
    cases as with
    | nil =>
      rw [show (fun k => policySlot [] (k + 1)) = policySlot [] from rfl, ih [] (Nat.zero_le _)]
      simp only [policySlot, getElem?_nil, flatMap_nil, nil_append,
        length_nil, Nat.sub_zero, replicate_append_replicate, policyEntrySize]
      congr 1
      omega
    | cons a as =>
      rw [show (fun k => policySlot (a :: as) (k + 1)) = policySlot as from rfl,
        ih as (by simpa using h), flatMap_cons, append_assoc, length_cons,
        Nat.add_sub_add_right]
      rfl

theorem putPolicyTmpl_eq (h : as.length ≤ policyAttrMax) :
    putPolicyTmpl as = UInt8.ofNat as.length :: (as.flatMap (fun a => (policyEntrySegs a).flatten)
      ++ replicate ((policyAttrMax - as.length) * policyEntrySize) 0) := by
  rw [putPolicyTmpl, entrySlots_eq as policyAttrMax h]

theorem length_putPolicyTmpl (h : as.length ≤ policyAttrMax) : (putPolicyTmpl as).length = 225 := by
  have hsum : (as.flatMap fun a => (policyEntrySegs a).flatten).length =
      as.length * policyEntrySize := by
    simp only [length_flatMap, length_policyEntry, map_const', sum_replicate_nat]
  rw [putPolicyTmpl_eq h]
  simp only [length_cons, length_append, hsum, length_replicate, policyAttrMax,
    policyEntrySize] at h ⊢
  omega

theorem getPolicyTmpl_append (h : as.length ≤ policyAttrMax) (rest : Bytes) :
    getPolicyTmpl (putPolicyTmpl as ++ rest) =
      .ok ⟨as.map PolicyAttr.stored, by simpa using h⟩ := by
  have hcount : (UInt8.ofNat as.length).toNat = as.length := by
    have : as.length ≤ 4 := h
    simp; omega
  have hfirst : byteAt (putPolicyTmpl as ++ rest) 0 = UInt8.ofNat as.length := rfl
  have hle : (byteAt (putPolicyTmpl as ++ rest) 0).toNat ≤ policyAttrMax := by
    rw [hfirst, hcount]; exact h
  have htail : (putPolicyTmpl as ++ rest).drop 1 =
      as.flatMap (fun a => (policyEntrySegs a).flatten) ++
        (replicate ((policyAttrMax - as.length) * policyEntrySize) 0 ++ rest) := by
    rw [putPolicyTmpl_eq h, cons_append, drop_one, tail_cons, append_assoc]
  have hn : (byteAt (putPolicyTmpl as ++ rest) 0).toNat = as.length := by rw [hfirst, hcount]
  simp only [getPolicyTmpl, require_of hle, htail, getPolicyEntries_append as _ hn, bind,
    Except.bind, pure, Except.pure]

/-! ## Records -/

theorem putAllowed_getD (allowed : List UInt32) (rest : Bytes) {k : Nat} (hk : k < policyMechMax) :
    u32At (putAllowed allowed ++ rest) (4 * k) = allowed.getD k 0 := by
  have hseg : ((range policyMechMax).map fun k => le32 (allowed.getD k 0))[k]? =
      some (le32 (allowed.getD k 0)) := by
    simp [hk]
  have hoff : offsetOf ((range policyMechMax).map fun k => le32 (allowed.getD k 0)) k =
      4 * k := by
    have : min k policyMechMax = k := min_eq_left (le_of_lt hk)
    simp [offsetOf, ← map_take, take_range, this, Function.comp_def, mul_comm]
  rw [putAllowed, flatMap_def]
  exact u32At_flatten k rest hseg hoff

@[simp] theorem length_putAllowed (allowed : List UInt32) : (putAllowed allowed).length = 32 := by
  simp [putAllowed, length_flatMap, policyMechMax]

theorem length_record (o : Obj) : (recordSegs o).flatten.length = recV4Fixed + o.value.length := by
  simp [recordSegs, length_putPolicyTmpl o.wrap_le, length_putPolicyTmpl o.unwrap_le,
    length_putPolicyTmpl o.derive_le, recV4Fixed]
  omega

/-- A v4 reader finds the fields of `o` at `p`, with `n` value bytes. -/
structure RecordReads (p : Bytes) (n : Nat) (o : Obj) : Prop where
  handle : u32At p 0 = o.handle
  cls : u32At p 4 = o.cls
  keyType : u32At p 8 = o.keyType
  label : vecAt p 16 64 = o.label
  id : vecAt p 80 32 = o.id
  idLen : u32At p 112 = o.idLen
  flags : byteAt p 116 = o.flags
  usageFlags : byteAt p 117 = o.usageFlags
  flags3 : byteAt p 118 = o.flags3
  startDate : vecAt p 120 8 = o.startDate
  startDateLen : byteAt p 128 = o.startDateLen
  endDate : vecAt p 129 8 = o.endDate
  endDateLen : byteAt p 137 = o.endDateLen
  application : vecAt p 138 64 = o.application
  applicationLen : byteAt p 202 = o.applicationLen
  flags2 : byteAt p 203 = o.flags2
  allowedLen : (byteAt (p.drop recV3Fixed) 0).toNat = o.allowed.length
  allowed : ∀ k < o.allowed.length, u32At (p.drop recV3Fixed) (1 + 4 * k) = o.allowed.getD k 0
  wrap : getPolicyTmpl ((p.drop recV3Fixed).drop 33) = .ok ⟨o.wrap, o.wrap_le⟩
  unwrap : getPolicyTmpl ((p.drop recV3Fixed).drop 258) = .ok ⟨o.unwrap, o.unwrap_le⟩
  derive : getPolicyTmpl ((p.drop recV3Fixed).drop 483) = .ok ⟨o.derive, o.derive_le⟩
  value : (p.drop recV4Fixed).take n = o.value
  ownerSession : o.ownerSession = 0
  valueSecure : o.valueSecure = (o.sensitive && n != 0)

/-- A reader that finds the fields of `o` returns `o`: its checks are the bounds `o` carries. -/
theorem parseRecV4_of_reads {p : Bytes} (hn : n ≤ objValueMax) {o : Obj} (h : RecordReads p n o) :
    parseRecV4 recV4Fixed p n hn = .ok o := by
  have hid : (u32At p 112).toNat ≤ 32 := h.idLen ▸ o.idLen_le
  have hstart : (byteAt p 128).toNat ≤ 8 := h.startDateLen ▸ o.startDateLen_le
  have hend : (byteAt p 137).toNat ≤ 8 := h.endDateLen ▸ o.endDateLen_le
  have happ : (byteAt p 202).toNat ≤ 64 := h.applicationLen ▸ o.applicationLen_le
  have hallowed : (byteAt (p.drop recV3Fixed) 0).toNat ≤ policyMechMax :=
    h.allowedLen ▸ o.allowed_le
  simp only [parseRecV4, parseRecV3, parseRecV2, require_of hid, require_of hstart,
    require_of hend, require_of happ, require_of hallowed, h.wrap, h.unwrap, h.derive, bind,
    Except.bind, pure, Except.pure]
  congr 1
  apply Obj.ext <;> simp only [h.handle, h.cls, h.keyType, h.label, h.id, h.idLen, h.flags,
    h.usageFlags, h.flags3, h.startDate, h.startDateLen, h.endDate, h.endDateLen, h.application,
    h.applicationLen, h.flags2, h.value, h.ownerSession, h.valueSecure, h.allowedLen, Obj.zero,
    Obj.sensitive]
  -- the allowed list is read word by word
  apply ext_getElem
  · simp
  · intro i h₁ h₂
    simp [h.allowed i h₂, getElem?_eq_getElem h₂]

/-- What the writer puts at the offsets of a record is what the reader looks for. -/
theorem recordSegs_reads (o : Obj) (rest : Bytes) :
    RecordReads ((recordSegs o).flatten ++ rest) o.value.length o.stored := by
  have hwrap := length_putPolicyTmpl o.wrap_le
  have hunwrap := length_putPolicyTmpl o.unwrap_le
  have hderive := length_putPolicyTmpl o.derive_le
  -- the policy block starts at segment 18
  have hpolicy : ((recordSegs o).flatten ++ rest).drop recV3Fixed =
      [UInt8.ofNat o.allowed.length] ++ (((recordSegs o).drop 19).flatten ++ rest) :=
    drop_flatten 18 rest rfl (by simp [offsetOf, recordSegs, recV3Fixed])
  have hallowedLen : (UInt8.ofNat o.allowed.length).toNat = o.allowed.length := by
    have : o.allowed.length ≤ 8 := o.allowed_le
    simp; omega
  constructor
  case handle => exact u32At_flatten 0 rest rfl (by simp [offsetOf])
  case cls => exact u32At_flatten 1 rest rfl (by simp [offsetOf, recordSegs])
  case keyType => exact u32At_flatten 2 rest rfl (by simp [offsetOf, recordSegs])
  case label => exact vecAt_flatten 4 rest rfl (by simp [offsetOf, recordSegs])
  case id => exact vecAt_flatten 5 rest rfl (by simp [offsetOf, recordSegs])
  case idLen => exact u32At_flatten 6 rest rfl (by simp [offsetOf, recordSegs])
  case flags => exact byteAt_flatten 7 rest rfl (by simp [offsetOf, recordSegs])
  case usageFlags => exact byteAt_flatten 8 rest rfl (by simp [offsetOf, recordSegs])
  case flags3 => exact byteAt_flatten 9 rest rfl (by simp [offsetOf, recordSegs])
  case startDate => exact vecAt_flatten 11 rest rfl (by simp [offsetOf, recordSegs])
  case startDateLen => exact byteAt_flatten 12 rest rfl (by simp [offsetOf, recordSegs])
  case endDate => exact vecAt_flatten 13 rest rfl (by simp [offsetOf, recordSegs])
  case endDateLen => exact byteAt_flatten 14 rest rfl (by simp [offsetOf, recordSegs])
  case application => exact vecAt_flatten 15 rest rfl (by simp [offsetOf, recordSegs])
  case applicationLen => exact byteAt_flatten 16 rest rfl (by simp [offsetOf, recordSegs])
  case flags2 => exact byteAt_flatten 17 rest rfl (by simp [offsetOf, recordSegs])
  case allowedLen => rw [hpolicy]; exact hallowedLen
  case allowed =>
    intro k hk
    have hk' : k < policyMechMax := lt_of_lt_of_le hk o.allowed_le
    rw [hpolicy]
    exact (u32At_append_right [_] _ (4 * k)).trans (putAllowed_getD o.allowed _ hk')
  case wrap =>
    rw [drop_drop, drop_flatten 20 rest rfl (by simp [offsetOf, recordSegs, recV3Fixed])]
    exact getPolicyTmpl_append o.wrap_le _
  case unwrap =>
    rw [drop_drop, drop_flatten 21 rest rfl (by simp [offsetOf, recordSegs, recV3Fixed, hwrap])]
    exact getPolicyTmpl_append o.unwrap_le _
  case derive =>
    rw [drop_drop,
      drop_flatten 22 rest rfl (by simp [offsetOf, recordSegs, recV3Fixed, hwrap, hunwrap])]
    exact getPolicyTmpl_append o.derive_le _
  case value =>
    rw [drop_flatten 23 rest rfl
      (by simp [offsetOf, recordSegs, recV4Fixed, hwrap, hunwrap, hderive])]
    exact take_left
  case ownerSession => rfl
  case valueSecure => rfl

/-! ## The record list -/

@[simp] theorem length_putRecord (o : Obj) :
    (putRecord o).length = 4 + recV4Fixed + o.value.length := by
  rw [putRecord, length_append, length_le32, length_record, add_assoc]

/-- The length prefix does not wrap: a record stays far below `2^32` bytes. -/
theorem toNat_recLen (o : Obj) :
    (UInt32.ofNat (recV4Fixed + o.value.length)).toNat = recV4Fixed + o.value.length := by
  have hvalue : o.value.length ≤ 2097152 := o.value_le
  rw [UInt32.toNat_ofNat']
  apply Nat.mod_eq_of_lt
  simp only [recV4Fixed]
  omega

theorem toNat_valueLen (o : Obj) : (UInt32.ofNat o.value.length).toNat = o.value.length := by
  have hvalue : o.value.length ≤ 2097152 := o.value_le
  rw [UInt32.toNat_ofNat']
  exact Nat.mod_eq_of_lt (by omega)

theorem parseRecs_append {alloc : Nat → Bool} (halloc : ∀ i, alloc i = true) (os : List Obj)
    (rest : Bytes) (i : Nat) (hn : n = os.length) :
    parseRecs recV4Fixed (parseRecV4 recV4Fixed) alloc i n (os.flatMap putRecord ++ rest) =
      .ok ⟨os.map Obj.stored, by simp [hn]⟩ := by
  subst hn
  induction os generalizing i with
  | nil => rfl
  | cons o os ih =>
    have hbuf : (o :: os).flatMap putRecord ++ rest = putRecord o ++ (os.flatMap putRecord ++ rest) := by
      rw [flatMap_cons, append_assoc]
    generalize htail : os.flatMap putRecord ++ rest = tail at hbuf ih
    -- the prefix, then the record it announces
    have hfirst : u32At (putRecord o ++ tail) 0 = UInt32.ofNat (recV4Fixed + o.value.length) := by
      rw [putRecord, append_assoc]; exact u32At_le32_append _ _
    have hbody : (putRecord o ++ tail).drop 4 = (recordSegs o).flatten ++ tail := by
      rw [putRecord, append_assoc]; rfl
    have hnext : ((recordSegs o).flatten ++ tail).drop (recV4Fixed + o.value.length) = tail := by
      rw [← length_record, drop_left]
    have hvalueLen : u32At ((recordSegs o).flatten ++ tail) 12 = UInt32.ofNat o.value.length :=
      u32At_flatten 3 tail rfl (by simp [offsetOf, recordSegs])
    have h₁ : 4 ≤ (putRecord o ++ tail).length := by simp [recV4Fixed]; omega
    have h₂ : recV4Fixed ≤ (u32At (putRecord o ++ tail) 0).toNat ∧
        (u32At (putRecord o ++ tail) 0).toNat ≤ recV4Fixed + objValueMax ∧
        (u32At (putRecord o ++ tail) 0).toNat ≤ ((putRecord o ++ tail).drop 4).length := by
      have hvalue := o.value_le
      rw [hfirst, toNat_recLen, hbody, length_append, length_record]
      omega
    have h₃ : (u32At ((putRecord o ++ tail).drop 4) 12).toNat =
        (u32At (putRecord o ++ tail) 0).toNat - recV4Fixed := by
      rw [hfirst, toNat_recLen, hbody, hvalueLen, toNat_valueLen, Nat.add_sub_cancel_left]
    have hparse := parseRecV4_of_reads o.value_le (recordSegs_reads o tail)
    have hallocated : allocValue alloc i o.stored = .ok () := by simp [allocValue, halloc]
    rw [hbuf]
    simp only [length_cons, parseRecs, require_of h₁, require_of h₂, require_of h₃, hfirst,
      hbody, toNat_recLen, bind, Except.bind]
    simp only [Nat.add_sub_cancel_left, hparse, hallocated, hnext, ih, pure, Except.pure, map_cons]

/-! ## The blob -/

private theorem foldl_size (publicOnly : Bool) (os : List Obj) (init : Nat) :
    os.foldl (fun sz o =>
      if o.serialized publicOnly then sz + (4 + recV4Fixed + o.value.length) else sz) init =
    init + ((os.filter (Obj.serialized publicOnly)).flatMap putRecord).length := by
  induction os generalizing init with
  | nil => rfl
  | cons o os ih =>
    rw [foldl_cons, ih]
    cases h : o.serialized publicOnly
    · simp [h]
    · simp only [h, ↓reduceIte, filter_cons_of_pos, flatMap_cons, length_append, length_putRecord]
      omega

/-- The store as a serialization of it is read back. -/
def ObjStore.persisted (s : ObjStore) (publicOnly : Bool) : ObjStore where
  objs := (s.objs.filter (Obj.serialized publicOnly)).map Obj.stored
  length_le := by
    rw [List.length_map]
    exact Nat.le_trans (List.length_filter_le ..) s.length_le

theorem parseObjects_serialize {alloc : Nat → Bool} (halloc : ∀ i, alloc i = true) (s : ObjStore)
    (nextHandle : UInt32) (publicOnly : Bool) :
    parseObjects alloc (serializeObjects s nextHandle publicOnly) =
      .ok (s.persisted publicOnly, nextHandle) := by
  obtain ⟨os, hos⟩ : ∃ os, os = s.objs.filter (Obj.serialized publicOnly) := ⟨_, rfl⟩
  have hle : os.length ≤ maxObjects :=
    hos ▸ le_trans (length_filter_le ..) s.length_le
  have hcount : (UInt32.ofNat os.length).toNat = os.length := by
    have : os.length ≤ 1024 := hle
    rw [UInt32.toNat_ofNat']
    exact Nat.mod_eq_of_lt (by omega)
  -- the blob as three header words and the records
  have hbuf : serializeObjects s nextHandle publicOnly =
      [le32 blobV4Magic, le32 (UInt32.ofNat os.length), le32 nextHandle].flatten ++
        os.flatMap putRecord := by
    simp [serializeObjects, hos]
  generalize serializeObjects s nextHandle publicOnly = buf at hbuf
  have hmagic : u32At buf 0 = blobV4Magic := by
    rw [hbuf]; exact u32At_flatten 0 _ rfl rfl
  have hn : (u32At buf 4).toNat = os.length := by
    have hword : u32At buf 4 = UInt32.ofNat os.length := by
      rw [hbuf]; exact u32At_flatten 1 _ rfl rfl
    rw [hword, hcount]
  have hnext : u32At buf 8 = nextHandle := by
    rw [hbuf]; exact u32At_flatten 2 _ rfl rfl
  have hrecs : buf.drop 12 = os.flatMap putRecord ++ [] := by
    rw [hbuf, append_nil]; rfl
  have hlen : 12 ≤ buf.length := by rw [hbuf]; simp; omega
  have hlen' : 8 ≤ buf.length := by omega
  have hmax : (u32At buf 4).toNat ≤ maxObjects := hn ▸ hle
  simp only [parseObjects, parseObjectsV4, parseObjectsTagged, require_of hlen, require_of hlen',
    require_of hmax, hmagic, ↓reduceIte, bind, Except.bind, pure, Except.pure, hrecs,
    parseRecs_append halloc os [] 0 hn, hnext]
  subst hos
  rfl

/-- Writing the store and parsing what was written, when the allocator has room for the
    values: exactly the objects that outlive their session come back, in order and with every
    persisted field, and so does the next handle. The writer stays inside the buffer that
    `serialized_size` sized. -/
theorem parseObjects_serializeObjects {alloc : Nat → Bool} (halloc : ∀ i, alloc i = true)
    (s : ObjStore) (nextHandle : UInt32) :
    (∃ os, parseObjects alloc (serializeObjects s nextHandle false) = .ok (os, nextHandle) ∧
      List.Forall₂ Obj.SamePersisted (s.objs.filter (·.ownerSession == 0)) os.objs) ∧
    ∀ publicOnly,
      (serializeObjects s nextHandle publicOnly).length = serializedSize s publicOnly := by
  refine ⟨⟨s.persisted false, parseObjects_serialize halloc s nextHandle false, ?_⟩,
    fun publicOnly => ?_⟩
  · refine forall₂_map_right_iff.mpr ?_
    exact forall₂_same.mpr fun o _ => o.samePersisted_stored
  · rw [serializedSize, foldl_size]
    simp only [serializeObjects, length_append, length_le32]
    omega

/-- A token key and a session object: only the former is read back. -/
theorem parseObjects_serializeObjects_sample :
    let key := { Obj.zero with handle := 1, cls := ckoSecretKey, flags := objfSensitive }
    let session := { Obj.zero with handle := 2, cls := ckoPublicKey, ownerSession := 7 }
    ∃ os, parseObjects (fun _ => true) (serializeObjects ⟨[key, session], by decide⟩ 3 false) =
        .ok (os, 3) ∧ List.Forall₂ Obj.SamePersisted [key] os.objs :=
  (parseObjects_serializeObjects (fun _ => rfl) _ 3).1

end FreeHsm
