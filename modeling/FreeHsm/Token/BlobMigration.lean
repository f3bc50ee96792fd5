import FreeHsm.Token.BlobReader

/-!
# Migration of old blobs

A store that was read from a blob of format v1, v2 or v3 is written back in format v4.
The four readers fill one and the same object record, and the bytes they leave out are
the ones `memset` cleared, so the old formats load as objects without a policy block
and without `flags3`; the writer and the v4 reader keep such objects as they are.
-/

namespace FreeHsm

open ByteLayout StateExcept List

/-- An object as the readers of the old formats leave it. -/
structure Obj.Legacy (o : Obj) : Prop where
  ownerSession : o.ownerSession = 0
  valueSecure : o.valueSecure = (o.sensitive && o.value.length != 0)
  flags3 : o.flags3 = 0
  allowed : o.allowed = []
  wrap : o.wrap = []
  unwrap : o.unwrap = []
  derive : o.derive = []

/-- Where the old formats keep what they do not all keep at the same place. -/
inductive OldFormat
  | v1
  | v2
  | v3

def OldFormat.valueAt : OldFormat → Nat
  | .v1 => 80
  | .v2 => recV2Fixed
  | .v3 => recV3Fixed

def OldFormat.idAt : OldFormat → Nat
  | .v1 => 5580
  | .v2 | .v3 => 80

/-- The fields of an object are those of the record at `p`; what the format has no room for is
cleared. -/
structure Obj.InRecord (fmt : OldFormat) (p : Bytes) (o : Obj) : Prop extends o.Legacy where
  handle : o.handle = u32At p 0
  cls : o.cls = u32At p 4
  keyType : o.keyType = u32At p 8
  label : o.label = vecAt p 16 64
  value : o.value = (p.drop fmt.valueAt).take (u32At p 12).toNat
  id : o.id = vecAt p fmt.idAt 32
  idLen : o.idLen = u32At p (fmt.idAt + 32)
  flags : o.flags = byteAt p (fmt.idAt + 36)
  usage : o.usageFlags = match fmt with
    | .v1 => 0
    | .v2 | .v3 => byteAt p 117
  dated : match fmt with
    | .v1 | .v2 => o.startDateLen = 0 ∧ o.endDateLen = 0 ∧ o.applicationLen = 0 ∧ o.flags2 = 0
    | .v3 => o.startDate = vecAt p 120 8 ∧ o.startDateLen = byteAt p 128 ∧
        o.endDate = vecAt p 129 8 ∧ o.endDateLen = byteAt p 137 ∧
        o.application = vecAt p 138 64 ∧ o.applicationLen = byteAt p 202 ∧ o.flags2 = byteAt p 203

/-- `Q` holds of the objects and the records at `p`, in order. Of v2 on, a record is preceded by its
length. -/
def TaggedRecords (Q : Bytes → Obj → Prop) : Bytes → List Obj → Prop
  | _, [] => True
  | p, o :: os => Q (p.drop 4) o ∧ TaggedRecords Q ((p.drop 4).drop (u32At p 0).toNat) os

/-- The objects are those of the records of v1 at `p`, in order. -/
def RecordsV1 : Bytes → List Obj → Prop
  | _, [] => True
  | p, o :: os => o.InRecord .v1 p ∧ RecordsV1 (p.drop recV1Size) os

/-- The objects and the next handle of an old blob. -/
def ReadAs (buf : Bytes) (objs : List Obj) (next : UInt32) : Prop :=
  if u32At buf 0 = blobV3Magic then
    TaggedRecords (Obj.InRecord .v3) (buf.drop 12) objs ∧ next = u32At buf 8
  else if u32At buf 0 = blobV2Magic then
    TaggedRecords (Obj.InRecord .v2) (buf.drop 12) objs ∧ next = u32At buf 8
  else RecordsV1 (buf.drop 8) objs ∧ next = u32At buf 4

variable {o : Obj} {p buf : Bytes} {n : Nat} {alloc : Nat → Bool} {s : ObjStore} {next : UInt32}

theorem TaggedRecords.forall_mem {Q : Bytes → Obj → Prop} {R : Obj → Prop} {os : List Obj}
    (h : TaggedRecords Q p os) (hQ : ∀ p o, Q p o → R o) : ∀ o ∈ os, R o := by
  induction os generalizing p with
  | nil => exact nofun
  | cons o os ih => exact forall_mem_cons.2 ⟨hQ _ _ h.1, ih h.2⟩

theorem RecordsV1.legacy {os : List Obj} (h : RecordsV1 p os) : ∀ o ∈ os, o.Legacy := by
  induction os generalizing p with
  | nil => exact nofun
  | cons o os ih => exact forall_mem_cons.2 ⟨h.1.toLegacy, ih h.2⟩

/-! ## The records -/

/-- The value of a record that the buffer holds has the length the record says. -/
theorem length_take_drop {off : Nat} (h : off + n ≤ p.length) :
    ((p.drop off).take n).length = n := by
  rw [length_take, length_drop]
  omega

theorem parseRecV2_inRecord {hn : n ≤ objValueMax} (hlen : recV2Fixed + n ≤ p.length)
    (hsize : (u32At p 12).toNat = n) (h : parseRecV2 recV2Fixed p n hn = .ok o) :
    o.InRecord .v2 p := by
  unfold parseRecV2 at h
  obtain ⟨⟨hid⟩, -, h⟩ := bind_ok h
  cases h
  subst hsize
  refine ⟨⟨rfl, ?_, rfl, rfl, rfl, rfl, rfl⟩, rfl, rfl, rfl, rfl, rfl, rfl, rfl, rfl, rfl,
    ⟨rfl, rfl, rfl, rfl⟩⟩
  show (_ && (u32At p 12).toNat != 0) = (_ && ((p.drop _).take (u32At p 12).toNat).length != 0)
  rw [length_take_drop hlen]
  rfl

theorem parseRecV3_inRecord {hn : n ≤ objValueMax} (hlen : recV3Fixed + n ≤ p.length)
    (hsize : (u32At p 12).toNat = n) (h : parseRecV3 recV3Fixed p n hn = .ok o) :
    o.InRecord .v3 p := by
  unfold parseRecV3 parseRecV2 at h
  obtain ⟨o', hv2, h⟩ := bind_ok h
  obtain ⟨⟨hid⟩, -, hv2⟩ := bind_ok hv2
  obtain ⟨⟨hs⟩, -, h⟩ := bind_ok h
  obtain ⟨⟨he⟩, -, h⟩ := bind_ok h
  obtain ⟨⟨ha⟩, -, h⟩ := bind_ok h
  cases hv2
  cases h
  subst hsize
  refine ⟨⟨rfl, ?_, rfl, rfl, rfl, rfl, rfl⟩, rfl, rfl, rfl, rfl, rfl, rfl, rfl, rfl, rfl,
    ⟨rfl, rfl, rfl, rfl, rfl, rfl, rfl⟩⟩
  show (_ && (u32At p 12).toNat != 0) = (_ && ((p.drop _).take (u32At p 12).toNat).length != 0)
  rw [length_take_drop hlen]
  rfl

theorem parseRecV1_inRecord (hlen : recV1Size ≤ p.length) (h : parseRecV1 p = .ok o) :
    o.InRecord .v1 p := by
  unfold parseRecV1 at h
  obtain ⟨⟨hn⟩, -, h⟩ := bind_ok h
  obtain ⟨⟨hid⟩, -, h⟩ := bind_ok h
  cases h
  refine ⟨⟨rfl, ?_, rfl, rfl, rfl, rfl, rfl⟩, rfl, rfl, rfl, rfl, rfl, rfl, rfl, rfl, rfl,
    ⟨rfl, rfl, rfl, rfl⟩⟩
  have hfit : 80 + (u32At p 12).toNat ≤ p.length := by
    unfold recV1Size at hlen
    unfold objValueLenV1 at hn
    omega
  show (_ && (u32At p 12).toNat != 0) = (_ && ((p.drop 80).take (u32At p 12).toNat).length != 0)
  rw [length_take_drop hfit]
  rfl

/-! ## The record loops -/

section

variable {fixed : Nat} {body : (p : Bytes) → (n : Nat) → n ≤ objValueMax → Except Err Obj}
  {Q : Bytes → Obj → Prop} (hbody : ∀ p n hn o, fixed + n ≤ p.length → (u32At p 12).toNat = n →
    body p n hn = .ok o → Q p o)
include hbody

theorem parseRecs_records {i : Nat} {q : Bytes} {r : { l : List Obj // l.length = n }}
    (h : parseRecs fixed body alloc i n q = .ok r) : TaggedRecords Q q r.val := by
  induction n generalizing i q with
  | zero =>
    cases h
    trivial
  | succ n ih =>
    unfold parseRecs at h
    obtain ⟨_, -, h⟩ := bind_ok h
    obtain ⟨⟨hrec⟩, -, h⟩ := bind_ok h
    obtain ⟨⟨hsize⟩, -, h⟩ := bind_ok h
    obtain ⟨o, ho, h⟩ := bind_ok h
    obtain ⟨_, -, h⟩ := bind_ok h
    obtain ⟨⟨os, hos⟩, hrest, h⟩ := bind_ok h
    cases h
    exact ⟨hbody _ _ _ o (by omega) hsize ho, ih hrest⟩

theorem parseObjectsTagged_records (h : parseObjectsTagged fixed body alloc buf = .ok (s, next)) :
    TaggedRecords Q (buf.drop 12) s.objs ∧ next = u32At buf 8 := by
  unfold parseObjectsTagged at h
  obtain ⟨_, -, h⟩ := bind_ok h
  obtain ⟨os, hrecs, h⟩ := bind_ok h
  cases h
  exact ⟨parseRecs_records hbody hrecs, rfl⟩

end

theorem parseRecsV1_records {i : Nat} {r : { l : List Obj // l.length = n }}
    (hlen : n * recV1Size ≤ p.length) (h : parseRecsV1 alloc i n p = .ok r) :
    RecordsV1 p r.val := by
  induction n generalizing i p with
  | zero =>
    cases h
    trivial
  | succ n ih =>
    unfold parseRecsV1 at h
    obtain ⟨o, ho, h⟩ := bind_ok h
    obtain ⟨_, -, h⟩ := bind_ok h
    obtain ⟨⟨os, hos⟩, hrest, h⟩ := bind_ok h
    cases h
    rw [Nat.add_mul, Nat.one_mul] at hlen
    refine ⟨parseRecV1_inRecord (by omega) ho, ih ?_ hrest⟩
    rw [length_drop]
    omega

theorem parseObjectsV1_records (h : parseObjectsV1 alloc buf = .ok (s, next)) :
    RecordsV1 (buf.drop 8) s.objs ∧ next = u32At buf 4 := by
  unfold parseObjectsV1 at h
  obtain ⟨_, -, h⟩ := bind_ok h
  obtain ⟨⟨hsize⟩, -, h⟩ := bind_ok h
  obtain ⟨os, hrecs, h⟩ := bind_ok h
  cases h
  refine ⟨parseRecsV1_records ?_ hrecs, rfl⟩
  rw [length_drop]
  omega

/-! ## The blob -/

/-- A blob that is not v4 loads as its records say. -/
theorem parseObjects_readAs (hmagic : u32At buf 0 ≠ blobV4Magic)
    (h : parseObjects alloc buf = .ok (s, next)) : ReadAs buf s.objs next := by
  unfold parseObjects at h
  obtain ⟨_, -, h⟩ := bind_ok h
  rw [if_neg hmagic] at h
  unfold ReadAs
  split at h
  · rename_i hv3
    obtain ⟨_, -, h⟩ := bind_ok h
    rw [if_pos hv3]
    exact parseObjectsTagged_records (fun _ _ _ _ => parseRecV3_inRecord) h
  · rename_i hv3
    rw [if_neg hv3]
    split at h
    · rename_i hv2
      obtain ⟨_, -, h⟩ := bind_ok h
      rw [if_pos hv2]
      exact parseObjectsTagged_records (fun _ _ _ _ => parseRecV2_inRecord) h
    · rename_i hv2
      rw [if_neg hv2]
      exact parseObjectsV1_records h

theorem ReadAs.legacy {objs : List Obj} (h : ReadAs buf objs next) : ∀ o ∈ objs, o.Legacy := by
  unfold ReadAs at h
  split at h
  · exact h.1.forall_mem fun _ _ => Obj.InRecord.toLegacy
  · split at h
    · exact h.1.forall_mem fun _ _ => Obj.InRecord.toLegacy
    · exact h.1.legacy

theorem ObjStore.persisted_of_legacy (h : ∀ o ∈ s.objs, o.Legacy) : s.persisted false = s := by
  have hkept : s.objs.filter (Obj.serialized false) = s.objs := by
    refine filter_eq_self.2 fun o ho => ?_
    show (o.ownerSession == 0) = true
    rw [(h o ho).ownerSession]
    rfl
  ext1
  show (s.objs.filter (Obj.serialized false)).map Obj.stored = s.objs
  rw [hkept]
  refine (map_congr_left fun o ho => ?_).trans (map_id _)
  have hsecure := (h o ho).valueSecure
  ext1
  all_goals simp only [Obj.stored, (h o ho).ownerSession, (h o ho).wrap, (h o ho).unwrap,
    (h o ho).derive, map_nil, id]
  exact hsecure.symm

/-- Every blob that is read as v1, v2 or v3 is, once written as v4, read as the same store: the
objects, their order and the next handle are the same, and none has a policy. What was read are the
fields of the old records. -/
theorem parseObjects_migrate {alloc alloc' : Nat → Bool} (halloc : ∀ i, alloc' i = true)
    {buf : Bytes} {s : ObjStore} {next : UInt32} (hmagic : u32At buf 0 ≠ blobV4Magic)
    (h : parseObjects alloc buf = .ok (s, next)) :
    parseObjects alloc' (serializeObjects s next false) = .ok (s, next) ∧
      (∀ o ∈ s.objs, o.flags3 = 0 ∧ o.allowed = [] ∧ o.wrap = [] ∧ o.unwrap = [] ∧ o.derive = []) ∧
      ReadAs buf s.objs next := by
  have hread := parseObjects_readAs hmagic h
  have hlegacy := hread.legacy
  refine ⟨?_, fun o ho => ?_, hread⟩
  · rw [parseObjects_serialize halloc s next false, ObjStore.persisted_of_legacy hlegacy]
  · have hobj := hlegacy o ho
    exact ⟨hobj.flags3, hobj.allowed, hobj.wrap, hobj.unwrap, hobj.derive⟩

/-- A v2 blob with one key of two bytes. -/
def blobV2Sample : Bytes :=
  le32 blobV2Magic ++ le32 1 ++ le32 6 ++ le32 122 ++
    (le32 5 ++ le32 ckoSecretKey ++ le32 0x1F ++ le32 2 ++ List.replicate 96 65 ++ le32 3 ++
      [objfSensitive, usageValid, 9, 9] ++ [1, 2])

theorem parseObjects_migrate_v2 :
    ∃ s, parseObjects (fun _ => true) blobV2Sample = .ok (s, 6) ∧ s.objs.length = 1 ∧
      parseObjects (fun _ => true) (serializeObjects s 6 false) = .ok (s, 6) ∧
      ReadAs blobV2Sample s.objs 6 := by
  have hread : (parseObjects (fun _ => true) blobV2Sample).toOption.map
      (fun r => (r.1.objs.length, r.2)) = some (1, 6) := by decide +kernel
  rcases hs : parseObjects (fun _ => true) blobV2Sample with e | ⟨s, next⟩
  · rw [hs] at hread
    cases hread
  · rw [hs] at hread
    obtain ⟨hlen, rfl⟩ := Prod.mk.inj (Option.some.inj hread)
    obtain ⟨hagain, -, hread⟩ := parseObjects_migrate (fun _ => rfl) (by decide) hs
    exact ⟨s, rfl, hlen, hagain, hread⟩

end FreeHsm
