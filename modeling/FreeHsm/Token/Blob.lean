import FreeHsm.Token.Object

/-!
# The objects blob

The plaintext of a token's object store: the writer (`serialize_objects`, format
v4) and the reader (`parse_objects`, formats v1 to v4).

The writer fills each record at fixed offsets, every byte once and in order, so a
record is the concatenation of its fields (`recordSegs`); the reader addresses the
same bytes by offset. A pointer `buf + off` is the suffix `buf.drop off`.
-/

namespace FreeHsm

/-- `FHSM_OBJ_BLOB_V2_MAGIC`. -/
def blobV2Magic : UInt32 := 0xF5B20002
/-- `FHSM_OBJ_BLOB_V3_MAGIC`. -/
def blobV3Magic : UInt32 := 0xF5B30003
/-- `FHSM_OBJ_BLOB_V4_MAGIC`. -/
def blobV4Magic : UInt32 := 0xF5B40004

/-- `FHSM_OBJ_REC_V2_FIXED`: bytes of a v2 record before its value. -/
def recV2Fixed : Nat := 120
/-- `FHSM_OBJ_REC_V3_FIXED`. -/
def recV3Fixed : Nat := 204
/-- `FHSM_OBJ_REC_V4_FIXED`. -/
def recV4Fixed : Nat := 912
/-- `FHSM_OBJ_REC_SZ`: a v1 record, value field included. -/
def recV1Size : Nat := 5620
/-- `FHSM_OBJ_VALUE_LEN`: the value field of a v1 record. -/
def objValueLenV1 : Nat := 5500
/-- `FHSM_POLICY_ENTRY_SZ`. -/
def policyEntrySize : Nat := 56

/-- `FHSM_OBJ_BLOB_MAX`: the largest plaintext the loader accepts. -/
def objBlobMax : Nat := 12 + maxObjects * (4 + recV4Fixed + objValueMax)

/-! ## Writing -/

/-- The fields of one template entry: type, kind, len, two pad bytes, then the
    significant bytes of the value in a zeroed 48-byte field. -/
def policyEntrySegs (a : PolicyAttr) : List Bytes :=
  let n := if a.len.toNat > policyValueMax then policyValueMax else a.len.toNat
  [ le32 a.type,                             -- 0
    [a.kind],                                -- 4
    [a.len],                                 -- 5
    [0, 0],                                  -- 6
    a.value.toList.take n ++ List.replicate (policyValueMax - n) 0 ]  -- 8

/-- Entry slot `k` of a template, zeroed past the count. -/
def policySlot (a : List PolicyAttr) (k : Nat) : Bytes :=
  match a[k]? with
  | some e => (policyEntrySegs e).flatten
  | none => List.replicate policyEntrySize 0

/-- `put_policy_tmpl`: the count byte and four entry slots. -/
def putPolicyTmpl (a : List PolicyAttr) : Bytes :=
  UInt8.ofNat a.length :: (List.range policyAttrMax).flatMap (policySlot a)

/-- The allowed-mechanisms words, zero past the count. -/
def putAllowed (allowed : List UInt32) : Bytes :=
  (List.range policyMechMax).flatMap fun k => le32 (allowed.getD k 0)

/-- The fields of a v4 record in the order they are written. -/
def recordSegs (o : Obj) : List Bytes :=
  [ le32 o.handle,                           -- 0
    le32 o.cls,                              -- 4
    le32 o.keyType,                          -- 8
    le32 (UInt32.ofNat o.value.length),      -- 12
    o.label.toList,                          -- 16
    o.id.toList,                             -- 80
    le32 o.idLen,                            -- 112
    [o.flags],                               -- 116
    [o.usageFlags],                          -- 117
    [o.flags3],                              -- 118, a pad byte up to v3
    [0],                                     -- 119
    o.startDate.toList,                      -- 120
    [o.startDateLen],                        -- 128
    o.endDate.toList,                        -- 129
    [o.endDateLen],                          -- 137
    o.application.toList,                    -- 138
    [o.applicationLen],                      -- 202
    [o.flags2],                              -- 203, the pad byte of v3
    [UInt8.ofNat o.allowed.length],          -- 204, start of the policy block
    putAllowed o.allowed,                    -- 205
    putPolicyTmpl o.wrap,                    -- 237
    putPolicyTmpl o.unwrap,                  -- 462
    putPolicyTmpl o.derive,                  -- 687
    o.value ]                                -- 912

/-- A record with its length prefix. -/
def putRecord (o : Obj) : Bytes :=
  le32 (UInt32.ofNat (recV4Fixed + o.value.length)) ++ (recordSegs o).flatten

/-- `serialized_size`. -/
def serializedSize (s : ObjStore) (publicOnly : Bool) : Nat :=
  s.objs.foldl (fun sz o =>
    if o.serialized publicOnly then sz + (4 + recV4Fixed + o.value.length) else sz) 12

/-- `serialize_objects`: magic, number of objects written, next handle, records. -/
def serializeObjects (s : ObjStore) (nextHandle : UInt32) (publicOnly : Bool) : Bytes :=
  let objs := s.objs.filter (Obj.serialized publicOnly)
  le32 blobV4Magic ++ (le32 (UInt32.ofNat objs.length) ++ (le32 nextHandle ++
    objs.flatMap putRecord))

/-! ## Reading -/

/-- A check of the reader: the whole blob is refused when it fails. -/
def require (p : Prop) [Decidable p] : Except Err (PLift p) :=
  if h : p then .ok ⟨h⟩ else .error .functionFailed

/-- One template entry at `e`. -/
def getPolicyEntry (e : Bytes) : Except Err PolicyAttr := do
  let ⟨hlen⟩ ← require ((byteAt e 5).toNat ≤ policyValueMax)
  let ⟨hkind⟩ ← require (byteAt e 4 ≠ 0 ∧ byteAt e 4 ≤ 3)
  return { type := u32At e 0, kind := byteAt e 4, len := byteAt e 5, value := vecAt e 8 48,
           kind_ok := hkind, len_le := hlen }

/-- `n` consecutive template entries. -/
def getPolicyEntries : (n : Nat) → Bytes → Except Err { l : List PolicyAttr // l.length = n }
  | 0, _ => .ok ⟨[], rfl⟩
  | n + 1, e => do
    let a ← getPolicyEntry e
    let ⟨as, h⟩ ← getPolicyEntries n (e.drop policyEntrySize)
    return ⟨a :: as, by simp [h]⟩

/-- `get_policy_tmpl`: a count above the cap, or a bad entry, refuses the blob. -/
def getPolicyTmpl (p : Bytes) : Except Err { l : List PolicyAttr // l.length ≤ policyAttrMax } := do
  let ⟨hcount⟩ ← require ((byteAt p 0).toNat ≤ policyAttrMax)
  let ⟨as, h⟩ ← getPolicyEntries (byteAt p 0).toNat (p.drop 1)
  return ⟨as, h ▸ hcount⟩

/-- The fields of a v2 record at `p`, its `n` value bytes starting at `fixed`. The
    v3 and v4 readers start with the same statements. -/
def parseRecV2 (fixed : Nat) (p : Bytes) (n : Nat) (hn : n ≤ objValueMax) : Except Err Obj := do
  let ⟨hid⟩ ← require ((u32At p 112).toNat ≤ 32)
  return { Obj.zero with
    handle := u32At p 0
    cls := u32At p 4
    keyType := u32At p 8
    label := vecAt p 16 64
    id := vecAt p 80 32
    idLen := u32At p 112
    flags := byteAt p 116
    usageFlags := byteAt p 117
    value := (p.drop fixed).take n
    -- `obj_alloc_value` takes sensitive values from the secure heap
    valueSecure := hasBit (byteAt p 116) objfSensitive && n != 0
    value_le := Nat.le_trans (List.length_take_le ..) hn
    idLen_le := hid }

/-- A v3 record: v2 plus dates, application and `flags2`. -/
def parseRecV3 (fixed : Nat) (p : Bytes) (n : Nat) (hn : n ≤ objValueMax) : Except Err Obj := do
  let o ← parseRecV2 fixed p n hn
  let ⟨hs⟩ ← require ((byteAt p 128).toNat ≤ 8)
  let ⟨he⟩ ← require ((byteAt p 137).toNat ≤ 8)
  let ⟨ha⟩ ← require ((byteAt p 202).toNat ≤ 64)
  return { o with
    startDate := vecAt p 120 8
    startDateLen := byteAt p 128
    endDate := vecAt p 129 8
    endDateLen := byteAt p 137
    application := vecAt p 138 64
    applicationLen := byteAt p 202
    flags2 := byteAt p 203
    startDateLen_le := hs
    endDateLen_le := he
    applicationLen_le := ha }

/-- A v4 record: v3 plus `flags3` and the policy block at offset 204. -/
def parseRecV4 (fixed : Nat) (p : Bytes) (n : Nat) (hn : n ≤ objValueMax) : Except Err Obj := do
  let o ← parseRecV3 fixed p n hn
  let q := p.drop recV3Fixed
  let ⟨hallowed⟩ ← require ((byteAt q 0).toNat ≤ policyMechMax)
  let ⟨wrap, hwrap⟩ ← getPolicyTmpl (q.drop 33)
  let ⟨unwrap, hunwrap⟩ ← getPolicyTmpl (q.drop 258)
  let ⟨derive, hderive⟩ ← getPolicyTmpl (q.drop 483)
  return { o with
    flags3 := byteAt p 118
    allowed := (List.range (byteAt q 0).toNat).map fun k => u32At q (1 + 4 * k)
    wrap := wrap
    unwrap := unwrap
    derive := derive
    allowed_le := by simpa using hallowed
    wrap_le := hwrap
    unwrap_le := hunwrap
    derive_le := hderive }

/-- `obj_alloc_value` for the value of record `i`; `alloc i` says whether the heap
    had room. -/
def allocValue (alloc : Nat → Bool) (i : Nat) (o : Obj) : Except Err Unit :=
  if o.value = [] ∨ alloc i then .ok ()
  else .error (if o.sensitive then .deviceMemory else .hostMemory)

/-- The record loop of the v2, v3 and v4 readers, from record `i` on: `n` records
    at `q`, each with a length prefix that must cover `fixed` bytes, a value of
    admissible size, and stay inside the buffer. -/
def parseRecs (fixed : Nat) (body : (p : Bytes) → (n : Nat) → n ≤ objValueMax → Except Err Obj)
    (alloc : Nat → Bool) : (i n : Nat) → Bytes → Except Err { l : List Obj // l.length = n }
  | _, 0, _ => .ok ⟨[], rfl⟩
  | i, n + 1, q => do
    let _ ← require (4 ≤ q.length)
    let recLen := (u32At q 0).toNat
    let p := q.drop 4
    let ⟨hrec⟩ ← require (fixed ≤ recLen ∧ recLen ≤ fixed + objValueMax ∧ recLen ≤ p.length)
    let _ ← require ((u32At p 12).toNat = recLen - fixed)
    let o ← body p (recLen - fixed) (Nat.sub_le_iff_le_add'.mpr hrec.2.1)
    allocValue alloc i o
    let ⟨os, h⟩ ← parseRecs fixed body alloc (i + 1) n (p.drop recLen)
    return ⟨o :: os, by simp [h]⟩

/-- A v1 record at `p`: fixed size, the value in the middle. -/
def parseRecV1 (p : Bytes) : Except Err Obj := do
  let n := (u32At p 12).toNat
  let ⟨hn⟩ ← require (n ≤ objValueLenV1)
  let ⟨hid⟩ ← require ((u32At p 5612).toNat ≤ 32)
  return { Obj.zero with
    handle := u32At p 0
    cls := u32At p 4
    keyType := u32At p 8
    label := vecAt p 16 64
    value := (p.drop 80).take n
    id := vecAt p 5580 32
    idLen := u32At p 5612
    flags := byteAt p 5616
    valueSecure := hasBit (byteAt p 5616) objfSensitive && n != 0
    value_le := Nat.le_trans (List.length_take_le ..) (Nat.le_trans hn (by decide))
    idLen_le := hid }

/-- The record loop of the v1 reader. -/
def parseRecsV1 (alloc : Nat → Bool) :
    (i n : Nat) → Bytes → Except Err { l : List Obj // l.length = n }
  | _, 0, _ => .ok ⟨[], rfl⟩
  | i, n + 1, p => do
    let o ← parseRecV1 p
    allocValue alloc i o
    let ⟨os, h⟩ ← parseRecsV1 alloc (i + 1) n (p.drop recV1Size)
    return ⟨o :: os, by simp [h]⟩

/-- `parse_objects_v2`, `_v3`, `_v4`: count, next handle and records after a magic. -/
def parseObjectsTagged (fixed : Nat)
    (body : (p : Bytes) → (n : Nat) → n ≤ objValueMax → Except Err Obj)
    (alloc : Nat → Bool) (buf : Bytes) : Except Err (ObjStore × UInt32) := do
  let ⟨hcount⟩ ← require ((u32At buf 4).toNat ≤ maxObjects)
  let ⟨os, h⟩ ← parseRecs fixed body alloc 0 (u32At buf 4).toNat (buf.drop 12)
  return (⟨os, h ▸ hcount⟩, u32At buf 8)

/-- `parse_objects_v1`: no magic, the count first. -/
def parseObjectsV1 (alloc : Nat → Bool) (buf : Bytes) : Except Err (ObjStore × UInt32) := do
  let ⟨hcount⟩ ← require ((u32At buf 0).toNat ≤ maxObjects)
  let _ ← require (8 + (u32At buf 0).toNat * recV1Size ≤ buf.length)
  let ⟨os, h⟩ ← parseRecsV1 alloc 0 (u32At buf 0).toNat (buf.drop 8)
  return (⟨os, h ▸ hcount⟩, u32At buf 4)

def parseObjectsV2 := parseObjectsTagged recV2Fixed (parseRecV2 recV2Fixed)
def parseObjectsV3 := parseObjectsTagged recV3Fixed (parseRecV3 recV3Fixed)
def parseObjectsV4 := parseObjectsTagged recV4Fixed (parseRecV4 recV4Fixed)

/-- `parse_objects`: dispatch on the leading word. On failure nothing of the store is
    kept, since `object_count` is set last. -/
def parseObjects (alloc : Nat → Bool) (buf : Bytes) : Except Err (ObjStore × UInt32) := do
  let _ ← require (8 ≤ buf.length)
  let magic := u32At buf 0
  if magic = blobV4Magic then
    let _ ← require (12 ≤ buf.length)
    parseObjectsV4 alloc buf
  else if magic = blobV3Magic then
    let _ ← require (12 ≤ buf.length)
    parseObjectsV3 alloc buf
  else if magic = blobV2Magic then
    let _ ← require (12 ≤ buf.length)
    parseObjectsV2 alloc buf
  else parseObjectsV1 alloc buf

end FreeHsm
