import FreeHsm.ForStd.StateExcept
import FreeHsm.Token.BlobRoundTrip

/-!
# What the blob reader accepts

Facts about `parse_objects` on bytes that need not come from the writer: which of
the four formats is used depends on the bytes alone, an allocation failure can only
turn a result into an error, and bytes too short for a record hold no object.
-/

namespace FreeHsm

open ByteLayout StateExcept List

/-! ## The allocator -/

theorem allocValue_full (i : Nat) (o : Obj) : allocValue (fun _ => true) i o = .ok () :=
  if_pos (.inr rfl)

variable {fixed i n : Nat} {alloc : Nat → Bool} {r : { l : List Obj // l.length = n }} {buf : Bytes}

variable {body : (p : Bytes) → (n : Nat) → n ≤ objValueMax → Except Err Obj}

/-- A record loop that succeeds reads the same records when no allocation fails. -/
theorem parseRecs_alloc {q : Bytes} (h : parseRecs fixed body alloc i n q = .ok r) :
    parseRecs fixed body (fun _ => true) i n q = .ok r := by
  induction n generalizing i q with
  | zero => exact h
  | succ n ih =>
    unfold parseRecs at h ⊢
    obtain ⟨_, hlen, h⟩ := bind_ok h
    obtain ⟨⟨hrec⟩, hreq, h⟩ := bind_ok h
    obtain ⟨_, hval, h⟩ := bind_ok h
    obtain ⟨o, hbody, h⟩ := bind_ok h
    obtain ⟨_, -, h⟩ := bind_ok h
    obtain ⟨os, hrest, h⟩ := bind_ok h
    simp only [hlen, hreq, hval, hbody, allocValue_full, ih hrest, bind, Except.bind]
    exact h

theorem parseRecsV1_alloc {p : Bytes} (h : parseRecsV1 alloc i n p = .ok r) :
    parseRecsV1 (fun _ => true) i n p = .ok r := by
  induction n generalizing i p with
  | zero => exact h
  | succ n ih =>
    unfold parseRecsV1 at h ⊢
    obtain ⟨o, hbody, h⟩ := bind_ok h
    obtain ⟨_, -, h⟩ := bind_ok h
    obtain ⟨os, hrest, h⟩ := bind_ok h
    simp only [hbody, allocValue_full, ih hrest, bind, Except.bind]
    exact h

theorem parseObjectsTagged_alloc {r : ObjStore × UInt32}
    (h : parseObjectsTagged fixed body alloc buf = .ok r) :
    parseObjectsTagged fixed body (fun _ => true) buf = .ok r := by
  unfold parseObjectsTagged at h ⊢
  obtain ⟨hcount, hreq, h⟩ := bind_ok h
  obtain ⟨os, hrecs, h⟩ := bind_ok h
  simp only [hreq, parseRecs_alloc hrecs, bind, Except.bind]
  exact h

/-! ## The format -/

theorem parseObjects_format (buf : Bytes) : (∃ e, ∀ alloc, parseObjects alloc buf = .error e) ∨
    (∃ fixed body, recV2Fixed ≤ fixed ∧
      ∀ alloc, parseObjects alloc buf = parseObjectsTagged fixed body alloc buf) ∨
    ∀ alloc, parseObjects alloc buf = parseObjectsV1 alloc buf := by
  by_cases h8 : 8 ≤ buf.length
  · by_cases h12 : 12 ≤ buf.length
    · by_cases h4 : u32At buf 0 = blobV4Magic
      · refine .inr (.inl ⟨recV4Fixed, parseRecV4 recV4Fixed, by decide, fun alloc => ?_⟩)
        simp only [parseObjects, require_of h8, require_of h12, bind, Except.bind, if_pos h4,
          parseObjectsV4]
      · by_cases h3 : u32At buf 0 = blobV3Magic
        · refine .inr (.inl ⟨recV3Fixed, parseRecV3 recV3Fixed, by decide, fun alloc => ?_⟩)
          simp only [parseObjects, require_of h8, require_of h12, bind, Except.bind, if_neg h4,
            if_pos h3, parseObjectsV3]
        · by_cases h2 : u32At buf 0 = blobV2Magic
          · refine .inr (.inl ⟨recV2Fixed, parseRecV2 recV2Fixed, by decide, fun alloc => ?_⟩)
            simp only [parseObjects, require_of h8, require_of h12, bind, Except.bind, if_neg h4,
              if_neg h3, if_pos h2, parseObjectsV2]
          · refine .inr (.inr fun alloc => ?_)
            simp only [parseObjects, require_of h8, bind, Except.bind, if_neg h4, if_neg h3,
              if_neg h2]
    · by_cases hmagic : u32At buf 0 = blobV4Magic ∨ u32At buf 0 = blobV3Magic ∨
          u32At buf 0 = blobV2Magic
      · refine .inl ⟨.functionFailed, fun alloc => ?_⟩
        have hshort : require (12 ≤ buf.length) = .error .functionFailed := dif_neg h12
        rcases hmagic with hm | hm | hm <;>
          simp [parseObjects, require_of h8, hshort, hm, bind, Except.bind, blobV2Magic,
            blobV3Magic, blobV4Magic]
      · simp only [not_or] at hmagic
        refine .inr (.inr fun alloc => ?_)
        simp only [parseObjects, require_of h8, bind, Except.bind, if_neg hmagic.1,
          if_neg hmagic.2.1, if_neg hmagic.2.2]
  · refine .inl ⟨.functionFailed, fun alloc => ?_⟩
    have hshort : require (8 ≤ buf.length) = .error .functionFailed := dif_neg h8
    simp [parseObjects, hshort, bind, Except.bind]

/-- What is read when allocations may fail is what is read when none does. -/
theorem parseObjects_alloc {r : ObjStore × UInt32} (h : parseObjects alloc buf = .ok r) :
    parseObjects (fun _ => true) buf = .ok r := by
  rcases parseObjects_format buf with ⟨e, hfmt⟩ | ⟨fixed, body, -, hfmt⟩ | hfmt
  · rw [hfmt] at h
    cases h
  · rw [hfmt] at h ⊢
    exact parseObjectsTagged_alloc h
  · rw [hfmt] at h ⊢
    unfold parseObjectsV1 at h ⊢
    obtain ⟨hcount, hreq, h⟩ := bind_ok h
    obtain ⟨_, hsize, h⟩ := bind_ok h
    obtain ⟨os, hrecs, h⟩ := bind_ok h
    simp only [hreq, hsize, parseRecsV1_alloc hrecs, bind, Except.bind]
    exact h

/-! ## Short blobs -/

theorem parseRecs_short {q : Bytes} (hlen : q.length < 4 + fixed)
    (h : parseRecs fixed body alloc i n q = .ok r) : n = 0 := by
  cases n with
  | zero => rfl
  | succ n =>
    unfold parseRecs at h
    obtain ⟨⟨hfour⟩, -, h⟩ := bind_ok h
    obtain ⟨⟨hrec⟩, -, -⟩ := bind_ok h
    rw [length_drop] at hrec
    omega

/-- A blob too short for one record of any format is an empty store, if it is accepted. -/
theorem parseObjects_short {s : ObjStore} {next : UInt32}
    (hlen : buf.length < 12 + (4 + recV2Fixed)) (h : parseObjects alloc buf = .ok (s, next)) :
    s.objs = [] := by
  rcases parseObjects_format buf with ⟨e, hfmt⟩ | ⟨fixed, body, hfixed, hfmt⟩ | hfmt
  · rw [hfmt] at h
    cases h
  · rw [hfmt] at h
    unfold parseObjectsTagged at h
    obtain ⟨hcount, -, h⟩ := bind_ok h
    obtain ⟨⟨os, hos⟩, hrecs, h⟩ := bind_ok h
    cases h
    have hzero := parseRecs_short (by rw [length_drop]; omega) hrecs
    exact eq_nil_of_length_eq_zero (hos.trans hzero)
  · rw [hfmt] at h
    unfold parseObjectsV1 at h
    obtain ⟨hcount, -, h⟩ := bind_ok h
    obtain ⟨⟨hsize⟩, -, h⟩ := bind_ok h
    obtain ⟨⟨os, hos⟩, hrecs, h⟩ := bind_ok h
    cases h
    have hzero : (u32At buf 0).toNat = 0 := by
      unfold recV1Size at hsize
      unfold recV2Fixed at hlen
      omega
    exact eq_nil_of_length_eq_zero (hos.trans hzero)

/-- A serialized store does not have the size of a key: it is the 12 header bytes, or has a
    record. -/
theorem serializeObjects_ne_key (s : ObjStore) (nextHandle : UInt32) (publicOnly : Bool) :
    (serializeObjects s nextHandle publicOnly).length ≠ 32 := by
  simp only [serializeObjects, length_append, length_le32]
  cases s.objs.filter (Obj.serialized publicOnly) with
  | nil => simp
  | cons o os =>
    rw [flatMap_cons, length_append, length_putRecord]
    unfold recV4Fixed
    omega

end FreeHsm
