import FreeHsm.Token.BlobRoundTrip
import FreeHsm.Token.State

/-!
# The token file

A token file is a 317-byte header, then nothing, or the encrypted objects blob
(length, nonce, ciphertext, tag) followed by the public section. This module has
the writer (`write_atomic`), the two readers of what follows the header
(`objects_decrypt_load`, `public_view_load`), and what each of them can do.
-/

namespace FreeHsm

open ByteLayout List

/-- `FHSM_TOK_MAGIC`, "FHSM". -/
def tokMagic : Bytes := [0x46, 0x48, 0x53, 0x4D]
/-- `FHSM_TOK_VERSION`. -/
def tokVersion : UInt32 := 1
/-- `FHSM_TOK_FILE_SZ`: the size of the header. -/
def tokFileSize : Nat := 317
/-- `FHSM_PUB_MAGIC`. -/
def pubMagic : UInt32 := 0xF5B5B001

/-! ## The header -/

namespace Header

/-- The header fields in the order `write_atomic` lays them out. -/
def segs (h : Header) : List Bytes :=
  [ tokMagic,                                -- 0
    le32 tokVersion,                         -- 4
    h.label.toList,                          -- 8
    h.serial.toList,                         -- 72
    le32 h.pbkdf2Iter,                       -- 136
    h.wrap.so.salt.toList,                   -- 140
    h.wrap.so.nonce.toList,                  -- 156
    h.wrap.so.ct.toList,                     -- 168
    h.wrap.user.salt.toList,                 -- 216
    h.wrap.user.nonce.toList,                -- 232
    h.wrap.user.ct.toList,                   -- 244
    [if h.userInitialized then 1 else 0],    -- 292
    le32 h.failed.so,                        -- 293
    le32 h.failed.user,                      -- 297
    List.replicate 8 0,                      -- 301, throttle deadlines are not stored
    List.replicate 8 0 ]                     -- 309

def encode (h : Header) : Bytes := h.segs.flatten

/-- The header fields `fhsm_token_load` reads; `none` when magic or version are wrong. -/
def decode (buf : Bytes) : Option Header :=
  if buf.take 4 = tokMagic ∧ u32At buf 4 = tokVersion then
    some
      { label := vecAt buf 8 64
        serial := vecAt buf 72 64
        pbkdf2Iter := u32At buf 136
        wrap :=
          { so := { salt := vecAt buf 140 16, nonce := vecAt buf 156 12, ct := vecAt buf 168 48 }
            user := { salt := vecAt buf 216 16, nonce := vecAt buf 232 12, ct := vecAt buf 244 48 } }
        userInitialized := byteAt buf 292 != 0
        failed := { so := u32At buf 293, user := u32At buf 297 } }
  else none

@[simp] theorem length_encode (h : Header) : h.encode.length = tokFileSize := by
  simp [encode, segs, tokMagic, tokFileSize]

@[simp] theorem drop_encode_append (h : Header) (rest : Bytes) :
    (h.encode ++ rest).drop tokFileSize = rest := by
  rw [← h.length_encode, drop_left]

private theorem offsetOf_segs (h : Header) :
    (range 14).map (offsetOf h.segs) =
      [0, 4, 8, 72, 136, 140, 156, 168, 216, 232, 244, 292, 293, 297] := by
  simp [range, range.loop, offsetOf, segs, tokMagic]

/-- What `write_atomic` stores in the header is what `fhsm_token_load` reads from it. -/
theorem decode_encode (h : Header) (rest : Bytes) : decode (h.encode ++ rest) = some h := by
  have hoff := h.offsetOf_segs
  simp only [range, range.loop, map_cons, map_nil, cons.injEq, and_true]
    at hoff
  obtain ⟨-, o1, o2, o3, o4, o5, o6, o7, o8, o9, o10, o11, o12, o13⟩ := hoff
  have hmagic : (h.encode ++ rest).take 4 = tokMagic := rfl
  have hversion : u32At (h.encode ++ rest) 4 = tokVersion := u32At_flatten 1 rest rfl o1
  have hlabel : vecAt (h.encode ++ rest) 8 64 = h.label := vecAt_flatten 2 rest rfl o2
  have hserial : vecAt (h.encode ++ rest) 72 64 = h.serial := vecAt_flatten 3 rest rfl o3
  have hiter : u32At (h.encode ++ rest) 136 = h.pbkdf2Iter := u32At_flatten 4 rest rfl o4
  have hsoSalt : vecAt (h.encode ++ rest) 140 16 = h.wrap.so.salt := vecAt_flatten 5 rest rfl o5
  have hsoNonce : vecAt (h.encode ++ rest) 156 12 = h.wrap.so.nonce := vecAt_flatten 6 rest rfl o6
  have hsoCt : vecAt (h.encode ++ rest) 168 48 = h.wrap.so.ct := vecAt_flatten 7 rest rfl o7
  have huSalt : vecAt (h.encode ++ rest) 216 16 = h.wrap.user.salt := vecAt_flatten 8 rest rfl o8
  have huNonce : vecAt (h.encode ++ rest) 232 12 = h.wrap.user.nonce :=
    vecAt_flatten 9 rest rfl o9
  have huCt : vecAt (h.encode ++ rest) 244 48 = h.wrap.user.ct := vecAt_flatten 10 rest rfl o10
  have hinit : byteAt (h.encode ++ rest) 292 = if h.userInitialized then 1 else 0 :=
    byteAt_flatten 11 rest rfl o11
  have hfailedSo : u32At (h.encode ++ rest) 293 = h.failed.so := u32At_flatten 12 rest rfl o12
  have hfailedUser : u32At (h.encode ++ rest) 297 = h.failed.user :=
    u32At_flatten 13 rest rfl o13
  have hbool : (byteAt (h.encode ++ rest) 292 != 0) = h.userInitialized := by
    rw [hinit]; cases h.userInitialized <;> rfl
  rw [decode, if_pos ⟨hmagic, hversion⟩]
  simp only [hlabel, hserial, hiter, hsoSalt, hsoNonce, hsoCt, huSalt, huNonce, huCt, hbool,
    hfailedSo, hfailedUser]

end Header

/-! ## Writing -/

/-- The clear copy of the public objects at the end of the file. -/
def pubSection (objs : ObjStore) (nextHandle : UInt32) : Bytes :=
  let pub := serializeObjects objs nextHandle true
  le32 pubMagic ++ (le32 (UInt32.ofNat pub.length) ++ pub)

/-- The encrypted blob as it stands in the file. -/
def blobBytes (nonce : Nonce) (ct : Bytes) (tag : Tag) : Bytes :=
  le32 (UInt32.ofNat ct.length) ++ (nonce.toList ++ (ct ++ tag.toList))

/-- What a file holds after its header. -/
def fileTail : Option Bytes → Bytes
  | none => []
  | some f => f.drop tokFileSize

/-- `read_existing_blob`. A file that cannot be opened counts as absent. -/
def readExistingBlob (env : Env) (file : Option Bytes) : Except Err Bytes :=
  if env.openFails then .ok []
  else match file with
    | none => .ok []
    | some f =>
      if f.length ≤ tokFileSize then .ok []
      else if f.length - tokFileSize > 2 * (objBlobMax + 32) then .error .functionFailed
      else match env.readErr with
        | some e => .error e
        | none => .ok (f.drop tokFileSize)

/-- What `write_atomic` puts after the header, with the encryption it made. -/
def storeBytes (C : Crypto) (env : Env) (t : Token) (file : Option Bytes) :
    Except Err (Bytes × List Event) :=
  match t.liveDek, t.objectsLoaded with
  | some dek, true =>
    if t.objects.objs = [] then .ok ([], [])
    else if !env.heapAlloc then .error .hostMemory
    else match env.sealBlob C dek t.header.aad (serializeObjects t.objects t.nextHandle false) with
      | .error e => .error e
      | .ok (ct, tag) =>
        .ok (blobBytes env.rngBlobNonce ct tag ++ pubSection t.objects t.nextHandle,
          [.sealed t dek env.rngBlobNonce])
  | _, _ =>
    -- the store in memory is not the token's: keep the bytes on disk
    (readExistingBlob env file).map fun kept => (kept, [])

/-- `write_atomic`. -/
def writeAtomic (C : Crypto) (env : Env) (t : Token) (d : Disk) : Rv × Disk :=
  match storeBytes C env t d.file with
  | .error e => (.err e, d.record [.wrote (.err e)])
  | .ok (tail, es) =>
    if env.writeOk then
      (.ok, ⟨some (t.header.encode ++ tail), d.log ++ (es ++ [.wrote .ok])⟩)
    else (.err .functionFailed, d.record (es ++ [.wrote (.err .functionFailed)]))

/-- Everything `writeAtomic C env t d` can do. -/
inductive WriteOutcome (C : Crypto) (env : Env) (t : Token) (d : Disk) : Rv → Disk → Prop
  /-- Nothing was encrypted and the file stays. -/
  | failed (e : Err) : WriteOutcome C env t d (.err e) (d.record [.wrote (.err e)])
  /-- The blob was encrypted, but the file stays. -/
  | lost (dek : Key) (hdek : t.liveDek = some dek) (hloaded : t.objectsLoaded = true)
      (hobjs : t.objects.objs ≠ []) (hcan : env.moduleError = false ∧ env.blobErr = none) :
    WriteOutcome C env t d (.err .functionFailed)
      (d.record [.sealed t dek env.rngBlobNonce, .wrote (.err .functionFailed)])
  /-- A new header over the old blob and section. -/
  | kept (tail : Bytes) (hclosed : t.storeOpen = false)
      (htail : env.openFails = false → tail = fileTail d.file)
      (hopen : env.openFails = true → tail = []) :
    WriteOutcome C env t d .ok ⟨some (t.header.encode ++ tail), d.log ++ [.wrote .ok]⟩
  /-- The token has no objects: a header alone. -/
  | emptied (hopen : t.storeOpen = true) (hobjs : t.objects.objs = []) :
    WriteOutcome C env t d .ok ⟨some (t.header.encode ++ []), d.log ++ [.wrote .ok]⟩
  /-- A new blob and section. -/
  | stored (dek : Key) (hdek : t.liveDek = some dek) (hloaded : t.objectsLoaded = true) (ct : Bytes)
      (tag : Tag) (hseal : C.encrypt dek env.rngBlobNonce t.header.aad
        (serializeObjects t.objects t.nextHandle false) = (ct, tag))
      (hobjs : t.objects.objs ≠ []) (hcan : env.moduleError = false ∧ env.blobErr = none) :
    WriteOutcome C env t d .ok
      ⟨some (t.header.encode ++
          (blobBytes env.rngBlobNonce ct tag ++ pubSection t.objects t.nextHandle)),
        d.log ++ [.sealed t dek env.rngBlobNonce, .wrote .ok]⟩

variable {env : Env} {file : Option Bytes} {t t' : Token} {C : Crypto} {rv : Rv} {es : List Event}

theorem readExistingBlob_ok {kept : Bytes} (h : readExistingBlob env file = .ok kept) :
    (env.openFails = false → kept = fileTail file) ∧ (env.openFails = true → kept = []) := by
  unfold readExistingBlob at h
  cases hopen : env.openFails with
  | true => simp_all
  | false =>
    refine ⟨fun _ => ?_, nofun⟩
    cases file with
    | none => simp_all [fileTail]
    | some f =>
      simp only [hopen, Bool.false_eq_true, ↓reduceIte] at h
      by_cases hshort : f.length ≤ tokFileSize
      · rw [if_pos hshort] at h
        cases h
        exact (drop_eq_nil_of_le hshort).symm
      · rw [if_neg hshort] at h
        split at h
        · cases h
        · split at h <;> cases h
          rfl

theorem storeOpen_eq_true :
    t.storeOpen = true ↔ (∃ dek, t.liveDek = some dek) ∧ t.objectsLoaded = true := by
  simp [Token.storeOpen, Token.dekLive, Option.isSome_iff_exists]

theorem writeAtomic_cases {d d' : Disk} (h : writeAtomic C env t d = (rv, d')) :
    WriteOutcome C env t d rv d' := by
  unfold writeAtomic at h
  by_cases hopen : t.storeOpen = true
  · obtain ⟨⟨dek, hdek⟩, hloaded⟩ := storeOpen_eq_true.mp hopen
    simp only [storeBytes, hdek, hloaded] at h
    by_cases hobjs : t.objects.objs = []
    · -- empty store
      simp only [if_pos hobjs, nil_append] at h
      split at h <;> cases h
      · exact .emptied hopen hobjs
      · exact .failed _
    · rw [if_neg hobjs] at h
      by_cases hheap : env.heapAlloc = true
      · simp only [hheap, Bool.not_true, Bool.false_eq_true, ↓reduceIte, Env.sealBlob] at h
        by_cases herror : env.moduleError = true
        · simp only [herror, ↓reduceIte] at h
          cases h
          exact .failed _
        · cases hblob : env.blobErr with
          | some e =>
            simp only [herror, hblob, Bool.false_eq_true, ↓reduceIte] at h
            cases h
            exact .failed _
          | none =>
            simp only [herror, hblob, Bool.false_eq_true, ↓reduceIte] at h
            split at h <;> cases h
            · exact .stored dek hdek hloaded _ _ rfl hobjs ⟨by simpa using herror, hblob⟩
            · exact .lost dek hdek hloaded hobjs ⟨by simpa using herror, hblob⟩
      · simp only [hheap, Bool.not_false, ↓reduceIte] at h
        cases h
        exact .failed _
  · -- the bytes on disk are kept
    have hclosed : t.storeOpen = false := by simpa using hopen
    have hbytes : storeBytes C env t d.file =
        (readExistingBlob env d.file).map fun kept => (kept, []) := by
      unfold storeBytes
      split
      · rename_i dek hdek hloaded
        exact absurd (storeOpen_eq_true.mpr ⟨⟨dek, hdek⟩, hloaded⟩) hopen
      · rfl
    rw [hbytes] at h
    cases hread : readExistingBlob env d.file with
    | error e =>
      rw [hread] at h
      cases h
      exact .failed e
    | ok kept =>
      simp only [hread, Except.map, nil_append] at h
      split at h <;> cases h
      · exact .kept kept hclosed (readExistingBlob_ok hread).1 (readExistingBlob_ok hread).2
      · exact .failed _

/-! ## Reading the objects -/

/-- Nonce, ciphertext and tag of the blob in the bytes `b` that follow the header. -/
def locateBlob (b : Bytes) : Except Err (Nonce × Bytes × Tag) :=
  let n := (u32At b 0).toNat
  if b.length < 16 then .error .functionFailed
  else if n = 0 ∨ n > objBlobMax then .error .functionFailed
  else if b.length < 16 + n + 16 then .error .functionFailed
  else .ok (vecAt b 4 12, (b.drop 16).take n, vecAt b (16 + n) 16)

/-- Decrypt the blob with the DEK, and when that fails with 32 zero bytes: stores of an
    affected release were encrypted under a wiped DEK. -/
def openBlob (C : Crypto) (env : Env) (dek : Key) (aad : Bytes) (nonce : Nonce) (ct : Bytes)
    (tag : Tag) : Except Err (Bytes × List Event) :=
  match env.aesGcmDecrypt C 1 dek nonce aad ct tag with
  | .ok pt => .ok (pt, [.opened dek nonce aad ct tag pt])
  | .error _ =>
    match env.aesGcmDecrypt C 2 zeroKey nonce aad ct tag with
    | .ok pt => .ok (pt, [.opened zeroKey nonce aad ct tag pt])
    | .error e => .error e

/-- `objects_decrypt_load`: the return code, the token and the decryption made. The objects
    in memory are gone whatever happens next. -/
def objectsDecryptLoad (C : Crypto) (env : Env) (t : Token) (file : Option Bytes) :
    Rv × Token × List Event :=
  match t.liveDek with
  | none => (.err .userNotLoggedIn, t, [])
  | some dek =>
    let t := { t with objects := .empty, objectsPublic := false }
    match (if env.openFails then none else file), env.readErr with
    | none, _ => (.err .tokenNotPresent, t, [])
    | some _, some e => (.err e, t, [])
    | some f, none =>
      if f.length ≤ tokFileSize then
        (.ok, { t with nextHandle := 1, objectsLoaded := true }, [])
      else match locateBlob (f.drop tokFileSize) with
        | .error e => (.err e, t, [])
        | .ok (nonce, ct, tag) =>
          if !env.heapAlloc then (.err .hostMemory, t, [])
          else match openBlob C env dek t.header.aad nonce ct tag with
            | .error e => (.err e, t, [])
            | .ok (pt, es) =>
              match parseObjects env.valueAlloc pt with
              | .error e => (.err e, t, es)
              | .ok (objs, next) =>
                (.ok, { t with objects := objs, nextHandle := next, objectsLoaded := true }, es)

/-- The plaintext of the public section, when the file has a well-formed one. -/
def locatePublic (f : Bytes) : Option Bytes :=
  let b := f.drop tokFileSize
  let n := (u32At b 0).toNat
  let p := b.drop (16 + n + 16)
  let len := (u32At p 4).toNat
  if f.length ≤ tokFileSize + 16 then none
  else if n = 0 ∨ n > objBlobMax then none
  else if p.length < 8 then none
  else if u32At p 0 ≠ pubMagic ∨ len < 12 ∨ len > objBlobMax ∨ 8 + len ≠ p.length then none
  else if u32At (p.drop 8) 0 ≠ blobV4Magic then none
  else some (p.drop 8)

/-- `public_view_load`: the objects anyone may see before a login. -/
def publicViewLoad (env : Env) (t : Token) (file : Option Bytes) : Token :=
  match (if env.openFails then none else file), env.readErr with
  | some f, none =>
    if f.length = tokFileSize then { t with objectsPublic := true }
    else match locatePublic f with
      | none => t
      | some pt =>
        if !env.heapAlloc then t
        else match parseObjects env.valueAlloc pt with
          | .error _ => { t with objects := .empty }
          | .ok (objs, next) =>
            if objs.objs.all Obj.isPublic then
              { t with objects := objs, nextHandle := next, objectsPublic := true }
            else { t with objects := .empty, nextHandle := next }
  | _, _ => t

/-- An accepted decryption of the blob is a successful `decrypt`, under the DEK or under
    the zero key, and it is recorded. -/
theorem openBlob_ok {dek : Key} {aad : Bytes} {nonce : Nonce} {ct : Bytes} {tag : Tag} {pt : Bytes}
    (h : openBlob C env dek aad nonce ct tag = .ok (pt, es)) :
    ∃ key, (key = dek ∨ key = zeroKey) ∧ C.decrypt key nonce aad ct tag = some pt ∧
      es = [.opened key nonce aad ct tag pt] := by
  unfold openBlob at h
  split at h
  · rename_i hopen
    cases h
    exact ⟨dek, .inl rfl, aesGcmDecrypt_ok hopen, rfl⟩
  · split at h
    · rename_i hopen
      cases h
      exact ⟨zeroKey, .inr rfl, aesGcmDecrypt_ok hopen, rfl⟩
    · cases h

/-- Everything `objects_decrypt_load` can do. -/
inductive LoadObjectsOutcome (C : Crypto) (env : Env) (t : Token) (file : Option Bytes) :
    Rv → Token → List Event → Prop
  | refused (hdek : t.liveDek = none) : LoadObjectsOutcome C env t file (.err .userNotLoggedIn) t []
  /-- Nothing was decrypted; the store is empty and not loaded. -/
  | failed (e : Err) :
    LoadObjectsOutcome C env t file (.err e) { t with objects := .empty, objectsPublic := false } []
  /-- The blob was decrypted but does not parse. -/
  | malformed (e : Err) (key : Key) (nonce : Nonce) (ct : Bytes) (tag : Tag) (pt : Bytes)
      (hopen : C.decrypt key nonce t.header.aad ct tag = some pt) :
    LoadObjectsOutcome C env t file (.err e) { t with objects := .empty, objectsPublic := false }
      [.opened key nonce t.header.aad ct tag pt]
  | noBlob :
    LoadObjectsOutcome C env t file .ok
      { t with objects := .empty, objectsPublic := false, nextHandle := 1, objectsLoaded := true } []
  | loaded (f : Bytes) (dek key : Key) (nonce : Nonce) (ct : Bytes) (tag : Tag) (pt : Bytes)
      (objs : ObjStore) (next : UInt32) (hfile : file = some f)
      (hblob : locateBlob (f.drop tokFileSize) = .ok (nonce, ct, tag))
      (hdek : t.liveDek = some dek) (hkey : key = dek ∨ key = zeroKey)
      (hopen : C.decrypt key nonce t.header.aad ct tag = some pt)
      (hparse : parseObjects env.valueAlloc pt = .ok (objs, next)) :
    LoadObjectsOutcome C env t file .ok
      { t with objects := objs, objectsPublic := false, nextHandle := next, objectsLoaded := true }
      [.opened key nonce t.header.aad ct tag pt]

theorem objectsDecryptLoad_cases (h : objectsDecryptLoad C env t file = (rv, t', es)) :
    LoadObjectsOutcome C env t file rv t' es := by
  unfold objectsDecryptLoad at h
  split at h
  · rename_i hdek
    cases h
    exact .refused hdek
  · rename_i dek hdek
    dsimp only at h
    split at h
    · cases h; exact .failed _
    · cases h; exact .failed _
    · rename_i f hfile hread
      have hfile : file = some f := by
        split at hfile
        · cases hfile
        · exact hfile
      split at h
      · cases h; exact .noBlob
      split at h
      · cases h; exact .failed _
      rename_i nonce ct tag hblob
      split at h
      · cases h; exact .failed _
      split at h
      · cases h; exact .failed _
      rename_i pt es hopen
      obtain ⟨key, hkey, hdecrypt, rfl⟩ := openBlob_ok hopen
      split at h
      · cases h
        exact .malformed _ key nonce ct tag pt hdecrypt
      · rename_i objs next hparse
        cases h
        exact .loaded f dek key nonce ct tag pt objs next hfile hblob hdek hkey hdecrypt hparse

theorem publicViewLoad_frame (env : Env) (t : Token) (file : Option Bytes) :
    ∃ objs next pub, publicViewLoad env t file =
      { t with objects := objs, nextHandle := next, objectsPublic := pub } := by
  unfold publicViewLoad
  repeat' split
  all_goals exact ⟨_, _, _, rfl⟩

end FreeHsm
