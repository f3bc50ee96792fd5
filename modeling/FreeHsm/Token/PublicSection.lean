import FreeHsm.Token.Run

/-!
# Blob and public section

The file of a token holds its objects twice: all of them encrypted, the public
ones also in the clear. Only `write_atomic` writes either, so the two can be
related in every image of the file: the section parses to the public objects of
the blob, and it is the only place outside the ciphertext where object bytes
stand, since the header is made without the objects.
-/

namespace FreeHsm

open ByteLayout Transition Obj
open List hiding Vector

/-! ## Writing what was read -/

variable (s : ObjStore) (nextHandle : UInt32)

theorem length_flatMap_putRecord_le (os : List Obj) :
    (os.flatMap putRecord).length ≤ os.length * (4 + recV4Fixed + objValueMax) := by
  induction os with
  | nil => simp
  | cons o os ih =>
    have hvalue := o.value_le
    rw [flatMap_cons, length_append, length_putRecord, length_cons, Nat.succ_mul]
    omega

/-- Every serialization of a store is within the bound of the loader. -/
theorem length_serializeObjects_le (publicOnly : Bool) :
    (serializeObjects s nextHandle publicOnly).length ≤ objBlobMax := by
  have hcount : (s.objs.filter (serialized publicOnly)).length ≤ maxObjects :=
    Nat.le_trans (length_filter_le ..) s.length_le
  have hrecords := length_flatMap_putRecord_le (s.objs.filter (serialized publicOnly))
  have hmul := Nat.mul_le_mul_right (4 + recV4Fixed + objValueMax) hcount
  simp only [serializeObjects, length_append, length_le32, objBlobMax]
  omega

theorem le_length_serializeObjects (publicOnly : Bool) :
    12 ≤ (serializeObjects s nextHandle publicOnly).length := by
  simp only [serializeObjects, length_append, length_le32]
  omega

/-- A length the loader accepts fits the 32-bit field it is stored in. -/
theorem toNat_ofNat_of_le_objBlobMax {n : Nat} (h : n ≤ objBlobMax) : (UInt32.ofNat n).toNat = n := by
  have hmax : objBlobMax = 2148421644 := rfl
  rw [UInt32.toNat_ofNat']
  exact Nat.mod_eq_of_lt (by omega)

/-! ## Reading what was written -/

@[simp] theorem length_blobBytes (nonce : Nonce) (ct : Bytes) (tag : Tag) :
    (blobBytes nonce ct tag).length = 16 + ct.length + 16 := by
  simp only [blobBytes, length_append, length_le32, Vector.length_toList]
  omega

/-- The loader finds the blob that a write put after the header. -/
theorem locateBlob_blobBytes (nonce : Nonce) {ct : Bytes} (tag : Tag) (rest : Bytes)
    (hpos : 0 < ct.length) (hmax : ct.length ≤ objBlobMax) :
    locateBlob (blobBytes nonce ct tag ++ rest) = .ok (nonce, ct, tag) := by
  have hsegs : blobBytes nonce ct tag ++ rest =
      [le32 (UInt32.ofNat ct.length), nonce.toList, ct, tag.toList].flatten ++ rest := by
    simp [blobBytes]
  have hn : (u32At (blobBytes nonce ct tag ++ rest) 0).toNat = ct.length := by
    have hword : u32At (blobBytes nonce ct tag ++ rest) 0 = UInt32.ofNat ct.length := by
      rw [hsegs]; exact u32At_flatten 0 rest rfl rfl
    rw [hword, toNat_ofNat_of_le_objBlobMax hmax]
  have hnonce : vecAt (blobBytes nonce ct tag ++ rest) 4 12 = nonce := by
    rw [hsegs]; exact vecAt_flatten 1 rest rfl rfl
  have hct : ((blobBytes nonce ct tag ++ rest).drop 16).take ct.length = ct := by
    rw [hsegs, drop_flatten 2 rest rfl (by simp [offsetOf])]
    exact take_left
  have htag : vecAt (blobBytes nonce ct tag ++ rest) (16 + ct.length) 16 = tag := by
    rw [hsegs]; exact vecAt_flatten 3 rest rfl (by simp [offsetOf]; omega)
  have hlen : (blobBytes nonce ct tag ++ rest).length = 16 + ct.length + 16 + rest.length := by
    rw [length_append, length_blobBytes]
  simp only [locateBlob, hn, hnonce, hct, htag, hlen]
  rw [if_neg (by omega), if_neg (by omega), if_neg (by omega)]

/-- `public_view_load` finds the section that a write put after the blob. -/
theorem locatePublic_encode (h : Header) (nonce : Nonce) {ct : Bytes} (tag : Tag) (s : ObjStore)
    (next : UInt32) (hpos : 0 < ct.length) (hmax : ct.length ≤ objBlobMax) :
    locatePublic (h.encode ++ (blobBytes nonce ct tag ++ pubSection s next)) =
      some (serializeObjects s next true) := by
  have hpub := length_serializeObjects_le s next true
  have hpub' := le_length_serializeObjects s next true
  have hb : (h.encode ++ (blobBytes nonce ct tag ++ pubSection s next)).drop tokFileSize =
      blobBytes nonce ct tag ++ pubSection s next := h.drop_encode_append _
  have hn : (u32At (blobBytes nonce ct tag ++ pubSection s next) 0).toNat = ct.length := by
    have hword : u32At (blobBytes nonce ct tag ++ pubSection s next) 0 = UInt32.ofNat ct.length := by
      rw [blobBytes, append_assoc]; exact u32At_le32_append _ _
    rw [hword, toNat_ofNat_of_le_objBlobMax hmax]
  have hp : (blobBytes nonce ct tag ++ pubSection s next).drop (16 + ct.length + 16) =
      pubSection s next := by
    rw [← length_blobBytes nonce ct tag, drop_left]
  -- the section: magic, length, objects
  have hsec : pubSection s next = [le32 pubMagic,
      le32 (UInt32.ofNat (serializeObjects s next true).length)].flatten ++
        serializeObjects s next true := by
    simp [pubSection]
  have hmagic : u32At (pubSection s next) 0 = pubMagic := by
    rw [hsec]; exact u32At_flatten 0 _ rfl rfl
  have hlen : (u32At (pubSection s next) 4).toNat = (serializeObjects s next true).length := by
    have hword : u32At (pubSection s next) 4 =
        UInt32.ofNat (serializeObjects s next true).length := by
      rw [hsec]; exact u32At_flatten 1 _ rfl rfl
    rw [hword, toNat_ofNat_of_le_objBlobMax hpub]
  have hbody : (pubSection s next).drop 8 = serializeObjects s next true := by
    rw [hsec]; rfl
  have hv4 : u32At (serializeObjects s next true) 0 = blobV4Magic := u32At_le32_append _ _
  have hsize : (pubSection s next).length = 8 + (serializeObjects s next true).length := by
    simp only [pubSection, length_append, length_le32]
    omega
  have htotal : (h.encode ++ (blobBytes nonce ct tag ++ pubSection s next)).length =
      tokFileSize + (16 + ct.length + 16 + (8 + (serializeObjects s next true).length)) := by
    rw [length_append, length_append, h.length_encode, length_blobBytes, hsize]
  simp only [locatePublic, hb, hn, hp, hlen, hbody, hmagic, hv4, hsize, htotal]
  rw [if_neg (by omega), if_neg (by omega), if_neg (by omega), if_neg (by simp; omega),
    if_neg (by simp)]

/-! ## The header -/

variable {C : Crypto}

namespace Token

/-- The token without its objects. -/
def bare (t : Token) : Token :=
  { t with objects := .empty, nextHandle := 0, objectsLoaded := false, objectsPublic := false }

variable (env : Env) (t : Token) (role : Role) (pin : Bytes)

end Token

/-- The headers that the token in memory has in a run. -/
def World.headers (C : Crypto) (w : World) : List TokenOp → List Header
  | [] => w.tok.toList.map (·.header)
  | op :: ops => w.tok.toList.map (·.header) ++ ((w.mid C op).tok.toList.map (·.header) ++
      (w.step C op).headers C ops)

/-! ## Every image of the file -/

/-- What may follow the header of a file whose history is `log`: nothing, or the blob that a
    write of `log` encrypted, with the section of the same store. -/
inductive TailOk (C : Crypto) (log : List Event) : Bytes → Prop
  | empty : TailOk C log []
  | stored (t : Token) (dek : Key) (nonce : Nonce) (ct : Bytes) (tag : Tag)
      (hlog : .sealed t dek nonce ∈ log)
      (hseal : C.encrypt dek nonce t.header.aad (serializeObjects t.objects t.nextHandle false) =
        (ct, tag)) :
    TailOk C log (blobBytes nonce ct tag ++ pubSection t.objects t.nextHandle)

theorem length_sealed {s : ObjStore} {next : UInt32} {dek : Key} {nonce : Nonce} {aad ct : Bytes}
    {tag : Tag} (h : C.encrypt dek nonce aad (serializeObjects s next false) = (ct, tag)) :
    0 < ct.length ∧ ct.length ≤ objBlobMax := by
  have hlen := C.length_encrypt dek nonce aad (serializeObjects s next false)
  have hpos := le_length_serializeObjects s next false
  have hmax := length_serializeObjects_le s next false
  rw [h] at hlen
  dsimp only at hlen
  omega

variable {d : Disk} {H H' : Header → Prop}

theorem TailOk.mono {log log' : List Event} {tail : Bytes} (h : TailOk C log tail)
    (hsub : ∀ e ∈ log, e ∈ log') : TailOk C log' tail := by
  cases h with
  | empty => exact .empty
  | stored t dek nonce ct tag hlog hseal => exact .stored t dek nonce ct tag (hsub _ hlog) hseal

/-- The file, if there is one, is a header of some kind with an admissible tail. -/
def FileOk (C : Crypto) (H : Header → Prop) (d : Disk) : Prop :=
  ∀ f, d.file = some f → ∃ h, H h ∧ ∃ tail, f = h.encode ++ tail ∧ TailOk C d.log tail

theorem FileOk.mono (h : FileOk C H d) (hsub : ∀ h, H h → H' h) : FileOk C H' d := by
  intro f hf
  obtain ⟨header, hheader, htail⟩ := h f hf
  exact ⟨header, hsub header hheader, htail⟩

theorem fileOk_record (d : Disk) (es : List Event) (h : FileOk C H d) :
    FileOk C H (d.record es) := by
  intro f hf
  obtain ⟨header, hheader, tail, rfl, htail⟩ := h f hf
  exact ⟨header, hheader, tail, rfl, htail.mono fun e he => mem_append_left es he⟩

theorem FileOk.fileTail (h : FileOk C H d) : TailOk C d.log (fileTail d.file) := by
  cases hfile : d.file with
  | none => exact .empty
  | some f =>
    obtain ⟨header, -, tail, rfl, htail⟩ := h f hfile
    simp only [FreeHsm.fileTail, header.drop_encode_append]
    exact htail

/-- A write leaves an admissible file, whichever of its paths it takes. -/
theorem fileOk_write {env : Env} {t : Token} {d' : Disk} {rv : Rv}
    (h : writeAtomic C env t d = (rv, d')) (ht : rv = .ok → H t.header)
    (hd : FileOk C H d) : FileOk C H d' := by
  cases writeAtomic_cases h with
  | failed e => exact fileOk_record d _ hd
  | lost dek hdek hloaded => exact fileOk_record d _ hd
  | kept tail hclosed htail hopen =>
    rintro f ⟨⟩
    refine ⟨t.header, ht rfl, tail, rfl, ?_⟩
    cases hfails : env.openFails with
    | true =>
      rw [hopen hfails]
      exact .empty
    | false =>
      rw [htail hfails]
      exact hd.fileTail.mono fun e he => mem_append_left _ he
  | emptied hopen hobjs =>
    rintro f ⟨⟩
    exact ⟨t.header, ht rfl, [], rfl, .empty⟩
  | stored dek hdek hloaded ct tag hseal =>
    rintro f ⟨⟩
    exact ⟨t.header, ht rfl, _, rfl, .stored t dek _ ct tag (by simp) hseal⟩

end FreeHsm
