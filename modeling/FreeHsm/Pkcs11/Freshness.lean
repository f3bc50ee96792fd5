import FreeHsm.ForStd.TwoRun
import FreeHsm.ForStd.Transition
import FreeHsm.Pkcs11.Digest
import FreeHsm.Pkcs11.Signature

/-!
# What an operation depends on

Two slots are alike when no call can tell them apart: they are both running with the
same parameters and contexts, or both idle with the same leftover contexts. Every
call on alike slots gives the same answer and leaves alike slots. In particular
`op_init` overwrites or masks everything an earlier operation left behind, except
for `cipher_ctx` and `mac_ctx`.
-/

namespace FreeHsm

open StateExcept
open List hiding Vector

variable {P : Provider}

/-- Slots that no call can tell apart. -/
structure Op.Alike (a b : Op P) : Prop where
  active : a.live.active = b.live.active
  cipherCtx : a.live.cipherCtx = b.live.cipherCtx
  macCtx : a.live.macCtx = b.live.macCtx
  live : a.live.active = true → a.live = b.live
  setup : a.live.active = true → a.params.setup = b.params.setup

/-- Two idle slots with the same leftover contexts. -/
structure Op.BothIdle (a b : Op P) : Prop where
  left : a.live.active = false
  right : b.live.active = false
  cipherCtx : a.live.cipherCtx = b.live.cipherCtx
  macCtx : a.live.macCtx = b.live.macCtx

variable {a b : Op P} {n : Nat}

theorem Op.BothIdle.alike (h : a.BothIdle b) : a.Alike b where
  active := by rw [h.left, h.right]
  cipherCtx := h.cipherCtx
  macCtx := h.macCtx
  live hact := by rw [h.left] at hact; cases hact
  setup hact := by rw [h.left] at hact; cases hact

/-! ## Leftover bytes -/

/-- The same bytes written over two buffers that agree on their first `w` bytes. -/
theorem take_overlay_max {u v : Vector UInt8 n} {bs : Bytes} {w : Nat} (hlen : bs.length ≤ n)
    (h : u.toList.take w = v.toList.take w) :
    (overlay u bs).toList.take (max w bs.length) = (overlay v bs).toList.take (max w bs.length) := by
  have hover (x : Vector UInt8 n) : (overlay x bs).toList = bs ++ x.toList.drop bs.length := by
    refine ByteLayout.toList_vecAt ?_
    simp only [length_append, length_drop, Vector.length_toList]
    omega
  have hdrop : (u.toList.drop bs.length).take (w - bs.length) =
      (v.toList.drop bs.length).take (w - bs.length) := by
    rw [← drop_take, ← drop_take, h]
  rw [hover, hover, take_append, take_append]
  congr 1
  rcases le_total w bs.length with hle | hle
  · simp [max_eq_right hle]
  · rw [max_eq_left hle]
    exact hdrop

theorem take_overlay_eq {k : Nat} (u v : Vector UInt8 n) {bs : Bytes} (hlen : bs.length ≤ n)
    (hk : k ≤ bs.length) : (overlay u bs).toList.take k = (overlay v bs).toList.take k := by
  have h := take_overlay_max (u := u) (v := v) (w := 0) hlen rfl
  rw [zero_max] at h
  have h' := congrArg (take k) h
  rwa [take_take, take_take, min_eq_left hk] at h'

/-! ## Two runs of `op_init` -/

/-- Which groups of fields `op_init` has dealt with. -/
structure Dealt where
  oaep : Bool := false
  pss : Bool := false
  pq : Bool := false
  hedge : Bool := false
  hm : Bool := false
  hmHedge : Bool := false

/-- A running part without its pre-hash mark, which `op_init` clears late. -/
def Running.unhashed (l : Running P) : Running P := { l with hmPrehashed := false }

/-- Two slots in the middle of the same `op_init`: what is dealt with looks the same. The
first `w` bytes of `gcm_iv` are common. -/
structure Op.InStep (mech : UInt32) (w : Nat) (d : Dealt) (a b : Op P) : Prop where
  idle : a.live.active = false
  live : a.live.unhashed = b.live.unhashed
  keyHandle : a.params.keyHandle = b.params.keyHandle
  mechanism : a.params.mechanism = mech
  mechanism' : b.params.mechanism = mech
  haveIv : a.params.haveIv = b.params.haveIv
  iv : a.params.haveIv = true →
    a.params.iv.toList.take (ivBytes mech) = b.params.iv.toList.take (ivBytes mech)
  given : a.params.gcm.given = b.params.gcm.given
  ivLen : a.params.gcm.ivLen = b.params.gcm.ivLen
  ivLen_le : a.params.gcm.ivLen ≤ w
  nonce : a.params.gcm.iv.toList.take w = b.params.gcm.iv.toList.take w
  tagLen : a.params.gcm.tagLen = b.params.gcm.tagLen
  ctxAuth : a.params.ctxAuthRequired = b.params.ctxAuthRequired
  oaep : d.oaep = true → mech = ckmRsaPkcsOaep.toUInt32 → a.params.oaep = b.params.oaep
  pss : d.pss = true → a.params.pss = b.params.pss
  pqGiven : d.pq = true → a.params.pq.given = b.params.pq.given
  pqCtx : d.pq = true → a.params.pq.context = b.params.pq.context
  pqTooLong : d.pq = true → a.params.pq.tooLong = b.params.pq.tooLong
  hedge : d.hedge = true → mech = ckmMlDsa.toUInt32 ∨ mech = ckmSlhDsa.toUInt32 →
    a.params.pq.hedge = b.params.pq.hedge
  hedge' : d.hmHedge = true → hmldsaIs mech = true → a.params.pq.hedge = b.params.pq.hedge
  hmRow : d.hm = true → a.params.hmRow = b.params.hmRow
  prehashed : d.hm = true → a.live.hmPrehashed = b.live.hmPrehashed

namespace Op.InStep

variable {mech : UInt32} {w : Nat} {d : Dealt} {a b : Op P}

variable (h : InStep mech w d a b)

include h

theorem idle' : b.live.active = false := by
  have hact : a.live.unhashed.active = b.live.unhashed.active := congrArg Running.active h.live
  change a.live.active = b.live.active at hact
  rw [← hact, h.idle]

theorem bothIdle : BothIdle a b where
  left := h.idle
  right := h.idle'
  cipherCtx :=
    show a.live.unhashed.cipherCtx = b.live.unhashed.cipherCtx from congrArg Running.cipherCtx h.live
  macCtx := show a.live.unhashed.macCtx = b.live.unhashed.macCtx from congrArg Running.macCtx h.live

theorem putIv {u v : Vector UInt8 16}
    (hiv : u.toList.take (ivBytes mech) = v.toList.take (ivBytes mech)) :
    InStep mech w d (a.putIv u) (b.putIv v) :=
  { h with
    haveIv := rfl
    iv := fun _ => hiv }

variable {bs : Bytes}

theorem putNonce {u v : Vector UInt8 512} {k : Nat} (hk : w ≤ k)
    (hiv : u.toList.take k = v.toList.take k) : InStep mech k d (a.putNonce u) (b.putNonce v) :=
  { h with
    ivLen_le := le_trans h.ivLen_le hk
    nonce := hiv }

theorem setGcm {n t : Nat} (hn : n ≤ w) : InStep mech w d (a.setGcm n t) (b.setGcm n t) := { h with
    given := rfl
    ivLen := rfl
    ivLen_le := hn
    tagLen := rfl }

theorem setNonceLen {n : Nat} (hn : n ≤ w) : InStep mech w d (a.setNonceLen n) (b.setNonceLen n) :=
  { h with
    ivLen := rfl
    ivLen_le := hn }

theorem setAad {aad : Bytes} : InStep mech w d (a.setAad aad) (b.setAad aad) :=
  { h with live := congrArg (fun l : Running P => { l with gcmAad := aad }) h.live }

theorem setOaep (o : OaepParams) :
    InStep mech w { d with oaep := true } (a.setOaep o) (b.setOaep o) :=
  { h with oaep := fun _ _ => rfl }

theorem setPss (p : PssParams) : InStep mech w { d with pss := true } (a.setPss p) (b.setPss p) :=
  { h with pss := fun _ => rfl }

theorem setHedge (alsoHm : Bool) (v : UInt64) :
    InStep mech w { d with hedge := true, hmHedge := alsoHm } (a.setHedge v) (b.setHedge v) :=
  { h with
    hedge := fun _ _ => rfl
    hedge' := fun _ _ => rfl }

theorem putContext {u v : Vector UInt8 256} {k : Nat} (hctx : u.toList.take k = v.toList.take k) :
    InStep mech w d (a.putContext u k) (b.putContext v k) :=
  { h with
    pqGiven := fun _ => rfl
    pqCtx := fun _ => hctx }

/-- `pq_ctx_have`, `pq_ctx_len` and `pq_ctx_toolong` are reset together. -/
theorem dropContext (long : Bool) :
    InStep mech w { d with pq := true } (a.dropContext long) (b.dropContext long) :=
  { h with
    pqGiven := fun _ => rfl
    pqCtx := fun _ => rfl
    pqTooLong := fun _ => rfl }

theorem setHmRow (n : Nat) : InStep mech w d (a.setHmRow n) (b.setHmRow n) :=
  { h with hmRow := fun _ => rfl }

end Op.InStep

/-- In step, with at least the first `n` bytes of `gcm_iv` in common. -/
def Op.InStepFrom (mech : UInt32) (n : Nat) (d : Dealt) (a b : Op P) : Prop :=
  ∃ w, n ≤ w ∧ InStep mech w d a b

theorem Op.InStepFrom.bothIdle {mech : UInt32} {d : Dealt} (h : InStepFrom mech n d a b) :
    BothIdle a b := by
  obtain ⟨w, -, h⟩ := h
  exact h.bothIdle

section

variable (env : OpEnv P) (m : Mech) {mech : UInt32} {n : Nat} {d : Dealt}

/-- Two runs of a stage of `op_init`. -/
abbrev StageAgree (mech : UInt32) (n : Nat) (d : Dealt) (x : InitM P Unit) (n' : Nat) (d' : Dealt) :
    Prop :=
  Agree (Op.InStepFrom mech n d) x (Op.InStepFrom mech n' d') Op.BothIdle

theorem update_agree {f : Op P → Op P} {d' : Dealt}
    (hf : ∀ w a b, n ≤ w → Op.InStep mech w d a b → Op.InStep mech w d' (f a) (f b)) :
    StageAgree mech n d (modify f) n d' :=
  .update fun a b ⟨w, hn, h⟩ => ⟨w, hn, hf w a b hn h⟩

theorem check_agree {c : Bool} {e : Err} {f : Unit → InitM P Unit} {n' : Nat} {d' : Dealt}
    (hf : c = false → StageAgree mech n d (f ()) n' d') :
    StageAgree mech n d (failIf c e >>= f) n' d' :=
  .check (fun _ _ h => h.bothIdle) hf

theorem failIf_agree (c : Bool) (e : Err) :
    StageAgree mech n d (failIf c e : InitM P Unit) n d :=
  .failIf fun _ _ h => h.bothIdle

theorem skip_agree : StageAgree mech n d (pure () : InitM P Unit) n d :=
  .pure () fun _ _ h => h

theorem storeAad_agree (aad : Bytes) : StageAgree mech n d (storeAad env aad) n d := by
  unfold storeAad
  split
  · exact skip_agree
  · exact check_agree fun _ => update_agree fun _ _ _ _ h => h.setAad

/-- The slot's mechanism is the caller's, except for the GMAC alias. -/
theorem resolveMech_of_ne {t : UInt32} (h : t ≠ ckmAesGmac.toUInt32) : resolveMech env t = t := by
  simp [resolveMech, h]

theorem length_data_of_not_null {b : Buf} (h : (!b.isNull) = true) : b.data.length = b.len := by
  cases b with
  | null n => cases h
  | bytes b => rfl

variable {bs : Bytes} {a b : Op P}

/-- A stage that stores the whole parameter as initialisation vector. -/
theorem writeIv_agree {k : Nat} (hlen : bs.length = k) (hk : k ≤ 16) (hiv : ivBytes mech = k) :
    StageAgree mech n d (modify (·.writeIv bs) : InitM P Unit) n d :=
  update_agree fun _ _ _ _ h => h.putIv (take_overlay_eq _ _ (by omega) (by omega))

theorem initCbc_agree (hmech : mech = resolveMech env m.type.toUInt32) :
    StageAgree mech n d (initCbc m : InitM P Unit) n d := by
  unfold initCbc
  split
  · rename_i hc
    obtain ⟨htype, hnull, hlen⟩ := hc
    have hiv : ivBytes mech = 16 := by
      rcases htype with htype | htype <;> rw [hmech, htype, resolveMech_of_ne _ (by decide)] <;> decide
    exact writeIv_agree ((length_data_of_not_null hnull).trans hlen) (by omega) hiv
  · exact skip_agree

theorem initDes3_agree (hmech : mech = resolveMech env m.type.toUInt32) :
    StageAgree mech n d (initDes3 m : InitM P Unit) n d := by
  unfold initDes3
  split
  · rename_i htype
    have hiv : ivBytes mech = 8 := by
      rw [hmech, htype, resolveMech_of_ne _ (by decide)]
      decide
    refine check_agree fun hc => ?_
    obtain ⟨hnull, hlen⟩ : (!m.param.isNull) = true ∧ m.param.len = 8 := by simpa using hc
    exact writeIv_agree ((length_data_of_not_null hnull).trans hlen) (by omega) hiv
  · exact skip_agree

theorem initCtr_agree (hmech : mech = resolveMech env m.type.toUInt32) :
    StageAgree mech n d (initCtr m : InitM P Unit) n d := by
  unfold initCtr
  split
  · rename_i htype
    have hiv : ivBytes mech = 16 := by
      rw [hmech, htype, resolveMech_of_ne _ (by decide)]
      decide
    refine check_agree fun hc => ?_
    have hdata : m.param.data.length = m.param.len := length_data_of_not_null (by simpa using hc)
    split
    · rename_i hlen
      exact writeIv_agree (hdata.trans hlen) (by omega) hiv
    · split
      · rename_i hlen
        refine check_agree fun _ => writeIv_agree ?_ (le_refl _) hiv
        rw [length_take, length_drop, hdata]
        exact min_eq_left (by omega)
      · exact .throw _ fun _ _ h => h.bothIdle
  · exact skip_agree

theorem kwIvFromMech_length {iv : Bytes} (h : kwIvFromMech m = .ok (some iv)) :
    iv.length = if m.type = ckmAesKeyWrap then 8 else 4 := by
  unfold kwIvFromMech at h
  generalize (if m.type = ckmAesKeyWrap then 8 else 4) = want at h ⊢
  split at h
  · cases h
  split at h
  · cases h
  split at h
  · cases h
  rename_i hbad
  cases h
  rw [not_or, not_not] at hbad
  rw [length_data_of_not_null (by simpa using hbad.1), hbad.2]

theorem initKw_agree (hmech : mech = resolveMech env m.type.toUInt32) :
    StageAgree mech n d (initKw m : InitM P Unit) n d := by
  unfold initKw
  split
  · rename_i htype
    have hiv : ivBytes mech = if m.type = ckmAesKeyWrap then 8 else 4 := by
      rcases htype with htype | htype <;> rw [hmech, htype, resolveMech_of_ne _ (by decide)] <;> decide
    split
    · exact .throw _ fun _ _ h => h.bothIdle
    · exact skip_agree
    · rename_i iv hkw
      refine writeIv_agree (kwIvFromMech_length m hkw) ?_ hiv
      split <;> omega
  · exact skip_agree

theorem writeNonce_agree (hlen : bs.length ≤ 512) :
    StageAgree mech n d (modify (·.writeNonce bs) : InitM P Unit) bs.length d :=
  .update fun _ _ ⟨_, _, h⟩ => ⟨_, le_max_right .., h.putNonce (le_max_left ..) (take_overlay_max hlen h.nonce)⟩

/-- The lengths are recorded last; afterwards no common bytes need to be remembered. -/
theorem setGcm_agree {k t : Nat} (hk : k ≤ n) :
    StageAgree mech n d (modify (·.setGcm k t) : InitM P Unit) 0 d :=
  .update fun _ _ ⟨w, hn, h⟩ => ⟨w, Nat.zero_le _, h.setGcm (Nat.le_trans hk hn)⟩

theorem gcmStruct_agree : StageAgree mech n d (gcmStruct env m) 0 d := by
  unfold gcmStruct
  refine check_agree fun _ => check_agree fun hc => ?_
  have hiv : (m.ulong 1).toNat ≤ 512 := by
    simp only [Bool.or_eq_false_iff, decide_eq_false_iff_not] at hc
    omega
  refine (writeNonce_agree ?_).bind fun _ => (storeAad_agree env _).bind fun _ => setGcm_agree ?_
  · rw [Mech.length_memory]
    exact hiv
  · rw [Mech.length_memory]

theorem initGcm_agree (hmech : mech = resolveMech env m.type.toUInt32) :
    StageAgree mech 0 d (initGcm env m mech) 0 d := by
  unfold initGcm
  split
  · rename_i hc
    have hdata := length_data_of_not_null hc.2
    split
    · exact gcmStruct_agree env m
    split
    · rename_i hraw
      have hiv : ivBytes mech = 12 := by
        rw [hmech, hraw.1, resolveMech_of_ne _ (by decide)]
        decide
      have hlen : (m.param.data.take 12).length = 12 := by
        rw [length_take, hdata]
        exact min_eq_left hraw.2
      refine (writeIv_agree hlen (by omega) hiv).bind fun _ =>
        (writeNonce_agree (by omega)).bind fun _ => setGcm_agree (by omega)
    · exact skip_agree
  · exact skip_agree

theorem initGmac_agree : StageAgree mech 0 d (initGmac m mech : InitM P Unit) 0 d := by
  unfold initGmac
  split
  · refine .gets (fun _ _ ⟨_, _, h⟩ => h.given) fun given => ?_
    split
    · exact skip_agree
    split
    · exact .throw _ fun _ _ h => h.bothIdle
    rename_i hparam
    have hdata : m.param.data.length = m.param.len :=
      length_data_of_not_null (by simpa using (not_or.1 hparam).1)
    refine check_agree fun hc => check_agree fun _ => ?_
    have hlen : m.param.len ≤ 512 := by simpa using hc
    exact (writeNonce_agree (by omega)).bind fun _ => setGcm_agree (by omega)
  · exact skip_agree

theorem initCcm_agree : StageAgree mech 0 d (initCcm env m) 0 d := by
  unfold initCcm
  split
  · refine check_agree fun _ => check_agree fun hc => check_agree fun _ => check_agree fun _ => ?_
    have hlen : (m.ulong 2).toNat ≤ 13 := by
      simp only [Bool.or_eq_false_iff, decide_eq_false_iff_not] at hc
      omega
    have hmem := Mech.length_memory m (m.ulong 1) (m.ulong 2).toNat
    refine (writeNonce_agree (by omega)).bind fun _ => ?_
    refine .bind (update_agree fun w _ _ hw h => h.setNonceLen (by omega)) fun _ => ?_
    exact (storeAad_agree env _).bind fun _ => setGcm_agree (by omega)
  · exact skip_agree

/-- `m.type` fits in the 32 bits a slot keeps of it. -/
def Mech.Narrow (m : Mech) : Prop := m.type.toUInt32.toUInt64 = m.type

theorem initOaep_agree (hmech : mech = resolveMech env m.type.toUInt32) (hnarrow : m.Narrow) :
    StageAgree mech 0 {} (initOaep env m) 0 { oaep := true } := by
  unfold initOaep
  split
  · refine .bind (update_agree fun _ _ _ _ h => h.setOaep {}) fun _ => check_agree fun _ => ?_
    refine .bind (update_agree fun _ _ _ _ h => h.setOaep _) fun _ => ?_
    refine check_agree fun _ => check_agree fun _ => check_agree fun _ => ?_
    exact update_agree fun _ _ _ _ h => h.setOaep _
  · rename_i htype
    -- another mechanism: nothing will read the stored parameters
    have hne : mech ≠ ckmRsaPkcsOaep.toUInt32 := by
      intro heq
      apply htype
      by_cases hgmac : m.type.toUInt32 = ckmAesGmac.toUInt32
      · have : resolveMech env ckmAesGmac.toUInt32 ≠ ckmRsaPkcsOaep.toUInt32 := by
          unfold resolveMech
          split <;> decide
        rw [hmech, hgmac] at heq
        exact absurd heq this
      · rw [hmech, resolveMech_of_ne env hgmac] at heq
        rw [← hnarrow, heq]
        decide
    refine .pure () fun a b ⟨w, hn, h⟩ => ⟨w, hn, ?_⟩
    exact { h with oaep := fun _ heq => absurd heq hne }

theorem initPss_agree :
    StageAgree mech 0 { oaep := true } (initPss env m mech) 0 { oaep := true, pss := true } := by
  unfold initPss
  refine .bind (update_agree fun _ _ _ _ h => h.setPss {}) fun _ => ?_
  split
  · refine check_agree fun _ => .bind (update_agree fun _ _ _ _ h => h.setPss _) fun _ => ?_
    refine check_agree fun _ => .bind (update_agree fun _ _ _ _ h => h.setPss _) fun _ => ?_
    exact check_agree fun _ => update_agree fun _ _ _ _ h => h.setPss _
  · exact skip_agree

theorem writeContext_agree (hlen : bs.length ≤ 256) :
    StageAgree mech n d (modify (·.writeContext bs) : InitM P Unit) n d :=
  update_agree fun _ _ _ _ h => h.putContext (take_overlay_eq _ _ hlen (le_refl _))

theorem parsePqParams_agree : StageAgree mech n d (parsePqParams m : InitM P Unit) n d := by
  unfold parsePqParams
  split
  · exact skip_agree
  split
  · exact writeContext_agree (by simp)
  split
  · exact skip_agree
  rename_i hc
  refine writeContext_agree ?_
  have hle : m.ulong 2 ≤ 256 := by
    simpa using (not_or.1 hc).1
  rw [Mech.length_memory]
  exact UInt64.le_iff_toNat_le.1 hle

theorem initPq_agree :
    StageAgree mech 0 { oaep := true, pss := true } (initPq m mech : InitM P Unit) 0
      { oaep := true, pss := true, pq := true, hedge := true } := by
  unfold initPq
  refine .bind (update_agree fun _ _ _ _ h => h.dropContext false) fun _ => ?_
  split
  · refine (parsePqParams_agree m).bind fun _ => check_agree fun _ => ?_
    refine .bind (update_agree fun _ _ _ _ h => h.setHedge false _) fun _ => ?_
    split
    · exact skip_agree
    split
    · exact update_agree fun _ _ _ _ h => h.dropContext true
    · exact failIf_agree _ _
  · rename_i hne
    -- another mechanism: nothing will read the hedge variant, unless `hmldsa_init` sets it
    refine .pure () fun a b ⟨w, hn, h⟩ => ⟨w, hn, ?_⟩
    exact { h with hedge := fun _ hm => absurd hm hne }

/-- All groups of fields but the hedge variant of the pre-hash mechanisms. -/
def Dealt.most : Dealt := { oaep := true, pss := true, pq := true, hedge := true, hm := true }

/-- All groups of fields. -/
def Dealt.all : Dealt := { Dealt.most with hmHedge := true }

theorem hmldsaInit_agree : StageAgree mech 0 .most (hmldsaInit m mech : InitM P Unit) 0 .all := by
  unfold hmldsaInit
  refine .bind (update_agree fun _ _ _ _ h => h.setHmRow _) fun _ => ?_
  refine .bind (update_agree fun _ _ _ _ h => h.dropContext false) fun _ => ?_
  refine .bind (update_agree fun _ _ _ _ h => h.setHedge true 0) fun _ => ?_
  split
  · exact failIf_agree _ _
  refine check_agree fun _ => check_agree fun _ => check_agree fun _ => check_agree fun _ => ?_
  refine .bind (update_agree fun _ _ _ _ h => h.setHmRow _) fun _ => ?_
  refine .bind (update_agree fun _ _ _ _ h => h.setHedge true _) fun _ => ?_
  split
  · exact update_agree fun _ _ _ _ h => h.dropContext true
  rename_i hlen
  refine writeContext_agree ?_
  have hle : m.ulong 2 ≤ 255 := by simpa using hlen
  have hnat : (m.ulong 2).toNat ≤ (255 : UInt64).toNat := UInt64.le_iff_toNat_le.1 hle
  rw [Mech.length_memory]
  exact le_trans hnat (by decide)

theorem initHm_agree :
    StageAgree mech 0 { oaep := true, pss := true, pq := true, hedge := true }
      (initHm m mech : InitM P Unit) 0 .all := by
  unfold initHm
  refine .bind (S := Op.InStepFrom mech 0 .most)
    (update_agree fun _ _ _ _ h => { h with hmRow := fun _ => rfl, prehashed := fun _ => rfl }) fun _ => ?_
  split
  · exact hmldsaInit_agree m
  rename_i hne
  refine .pure () fun a b ⟨w, hn, h⟩ => ⟨w, hn, ?_⟩
  exact { h with hedge' := fun _ hm => absurd hm hne }

theorem Op.InStep.setup_eq {w : Nat} (h : Op.InStep mech w .all a b) :
    a.params.setup = b.params.setup := by
  have hiv : a.params.storedIv = b.params.storedIv := by
    unfold Params.storedIv
    rw [h.mechanism, h.mechanism', ← h.haveIv]
    split
    · rename_i hhave
      rw [h.iv hhave]
    · rfl
  have hnonce : a.params.gcm.nonce = b.params.gcm.nonce := by
    have hle := h.ivLen_le
    have htake := congrArg (take a.params.gcm.ivLen) h.nonce
    rw [take_take, take_take, min_eq_left hle] at htake
    rw [GcmParams.nonce, GcmParams.nonce, ← h.ivLen]
    exact htake
  have hhedge : (if readsHedge mech then a.params.pq.hedge else 0) =
      if readsHedge mech then b.params.pq.hedge else 0 := by
    split
    · rename_i hreads
      unfold readsHedge at hreads
      simp only [Bool.or_eq_true, beq_iff_eq] at hreads
      rcases hreads with hpq | hhm
      · exact h.hedge rfl hpq
      · exact h.hedge' rfl hhm
    · rfl
  have hoaep : (if mech = ckmRsaPkcsOaep.toUInt32 then a.params.oaep else {}) =
      if mech = ckmRsaPkcsOaep.toUInt32 then b.params.oaep else {} := by
    split
    · rename_i hm
      exact h.oaep rfl hm
    · rfl
  simp only [Params.setup, h.mechanism, h.mechanism', h.keyHandle, hiv, h.pss rfl, h.given, h.ivLen,
    hnonce, h.tagLen, h.pqGiven rfl, h.pqCtx rfl, h.pqTooLong rfl, hhedge, h.hmRow rfl, h.ctxAuth,
    hoaep]

theorem Op.InStep.live_eq {w : Nat} (h : Op.InStep mech w .all a b) : a.live = b.live := by
  have hlive := h.live
  have hpre := h.prehashed rfl
  cases ha : a.live
  cases hb : b.live
  simp only [ha, hb, Running.unhashed, Running.mk.injEq] at hlive hpre ⊢
  simp only [hlive, hpre, and_self]

theorem initDone_agree :
    Agree (Op.InStepFrom mech 0 .all) (initDone m : InitM P Unit) Op.Alike Op.BothIdle := by
  unfold initDone
  refine .gets (fun a b ⟨_, _, h⟩ => ?_) fun p => ?_
  · rw [h.haveIv, h.given, h.ivLen]
  · refine .check (fun _ _ h => h.bothIdle) fun _ => .check (fun _ _ h => h.bothIdle) fun _ => ?_
    refine .update fun a b ⟨w, _, h⟩ => ?_
    exact
      { active := rfl
        cipherCtx := h.bothIdle.cipherCtx
        macCtx := h.bothIdle.macCtx
        live := fun _ => congrArg (fun l : Running P => { l with active := true }) h.live_eq
        setup := fun _ => h.setup_eq }

/-- The reset at the start of `op_init` puts two idle slots in step. -/
theorem reset_inStep (hKey : UInt64) (h : a.BothIdle b) :
    Op.InStepFrom (resolveMech env m.type.toUInt32) 0 {} (a.reset env m hKey) (b.reset env m hKey) := by
  refine ⟨0, le_refl _, ?_⟩
  have hlive : (a.reset env m hKey).live.unhashed = (b.reset env m hKey).live.unhashed := by
    simp only [Op.reset, Running.unhashed, Running.mk.injEq, and_true, true_and]
    exact ⟨h.left.trans h.right.symm, h.macCtx, h.cipherCtx⟩
  constructor
  case live => exact hlive
  case idle => exact h.left
  all_goals first | rfl | exact le_refl _ | intro hc; cases hc

theorem opInit_agree (hKey : UInt64) (hnarrow : m.Narrow) :
    Agree Op.BothIdle (opInit env m hKey) Op.Alike Op.BothIdle := by
  unfold opInit
  refine .gets (fun a b h => h.left.trans h.right.symm) fun active => ?_
  refine .check (fun _ _ h => h) fun _ => ?_
  refine .bind (.update fun _ _ h => reset_inStep env m hKey h) fun _ => ?_
  refine (initGcm_agree env m rfl).bind fun _ => (initCbc_agree env m rfl).bind fun _ => ?_
  refine (initDes3_agree env m rfl).bind fun _ => (initCtr_agree env m rfl).bind fun _ => ?_
  refine (initKw_agree env m rfl).bind fun _ => (initGmac_agree m).bind fun _ => ?_
  refine (initCcm_agree env m).bind fun _ => (initOaep_agree env m rfl hnarrow).bind fun _ => ?_
  refine (initPss_agree env m).bind fun _ => (initPq_agree m).bind fun _ => ?_
  refine (initHm_agree m).bind fun _ => ?_
  exact .check (fun _ _ h => h.bothIdle) fun _ => initDone_agree m

end

/-! ## Calls on alike slots -/

/-- The same answer, and alike slots afterwards. -/
def SameCall (r r' : Except Refusal Reply × Op P) : Prop := r.1 = r'.1 ∧ r.2.Alike r'.2

/-- A call on a running operation sees only its parameters and its live part. -/
theorem Op.Alike.call (h : a.Alike b) (pre : Except Err Unit) (body : Setup → OpM P Reply) :
    SameCall (a.call pre body) (b.call pre body) := by
  unfold Op.call
  cases pre with
  | error e => exact ⟨rfl, h⟩
  | ok u =>
    dsimp only
    rw [← h.active]
    by_cases hact : a.live.active = true
    · rw [if_pos hact, if_pos hact, ← h.live hact, ← h.setup hact]
      exact ⟨rfl, rfl, rfl, rfl, fun _ => rfl, fun _ => h.setup hact⟩
    · rw [if_neg hact, if_neg hact]
      exact ⟨rfl, h⟩

theorem opInit_of_active (env : OpEnv P) (m : Mech) (hKey : UInt64) {op : Op P}
    (h : op.live.active = true) : exec (opInit env m hKey) op = (.error .operationActive, op) := by
  unfold opInit
  rw [exec_bind_of_ok (exec_gets _ _), exec_bind, exec_failIf, h]
  rfl

theorem opInit_alike (env : OpEnv P) (m : Mech) (hKey : UInt64) (hnarrow : m.Narrow) (h : a.Alike b)
    : (exec (opInit env m hKey) a).1 = (exec (opInit env m hKey) b).1 ∧
      (exec (opInit env m hKey) a).2.Alike (exec (opInit env m hKey) b).2 := by
  cases hact : a.live.active with
  | true =>
    rw [opInit_of_active env m hKey hact, opInit_of_active env m hKey (h.active ▸ hact)]
    exact ⟨rfl, h⟩
  | false =>
    have hidle : a.BothIdle b := ⟨hact, h.active ▸ hact, h.cipherCtx, h.macCtx⟩
    obtain ⟨r, ha, hb, hrel⟩ := opInit_agree env m hKey hnarrow a b hidle
    refine ⟨ha.trans hb.symm, ?_⟩
    cases r with
    | ok u => exact hrel
    | error e => exact hrel.alike

/-- A gate that lets a mechanism through has found it in a list of 32-bit numbers. -/
theorem keyedGate_ok {env : OpEnv P} {m : Option Mech} {hKey : UInt64} {valid : UInt64 → Bool}
    {usage : Usage} {m' : Mech} (h : keyedGate env m hKey valid usage = .ok m') :
    valid m'.type = true := by
  unfold keyedGate at h
  cases htok : env.tok with
  | none => rw [htok] at h; cases h
  | some t =>
    cases m with
    | none => rw [htok] at h; cases h
    | some m =>
      rw [htok] at h
      dsimp only at h
      by_cases hv : valid m.type = true
      · rw [if_pos hv] at h
        simp only [bind_eq_ok] at h
        obtain ⟨-, -, -, -, -, -, -, -, -, -, h⟩ := h
        cases h
        exact hv
      · rw [if_neg hv] at h
        cases h

theorem keyedInit_alike (env : OpEnv P) (m : Option Mech) (hKey : UInt64) {valid : UInt64 → Bool}
    (usage : Usage) (hvalid : ∀ t, valid t = true → t.toUInt32.toUInt64 = t) (h : a.Alike b) :
    SameCall (keyedInit env m hKey valid usage a) (keyedInit env m hKey valid usage b) := by
  unfold keyedInit
  cases hgate : keyedGate env m hKey valid usage with
  | error e => exact ⟨rfl, h⟩
  | ok m' =>
    obtain ⟨hr, halike⟩ := opInit_alike env m' hKey (hvalid _ (keyedGate_ok hgate)) h
    dsimp only
    rcases hxa : exec (opInit env m' hKey) a with ⟨ra, a'⟩
    rcases hxb : exec (opInit env m' hKey) b with ⟨rb, b'⟩
    rw [hxa, hxb] at hr halike
    cases hr
    cases ra with
    | ok u => exact ⟨rfl, halike⟩
    | error e => exact ⟨rfl, halike⟩

end FreeHsm
