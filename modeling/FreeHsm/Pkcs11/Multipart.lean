import FreeHsm.Pkcs11.CipherContext
import FreeHsm.Pkcs11.OpHistory
import FreeHsm.Pkcs11.OpStart
import FreeHsm.Pkcs11.Retry

/-!
# Multipart ciphers

`C_EncryptUpdate`, `C_EncryptFinal` and their counterparts over whole operations, for
the mechanisms of `op_cipher_kind`, any partition of the data and any number of size
queries and buffers that are too small.

`Fed` is the invariant of an operation: the context of the slot holds what was passed
in so far. A call either leaves it as it is, with a size or `CKR_BUFFER_TOO_SMALL` as
its answer, or moves it on by its part.
-/

namespace FreeHsm

open StateExcept OpM List

/-- The mechanisms of `op_cipher_kind`. -/
def multipartMechs : List UInt64 := [ckmAesEcb, ckmAesCbc, ckmAesCbcPad, ckmAesCtr, ckmAesGcm]

variable {P : Provider}

def OpEnv.seeded (env : OpEnv P) (seed : P.Seed) : OpEnv P := { env with seed := seed }

/-! ## The slot of a multipart operation -/

/-- `C_EncryptUpdate` or `C_DecryptUpdate`. -/
def updateCall (env : OpEnv P) (enc : Bool) (part : Bytes) : SlotStep P := fun seed out op =>
  if enc then encryptUpdate (env.seeded seed) (.bytes part) out op
  else decryptUpdate (env.seeded seed) (.bytes part) out op

/-- `C_EncryptFinal` or `C_DecryptFinal`. -/
def finalCall (env : OpEnv P) (enc : Bool) : SlotStep P := fun seed out op =>
  if enc then encryptFinal (env.seeded seed) out op else decryptFinal (env.seeded seed) out op

/-- The context of an operation, as both ways build it for a key of a usual size. -/
def cipherSpec (enc : Bool) (s : Setup) (bits : Nat) (key aad : Bytes) : CipherSpec :=
  if s.mechanism = ckmAesGcm.toUInt32 then
    { enc := enc, alg := ⟨.gcm, bits⟩, key := key, iv := some s.gcmIv, aad := aad }
  else aesSpec enc s bits key

variable {env : OpEnv P} {n need : Nat} {op : Op P} {l : Running P}

theorem multipartSpec_eq {s : Setup} (hnonce : s.mechanism = ckmAesGcm.toUInt32 → s.gcmIvLen ≠ 0)
    (enc : Bool) (bits : Nat) (key aad : Bytes) :
    multipartSpec env enc s bits key aad = cipherSpec enc s bits key aad := by
  unfold multipartSpec cipherSpec
  split
  · rename_i hgcm
    simp only [gcmSpec, gcmNonce, hnonce hgcm, ne_eq, not_false_eq_true, if_true]
  · rfl

theorem exec_endingOnError {α : Type} (x : OpM P α) (l : Running P) :
    exec (endingOnError x) l = match exec x l with
      | (.error (.rv e), l') => (.error (.rv e), { l' with active := false })
      | r => r := by
  unfold endingOnError
  rw [exec_tryCatch]
  rcases exec x l with ⟨(e | n) | a, l'⟩ <;> rfl

theorem exec_sized_small (h : n < need) (k : OpM P Reply) (l : Running P) :
    exec (sized (.room n) need k) l = (.error (.tooSmall need), l) := by
  show exec (if n < need then throw (.tooSmall need) else k) l = _
  rw [if_pos h]
  rfl

theorem exec_sized_fits (h : ¬ n < need) (k : OpM P Reply) (l : Running P) :
    exec (sized (.room n) need k) l = exec k l := by
  show exec (if n < need then throw (.tooSmall need) else k) l = _
  rw [if_neg h]

/-- With a length that is known, `probed` answers with output unless the buffer is too small. -/
theorem exec_probed {bound : Nat} (k : OpM P Reply) (l : Running P) :
    exec (probed (.room n) bound (.ok need) k) l = (.error (.tooSmall need), l) ∧ n < bound ∨
      exec (probed (.room n) bound (.ok need) k) l = exec k l := by
  unfold probed
  by_cases hb : n < bound
  · by_cases hn : n < need
    · left
      simp only [hb, hn, if_true, OpM.ofExcept, pure_bind, and_true]
      rfl
    · right
      simp only [hb, hn, if_true, if_false, OpM.ofExcept, pure_bind]
  · right
    simp only [hb, if_false]

/-- The answer of a call and the slot with what it left. -/
def Op.result (op : Op P) (r : Except Refusal Reply × Running P) : Except Refusal Reply × Op P :=
  (r.1, { op with live := r.2 })

theorem Op.call_of_active (h : op.live.active = true) (body : Setup → OpM P Reply) :
    op.call (.ok ()) body = op.result (exec (body op.params.setup) op.live) := by
  unfold Op.call
  rw [if_pos h]
  rfl

theorem exec_requireCtxAuth {s : Setup} (h : s.ctxAuthRequired = true → l.ctxAuthDone = true) :
    exec (requireCtxAuth s : OpM P Unit) l = (.ok (), l) := by
  have hnot : ¬(s.ctxAuthRequired = true ∧ (!l.ctxAuthDone) = true) := by
    rintro ⟨hreq, hdone⟩
    rw [h hreq] at hdone
    cases hdone
  unfold requireCtxAuth
  rw [exec_bind_of_ok (exec_get l), if_neg hnot]
  rfl

/-- What the calls of an operation need of the key they find. -/
structure Keyed (V : EvpModel P) (t : Token) (s : Setup) (aad : Bytes) (spec : CipherSpec) :
    Prop where
  key : ∃ o bits, t.objectGet s.keyHandle = .ok o ∧ o.keyType = ckkAes ∧
    aesBits? o.value.length = some bits ∧ spec = cipherSpec spec.enc s bits o.value aad
  kind : (opCipherKind s.mechanism).isSome = true
  nonce : s.mechanism = ckmAesGcm.toUInt32 → s.gcmIvLen ≠ 0
  supported : V.supports spec = true

/-- A running operation whose context holds what was passed in so far. -/
structure Fed (V : EvpModel P) (s : Setup) (aad : Bytes) (spec : CipherSpec) (fed : Bytes)
    (l : Running P) : Prop where
  active : l.active = true
  auth : spec.enc = false → s.ctxAuthRequired = true → l.ctxAuthDone = true
  aad_eq : l.gcmAad = aad
  pending : spec.enc = true → buffersBlocks s.mechanism = true → l.encPending = fed.length % 16
  ctx : (l.cipherCtx = none ∧ fed = []) ∨ ∃ c, l.cipherCtx = some c ∧ V.Holds c spec fed none

section Calls

variable {V : EvpModel P} {t : Token} {s : Setup} {aad : Bytes} {spec : CipherSpec} {fed : Bytes}
  (env : OpEnv P)

variable {l : Running P} {c : P.Cipher} {part : Bytes} {op : Op P} {out : OutArg}

/-- `ensure_cipher_ctx` on such a slot. -/
theorem Fed.ensure (h : Fed V s aad spec fed l) (hk : Keyed V t s aad spec)
    (htok : env.tok = some t) :
    ∃ c, exec (ensureCipherCtx env spec.enc s) l = (.ok c, { l with cipherCtx := some c }) ∧
      V.Holds c spec fed none := by
  unfold ensureCipherCtx
  rw [exec_bind_of_ok (exec_get l)]
  rcases h.ctx with ⟨hctx, rfl⟩ | ⟨c, hctx, hholds⟩
  · obtain ⟨o, bits, hget, htype, hbits, hspec⟩ := hk.key
    have hmulti : multipartSpec env spec.enc s bits o.value l.gcmAad = spec := by
      rw [h.aad_eq, multipartSpec_eq hk.nonce, ← hspec]
    obtain ⟨c, hinit, hholds⟩ := V.init env.seed spec hk.supported
    have hkind : (opCipherKind s.mechanism).isNone = false := by
      rw [Option.isNone_eq_false_iff]
      exact hk.kind
    refine ⟨c, ?_, hholds⟩
    simp only [hctx, htok, hget, OpM.ofExcept, pure_bind, refuseIf, htype, hkind, hbits, hmulti,
       V.fetch, V.ctxNew, hinit, failIf, bne_self_eq_false, Bool.false_eq_true, if_false,
      Bool.not_true]
    rfl
  · refine ⟨c, ?_, hholds⟩
    simp only [hctx]
    rw [exec_pure, ← hctx]

theorem Fed.updated (h : Fed V s aad spec fed l) (hholds : V.Holds c spec (fed ++ part) none)
    {n : Nat}
    (hn : spec.enc = true → buffersBlocks s.mechanism = true → n = (fed ++ part).length % 16) :
    Fed V s aad spec (fed ++ part) { l with cipherCtx := some c, encPending := n } where
  active := h.active
  auth := h.auth
  aad_eq := h.aad_eq
  pending := hn
  ctx := .inr ⟨c, rfl, hholds⟩

theorem Fed.ensured (h : Fed V s aad spec fed l) (hholds : V.Holds c spec fed none) :
    Fed V s aad spec fed { l with cipherCtx := some c } where
  active := h.active
  auth := h.auth
  aad_eq := h.aad_eq
  pending := h.pending
  ctx := .inr ⟨c, rfl, hholds⟩

theorem exec_setCipher (c : Option P.Cipher) (l : Running P) :
    exec (setCipher c) l = (.ok (), { l with cipherCtx := c }) := rfl

theorem exec_updateCtx (hholds : V.Holds c spec fed none) (part : Bytes) :
    ∃ c', exec (updateCtx env c part) l =
        (.ok (V.added spec fed part), { l with cipherCtx := some c' }) ∧
      V.Holds c' spec (fed ++ part) none := by
  obtain ⟨c', hupdate, hholds'⟩ := V.update env.seed c spec fed part hholds
  refine ⟨c', ?_, hholds'⟩
  unfold updateCtx
  rw [hupdate]
  rfl

/-- A slot of an operation. -/
def FedOp (V : EvpModel P) (s : Setup) (aad : Bytes) (spec : CipherSpec) (fed : Bytes)
    (op : Op P) : Prop := op.params.setup = s ∧ Fed V s aad spec fed op.live

/-- The room that `C_EncryptUpdate` asks for. -/
def encryptRoom (s : Setup) (pending len : Nat) : Nat :=
  if buffersBlocks s.mechanism then (pending + len) / 16 * 16 else len

/-- `EVP_EncryptUpdate` and the bytes it keeps. -/
def encryptStep (s : Setup) (c : P.Cipher) (part : Bytes) : OpM P Reply := do
  let b ← updateCtx env c part
  modify fun l =>
    if buffersBlocks s.mechanism then { l with encPending := (l.encPending + part.length) % 16 } else l
  pure (.data b)

theorem encryptUpdate_eq (hactive : op.live.active = true) (htok : env.tok = some t)
    (hlen : part.length ≤ inputMax) (hout : out ≠ .noLen)
    (hensure : exec (ensureCipherCtx env true op.params.setup) op.live =
      (.ok c, { op.live with cipherCtx := some c })) :
    encryptUpdate env (.bytes part) out op =
      op.result (exec (endingOnError (sized out
        (encryptRoom op.params.setup op.live.encPending part.length)
        (encryptStep env op.params.setup c part))) { op.live with cipherCtx := some c }) := by
  have hnot : decide (inputMax < (Buf.bytes part).len) = false := decide_eq_false (Nat.not_lt.2 hlen)
  have hbad : (out == .noLen || (Buf.bytes part).dangling) = false := by
    simp [Buf.dangling, Buf.isNull, hout]
  simp only [encryptUpdate, Op.call_of_active hactive, htok, exec_endingOnError, refuseIf,
    exec_failIf_bind, hnot, hbad, exec_bind_of_ok hensure, exec_bind_of_ok (exec_get _)]
  rfl

theorem encryptUpdate_settles (hk : Keyed V t s aad spec) (htok : env.tok = some t)
    (henc : spec.enc = true) (hlen : part.length ≤ inputMax) :
    Settles (updateCall env true part) (FedOp V s aad spec fed) (.bytes (V.added spec fed part))
      (FedOp V s aad spec (fed ++ part)) := by
  refine ⟨by simp, encryptRoom s (fed.length % 16) part.length, ?_⟩
  rintro op ⟨rfl, hfed⟩ seed
  obtain ⟨c, hensure, hholds⟩ := hfed.ensure (env.seeded seed) hk htok
  rw [henc] at hensure
  obtain ⟨c', hupdate, hholds'⟩ := exec_updateCtx (env.seeded seed)
    (l := { op.live with cipherCtx := some c }) hholds part
  have hcall : ∀ out, out ≠ .noLen → updateCall env true part seed out op = _ := fun out hout =>
    encryptUpdate_eq (env.seeded seed) hfed.active htok hlen hout hensure
  have hroom : encryptRoom op.params.setup op.live.encPending part.length =
      encryptRoom op.params.setup (fed.length % 16) part.length := by
    unfold encryptRoom
    split
    · rename_i hblocks
      rw [hfed.pending henc hblocks]
    · rfl
  rw [hcall .query (by simp), hroom]
  refine ⟨⟨rfl, rfl, hfed.ensured hholds⟩, fun n => ?_⟩
  rw [hcall (.room n) (by simp), hroom]
  by_cases hn : n < encryptRoom op.params.setup (fed.length % 16) part.length
  · left
    rw [exec_endingOnError, exec_sized_small hn]
    exact ⟨hn, rfl, rfl, hfed.ensured hholds⟩
  · right
    rw [exec_endingOnError, exec_sized_fits hn, encryptStep, exec_bind_of_ok hupdate]
    refine ⟨rfl, rfl, ?_⟩
    show Fed V _ _ spec (fed ++ part) (if buffersBlocks op.params.setup.mechanism then
      { op.live with cipherCtx := some c', encPending := (op.live.encPending + part.length) % 16 }
      else { op.live with cipherCtx := some c' })
    split
    · rename_i hblocks
      refine hfed.updated hholds' fun _ _ => ?_
      rw [hfed.pending henc hblocks, length_append]
      omega
    · rename_i hblocks
      exact hfed.updated hholds' fun _ h => absurd h hblocks

theorem decryptUpdate_eq (hactive : op.live.active = true) (htok : env.tok = some t)
    (hauth : op.params.setup.ctxAuthRequired = true → op.live.ctxAuthDone = true)
    (hlen : part.length ≤ inputMax) (hout : out ≠ .noLen)
    (hensure : exec (ensureCipherCtx env false op.params.setup) op.live =
      (.ok c, { op.live with cipherCtx := some c })) :
    decryptUpdate env (.bytes part) out op =
      op.result (exec (endingOnError (probed out
        (if buffersBlocks op.params.setup.mechanism then part.length + 16 else part.length)
        (decryptUpdateExactLen env c part
          (if buffersBlocks op.params.setup.mechanism then part.length + 16 else part.length))
        (do let b ← updateCtx env c part; pure (.data b)))) { op.live with cipherCtx := some c }) := by
  have hnot : decide (inputMax < (Buf.bytes part).len) = false := decide_eq_false (Nat.not_lt.2 hlen)
  have hbad : (out == .noLen || (Buf.bytes part).dangling) = false := by
    simp [Buf.dangling, Buf.isNull, hout]
  simp only [decryptUpdate, Op.call_of_active hactive, htok, exec_endingOnError, refuseIf,
    exec_failIf_bind, hnot, hbad, exec_bind_of_ok (exec_requireCtxAuth hauth),
    exec_bind_of_ok hensure]
  rfl

theorem decryptUpdate_settles (hk : Keyed V t s aad spec) (htok : env.tok = some t)
    (henc : spec.enc = false) (hlen : part.length ≤ inputMax) :
    Settles (updateCall env false part) (FedOp V s aad spec fed) (.bytes (V.added spec fed part))
      (FedOp V s aad spec (fed ++ part)) := by
  refine ⟨by simp, if buffersBlocks s.mechanism then part.length + 16 else part.length, ?_⟩
  rintro op ⟨rfl, hfed⟩ seed
  obtain ⟨c, hensure, hholds⟩ := hfed.ensure (env.seeded seed) hk htok
  rw [henc] at hensure
  obtain ⟨c', hupdate, hholds'⟩ := exec_updateCtx (env.seeded seed)
    (l := { op.live with cipherCtx := some c }) hholds part
  have hcall : ∀ out, out ≠ .noLen → updateCall env false part seed out op = _ := fun out hout =>
    decryptUpdate_eq (env.seeded seed) hfed.active htok (hfed.auth henc) hlen hout hensure
  rw [hcall .query (by simp)]
  refine ⟨⟨rfl, rfl, hfed.ensured hholds⟩, fun n => ?_⟩
  -- the probe runs on a copy of the context
  obtain ⟨_, hprobed, -⟩ := V.update (env.seeded seed).seed c spec fed part hholds
  have hexact (bound : Nat) : decryptUpdateExactLen (env.seeded seed) c part bound =
      .ok (V.added spec fed part).length := by
    simp only [decryptUpdateExactLen, V.ctxNew, V.copy, V.alloc, hprobed, Bool.not_true, if_false,
      Bool.false_eq_true]
    rfl
  rw [hcall (.room n) (by simp), hexact, exec_endingOnError]
  rcases exec_probed (P := P) _ _ with ⟨hprobe, hn⟩ | hprobe
  · rw [hprobe]
    exact .inl ⟨hn, rfl, rfl, hfed.ensured hholds⟩
  · right
    rw [hprobe, exec_bind_of_ok hupdate]
    -- only encryption counts the bytes it keeps
    exact ⟨rfl, rfl, hfed.updated hholds' fun h => absurd h (by rw [henc]; decide)⟩

/-! ## The final calls -/

/-- The tag that ends the output of GCM. -/
def EvpModel.closingTag (V : EvpModel P) (s : Setup) (spec : CipherSpec) (fed : Bytes) : Bytes :=
  if opCipherKind s.mechanism = some .gcm then V.tag spec fed s.tagLen else []

/-- How the final call ends. -/
def EvpModel.closing (V : EvpModel P) (s : Setup) (spec : CipherSpec) (fed : Bytes) : Outcome :=
  match V.finish spec fed none with
  | none => .refused (cipherFailure spec.enc)
  | some b => .bytes (if spec.enc then b ++ V.closingTag s spec fed else b)

/-- The room that `C_EncryptFinal` asks for. -/
def finalRoom (s : Setup) : Nat :=
  match opCipherKind s.mechanism with
  | some .gcm => s.tagLen
  | some .blockPad => 16
  | _ => 0

theorem exec_finalTag (hdone : V.Finished c spec fed) (l : Running P) :
    exec (finalTag env s c) l = (.ok (V.closingTag s spec fed), l) := by
  unfold finalTag EvpModel.closingTag
  split
  · rw [V.getTag env.seed c spec fed s.tagLen hdone]
    rfl
  · rfl

theorem encryptFinal_settles (hk : Keyed V t s aad spec) (htok : env.tok = some t)
    (henc : spec.enc = true) :
    Settles (finalCall env true) (FedOp V s aad spec fed) (V.closing s spec fed) fun _ => True := by
  refine ⟨by unfold EvpModel.closing; split <;> simp, finalRoom s, ?_⟩
  rintro op ⟨rfl, hfed⟩ seed
  simp only [finalCall, encryptFinal, Op.call_of_active hfed.active, if_true]
  refine ⟨⟨rfl, rfl, hfed⟩, fun n => ?_⟩
  by_cases hn : n < finalRoom op.params.setup
  · rw [exec_sized_small (by exact hn)]
    exact .inl ⟨hn, rfl, rfl, hfed⟩
  · right
    obtain ⟨c, hensure, hholds⟩ := hfed.ensure (env.seeded seed) hk htok
    rw [henc] at hensure
    obtain ⟨c', hfinal, hdone⟩ := V.final (env.seeded seed).seed c spec fed none hholds
    rw [exec_sized_fits (by exact hn), exec_endingOnError, exec_bind_of_ok hensure,
      exec_bind_of_ok (exec_setCipher _ _), hfinal]
    refine ⟨?_, trivial⟩
    unfold EvpModel.closing EvpModel.finish
    rw [henc]
    cases spec.finish (V.transform spec) (V.tag spec fed) fed none with
    | none => rfl
    | some b =>
      dsimp only
      rw [exec_bind_of_ok (exec_finalTag _ hdone _)]
      rfl

theorem decryptFinalExactLen_eq (hholds : V.Holds c spec fed none) (bound : Nat) :
    decryptFinalExactLen env c bound = match V.finish spec fed none with
      | none => .error .encryptedDataInvalid
      | some b => .ok b.length := by
  obtain ⟨c', hfinal, -⟩ := V.final env.seed c spec fed none hholds
  simp only [decryptFinalExactLen, V.ctxNew, V.copy, V.alloc, hfinal, Bool.not_true, if_false,
    Bool.false_eq_true, EvpModel.finish]
  cases spec.finish (V.transform spec) (V.tag spec fed) fed none <;> rfl

theorem decryptFinal_eq (hactive : op.live.active = true)
    (hauth : op.params.setup.ctxAuthRequired = true → op.live.ctxAuthDone = true)
    (hout : out ≠ .noLen) (hensure : exec (ensureCipherCtx env false op.params.setup) op.live =
      (.ok c, { op.live with cipherCtx := some c })) :
    let bound := if opCipherKind op.params.setup.mechanism = some .blockPad then 16 else 0
    let exact := decryptFinalExactLen env c bound
    decryptFinal env out op =
      op.result (exec (endingOnError do
        freeAfterProbe out bound exact
        probed out bound exact do
          setCipher none
          match P.cipherFinal env.seed c with
          | (none, _) => refuse .encryptedDataInvalid
          | (some b, _) => do
            stop
            pure (.data b)) { op.live with cipherCtx := some c }) := by
  intro bound exact
  rewrite [decryptFinal, Op.call_of_active hactive, exec_bind_of_ok (exec_requireCtxAuth hauth),
    if_neg hout, exec_endingOnError, exec_bind_of_ok hensure, exec_endingOnError]
  rfl

theorem decryptFinal_settles (hk : Keyed V t s aad spec) (htok : env.tok = some t)
    (henc : spec.enc = false) :
    Settles (finalCall env false) (FedOp V s aad spec fed) (V.closing s spec fed) fun _ => True := by
  refine ⟨by unfold EvpModel.closing; split <;> simp,
    if opCipherKind s.mechanism = some .blockPad then 16 else 0, ?_⟩
  rintro op ⟨rfl, hfed⟩ seed
  obtain ⟨c, hensure, hholds⟩ := hfed.ensure (env.seeded seed) hk htok
  rw [henc] at hensure
  obtain ⟨c', hfinal, -⟩ := V.final (env.seeded seed).seed c spec fed none hholds
  have hcall : ∀ out, out ≠ .noLen → finalCall env false seed out op = _ := fun out hout =>
    decryptFinal_eq (env.seeded seed) hfed.active (hfed.auth henc) hout hensure
  rw [hcall .query (by simp)]
  refine ⟨⟨rfl, rfl, hfed.ensured hholds⟩, fun n => ?_⟩
  rw [hcall (.room n) (by simp), decryptFinalExactLen_eq _ hholds, hfinal, exec_endingOnError]
  unfold EvpModel.closing EvpModel.finish
  rw [henc]
  cases spec.finish (V.transform spec) (V.tag spec fed) fed none with
  | none =>
    -- the probe frees the context or the final call fails, to the same effect
    right
    unfold freeAfterProbe probed
    by_cases hn : n < if opCipherKind op.params.setup.mechanism = some .blockPad then 16 else 0
    · simp only [hn, if_true]
      exact ⟨rfl, trivial⟩
    · simp only [hn, if_false]
      exact ⟨rfl, trivial⟩
  | some b =>
    have hkeep : ∀ l : Running P, exec (freeAfterProbe (.room n)
        (if opCipherKind op.params.setup.mechanism = some .blockPad then 16 else 0)
        (.ok b.length)) l = (.ok (), l) := fun _ => rfl
    rw [exec_bind_of_ok (hkeep _)]
    rcases exec_probed (P := P) _ _ with ⟨hprobe, hn⟩ | hprobe
    · rw [hprobe]
      exact .inl ⟨hn, rfl, rfl, hfed.ensured hholds⟩
    · rw [hprobe]
      exact .inr ⟨rfl, trivial⟩

end Calls

/-! ## Whole operations -/

/-- A call between two parts: of `C_*Final` (`none`) or of `C_*Update` with data of an accepted
length, and with no buffer or one of some length. -/
structure Peek (P : Provider) where
  seed : P.Seed
  part : Option Bytes
  room : Option Nat
  le : ∀ b ∈ part, b.length ≤ inputMax

/-- A part of the data: the calls before it, the part, and how its output is fetched. -/
structure Part (P : Provider) where
  peeks : List (Peek P)
  data : Bytes
  tries : Tries P

def Peek.call (env : OpEnv P) (enc : Bool) (q : Peek P) : Op P → Except Refusal Reply × Op P :=
  match q.part with
  | none => finalCall env enc q.seed (outArg q.room)
  | some b => updateCall env enc b q.seed (outArg q.room)

/-- The slot after such calls. -/
def peekAll (env : OpEnv P) (enc : Bool) (qs : List (Peek P)) (op : Op P) : Op P :=
  qs.foldl (fun op q => (q.call env enc op).2) op

/-- Each buffer they offer is too short. -/
def Short (env : OpEnv P) (enc : Bool) : List (Peek P) → Op P → Prop
  | [], _ => True
  | q :: qs, op => (q.room.isSome → Outcome.of (q.call env enc op).1 = .unanswered) ∧
    Short env enc qs (q.call env enc op).2

/-- Concatenated output, or the first error. -/
def Outcome.append : Outcome → Outcome → Outcome
  | .bytes a, .bytes b => .bytes (a ++ b)
  | .bytes _, r => r
  | r, _ => r

/-- The updates over the parts. -/
def feed (env : OpEnv P) (enc : Bool) : List (Part P) → Op P → Outcome × Op P
  | [], op => (.bytes [], op)
  | p :: rest, op =>
    let r := complete (updateCall env enc p.data) p.tries (peekAll env enc p.peeks op)
    match r.1 with
    | .bytes _ => (r.1.append (feed env enc rest r.2).1, (feed env enc rest r.2).2)
    | _ => r

/-- Each buffer that is offered between the updates over the parts, and by the calls after them,
is too short. -/
def ShortBetween (env : OpEnv P) (enc : Bool) (peeks : List (Peek P)) : List (Part P) → Op P → Prop
  | [], op => Short env enc peeks op
  | p :: rest, op => Short env enc p.peeks op ∧ ShortBetween env enc peeks rest
    (complete (updateCall env enc p.data) p.tries (peekAll env enc p.peeks op)).2

/-- The updates, further calls before the end and the final call. -/
def finishParts (env : OpEnv P) (enc : Bool) (parts : List (Part P)) (peeks : List (Peek P))
    (last : Tries P) (op : Op P) : Outcome :=
  let r := feed env enc parts op
  match r.1 with
  | .bytes _ => r.1.append (complete (finalCall env enc) last (peekAll env enc peeks r.2)).1
  | e => e

section

variable {V : EvpModel P} {env : OpEnv P} {t : Token} {s : Setup} {aad fed : Bytes}
  {spec : CipherSpec} (hk : Keyed V t s aad spec) (htok : env.tok = some t)
include hk htok

theorem update_settles {part : Bytes} (hlen : part.length ≤ inputMax) :
    Settles (updateCall env spec.enc part) (FedOp V s aad spec fed)
      (.bytes (V.added spec fed part)) (FedOp V s aad spec (fed ++ part)) := by
  cases henc : spec.enc with
  | true => exact encryptUpdate_settles env hk htok henc hlen
  | false => exact decryptUpdate_settles env hk htok henc hlen

theorem final_settles :
    Settles (finalCall env spec.enc) (FedOp V s aad spec fed) (V.closing s spec fed)
      fun _ => True := by
  cases henc : spec.enc with
  | true => exact encryptFinal_settles env hk htok henc
  | false => exact decryptFinal_settles env hk htok henc

variable {op : Op P}

/-- A size query and a buffer that is too short leave the operation where it is. -/
theorem FedOp.peek {q : Peek P} (h : FedOp V s aad spec fed op)
    (hshort : q.room.isSome → Outcome.of (q.call env spec.enc op).1 = .unanswered) :
    FedOp V s aad spec fed (q.call env spec.enc op).2 := by
  have hkept : ∀ {call : SlotStep P} {res : Outcome} {J : Op P → Prop},
      Settles call (FedOp V s aad spec fed) res J →
      (q.room.isSome → Outcome.of (call q.seed (outArg q.room) op).1 = .unanswered) →
      FedOp V s aad spec fed (call q.seed (outArg q.room) op).2 := by
    intro call res J hs hshort
    cases hroom : q.room with
    | none =>
      obtain ⟨-, size, hsize⟩ := hs
      exact (hsize op h q.seed).1.2
    | some n =>
      rw [hroom] at hshort
      rcases hs.once h q.seed (some n) with hwait | ⟨hres, -⟩
      · exact hwait.2
      · exact absurd (hres.symm.trans (hshort rfl)) hs.1
  unfold Peek.call at hshort ⊢
  cases hpart : q.part with
  | none =>
    rw [hpart] at hshort
    exact hkept (final_settles hk htok) hshort
  | some b =>
    rw [hpart] at hshort
    exact hkept (update_settles hk htok (q.le b hpart)) hshort

theorem FedOp.peekAll {qs : List (Peek P)} (h : FedOp V s aad spec fed op)
    (hshort : Short env spec.enc qs op) : FedOp V s aad spec fed (peekAll env spec.enc qs op) := by
  unfold FreeHsm.peekAll
  induction qs generalizing op with
  | nil => exact h
  | cons q qs ih => exact ih (h.peek hk htok hshort.1) hshort.2

/-- What the updates over all parts return, and the slot they leave. -/
theorem feed_spec (parts : List (Part P)) (hlen : ∀ p ∈ parts, p.data.length ≤ inputMax)
    {peeks : List (Peek P)} (hshort : ShortBetween env spec.enc peeks parts op)
    (h : FedOp V s aad spec fed op) :
    ∃ out op', feed env spec.enc parts op = (.bytes out, op') ∧
      V.emitted spec fed ++ out = V.emitted spec (fed ++ (parts.map (·.data)).flatten) ∧
      FedOp V s aad spec (fed ++ (parts.map (·.data)).flatten) op' ∧
      Short env spec.enc peeks op' := by
  induction parts generalizing fed op with
  | nil => exact ⟨[], op, rfl, by simp, by simpa using h, hshort⟩
  | cons p rest ih =>
    obtain ⟨op₁, hcall, hfed⟩ := (update_settles hk htok (hlen p (by simp))).complete p.tries
      (h.peekAll hk htok hshort.1)
    have hshort' := hshort.2
    rw [hcall] at hshort'
    obtain ⟨out, op', hrest, hout, hend, hpeeks⟩ := ih (fun q hq => hlen q (by simp [hq])) hshort' hfed
    refine ⟨V.added spec fed p.data ++ out, op', ?_, ?_, ?_, hpeeks⟩
    · unfold feed
      rw [hcall]
      dsimp only
      rw [hrest]
      rfl
    · rw [← append_assoc, V.emitted_append, hout, map_cons, flatten_cons, append_assoc]
    · rw [map_cons, flatten_cons, ← append_assoc]
      exact hend

/-- A multipart operation from its start: all of the output, and the end of the final call. -/
theorem finishParts_spec (parts : List (Part P)) (hlen : ∀ p ∈ parts, p.data.length ≤ inputMax)
    {peeks : List (Peek P)} (hshort : ShortBetween env spec.enc peeks parts op) (last : Tries P)
    (h : FedOp V s aad spec [] op) :
    finishParts env spec.enc parts peeks last op =
      (Outcome.bytes (V.emitted spec (parts.map (·.data)).flatten)).append
        (V.closing s spec (parts.map (·.data)).flatten) := by
  obtain ⟨out, op', hfeed, hout, hfed, hpeeks⟩ := feed_spec hk htok parts hlen hshort h
  rw [V.emitted_nil, nil_append, nil_append] at hout
  obtain ⟨op'', hfinal, -⟩ := (final_settles hk htok).complete last (hfed.peekAll hk htok hpeeks)
  unfold finishParts
  rw [hfeed]
  dsimp only
  rw [hfinal, hout, nil_append]

end

/-! ## Keys that the multipart calls refuse -/

/-- `ensure_cipher_ctx` finds no context and cannot build one. -/
structure Unopened (env : OpEnv P) (enc : Bool) (op : Op P) : Prop where
  active : op.live.active = true
  refused : ∀ seed, ∃ e, exec (ensureCipherCtx (env.seeded seed) enc op.params.setup) op.live =
    (.error (.rv e), op.live)

/-- Such an operation, or one that has ended. -/
def Hopeless (env : OpEnv P) (enc : Bool) (op : Op P) : Prop :=
  op.live.active = false ∨ Unopened env enc op

theorem Op.call_of_idle (h : op.live.active = false) (body : Setup → OpM P Reply) :
    op.call (.ok ()) body = (.error (.rv .operationNotInitialized), op) := by
  unfold Op.call
  rw [if_neg (by rw [h]; decide)]

theorem endingOnError_refused {x : OpM P Reply} {e : Err} {l' : Running P}
    (h : exec x l = (.error (.rv e), l')) :
    exec (endingOnError x) l = (.error (.rv e), { l' with active := false }) := by
  rw [exec_endingOnError, h]

theorem exec_checks_refused {α : Type} {c₁ c₂ : Bool} {e₁ e₂ e : Err} {x : OpM P α}
    {f : α → OpM P Reply} (h : exec x l = (.error (.rv e), l)) :
    exec (do refuseIf c₁ e₁; refuseIf c₂ e₂; let a ← x; f a) l =
      (.error (.rv (if c₁ then e₁ else if c₂ then e₂ else e)), l) := by
  simp only [refuseIf, exec_failIf_bind]
  rw [exec_bind, h]
  cases c₁ <;> cases c₂ <;> rfl

/-- The answer and the slot after a refusal. -/
def RefusedAt (I : Op P → Prop) (r : Except Refusal Reply × Op P) : Prop :=
  (∃ e, Outcome.of r.1 = .refused e) ∧ I r.2

theorem requireCtxAuth_cases (s : Setup) (l : Running P) :
    exec (requireCtxAuth s : OpM P Unit) l = (.ok (), l) ∨
      exec (requireCtxAuth s : OpM P Unit) l =
        (.error (.rv .userNotLoggedIn), { l with active := false }) := by
  unfold requireCtxAuth
  rw [exec_bind_of_ok (exec_get l)]
  split
  · exact .inr rfl
  · exact .inl rfl

section

variable {env : OpEnv P} {op : Op P}

theorem encryptUpdate_refused (hun : Unopened env true op) (part : Bytes) (seed : P.Seed)
    (out : OutArg) :
    RefusedAt (Hopeless env true) (encryptUpdate (env.seeded seed) (.bytes part) out op) := by
  obtain ⟨e, hensure⟩ := hun.refused seed
  rw [encryptUpdate, Op.call_of_active hun.active]
  cases (env.seeded seed).tok with
  | none => exact ⟨⟨_, rfl⟩, .inr hun⟩
  | some t =>
    dsimp only
    rw [endingOnError_refused (exec_checks_refused hensure)]
    exact ⟨⟨_, rfl⟩, .inl rfl⟩

theorem decryptUpdate_refused (hun : Unopened env false op) (part : Bytes) (seed : P.Seed)
    (out : OutArg) :
    RefusedAt (Hopeless env false) (decryptUpdate (env.seeded seed) (.bytes part) out op) := by
  obtain ⟨e, hensure⟩ := hun.refused seed
  rw [decryptUpdate, Op.call_of_active hun.active]
  rcases requireCtxAuth_cases op.params.setup op.live with hauth | hauth
  · rw [exec_bind_of_ok hauth]
    cases (env.seeded seed).tok with
    | none => exact ⟨⟨_, rfl⟩, .inr hun⟩
    | some t =>
      dsimp only
      rw [endingOnError_refused (exec_checks_refused hensure)]
      exact ⟨⟨_, rfl⟩, .inl rfl⟩
  · rw [exec_bind, hauth]
    exact ⟨⟨_, rfl⟩, .inl rfl⟩

end

theorem updateCall_refuses (env : OpEnv P) (enc : Bool) (part : Bytes) :
    Refuses (updateCall env enc part) (Hopeless env enc) := by
  rintro op (hidle | hun) seed n
  · have hcall : updateCall env enc part seed (outArg n) op =
        (.error (.rv .operationNotInitialized), op) := by
      unfold updateCall encryptUpdate decryptUpdate
      rw [Op.call_of_idle hidle, Op.call_of_idle hidle]
      split <;> rfl
    rw [hcall]
    exact ⟨⟨_, rfl⟩, .inl hidle⟩
  · cases enc with
    | true => exact encryptUpdate_refused hun part seed _
    | false => exact decryptUpdate_refused hun part seed _

end FreeHsm
