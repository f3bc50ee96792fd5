import FreeHsm.Pkcs11.Freshness

/-!
# Histories of a session

The operation slots of one session and all the calls that reach them:
`fhsm_session_ops_reset` when the session is opened or closed,
`fhsm_session_ctx_auth_grant` after a context-specific login, and the nineteen
functions of encryption, decryption, signing, verification and digests. A call
carries what it finds outside the slots (`OpEnv`), so a history is any sequence of
calls, with any token contents and any behaviour of OpenSSL.
-/

namespace FreeHsm

open StateExcept Transition
open List hiding Vector

/-- The slots that are used with a key. -/
inductive Table
  | enc
  | dec
  | sig
  | ver
  deriving DecidableEq, Repr

/-- A call on a keyed slot. -/
inductive SlotCall
  | encryptInit (m : Option Mech) (hKey : UInt64)
  | encrypt (data : Buf) (out : OutArg)
  | encryptUpdate (part : Buf) (out : OutArg)
  | encryptFinal (out : OutArg)
  | decryptInit (m : Option Mech) (hKey : UInt64)
  | decrypt (data : Buf) (out : OutArg)
  | decryptUpdate (part : Buf) (out : OutArg)
  | decryptFinal (out : OutArg)
  | signInit (m : Option Mech) (hKey : UInt64)
  | sign (data : Buf) (out : OutArg)
  | signUpdate (part : Buf)
  | signFinal (out : OutArg)
  | verifyInit (m : Option Mech) (hKey : UInt64)
  | verify (data sig : Buf)
  | verifyUpdate (part : Buf)
  | verifyFinal (sig : Buf)

namespace SlotCall

/-- The slot a call looks up. -/
def table : SlotCall → Table
  | encryptInit .. | encrypt .. | encryptUpdate .. | encryptFinal .. => .enc
  | decryptInit .. | decrypt .. | decryptUpdate .. | decryptFinal .. => .dec
  | signInit .. | sign .. | signUpdate .. | signFinal .. => .sig
  | verifyInit .. | verify .. | verifyUpdate .. | verifyFinal .. => .ver

/-- The call on its slot. -/
def run {P : Provider} (env : OpEnv P) : SlotCall → Op P → Except Refusal Reply × Op P
  | encryptInit m hKey => FreeHsm.encryptInit env m hKey
  | encrypt data out => FreeHsm.encrypt env data out
  | encryptUpdate part out => FreeHsm.encryptUpdate env part out
  | encryptFinal out => FreeHsm.encryptFinal env out
  | decryptInit m hKey => FreeHsm.decryptInit env m hKey
  | decrypt data out => FreeHsm.decrypt env data out
  | decryptUpdate part out => FreeHsm.decryptUpdate env part out
  | decryptFinal out => FreeHsm.decryptFinal env out
  | signInit m hKey => FreeHsm.signInit env m hKey
  | sign data out => FreeHsm.sign env data out
  | signUpdate part => FreeHsm.signUpdate env part
  | signFinal out => FreeHsm.signFinal env out
  | verifyInit m hKey => FreeHsm.verifyInit env m hKey
  | verify data sig => FreeHsm.verify env data sig
  | verifyUpdate part => FreeHsm.verifyUpdate env part
  | verifyFinal sig => FreeHsm.verifyFinal env sig

end SlotCall

/-- A call on the digest slot. -/
inductive DigestCall
  | init (m : Option Mech)
  | digest (data : Buf) (out : OutArg)
  | update (part : Buf)
  | key (hKey : UInt64)
  | final (out : OutArg)

/-- The call on the digest slot. -/
def DigestCall.run {P : Provider} (env : OpEnv P) : DigestCall → DigestM P Reply
  | init m => digestInit env m
  | digest data out => FreeHsm.digest env data out
  | update part => digestUpdate env part
  | key hKey => digestKey env hKey
  | final out => digestFinal env out

/-- The operation slots of a session. -/
structure SessionOps (P : Provider) where
  keyed : Table → Op P
  dig : DigestOp P

/-- Everything that reaches the slots of a session. -/
inductive SessionCall (P : Provider)
  | keyed (env : OpEnv P) (c : SlotCall)
  | digest (env : OpEnv P) (c : DigestCall)
  | grant
  | reset

namespace SessionOps

variable {P : Provider}

/-- Zeroed memory, which is also what `fhsm_session_ops_reset` leaves. -/
def fresh : SessionOps P := ⟨fun _ => {}, {}⟩

def setKeyed (s : SessionOps P) (t : Table) (op : Op P) : SessionOps P :=
  { s with keyed := fun t' => if t' = t then op else s.keyed t' }

/-- `fhsm_session_ctx_auth_grant` on one slot. -/
def grantSlot (op : Op P) : Op P :=
  if op.live.active then { op with live := { op.live with ctxAuthDone := true } } else op

/-- One call: its answer, and the slots afterwards. -/
def call (s : SessionOps P) : SessionCall P → Option (Except Refusal Reply) × SessionOps P
  | .keyed env c =>
    let r := c.run env (s.keyed c.table)
    (some r.1, s.setKeyed c.table r.2)
  | .digest env c =>
    let r := exec (c.run env) s.dig
    (some r.1, { s with dig := r.2 })
  | .grant => (none, { s with keyed := fun t => grantSlot (s.keyed t) })
  | .reset => (none, fresh)

def step (s : SessionOps P) (c : SessionCall P) : SessionOps P := (s.call c).2

end SessionOps

/-- One of the five slots. -/
inductive Slot
  | keyed (t : Table)
  | dig
  deriving DecidableEq, Repr

/-- The calls that look at a slot. -/
def SessionCall.reaches {P : Provider} (k : Slot) : SessionCall P → Bool
  | .keyed _ c => k == .keyed c.table
  | .digest .. => k == .dig
  | .grant | .reset => true

namespace SessionOps

variable {P : Provider}

/-- The answers that the calls on a slot get. -/
def answers (k : Slot) : SessionOps P → List (SessionCall P) → List (Except Refusal Reply)
  | _, [] => []
  | s, c :: cs =>
    (if c.reaches k then (s.call c).1.toList else []) ++ answers k (s.step c) cs

/-- Slots that no call can tell apart. -/
def Alike (k : Slot) (s s' : SessionOps P) : Prop :=
  match k with
  | .keyed t => (s.keyed t).Alike (s'.keyed t)
  | .dig => s.dig.active = s'.dig.active ∧ (s.dig.active = true → s.dig = s'.dig)

/-- An idle slot without a leftover cipher or MAC context. -/
def Vacant (k : Slot) (s : SessionOps P) : Prop :=
  match k with
  | .keyed t => (s.keyed t).live.active = false ∧ (s.keyed t).live.cipherCtx = none ∧
      (s.keyed t).live.macCtx = none
  | .dig => s.dig.active = false

theorem Vacant.alike {k : Slot} {s s' : SessionOps P} (h : s.Vacant k) (h' : s'.Vacant k) :
    Alike k s s' := by
  cases k with
  | keyed t =>
    obtain ⟨hact, hcipher, hmac⟩ := h
    obtain ⟨hact', hcipher', hmac'⟩ := h'
    exact (Op.BothIdle.mk hact hact' (hcipher.trans hcipher'.symm) (hmac.trans hmac'.symm)).alike
  | dig =>
    have hact : s.dig.active = false := h
    have hact' : s'.dig.active = false := h'
    refine ⟨hact.trans hact'.symm, fun ht => ?_⟩
    rw [hact] at ht
    cases ht

end SessionOps

/-! ## What a call reads of the token -/

/-- Two tokens in which a handle means the same. -/
structure Token.AlikeAt (handle : UInt32) (t t' : Token) : Prop where
  find : t.objects.find? handle = t'.objects.find? handle
  loaded : t.objectsLoaded = t'.objectsLoaded
  shown : t.objectsPublic = t'.objectsPublic

theorem Token.AlikeAt.objectGet {handle : UInt32} {t t' : Token} (h : t.AlikeAt handle t') :
    t.objectGet handle = t'.objectGet handle := by
  simp only [Token.objectGet, h.find, h.loaded, h.shown]

/-- The same surroundings of a call, except for the objects under other handles than that of its
key. -/
structure OpEnv.Alike {P : Provider} (key : Option UInt32) (env env' : OpEnv P) : Prop where
  tok : Option.Rel (fun t t' => ∀ handle ∈ key, t.AlikeAt handle t') env.tok env'.tok
  errorState : env.errorState = env'.errorState
  strict : env.strict = env'.strict
  gmacAlias : env.gmacAlias = env'.gmacAlias
  seed : env.seed = env'.seed

/-- The key of a call: the one given to its `C_*Init`. -/
def SlotCall.keyOf {P : Provider} (op : Op P) : SlotCall → Option UInt32
  | encryptInit _ hKey | decryptInit _ hKey | signInit _ hKey | verifyInit _ hKey => some hKey.toUInt32
  | _ => some op.params.keyHandle

/-- Only `C_DigestKey` has one. -/
def DigestCall.keyOf : DigestCall → Option UInt32
  | .key hKey => some hKey.toUInt32
  | _ => none

section

variable {P : Provider} (env : OpEnv P) {t t' : Token}

def OpEnv.on (t : Token) : OpEnv P := { env with tok := some t }

theorem OpEnv.tok_on (t : Token) : (env.on t).tok = some t := rfl

section

variable {hKey : UInt64} (h : t.AlikeAt hKey.toUInt32 t')

include h

theorem keyedGate_on (m : Option Mech) (valid : UInt64 → Bool) (usage : Usage) :
    keyedGate (env.on t) m hKey valid usage = keyedGate (env.on t') m hKey valid usage := by
  cases m with
  | none => rfl
  | some m =>
    simp only [keyedGate, OpEnv.on, Token.requireKey, checkKeyMechType, Token.checkAllowedMech,
      Token.storeVisible, Token.checkUsage, h.objectGet, h.find, h.loaded, h.shown]
    rfl

/-- `op_init` reads the token in two places: the reset and the test of an EdDSA key. -/
theorem opInit_on (m : Mech) : opInit (env.on t) m hKey = opInit (env.on t') m hKey := by
  have hreset : Op.reset (env.on t) m hKey = Op.reset (env.on t') m hKey := by
    funext op
    simp only [Op.reset, OpEnv.on, h.find]
    rfl
  have hrefused : eddsaRefused (env.on t) m hKey = eddsaRefused (env.on t') m hKey := by
    simp only [eddsaRefused, keyKind, OpEnv.on, Option.bind_some, h.find, h.objectGet]
  unfold opInit
  rw [hreset, hrefused]
  rfl

theorem keyedInit_on (m : Option Mech) (valid : UInt64 → Bool) (usage : Usage) (op : Op P) :
    keyedInit (env.on t) m hKey valid usage op = keyedInit (env.on t') m hKey valid usage op := by
  simp only [keyedInit, keyedGate_on env h, opInit_on env h]

theorem digestKey_on : digestKey (env.on t) hKey = digestKey (env.on t') hKey := by
  simp only [digestKey, OpEnv.on, Token.checkAllowedMech, Token.storeVisible, h.objectGet, h.find,
    h.loaded, h.shown]
  rfl

end

section

variable {s : Setup} (hget : t.objectGet s.keyHandle = t'.objectGet s.keyHandle)

include hget

theorem ensureCipherCtx_on (enc : Bool) :
    ensureCipherCtx (env.on t) enc s = ensureCipherCtx (env.on t') enc s := by
  simp only [ensureCipherCtx, OpEnv.on, hget]
  rfl

theorem macStream_on : macStream (env.on t) s = macStream (env.on t') s := by
  simp only [macStream, OpEnv.on, hget]

theorem updateWith_on (part : Bytes) : updateWith (env.on t) s part = updateWith (env.on t') s part := by
  simp only [updateWith, macStream_on env hget]
  rfl

theorem signOut_on (pre : Bool) (data : Bytes) (out : OutArg) :
    signOut (env.on t) t s pre data out = signOut (env.on t') t' s pre data out := by
  cases out with
  | noLen => rfl
  | query | room =>
    simp only [signOut, exactSigLen, signAsymmetric, hget]
    rfl

theorem signWith_on (pre : Bool) (data : Bytes) (out : OutArg) :
    signWith (env.on t) t s pre data out = signWith (env.on t') t' s pre data out := by
  simp only [signWith, signOut_on env hget, hget]
  rfl

theorem verifyAsymmetric_on (pre : Bool) (data sig : Bytes) :
    verifyAsymmetric (env.on t) t s pre data sig = verifyAsymmetric (env.on t') t' s pre data sig := by
  simp only [verifyAsymmetric, hget]
  rfl

theorem verifyWith_on (pre : Bool) (data sig : Bytes) :
    verifyWith (env.on t) t s pre data sig = verifyWith (env.on t') t' s pre data sig := by
  simp only [verifyWith, verifyAsymmetric_on env hget, hget]
  rfl

theorem signFinal_on (out : OutArg) :
    signFinalComposite (env.on t) s out = signFinalComposite (env.on t') s out ∧
      signFinalBuffered (env.on t) t s out = signFinalBuffered (env.on t') t' s out ∧
      signFinalMac (env.on t) s out = signFinalMac (env.on t') s out := by
  refine ⟨?_, ?_, ?_⟩
  · simp only [signFinalComposite, OpEnv.on, hget]
    rfl
  · simp only [signFinalBuffered, signOut_on env hget]
    rfl
  · simp only [signFinalMac, macStreamFinal, macStream_on env hget]
    rfl

end

theorem SlotCall.run_on {c : SlotCall} {op : Op P} (h : ∀ handle ∈ c.keyOf op, t.AlikeAt handle t') :
    c.run (env.on t) op = c.run (env.on t') op := by
  have hget (hkey : c.keyOf op = some op.params.keyHandle) :
      t.objectGet op.params.setup.keyHandle = t'.objectGet op.params.setup.keyHandle :=
    (h _ hkey).objectGet
  cases c with
  | encryptInit m hKey | decryptInit m hKey | verifyInit m hKey =>
    exact keyedInit_on env (h _ rfl) m _ _ op
  | signInit m hKey =>
    simp only [run, FreeHsm.signInit]
    rw [keyedInit_on env (h _ rfl)]
    rfl
  | encrypt =>
    simp only [run, FreeHsm.encrypt, Op.call, OpEnv.tok_on, hget rfl]
    rfl
  | decrypt =>
    simp only [run, FreeHsm.decrypt, Op.call, OpEnv.tok_on, hget rfl]
    rfl
  | encryptUpdate =>
    simp only [run, FreeHsm.encryptUpdate, Op.call, ensureCipherCtx_on env (hget rfl)]
    rfl
  | encryptFinal =>
    simp only [run, FreeHsm.encryptFinal, Op.call, ensureCipherCtx_on env (hget rfl)]
    rfl
  | decryptUpdate =>
    simp only [run, FreeHsm.decryptUpdate, Op.call, ensureCipherCtx_on env (hget rfl)]
    rfl
  | decryptFinal =>
    simp only [run, FreeHsm.decryptFinal, Op.call, ensureCipherCtx_on env (hget rfl)]
    rfl
  | sign => simp only [run, FreeHsm.sign, Op.call, OpEnv.tok_on, signWith_on env (hget rfl)]
  | verify => simp only [run, FreeHsm.verify, Op.call, OpEnv.tok_on, verifyWith_on env (hget rfl)]
  | signUpdate => simp only [run, FreeHsm.signUpdate, Op.call, updateWith_on env (hget rfl)]
  | verifyUpdate =>
    simp only [run, FreeHsm.verifyUpdate, Op.call, OpEnv.tok_on, updateWith_on env (hget rfl)]
  | signFinal => simp only [run, FreeHsm.signFinal, Op.call, OpEnv.tok_on, signFinal_on env (hget rfl)]
  | verifyFinal =>
    simp only [run, FreeHsm.verifyFinal, macStreamFinal, Op.call, OpEnv.tok_on,
      verifyAsymmetric_on env (hget rfl), macStream_on env (hget rfl), hget rfl]
    rfl

end

section

variable {P : Provider} {env env' : OpEnv P} {key : Option UInt32}

/-- Of the objects of the token, a call reads the key of its operation. -/
theorem SlotCall.run_of_alike {c : SlotCall} {op : Op P} (h : env.Alike (c.keyOf op) env') :
    c.run env op = c.run env' op := by
  obtain ⟨tok, errorState, strict, gmacAlias, seed⟩ := env
  obtain ⟨tok', errorState', strict', gmacAlias', seed'⟩ := env'
  obtain ⟨htok, rfl, rfl, rfl, rfl⟩ := h
  cases htok with
  | none => rfl
  | some hkey => exact c.run_on ⟨none, errorState, strict, gmacAlias, seed⟩ hkey

theorem DigestCall.run_of_alike {c : DigestCall} (h : env.Alike c.keyOf env') : c.run env = c.run env' := by
  obtain ⟨tok, errorState, strict, gmacAlias, seed⟩ := env
  obtain ⟨tok', errorState', strict', gmacAlias', seed'⟩ := env'
  obtain ⟨htok, rfl, rfl, rfl, rfl⟩ := h
  cases htok with
  | none => rfl
  | some hkey =>
    cases c with
    | key hKey => exact digestKey_on ⟨none, errorState, strict, gmacAlias, seed⟩ (hkey _ rfl)
    | _ => rfl

end

/-! ## One call on alike slots -/

section

variable {P : Provider} {env : OpEnv P}

theorem cipherMechValid_narrow {t : UInt64} (h : cipherMechValid env t = true) :
    t.toUInt32.toUInt64 = t := by
  have hall : ∀ x ∈ cipherMechs, x.toUInt32.toUInt64 = x :=
    List.all_iff_forall_prop.1 (by decide)
  rw [cipherMechValid, Bool.and_eq_true, contains_iff_mem] at h
  exact hall t h.2

theorem signMechValid_narrow {t : UInt64} (h : signMechValid env t = true) :
    t.toUInt32.toUInt64 = t := by
  have hall : ∀ x ∈ signMechs, x.toUInt32.toUInt64 = x :=
    List.all_iff_forall_prop.1 (by decide)
  have hlegacy : ∀ x ∈ legacySignMechs, x.toUInt32.toUInt64 = x :=
    List.all_iff_forall_prop.1 (by decide)
  rw [signMechValid, Bool.or_eq_true, Bool.and_eq_true, contains_iff_mem, contains_iff_mem] at h
  rcases h with h | h
  · exact hall t h
  · exact hlegacy t h.2

theorem opInit_ok_active {m : Mech} {hKey : UInt64} {op op' : Op P}
    (h : exec (opInit env m hKey) op = (.ok (), op')) : op'.live.active = true := by
  unfold opInit at h
  iterate 15 obtain ⟨_, _, -, h⟩ := exec_bind_ok.1 h
  unfold initDone at h
  iterate 3 obtain ⟨_, _, -, h⟩ := exec_bind_ok.1 h
  obtain rfl : .activate _ = op' := congrArg Prod.snd h
  rfl

theorem keyedInit_ok_active {m : Option Mech} {hKey : UInt64} {valid : UInt64 → Bool} {usage : Usage}
    {op op' : Op P} {r : Reply} (h : keyedInit env m hKey valid usage op = (.ok r, op')) :
    op'.live.active = true := by
  unfold keyedInit at h
  split at h
  · cases h
  rename_i m' _
  rcases hx : exec (opInit env m' hKey) op with ⟨ra, a'⟩
  rw [hx] at h
  cases ra with
  | error e => cases h
  | ok u =>
    cases h
    exact opInit_ok_active hx

theorem signInit_alike (m : Option Mech) (hKey : UInt64) {a b : Op P} (h : a.Alike b) :
    SameCall (signInit env m hKey a) (signInit env m hKey b) := by
  have hnarrow : ∀ t, signMechValid env t = true → t.toUInt32.toUInt64 = t :=
    fun _ => signMechValid_narrow
  obtain ⟨hr, halike⟩ := keyedInit_alike env m hKey .sign hnarrow h
  unfold signInit
  rcases hxa : keyedInit env m hKey (signMechValid env) .sign a with ⟨ra, a'⟩
  rcases hxb : keyedInit env m hKey (signMechValid env) .sign b with ⟨rb, b'⟩
  rw [hxa, hxb] at hr halike
  cases hr
  cases ra with
  | error e => exact ⟨rfl, halike⟩
  | ok r =>
    have hact := keyedInit_ok_active hxa
    have htoo : a'.params.pq.tooLong = b'.params.pq.tooLong :=
      congrArg Setup.pqTooLong (halike.setup hact)
    dsimp only
    rw [← htoo]
    split
    · refine ⟨rfl, rfl, halike.cipherCtx, halike.macCtx, ?_, ?_⟩ <;> intro hc <;> cases hc
    · exact ⟨rfl, halike⟩

theorem SlotCall.run_alike (env : OpEnv P) (c : SlotCall) {a b : Op P} (h : a.Alike b) :
    SameCall (c.run env a) (c.run env b) := by
  cases c with
  | encryptInit m hKey => exact keyedInit_alike env m hKey .encrypt (fun _ => cipherMechValid_narrow) h
  | decryptInit m hKey => exact keyedInit_alike env m hKey .decrypt (fun _ => cipherMechValid_narrow) h
  | signInit m hKey => exact signInit_alike m hKey h
  | verifyInit m hKey => exact keyedInit_alike env m hKey .verify (fun _ => signMechValid_narrow) h
  | _ => exact h.call _ _

/-! ## One call on the digest slot -/

/-- Two idle digest slots. -/
def DigestOp.BothIdle (a b : DigestOp P) : Prop := a.active = false ∧ b.active = false

/-- `C_DigestInit` overwrites all four fields. -/
theorem digestInit_agree (m : Option Mech) :
    Agree DigestOp.BothIdle (digestInit env m) (fun a b => a = b) DigestOp.BothIdle := by
  unfold digestInit
  refine .check (fun _ _ h => h) fun _ => .check (fun _ _ h => h) fun _ => ?_
  cases m with
  | none => exact .throw _ fun _ _ h => h
  | some m =>
    refine .gets (fun _ _ h => h.1.trans h.2.symm) fun _ => .check (fun _ _ h => h) fun _ => ?_
    refine .check (fun _ _ h => h) fun _ => ?_
    split
    · exact .throw _ fun _ _ h => h
    refine .bind (S := fun a b => a.BothIdle b ∧ a.hash = b.hash)
      (.update fun _ _ h => ⟨h, rfl⟩) fun _ => ?_
    refine .check (fun _ _ h => h.1) fun _ => .check (fun _ _ h => h.1) fun _ => ?_
    refine .bind (S := fun a b => a = b) (.update fun a b h => ?_) fun _ =>
      .pure _ fun _ _ h => h
    simp only [DigestOp.mk.injEq, true_and, and_true]
    exact h.2

theorem exec_runningDigest_of_idle {a : DigestOp P} (h : a.active = false) :
    exec (runningDigest : DigestM P MdAlg) a = (.error (.rv .operationNotInitialized), a) := by
  unfold runningDigest
  rw [exec_bind_of_ok (exec_get a), h]
  rfl

theorem DigestCall.run_idle (env : OpEnv P) (c : DigestCall) (hc : ∀ m, c ≠ .init m) :
    ∃ e, ∀ a : DigestOp P, a.active = false → exec (c.run env) a = (.error e, a) := by
  have hrunning (f : MdAlg → DigestM P Reply) (a : DigestOp P) (h : a.active = false) :
      exec (runningDigest >>= f) a = (.error (.rv .operationNotInitialized), a) := by
    rw [exec_bind, exec_runningDigest_of_idle h]
  cases c with
  | init m => exact absurd rfl (hc m)
  | digest data out =>
    cases hout : out == .noLen with
    | true =>
      refine ⟨.rv .argumentsBad, fun a _ => ?_⟩
      simp only [DigestCall.run, FreeHsm.digest, DigestM.refuseIf, hout]
      rfl
    | false =>
      refine ⟨.rv .operationNotInitialized, fun a h => ?_⟩
      simp only [DigestCall.run, FreeHsm.digest, DigestM.refuseIf, hout]
      exact hrunning _ a h
  | update part => exact ⟨_, hrunning _⟩
  | key hKey => exact ⟨_, hrunning _⟩
  | final out => exact ⟨_, hrunning _⟩

theorem DigestCall.run_alike (env : OpEnv P) (c : DigestCall) {a b : DigestOp P} (hact : a.active = b.active)
    (heq : a.active = true → a = b) :
    (exec (c.run env) a).1 = (exec (c.run env) b).1 ∧
      (exec (c.run env) a).2.active = (exec (c.run env) b).2.active ∧
      ((exec (c.run env) a).2.active = true → (exec (c.run env) a).2 = (exec (c.run env) b).2) := by
  cases ha : a.active with
  | true =>
    rw [heq ha]
    exact ⟨rfl, rfl, fun _ => rfl⟩
  | false =>
    have hb : b.active = false := hact ▸ ha
    by_cases hc : ∃ m, c = .init m
    · obtain ⟨m, rfl⟩ := hc
      obtain ⟨r, hra, hrb, hrel⟩ := digestInit_agree m a b ⟨ha, hb⟩
      refine ⟨hra.trans hrb.symm, ?_⟩
      cases r with
      | ok v => exact ⟨congrArg DigestOp.active hrel, fun _ => hrel⟩
      | error e =>
        refine ⟨hrel.1.trans hrel.2.symm, fun ht => ?_⟩
        rw [show (exec ((DigestCall.init m).run env) a).2.active = false from hrel.1] at ht
        cases ht
    · obtain ⟨e, hidle⟩ := DigestCall.run_idle env c (not_exists.1 hc)
      rw [hidle a ha, hidle b hb]
      refine ⟨rfl, hact, fun ht => ?_⟩
      rw [ha] at ht
      cases ht

end

/-! ## Histories -/

namespace SessionOps

variable {P : Provider} {k : Slot} {s s' : SessionOps P}

theorem grantSlot_alike {a b : Op P} (h : a.Alike b) : (grantSlot a).Alike (grantSlot b) := by
  unfold grantSlot
  rw [← h.active]
  split
  · rename_i hact
    exact ⟨h.active, h.cipherCtx, h.macCtx,
      fun _ => congrArg (fun l : Running P => { l with ctxAuthDone := true }) (h.live hact),
      fun _ => h.setup hact⟩
  · exact h

/-- A call that reaches the slot: the same answer, and alike slots. -/
theorem call_alike {c : SessionCall P} (hc : c.reaches k = true) (h : Alike k s s') :
    (s.call c).1 = (s'.call c).1 ∧ Alike k (s.step c) (s'.step c) := by
  cases c with
  | keyed env c =>
    obtain rfl : k = .keyed c.table := by simpa [SessionCall.reaches] using hc
    obtain ⟨hr, halike⟩ := c.run_alike env h
    refine ⟨congrArg some hr, ?_⟩
    simpa [Alike, step, call, setKeyed] using halike
  | digest env c =>
    obtain rfl : k = .dig := by simpa [SessionCall.reaches] using hc
    obtain ⟨hr, halike⟩ := c.run_alike env h.1 h.2
    exact ⟨congrArg some hr, halike⟩
  | grant =>
    refine ⟨rfl, ?_⟩
    cases k with
    | keyed t => exact grantSlot_alike h
    | dig => exact h
  | reset =>
    refine ⟨rfl, ?_⟩
    cases k with
    | keyed t => exact ⟨rfl, rfl, rfl, fun _ => rfl, fun _ => rfl⟩
    | dig => exact ⟨rfl, fun _ => rfl⟩

/-- A call on another slot leaves this one alone. -/
theorem alike_step_of_not_reaches {c : SessionCall P} (hc : c.reaches k = false) (h : Alike k s s') :
    Alike k (s.step c) s' := by
  cases c with
  | keyed env c =>
    have hne : k ≠ .keyed c.table := by simpa [SessionCall.reaches] using hc
    cases k with
    | keyed t =>
      have ht : t ≠ c.table := fun heq => hne (congrArg Slot.keyed heq)
      simpa [Alike, step, call, setKeyed, ht] using h
    | dig => exact h
  | digest env c =>
    have hne : k ≠ .dig := by simpa [SessionCall.reaches] using hc
    cases k with
    | keyed t => exact h
    | dig => exact absurd rfl hne
  | grant => cases hc
  | reset => cases hc

/-- The answers depend on the slot and on the calls that reach it, and on nothing else. -/
theorem answers_eq_filter (cs : List (SessionCall P)) (h : Alike k s s') :
    answers k s cs = answers k s' (cs.filter (SessionCall.reaches k)) := by
  induction cs generalizing s s' with
  | nil => rfl
  | cons c cs ih =>
    cases hc : c.reaches k with
    | true =>
      obtain ⟨hr, halike⟩ := call_alike hc h
      rw [filter_cons_of_pos hc, answers, answers, hc, hr, ih halike]
    | false =>
      rw [filter_cons_of_neg (by simp [hc]), answers, hc, ih (alike_step_of_not_reaches hc h)]
      rfl

/-- The same call in surroundings that may differ in all objects but the key of its operation. -/
def CallAgrees (s : SessionOps P) : SessionCall P → SessionCall P → Prop
  | .keyed env c, .keyed env' c' => c = c' ∧ env.Alike (c.keyOf (s.keyed c.table)) env'
  | .digest env c, .digest env' c' => c = c' ∧ env.Alike c.keyOf env'
  | .grant, .grant | .reset, .reset => True
  | _, _ => False

/-- The same calls, one after the other. -/
def CallsAgree : SessionOps P → List (SessionCall P) → List (SessionCall P) → Prop
  | _, [], [] => True
  | s, c :: cs, c' :: cs' => s.CallAgrees c c' ∧ (s.step c).CallsAgree cs cs'
  | _, _, _ => False

theorem CallAgrees.eq {c c' : SessionCall P} (h : s.CallAgrees c c') :
    s.call c = s.call c' ∧ c.reaches k = c'.reaches k := by
  cases c with
  | keyed env c =>
    cases c' with
    | keyed env' c' =>
      obtain ⟨rfl, h⟩ := h
      exact ⟨by rw [call, call, SlotCall.run_of_alike h], rfl⟩
    | _ => exact h.elim
  | digest env c =>
    cases c' with
    | digest env' c' =>
      obtain ⟨rfl, h⟩ := h
      exact ⟨by rw [call, call, DigestCall.run_of_alike h], rfl⟩
    | _ => exact h.elim
  | grant =>
    cases c' with
    | grant => exact ⟨rfl, rfl⟩
    | _ => exact h.elim
  | reset =>
    cases c' with
    | reset => exact ⟨rfl, rfl⟩
    | _ => exact h.elim

theorem CallsAgree.answers_eq {cs cs' : List (SessionCall P)} (h : s.CallsAgree cs cs') :
    answers k s cs = answers k s cs' := by
  induction cs generalizing s cs' with
  | nil =>
    cases cs' with
    | nil => rfl
    | cons => exact h.elim
  | cons c cs ih =>
    cases cs' with
    | nil => exact h.elim
    | cons c' cs' =>
      obtain ⟨hcall, hreach⟩ := h.1.eq (k := k)
      have hstep : s.step c = s.step c' := congrArg Prod.snd hcall
      rw [answers, answers, ih h.2, hstep, hcall, hreach]

/-- Two histories that leave a slot idle and without leftover contexts. From then on the
answers of the calls on that slot, and so the output of the next operation, are a function of
the calls that reach it: its `C_*Init` with the key, the mechanism and the parameters it
finds, and the data given to it afterwards. Nothing else that the token holds matters. -/
theorem answers_of_vacant (k : Slot) (h₁ h₂ cs₁ cs₂ : List (SessionCall P))
    (hv₁ : (run step fresh h₁).Vacant k) (hv₂ : (run step fresh h₂).Vacant k)
    (hagree : (run step fresh h₁).CallsAgree (cs₁.filter (SessionCall.reaches k))
      (cs₂.filter (SessionCall.reaches k))) :
    answers k (run step fresh h₁) cs₁ = answers k (run step fresh h₂) cs₂ := by
  rw [answers_eq_filter cs₁ (hv₁.alike hv₁), hagree.answers_eq, ← answers_eq_filter cs₂ (hv₂.alike hv₁)]

end SessionOps

/-! ## The leftover context -/

/-- A token in memory that holds some objects and nothing else. -/
def Token.holding (objs : List Obj) (h : objs.length ≤ maxObjects) : Token where
  header :=
    { label := Vector.replicate 64 0, serial := Vector.replicate 64 0, pbkdf2Iter := 0
      wrap := ⟨⟨Vector.replicate 16 0, Vector.replicate 12 0, Vector.replicate 48 0⟩,
        ⟨Vector.replicate 16 0, Vector.replicate 12 0, Vector.replicate 48 0⟩⟩
      userInitialized := true, failed := ⟨0, 0⟩ }
  throttleUntilMs := ⟨0, 0⟩
  dek := none
  loggedIn := .user
  objects := ⟨objs, h⟩
  nextHandle := 1
  objectsLoaded := true
  objectsPublic := false

/-- An AES key of sixteen equal bytes. -/
def aesKey (handle : UInt32) (b : UInt8) : Obj :=
  { Obj.zero with
    handle := handle, cls := ckoSecretKey, keyType := ckkAes, value := List.replicate 16 b
    value_le := by rw [List.length_replicate]; decide }

/-- A session of a token with two AES keys. -/
def twoKeyEnv : OpEnv .plain where
  tok := some (Token.holding [aesKey 1 10, aesKey 2 20] (by decide))
  errorState := false
  strict := true
  gmacAlias := false
  seed := ()

/-- The same session, with another key under the first handle. -/
def otherKeyEnv : OpEnv .plain :=
  { twoKeyEnv with tok := some (Token.holding [aesKey 1 30, aesKey 2 20] (by decide)) }

def ecb : Mech := ⟨ckmAesEcb, .null 0, fun _ => 0⟩

/-- A sixteen-byte block of zeros. -/
def zeroBlock : Buf := .bytes (List.replicate 16 0)

/-- An encryption with the first key that ends in a one-shot call after an update. -/
def endedOneShot : List (SessionCall .plain) :=
  [.keyed twoKeyEnv (.encryptInit (some ecb) 1),
   .keyed twoKeyEnv (.encryptUpdate zeroBlock (.room 16)),
   .keyed twoKeyEnv (.encrypt zeroBlock (.room 16))]

/-- An encryption with the second key. -/
def secondKey (env : OpEnv .plain) : List (SessionCall .plain) :=
  [.keyed env (.encryptInit (some ecb) 2), .keyed env (.encryptUpdate zeroBlock (.room 16))]

open SessionOps in
/-- The update of the second operation runs on the context of the first: the answers are not
those of a fresh session, although the slot was idle. -/
theorem encrypt_after_updates_keeps_context :
    ((run step fresh endedOneShot).keyed .enc).live.active = false ∧
      answers (.keyed .enc) (run step fresh endedOneShot) (secondKey twoKeyEnv) =
        [.ok .done, .ok (.data (replicate 16 10))] ∧
      answers (.keyed .enc) fresh (secondKey twoKeyEnv) = [.ok .done, .ok (.data (replicate 16 20))] := by
  decide +kernel

/-- An encryption with the first key that ends in its final call. -/
def endedFinal : List (SessionCall .plain) :=
  [.keyed twoKeyEnv (.encryptInit (some ecb) 1),
   .keyed twoKeyEnv (.encryptUpdate zeroBlock (.room 16)),
   .keyed twoKeyEnv (.encryptFinal (.room 0))]

open SessionOps in
/-- After a properly ended operation, the next one gets the answers of a fresh session, whatever
the first key is. -/
theorem answers_of_vacant_endedFinal : (run step fresh endedFinal).Vacant (.keyed .enc) ∧
      answers (.keyed .enc) (run step fresh endedFinal) (secondKey twoKeyEnv) =
        answers (.keyed .enc) fresh (secondKey otherKeyEnv) := by
  have hfacts : ((run step fresh endedFinal).keyed .enc).live.active = false ∧
      ((run step fresh endedFinal).keyed .enc).live.cipherCtx.isNone = true ∧
      ((run step fresh endedFinal).keyed .enc).live.macCtx.isNone = true := by
    decide +kernel
  obtain ⟨hactive, hcipher, hmac⟩ := hfacts
  have hvacant : (run step fresh endedFinal).Vacant (.keyed .enc) :=
    ⟨hactive, Option.isNone_iff_eq_none.1 hcipher, Option.isNone_iff_eq_none.1 hmac⟩
  have halike (key : UInt32) (h : key = 2) : twoKeyEnv.Alike (some key) otherKeyEnv := by
    subst h
    exact ⟨.some fun _ hkey => Option.mem_some.1 hkey ▸ ⟨rfl, rfl, rfl⟩, rfl, rfl, rfl, rfl⟩
  have hkey : (((run step fresh endedFinal).step
      (.keyed twoKeyEnv (.encryptInit (some ecb) 2))).keyed .enc).params.keyHandle = 2 := by
    decide +kernel
  exact ⟨hvacant, answers_of_vacant _ endedFinal [] (secondKey twoKeyEnv) (secondKey otherKeyEnv)
    hvacant ⟨rfl, rfl, rfl⟩ ⟨⟨rfl, halike _ rfl⟩, ⟨rfl, halike _ hkey⟩, trivial⟩⟩

end FreeHsm
