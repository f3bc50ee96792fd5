import FreeHsm.Pkcs11.Digest
import FreeHsm.Pkcs11.SignParts

/-!
# Multipart and one-shot signatures and digests

`C_SignFinal`, `C_VerifyFinal` and `C_DigestFinal` after a number of updates, compared
with `C_Sign`, `C_Verify` and `C_Digest` of the whole message. Between two updates the
final call may be tried with a size query or a buffer that is too small.
-/

namespace FreeHsm

open StateExcept OpM List SessionOps

variable {P : Provider}

/-! ## Calls before the last one -/

/-- A call in the middle of an operation: a part of the message, or a try of the final call with
a buffer (`none` for a size query). -/
inductive PartCall (P : Provider)
  | update (seed : P.Seed) (part : Bytes)
  | peek (seed : P.Seed) (room : Option Nat)

def PartCall.isPeek : PartCall P → Bool
  | .update .. => false
  | .peek .. => true

/-- The message that the updates make up. -/
def message : List (PartCall P) → Bytes
  | [] => []
  | .update _ part :: rest => part ++ message rest
  | .peek .. :: rest => message rest

/-- Every try is one that the call in one piece, on what was passed in so far, would not answer
either. -/
def Patient (shot : Bytes → P.Seed → Option Nat → Outcome) : Bytes → List (PartCall P) → Prop
  | _, [] => True
  | fed, .update _ part :: rest => Patient shot (fed ++ part) rest
  | fed, .peek seed n :: rest => shot fed seed n = .unanswered ∧ Patient shot fed rest

/-- After an update and a try there is no further update. -/
def PeeksLast : Bool → List (PartCall P) → Prop
  | _, [] => True
  | _, .update .. :: rest => PeeksLast true rest
  | false, .peek .. :: rest => PeeksLast false rest
  | true, .peek .. :: rest => ∀ c ∈ rest, c.isPeek = true

/-! ## Operations -/

/-- A signature operation: the session around it, its mechanism and its key, and whether a
context-specific login follows `C_*Init`. -/
structure SignJob (P : Provider) where
  env : OpEnv P
  mech : Mech
  hKey : UInt64
  login : Bool

namespace SignJob

variable (j : SignJob P)

/-- `C_SignInit` or `C_VerifyInit`, and the login. -/
def start (signing : Bool) (op : Op P) : Option (Op P) :=
  match (if signing then signInit j.env (some j.mech) j.hKey op
    else verifyInit j.env (some j.mech) j.hKey op) with
  | (.ok _, op') => some (if j.login then SessionOps.grantSlot op' else op')
  | (.error _, _) => none

variable (op : Op P)

/-- `C_Sign` in a slot that was started. -/
def signShot (d : Bytes) (seed : P.Seed) (n : Option Nat) : Outcome :=
  Outcome.of (sign (j.env.seeded seed) (.bytes d) (outArg n) op).1

/-- `C_SignUpdate`, or a try of `C_SignFinal`. -/
def signStep : PartCall P → Op P
  | .update seed part => (signUpdate (j.env.seeded seed) (.bytes part) op).2
  | .peek seed n => (signFinal (j.env.seeded seed) (outArg n) op).2

def signRun (hist : List (PartCall P)) (op : Op P) : Op P := hist.foldl j.signStep op

/-- `C_Sign` makes a signature of the data. -/
def Signs (d : Bytes) : Prop :=
  ∃ seed n sig, (sign (j.env.seeded seed) (.bytes d) (outArg n) op).1 = .ok (.data sig)

/-- `C_SignFinal` after the history answers as `C_Sign` of the message. -/
def SignsAlike (hist : List (PartCall P)) : Prop := ∀ seed n,
  Outcome.of (signFinal (j.env.seeded seed) (outArg n) (j.signRun hist op)).1 =
    j.signShot op (message hist) seed n

/-- Every try of `C_SignFinal` is one that `C_Sign` of the message so far would not answer, and for
a pre-hash variant none is followed by an update after the first one. -/
def Undisturbed (hist : List (PartCall P)) : Prop :=
  Patient (j.signShot op) [] hist ∧ (op.params.hmRow ≠ 0 → PeeksLast false hist)

/-- The message is kept in the buffer. -/
def Keeps : Prop :=
  isBufferedMultipart op.params.mechanism = true ∧ op.params.hmRow = 0

/-- `C_VerifyUpdate` of the parts. -/
def verifyRun (parts : List (P.Seed × Bytes)) (op : Op P) : Op P :=
  parts.foldl (fun op p => (verifyUpdate (j.env.seeded p.1) (.bytes p.2) op).2) op

/-- `C_VerifyFinal` after the parts gives the verdict of `C_Verify`. -/
def VerifiesAlike (parts : List (P.Seed × Bytes)) : Prop :=
  ∀ seed sig (v : Except Refusal Reply), v = .ok .done ∨ v = .error (.rv .signatureInvalid) →
    (verify (j.env.seeded seed) (.bytes (parts.map (·.2)).flatten) (.bytes sig) op).1 = v →
    (verifyFinal (j.env.seeded seed) (.bytes sig) (j.verifyRun parts op)).1 = v

/-- `C_Digest` in a slot that was started. -/
def digestShot (op : DigestOp P) (d : Bytes) (seed : P.Seed) (n : Option Nat) : Outcome :=
  Outcome.of (exec (digest (j.env.seeded seed) (.bytes d) (outArg n)) op).1

/-- `C_DigestUpdate`, or a try of `C_DigestFinal`. -/
def digestStep (op : DigestOp P) : PartCall P → DigestOp P
  | .update seed part => (exec (digestUpdate (j.env.seeded seed) (.bytes part)) op).2
  | .peek seed n => (exec (digestFinal (j.env.seeded seed) (outArg n)) op).2

def digestRun (hist : List (PartCall P)) (op : DigestOp P) : DigestOp P := hist.foldl j.digestStep op

/-- `C_DigestFinal` after the history answers as `C_Digest` of the message. -/
def DigestsAlike (op : DigestOp P) (hist : List (PartCall P)) : Prop := ∀ seed n,
  Outcome.of (exec (digestFinal (j.env.seeded seed) (outArg n)) (j.digestRun hist op)).1 =
    j.digestShot op (message hist) seed n

end SignJob

/-! ## The calls of a running operation -/

/-- A slot that an operation is running in, with the login it may ask for. -/
structure Op.Live (s : Setup) (op : Op P) : Prop where
  setup : op.params.setup = s
  active : op.live.active = true
  auth : s.ctxAuthRequired = true → op.live.ctxAuthDone = true

theorem Op.Live.frame {s : Setup} {op : Op P} (h : op.Live s) {l : Running P} (hl : op.live.Frame l) :
    Op.Live s { op with live := l } :=
  ⟨h.setup, hl.active.trans h.active, fun hreq => hl.auth.trans (h.auth hreq)⟩

theorem outArg_ne_noLen (n : Option Nat) : outArg n ≠ .noLen := by
  cases n <;> exact nofun

section

variable {env : OpEnv P} {t : Token} {s : Setup} {op : Op P}

theorem exec_endingOnError_refuseIf {c : Bool} {e : Err} (hc : c = false) (l : Running P) :
    exec (endingOnError (refuseIf c e : OpM P Unit)) l = (.ok (), l) := by
  rw [exec_endingOnError, hc]
  rfl

variable {d : Bytes}

theorem not_long (hlen : d.length ≤ inputMax) :
    decide (inputMax < (Buf.bytes d).len) = false := decide_eq_false (not_lt.2 hlen)

theorem dangling_bytes (d : Bytes) : (Buf.bytes d).dangling = false := rfl

theorem sign_eq (h : op.Live s) (htok : env.tok = some t) (hlen : d.length ≤ inputMax)
    {out : OutArg} (hout : out ≠ .noLen) :
    sign env (.bytes d) out op =
      op.result (exec (ending (signWith env t s op.live.hmPrehashed d out)) op.live) := by
  have hno : (out == .noLen) = false := by simpa using hout
  rw [sign, Op.call_of_active h.active, h.setup, exec_bind_of_ok (exec_requireCtxAuth h.auth),
    exec_bind_of_ok (exec_endingOnError_refuseIf (not_long hlen) _), refuseIf, exec_failIf_bind, hno,
    if_neg Bool.false_ne_true, exec_bind_of_ok (exec_endingOnError_refuseIf (dangling_bytes d) _), htok]
  rfl

theorem exec_checkInput (hlen : d.length ≤ inputMax) (l : Running P) :
    exec (checkInput (.bytes d) : OpM P Unit) l = (.ok (), l) := by
  unfold checkInput
  simp only [exec_endingOnError, refuseIf, exec_failIf_bind, not_long hlen]
  rfl

theorem signUpdate_eq (h : op.Live s) {part : Bytes} (hlen : part.length ≤ inputMax) :
    signUpdate env (.bytes part) op = op.result (exec (updateWith env s part) op.live) := by
  rw [signUpdate, Op.call_of_active h.active, h.setup, exec_bind_of_ok (exec_requireCtxAuth h.auth),
    exec_bind_of_ok (exec_checkInput hlen _)]
  rfl

theorem signFinal_eq (h : op.Live s) (htok : env.tok = some t) {out : OutArg} (hout : out ≠ .noLen) :
    signFinal env out op = op.result (exec (finalBody env t s out) op.live) := by
  have hno : (out == .noLen) = false := by simpa using hout
  rw [signFinal, Op.call_of_active h.active, h.setup, exec_bind_of_ok (exec_requireCtxAuth h.auth),
    refuseIf, exec_failIf_bind, hno, if_neg Bool.false_ne_true, htok]
  rfl

theorem verify_eq (hactive : op.live.active = true) (htok : env.tok = some t)
    (hlen : d.length ≤ inputMax) (sig : Bytes) :
    (verify env (.bytes d) (.bytes sig) op).1 =
      verdictReply (verifyWith env t op.params.setup op.live.hmPrehashed d sig) := by
  rw [verify, Op.call_of_active hactive, exec_bind_of_ok (exec_checkInput hlen _), htok]
  exact exec_ofExcept_done _ _

theorem verifyFinal_eq (hactive : op.live.active = true) (htok : env.tok = some t) (sig : Bytes) :
    verifyFinal env (.bytes sig) op =
      op.result (exec (verifyBody env t op.params.setup sig) op.live) := by
  rw [verifyFinal, Op.call_of_active hactive, refuseIf, exec_failIf_bind, htok]
  rfl

end

/-! ## Histories of a signature -/

namespace SignJob

variable {j : SignJob P} {H : HashModel P} {t : Token} {s : Setup} {op : Op P}

theorem signStep_of_idle (h : op.live.active = false) (c : PartCall P) : j.signStep op c = op := by
  cases c with
  | update seed part =>
    show (signUpdate _ _ op).2 = op
    rw [signUpdate, Op.call_of_idle h]
  | peek seed n =>
    show (signFinal _ _ op).2 = op
    rw [signFinal, Op.call_of_idle h]

theorem signRun_of_idle (h : op.live.active = false) (hist : List (PartCall P)) :
    j.signRun hist op = op := by
  induction hist with
  | nil => rfl
  | cons c rest ih =>
    show j.signRun rest (j.signStep op c) = op
    rw [signStep_of_idle h, ih]

/-- What `C_Sign` answers on data, as a function of the setup. -/
def Answers (j : SignJob P) (t : Token) (s : Setup) (shot : Bytes → P.Seed → Option Nat → Outcome) :
    Prop :=
  ∀ d seed n l, d.length ≤ inputMax →
    shot d seed n = Outcome.of (exec (signWith (j.env.seeded seed) t s false d (outArg n)) l).1

/-- How far an operation is: it holds what was passed in, or it has taken the digest of that. -/
inductive Stage
  | held (opened : Bool)
  | closed

/-- What is in the slot then. -/
def Stage.Has (H : HashModel P) (t : Token) (s : Setup) (fed : Bytes) (l : Running P) : Stage → Prop
  | .held opened => Held H t s ckoPrivateKey opened fed l
  | .closed => Closed H s fed l

/-- The calls that may follow. -/
def Stage.Allows (s : Setup) (hist : List (PartCall P)) : Stage → Prop
  | .held opened => s.hmRow ≠ 0 → PeeksLast opened hist
  | .closed => ∀ c ∈ hist, c.isPeek = true

/-- The stage after a try that was not answered. -/
def Stage.afterPeek (s : Setup) : Stage → Stage
  | .held opened => if s.hmRow ≠ 0 ∧ opened = true then .closed else .held opened
  | .closed => .closed

variable {stage : Stage} {fed : Bytes}

theorem Stage.allows_peek {seed : P.Seed} {n : Option Nat} {rest : List (PartCall P)} :
    stage.Allows s (.peek seed n :: rest) ↔ (stage.afterPeek s).Allows s rest := by
  cases stage with
  | closed => exact ⟨fun h => (forall_mem_cons.1 h).2, fun h => forall_mem_cons.2 ⟨rfl, h⟩⟩
  | held opened =>
    by_cases hpre : s.hmRow ≠ 0 ∧ opened = true
    · -- the digest is taken: what follows has to be tries
      obtain ⟨hrow, rfl⟩ := hpre
      rw [show afterPeek s (.held true) = .closed from if_pos ⟨hrow, rfl⟩]
      exact ⟨fun h => h hrow, fun h _ => h⟩
    · rw [show afterPeek s (.held opened) = .held opened from if_neg hpre]
      refine imp_congr_right fun hrow => ?_
      cases opened with
      | false => exact .rfl
      | true => exact absurd ⟨hrow, rfl⟩ hpre

theorem Stage.Has.final {env : OpEnv P} {l : Running P} (h : stage.Has H t s fed l)
    (htok : env.tok = some t)
    (hcalm : Calm env s) (n : Option Nat) :
    Ends (exec (finalBody env t s (outArg n)) l) l
      (Outcome.of (exec (signWith env t s false fed (outArg n)) l).1)
      fun l => (stage.afterPeek s).Has H t s fed l := by
  cases stage with
  | closed => exact Closed.final env h _
  | held opened =>
    have hends := Held.final env h htok hcalm (outArg_ne_noLen n)
    unfold AfterPeek at hends
    split at hends <;> rename_i hpre
    · rw [show afterPeek s (.held opened) = .closed from if_pos hpre]
      exact hends
    · rw [show afterPeek s (.held opened) = .held opened from if_neg hpre]
      exact hends

/-- What is left after a history: all of the message when it was undisturbed, and an ended
operation otherwise. -/
theorem run_spec {shot : Bytes → P.Seed → Option Nat → Outcome} (hshot : Answers j t s shot)
    (htok : j.env.tok = some t)
    (hcalm : Calm j.env s)
    (hist : List (PartCall P)) (hlen : (fed ++ message hist).length ≤ inputMax)
    (hlimit : Buffering s → (fed ++ message hist).length ≤ multipartMax) (hl : op.Live s)
    (h : stage.Has H t s fed op.live) :
    ((Patient shot fed hist ∧ stage.Allows s hist) ∧ (j.signRun hist op).Live s ∧
        ∃ stage' : Stage, stage'.Has H t s (fed ++ message hist) (j.signRun hist op).live) ∨
      (¬(Patient shot fed hist ∧ stage.Allows s hist) ∧ (j.signRun hist op).live.active = false) := by
  induction hist generalizing op fed stage with
  | nil =>
    rw [message, append_nil]
    refine .inl ⟨⟨trivial, ?_⟩, hl, stage, h⟩
    cases stage with
    | closed => exact nofun
    | held opened => exact fun _ => by cases opened <;> trivial
  | cons c rest ih =>
    show ((_ ∧ _) ∧ (j.signRun rest (j.signStep op c)).Live s ∧
      ∃ stage' : Stage, stage'.Has H t s _ (j.signRun rest (j.signStep op c)).live) ∨
      (_ ∧ (j.signRun rest (j.signStep op c)).live.active = false)
    cases c with
    | update seed part =>
      rw [message, ← append_assoc] at hlen hlimit ⊢
      have hsub : fed.length + part.length ≤ (fed ++ part ++ message rest).length := by simp
      have hstep : (j.signStep op (.update seed part)).live =
          (exec (updateWith (j.env.seeded seed) s part) op.live).2 := by
        show (signUpdate _ _ op).2.live = _
        rw [signUpdate_eq hl (by omega)]
        rfl
      cases stage with
      | closed =>
        have hidle : (j.signStep op (.update seed part)).live.active = false := by
          rw [hstep]
          exact Closed.update _ h part
        refine .inr ⟨fun hall => ?_, ?_⟩
        · cases hall.2 _ mem_cons_self
        · rw [signRun_of_idle hidle]
          exact hidle
      | held opened =>
        obtain ⟨l', hexec, hheld, hframe⟩ := Held.update (j.env.seeded seed) h part htok
          fun hb => hsub.trans (hlimit hb)
        have hop : j.signStep op (.update seed part) = { op with live := l' } := by
          show (signUpdate _ _ op).2 = _
          rw [signUpdate_eq hl (by omega), hexec]
          rfl
        have hlast : PeeksLast opened (.update seed part :: rest) ↔ PeeksLast true rest := by
          cases opened <;> exact .rfl
        rw [hop, Stage.Allows, hlast]
        have hstage : Stage.Has H t s (fed ++ part) l' (.held true) := hheld
        exact ih hlen hlimit (hl.frame hframe) hstage
    | peek seed n =>
      have hfed : fed.length ≤ inputMax := by
        rw [length_append] at hlen
        omega
      have htok' : (j.env.seeded seed).tok = some t := htok
      have hends := h.final htok' hcalm n
      have hstep : j.signStep op (.peek seed n) =
          { op with live := (exec (finalBody (j.env.seeded seed) t s (outArg n)) op.live).2 } := by
        show (signFinal _ _ op).2 = _
        rw [signFinal_eq hl htok' (outArg_ne_noLen n)]
        rfl
      rw [← hshot fed seed n op.live hfed] at hends
      by_cases hun : shot fed seed n = .unanswered
      · -- the operation goes on
        obtain ⟨h', hframe⟩ := hends.kept hun
        rw [hstep, Stage.allows_peek]
        refine (ih hlen hlimit (hl.frame hframe) h').imp ?_ ?_
        · rintro ⟨⟨hpat, hallows⟩, hstate⟩
          exact ⟨⟨⟨hun, hpat⟩, hallows⟩, hstate⟩
        · rintro ⟨hnot, hidle⟩
          exact ⟨fun h => hnot ⟨h.1.2, h.2⟩, hidle⟩
      · have hidle : (j.signStep op (.peek seed n)).live.active = false := by
          rw [hstep]
          exact hends.ended hun
        refine .inr ⟨fun h => hun h.1.1, ?_⟩
        rw [signRun_of_idle hidle]
        exact hidle

/-! ## The start -/

theorem hmGeneric_resolveMech (env : OpEnv P) {mech : UInt32} (h : hmGeneric mech = false) :
    hmGeneric (resolveMech env mech) = false := by
  unfold resolveMech
  split
  · decide
  · exact h

theorem hmldsaIs_buffered {mech : UInt32} (hgen : hmGeneric mech = false) (h : hmldsaIs mech = true) :
    isComposite mech = false ∧ isBufferedMultipart mech = true := by
  have hall : ∀ r ∈ hmTable, (r.mech ≠ 0 → isComposite r.mech = false ∧ isBufferedMultipart r.mech = true) ∧
      (r.slhMech ≠ 0 → isComposite r.slhMech = false ∧ isBufferedMultipart r.slhMech = true) := by
    decide
  rw [hmldsaIs, hgen, Bool.false_or, hmldsaRowOfMech, hmIndex] at h
  cases hfind : hmTable.findIdx? (fun r => (r.mech != 0 && r.mech == mech) ||
      (r.slhMech != 0 && r.slhMech == mech)) with
  | none =>
    rw [hfind] at h
    cases h
  | some i =>
    obtain ⟨hi, hrow, -⟩ := findIdx?_eq_some_iff_getElem.1 hfind
    simp only [Bool.or_eq_true, Bool.and_eq_true, bne_iff_ne, beq_iff_eq] at hrow
    have hcase := hall _ (getElem_mem hi)
    rcases hrow with ⟨hne, rfl⟩ | ⟨hne, rfl⟩
    · exact hcase.1 hne
    · exact hcase.2 hne

/-- A slot that was started, as the calls find it. -/
structure Ready (j : SignJob P) (t : Token) (op : Op P) : Prop where
  tok : j.env.tok = some t
  active : op.live.active = true
  mdCtx : op.live.mdCtx = none
  macCtx : op.live.macCtx = none
  mpBuf : op.live.mpBuf = []
  prehashed : op.live.hmPrehashed = false
  tagLen : op.params.setup.gcmTagLen ≤ 16
  row : op.params.setup.hmRow ≠ 0 → ∃ r, Prehashing op.params.setup r

theorem start_ready (hgen : hmGeneric j.mech.type.toUInt32 = false) {signing : Bool} {op' : Op P}
    (hclear : op.Clear) (h : j.start signing op = some op') : ∃ t, Ready j t op' := by
  -- the two `Init`s are the same but for the usage they ask for and a check at the end
  obtain ⟨op₁, usage, r, hinit, rfl⟩ : ∃ op₁ usage r,
      keyedInit j.env (some j.mech) j.hKey (signMechValid j.env) usage op = (.ok r, op₁) ∧
        op' = (if j.login then grantSlot op₁ else op₁) := by
    unfold start at h
    cases signing with
    | false =>
      rw [if_neg Bool.false_ne_true, verifyInit] at h
      rcases hx : keyedInit j.env (some j.mech) j.hKey (signMechValid j.env) .verify op with ⟨e | r, op₁⟩
      · rw [hx] at h
        cases h
      · rw [hx] at h
        exact ⟨op₁, .verify, r, hx, (Option.some.inj h).symm⟩
    | true =>
      rw [if_pos rfl, signInit] at h
      rcases hx : keyedInit j.env (some j.mech) j.hKey (signMechValid j.env) .sign op with ⟨e | r, op₁⟩
      · rw [hx] at h
        cases h
      · rw [hx] at h
        dsimp only at h
        split at h
        · rename_i hlong
          split at hlong
          · cases hlong
          · cases hlong
            exact ⟨op₁, .sign, r, hx, (Option.some.inj h).symm⟩
        · cases h
  obtain ⟨hexec, t, o, htok, -⟩ := keyedInit_ok hinit
  have hst := opInit_started hexec
  have hgrant : ∃ l, (if j.login then grantSlot op₁ else op₁) = { op₁ with live := l } ∧
      l = { op₁.live with ctxAuthDone := l.ctxAuthDone } := by
    unfold grantSlot
    rw [if_pos hst.active]
    split
    · exact ⟨_, rfl, rfl⟩
    · exact ⟨op₁.live, rfl, rfl⟩
  obtain ⟨l, hop, hl⟩ := hgrant
  rw [hop, hl]
  refine ⟨t, htok, hst.active, hst.mdCtx, hst.macCtx.trans hclear.2.2, hst.mpBuf, hst.prehashed,
    hst.tagLen, fun hrow => ?_⟩
  have hmech : op₁.params.setup.mechanism = resolveMech j.env j.mech.type.toUInt32 := hst.mechanism
  have hgen' := hmGeneric_resolveMech j.env hgen
  obtain ⟨hcomp, hbuf⟩ := hmldsaIs_buffered hgen' (hst.hmMech hrow)
  have hlt : op₁.params.hmRow - 1 < hmTable.length := by
    have hle := hst.hmRow
    have hpos : op₁.params.hmRow ≠ 0 := hrow
    omega
  exact ⟨hmTable[op₁.params.hmRow - 1], by rw [hmech]; exact hcomp, by rw [hmech]; exact hbuf, hrow,
    getElem?_eq_getElem hlt, by rw [hmech]; exact hgen'⟩

/-- The four cases, once the key of the composite mechanism and of the MACs is found. -/
theorem Ready.held {cls : UInt32} (hr : Ready j t op)
    (hcomp : isComposite op.params.setup.mechanism = true → ∃ o,
      t.objectGet op.params.setup.keyHandle = .ok o ∧ o.cls = cls ∧
        o.keyType = ckkCompositeMldsa65Ed25519)
    (hmac : isComposite op.params.setup.mechanism = false →
      isBufferedMultipart op.params.setup.mechanism = false → ∃ o spec,
        t.objectGet op.params.setup.keyHandle = .ok o ∧ macStreamSpec op.params.setup o = .ok spec ∧
          H.supports spec o.value = true) :
    Held H t op.params.setup cls false [] op.live := by
  by_cases hrow : op.params.setup.hmRow = 0
  · cases hc : isComposite op.params.setup.mechanism with
    | true => exact .composite ⟨hc, hrow, hcomp hc⟩ (.inl ⟨hr.mdCtx, rfl⟩)
    | false =>
      cases hb : isBufferedMultipart op.params.setup.mechanism with
      | true => exact .buffer ⟨hc, hb, hrow⟩ hr.prehashed hr.mpBuf
      | false =>
        obtain ⟨o, spec, hget, hspec, hsup⟩ := hmac hc hb
        exact .mac o spec ⟨hc, hb, hrow, hget, hspec, hsup, hr.tagLen⟩ (.inl ⟨hr.macCtx, rfl⟩)
  · obtain ⟨r, hs⟩ := hr.row hrow
    exact .prehash r hs hr.prehashed hr.mpBuf (by rw [hr.mdCtx]; rfl) (.inl ⟨hr.mdCtx, rfl⟩)

end SignJob

/-! ## What the answer of one call says about the key -/

section

variable (H : HashModel P) {env : OpEnv P} {t : Token} {s : Setup}

/-- The key and the MAC that the stream of a MAC would find. -/
def StreamKey (env : OpEnv P) (t : Token) (s : Setup) : Prop :=
  (∃ o spec, t.objectGet s.keyHandle = .ok o ∧ macStreamSpec s o = .ok spec ∧
    H.supports spec o.value = true) ∧ ((hmacHashOf s.mechanism).isSome = true → env.errorState = false)

theorem objectGet_error {h : UInt32} {e : Err} (he : t.objectGet h = .error e) :
    e ≠ .signatureInvalid := by
  unfold Token.objectGet at he
  split at he
  · cases he
    exact nofun
  · split at he
    · cases he
      exact nofun
    · cases he

/-- An HMAC that is not computed is not an invalid signature either. -/
theorem hmac_cases (env : OpEnv P) (md : MdAlg) (key d : Bytes) :
    (∃ e, hmac env md key d = .error e ∧ e ≠ .signatureInvalid) ∨
      (env.errorState = false ∧ H.supports (.hmac md) key = true) := by
  unfold hmac
  cases hcalm : env.errorState with
  | true => exact .inl ⟨_, rfl, nofun⟩
  | false =>
    cases hsup : H.supports (.hmac md) key with
    | true => exact .inr ⟨rfl, rfl⟩
    | false =>
      simp only [H.fetch, H.ctxNew, H.macInit_none _ _ _ hsup, Bool.not_true, Bool.false_eq_true,
        if_false]
      exact .inl ⟨_, rfl, nofun⟩

theorem aesMac_cases (env : OpEnv P) (spec : MacSpec) (key d : Bytes) :
    (∃ e, aesMac env spec key d = .error e ∧ e ≠ .signatureInvalid) ∨
      ((aesBits? key.length).isNone = false ∧ H.supports spec key = true) := by
  unfold aesMac
  simp only [H.fetch, H.ctxNew, Bool.not_true, Bool.false_eq_true, if_false]
  cases hbits : (aesBits? key.length).isNone with
  | true => exact .inl ⟨_, rfl, nofun⟩
  | false =>
    cases hsup : H.supports spec key with
    | true => exact .inr ⟨rfl, rfl⟩
    | false =>
      rw [if_neg Bool.false_ne_true, H.macInit_none _ _ _ hsup]
      exact .inl ⟨_, rfl, nofun⟩

theorem isMac_of_not_buffered (hc : isComposite s.mechanism = false)
    (hb : isBufferedMultipart s.mechanism = false) (hnone : hmacHashOf s.mechanism = none) :
    isAesMac s.mechanism = true := by
  simpa [isBufferedMultipart, hc, hnone] using hb

theorem isHmac_cases (h : (hmacHashOf s.mechanism).isSome = true) :
    isComposite s.mechanism = false ∧ isBufferedMultipart s.mechanism = false := by
  obtain ⟨md, hmd⟩ := Option.isSome_iff_exists.1 h
  refine ⟨?_, by simp [isBufferedMultipart, hmd]⟩
  cases hc : isComposite s.mechanism with
  | false => rfl
  | true =>
    rw [isComposite, beq_iff_eq] at hc
    rw [hc] at hmd
    cases hmd

theorem streamKey_hmac {md : MdAlg} {o : Obj} (hmac : hmacHashOf s.mechanism = some md)
    (hget : t.objectGet s.keyHandle = .ok o) (hcalm : env.errorState = false)
    (hsup : H.supports (.hmac md) o.value = true) : StreamKey H env t s := by
  refine ⟨⟨o, .hmac md, hget, ?_, hsup⟩, fun _ => hcalm⟩
  unfold macStreamSpec
  rw [hmac]

theorem streamKey_aes {spec : MacSpec} {o : Obj} (hmac : hmacHashOf s.mechanism = none)
    (haes : isAesMac s.mechanism = true) (hget : t.objectGet s.keyHandle = .ok o)
    (htype : o.keyType = ckkAes) (hspec : aesMacSpec s o.value = .ok spec)
    (hbits : (aesBits? o.value.length).isNone = false) (hsup : H.supports spec o.value = true) :
    StreamKey H env t s := by
  refine ⟨⟨o, spec, hget, ?_, hsup⟩, fun h => by rw [hmac] at h; cases h⟩
  unfold macStreamSpec
  rw [hmac]
  dsimp only
  rw [if_neg (by rw [haes]; decide), if_neg (not_not.2 htype), hspec]
  show (if (aesBits? o.value.length).isNone = true then _ else _) = _
  rw [if_neg (by rw [hbits]; decide)]

/-! ### From `C_Sign` -/

variable {l l' : Running P} {out : OutArg} {b d : Bytes} {pre : Bool}

theorem exec_ofExcept_ok {α : Type} {x : Except Err α} {a : α} :
    exec (OpM.ofExcept x : OpM P α) l = (.ok a, l') ↔ x = .ok a ∧ l = l' := by
  cases x with
  | error e => exact ⟨nofun, nofun⟩
  | ok b =>
    show (Except.ok b, l) = (.ok a, l') ↔ _
    rw [Prod.mk.injEq, Except.ok.injEq, Except.ok.injEq]

theorem sized_data {need : Nat} {k : OpM P Reply}
    (h : exec (sized out need k) l = (.ok (.data b), l')) : exec k l = (.ok (.data b), l') := by
  cases out with
  | noLen => cases h
  | query => cases h
  | room n =>
    by_cases hn : n < need
    · rw [exec_sized_small hn] at h
      cases h
    · rw [exec_sized_fits hn] at h
      exact h

/-- A signature of the composite mechanism is made with a key of its type. -/
theorem compositeKey_of_sign (hc : isComposite s.mechanism = true)
    (h : exec (signWith env t s pre d out) l = (.ok (.data b), l')) :
    ∃ o, t.objectGet s.keyHandle = .ok o ∧ o.cls = ckoPrivateKey ∧
      o.keyType = ckkCompositeMldsa65Ed25519 := by
  rw [signWith, if_pos hc] at h
  obtain ⟨o, l₁, hx, h⟩ := exec_bind_ok.1 h
  obtain ⟨hget, rfl⟩ := exec_ofExcept_ok.1 hx
  simp only [requireCompositeKey, refuseIf, exec_failIf_bind_ok, Bool.or_eq_false_iff,
    bne_eq_false_iff_eq] at h
  exact ⟨o, hget, h.1⟩

theorem streamKey_of_sign (hc : isComposite s.mechanism = false)
    (hb : isBufferedMultipart s.mechanism = false)
    (h : exec (signWith env t s pre d out) l = (.ok (.data b), l')) : StreamKey H env t s := by
  unfold signWith at h
  rw [if_neg (by rw [hc]; decide)] at h
  cases hmac : hmacHashOf s.mechanism with
  | some md =>
    simp only [hmac, exec_bind_ok, exec_ofExcept_ok] at h
    obtain ⟨o, l₁, ⟨hget, rfl⟩, h⟩ := h
    obtain ⟨mac, l₂, hy, -⟩ := exec_bind_ok.1 (sized_data h)
    obtain ⟨hmac', rfl⟩ := exec_ofExcept_ok.1 hy
    rcases hmac_cases H env md o.value d with ⟨e, he, -⟩ | ⟨hcalm, hsup⟩
    · rw [he] at hmac'
      cases hmac'
    · exact streamKey_hmac H hmac hget hcalm hsup
  | none =>
    have haes := isMac_of_not_buffered hc hb hmac
    simp only [hmac, if_pos haes] at h
    obtain ⟨o, l₁, hx, h⟩ := exec_bind_ok.1 h
    obtain ⟨hget, rfl⟩ := exec_ofExcept_ok.1 hx
    simp only [refuseIf, exec_failIf_bind_ok, bne_eq_false_iff_eq] at h
    have hbody := sized_data h.2
    simp only [exec_bind_ok, exec_ofExcept_ok] at hbody
    obtain ⟨spec, l₂, ⟨hspec, rfl⟩, mac, l₃, ⟨haesMac, rfl⟩, -⟩ := hbody
    rcases aesMac_cases H env spec o.value d with ⟨e, he, -⟩ | ⟨hbits, hsup⟩
    · rw [he] at haesMac
      cases haesMac
    · exact streamKey_aes H hmac haes hget h.1 hspec hbits hsup

/-! ### From `C_Verify` -/

/-- The two verdicts. -/
def IsVerdict (v : Except Err Unit) : Prop := v = .ok () ∨ v = .error .signatureInvalid

theorem IsVerdict.ok_of_bind {α : Type} {x : Except Err α} {f : α → Except Err Unit}
    (h : IsVerdict (x >>= f)) (hx : ∀ e, x = .error e → e ≠ .signatureInvalid) :
    ∃ a, x = .ok a ∧ IsVerdict (f a) := by
  cases x with
  | error e =>
    rcases h with h | h
    · cases h
    · exact absurd (Except.error.inj h) (hx e rfl)
  | ok a => exact ⟨a, rfl, h⟩

/-- A verdict of the composite mechanism comes from a key of its type. -/
theorem compositeKey_of_verify {sig : Bytes} (hc : isComposite s.mechanism = true)
    (h : IsVerdict (verifyWith env t s pre d sig)) :
    ∃ o, t.objectGet s.keyHandle = .ok o ∧ o.cls = ckoPublicKey ∧
      o.keyType = ckkCompositeMldsa65Ed25519 := by
  unfold verifyWith at h
  obtain ⟨o, hget, h⟩ := h.ok_of_bind fun e => objectGet_error
  rw [if_pos hc] at h
  split at h
  · rcases h with h | h <;> cases h
  rename_i hkey
  simp only [not_or, not_not] at hkey
  exact ⟨o, hget, hkey⟩

theorem aesMacSpec_error {key : Bytes} {e : Err} (h : aesMacSpec s key = .error e) :
    e ≠ .signatureInvalid := by
  unfold aesMacSpec at h
  split at h
  · split at h
    · cases h
    · cases h
      exact nofun
  · cases h

theorem streamKey_of_verify {sig : Bytes} (hc : isComposite s.mechanism = false)
    (hb : isBufferedMultipart s.mechanism = false) (h : IsVerdict (verifyWith env t s pre d sig)) :
    StreamKey H env t s := by
  unfold verifyWith at h
  obtain ⟨o, hget, h⟩ := h.ok_of_bind fun e => objectGet_error
  rw [if_neg (by rw [hc]; decide)] at h
  cases hmac : hmacHashOf s.mechanism with
  | some md =>
    rw [hmac] at h
    rcases hmac_cases H env md o.value d with ⟨e, he, hne⟩ | ⟨hcalm, hsup⟩
    · obtain ⟨mac, hok, -⟩ := h.ok_of_bind fun e' he' => by rw [he] at he'; cases he'; exact hne
      rw [he] at hok
      cases hok
    · exact streamKey_hmac H hmac hget hcalm hsup
  | none =>
    have haes := isMac_of_not_buffered hc hb hmac
    rw [hmac] at h
    dsimp only at h
    rw [if_pos haes] at h
    split at h
    · rcases h with h | h <;> cases h
    rename_i htype
    obtain ⟨spec, hspec, h⟩ := h.ok_of_bind fun e => aesMacSpec_error
    rcases aesMac_cases H env spec o.value d with ⟨e, he, hne⟩ | ⟨hbits, hsup⟩
    · obtain ⟨mac, hok, -⟩ := h.ok_of_bind fun e' he' => by rw [he] at he'; cases he'; exact hne
      rw [he] at hok
      cases hok
    · exact streamKey_aes H hmac haes hget (not_not.1 htype) hspec hbits hsup

end

namespace SignJob

variable {H : HashModel P} {j : SignJob P} {t : Token} {op : Op P}

theorem auth_of_requireCtxAuth {s : Setup} {l : Running P}
    (h : exec (requireCtxAuth s : OpM P Unit) l = (.ok (), l)) (hreq : s.ctxAuthRequired = true) :
    l.ctxAuthDone = true := by
  cases hdone : l.ctxAuthDone with
  | true => rfl
  | false =>
    unfold requireCtxAuth at h
    rw [exec_bind_of_ok (exec_get l), if_pos ⟨hreq, by rw [hdone]; rfl⟩] at h
    cases h

theorem Ready.of_signs (hr : Ready j t op) {d : Bytes} (h : j.Signs op d) :
    op.Live op.params.setup ∧ d.length ≤ inputMax ∧
      Held H t op.params.setup ckoPrivateKey false [] op.live ∧
      ((hmacHashOf op.params.setup.mechanism).isSome = true → j.env.errorState = false) := by
  obtain ⟨seed, n, sig, h⟩ := h
  have htok : (j.env.seeded seed).tok = some t := hr.tok
  have hlive : op.Live op.params.setup := by
    refine ⟨rfl, hr.active, fun hreq => ?_⟩
    rw [sign, Op.call_of_active hr.active] at h
    rcases requireCtxAuth_cases op.params.setup op.live with hauth | hauth
    · exact auth_of_requireCtxAuth hauth hreq
    · rw [exec_bind, hauth] at h
      cases h
  have hlen : d.length ≤ inputMax := by
    by_contra hlong
    rw [sign, Op.call_of_active hr.active, exec_bind_of_ok (exec_requireCtxAuth hlive.auth), exec_bind,
      exec_endingOnError, refuseIf, exec_failIf,
      if_pos (decide_eq_true (show inputMax < (Buf.bytes d).len from not_le.1 hlong))] at h
    cases h
  rw [sign_eq hlive htok hlen (outArg_ne_noLen n), Op.result, (exec_ending _ _).1] at h
  have hexec : exec (signWith (j.env.seeded seed) t op.params.setup op.live.hmPrehashed d (outArg n))
      op.live = (.ok (.data sig), op.live) :=
    Prod.ext h (steady_signWith.state_eq _)
  refine ⟨hlive, hlen, hr.held (fun hc => compositeKey_of_sign hc hexec)
    (fun hc hb => (streamKey_of_sign H hc hb hexec).1), fun hmac => ?_⟩
  obtain ⟨hc, hb⟩ := isHmac_cases hmac
  exact (streamKey_of_sign H hc hb hexec).2 hmac

/-- `C_Sign` of any data, as a function of the setup. -/
theorem Ready.answers (hr : Ready j t op) (hl : op.Live op.params.setup) :
    Answers j t op.params.setup (j.signShot op) := by
  intro d seed n l hlen
  have htok : (j.env.seeded seed).tok = some t := hr.tok
  rw [signShot, sign_eq hl htok hlen (outArg_ne_noLen n), Op.result, (exec_ending _ _).1, hr.prehashed,
    steady_signWith.result_eq op.live l]

/-- The signature in parts agrees with the one call exactly after an undisturbed history. -/
theorem signsAlike_iff (H : HashModel P) (hr : Ready j t op) {hist : List (PartCall P)}
    (hsigns : j.Signs op (message hist))
    (hlimit : Keeps op → (message hist).length ≤ multipartMax) :
    j.SignsAlike op hist ↔ j.Undisturbed op hist := by
  obtain ⟨hl, hlen, hheld, hcalm⟩ := hr.of_signs (H := H) hsigns
  have hshot := hr.answers hl
  have hstage : Stage.Has H t op.params.setup [] op.live (.held false) := hheld
  have hspec := run_spec hshot hr.tok hcalm hist hlen (fun hb => hlimit ⟨hb.buffered, hb.row⟩) hl hstage
  rw [nil_append] at hspec
  constructor
  · intro halike
    rcases hspec with ⟨hund, -⟩ | ⟨-, hidle⟩
    · exact hund
    · -- an ended operation does not answer where `C_Sign` signs
      obtain ⟨seed, n, sig, hsig⟩ := hsigns
      have hcall := halike seed n
      rw [signShot, hsig, signFinal, Op.call_of_idle hidle] at hcall
      cases hcall
  · intro hund seed n
    have htok : (j.env.seeded seed).tok = some t := hr.tok
    rcases hspec with ⟨-, hl', stage, hstage⟩ | ⟨hnot, -⟩
    · rw [signFinal_eq hl' htok (outArg_ne_noLen n), hshot _ _ _ (j.signRun hist op).live hlen]
      exact (hstage.final htok hcalm n).outcome
    · exact absurd hund hnot

/-! ## Verifications -/

theorem verifyRun_spec {s : Setup} (htok : j.env.tok = some t) (parts : List (P.Seed × Bytes))
    {opened : Bool} {fed : Bytes} (hlen : (fed ++ (parts.map (·.2)).flatten).length ≤ inputMax)
    (hlimit : Buffering s → (fed ++ (parts.map (·.2)).flatten).length ≤ multipartMax)
    (hsetup : op.params.setup = s) (hactive : op.live.active = true)
    (h : Held H t s ckoPublicKey opened fed op.live) :
    (j.verifyRun parts op).params.setup = s ∧ (j.verifyRun parts op).live.active = true ∧
      ∃ opened', Held H t s ckoPublicKey opened' (fed ++ (parts.map (·.2)).flatten)
        (j.verifyRun parts op).live := by
  induction parts generalizing op fed opened with
  | nil =>
    rw [map_nil, flatten_nil, append_nil]
    exact ⟨hsetup, hactive, opened, h⟩
  | cons p rest ih =>
    rw [map_cons, flatten_cons, ← append_assoc] at hlen hlimit ⊢
    have hsub : fed.length + p.2.length ≤ (fed ++ p.2 ++ (rest.map (·.2)).flatten).length := by simp
    have htok' : (j.env.seeded p.1).tok = some t := htok
    obtain ⟨l', hexec, hheld, hframe⟩ := h.update (j.env.seeded p.1) p.2 htok
      fun hb => hsub.trans (hlimit hb)
    have hstep : (verifyUpdate (j.env.seeded p.1) (.bytes p.2) op).2 = { op with live := l' } := by
      rw [verifyUpdate, Op.call_of_active hactive, exec_bind_of_ok (exec_checkInput (by omega) _),
        htok']
      show (op.result (exec (updateWith _ op.params.setup p.2) op.live)).2 = _
      rw [hsetup, hexec]
      rfl
    show (j.verifyRun rest (verifyUpdate (j.env.seeded p.1) (.bytes p.2) op).2).params.setup = s ∧
      (j.verifyRun rest (verifyUpdate (j.env.seeded p.1) (.bytes p.2) op).2).live.active = true ∧
      ∃ opened', Held H t s ckoPublicKey opened' (fed ++ p.2 ++ (rest.map (·.2)).flatten)
        (j.verifyRun rest (verifyUpdate (j.env.seeded p.1) (.bytes p.2) op).2).live
    rw [hstep]
    exact ih hlen hlimit hsetup (hframe.active.trans hactive) hheld

theorem verifiesAlike (H : HashModel P) (hr : Ready j t op) {parts : List (P.Seed × Bytes)}
    (hlimit : Keeps op → (parts.map (·.2)).flatten.length ≤ multipartMax) :
    j.VerifiesAlike op parts := by
  intro seed sig v hv h
  have htok : (j.env.seeded seed).tok = some t := hr.tok
  have hlen : (parts.map (·.2)).flatten.length ≤ inputMax := by
    by_contra hlong
    rw [verify, Op.call_of_active hr.active, exec_bind, checkInput, exec_endingOnError, refuseIf,
      exec_failIf_bind, if_pos (decide_eq_true (show inputMax < (Buf.bytes _).len from
        not_le.1 hlong))] at h
    subst h
    rcases hv with hv | hv <;> cases hv
  rw [verify_eq hr.active htok hlen, hr.prehashed] at h
  have hverdict : IsVerdict (verifyWith (j.env.seeded seed) t op.params.setup false
      (parts.map (·.2)).flatten sig) := by
    rcases hx : verifyWith (j.env.seeded seed) t op.params.setup false (parts.map (·.2)).flatten sig
      with e | ⟨⟩
    · rw [hx] at h
      subst h
      rcases hv with hv | hv <;> cases hv
      exact .inr hx
    · exact .inl hx
  have hheld : Held H t op.params.setup ckoPublicKey false [] op.live :=
    hr.held (fun hc => compositeKey_of_verify hc hverdict)
      (fun hc hb => (streamKey_of_verify H hc hb hverdict).1)
  have hcalm : (hmacHashOf op.params.setup.mechanism).isSome = true → j.env.errorState = false := by
    intro hmac
    obtain ⟨hc, hb⟩ := isHmac_cases hmac
    exact (streamKey_of_verify H hc hb hverdict).2 hmac
  obtain ⟨hsetup, hactive, opened, hheld'⟩ := verifyRun_spec hr.tok parts hlen
    (fun hb => hlimit ⟨hb.buffered, hb.row⟩) rfl hr.active hheld
  rw [verifyFinal_eq hactive htok, hsetup, ← h]
  exact hheld'.verify (j.env.seeded seed) htok hcalm sig

/-! ## Digests -/

/-- A digest slot that was given the data. -/
structure DigestFed (H : HashModel P) (md : MdAlg) (fed : Bytes) (op : DigestOp P) : Prop where
  active : op.active = true
  hash : op.hash = some md
  ctx : DigestHeld H md fed op.mdCtx

section

variable (env : OpEnv P) {md : MdAlg} {fed : Bytes} {dop : DigestOp P}

theorem DigestFed.running (h : DigestFed H md fed dop) :
    exec (runningDigest : DigestM P MdAlg) dop = (.ok md, dop) := by
  unfold runningDigest
  rw [exec_bind_of_ok (exec_get dop), h.active, h.hash]
  rfl

theorem hashOneshot_eq (H : HashModel P) (hcalm : env.errorState = false) (md : MdAlg) (d : Bytes) :
    hashOneshot env md d = .ok (H.hash md d) := by
  obtain ⟨c, hinit, hc⟩ := H.mdInit env.seed md
  obtain ⟨c', hupdate, hc'⟩ := H.mdUpdate env.seed c md [] d hc
  unfold hashOneshot
  simp only [hcalm, H.fetch, H.ctxNew, hinit, hupdate, H.mdFinal env.seed c' _ _ hc', Bool.not_true,
    Bool.false_eq_true, if_false, nil_append]
  rfl

/-- The answer of a digest of the data. -/
def digestAnswer (H : HashModel P) (md : MdAlg) (d : Bytes) : OutArg → Outcome
  | .noLen => .refused .argumentsBad
  | .query => .unanswered
  | .room n => if n < md.size then .unanswered else .bytes (H.hash md d)

theorem DigestFed.digest (h : DigestFed H md fed dop) (hcalm : env.errorState = false) {d : Bytes}
    (hlen : d.length ≤ inputMax) {out : OutArg} (hout : out ≠ .noLen) :
    Outcome.of (exec (digest env (.bytes d) out) dop).1 = digestAnswer H md d out := by
  have hno : (out == .noLen) = false := by simpa using hout
  unfold FreeHsm.digest
  rw [DigestM.refuseIf, exec_failIf_bind, hno, if_neg Bool.false_ne_true, exec_bind_of_ok h.running,
    if_neg (show ¬inputMax < (Buf.bytes d).len from not_lt.2 hlen),
    if_neg (by rw [dangling_bytes]; decide)]
  cases out with
  | noLen => exact absurd rfl hout
  | query => rfl
  | room n =>
    unfold sizedDigest digestAnswer
    dsimp only
    split
    · rfl
    unfold finishOneshot
    rw [hashOneshot_eq env H hcalm]
    rfl

/-- The digest context goes on by a part. -/
theorem DigestFed.update (h : DigestFed H md fed dop) {part : Bytes} (hlen : part.length ≤ inputMax) :
    DigestFed H md (fed ++ part) (exec (digestUpdate env (.bytes part)) dop).2 := by
  obtain ⟨c, hc, hctx⟩ : ∃ c, H.Hashes c md fed ∧
      exec (digestCtx env md) dop = (.ok c, { dop with mdCtx := some c }) := by
    unfold digestCtx
    rw [exec_bind_of_ok (exec_get dop)]
    rcases h.ctx with ⟨hnone, rfl⟩ | ⟨c, hsome, hc⟩
    · obtain ⟨c, hinit, hc⟩ := H.mdInit env.seed md
      refine ⟨c, hc, ?_⟩
      simp only [hnone, DigestM.refuseIf, H.fetch, H.ctxNew, hinit, failIf, Bool.not_true,
        Bool.false_eq_true, if_false, pure_bind]
      rfl
    · refine ⟨c, hc, ?_⟩
      rw [hsome]
      have hdop : { dop with mdCtx := some c } = dop := by rw [← hsome]
      rw [hdop]
      rfl
  obtain ⟨c', hupdate, hc'⟩ := H.mdUpdate env.seed c md fed part hc
  have hdata : (Buf.bytes part).data = part := rfl
  have hstep : exec (digestUpdate env (.bytes part)) dop = (.ok .done, { dop with mdCtx := some c' }) := by
    unfold digestUpdate DigestM.orUpdateFail
    rw [exec_bind_of_ok h.running, exec_tryCatch, DigestM.refuseIf, exec_failIf_bind, not_long hlen,
      if_neg Bool.false_ne_true, DigestM.refuseIf, exec_failIf_bind, dangling_bytes,
      if_neg Bool.false_ne_true, exec_bind_of_ok hctx, hdata, hupdate]
    rfl
  rw [hstep]
  exact ⟨h.active, h.hash, .inr ⟨c', rfl, hc'⟩⟩

/-- `C_DigestFinal` answers as `C_Digest` would and keeps the context until then. -/
theorem DigestFed.final (h : DigestFed H md fed dop) (hcalm : env.errorState = false) {out : OutArg}
    (hout : out ≠ .noLen) :
    Outcome.of (exec (digestFinal env out) dop).1 = digestAnswer H md fed out ∧
      (digestAnswer H md fed out = .unanswered → (exec (digestFinal env out) dop).2 = dop) := by
  unfold digestFinal
  rw [exec_bind_of_ok h.running]
  cases out with
  | noLen => exact absurd rfl hout
  | query => exact ⟨rfl, fun _ => rfl⟩
  | room n =>
    unfold sizedDigest digestAnswer
    dsimp only
    split
    · exact ⟨rfl, fun _ => rfl⟩
    refine ⟨?_, nofun⟩
    rw [exec_bind_of_ok (exec_get dop)]
    rcases h.ctx with ⟨hnone, rfl⟩ | ⟨c, hsome, hc⟩
    · rw [hnone]
      dsimp only
      unfold finishOneshot
      rw [hashOneshot_eq env H hcalm]
      rfl
    · rw [hsome]
      dsimp only
      rw [H.mdFinal env.seed c md fed hc]
      rfl

end

variable {dop : DigestOp P}

theorem digestInit_fed (H : HashModel P) {dop' : DigestOp P} {r : Reply}
    (h : exec (digestInit j.env (some j.mech)) dop = (.ok r, dop')) :
    j.env.errorState = false ∧ ∃ md, DigestFed H md [] dop' := by
  simp only [digestInit, DigestM.refuseIf, exec_failIf_bind_ok] at h
  obtain ⟨hcalm, -, h⟩ := h
  rw [exec_bind_of_ok (exec_gets _ _)] at h
  simp only [exec_failIf_bind_ok] at h
  obtain ⟨-, -, h⟩ := h
  refine ⟨hcalm, ?_⟩
  split at h
  · cases h
  rename_i md hmd
  simp only [exec_modify_bind, exec_failIf_bind_ok, H.fetch] at h
  obtain ⟨-, -, h⟩ := h
  cases h
  exact ⟨md, rfl, rfl, .inl ⟨rfl, rfl⟩⟩

theorem digestRun_spec {md : MdAlg} {fed : Bytes} {shot : Bytes → P.Seed → Option Nat → Outcome}
    (hcalm : j.env.errorState = false)
    (hshot : ∀ d seed n, d.length ≤ inputMax → shot d seed n = digestAnswer H md d (outArg n))
    (hist : List (PartCall P)) (hlen : (fed ++ message hist).length ≤ inputMax)
    (hpat : Patient shot fed hist) (h : DigestFed H md fed dop) :
    DigestFed H md (fed ++ message hist) (j.digestRun hist dop) := by
  induction hist generalizing dop fed with
  | nil =>
    rw [message, append_nil]
    exact h
  | cons c rest ih =>
    show DigestFed H md _ (j.digestRun rest (j.digestStep dop c))
    cases c with
    | update seed part =>
      rw [message, ← append_assoc] at hlen ⊢
      have hpart : part.length ≤ inputMax := by
        simp only [length_append] at hlen
        omega
      exact ih hlen hpat (h.update (j.env.seeded seed) hpart)
    | peek seed n =>
      have hfed : fed.length ≤ inputMax := by
        rw [length_append] at hlen
        omega
      have hun := hpat.1
      rw [hshot _ _ _ hfed] at hun
      have hkeep : j.digestStep dop (.peek seed n) = dop :=
        (h.final (j.env.seeded seed) hcalm (outArg_ne_noLen n)).2 hun
      rw [hkeep]
      exact ih hlen hpat.2 h

theorem digestsAlike (H : HashModel P) {dop' : DigestOp P} {r : Reply}
    (h : exec (digestInit j.env (some j.mech)) dop = (.ok r, dop')) {hist : List (PartCall P)}
    (hlen : (message hist).length ≤ inputMax) (hpat : Patient (j.digestShot dop') [] hist) :
    j.DigestsAlike dop' hist := by
  obtain ⟨hcalm, md, hfed⟩ := digestInit_fed H h
  have hshot : ∀ d seed n, d.length ≤ inputMax →
      j.digestShot dop' d seed n = digestAnswer H md d (outArg n) := fun d seed n hd =>
    hfed.digest (j.env.seeded seed) hcalm hd (outArg_ne_noLen n)
  intro seed n
  have hrun := digestRun_spec hcalm hshot hist hlen hpat hfed
  rw [hshot _ _ _ hlen]
  exact (hrun.final (j.env.seeded seed) hcalm (outArg_ne_noLen n)).1

/-! ## When the two ways agree -/

/-- A signature in parts agrees with `C_Sign` on a message that it signs exactly when the tries of
`C_SignFinal` in between did not disturb it; a verification and a digest in parts always agree. -/
theorem parts_agree_iff (H : HashModel P) :
    (∀ (j : SignJob P) (op op' : Op P) (hist : List (PartCall P)),
      hmGeneric j.mech.type.toUInt32 = false → op.Clear → j.start true op = some op' →
      j.Signs op' (message hist) → (Keeps op' → (message hist).length ≤ multipartMax) →
      (j.SignsAlike op' hist ↔ j.Undisturbed op' hist)) ∧
    (∀ (j : SignJob P) (op op' : Op P) (parts : List (P.Seed × Bytes)),
      hmGeneric j.mech.type.toUInt32 = false → op.Clear → j.start false op = some op' →
      (Keeps op' → (parts.map (·.2)).flatten.length ≤ multipartMax) → j.VerifiesAlike op' parts) ∧
    (∀ (j : SignJob P) (op op' : DigestOp P) (r : Reply) (hist : List (PartCall P)),
      exec (digestInit j.env (some j.mech)) op = (.ok r, op') → (message hist).length ≤ inputMax →
      Patient (j.digestShot op') [] hist → j.DigestsAlike op' hist) := by
  refine ⟨?_, ?_, ?_⟩
  · intro j op op' hist hgen hclear hstart hsigns hlimit
    obtain ⟨t, hr⟩ := start_ready hgen hclear hstart
    exact signsAlike_iff H hr hsigns hlimit
  · intro j op op' parts hgen hclear hstart hlimit
    obtain ⟨t, hr⟩ := start_ready hgen hclear hstart
    exact verifiesAlike H hr hlimit
  · intro j op op' r hist hinit hlen hpat
    exact digestsAlike H hinit hlen hpat

/-- An ML-DSA key, private or public. -/
def mldsaKey (cls : UInt32) : Obj :=
  { Obj.zero with
    handle := 1, cls := cls, keyType := 0x4A, value := [7]
    value_le := by decide }

/-- An operation with that key as the only object of the token. -/
def mldsaJob (cls : UInt32) (type : UInt64) : SignJob .hashing where
  env :=
    { tok := some (Token.holding [mldsaKey cls] (Nat.le_of_ble_eq_true rfl))
      errorState := false, strict := true, gmacAlias := false, seed := () }
  mech := ⟨type, .null 0, fun _ => 0⟩
  hKey := 1
  login := false

/-- `CKM_HASH_ML_DSA_SHA256` over two parts with a size query and a short buffer after them, its
verification, and a digest with both in between. -/
theorem parts_agree_iff_hashMlDsa : (∃ op, (mldsaJob ckoPrivateKey 0x24).start true {} = some op ∧
      (mldsaJob ckoPrivateKey 0x24).SignsAlike op
        [.update () [1], .update () [2], .peek () none, .peek () (some 3)]) ∧
    (∃ op, (mldsaJob ckoPublicKey 0x24).start false {} = some op ∧
      (mldsaJob ckoPublicKey 0x24).VerifiesAlike op [((), [1]), ((), [2])]) ∧
    (∃ r op, exec (digestInit (mldsaJob ckoPublicKey 0x250).env (some (mldsaJob ckoPublicKey 0x250).mech))
        {} = (.ok r, op) ∧
      (mldsaJob ckoPublicKey 0x250).DigestsAlike op
        [.update () [1], .peek () none, .peek () (some 3), .update () [2]]) := by
  obtain ⟨hsign, hverify, hdigest⟩ := parts_agree_iff .hashing
  have hclear : ({} : Op .hashing).Clear := ⟨rfl, rfl, rfl⟩
  refine ⟨⟨_, rfl, ?_⟩, ⟨_, rfl, ?_⟩, ⟨_, _, rfl, ?_⟩⟩
  · refine (hsign _ {} _ _ (by decide) hclear rfl ⟨(), some 100, _, rfl⟩ fun _ => by decide).2 ?_
    exact ⟨⟨by decide +kernel, by decide +kernel, trivial⟩, fun _ => by simp [PeeksLast, PartCall.isPeek]⟩
  · exact hverify _ {} _ _ (by decide) hclear rfl fun _ => by decide
  · exact hdigest _ {} _ _ _ rfl (by decide) ⟨by decide +kernel, by decide +kernel, trivial⟩

/-- A size query between the two parts takes the digest: the second part is refused. -/
theorem query_ends_prehash :
    ∃ op, (mldsaJob ckoPrivateKey 0x24).start true {} = some op ∧
      (mldsaJob ckoPrivateKey 0x24).signShot op [1, 2] () (some 100) =
        .bytes ([1, 0, 6, 9, 96, 134, 72, 1, 101, 3, 4, 2, 1] ++ replicate 32 3) ∧
      Outcome.of (signFinal (mldsaJob ckoPrivateKey 0x24).env (.room 100)
        ((mldsaJob ckoPrivateKey 0x24).signRun [.update () [1], .peek () none, .update () [2]] op)).1 =
        .refused .operationNotInitialized := by
  refine ⟨_, rfl, ?_, ?_⟩ <;> decide +kernel

end SignJob

end FreeHsm
