import FreeHsm.Pkcs11.Module
import FreeHsm.Pkcs11.OpEnd
import FreeHsm.Pkcs11.OpHistory
import FreeHsm.Pkcs11.OpStart
import FreeHsm.Token.Run

/-!
# Authentication for single operations

A key with `CKA_ALWAYS_AUTHENTICATE` signs and decrypts only after the user has
given their PIN once more, with `C_Login(CKU_CONTEXT_SPECIFIC)` between the
`C_*Init` and the operation. The module keeps two bits for it in every operation
slot: the key asks for the PIN, and the PIN was given. Such a login sets the second
bit of every active slot of the session.

Here the calls of any number of sessions come in any order, with anything else
happening in the module between them, and a history notes the operations that
start, the answers and the logins.
-/

namespace FreeHsm

open StateExcept ModM Transition FreeHsm.Module

variable {P : Provider}

/-! ## The history -/

/-- What a run leaves in the history. -/
inductive AuthEntry
  /-- A `C_*Init` succeeded, and the key carries `CKA_ALWAYS_AUTHENTICATE` or not. -/
  | started (h : Nat) (t : Table) (alwaysAuth : Bool)
  /-- A call on a signature or a decryption answered with data, which ends the operation or
  not. -/
  | answered (h : Nat) (t : Table) (last : Bool)
  /-- A context-specific login succeeded, with the PIN of the user or not. -/
  | reauthenticated (h : Nat) (right : Bool)
  deriving DecidableEq, Repr

/-- The last start of an operation in a slot and what happened since, in a history whose latest
entry is its first. -/
def since (h : Nat) (t : Table) : List AuthEntry → Option (Bool × List AuthEntry)
  | [] => none
  | e :: rest =>
    if e = .started h t true then some (true, [])
    else if e = .started h t false then some (false, [])
    else (since h t rest).map fun p => (p.1, e :: p.2)

/-- An answer in a slot that comes after the given history has its login, and no other answer has
ended the same operation. -/
def AnswerOk (h : Nat) (t : Table) (earlier : List AuthEntry) : Prop :=
  ∃ alwaysAuth es, since h t earlier = some (alwaysAuth, es) ∧
    (alwaysAuth = true → .reauthenticated h true ∈ es) ∧ .answered h t true ∉ es

/-- Every answer of a history is in order. -/
def HistoryOk : List AuthEntry → Prop
  | [] => True
  | e :: rest => (∀ h t last, e = .answered h t last → AnswerOk h t rest) ∧ HistoryOk rest

theorem since_cons {h : Nat} {t : Table} {e : AuthEntry} (he : ∀ b, e ≠ .started h t b)
    (rest : List AuthEntry) :
    since h t (e :: rest) = (since h t rest).map fun p => (p.1, e :: p.2) := by
  rw [since, if_neg (he true), if_neg (he false)]

/-! ## Slots and the history -/

/-- While an operation is active, its two bits are what the history says. -/
def SlotOk (trace : List AuthEntry) (h : Nat) (t : Table) (op : Op P) : Prop :=
  op.live.active = true → ∃ es, since h t trace = some (op.params.ctxAuthRequired, es) ∧
    (op.live.ctxAuthDone = true → .reauthenticated h true ∈ es) ∧ .answered h t true ∉ es

namespace SlotOk

variable {trace : List AuthEntry} {h : Nat} {t : Table} {op op' : Op P}

theorem of_idle (hidle : op.live.active = false) : SlotOk trace h t op := by
  intro hactive
  rw [hidle] at hactive
  cases hactive

theorem fades (hok : SlotOk trace h t op) (hf : op.Fades op') : SlotOk trace h t op' := by
  intro hactive
  obtain ⟨es, hsince, hdone, hlast⟩ := hok (hf.live.active hactive)
  refine ⟨es, by rw [hf.params, hsince], fun hd => hdone ?_, hlast⟩
  rw [← hf.live.auth, hd]

theorem cons (hok : SlotOk trace h t op) {e : AuthEntry} (he : ∀ b, e ≠ .started h t b)
    (hlast : e ≠ .answered h t true) : SlotOk (e :: trace) h t op := by
  intro hactive
  obtain ⟨es, hsince, hdone, hnot⟩ := hok hactive
  refine ⟨e :: es, by rw [since_cons he, hsince]; rfl, fun hd => .tail _ (hdone hd), ?_⟩
  simp only [List.mem_cons, not_or]
  exact ⟨fun heq => hlast heq.symm, hnot⟩

/-- A new operation. -/
theorem started (hdone : op.live.ctxAuthDone = false) :
    SlotOk (.started h t op.params.ctxAuthRequired :: trace) h t op := by
  intro _
  refine ⟨[], by cases op.params.ctxAuthRequired <;> simp [since], fun hd => ?_, List.not_mem_nil⟩
  rw [hdone] at hd
  cases hd

/-- A context-specific login. -/
theorem granted (hok : SlotOk trace h t op) :
    SlotOk (.reauthenticated h true :: trace) h t (SessionOps.grantSlot op) := by
  unfold SessionOps.grantSlot
  split
  · rename_i hactive
    intro _
    obtain ⟨es, hsince, -, hnot⟩ := hok hactive
    refine ⟨.reauthenticated h true :: es, ?_, fun _ => List.mem_cons_self, ?_⟩
    · rw [since_cons (by simp), hsince]
      rfl
    · simpa using hnot
  · rename_i hidle
    exact of_idle (by simpa using hidle)

theorem answerOk (hok : SlotOk trace h t op) (hauth : op.Authorised) : AnswerOk h t trace := by
  obtain ⟨es, hsince, hdone, hnot⟩ := hok hauth.1
  exact ⟨_, es, hsince, fun hreq => hdone (hauth.2 hreq), hnot⟩

end SlotOk

/-! ## Calls on a slot -/

namespace SlotCall

/-- The key of a `C_*Init`. -/
def initKey : SlotCall → Option UInt64
  | encryptInit _ hKey | decryptInit _ hKey | signInit _ hKey | verifyInit _ hKey => some hKey
  | _ => none

/-- Whether an answer of a signature or a decryption ends it; only that of `C_DecryptUpdate` does
not. -/
def answersData (c : SlotCall) (r : Except Refusal Reply) : Option Bool :=
  match c, r with
  | decrypt .., .ok (.data _) | decryptFinal .., .ok (.data _)
  | sign .., .ok (.data _) | signFinal .., .ok (.data _) => some true
  | decryptUpdate .., .ok (.data _) => some false
  | _, _ => none

/-- What the history gets from a call of session `h`. -/
def entries (h : Nat) (env : OpEnv P) (c : SlotCall) (r : Except Refusal Reply) : List AuthEntry :=
  match c.initKey, r with
  | some hKey, .ok _ => [.started h c.table (alwaysAuth env hKey)]
  | _, _ => ((c.answersData r).map (.answered h c.table)).toList

section

variable {trace : List AuthEntry} {h : Nat} {env : OpEnv P}

variable {c : SlotCall} {r : Except Refusal Reply} {op : Op P} {hKey : UInt64}

theorem answersData_some {last : Bool} (hans : c.answersData r = some last) :
    ∃ b, r = .ok (.data b) := by
  unfold answersData at hans
  split at hans
  all_goals first | exact ⟨_, rfl⟩ | cases hans

theorem entries_of_answer (hkey : c.initKey = none) (r : Except Refusal Reply) :
    c.entries h env r = ((c.answersData r).map (.answered h c.table)).toList := by
  unfold entries
  rw [hkey]

theorem entries_cases (h : Nat) (env : OpEnv P) (c : SlotCall) (r : Except Refusal Reply) :
    c.entries h env r = [] ∨ (∃ b, c.entries h env r = [.started h c.table b]) ∨
      ∃ last, c.answersData r = some last ∧ c.entries h env r = [.answered h c.table last] := by
  have hans : c.entries h env r = ((c.answersData r).map (.answered h c.table)).toList →
      c.entries h env r = [] ∨ (∃ b, c.entries h env r = [.started h c.table b]) ∨
        ∃ last, c.answersData r = some last ∧ c.entries h env r = [.answered h c.table last] := by
    intro heq
    cases hdata : c.answersData r with
    | none => exact .inl (by rw [heq, hdata]; rfl)
    | some last => exact .inr (.inr ⟨last, rfl, by rw [heq, hdata]; rfl⟩)
  cases hkey : c.initKey with
  | none => exact hans (entries_of_answer hkey r)
  | some hKey =>
    cases r with
    | ok reply => exact .inr (.inl ⟨alwaysAuth env hKey, by simp only [entries, hkey]⟩)
    | error e => exact hans (by simp only [entries, hkey])

/-- A call behind the gate that answers with data or not. -/
theorem answer_slotOk (hkey : c.initKey = none) (hg : Gated (c.run env))
    (hend : ∀ r, c.answersData r = some true → EndsOnData (c.run env))
    (hok : SlotOk trace h c.table op) (hhist : HistoryOk trace) :
    SlotOk (c.entries h env (c.run env op).1 ++ trace) h c.table (c.run env op).2 ∧
      HistoryOk (c.entries h env (c.run env op).1 ++ trace) := by
  rw [entries_of_answer hkey]
  cases hans : c.answersData (c.run env op).1 with
  | none => exact ⟨hok.fades (hg.fades op), hhist⟩
  | some last =>
    obtain ⟨b, hb⟩ := answersData_some hans
    have hanswer := hok.answerOk (hg.authorised op b hb)
    refine ⟨?_, fun _ _ _ heq => ?_, hhist⟩
    · cases last with
      | true => exact .of_idle (hend _ hans op b hb)
      | false => exact (hok.fades (hg.fades op)).cons (by simp) (by simp)
    · cases heq
      exact hanswer

/-- A `C_*Init` starts an operation with the two bits of its key, or none. -/
theorem keyedInit_bits {m : Option Mech} {valid : UInt64 → Bool} {usage : Usage} {op' : Op P}
    (hrun : keyedInit env m hKey valid usage op = (r, op')) :
    (∃ reply, r = .ok reply ∧ op'.params.ctxAuthRequired = alwaysAuth env hKey ∧
      op'.live.ctxAuthDone = false) ∨
    (∃ e, r = .error e ∧ (op' = op ∨ op'.live.active = false)) := by
  unfold keyedInit at hrun
  split at hrun
  · cases hrun
    exact .inr ⟨_, rfl, .inl rfl⟩
  · rename_i m' _
    rcases hinit : exec (opInit env m' hKey) op with ⟨e | u, op₁⟩
    · rw [hinit] at hrun
      cases hrun
      exact .inr ⟨_, rfl, opInit_error hinit⟩
    · rw [hinit] at hrun
      cases hrun
      have hst := opInit_started hinit
      exact .inl ⟨_, rfl, hst.auth, hst.authDone⟩

theorem signInit_bits {m : Option Mech} {op' : Op P}
    (hrun : FreeHsm.signInit env m hKey op = (r, op')) :
    (∃ reply, r = .ok reply ∧ op'.params.ctxAuthRequired = alwaysAuth env hKey ∧
      op'.live.ctxAuthDone = false) ∨
    (∃ e, r = .error e ∧ (op' = op ∨ op'.live.active = false)) := by
  unfold FreeHsm.signInit at hrun
  rcases hkeyed : keyedInit env m hKey (signMechValid env) .sign op with ⟨r₁, op₁⟩
  have hbits := keyedInit_bits hkeyed
  rw [hkeyed] at hrun
  cases r₁ with
  | error e =>
    cases hrun
    exact hbits
  | ok reply =>
    dsimp only at hrun
    split at hrun
    · -- a context string that is too long ends it again
      cases hrun
      exact .inr ⟨_, rfl, .inr rfl⟩
    · cases hrun
      exact hbits

theorem init_slotOk (hkey : c.initKey = some hKey) (hbits : (∃ reply, (c.run env op).1 = .ok reply ∧
        (c.run env op).2.params.ctxAuthRequired = alwaysAuth env hKey ∧
        (c.run env op).2.live.ctxAuthDone = false) ∨
      (∃ e, (c.run env op).1 = .error e ∧
        ((c.run env op).2 = op ∨ (c.run env op).2.live.active = false)))
    (hok : SlotOk trace h c.table op) (hhist : HistoryOk trace) :
    SlotOk (c.entries h env (c.run env op).1 ++ trace) h c.table (c.run env op).2 ∧
      HistoryOk (c.entries h env (c.run env op).1 ++ trace) := by
  unfold entries
  rw [hkey]
  rcases hbits with ⟨reply, hr, hreq, hdone⟩ | ⟨e, hr, hkept⟩
  · rw [hr]
    refine ⟨?_, by simp, hhist⟩
    have hnew : SlotOk (.started h c.table (c.run env op).2.params.ctxAuthRequired :: trace) h
        c.table (c.run env op).2 := .started hdone
    rwa [hreq] at hnew
  · have hnone : c.answersData (.error e) = none := by
      cases hans : c.answersData (.error e) with
      | none => rfl
      | some last =>
        obtain ⟨b, hb⟩ := answersData_some hans
        cases hb
    rw [hr, hnone]
    rcases hkept with heq | hidle
    · rw [heq]
      exact ⟨hok, hhist⟩
    · exact ⟨.of_idle hidle, hhist⟩

variable (env) in
theorem run_slotOk (hkind : c.table = .sig ∨ c.table = .dec) (hok : SlotOk trace h c.table op)
    (hhist : HistoryOk trace) :
    SlotOk (c.entries h env (c.run env op).1 ++ trace) h c.table (c.run env op).2 ∧
      HistoryOk (c.entries h env (c.run env op).1 ++ trace) := by
  cases c with
  | encryptInit | encrypt | encryptUpdate | encryptFinal => simp [table] at hkind
  | verifyInit | verify | verifyUpdate | verifyFinal => simp [table] at hkind
  | decryptInit m hKey => exact init_slotOk rfl (keyedInit_bits rfl) hok hhist
  | signInit m hKey => exact init_slotOk rfl (signInit_bits rfl) hok hhist
  | decrypt data out =>
    exact answer_slotOk (c := .decrypt data out) rfl gated_decrypt
      (fun _ _ => ends_decrypt) hok hhist
  | decryptUpdate part out =>
    -- the one answer that ends nothing
    refine answer_slotOk (c := .decryptUpdate part out) rfl gated_decryptUpdate
      (fun r hr => ?_) hok hhist
    rcases r with e | (_ | n | b) <;> cases hr
  | decryptFinal out =>
    exact answer_slotOk (c := .decryptFinal out) rfl gated_decryptFinal
      (fun _ _ => ends_decryptFinal) hok hhist
  | sign data out =>
    exact answer_slotOk (c := .sign data out) rfl gated_sign
      (fun _ _ => ends_sign) hok hhist
  | signUpdate part =>
    refine answer_slotOk (c := .signUpdate part) rfl gated_signUpdate (fun r hr => ?_) hok hhist
    cases hr
  | signFinal out =>
    exact answer_slotOk (c := .signFinal out) rfl gated_signFinal
      (fun _ _ => ends_signFinal) hok hhist

end

end SlotCall

/-! ## Context-specific logins -/

/-- The PIN is that of the user of the session's token. -/
def Module.rightPin (C : Crypto) (m : Module P) (h : UInt64) (pin : Option Bytes) : Bool :=
  match m.sessionToken h, pin with
  | some (_, t), some pin => (t.header.unwrapDek C .user pin).isSome
  | _, _ => false

/-- A PIN that `fhsm_token_verify_pin` accepts opens the wrap of the role. -/
theorem verifyPin_ok {C : Crypto} {env : Env} {t t' : Token} {role : Role} {pin : Bytes} {d d' : Disk}
    (h : t.verifyPin C env role pin d = (.ok, t', d')) :
    (t.header.unwrapDek C role pin).isSome = true := by
  generalize hrv : Rv.ok = rv at h
  cases Token.verifyPin_cases h with
  | refused => cases hrv
  | wrong es htried hrole t' ht' =>
    unfold Token.wrongPinRv at hrv
    split at hrv <;> cases hrv
  | right dek es htried hrole t' ht' =>
    rw [htried.right dek rfl]
    rfl

theorem exec_onToken_ops (slot : Nat) (f : Token → Disk → Rv × Token × Disk) (m : Module P) :
    (exec (onToken slot f) m).2.ops = m.ops := by
  unfold onToken
  rw [exec_bind_of_ok (exec_get m)]
  cases htok : (m.slots slot).token with
  | none => rfl
  | some t =>
    rcases hf : f t (m.disks slot) with ⟨rv, t', d⟩
    cases rv <;> simp only [hf] <;> rfl

theorem exec_onToken_ok {slot : Nat} {f : Token → Disk → Rv × Token × Disk} {m m' : Module P}
    (h : exec (onToken slot f) m = (.ok (), m')) :
    ∃ t t' d, (m.slots slot).token = some t ∧ f t (m.disks slot) = (.ok, t', d) := by
  unfold onToken at h
  rw [exec_bind_of_ok (exec_get m)] at h
  cases htok : (m.slots slot).token with
  | none =>
    rw [htok] at h
    cases h
  | some t =>
    rcases hf : f t (m.disks slot) with ⟨rv, t', d⟩
    rw [htok] at h
    simp only [hf] at h
    cases rv with
    | ok => exact ⟨t, t', d, rfl, hf⟩
    | err e => cases h

/-- A context-specific login grants every active slot of its session after the PIN of the user, or
changes no slot. -/
theorem exec_loginContextSpecific (C : Crypto) (env : Envs) (h : UInt64) (pin : Option Bytes)
    (m : Module P) :
    ((exec (login C env h 2 pin) m).1 = .ok () ∧ m.rightPin C h pin = true ∧
      (exec (login C env h 2 pin) m).2.ops =
        update m.ops h.toNat ((m.ops h.toNat).call .grant).2) ∨
    ((∃ e, (exec (login C env h 2 pin) m).1 = .error e) ∧
      (exec (login C env h 2 pin) m).2.ops = m.ops) := by
  unfold login
  rw [exec_gate_bind]
  split
  · exact .inr ⟨⟨_, rfl⟩, rfl⟩
  rw [if_pos rfl]
  unfold loginContextSpecific
  rw [exec_failIf_bind]
  split
  · exact .inr ⟨⟨_, rfl⟩, rfl⟩
  rw [exec_bind_of_ok (exec_get m), exec_failIf_bind]
  split
  · exact .inr ⟨⟨_, rfl⟩, rfl⟩
  cases htok : m.sessionToken h with
  | none =>
    refine .inr ⟨⟨.sessionHandleInvalid, ?_⟩, ?_⟩ <;>
      simp only [exec_bind, needToken, exec_get, htok, exec_throw]
  | some x =>
    obtain ⟨slot, t⟩ := x
    rw [exec_bind_of_ok (exec_needToken _ htok)]
    dsimp only
    rw [exec_failIf_bind]
    split
    · exact .inr ⟨⟨_, rfl⟩, rfl⟩
    cases pin with
    | none => exact .inr ⟨⟨_, rfl⟩, rfl⟩
    | some pin =>
      dsimp only
      rw [exec_bind_of_ok (exec_tokenEnv _ _), exec_bind]
      have hops := exec_onToken_ops slot
        (fun t => t.verifyPin C { env 0 with moduleError := m.state == .error } .user pin) m
      rcases hverify : exec (onToken slot
        fun t => t.verifyPin C { env 0 with moduleError := m.state == .error } .user pin) m
        with ⟨e | u, m'⟩
      · rw [hverify] at hops
        exact .inr ⟨⟨_, rfl⟩, hops⟩
      · rw [hverify] at hops
        refine .inl ⟨rfl, ?_, ?_⟩
        · -- the PIN was tried on the token of the session
          obtain ⟨t₁, t', d, hslot, hrun⟩ := exec_onToken_ok hverify
          cases hslot.symm.trans (sessionToken_slot htok)
          simp only [rightPin, htok, verifyPin_ok hrun]
        · show update m'.ops h.toNat ((m'.ops h.toNat).call .grant).2 = _
          rw [show m'.ops = m.ops from hops]

/-! ## Runs -/

/-- The module and the history, latest entry first. -/
structure AuthWorld (P : Provider) where
  mod : Module P
  trace : List AuthEntry

/-- What happens in the module. -/
inductive AuthEvent (P : Provider)
  /-- A call on an operation slot of session `h`. -/
  | keyed (h : UInt64) (strict gmacAlias : Bool) (seed : P.Seed) (c : SlotCall)
  /-- A call on its digest slot. -/
  | digest (h : UInt64) (strict gmacAlias : Bool) (seed : P.Seed) (c : DigestCall)
  /-- `C_Login(CKU_CONTEXT_SPECIFIC)`. -/
  | reauthenticate (env : Envs) (h : UInt64) (pin : Option Bytes)
  /-- `fhsm_session_ops_reset`, when a session is opened or closed or the module finalised. -/
  | reset (h : UInt64)
  /-- Anything else, which no slot is touched by. -/
  | other (m : Module P)

/-- What a call of a session finds around its slot. -/
def Module.opEnv (m : Module P) (h : UInt64) (strict gmacAlias : Bool) (seed : P.Seed) : OpEnv P where
  tok := (m.sessionToken h).map Prod.snd
  errorState := m.state == .error
  strict := strict
  gmacAlias := gmacAlias
  seed := seed

namespace AuthWorld

variable (C : Crypto)

/-- The module with other slots in a session. -/
def setOps (m : Module P) (h : UInt64) (s : SessionOps P) : Module P :=
  { m with ops := update m.ops h.toNat s }

def step (w : AuthWorld P) : AuthEvent P → AuthWorld P
  | .keyed h strict gmacAlias seed c =>
    -- `op_slot`
    if h = 0 ∨ maxSessions ≤ h.toNat then w
    else
      let env := w.mod.opEnv h strict gmacAlias seed
      let ops := w.mod.ops h.toNat
      let r := c.run env (ops.keyed c.table)
      ⟨setOps w.mod h (ops.setKeyed c.table r.2), c.entries h.toNat env r.1 ++ w.trace⟩
  | .digest h strict gmacAlias seed c =>
    if h = 0 ∨ maxSessions ≤ h.toNat then w
    else
      let env := w.mod.opEnv h strict gmacAlias seed
      { w with mod := setOps w.mod h ((w.mod.ops h.toNat).call (.digest env c)).2 }
  | .reauthenticate env h pin =>
    let r := exec (login C env h 2 pin) w.mod
    match r.1 with
    | .ok () => ⟨r.2, .reauthenticated h.toNat (w.mod.rightPin C h pin) :: w.trace⟩
    | .error _ => { w with mod := r.2 }
  | .reset h => { w with mod := w.mod.sessionOpsReset h }
  | .other m => { w with mod := { m with ops := w.mod.ops } }

/-- What every event keeps: the signature and decryption slots fit the history, and the history is
in order. -/
structure Inv (w : AuthWorld P) : Prop where
  slots : ∀ h t, t = .sig ∨ t = .dec → SlotOk w.trace h t ((w.mod.ops h).keyed t)
  history : HistoryOk w.trace

variable {C} {w : AuthWorld P}

/-- The entries of a call concern its own slot. -/
theorem entries_elsewhere {h h' : Nat} {t' : Table} {env : OpEnv P} {c : SlotCall}
    {r : Except Refusal Reply} {trace : List AuthEntry} {op : Op P} (hne : ¬(h' = h ∧ t' = c.table))
    (hok : SlotOk trace h' t' op) : SlotOk (c.entries h env r ++ trace) h' t' op := by
  have hstart : ∀ b b', AuthEntry.started h c.table b ≠ .started h' t' b' := by
    rintro b b' heq
    cases heq
    exact hne ⟨rfl, rfl⟩
  have hans : ∀ b b', AuthEntry.answered h c.table b ≠ .answered h' t' b' := by
    rintro b b' heq
    cases heq
    exact hne ⟨rfl, rfl⟩
  rcases c.entries_cases h env r with heq | ⟨b, heq⟩ | ⟨last, -, heq⟩
  · rw [heq]
    exact hok
  · rw [heq]
    exact hok.cons (hstart b) (by simp)
  · rw [heq]
    exact hok.cons (by simp) (hans last true)

theorem Inv.keyed (hw : w.Inv) (h : UInt64) (env : OpEnv P) (c : SlotCall) :
    Inv ⟨setOps w.mod h ((w.mod.ops h.toNat).setKeyed c.table
        (c.run env ((w.mod.ops h.toNat).keyed c.table)).2),
      c.entries h.toNat env (c.run env ((w.mod.ops h.toNat).keyed c.table)).1 ++ w.trace⟩ := by
  constructor
  · intro h' t ht
    by_cases hhere : h' = h.toNat ∧ t = c.table
    · obtain ⟨rfl, rfl⟩ := hhere
      have hnew := (SlotCall.run_slotOk env ht (hw.slots h.toNat _ ht) hw.history).1
      simpa [setOps, update, SessionOps.setKeyed] using hnew
    · have hold : (((setOps w.mod h ((w.mod.ops h.toNat).setKeyed c.table
          (c.run env ((w.mod.ops h.toNat).keyed c.table)).2)).ops h').keyed t) =
          (w.mod.ops h').keyed t := by
        simp only [setOps, update]
        split
        · rename_i heq
          subst heq
          exact if_neg fun htable => hhere ⟨rfl, htable⟩
        · rfl
      dsimp only
      rw [hold]
      exact entries_elsewhere hhere (hw.slots h' t ht)
  · by_cases hkind : c.table = .sig ∨ c.table = .dec
    · exact (SlotCall.run_slotOk env hkind (hw.slots _ _ hkind) hw.history).2
    · -- no answer of an encryption or of the check of a signature is in the history
      rcases c.entries_cases _ env _ with heq | ⟨b, heq⟩ | ⟨last, hans, -⟩
      · rw [heq]
        exact hw.history
      · rw [heq]
        exact ⟨by simp, hw.history⟩
      · cases c <;> first | cases hans | simp [SlotCall.table] at hkind

/-- Every event keeps the invariant. -/
theorem step_inv (w : AuthWorld P) (ev : AuthEvent P) (hw : w.Inv) : (step C w ev).Inv := by
  cases ev with
  | keyed h strict gmacAlias seed c =>
    unfold step
    dsimp only
    split
    · exact hw
    · exact hw.keyed h _ c
  | digest h strict gmacAlias seed c =>
    unfold step
    dsimp only
    split
    · exact hw
    refine ⟨fun h' t ht => ?_, hw.history⟩
    have hslot := hw.slots h' t ht
    simp only [setOps, update]
    split
    · rename_i heq
      subst heq
      exact hslot
    · exact hslot
  | reauthenticate env h pin =>
    unfold step
    dsimp only
    rcases exec_loginContextSpecific C env h pin w.mod with ⟨hok, hright, hops⟩ | ⟨⟨e, he⟩, hops⟩
    · rw [hok, hright]
      refine ⟨fun h' t ht => ?_, by simp, hw.history⟩
      have hslot := hw.slots h' t ht
      rw [show (exec (login C env h 2 pin) w.mod).2.ops = _ from hops]
      simp only [update]
      split
      · rename_i heq
        subst heq
        exact hslot.granted
      · rename_i hne
        exact hslot.cons (by simp) (by simp)
    · rw [he]
      refine ⟨fun h' t ht => ?_, hw.history⟩
      rw [show (exec (login C env h 2 pin) w.mod).2.ops = _ from hops]
      exact hw.slots h' t ht
  | reset h =>
    refine ⟨fun h' t ht => ?_, hw.history⟩
    have hslot := hw.slots h' t ht
    simp only [step, sessionOpsReset]
    split
    · exact hslot
    simp only [update]
    split
    · exact .of_idle rfl
    · exact hslot
  | other m => exact ⟨hw.slots, hw.history⟩

variable (C) in
/-- A context-specific login that succeeds authorises every operation that is active in its
session. -/
def LoginAuthorises (w : AuthWorld P) : Prop :=
  ∀ env h pin, (exec (login C env h 2 pin) w.mod).1 = .ok () →
    ∀ t, ((w.mod.ops h.toNat).keyed t).live.active = true →
      (((step C w (.reauthenticate env h pin)).mod.ops h.toNat).keyed t).Authorised

theorem loginAuthorises (w : AuthWorld P) : w.LoginAuthorises C := by
  intro env h pin hlogin t hactive
  rcases exec_loginContextSpecific C env h pin w.mod with ⟨hok, -, hops⟩ | ⟨⟨e, he⟩, -⟩
  · have hgranted : ((step C w (.reauthenticate env h pin)).mod.ops h.toNat).keyed t =
        SessionOps.grantSlot ((w.mod.ops h.toNat).keyed t) := by
      simp only [step, hok, hops, update, if_true, SessionOps.call]
    rw [hgranted, SessionOps.grantSlot, if_pos hactive]
    exact ⟨hactive, fun _ => rfl⟩
  · rw [he] at hlogin
    cases hlogin

variable (C) in
/-- In every run of the module from the start of the process, each answer of a signature or a
decryption belongs to an operation that its own `C_*Init` started and that has not ended, and,
where the key asks for it, a context-specific login of the same session with the right PIN came
after that `C_*Init`. Such a login authorises all operations of its session. -/
theorem answers_authorised (disks : Nat → Disk) (events : List (AuthEvent P)) :
    HistoryOk (run (step C) ⟨start disks, []⟩ events).trace ∧
      LoginAuthorises C (run (step C) ⟨start disks, []⟩ events) := by
  have hstart : Inv (⟨.start disks, []⟩ : AuthWorld P) :=
    ⟨fun _ _ _ => .of_idle rfl, trivial⟩
  have halong : Along (step C) (fun _ _ => True) ⟨.start disks, []⟩ events :=
    along_of_forall (fun _ _ => trivial) _ events
  exact ⟨(run_invariant (fun w ev hw _ => step_inv w ev hw) hstart halong).history,
    loginAuthorises _⟩

/-! ### One login, two operations -/

/-- A token with two keys that ask for the PIN, on which the user is logged in. -/
def userWithKeys : World :=
  run (fun w op => (w.call .plain op).2) ⟨none, ⟨none, []⟩⟩
    [.init .quiet (List.replicate 8 0x31) [],
      .object .quiet (.add ⟨ckoSecretKey, ckkAes, [], List.replicate 16 7, [], objfAlwaysAuth⟩),
      .object .quiet (.add ⟨ckoSecretKey, ckkGenericSecret, [], List.replicate 32 8, [], objfAlwaysAuth⟩),
      .login .quiet .so (List.replicate 8 0x31), .initUserPin .quiet (List.replicate 8 0x32), .logout,
      .login .quiet .user (List.replicate 8 0x32)]

/-- A session of it. -/
def userSession : Module .plain :=
  { Module.start fun _ => userWithKeys.disk with
    state := .authenticated
    slots := fun _ => ⟨true, userWithKeys.tok⟩
    sessions := fun h => if h = 1 then some ⟨0, 6, .user, true⟩ else none }

/-- A signature and a decryption are started, the user gives their PIN once, and both are
completed. -/
def oneLogin : List (AuthEvent .plain) :=
  [.other userSession, .keyed 1 true false () (.signInit (some ⟨0x251, .null 0, fun _ => 0⟩) 2),
    .keyed 1 true false () (.decryptInit (some ecb) 1),
    .reauthenticate (fun _ => .quiet) 1 (some (List.replicate 8 0x32)),
    .keyed 1 true false () (.sign zeroBlock (.room 64)),
    .keyed 1 true false () (.decrypt zeroBlock (.room 16))]

/-- One login authorises both. -/
theorem one_login_two_answers : (run (step .plain) ⟨start fun _ => ⟨none, []⟩, []⟩ oneLogin).trace =
      [.answered 1 .dec true, .answered 1 .sig true, .reauthenticated 1 true,
        .started 1 .dec true, .started 1 .sig true] := by
  decide +kernel

end AuthWorld

end FreeHsm
