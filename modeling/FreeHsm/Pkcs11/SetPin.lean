import FreeHsm.Pkcs11.Module

/-!
# C_SetPIN

`C_SetPIN` changes the PIN of the role that is logged in, and hands the work to
`fhsm_token_set_pin`, which proves the old PIN by logging the role in. A role that
is logged in already is not logged in again, so the two conditions exclude each
other: whoever may call `C_SetPIN` gets `USER_ALREADY_LOGGED_IN`.
-/

namespace FreeHsm

open StateExcept ModM

variable {P : Provider} {C : Crypto}

theorem Token.setPin_loggedIn (C : Crypto) (loginEnv env : Env) (t : Token) (oldPin newPin : Bytes)
    (d : Disk) : ∃ e, t.setPin C loginEnv env t.loggedIn oldPin newPin d = (.err e, t, d) := by
  unfold setPin
  split
  · exact ⟨_, rfl⟩
  -- the login inside it stops at its first check
  have hlogin : t.login C loginEnv t.loggedIn (cstr oldPin) d = (.err .userAlreadyLoggedIn, t, d) :=
    if_pos rfl
  rw [hlogin]
  exact ⟨_, rfl⟩

/-- `C_SetPIN` on a session of a logged-in token fails and changes nothing. -/
theorem exec_setPIN_loggedIn {m : Module P} {h : UInt64} {slot : Nat} {t : Token} (env : Envs)
    (oldPin newPin : Bytes) (htok : m.sessionToken h = some (slot, t)) :
    ∃ e, exec (setPIN C env h (some oldPin) (some newPin)) m = (.error e, m) := by
  unfold setPIN
  rw [exec_gate_bind]
  split
  · exact ⟨_, rfl⟩
  dsimp only
  rw [exec_failIf_bind]
  split
  · exact ⟨_, rfl⟩
  rw [exec_failIf_bind]
  split
  · exact ⟨_, rfl⟩
  rw [exec_bind, exec_needToken _ htok]
  dsimp only
  rw [exec_failIf_bind]
  split
  · exact ⟨_, rfl⟩
  -- the calls of `fhsm_token_set_pin` see a module that is not in its error state
  rw [exec_bind, exec_tokenEnv]
  dsimp only
  rw [exec_bind, exec_tokenEnv]
  obtain ⟨e, he⟩ := t.setPin_loggedIn C { env 0 with moduleError := m.state == .error }
    { env 1 with moduleError := m.state == .error } oldPin newPin (m.disks slot)
  have hslot := Module.sessionToken_slot htok
  exact ⟨e, (exec_onToken hslot he).trans (by rw [Module.setToken_self hslot])⟩

/-! ## What it is for -/

/-- The token `t` with the PIN of a role changed: exactly the new PIN opens the wrap of the role,
    in memory and in the file, and it gives the same DEK and the same objects; the other role is
    as it was. -/
structure PinChanged (C : Crypto) (role : Role) (newPin : Bytes) (t t' : Token)
    (file : Option Bytes) : Prop where
  opens : ∃ dek, t.liveDek = some dek ∧ t'.header.OpenedBy C role newPin dek
  objects : t'.objects = t.objects
  other : ∀ r, r ≠ .none → r ≠ role →
    t'.header.wrap.get r = t.header.wrap.get r ∧ t'.header.failed.get r = t.header.failed.get r
  stored : ∃ tail, file = some (t'.header.encode ++ tail) ∧
    ((t.objects.objs = [] ∧ tail = []) ∨
      ∃ dek nonce ct tag, t.liveDek = some dek ∧ locateBlob tail = .ok (nonce, ct, tag) ∧
        C.decrypt dek nonce t'.header.aad ct tag =
          some (serializeObjects t.objects t.nextHandle false))

/-- The module `m` with nothing changed but the failure counters of a token, in memory and in
    the header of its file, and the delay that goes with them. -/
def FailuresMoved (m m' : Module P) (slot : Nat) (t : Token) : Prop :=
  ∃ failed until₀ d, m' = m.setToken slot (some { t with
      header := { t.header with failed := failed }
      throttleUntilMs := until₀ }) d ∧
    (d.file = (m.disks slot).file ∨
      d.file = some (Header.encode { t.header with failed := failed } ++ fileTail (m.disks slot).file))

/-- A role is logged in, the old PIN is the role's, and the new one is of an accepted length and
    without a NUL. -/
def MayChangePin (C : Crypto) (t : Token) (oldPin newPin : Bytes) : Prop :=
  t.loggedIn ≠ .none ∧ t.header.unwrapDek C t.loggedIn oldPin ≠ none ∧ pinLenOk newPin = true ∧
    pinHasNul newPin = false

/-- What `C_SetPIN` is for, on a session of the token `t` in a slot: with the PIN of the role that
    is logged in it changes that PIN; with another one it counts a failure. -/
structure SetPinSpec (C : Crypto) (m : Module P) (slot : Nat) (t : Token) (oldPin newPin : Bytes)
    (r : Except Err Unit × Module P) : Prop where
  right : MayChangePin C t oldPin newPin →
    r.1 = .ok () ∧ ∃ t', (r.2.slots slot).token = some t' ∧
      PinChanged C t.loggedIn newPin t t' (r.2.disks slot).file
  wrong : t.header.unwrapDek C t.loggedIn oldPin = none → FailuresMoved m r.2 slot t

/-- `C_SetPIN` does what it is for exactly when there is nothing to change: nobody is logged in, the
old PIN is wrong, or the new one is not accepted. -/
theorem setPIN_spec_iff (C : Crypto) (m : Module P) (env : Envs) (h : UInt64) (slot : Nat) (t : Token)
    (oldPin newPin : Bytes) (htok : m.sessionToken h = some (slot, t)) :
    SetPinSpec C m slot t oldPin newPin (exec (setPIN C env h (some oldPin) (some newPin)) m) ↔
      ¬MayChangePin C t oldPin newPin := by
  obtain ⟨e, he⟩ := exec_setPIN_loggedIn (C := C) env oldPin newPin htok
  rw [he]
  constructor
  · intro hspec hmay
    obtain ⟨hok, -⟩ := hspec.right hmay
    cases hok
  · intro hnot
    refine ⟨fun hmay => absurd hmay hnot, fun _ => ?_⟩
    have hself : m.setToken slot (some t) (m.disks slot) = m :=
      Module.setToken_self (Module.sessionToken_slot htok)
    exact ⟨t.header.failed, t.throttleUntilMs, m.disks slot, hself.symm, .inl rfl⟩

/-! ## A session of the SO -/

def soPin : Bytes := List.replicate 8 0x31

/-- A token is initialised, a session is opened and the SO logs in. -/
def soLogsIn : ModM .plain Unit := do
  initToken .plain (fun _ => .quiet) 0 (some soPin) (some (List.replicate 32 0x20))
  let h ← openSession (fun _ => .quiet) 0 (ckfSerialSession ||| ckfRwSession) true
  login .plain (fun _ => .quiet) (UInt64.ofNat h) 0 (some soPin)

def soSession : Module .plain := (exec soLogsIn (.start fun _ => ⟨none, []⟩)).2

/-- The token of that session. -/
def soToken : Token := (soSession.slots 0).token.getD Token.zeroed

theorem sessionToken_soSession : soSession.sessionToken 1 = some (0, soToken) := by
  have hsession : (soSession.sessionToken 1).map Prod.fst = some 0 := by decide +kernel
  obtain ⟨⟨slot, t'⟩, hx, rfl⟩ := Option.map_eq_some_iff.1 hsession
  rw [hx, soToken, Module.sessionToken_slot hx]
  rfl

/-- With a wrong old PIN nothing is changed. -/
theorem setPIN_spec_iff_wrongPin :
    soToken.loggedIn = .so ∧
      SetPinSpec .plain soSession 0 soToken (List.replicate 8 0x32) (List.replicate 8 0x33)
        (exec (setPIN .plain (fun _ => .quiet) 1 (some (List.replicate 8 0x32))
          (some (List.replicate 8 0x33))) soSession) :=
  ⟨by decide +kernel, (setPIN_spec_iff .plain soSession (fun _ => .quiet) 1 0 soToken _ _
    sessionToken_soSession).2 fun hmay => hmay.2.1 (by decide +kernel)⟩

/-- With the right old PIN nothing is changed either: the SO is logged in already. -/
theorem setPIN_refuses_right_pin : (exec soLogsIn (.start fun _ => ⟨none, []⟩)).1 = .ok () ∧
      soSession.sessionToken 1 = some (0, soToken) ∧
      MayChangePin .plain soToken soPin (List.replicate 8 0x33) ∧
      (exec (setPIN .plain (fun _ => .quiet) 1 (some soPin) (some (List.replicate 8 0x33)))
        soSession).1 = .error .userAlreadyLoggedIn := by
  refine ⟨by decide +kernel, sessionToken_soSession, ⟨?_, ?_, ?_, ?_⟩, ?_⟩ <;> decide +kernel

end FreeHsm
