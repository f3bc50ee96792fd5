import FreeHsm.Token.PinChange

/-!
# Changing a PIN while others log in and out

`fhsm_token_set_pin` takes the mutex of the token twice: once in the login with the
old PIN, and once to wrap what the DEK buffer holds then. In between any thread may
log in or out. Here any number of calls take these sections in any order. A login
that waits for a running throttle gives the mutex up and starts again, so it too is
the one section in which it does not wait.
-/

namespace FreeHsm

open Token Transition
open List hiding Vector

/-- A token with its file, the calls of `fhsm_token_set_pin` that have logged in (their role and
    new PIN), and the last PIN set for each role. -/
structure PinWorld where
  tok : Token
  disk : Disk
  pending : Nat → Option (Role × Bytes)
  pins : PerRole Bytes

/-- A section of a call. -/
inductive PinEvent
  | login (env : Env) (role : Role) (pin : Bytes)
  | logout
  /-- Call `i` of `fhsm_token_set_pin` starts, up to its login. -/
  | setPinLogin (i : Nat) (env : Env) (role : Role) (oldPin newPin : Bytes)
  /-- It wraps the DEK and returns. -/
  | setPinWrap (i : Nat) (env : Env)

namespace PinWorld

variable (C : Crypto)

def setPending (w : PinWorld) (i : Nat) (p : Option (Role × Bytes)) : PinWorld :=
  { w with pending := fun j => if j = i then p else w.pending j }

/-- The state after a section. A call that is under way does not start again. -/
def step (w : PinWorld) : PinEvent → PinWorld
  | .login env role pin =>
    let (_, t, d) := w.tok.login C env role pin w.disk
    { w with tok := t, disk := d }
  | .logout => { w with tok := w.tok.logout }
  | .setPinLogin i env role oldPin newPin =>
    if (w.pending i).isSome || (cstr newPin).length < 4 then w
    else
      let (rv, t, d) := w.tok.login C env role (cstr oldPin) w.disk
      let w := { w with tok := t, disk := d }
      if rv = .ok then w.setPending i (some (role, newPin)) else w
  | .setPinWrap i env =>
    match w.pending i with
    | none => w
    | some (role, newPin) =>
      let (rv, t, d) := w.tok.setPinWrap C env role newPin w.disk
      let w := { w with tok := t, disk := d }.setPending i none
      if rv = .ok then { w with pins := w.pins.set role (cstr newPin) } else w

/-- The second section of a call finds a live DEK, wraps it and writes the file. -/
def WrapsLive (w : PinWorld) : PinEvent → Prop
  | .setPinWrap i env => (w.pending i).isSome = true →
    w.tok.dekLive = true ∧ w.tok.CanRewrap env ∧ (writeAtomic C env w.tok w.disk).1 = .ok
  | _ => True

/-- The wrap of every role that has a PIN opens under that PIN, and gives `dek`. -/
def WrapsAll (dek : Key) (pins : PerRole Bytes) (h : Header) : Prop :=
  ∀ role, role ≠ .none → (role = .user → h.userInitialized = true) →
    h.OpenedBy C role (pins.get role) dek

/-- In memory and in the file. -/
structure Wrapped (dek : Key) (w : PinWorld) : Prop where
  memory : WrapsAll C dek w.pins w.tok.header
  file : ∃ h, w.disk.file.bind Header.decode = some h ∧ WrapsAll C dek w.pins h

/-- What every section keeps. While a call is under way, a token without a role has no live DEK. -/
structure Inv (dek : Key) (w : PinWorld) : Prop extends Wrapped C dek w where
  live : w.tok.loggedIn ≠ .none → ∀ key, w.tok.liveDek = some key → key = dek
  dead : ∀ i, (w.pending i).isSome = true → w.tok.loggedIn = .none → w.tok.liveDek = none
  roles : ∀ i role pin, w.pending i = some (role, pin) → role ≠ .none

variable {C} {dek : Key} {w : PinWorld}

variable {pins : PerRole Bytes} {env : Env} {t : Token} {d : Disk} {rv : Rv} {role : Role}

/-- A write, if it succeeds, puts the wraps in memory into the file. -/
theorem file_write {d' : Disk} (h : writeAtomic C env t d = (rv, d'))
    (ht : WrapsAll C dek pins t.header)
    (hd : ∃ h, d.file.bind Header.decode = some h ∧ WrapsAll C dek pins h) :
    ∃ h, d'.file.bind Header.decode = some h ∧ WrapsAll C dek pins h := by
  cases rv with
  | ok => exact ⟨t.header, header_of_write h, ht⟩
  | err e =>
    cases writeAtomic_cases h with
    | failed | lost => exact hd

/-- A login keeps the invariant. -/
theorem Inv.login {pin : Bytes} (h : w.tok.login C env role pin w.disk = (rv, t, d))
    (hw : w.Inv C dek) : Inv C dek { w with tok := t, disk := d } := by
  have hcases := login_cases h
  -- no wrap is touched
  have hmem : WrapsAll C dek w.pins t.header := by
    obtain ⟨failed, hheader⟩ := login_header hcases
    have huser : t.header.userInitialized = w.tok.header.userInitialized := by rw [hheader]
    exact fun r hr hinit =>
      (login_sameWrap r hcases).openedBy (hw.memory r hr fun heq => huser ▸ hinit heq)
  cases hcases with
  | refused e => exact hw
  | wrong es htried hrole t ht =>
    have hlive : t.liveDek = none := by rw [ht]; rfl
    refine ⟨⟨hmem, file_write rfl hmem hw.file⟩, fun _ key hkey => ?_, fun _ _ _ => hlive, hw.roles⟩
    cases hlive.symm.trans hkey
  | tpmRefused dek' es htried hrole hfree htpm =>
    refine ⟨⟨hmem, hw.file⟩, fun hrole => absurd hfree hrole, fun i hi _ => ?_, hw.roles⟩
    -- the buffer is wiped, and was not live
    have hdead : w.tok.dekLive = false := by rw [dekLive, hw.dead i hi hfree]; rfl
    simp only [liveDek, hdead]
  | accepted dek' es es' htried hrole hfree htpm t₁ t ht₁ hload =>
    obtain ⟨⟨objs, next, loaded, pub, hframe⟩, -⟩ := loadIfNeeded_frame hload
    have hin : t.loggedIn = role := by rw [hframe, ht₁]
    have hdek : t.liveDek = some dek' := by rw [liveDek, hframe, ht₁]
    refine ⟨⟨hmem, file_write rfl hmem hw.file⟩, fun _ key hkey => ?_, fun _ _ hnone => ?_, hw.roles⟩
    · cases hdek.symm.trans hkey
      have hopen := htried.right _ rfl
      rw [hw.memory role hrole htried.initialized] at hopen
      split at hopen <;> cases hopen
      rfl
    · exact absurd (hin.symm.trans hnone) hrole

theorem pending_setPending (w : PinWorld) (i j : Nat) (p : Option (Role × Bytes)) :
    (w.setPending i p).pending j = if j = i then p else w.pending j := rfl

theorem Inv.clearPending (hw : w.Inv C dek) (i : Nat) : (w.setPending i none).Inv C dek := by
  refine ⟨⟨hw.memory, hw.file⟩, hw.live, fun j hj => ?_, fun j role pin hj => ?_⟩
  · rw [pending_setPending] at hj
    split at hj
    · cases hj
    · exact hw.dead j hj
  · rw [pending_setPending] at hj
    split at hj
    · cases hj
    · exact hw.roles j role pin hj

theorem Inv.addPending (hw : w.Inv C dek) (i : Nat) (newPin : Bytes) (hrole : role ≠ .none)
    (hin : w.tok.loggedIn = role) : (w.setPending i (some (role, newPin))).Inv C dek := by
  refine ⟨⟨hw.memory, hw.file⟩, hw.live, fun j _ hnone => ?_, fun j r pin hj => ?_⟩
  · exact absurd (hin.symm.trans hnone) hrole
  · rw [pending_setPending] at hj
    split at hj
    · cases hj
      exact hrole
    · exact hw.roles j r pin hj

/-- The second section of a call, with a live DEK. -/
theorem Inv.setPinWrap (hC : C.OtherKekFails) {i : Nat} {newPin : Bytes}
    (hpending : w.pending i = some (role, newPin)) (hcond : w.WrapsLive C (.setPinWrap i env))
    (hw : w.Inv C dek) (h : w.tok.setPinWrap C env role newPin w.disk = (rv, t, d)) :
    rv = .ok ∧
      Inv C dek { w with tok := t, disk := d, pins := w.pins.set role (cstr newPin) } := by
  have hsome : (w.pending i).isSome = true := by rw [hpending]; rfl
  have hrole := hw.roles i role newPin hpending
  obtain ⟨hlive, hcan, hwrite⟩ := hcond hsome
  -- somebody is logged in, so the live DEK is the right one
  obtain ⟨key, hkey⟩ := Option.isSome_iff_exists.1 hlive
  have hin : w.tok.loggedIn ≠ .none := fun hnone => by cases hkey.symm.trans (hw.dead i hsome hnone)
  obtain rfl := hw.live hin key hkey
  have hbuf : w.tok.dek.map Dek.key = some key := by
    revert hkey
    rw [liveDek]
    split
    · rename_i key' hdek
      rintro ⟨⟩
      rw [hdek]
      rfl
    · intro h
      cases h
  have hsec := setPinWrap_cases hbuf h
  have hrv : rv = .ok := (hsec.write_eq hcan).symm.trans hwrite
  subst hrv
  obtain ⟨-, -, hfile, hother⟩ := hsec.stored hrole
  have hopens := hsec.openedBy hC hcan
  obtain ⟨wr, hframe⟩ := setPinWrap_frame h
  have hmem : WrapsAll C key (w.pins.set role (cstr newPin)) t.header := by
    intro r hr hinit
    by_cases hrr : r = role
    · subst hrr
      rw [PerRole.get_set_self]
      exact hopens
    · -- the other role
      have hsame : w.tok.header.SameWrap r t.header := by
        rw [hframe]
        exact setWrap_sameWrap (.of_ne hrole hr (Ne.symm hrr))
      rw [PerRole.get_set_of_ne _ _ hrole hr hrr]
      refine hsame.openedBy (hw.memory r hr fun huser => ?_)
      have hinit := hinit huser
      rwa [hframe] at hinit
  refine ⟨rfl, ⟨hmem, t.header, hfile, hmem⟩, ?_, ?_, hw.roles⟩
  · rw [hframe]
    exact hw.live
  · rw [hframe]
    exact hw.dead

/-- Every section keeps the invariant, if the second sections find a live DEK and succeed. -/
theorem step_inv (hC : C.OtherKekFails) (w : PinWorld) (ev : PinEvent) (hw : w.Inv C dek)
    (hcond : w.WrapsLive C ev) : (step C w ev).Inv C dek := by
  cases ev with
  | login env role pin => exact hw.login rfl
  | logout =>
    have hlive : w.tok.logout.liveDek = none := liveDek_dropDek w.tok
    refine ⟨⟨hw.memory, hw.file⟩, fun hin => absurd rfl hin, fun _ _ _ => hlive, hw.roles⟩
  | setPinLogin i env role oldPin newPin =>
    unfold step
    dsimp only
    split
    · exact hw
    rcases hlogin : w.tok.login C env role (cstr oldPin) w.disk with ⟨rv, t, d⟩
    have hnext := hw.login hlogin
    dsimp only
    split
    · rename_i hok
      subst hok
      obtain ⟨hrole, hin, -⟩ := login_live (login_cases hlogin)
      exact hnext.addPending i newPin hrole hin
    · exact hnext
  | setPinWrap i env =>
    unfold step
    dsimp only
    split
    · exact hw
    rename_i role newPin hpending
    rcases hwrap : w.tok.setPinWrap C env role newPin w.disk with ⟨rv, t, d⟩
    obtain ⟨rfl, hnext⟩ := hw.setPinWrap hC hpending hcond hwrap
    exact hnext.clearPending i

/-! ## A call that nobody disturbs -/

/-- The two sections one after the other are `fhsm_token_set_pin`. -/
theorem run_setPin (w : PinWorld) (i : Nat) (loginEnv env : Env) (role : Role)
    (oldPin newPin : Bytes) (hidle : w.pending i = none) :
    let w' := run (step C) w [.setPinLogin i loginEnv role oldPin newPin, .setPinWrap i env]
    let r := w.tok.setPin C loginEnv env role oldPin newPin w.disk
    w'.tok = r.2.1 ∧ w'.disk = r.2.2 ∧
      w'.pins = if r.1 = .ok then w.pins.set role (cstr newPin) else w.pins := by
  dsimp only
  rw [run_cons, run_cons, run_nil, setPin_eq]
  by_cases hshort : (cstr newPin).length < 4
  · -- refused at once, so there is no second section
    have hfirst : step C w (.setPinLogin i loginEnv role oldPin newPin) = w := by
      simp [step, hshort]
    rw [hfirst, if_pos hshort]
    simp [step, hidle]
  · rw [if_neg hshort]
    rcases hlogin : w.tok.login C loginEnv role (cstr oldPin) w.disk with ⟨rv, t, d⟩
    cases rv with
    | err e =>
      have hfirst : step C w (.setPinLogin i loginEnv role oldPin newPin) =
          { w with tok := t, disk := d } := by
        simp [step, hidle, hshort, hlogin]
      rw [hfirst]
      simp [step, hidle]
    | ok =>
      have hfirst : step C w (.setPinLogin i loginEnv role oldPin newPin) =
          { w with tok := t, disk := d }.setPending i (some (role, newPin)) := by
        simp [step, hidle, hshort, hlogin]
      rw [hfirst]
      rcases hwrap : t.setPinWrap C env role newPin d with ⟨rv, t', d'⟩
      cases rv <;> simp [step, setPending, hwrap]

/-! ## Any interleaving -/

/-- The calls before any has started. -/
def start (tok : Token) (disk : Disk) (pins : PerRole Bytes) : PinWorld := ⟨tok, disk, fun _ => none, pins⟩

/-- If the second section of every call finds a live DEK and succeeds, the wrap of every role opens
    under the last PIN set for it to the DEK of the token, in memory and in the file. -/
theorem wraps_of_live (C : Crypto) (hC : C.OtherKekFails) (dek : Key) (tok : Token) (disk : Disk)
    (pins : PerRole Bytes) (events : List PinEvent)
    (hstart : (start tok disk pins).Wrapped C dek)
    (hlive : tok.loggedIn ≠ .none → ∀ key, tok.liveDek = some key → key = dek)
    (hcond : Along (step C) (WrapsLive C) (start tok disk pins) events) :
    (run (step C) (start tok disk pins) events).Wrapped C dek := by
  have hinv : (start tok disk pins).Inv C dek := ⟨hstart, hlive, nofun, nofun⟩
  exact (run_invariant (step_inv hC) hinv hcond).toWrapped

/-- A new token, whose SO has a PIN and whose user has none. -/
def newWorld : PinWorld :=
  start PinCall.newToken PinCall.newDisk ⟨List.replicate 8 0x31, []⟩

theorem wrapped_newWorld : newWorld.Wrapped .plain (Vector.replicate 32 1) := by
  have hmem : WrapsAll .plain (Vector.replicate 32 1) newWorld.pins newWorld.tok.header := by
    intro role hrole hinit
    cases role with
    | none => exact absurd rfl hrole
    | user => cases hinit rfl
    | so =>
      have hwrap : newWorld.tok.header.wrap.get .so = newWorld.tok.header.wrapFor .plain
          Env.quiet.rngSalt Env.quiet.rngWrapNonce (cstr (replicate 8 0x31))
          (Vector.replicate 32 1) := rfl
      exact Header.openedBy_wrapFor Crypto.otherKekFails_plain hwrap
  have hwrite : writeAtomic .plain .quiet PinCall.newToken ⟨none, []⟩ = (.ok, PinCall.newDisk) :=
    Prod.ext (by decide +kernel) rfl
  exact ⟨hmem, _, header_of_write hwrite, hmem⟩

/-- The SO changes their PIN. -/
def soLogin : PinEvent := .setPinLogin 0 .quiet .so (List.replicate 8 0x31) (List.replicate 8 0x32)

/-- While the change is under way, the SO logs out and in again; then they use the new PIN. -/
def soRelogin : List PinEvent :=
  [soLogin, .logout, .login .quiet .so (List.replicate 8 0x31), .setPinWrap 0 .quiet, .logout,
    .login .quiet .so (List.replicate 8 0x32)]

theorem wraps_of_live_soRelogin :
    let w := run (step .plain) newWorld soRelogin
    w.pins.so = replicate 8 0x32 ∧ w.tok.loggedIn = .so ∧
      w.Wrapped .plain (Vector.replicate 32 1) := by
  refine ⟨by decide +kernel, by decide +kernel, ?_⟩
  refine wraps_of_live .plain Crypto.otherKekFails_plain _ _ _ _ _ wrapped_newWorld
    (fun hin => absurd rfl hin)
    ⟨trivial, trivial, trivial, fun _ => ⟨?_, ⟨⟨rfl, rfl, rfl⟩, ?_⟩, ?_⟩, trivial, trivial, trivial⟩
  all_goals decide +kernel

/-- A logout between the two sections: the call returns with success, and the new PIN opens 32 zero
    bytes. -/
theorem logout_between_sections :
    let w := run (step .plain) newWorld [soLogin, .logout, .setPinWrap 0 .quiet]
    w.pins.so = replicate 8 0x32 ∧
      w.tok.header.unwrapDek .plain .so (replicate 8 0x32) = some zeroKey ∧
      newWorld.Wrapped .plain (Vector.replicate 32 1) ∧
      ¬w.Wrapped .plain (Vector.replicate 32 1) := by
  intro w
  have hpin : w.pins.so = replicate 8 0x32 := by decide +kernel
  have hzero : w.tok.header.unwrapDek .plain .so (replicate 8 0x32) = some zeroKey := by
    decide +kernel
  refine ⟨hpin, hzero, wrapped_newWorld, fun hw => ?_⟩
  have hopen := hw.memory .so nofun nofun (w.pins.get .so)
  rw [if_pos rfl] at hopen
  have hget : w.pins.get .so = replicate 8 0x32 := hpin
  rw [hget, hzero] at hopen
  revert hopen
  decide

end PinWorld

end FreeHsm
