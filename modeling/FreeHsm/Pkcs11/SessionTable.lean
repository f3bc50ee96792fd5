import FreeHsm.ForStd.Transition
import FreeHsm.Pkcs11.SetPin
import FreeHsm.Token.Owners

/-!
# Histories of the session table

Sessions, tokens, operations, searches and session objects live in five tables. A handle
is the index of a free entry, so it comes back after a close, and `C_OpenSession` fills
the entry before it attaches the token. `Module.Sound` is what ties the tables together;
every call keeps it, in any order, also between the two halves of `C_OpenSession`.
-/

namespace FreeHsm

open StateExcept ModM Transition Token FreeHsm.Module List

variable {P : Provider} {C : Crypto}

/-! ## The calls -/

/-- The checks of `C_OpenSession`: the last one is for an SO that is logged in. -/
def openTest (env : Envs) (slotId : UInt64) (flags : UInt64) (out : Bool) : ModM P Unit := do
  gate
  failIf (!out) .argumentsBad
  failIf (maxSlots ≤ slotId.toNat) .slotIdInvalid
  failIf (flags &&& ckfSerialSession == 0) .sessionParallelNotSupported
  match ← slotToken (env 0) slotId.toNat with
  | none => throw .tokenNotPresent
  | some t =>
    failIf (flags &&& ckfRwSession == 0 && t.loggedIn == .so) .sessionReadWriteSoExists

/-- `C_OpenSession` fills an entry and clears the operations of its handle. -/
def openFill (slot : Nat) (flags : UInt64) : ModM P Nat := do
  let h ← sessionOpen slot flags
  modify fun m => m.sessionOpsReset (UInt64.ofNat h)
  return h

/-- `C_OpenSession` up to the table entry. -/
def openEntry (env : Envs) (slotId : UInt64) (flags : UInt64) (out : Bool) : ModM P Nat := do
  openTest env slotId flags out
  openFill slotId.toNat flags

theorem openSession_eq (env : Envs) (slotId flags : UInt64) (out : Bool) :
    (openSession env slotId flags out : ModM P Nat) = do
      let h ← openEntry env slotId flags out
      sessionAttachToken h
      return h := by
  unfold openSession openEntry openTest openFill
  simp only [bind_assoc]
  -- five steps, the last of which splits on the token
  iterate 5
    congr
    funext t
  cases t with
  | none => rfl
  | some t => simp only [pure_bind]

/-- `fhsm_session_login` after its checks. -/
def loginOn (C : Crypto) (env : Envs) (h : UInt64) (slot : Nat) (role : Role) (pin : Option Bytes) :
    ModM P Unit :=
  match pin with
  | none => throw .argumentsBad
  | some pin => do
    let tenv ← tokenEnv (env 0)
    let entered : ModM P Unit :=
      modify fun m => m.setSession h.toNat ((m.sessions h.toNat).map fun e => { e with role := role })
    tryCatch (onToken slot fun t => t.login C tenv role pin) fun err => do
      if err = .userAlreadyLoggedIn then entered
      throw err
    entered

theorem sessionLogin_eq (env : Envs) (h : UInt64) (role : Role) (pin : Option Bytes) :
    (sessionLogin C env h role pin : ModM P Unit) = (do
      let m ← get
      match m.session h with
      | none => throw .sessionHandleInvalid
      | some e =>
        failIf (!e.attached) .tokenNotPresent
        failIf (role == .so && m.sessionRoExists e.slot) .sessionReadOnlyExists
        loginOn C env h e.slot role pin) := rfl

/-- `C_Finalize`: sessions and tokens go, the slots are looked up again later. -/
def Module.finalize (m : Module P) : Module P :=
  { m with
    state := (m.state.set .powerOff).2
    tableBuilt := false
    slots := fun i => { m.slots i with token := none }
    sessions := fun _ => none
    ops := fun h => if h = 0 ∨ maxSessions ≤ h then m.ops h else .fresh
    finds := fun _ => {} }

/-- The owner an object function marks an object with, if it is the given one. -/
def ObjectOp.marksOnly (owner : UInt32) : ObjectOp → Bool
  | .markSession _ w => w == owner
  | _ => true

/-- A call that reaches the five tables. -/
inductive TableCall (P : Provider)
  | openEntry (env : Envs) (slotId flags : UInt64) (out : Bool)
  | attach (h : Nat)
  | login (env : Envs) (h userType : UInt64) (pin : Option Bytes)
  | logout (h : UInt64)
  | close (env : Envs) (h : UInt64)
  | closeAll (env : Envs) (slotId : UInt64)
  | initToken (env : Envs) (slotId : UInt64) (pin label : Option Bytes)
  | initPIN (env : Envs) (h : UInt64) (pin : Option Bytes)
  | setPIN (env : Envs) (h : UInt64) (oldPin newPin : Option Bytes)
  /-- An object function, called for a session on its token. -/
  | object (env : Env) (h : UInt64) (op : ObjectOp)
  /-- Operations and searches start, go on and end. -/
  | work (ops : Nat → SessionOps P) (finds : Nat → FindState)
  | finalize
  | latchError

/-- The module after a call. -/
def Module.call (C : Crypto) (m : Module P) : TableCall P → Module P
  | .openEntry env slotId flags out => (exec (FreeHsm.openEntry env slotId flags out) m).2
  | .attach h => (exec (sessionAttachToken h) m).2
  | .login env h userType pin => (exec (FreeHsm.login C env h userType pin) m).2
  | .logout h => (exec (FreeHsm.logout h) m).2
  | .close env h => (exec (closeSession C env h) m).2
  | .closeAll env slotId => (exec (closeAllSessions C env slotId) m).2
  | .initToken env slotId pin label => (exec (FreeHsm.initToken C env slotId pin label) m).2
  | .initPIN env h pin => (exec (FreeHsm.initPIN C env h pin) m).2
  | .setPIN env h oldPin newPin => (exec (FreeHsm.setPIN C env h oldPin newPin) m).2
  | .object env h op =>
    match m.sessionToken h with
    | none => m
    | some (slot, _) =>
      -- `fhsm_token_object_mark_session` is called with the handle of the session
      if op.marksOnly h.toUInt32 then
        (exec (onToken slot fun t => t.object C { env with moduleError := m.state == .error } op) m).2
      else m
  | .work ops finds => { m with ops := ops, finds := finds }
  | .finalize => m.finalize
  | .latchError => { m with state := .error }

/-! ## The invariant -/

namespace Module

/-- Session `h` is open and has the token of a slot attached. -/
def AttachedTo (m : Module P) (h slot : Nat) : Prop :=
  ∃ e, m.sessions h = some e ∧ e.attached = true ∧ e.slot = slot

/-- A token belongs with the sessions of its slot: it is logged in only while one is attached,
and its session objects are theirs. -/
structure Fits (m : Module P) (slot : Nat) (t : Token) : Prop where
  login : t.loggedIn ≠ .none → ∃ h, m.AttachedTo h slot
  owned : t.Owned fun w => m.AttachedTo w.toNat slot

/-- What ties the tables together. -/
structure Sound (m : Module P) : Prop where
  range : ∀ h e, m.sessions h = some e → 1 ≤ h ∧ h < maxSessions
  token : ∀ h e, m.sessions h = some e → (m.slots e.slot).token.isSome = true
  role : ∀ h e, m.sessions h = some e → e.attached = false → e.role = .none
  fits : ∀ slot t, (m.slots slot).token = some t → m.Fits slot t
  built : m.tableBuilt = false → (∀ h, m.sessions h = none) ∧ ∀ slot, (m.slots slot).token = none

theorem sound_start (disks : Nat → Disk) : (start disks : Module P).Sound where
  range := nofun
  token := nofun
  role := nofun
  fits := nofun
  built := fun _ => ⟨fun _ => rfl, fun _ => rfl⟩

variable {m m' : Module P} {slot : Nat}

variable {i : Nat} {t : Token} {e : Session} {α : Type}

theorem Sound.built_of_token (h : m.Sound) (ht : (m.slots slot).token = some t) :
    m.tableBuilt = true := by
  cases hbuilt : m.tableBuilt with
  | true => rfl
  | false => cases ((h.built hbuilt).2 slot).symm.trans ht

/-- A token fits as long as its sessions stay attached. -/
theorem Fits.mono (h : m.Fits slot t) (hatt : ∀ i, m.AttachedTo i slot → m'.AttachedTo i slot) :
    m'.Fits slot t :=
  ⟨fun hlog => (h.login hlog).imp hatt, h.owned.mono fun w => hatt w.toNat⟩

section

variable (h : m.Sound)

include h

theorem Sound.exists_token (he : m.sessions i = some e) : ∃ t, (m.slots e.slot).token = some t :=
  Option.isSome_iff_exists.1 (h.token i e he)

theorem Sound.built_of_session (he : m.sessions i = some e) : m.tableBuilt = true :=
  let ⟨_, ht⟩ := h.exists_token he
  h.built_of_token ht

theorem Sound.congr (hslots : m'.slots = m.slots) (hsess : m'.sessions = m.sessions)
    (hbuilt : m'.tableBuilt = m.tableBuilt) : m'.Sound := by
  cases m
  cases m'
  cases hslots
  cases hsess
  cases hbuilt
  exact ⟨h.range, h.token, h.role, fun s t ht => (h.fits s t ht).mono fun _ hi => hi, h.built⟩

theorem Sound.setSlot {entry : SlotEntry} {disks : Nat → Disk} (hbuilt : m.tableBuilt = true)
    (hfits : ∀ t, entry.token = some t → m.Fits slot t)
    (hnone : entry.token = none → ∀ i e, m.sessions i = some e → e.slot ≠ slot) :
    Sound { m with slots := update m.slots slot entry, disks := disks } where
  range := h.range
  role := h.role
  built hfalse := by
    rw [hbuilt] at hfalse
    cases hfalse
  token i e he := by
    show (update m.slots slot entry e.slot).token.isSome = true
    by_cases heq : e.slot = slot
    · rw [heq, update_self]
      cases htok : entry.token with
      | none => exact absurd heq (hnone htok i e he)
      | some t => rfl
    · rw [update_of_ne _ _ heq]
      exact h.token i e he
  fits s t ht := by
    change (update m.slots slot entry s).token = some t at ht
    by_cases heq : s = slot
    · subst heq
      rw [update_self] at ht
      exact (hfits t ht).mono fun _ hi => hi
    · rw [update_of_ne _ _ heq] at ht
      exact (h.fits s t ht).mono fun _ hi => hi

theorem Sound.setToken {d : Disk} (hbuilt : m.tableBuilt = true) (hfits : m.Fits slot t) :
    (m.setToken slot (some t) d).Sound := by
  apply h.setSlot hbuilt
  · rintro _ ⟨⟩
    exact hfits
  · exact nofun

theorem Sound.onToken {f : Token → Disk → Rv × Token × Disk}
    (hf : ∀ t rv t' d', (m.slots slot).token = some t → f t (m.disks slot) = (rv, t', d') → m.Fits
      slot t') : (exec (onToken slot f) m).2.Sound := by
  cases htok : (m.slots slot).token with
  | none =>
    rw [exec_onToken_none htok]
    exact h
  | some t =>
    rcases hcall : f t (m.disks slot) with ⟨rv, t', d'⟩
    rw [exec_onToken htok hcall]
    exact h.setToken (h.built_of_token htok) (hf t rv t' d' htok hcall)

theorem Sound.setEntry {x : Option Session}
    (hnew : ∀ e, x = some e → (1 ≤ i ∧ i < maxSessions) ∧ (m.slots e.slot).token.isSome = true ∧
      (e.attached = false → e.role = .none) ∧ m.tableBuilt = true)
    (hfits : ∀ s t, (m.slots s).token = some t → m.AttachedTo i s → (m.setSession i x).Fits s t) :
    (m.setSession i x).Sound := by
  -- an entry of the new table is the new one or an old one
  have hentry : ∀ j e, (m.setSession i x).sessions j = some e →
      (j = i ∧ x = some e) ∨ m.sessions j = some e := by
    intro j e he
    by_cases heq : j = i
    · subst heq
      exact .inl ⟨rfl, (update_self ..).symm.trans he⟩
    · exact .inr ((update_of_ne _ _ heq).symm.trans he)
  have hall : ∀ {q : Nat → Session → Prop}, (∀ j e, m.sessions j = some e → q j e) →
      (∀ e, x = some e → q i e) → ∀ j e, (m.setSession i x).sessions j = some e → q j e := by
    intro q hold hx j e he
    rcases hentry j e he with ⟨rfl, he'⟩ | he'
    · exact hx e he'
    · exact hold j e he'
  refine ⟨hall h.range fun e hx => (hnew e hx).1, hall h.token fun e hx => (hnew e hx).2.1,
    hall h.role fun e hx => (hnew e hx).2.2.1, ?_, ?_⟩
  · intro s t ht
    by_cases hatt : m.AttachedTo i s
    · exact hfits s t ht hatt
    · -- the entry had nothing to do with this slot
      refine (h.fits s t ht).mono fun j hj => ?_
      have hne : j ≠ i := by
        rintro rfl
        exact hatt hj
      obtain ⟨e, he, hrest⟩ := hj
      exact ⟨e, (update_of_ne _ _ hne).trans he, hrest⟩
  · intro hfalse
    obtain ⟨hnone, htok⟩ := h.built hfalse
    refine ⟨fun j => Option.eq_none_iff_forall_ne_some.2 fun e he => ?_, htok⟩
    rcases hentry j e he with ⟨-, hx⟩ | he
    · cases hfalse.symm.trans (hnew e hx).2.2.2
    · cases (hnone j).symm.trans he

theorem Sound.setSession (hrange : 1 ≤ i ∧ i < maxSessions)
    (htok : (m.slots e.slot).token.isSome = true) (hrole : e.attached = false → e.role = .none)
    (hbuilt : m.tableBuilt = true) (hold : ∀ s, m.AttachedTo i s → e.attached = true ∧ e.slot = s) :
    (m.setSession i (some e)).Sound := by
  refine h.setEntry (by rintro _ ⟨⟩; exact ⟨hrange, htok, hrole, hbuilt⟩) fun s t ht hs => ?_
  refine (h.fits s t ht).mono fun j hj => ?_
  by_cases heq : j = i
  · subst heq
    exact ⟨e, update_self .., hold s hs⟩
  · obtain ⟨e', he', hrest⟩ := hj
    exact ⟨e', (update_of_ne _ _ heq).trans he', hrest⟩

/-- An entry that goes away: the token of its slot has let go of it. -/
theorem Sound.clearSession
    (hfits : ∀ s t, (m.slots s).token = some t → m.AttachedTo i s → (m.setSession i none).Fits s t) :
    (m.setSession i none).Sound :=
  h.setEntry nofun hfits

/-! ## Opening a session -/

theorem Sound.gate {f : Unit → ModM P α} (hf : (exec (f ()) m).2.Sound) :
    (exec (ModM.gate >>= f) m).2.Sound := by
  rw [exec_gate_bind]
  split
  · exact h
  · exact hf

theorem Sound.failIf {c : Bool} {e : Err} {f : Unit → ModM P α}
    (hf : c = false → (exec (f ()) m).2.Sound) :
    (exec (StateExcept.failIf c e >>= f) m).2.Sound := by
  rw [exec_failIf_bind]
  cases c with
  | true => exact h
  | false => exact hf rfl

end

theorem Sound.bind {β : Type} {x : ModM P α} {f : α → ModM P β} (h : (exec x m).2.Sound)
    (hf : ∀ a m', m'.Sound → (exec (f a) m').2.Sound) : (exec (x >>= f) m).2.Sound := by
  rw [exec_bind]
  split <;> rename_i heq <;> rw [heq] at h
  · exact hf _ _ h
  · exact h

theorem Sound.needToken {handle : UInt64} {e : Err} {f : Nat × Token → ModM P α} (h : m.Sound)
    (hf : ∀ x, (exec (f x) m).2.Sound) : (exec (ModM.needToken handle e >>= f) m).2.Sound := by
  cases hfind : m.sessionToken handle with
  | none =>
    rw [exec_bind, exec_needToken_none _ hfind]
    exact h
  | some x =>
    rw [exec_bind, exec_needToken _ hfind]
    exact hf x

/-- Tokens may be loaded; all else is as it was. -/
structure Loads (m m' : Module P) : Prop where
  sessions : m'.sessions = m.sessions
  kept : ∀ slot t, (m.slots slot).token = some t → (m'.slots slot).token = some t
  fresh : ∀ slot t, (m'.slots slot).token = some t →
    (m.slots slot).token = some t ∨ t.loggedIn = .none

theorem Loads.refl (m : Module P) : m.Loads m := ⟨rfl, fun _ _ h => h, fun _ _ h => .inl h⟩

theorem Sound.slotTableInitOnce (h : m.Sound) :
    ∃ m', exec ModM.slotTableInitOnce m = (.ok (), m') ∧ m'.Sound ∧ m'.tableBuilt = true ∧
      m.Loads m' := by
  refine ⟨_, rfl, ?_⟩
  dsimp only
  cases hbuilt : m.tableBuilt with
  | true =>
    simp only [↓reduceIte]
    exact ⟨h, hbuilt, .refl m⟩
  | false =>
    -- no session is open, and no slot has a token
    obtain ⟨hnone, htok⟩ := h.built hbuilt
    have hempty : ∀ i, (if i < maxSlots then (⟨(m.disks i).file.isSome, none⟩ : SlotEntry)
        else m.slots i).token = none := by
      intro i
      split
      · rfl
      · exact htok i
    simp only [Bool.false_eq_true, ↓reduceIte]
    refine ⟨⟨fun i e he => ?_, fun i e he => ?_, fun i e he => ?_, fun s t ht => ?_, nofun⟩, trivial,
      rfl, fun s t ht => ?_, fun s t ht => ?_⟩
    · cases (hnone i).symm.trans he
    · cases (hnone i).symm.trans he
    · cases (hnone i).symm.trans he
    · cases (hempty s).symm.trans ht
    · cases (htok s).symm.trans ht
    · cases (hempty s).symm.trans ht

theorem fits_load {env : Env} {d : Disk} {rv : Rv} (h : load env d = (rv, some t))
    (m : Module P) (slot : Nat) : t.loggedIn = .none ∧ m.Fits slot t := by
  have hload := load_cases h
  have hrole : t.loggedIn = .none := by
    cases hload with
    | done f header until₀ hfile hlen hdecode =>
      obtain ⟨objs, next, pub, hview⟩ := publicViewLoad_frame env
        { zeroed with header := header, throttleUntilMs := until₀ } d.file
      rw [hview]
      rfl
  exact ⟨hrole, fun hlog => absurd hrole hlog, owned_load hload t rfl⟩

theorem Sound.slotToken (h : m.Sound) (env : Env) (slot : Nat) :
    ∃ m' t, exec (ModM.slotToken env slot) m = (.ok t, m') ∧ m'.Sound ∧ m.Loads m' ∧
      ∀ t', t = some t' → (m'.slots slot).token = some t' := by
  unfold ModM.slotToken
  split
  · exact ⟨m, none, rfl, h, .refl m, nofun⟩
  obtain ⟨m₁, hinit, hsound, hbuilt, hloads⟩ := h.slotTableInitOnce
  rw [exec_bind, hinit]
  dsimp only
  rw [exec_get_bind]
  split
  · exact ⟨m₁, none, rfl, hsound, hloads, nofun⟩
  cases htok : (m₁.slots slot).token with
  | some t => exact ⟨m₁, some t, rfl, hsound, hloads, by rintro _ ⟨⟩; exact htok⟩
  | none =>
    dsimp only
    rw [exec_tokenEnv_bind]
    rcases hload : load { env with moduleError := m₁.state == .error } (m₁.disks slot)
      with ⟨rv, t⟩
    refine ⟨m₁.setToken slot t (m₁.disks slot), t, rfl, ?_, ?_, ?_⟩
    · cases t with
      | none =>
        rw [setToken_self htok]
        exact hsound
      | some t => exact hsound.setToken hbuilt (fits_load hload m₁ slot).2
    · refine ⟨hloads.sessions, fun s t' ht' => ?_, fun s t' ht' => ?_⟩
      · have hkept := hloads.kept s t' ht'
        have hne : s ≠ slot := by
          rintro rfl
          rw [htok] at hkept
          cases hkept
        rw [slots_setToken_of_ne _ _ _ hne]
        exact hkept
      · by_cases heq : s = slot
        · subst heq
          rw [token_setToken] at ht'
          subst ht'
          exact .inr (fits_load hload m₁ s).1
        · rw [slots_setToken_of_ne _ _ _ heq] at ht'
          exact hloads.fresh s t' ht'
    · rintro t' rfl
      exact token_setToken ..

theorem exec_sessionOpen (m : Module P) (slot : Nat) (flags : UInt64) :
    exec (sessionOpen slot flags) m = (.error .hostMemory, m) ∨
      ∃ i, 1 ≤ i ∧ i < maxSessions ∧ m.sessions i = none ∧
        exec (sessionOpen slot flags) m =
          (.ok i, m.setSession i (some ⟨slot, flags, .none, false⟩)) := by
  unfold sessionOpen
  rw [exec_get_bind]
  cases hfind : (range' 1 (maxSessions - 1)).find? fun i => (m.sessions i).isNone with
  | none => exact .inl rfl
  | some i =>
    have hfree := find?_some hfind
    have hmem := mem_range'_1.1 (mem_of_find?_eq_some hfind)
    refine .inr ⟨i, hmem.1, ?_, Option.isNone_iff_eq_none.1 hfree, rfl⟩
    have hmax : 1 < maxSessions := by decide
    omega

/-- When the checks of `C_OpenSession` pass, the slot has a token, and not one on which the SO is
logged in if the session is to be read-only. -/
theorem Sound.openTest (h : m.Sound) (env : Envs) (slotId flags : UInt64) (out : Bool) :
    (exec (FreeHsm.openTest env slotId flags out) m).2.Sound ∧
      m.Loads (exec (FreeHsm.openTest env slotId flags out) m).2 ∧
      ∀ m', exec (FreeHsm.openTest env slotId flags out) m = (.ok (), m') →
        ∃ t, (m'.slots slotId.toNat).token = some t ∧
          (flags &&& ckfRwSession = 0 → t.loggedIn ≠ .so) := by
  unfold FreeHsm.openTest
  rw [exec_gate_bind]
  split
  · exact ⟨h, .refl m, nofun⟩
  iterate 3
    rw [exec_failIf_bind]
    split
    · exact ⟨h, .refl m, nofun⟩
  obtain ⟨m₁, t, hslot, hsound, hloads, htok⟩ := h.slotToken (env 0) slotId.toNat
  rw [exec_bind, hslot]
  dsimp only
  cases t with
  | none => exact ⟨hsound, hloads, nofun⟩
  | some t =>
    dsimp only
    rw [exec_failIf]
    refine ⟨hsound, hloads, ?_⟩
    intro m' hok
    split at hok
    · cases hok
    rename_i hso
    cases hok
    refine ⟨t, htok t rfl, fun hro hlog => hso ?_⟩
    rw [hro, hlog]
    rfl

theorem Sound.openFill (h : m.Sound) (flags : UInt64) (htok : (m.slots slot).token = some t) :
    exec (FreeHsm.openFill slot flags) m = (.error .hostMemory, m) ∨
      ∃ i m', exec (FreeHsm.openFill slot flags) m = (.ok i, m') ∧ m'.Sound ∧
        m'.slots = m.slots ∧ m.sessions i = none ∧
        m'.sessions = update m.sessions i (some ⟨slot, flags, .none, false⟩) ∧
        m'.ops i = .fresh ∧ m'.finds i = {} := by
  unfold FreeHsm.openFill
  rw [exec_bind]
  rcases exec_sessionOpen m slot flags with hopen | ⟨i, hlow, hhigh, hfree, hopen⟩
  · rw [hopen]
    exact .inl rfl
  · rw [hopen]
    dsimp only
    rw [exec_bind, exec_modify]
    dsimp only
    rw [exec_pure]
    have hi : (UInt64.ofNat i).toNat = i := by
      rw [UInt64.toNat_ofNat']
      exact Nat.mod_eq_of_lt (Nat.lt_trans hhigh (by decide))
    have hvalid : ¬ (UInt64.ofNat i = 0 ∨ maxSessions ≤ (UInt64.ofNat i).toNat) := by
      rintro (hzero | hbig)
      · have hnat := congrArg UInt64.toNat hzero
        rw [hi, UInt64.toNat_zero] at hnat
        omega
      · omega
    rw [sessionOpsReset, if_neg hvalid, hi]
    refine .inr ⟨i, _, rfl, ?_, rfl, hfree, rfl, update_self .., update_self ..⟩
    have hnext : (m.setSession i (some ⟨slot, flags, .none, false⟩)).Sound := by
      refine h.setSession ⟨hlow, hhigh⟩ (by rw [htok]; rfl) (fun _ => rfl) (h.built_of_token htok) ?_
      rintro s ⟨e, he, -⟩
      rw [hfree] at he
      cases he
    exact hnext.congr rfl rfl rfl

theorem Sound.openEntry (h : m.Sound) (env : Envs) (slotId flags : UInt64) (out : Bool) :
    (exec (FreeHsm.openEntry env slotId flags out) m).2.Sound ∧
      ∀ i m', exec (FreeHsm.openEntry env slotId flags out) m = (.ok i, m') →
        m'.sessions = update m.sessions i (some ⟨slotId.toNat, flags, .none, false⟩) ∧
          m'.ops i = .fresh ∧ m'.finds i = {} := by
  obtain ⟨hsound, hloads, hpass⟩ := h.openTest env slotId flags out
  unfold FreeHsm.openEntry
  rw [exec_bind]
  rcases hrun : exec (FreeHsm.openTest env slotId flags out) m with ⟨err | _, m₁⟩
  all_goals rw [hrun] at hsound hloads
  · exact ⟨hsound, nofun⟩
  · obtain ⟨t, htok, -⟩ := hpass m₁ hrun
    rcases hsound.openFill flags htok with
      hfull | ⟨i, m', hfill, hnext, -, -, hentry, hops, hfinds⟩
    · simp only [hfull]
      exact ⟨hsound, nofun⟩
    · simp only [hfill]
      refine ⟨hnext, ?_⟩
      rintro _ _ ⟨⟩
      rw [hentry, hloads.sessions]
      exact ⟨rfl, hops, hfinds⟩

theorem Sound.attach (h : m.Sound) (i : Nat) : (exec (sessionAttachToken i) m).2.Sound := by
  show (m.setSession i ((m.sessions i).map fun e => { e with attached := true })).Sound
  cases he : m.sessions i with
  | none =>
    refine h.congr rfl ?_ rfl
    funext j
    show update m.sessions i none j = m.sessions j
    by_cases heq : j = i
    · rw [heq, update_self, he]
    · rw [update_of_ne _ _ heq]
  | some e =>
    refine h.setSession (h.range i e he) (h.token i e he) nofun (h.built_of_session he) ?_
    · rintro s ⟨e', he', -, hslot⟩
      rw [he] at he'
      cases he'
      exact ⟨rfl, hslot⟩

/-! ## Closing a session -/

theorem session_eq_some {h : UInt64} (he : m.session h = some e) :
    m.sessions h.toNat = some e ∧ h ≠ 0 ∧ h.toNat < maxSessions := by
  unfold session at he
  split at he
  · cases he
  rename_i hvalid
  rw [not_or, Nat.not_le] at hvalid
  exact ⟨he, hvalid⟩

/-- The handle of an open session fits the owner field of an object, and is none of no session. -/
theorem toUInt32_of_session {h : UInt64} (he : m.session h = some e) :
    h.toUInt32.toNat = h.toNat ∧ h.toUInt32 ≠ 0 := by
  have hmax : maxSessions = 128 := rfl
  obtain ⟨-, hne, hlt⟩ := session_eq_some he
  have hnat : h.toUInt32.toNat = h.toNat := by
    rw [UInt64.toNat_toUInt32, Nat.mod_eq_of_lt (by omega)]
  refine ⟨hnat, fun heq => hne (UInt64.toNat_inj.1 ?_)⟩
  rw [← hnat, heq]
  rfl

/-- `fhsm_session_ops_reset` touches operations and searches only: what is shown for any of these is
shown for the module it leaves. -/
@[elab_as_elim]
theorem sessionOpsReset_ind {motive : Module P → Prop} (m : Module P) (h : UInt64)
    (hall : ∀ ops finds, motive { m with ops := ops, finds := finds }) :
    motive (m.sessionOpsReset h) := by
  unfold sessionOpsReset
  split
  · exact hall m.ops m.finds
  · exact hall _ _

/-- The sessions that `anySessionOf` looks through are all there are. -/
theorem Sound.anySessionOf_iff (h : m.Sound) {p : Session → Bool} :
    m.anySessionOf slot p = true ↔
      ∃ i e, m.sessions i = some e ∧ e.attached = true ∧ e.slot = slot ∧ p e = true := by
  simp only [anySessionOf, any_eq_true, mem_range'_1, Option.any_eq_true,
    Bool.and_eq_true, beq_iff_eq]
  constructor
  · rintro ⟨i, -, e, he, ⟨hatt, hslot⟩, hp⟩
    exact ⟨i, e, he, hatt, hslot, hp⟩
  · rintro ⟨i, e, he, hatt, hslot, hp⟩
    have hrange := h.range i e he
    exact ⟨i, by omega, e, he, ⟨hatt, hslot⟩, hp⟩

/-- The module after `C_CloseSession` of an entry whose token is left as `t` and `d`. -/
def closed (m : Module P) (h : UInt64) (e : Session) (t : Token) (d : Disk) : Module P :=
  let m₁ := ((m.sessionOpsReset h).setToken e.slot (some t) d).setSession h.toNat none
  if m₁.anySessionOf e.slot (fun _ => true) then m₁ else m₁.setToken e.slot (some t.logout) d

end Module

open FreeHsm.Module

variable {m : Module P} {h : UInt64} {e : Session}

theorem exec_sessionClose {t : Token} (hsess : m.session h = some e) (hatt : e.attached = true)
    (htok : (m.slots e.slot).token = some t) :
    exec (sessionClose h) m = (.ok (),
      if (m.setSession h.toNat none).anySessionOf e.slot (fun _ => true) then
        m.setSession h.toNat none
      else (m.setSession h.toNat none).setToken e.slot (some t.logout) (m.disks e.slot)) := by
  unfold sessionClose
  rw [exec_get_bind]
  simp only [hsess, hatt, htok, Bool.true_and, Bool.not_eq_true', Option.map_some]
  split <;> simp_all only [Bool.false_eq_true, ↓reduceIte] <;> rfl

theorem exec_closeSession {t t' : Token} {rv : Rv} {d' : Disk} (env : Envs)
    (hstate : m.state ≠ .error) (hsess : m.session h = some e) (hatt : e.attached = true)
    (htok : (m.slots e.slot).token = some t)
    (hgone : t.destroySessionObjects C { env 0 with moduleError := m.state == .error } h.toUInt32
      (m.disks e.slot) = (rv, t', d')) :
    exec (closeSession C env h) m = (.ok (), m.closed h e t' d') := by
  have hfind : m.sessionToken h = some (e.slot, t) := by
    simp only [sessionToken, hsess, hatt, htok, ↓reduceIte, Option.map_some]
  unfold closeSession closed
  rw [exec_gate_bind, if_neg hstate, exec_modify_bind, exec_get_bind]
  refine sessionOpsReset_ind m h fun ops finds => ?_
  rw [show sessionToken { m with ops := ops, finds := finds } h = _ from hfind]
  dsimp only
  rw [exec_tokenEnv_bind, exec_bind, exec_tryCatch,
    exec_onToken (m := { m with ops := ops, finds := finds }) htok hgone]
  -- whatever the write returned, the entry goes
  have hclose := exec_sessionClose (m := setToken { m with ops := ops, finds := finds } e.slot
    (some t') d') hsess hatt (token_setToken ..)
  rw [disks_setToken] at hclose
  cases rv <;> exact hclose

theorem exec_closeSession_none (env : Envs) (hstate : m.state ≠ .error) (hsess : m.session h = none) :
    exec (closeSession C env h) m = (.error .sessionHandleInvalid, m.sessionOpsReset h) := by
  unfold closeSession
  rw [exec_gate_bind, if_neg hstate, exec_modify_bind, exec_get_bind]
  refine sessionOpsReset_ind m h fun ops finds => ?_
  simp only [sessionToken, session] at hsess ⊢
  simp only [hsess, sessionClose, session, exec_get_bind, exec_throw]

theorem exec_closeSession_bare (env : Envs) (hstate : m.state ≠ .error) (hsess : m.session h = some e)
    (hatt : e.attached = false) :
    exec (closeSession C env h) m = (.ok (), (m.sessionOpsReset h).setSession h.toNat none) := by
  unfold closeSession
  rw [exec_gate_bind, if_neg hstate, exec_modify_bind, exec_get_bind]
  refine sessionOpsReset_ind m h fun ops finds => ?_
  simp only [sessionToken, session] at hsess ⊢
  simp only [hsess, hatt, sessionClose, session, exec_get_bind, Bool.false_and, Bool.false_eq_true,
    ↓reduceIte]
  rfl

namespace Module

theorem attachedTo_of_session (hsess : m.session h = some e) {s : Nat}
    (hatt : m.AttachedTo h.toNat s) : e.attached = true ∧ e.slot = s := by
  obtain ⟨e', he', hrest⟩ := hatt
  rw [(session_eq_some hsess).1] at he'
  cases he'
  exact hrest

/-- Without the entry, the other sessions of the slot are as they were. -/
theorem AttachedTo.clear {i j s : Nat} (hatt : m.AttachedTo j s) (hne : j ≠ i) :
    (m.setSession i none).AttachedTo j s := by
  obtain ⟨e, he, hrest⟩ := hatt
  exact ⟨e, (sessions_setSession_of_ne m none hne).trans he, hrest⟩

theorem AttachedTo.of_clear {i j s : Nat} (hatt : (m.setSession i none).AttachedTo j s) :
    m.AttachedTo j s := by
  obtain ⟨e, he, hrest⟩ := hatt
  by_cases heq : j = i
  · subst heq
    rw [sessions_setSession] at he
    cases he
  · exact ⟨e, (sessions_setSession_of_ne m none heq).symm.trans he, hrest⟩

variable {env : Env} {t t' : Token} {rv : Rv} {d' d : Disk}

/-- Closing a session keeps the tables sound: its objects are gone before its entry, and the last
session of a token logs it out. -/
theorem Sound.closed (hm : m.Sound) (hsess : m.session h = some e)
    (htok : (m.slots e.slot).token = some t)
    (hgone : t.destroySessionObjects C env h.toUInt32 (m.disks e.slot) = (rv, t', d')) :
    (m.closed h e t' d').Sound := by
  have hfits := hm.fits e.slot t htok
  obtain ⟨hnat, hzero⟩ := toUInt32_of_session hsess
  have howned := owned_destroySession hzero hfits.owned hgone
  unfold Module.closed
  refine sessionOpsReset_ind m h fun ops finds => ?_
  generalize hmeq : ({ m with ops := ops, finds := finds } : Module P) = m₁
  have hm₁ : m₁.Sound := hmeq ▸ hm.congr rfl rfl rfl
  have hattEq : ∀ i s, m₁.AttachedTo i s ↔ m.AttachedTo i s := by
    intro i s
    rw [← hmeq]
    rfl
  have hsess₁ : m₁.session h = some e := by rw [← hmeq]; exact hsess
  -- the token keeps the objects of other sessions, and a login only if there is another one
  have hclear : ∀ t₂ : Token, t₂.objects = t'.objects →
      (t₂.loggedIn ≠ .none → ∃ i, (m₁.setSession h.toNat none).AttachedTo i e.slot) →
      ((m₁.setToken e.slot (some t₂) d').setSession h.toNat none).Sound := by
    intro t₂ hobjs hlogin
    have howned₂ := howned.of_objects hobjs
    have hsound : (m₁.setToken e.slot (some t₂) d').Sound :=
      hm₁.setToken (hm₁.built_of_session (session_eq_some hsess₁).1)
        ⟨fun hlog => (hlogin hlog).imp fun _ => .of_clear,
          howned₂.mono fun w hw => (hattEq _ _).2 hw.1⟩
    refine hsound.clearSession fun s t₃ ht₃ hs => ?_
    obtain ⟨-, rfl⟩ := attachedTo_of_session (m := m₁) hsess₁ hs
    rw [token_setToken] at ht₃
    cases ht₃
    refine ⟨hlogin, howned₂.mono fun w hw => .clear (m := m₁) ((hattEq _ _).2 hw.1) ?_⟩
    exact fun heq => hw.2 (UInt32.toNat_inj.1 (heq.trans hnat.symm))
  dsimp only
  split
  · rename_i hothers
    refine hclear t' rfl fun _ => ?_
    simp only [anySessionOf, any_eq_true, Option.any_eq_true, Bool.and_eq_true,
      beq_iff_eq] at hothers
    obtain ⟨i, -, e', he', ⟨hatt', hslot'⟩, -⟩ := hothers
    exact ⟨i, e', he', hatt', hslot'⟩
  · -- the logout comes after the entry is gone, which makes no difference
    refine (hclear t'.logout rfl fun hlog => absurd rfl hlog).congr ?_ rfl rfl
    funext i
    by_cases hi : i = e.slot
    · subst hi
      rw [slots_setToken, slots_setSession, slots_setSession, slots_setToken, slots_setToken]
    · rw [slots_setToken_of_ne _ _ _ hi, slots_setSession, slots_setSession,
        slots_setToken_of_ne _ _ _ hi, slots_setToken_of_ne _ _ _ hi]

/-- What `C_CloseSession` leaves: the module as it was, without the operations of the handle, without
an entry that had no token, or with a session closed. -/
@[elab_as_elim]
theorem Sound.close_ind {motive : Module P → Prop} (hm : m.Sound) (env : Envs) (h : UInt64)
    (gated : motive m) (unknown : motive (m.sessionOpsReset h))
    (bare : ∀ e, m.session h = some e → e.attached = false →
      motive ((m.sessionOpsReset h).setSession h.toNat none))
    (closed : ∀ e t rv t' d', m.session h = some e → (m.slots e.slot).token = some t →
      t.destroySessionObjects C { env 0 with moduleError := m.state == .error } h.toUInt32
        (m.disks e.slot) = (rv, t', d') → motive (m.closed h e t' d')) :
    motive (exec (closeSession C env h) m).2 := by
  by_cases hstate : m.state = .error
  · rw [closeSession, exec_gate_bind, if_pos hstate]
    exact gated
  cases hsess : m.session h with
  | none =>
    rw [exec_closeSession_none env hstate hsess]
    exact unknown
  | some e =>
    cases hatt : e.attached with
    | false =>
      rw [exec_closeSession_bare env hstate hsess hatt]
      exact bare e hsess hatt
    | true =>
      obtain ⟨t, htok⟩ := hm.exists_token (session_eq_some hsess).1
      rcases hgone : t.destroySessionObjects C { env 0 with moduleError := m.state == .error }
        h.toUInt32 (m.disks e.slot) with ⟨rv, t', d'⟩
      rw [exec_closeSession env hstate hsess hatt htok hgone]
      exact closed e t rv t' d' hsess htok hgone

theorem Sound.close (hm : m.Sound) (env : Envs) (h : UInt64) :
    (exec (closeSession C env h) m).2.Sound := by
  refine hm.close_ind env h hm (sessionOpsReset_ind m h fun _ _ => hm.congr rfl rfl rfl)
    (fun e hsess hatt => ?_)
    fun e t rv t' d' hsess htok hgone => hm.closed hsess htok hgone
  refine sessionOpsReset_ind m h fun ops finds => ?_
  have hm₁ : Module.Sound { m with ops := ops, finds := finds } := hm.congr rfl rfl rfl
  refine hm₁.clearSession fun s t ht hs => ?_
  have hyes := (attachedTo_of_session hsess hs).1
  rw [hatt] at hyes
  cases hyes

theorem Sound.closeFrom (hm : m.Sound) (env : Envs) (n i : Nat) :
    (exec (closeSessionsFrom C env n i) m).2.Sound := by
  induction n generalizing m i with
  | zero => exact hm
  | succ n ih =>
    unfold closeSessionsFrom
    rw [exec_get_bind]
    split
    · refine .bind ?_ fun _ m₁ hm₁ => ih hm₁ (i + 1)
      rw [exec_tryCatch]
      have hclose := hm.close (C := C) (env.after i) (UInt64.ofNat i)
      split <;> rename_i heq <;> rwa [heq] at hclose
    · exact ih hm (i + 1)

/-! ## Logging in and out -/

theorem Sound.setRole (hm : m.Sound) {i : Nat} (he : m.sessions i = some e)
    (role : Role) (hrole : e.attached = false → role = .none) :
    (m.setSession i (some { e with role := role })).Sound := by
  refine hm.setSession (hm.range i e he) (hm.token i e he) hrole (hm.built_of_session he) ?_
  rintro s ⟨e', he', hatt, hslot⟩
  rw [he] at he'
  cases he'
  exact ⟨hatt, hslot⟩

theorem loggedIn_verify {role : Role} {pin : Bytes}
    (h : Token.VerifyOutcome C env t role pin d rv t' d') : t'.loggedIn = t.loggedIn := by
  cases h with
  | refused => rfl
  | wrong es htried hrole t' ht' => rw [ht']; rfl
  | right dek es htried hrole t' ht' => rw [ht']; rfl

/-- A token with the old role, or with none, and with the old owners. -/
theorem Sound.fits_of (hm : m.Sound) {slot : Nat} (htok : (m.slots slot).token = some t)
    (hrole : t'.loggedIn = t.loggedIn ∨ t'.loggedIn = .none)
    (howned : (t.Owned fun w => m.AttachedTo w.toNat slot) →
      t'.Owned fun w => m.AttachedTo w.toNat slot) : m.Fits slot t' := by
  have hfits := hm.fits slot t htok
  refine ⟨fun hlog => ?_, howned hfits.owned⟩
  rcases hrole with heq | hnone
  · exact hfits.login (heq ▸ hlog)
  · exact absurd hnone hlog

theorem Sound.verifyPin (hm : m.Sound) (slot : Nat) (role : Role) (pin : Bytes) :
    (exec (ModM.onToken slot fun t => t.verifyPin C env role pin) m).2.Sound := by
  refine hm.onToken fun t rv t' d' htok hcall => ?_
  have hcase := verifyPin_cases hcall
  exact hm.fits_of htok (.inl (loggedIn_verify hcase)) fun ho => owned_verify ho hcase

/-- `fhsm_session_login` after its checks, on a session with a token. -/
theorem Sound.loginOn (hm : m.Sound) (env : Envs) (role : Role) (pin : Option Bytes)
    (he : m.sessions h.toNat = some e) (hatt : e.attached = true) :
    (exec (FreeHsm.loginOn C env h e.slot role pin) m).2.Sound := by
  unfold FreeHsm.loginOn
  cases pin with
  | none => exact hm
  | some pin =>
    dsimp only
    rw [exec_tokenEnv_bind]
    rw [exec_bind, exec_tryCatch]
    obtain ⟨t, htok⟩ := hm.exists_token he
    rcases hlogin : t.login C { env 0 with moduleError := m.state == .error } role pin
      (m.disks e.slot) with ⟨rv, t', d'⟩
    rw [exec_onToken htok hlogin]
    have hfits : m.Fits e.slot t' := ⟨fun _ => ⟨h.toNat, e, he, hatt, rfl⟩,
      owned_login (hm.fits e.slot t htok).owned (login_cases hlogin)⟩
    have hnext : (m.setToken e.slot (some t') d').Sound :=
      hm.setToken (hm.built_of_token htok) hfits
    -- the role of the entry is set on success, and when the role was logged in already
    have hentered : ((m.setToken e.slot (some t') d').setSession h.toNat
        (((m.setToken e.slot (some t') d').sessions h.toNat).map fun e =>
          { e with role := role })).Sound := by
      rw [sessions_setToken, he]
      refine hnext.setRole (e := e) he role fun hno => ?_
      rw [hatt] at hno
      cases hno
    cases rv with
    | ok => exact hentered
    | err err =>
      dsimp only
      by_cases hsame : err = .userAlreadyLoggedIn
      · rw [if_pos hsame]
        exact hentered
      · rw [if_neg hsame]
        exact hnext

theorem Sound.sessionLogin (hm : m.Sound) (env : Envs) (h : UInt64) (role : Role)
    (pin : Option Bytes) : (exec (FreeHsm.sessionLogin C env h role pin) m).2.Sound := by
  rw [sessionLogin_eq, exec_bind, exec_get]
  dsimp only
  cases hsess : m.session h with
  | none => exact hm
  | some e =>
    dsimp only
    refine hm.failIf fun hatt => hm.failIf fun _ => ?_
    exact hm.loginOn env role pin (session_eq_some hsess).1 (by simpa using hatt)

theorem Sound.login (hm : m.Sound) (env : Envs) (h userType : UInt64) (pin : Option Bytes) :
    (exec (FreeHsm.login C env h userType pin) m).2.Sound := by
  unfold FreeHsm.login
  refine hm.gate ?_
  split
  · -- a PIN for one operation
    unfold loginContextSpecific
    refine hm.failIf fun _ => ?_
    rw [exec_get_bind]
    refine hm.failIf fun _ => hm.needToken fun x => hm.failIf fun _ => ?_
    cases pin with
    | none => exact hm
    | some pin =>
      dsimp only
      rw [exec_tokenEnv_bind]
      exact (hm.verifyPin ..).bind fun _ m' hm' => hm'.congr rfl rfl rfl
  · exact hm.failIf fun _ => hm.sessionLogin env h _ pin

theorem Sound.logout (hm : m.Sound) (h : UInt64) : (exec (FreeHsm.logout h) m).2.Sound := by
  unfold FreeHsm.logout
  refine hm.gate ?_
  rw [exec_get_bind]
  cases hsess : m.session h with
  | none => exact hm
  | some e =>
    have he := (session_eq_some hsess).1
    have hcleared : (m.setSession h.toNat (some { e with role := .none })).Sound :=
      hm.setRole he .none fun _ => rfl
    dsimp only
    split
    · exact hcleared
    obtain ⟨t, htok⟩ := hm.exists_token he
    have hfits : (m.setSession h.toNat (some { e with role := .none })).Fits e.slot t.logout := by
      exact hcleared.fits_of (t := t) htok (.inr rfl) fun ho => ho.of_objects rfl
    rw [htok]
    exact hcleared.setToken (hm.built_of_token htok) hfits

/-! ## Tokens and PINs -/

theorem loggedIn_reinit {newSoPin label : Bytes}
    (h : Token.ReinitOutcome C env t newSoPin label d rv t' d') :
    t'.loggedIn = t.loggedIn ∨ t'.loggedIn = .none := by
  cases h with
  | refused | noBuffer | notWrapped => exact .inl rfl
  | written => exact .inr rfl

theorem loggedIn_initUserPin {pin : Bytes} (h : Token.InitUserPinOutcome C env t pin d rv t' d') :
    t'.loggedIn = t.loggedIn := by
  cases h with
  | refused => rfl
  | failed e dek t' hdek hre =>
    cases hre
    rfl
  | done dek es t₁ t' rv d' hso hdek hre ht' hwrite =>
    cases hre
    rw [ht']
    rfl

theorem fits_init {soPin label : Bytes} (h : init C env soPin label d = (rv, some t, d'))
    (m : Module P) (slot : Nat) : m.Fits slot t := by
  have hcase := init_cases h
  generalize hres : some t = res at hcase
  cases hcase with
  | refused | notSealed => cases hres
  | written rv d' hwrite =>
    split at hres
    · cases hres
      exact ⟨fun hlog => absurd rfl hlog, owned_of_empty rfl⟩
    · cases hres

theorem Sound.initToken (hm : m.Sound) (env : Envs) (slotId : UInt64) (pin label : Option Bytes) :
    (exec (FreeHsm.initToken C env slotId pin label) m).2.Sound := by
  unfold FreeHsm.initToken
  refine hm.gate (hm.failIf fun _ => ?_)
  cases pin with
  | none => exact hm
  | some pin =>
    refine hm.failIf fun _ => hm.failIf fun _ => ?_
    cases label with
    | none => exact hm
    | some label =>
      dsimp only
      obtain ⟨m₁, hinit, hsound, hbuilt, -⟩ := hm.slotTableInitOnce
      rw [exec_bind, hinit]
      dsimp only
      rw [exec_get_bind]
      refine hsound.failIf fun hfree => ?_
      rw [exec_get_bind]
      split
      · -- the slot has a token: its SO PIN, then a new key and an empty store
        obtain ⟨m₂, t, hslot, hsound₂, -, -⟩ := hsound.slotToken (env 0) slotId.toNat
        rw [exec_bind, hslot]
        cases t with
        | none => exact hsound₂
        | some t =>
          dsimp only
          rw [exec_tokenEnv_bind]
          refine (hsound₂.verifyPin ..).bind fun _ m₃ hsound₃ => ?_
          rw [exec_tokenEnv_bind]
          refine hsound₃.onToken fun t rv t' d' htok hcall => ?_
          have hcase := reinit_cases hcall
          exact hsound₃.fits_of htok (loggedIn_reinit hcase) fun ho => owned_reinit ho hcase
      · -- no session is open on the slot
        have hnone : ∀ i e, m₁.sessions i = some e → e.slot ≠ slotId.toNat := by
          intro i e he heq
          have hrange := hsound.range i e he
          have hsome : m₁.sessionExistsOnSlot slotId.toNat = true := by
            refine any_eq_true.2 ⟨i, mem_range'_1.2 (by omega), ?_⟩
            rw [he]
            exact beq_iff_eq.2 heq
          rw [hfree] at hsome
          cases hsome
        rw [exec_get_bind]
        rw [exec_tokenEnv_bind]
        rcases hnew : init C { env 1 with moduleError := m₁.state == .error } pin
          (trimLabel label) (m₁.disks slotId.toNat) with ⟨rv, t, d'⟩
        cases rv with
        | err e => exact hsound.congr rfl rfl rfl
        | ok =>
          refine hsound.setSlot hbuilt (fun t' ht' => ?_) fun _ => hnone
          rw [show t = some t' from ht'] at hnew
          exact fits_init hnew m₁ _

theorem Sound.initPIN (hm : m.Sound) (env : Envs) (h : UInt64) (pin : Option Bytes) :
    (exec (FreeHsm.initPIN C env h pin) m).2.Sound := by
  unfold FreeHsm.initPIN
  refine hm.gate ?_
  cases pin with
  | none => exact hm
  | some pin =>
    refine hm.failIf fun _ => hm.failIf fun _ => hm.needToken fun x => hm.failIf fun _ => ?_
    rw [exec_tokenEnv_bind]
    refine hm.onToken fun t rv t' d' htok hcall => ?_
    have hcase := initUserPin_cases hcall
    exact hm.fits_of htok (.inl (loggedIn_initUserPin hcase)) fun ho =>
      owned_initUserPin ho hcase

theorem setPIN_state (env : Envs) (h : UInt64) (oldPin newPin : Option Bytes) (m : Module P) :
    (exec (FreeHsm.setPIN C env h oldPin newPin) m).2 = m := by
  cases oldPin with
  | none =>
    unfold FreeHsm.setPIN
    rw [exec_gate_bind]
    split <;> rfl
  | some oldPin =>
    cases newPin with
    | none =>
      unfold FreeHsm.setPIN
      rw [exec_gate_bind]
      split <;> rfl
    | some newPin =>
      cases hfind : m.sessionToken h with
      | some x =>
        obtain ⟨e, he⟩ := exec_setPIN_loggedIn (C := C) env oldPin newPin hfind
        rw [he]
      | none =>
        unfold FreeHsm.setPIN
        simp only [exec_gate_bind, exec_failIf_bind]
        rw [exec_bind, exec_needToken_none _ hfind]
        dsimp only
        repeat' split
        all_goals rfl

/-! ## Every call -/

/-- Every call keeps the tables sound. -/
theorem Sound.call (hm : m.Sound) (c : TableCall P) : (m.call C c).Sound := by
  cases c with
  | openEntry env slotId flags out => exact (hm.openEntry env slotId flags out).1
  | attach i => exact hm.attach i
  | login env h userType pin => exact hm.login env h userType pin
  | logout h => exact hm.logout h
  | close env h => exact hm.close env h
  | closeAll env slotId => exact hm.gate (hm.failIf fun _ => hm.closeFrom env _ _)
  | initToken env slotId pin label => exact hm.initToken env slotId pin label
  | initPIN env h pin => exact hm.initPIN env h pin
  | setPIN env h oldPin newPin =>
    rw [Module.call, setPIN_state]
    exact hm
  | object env h op =>
    simp only [Module.call]
    split
    · exact hm
    rename_i slot t₀ hfind
    split
    · rename_i hmarks
      refine hm.onToken fun t rv t' d' htok hcall => ?_
      refine hm.fits_of htok (.inl (object_loggedIn op hcall)) fun ho =>
        owned_object ho (fun handle owner hop => ?_) hcall
      -- the mark is the handle of the session that called
      subst hop
      obtain rfl : owner = h.toUInt32 := by simpa [ObjectOp.marksOnly] using hmarks
      obtain ⟨e, hsess, hatt, rfl⟩ := (sessionToken_eq_some hfind).2
      rw [(toUInt32_of_session hsess).1]
      exact ⟨e, (session_eq_some hsess).1, hatt, rfl⟩
    · exact hm
  | work ops finds => exact hm.congr rfl rfl rfl
  | finalize => exact ⟨nofun, nofun, nofun, nofun, fun _ => ⟨fun _ => rfl, fun _ => rfl⟩⟩
  | latchError => exact hm.congr rfl rfl rfl

theorem sound_run (disks : Nat → Disk) (calls : List (TableCall P)) :
    (run (call C) (start disks) calls).Sound :=
  run_invariant (C := fun _ _ => True) (fun _ c hm _ => hm.call c) (sound_start disks)
    (along_of_forall (fun _ _ => trivial) _ _)

/-! ## What holds after every history -/

/-- A token is logged in only while a session is attached to it. -/
def LoginNeedsSession (m : Module P) : Prop :=
  ∀ slot t, (m.slots slot).token = some t → t.loggedIn ≠ .none → ∃ h, m.AttachedTo h slot

/-- Closing the last session of a token closes it and logs the token out. -/
def LastCloseLogsOut (C : Crypto) (m : Module P) : Prop :=
  ∀ (env : Envs) (h : UInt64) slot, m.state ≠ .error → m.AttachedTo h.toNat slot →
    (∀ i, m.AttachedTo i slot → i = h.toNat) →
    ∃ m' t, exec (closeSession C env h) m = (.ok (), m') ∧ m'.session h = none ∧
      (m'.slots slot).token = some t ∧ t.loggedIn = .none

/-- A session reports the role of its token, and none before it has one. -/
def ReportsTokenRole (m : Module P) : Prop :=
  ∀ h e, m.session h = some e →
    (e.attached = true → ∃ t, (m.slots e.slot).token = some t ∧ m.sessionRole h = t.loggedIn) ∧
    (e.attached = false → m.sessionRole h = .none)

/-- A handle that `C_OpenSession` returns has an entry, operations and a search of its own, and no
object. -/
def OpensClean (m : Module P) : Prop :=
  ∀ (env : Envs) (slotId flags : UInt64) h m', exec (openSession env slotId flags true) m = (.ok h, m') →
    m'.sessions h = some ⟨slotId.toNat, flags, .none, true⟩ ∧ m'.ops h = .fresh ∧ m'.finds h = {} ∧
      ∀ slot t, (m'.slots slot).token = some t → ∀ o ∈ t.objects.objs,
        o.ownerSession ≠ 0 → o.ownerSession.toNat ≠ h

theorem Sound.lastCloseLogsOut (hm : m.Sound) : LastCloseLogsOut C m := by
  rintro env h slot hstate ⟨e, he, hatt, rfl⟩ hlast
  have hrange := hm.range _ e he
  have hsess : m.session h = some e := by
    have hvalid : ¬ (h = 0 ∨ maxSessions ≤ h.toNat) := by
      rintro (rfl | hbig)
      · exact absurd hrange.1 (by decide)
      · omega
    rw [session, if_neg hvalid, he]
  obtain ⟨t, htok⟩ := hm.exists_token he
  rcases hgone : t.destroySessionObjects C { env 0 with moduleError := m.state == .error }
    h.toUInt32 (m.disks e.slot) with ⟨rv, t', d'⟩
  -- no other session is attached when the entry is gone
  have hothers : (((m.sessionOpsReset h).setToken e.slot (some t') d').setSession h.toNat
      none).anySessionOf e.slot (fun _ => true) = false := by
    refine sessionOpsReset_ind m h fun ops finds => Bool.eq_false_iff.2 fun hany => ?_
    simp only [anySessionOf, any_eq_true, Option.any_eq_true, Bool.and_eq_true, beq_iff_eq] at hany
    obtain ⟨i, -, e', he', ⟨hatt', hslot'⟩, -⟩ := hany
    by_cases hi : i = h.toNat
    · subst hi
      rw [sessions_setSession] at he'
      cases he'
    · rw [sessions_setSession_of_ne _ _ hi] at he'
      exact hi (hlast i ⟨e', he', hatt', hslot'⟩)
  refine ⟨_, t'.logout, exec_closeSession env hstate hsess hatt htok hgone, ?_, ?_, rfl⟩
  · unfold Module.closed session
    dsimp only
    rw [hothers]
    split
    · rfl
    · exact sessions_setSession ..
  · unfold Module.closed
    dsimp only
    rw [hothers]
    exact token_setToken ..

theorem Sound.reportsTokenRole (hm : m.Sound) : ReportsTokenRole m := by
  intro h e hsess
  have he := (session_eq_some hsess).1
  constructor
  · intro hatt
    obtain ⟨t, htok⟩ := hm.exists_token he
    refine ⟨t, htok, ?_⟩
    simp only [sessionRole, hsess, hatt, ↓reduceIte, htok, Option.map_some, Option.getD_some]
  · intro hatt
    simp only [sessionRole, hsess, hatt, Bool.false_eq_true, ↓reduceIte]
    exact hm.role _ e he hatt

theorem Sound.opensClean (hm : m.Sound) : OpensClean m := by
  intro env slotId flags h m' hopen
  rw [openSession_eq, exec_bind_ok] at hopen
  obtain ⟨i, m₁, hentry, hrest⟩ := hopen
  obtain ⟨hsound, hnew⟩ := hm.openEntry env slotId flags true
  obtain ⟨hsess, hops, hfinds⟩ := hnew i m₁ hentry
  rw [hentry] at hsound
  have hattach : exec (sessionAttachToken i) m₁ = (.ok (), m₁.setSession i ((m₁.sessions i).map
    fun e => { e with attached := true })) := rfl
  rw [exec_bind, hattach] at hrest
  cases hrest
  have hi : m₁.sessions h = some ⟨slotId.toNat, flags, .none, false⟩ := by rw [hsess, update_self]
  refine ⟨by rw [sessions_setSession, hi]; rfl, hops, hfinds, ?_⟩
  intro slot t htok o ho howner heq
  -- an object of the handle would have a session that was attached before
  obtain ⟨e, he, hatt, -⟩ := (hsound.fits slot t htok).owned o ho howner
  rw [heq, hi] at he
  cases he
  cases hatt

end Module

/-- After every history: a token is logged in only while a session is attached to it, closing the
last one logs it out, every session reports the role of its token, and a handle that comes back
carries nothing of the session that had it before. -/
theorem sessions_sound (C : Crypto) (disks : Nat → Disk) (calls : List (TableCall P)) :
    let m := run (call C) (start disks) calls
    m.LoginNeedsSession ∧ m.LastCloseLogsOut C ∧ m.ReportsTokenRole ∧ m.OpensClean := by
  intro m
  have hm : m.Sound := sound_run disks calls
  exact ⟨fun slot t htok hlog => (hm.fits slot t htok).login hlog, hm.lastCloseLogsOut,
    hm.reportsTokenRole, hm.opensClean⟩

end FreeHsm
