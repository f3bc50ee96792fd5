import FreeHsm.Pkcs11.Creation
import FreeHsm.Pkcs11.OpHistory
import FreeHsm.Token.Outcome

/-!
# The module

The process-wide state of `fhsm_pkcs11.c` and its neighbours: the module state
(`fhsm_state.c`), the session table (`fhsm_session.c`), the slot table with the
tokens, and the per-session arrays of operations and searches. On top of it are
the entry points that open and close sessions, log in and out, and set up tokens
and PINs.

An entry point runs in `ModM`: the module is the state, and an error return keeps
the changes made before it. The token of a session is the token of its slot, so a
`fhsm_token_t *` in a session entry is the flag `attached` and the slot number.
-/

namespace FreeHsm

open StateExcept

/-! ## Module state -/

/-- `fhsm_module_state_t`. -/
inductive ModState
  | powerOff
  | initializing
  | initialized
  | authenticated
  | error
  deriving DecidableEq, Repr

namespace ModState

/-- `g_valid_transitions`. -/
def validTransitions : List (ModState × ModState) :=
  [ (powerOff, initializing), (initializing, initialized), (initialized, authenticated),
    (authenticated, initialized),
    (initialized, powerOff),
    (authenticated, powerOff) ]

/-- `fhsm_state_set`. -/
def set (s s' : ModState) : Rv × ModState :=
  if s = error then (.err .functionFailed, s)
  else if validTransitions.contains (s, s') then (.ok, s')
  else (.err .functionFailed, s)

end ModState

/-! ## Tables -/

/-- `FHSM_MAX_SLOTS`. -/
def maxSlots : Nat := 4

/-- `FHSM_PIN_MIN_LEN` and `FHSM_PIN_MAX_LEN`. -/
def pinMinLen : Nat := 4
def pinMaxLen : Nat := 64

/-- `CKF_SERIAL_SESSION`. -/
def ckfSerialSession : UInt64 := 0x4

/-- An entry of `g_sessions` that is in use. -/
structure Session where
  slot : Nat
  flags : UInt64
  /-- The entry's own role, which is read only while no token is attached. -/
  role : Role
  attached : Bool

/-- An entry of `g_slots`. -/
structure SlotEntry where
  present : Bool := false
  token : Option Token := none

/-- `fhsm_find_state_t`; `count` is the length of `handles`. -/
structure FindState where
  active : Bool := false
  handles : List UInt32 := []
  next : Nat := 0
  deriving DecidableEq

/-- The process-wide state. -/
structure Module (P : Provider) where
  state : ModState
  /-- `g_slots_once` has fired. -/
  tableBuilt : Bool
  slots : Nat → SlotEntry
  disks : Nat → Disk
  sessions : Nat → Option Session
  ops : Nat → SessionOps P
  finds : Nat → FindState

/-- `m` with another value at `i`. -/
def update {α : Type} (f : Nat → α) (i : Nat) (a : α) : Nat → α :=
  fun j => if j = i then a else f j

@[simp] theorem update_self {α : Type} (f : Nat → α) (i : Nat) (a : α) : update f i a i = a :=
  if_pos rfl

theorem update_of_ne {α : Type} (f : Nat → α) {i j : Nat} (a : α) (h : j ≠ i) :
    update f i a j = f j := if_neg h

namespace Module

variable {P : Provider}

/-- A process in which nothing was called, over the given token files. -/
def start (disks : Nat → Disk) : Module P where
  state := .powerOff
  tableBuilt := false
  slots _ := {}
  disks := disks
  sessions _ := none
  ops _ := .fresh
  finds _ := {}

variable (m : Module P) (h : UInt64) (slot : Nat)

/-- The entry of a session handle. -/
def session : Option Session :=
  if h = 0 ∨ maxSessions ≤ h.toNat then none else m.sessions h.toNat

/-- `fhsm_session_token`, with the slot it belongs to. -/
def sessionToken : Option (Nat × Token) :=
  match m.session h with
  | none => none
  | some e => if e.attached then (m.slots e.slot).token.map fun t => (e.slot, t) else none

/-- `fhsm_session_role`. -/
def sessionRole : Role :=
  match m.session h with
  | none => .none
  | some e =>
    if e.attached then ((m.slots e.slot).token.map Token.loggedIn).getD .none else e.role

/-- `fhsm_session_exists_on_slot`. -/
def sessionExistsOnSlot : Bool :=
  (List.range' 1 (maxSessions - 1)).any fun i => (m.sessions i).any (·.slot == slot)

/-- Some session has the token of a slot attached and satisfies `p`. -/
def anySessionOf (p : Session → Bool) : Bool :=
  (List.range' 1 (maxSessions - 1)).any fun i =>
    (m.sessions i).any fun e => e.attached && e.slot == slot && p e

/-- `fhsm_session_ro_exists`. -/
def sessionRoExists : Bool :=
  m.anySessionOf slot fun e => e.flags &&& ckfRwSession == 0

def setToken (t : Option Token) (d : Disk) : Module P :=
  { m with
    slots := update m.slots slot { m.slots slot with token := t }
    disks := update m.disks slot d }

def setSession (h : Nat) (e : Option Session) : Module P :=
  { m with sessions := update m.sessions h e }

/-- `fhsm_session_ops_reset`. -/
def sessionOpsReset : Module P :=
  if h = 0 ∨ maxSessions ≤ h.toNat then m
  else { m with ops := update m.ops h.toNat .fresh, finds := update m.finds h.toNat {} }

end Module

/-! ## Code -/

/-- Code of an entry point. -/
abbrev ModM (P : Provider) := ExceptT Err (StateM (Module P))

namespace ModM

variable {P : Provider}

/-- `if (fhsm_state_get() == FHSM_STATE_ERROR) return FHSM_RV_FUNCTION_FAILED;` -/
def gate : ModM P Unit := do
  failIf ((← get).state == .error) .functionFailed

/-- `fhsm_slot_table_init_once`: a slot is present when its file is there. -/
def slotTableInitOnce : ModM P Unit :=
  modify fun m =>
    if m.tableBuilt then m
    else { m with
      tableBuilt := true
      slots := fun i => if i < maxSlots then ⟨(m.disks i).file.isSome, none⟩ else m.slots i }

/-- A token function sees the module in its error state or not. -/
def tokenEnv (env : Env) : ModM P Env := do
  return { env with moduleError := (← get).state == .error }

/-- `fhsm_slot_token`: the token is loaded when it is first asked for. -/
def slotToken (env : Env) (slot : Nat) : ModM P (Option Token) := do
  if maxSlots ≤ slot then return none
  slotTableInitOnce
  let m ← get
  if !(m.slots slot).present then return none
  match (m.slots slot).token with
  | some t => return some t
  | none =>
    let (_, t) := Token.load (← tokenEnv env) (m.disks slot)
    set (m.setToken slot t (m.disks slot))
    return t

/-- One call of a token function on the token of a slot. -/
def onToken (slot : Nat) (f : Token → Disk → Rv × Token × Disk) : ModM P Unit := do
  let m ← get
  match (m.slots slot).token with
  | none => throw .argumentsBad
  | some t =>
    let (rv, t, d) := f t (m.disks slot)
    set (m.setToken slot (some t) d)
    match rv with
    | .ok => return ()
    | .err e => throw e

/-- The token of a session, or the error a null one gives. -/
def needToken (h : UInt64) (e : Err) : ModM P (Nat × Token) := do
  match (← get).sessionToken h with
  | none => throw e
  | some t => return t

end ModM

open ModM

variable {P : Provider} (C : Crypto)

/-! ## Sessions -/

/-- `fhsm_session_open`: the first free entry. -/
def sessionOpen (slot : Nat) (flags : UInt64) : ModM P Nat := do
  let m ← get
  match (List.range' 1 (maxSessions - 1)).find? fun i => (m.sessions i).isNone with
  | none => throw .hostMemory
  | some i =>
    set (m.setSession i (some ⟨slot, flags, .none, false⟩))
    return i

/-- `fhsm_session_attach_token` on the entry just opened. -/
def sessionAttachToken (h : Nat) : ModM P Unit :=
  modify fun m => m.setSession h ((m.sessions h).map fun e => { e with attached := true })

variable (env : Envs) (h : UInt64)

/-- `C_OpenSession`; `out` says that `phSession` is not null. -/
def openSession (slotId : UInt64) (flags : UInt64) (out : Bool) : ModM P Nat := do
  gate
  failIf (!out) .argumentsBad
  failIf (maxSlots ≤ slotId.toNat) .slotIdInvalid
  failIf (flags &&& ckfSerialSession == 0) .sessionParallelNotSupported
  match ← slotToken (env 0) slotId.toNat with
  | none => throw .tokenNotPresent
  | some t =>
    failIf (flags &&& ckfRwSession == 0 && t.loggedIn == .so) .sessionReadWriteSoExists
    let h ← sessionOpen slotId.toNat flags
    modify fun m => m.sessionOpsReset (UInt64.ofNat h)
    sessionAttachToken h
    return h

/-- `fhsm_session_close`: the last session of a token logs it out. -/
def sessionClose : ModM P Unit := do
  let m ← get
  match m.session h with
  | none => throw .sessionHandleInvalid
  | some e =>
    let m' := m.setSession h.toNat none
    set (if e.attached && !m'.anySessionOf e.slot (fun _ => true) then
        m'.setToken e.slot ((m.slots e.slot).token.map Token.logout) (m.disks e.slot)
      else m')

/-- `C_CloseSession`. -/
def closeSession : ModM P Unit := do
  gate
  modify fun m => m.sessionOpsReset h
  match (← get).sessionToken h with
  | some (slot, _) =>
    let tenv ← tokenEnv (env 0)
    tryCatch (onToken slot fun t => t.destroySessionObjects C tenv h.toUInt32) fun _ => pure ()
  | none => pure ()
  sessionClose h

/-- The loop of `C_CloseAllSessions`, from handle `h` on. -/
def closeSessionsFrom (env : Envs) : (n : Nat) → (h : Nat) → ModM P Unit
  | 0, _ => pure ()
  | n + 1, h => do
    if ((← get).sessionToken (UInt64.ofNat h)).isSome then
      tryCatch (closeSession C (env.after h) (UInt64.ofNat h)) fun _ => pure ()
    closeSessionsFrom env n (h + 1)

/-- `C_CloseAllSessions`: whatever the slot of a session is. -/
def closeAllSessions (slotId : UInt64) : ModM P Unit := do
  gate
  failIf (slotId != 0) .slotIdInvalid
  closeSessionsFrom C env (maxSessions - 1) 1

/-! ## Logging in -/

/-- `fhsm_session_login`; a null PIN is refused by `fhsm_token_login`. -/
def sessionLogin (role : Role) (pin : Option Bytes) : ModM P Unit := do
  let m ← get
  match m.session h with
  | none => throw .sessionHandleInvalid
  | some e =>
    failIf (!e.attached) .tokenNotPresent
    failIf (role == .so && m.sessionRoExists e.slot) .sessionReadOnlyExists
    match pin with
    | none => throw .argumentsBad
    | some pin =>
      let tenv ← tokenEnv (env 0)
      let entered : ModM P Unit :=
        modify fun m => m.setSession h.toNat ((m.sessions h.toNat).map fun e => { e with role := role })
      tryCatch (onToken e.slot fun t => t.login C tenv role pin) fun err => do
        if err = .userAlreadyLoggedIn then entered
        throw err
      entered

/-- `fhsm_session_has_active_op`, for a handle in range. -/
def SessionOps.anyActive (s : SessionOps P) : Bool :=
  [Table.enc, .dec, .sig, .ver].any (fun t => (s.keyed t).live.active) || s.dig.active

/-- `C_Login` with `CKU_CONTEXT_SPECIFIC`. -/
def loginContextSpecific (pin : Option Bytes) : ModM P Unit := do
  failIf (h == 0 || maxSessions ≤ h.toNat) .sessionHandleInvalid
  failIf (!((← get).ops h.toNat).anyActive) .operationNotInitialized
  let (slot, t) ← needToken h .sessionHandleInvalid
  failIf (t.loggedIn != .user) .userNotLoggedIn
  match pin with
  | none => throw .argumentsBad
  | some pin =>
    let tenv ← tokenEnv (env 0)
    onToken slot fun t => t.verifyPin C tenv .user pin
    modify fun m => { m with ops := update m.ops h.toNat ((m.ops h.toNat).call .grant).2 }

/-- The role of a `CK_USER_TYPE`. -/
def roleOfUserType (userType : UInt64) : Role :=
  if userType = 0 then .so else if userType = 1 then .user else .none

/-- `C_Login`. -/
def login (userType : UInt64) (pin : Option Bytes) : ModM P Unit := do
  gate
  if userType = 2 then loginContextSpecific C env h pin
  else
    failIf (roleOfUserType userType == .none) .argumentsBad
    sessionLogin C env h (roleOfUserType userType) pin

/-- `C_Logout`. -/
def logout : ModM P Unit := do
  gate
  let m ← get
  match m.session h with
  | none => throw .sessionHandleInvalid
  | some e =>
    let cleared := m.setSession h.toNat (some { e with role := .none })
    if m.sessionRole h = .none ∨ !e.attached then
      set cleared
      throw .userNotLoggedIn
    else
      set (cleared.setToken e.slot ((m.slots e.slot).token.map Token.logout) (m.disks e.slot))

/-! ## Tokens and PINs -/

/-- The checks of `C_InitToken`, `C_InitPIN` and `C_SetPIN` on a PIN: its length, and no NUL. -/
def pinLenOk (pin : Bytes) : Bool := pinMinLen ≤ pin.length && pin.length ≤ pinMaxLen

def pinHasNul (pin : Bytes) : Bool := pin.contains 0

/-- The label of `C_InitToken`: 32 bytes without the blanks at the end. -/
def trimLabel (label : Bytes) : Bytes := ((label.take 32).reverse.dropWhile (· == 0x20)).reverse

/-- `C_InitToken`. -/
def initToken (slotId : UInt64) (pin label : Option Bytes) : ModM P Unit := do
  gate
  failIf (maxSlots ≤ slotId.toNat) .slotIdInvalid
  match pin with
  | none => throw .argumentsBad
  | some pin =>
    failIf (!pinLenOk pin) .pinLenRange
    failIf (pinHasNul pin) .pinInvalid
    match label with
    | none => throw .argumentsBad
    | some label =>
      slotTableInitOnce
      let slot := slotId.toNat
      failIf ((← get).sessionExistsOnSlot slot) .sessionExists
      if ((← get).slots slot).present then
        match ← slotToken (env 0) slot with
        | none => throw .functionFailed
        | some _ =>
          let tenv ← tokenEnv (env 1)
          onToken slot fun t => t.verifyPin C tenv .so pin
          let tenv ← tokenEnv (env 2)
          onToken slot fun t => t.reinit C tenv pin (trimLabel label)
      else
        let m ← get
        let (rv, t, d) := Token.init C (← tokenEnv (env 1)) pin (trimLabel label) (m.disks slot)
        match rv with
        | .ok =>
          set { m with
            slots := update m.slots slot ⟨true, t⟩
            disks := update m.disks slot d }
        | .err e =>
          set { m with disks := update m.disks slot d }
          throw e

/-- `C_InitPIN`. -/
def initPIN (pin : Option Bytes) : ModM P Unit := do
  gate
  match pin with
  | none => throw .argumentsBad
  | some pin =>
    failIf (!pinLenOk pin) .pinLenRange
    failIf (pinHasNul pin) .pinInvalid
    let (slot, t) ← needToken h .sessionHandleInvalid
    failIf (t.loggedIn != .so) .userNotLoggedIn
    let tenv ← tokenEnv (env 0)
    onToken slot fun t => t.initUserPin C tenv pin

/-- `C_SetPIN`. -/
def setPIN (oldPin newPin : Option Bytes) : ModM P Unit := do
  gate
  match oldPin, newPin with
  | some oldPin, some newPin =>
    failIf (!pinLenOk oldPin || !pinLenOk newPin) .pinLenRange
    failIf (pinHasNul oldPin || pinHasNul newPin) .pinInvalid
    let (slot, t) ← needToken h .sessionHandleInvalid
    failIf (t.loggedIn == .none) .userNotLoggedIn
    let loginEnv ← tokenEnv (env 0)
    let tenv ← tokenEnv (env 1)
    onToken slot fun t => t.setPin C loginEnv tenv t.loggedIn oldPin newPin
  | _, _ => throw .argumentsBad

/-! ## Running the parts -/

namespace Module

variable {m : Module P} {slot : Nat}

/-- Writing back the token and the disk that are there changes nothing. -/
theorem setToken_self {t : Option Token} (h : (m.slots slot).token = t) :
    m.setToken slot t (m.disks slot) = m := by
  have hslots : update m.slots slot { m.slots slot with token := t } = m.slots := by
    funext i
    unfold update
    split
    · rename_i hi
      rw [← h, hi]
    · rfl
  have hdisks : update m.disks slot (m.disks slot) = m.disks := by
    funext i
    unfold update
    split
    · rename_i hi
      rw [hi]
    · rfl
  rw [setToken, hslots, hdisks]

section

variable (m) (slot) (t : Option Token) (d : Disk)

theorem slots_setToken : (m.setToken slot t d).slots slot = ⟨(m.slots slot).present, t⟩ :=
  update_self ..

@[simp] theorem token_setToken : ((m.setToken slot t d).slots slot).token = t := by
  rw [slots_setToken]

@[simp] theorem disks_setToken : (m.setToken slot t d).disks slot = d := update_self ..

@[simp] theorem sessions_setToken : (m.setToken slot t d).sessions = m.sessions := rfl

end

theorem slots_setToken_of_ne (m : Module P) {i : Nat} (t : Option Token) (d : Disk) (h : i ≠ slot) :
    (m.setToken slot t d).slots i = m.slots i := update_of_ne _ _ h

@[simp] theorem slots_setSession (m : Module P) (h : Nat) (e : Option Session) :
    (m.setSession h e).slots = m.slots := rfl

@[simp] theorem sessions_setSession (m : Module P) (h : Nat) (e : Option Session) :
    (m.setSession h e).sessions h = e := update_self ..

theorem sessions_setSession_of_ne (m : Module P) {h i : Nat} (e : Option Session) (hne : i ≠ h) :
    (m.setSession h e).sessions i = m.sessions i := update_of_ne _ _ hne

/-- The token of a session is the token of the slot its entry names. -/
theorem sessionToken_eq_some {h : UInt64} {t : Token} (htok : m.sessionToken h = some (slot, t)) :
    (m.slots slot).token = some t ∧ ∃ e, m.session h = some e ∧ e.attached = true ∧ e.slot = slot := by
  unfold sessionToken at htok
  split at htok
  · cases htok
  rename_i e he
  split at htok
  · rename_i hatt
    rw [Option.map_eq_some_iff] at htok
    obtain ⟨t', ht', heq⟩ := htok
    cases heq
    exact ⟨ht', e, he, hatt, rfl⟩
  · cases htok

theorem sessionToken_slot {h : UInt64} {t : Token} (htok : m.sessionToken h = some (slot, t)) :
    (m.slots slot).token = some t :=
  (sessionToken_eq_some htok).1

end Module

theorem exec_gate_bind {α : Type} (f : Unit → ModM P α) (m : Module P) :
    exec (gate >>= f) m = if m.state = .error then (.error .functionFailed, m) else exec (f ()) m := by
  have hgate : exec gate m = exec (failIf (m.state == .error) .functionFailed) m := rfl
  rw [exec_bind, hgate, exec_failIf]
  cases m.state <;> rfl

theorem exec_tokenEnv (env : Env) (m : Module P) :
    exec (tokenEnv env) m = (.ok { env with moduleError := m.state == .error }, m) := rfl

theorem exec_tokenEnv_bind {α : Type} (env : Env) (f : Env → ModM P α) (m : Module P) :
    exec (tokenEnv env >>= f) m = exec (f { env with moduleError := m.state == .error }) m := rfl

variable {m : Module P} {slot : Nat} {f : Token → Disk → Rv × Token × Disk}

theorem exec_needToken {h : UInt64} {x : Nat × Token} (e : Err) (htok : m.sessionToken h = some x) :
    exec (needToken h e) m = (.ok x, m) := by
  unfold needToken
  rw [exec_bind, exec_get]
  simp only [htok, exec_pure]

theorem exec_needToken_none {h : UInt64} (e : Err) (htok : m.sessionToken h = none) :
    exec (needToken h e) m = (.error e, m) := by
  unfold needToken
  rw [exec_bind, exec_get]
  simp only [htok, exec_throw]

/-- A call of a token function leaves what the function leaves, whatever it returns. -/
theorem exec_onToken {t t' : Token} {rv : Rv} {d : Disk} (htok : (m.slots slot).token = some t)
    (hf : f t (m.disks slot) = (rv, t', d)) :
    exec (onToken slot f) m =
      (match rv with | .ok => .ok () | .err e => .error e, m.setToken slot (some t') d) := by
  unfold onToken
  rw [exec_bind, exec_get]
  simp only [htok, hf]
  cases rv <;> rfl

theorem exec_onToken_none (htok : (m.slots slot).token = none) :
    exec (onToken slot f) m = (.error .argumentsBad, m) := by
  unfold onToken
  rw [exec_bind, exec_get]
  simp only [htok, exec_throw]

end FreeHsm
