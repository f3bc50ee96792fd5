import FreeHsm.Pkcs11.CloseAll

/-!
# Read-only sessions and the SO

While the SO is logged in no session of the token may be read-only. `C_OpenSession` tests
for an SO login and then fills the entry and attaches the token; `C_Login` tests for
read-only sessions and then logs in. Both run under the shared API lock, so the steps of
one may fall between the steps of the other. Here any number of threads take them in any
order; `C_Logout` and read-write sessions come in whole, and `C_CloseSession`, which takes
the exclusive lock, when no call is under way.
-/

namespace FreeHsm

open StateExcept ModM Transition FreeHsm.Module

variable {P : Provider} {C : Crypto} {n : Nat}

/-! ## The steps -/

/-- `C_Login` as SO up to its test for read-only sessions; it goes on with the slot. -/
def soLoginTest (h : UInt64) : ModM P Nat := do
  gate
  let m ← get
  match m.session h with
  | none => throw .sessionHandleInvalid
  | some e =>
    failIf (!e.attached) .tokenNotPresent
    failIf (m.sessionRoExists e.slot) .sessionReadOnlyExists
    return e.slot

theorem login_so_eq (env : Envs) (h : UInt64) (pin : Option Bytes) :
    (login C env h 0 pin : ModM P Unit) =
      soLoginTest h >>= fun slot => loginOn C env h slot .so pin := by
  have hrole : roleOfUserType 0 = .so := rfl
  have hcheck : (failIf (Role.so == .none) .argumentsBad : ModM P Unit) = pure () := rfl
  unfold login soLoginTest
  rw [if_neg (by decide), hrole, hcheck, pure_bind, sessionLogin_eq]
  simp only [bind_assoc]
  congr
  funext _
  congr
  funext m
  cases m.session h with
  | none => rfl
  | some e =>
    simp only [bind_assoc, pure_bind]
    rfl

/-- Where a thread is. -/
inductive Phase
  | idle
  /-- In a read-only `C_OpenSession`, after its test. -/
  | tested (slot : Nat) (flags : UInt64)
  /-- In a read-only `C_OpenSession`, with its entry. -/
  | entered (slot h : Nat)
  /-- In a `C_Login` as SO, after its test. -/
  | checked (h : UInt64) (slot : Nat) (pin : Option Bytes)
  deriving DecidableEq

/-- The thread is opening a read-only session on a slot. -/
def Phase.opensOn (slot : Nat) : Phase → Bool
  | .tested s _ | .entered s _ => s == slot
  | _ => false

/-- The thread is logging the SO in on a slot. -/
def Phase.logsInOn (slot : Nat) : Phase → Bool
  | .checked _ s _ => s == slot
  | _ => false

/-- The module and its threads. -/
structure Threads (P : Provider) (n : Nat) where
  mod : Module P
  phase : Fin n → Phase

/-- A step of a thread, or a whole call. -/
inductive ThreadStep (n : Nat)
  | openTest (i : Fin n) (env : Envs) (slotId flags : UInt64)
  | openFill (i : Fin n)
  | attach (i : Fin n)
  | loginTest (i : Fin n) (h : UInt64) (pin : Option Bytes)
  | loginToken (i : Fin n) (env : Envs)
  | openReadWrite (env : Envs) (slotId flags : UInt64)
  | logout (h : UInt64)
  | close (env : Envs) (h : UInt64)

namespace Threads

variable (w : Threads P n) (i : Fin n)

def goto (i : Fin n) (p : Phase) (m : Module P) : Threads P n :=
  ⟨m, fun j => if j = i then p else w.phase j⟩

/-- The state after a step. -/
def step (C : Crypto) (w : Threads P n) : ThreadStep n → Threads P n
  | .openTest i env slotId flags =>
    if w.phase i = .idle ∧ flags &&& ckfRwSession = 0 then
      match exec (FreeHsm.openTest env slotId flags true) w.mod with
      | (.ok (), m) => w.goto i (.tested slotId.toNat flags) m
      | (.error _, m) => w.goto i .idle m
    else w
  | .openFill i =>
    match w.phase i with
    | .tested slot flags =>
      match exec (FreeHsm.openFill slot flags) w.mod with
      | (.ok h, m) => w.goto i (.entered slot h) m
      | (.error _, m) => w.goto i .idle m
    | _ => w
  | .attach i =>
    match w.phase i with
    | .entered _ h => w.goto i .idle (exec (sessionAttachToken h) w.mod).2
    | _ => w
  | .loginTest i h pin =>
    if w.phase i = .idle then
      match exec (soLoginTest h) w.mod with
      | (.ok slot, m) => w.goto i (.checked h slot pin) m
      | (.error _, m) => w.goto i .idle m
    else w
  | .loginToken i env =>
    match w.phase i with
    | .checked h slot pin => w.goto i .idle (exec (loginOn C env h slot .so pin) w.mod).2
    | _ => w
  | .openReadWrite env slotId flags =>
    if flags &&& ckfRwSession = 0 then w
    else { w with mod := (exec (openSession env slotId flags true) w.mod).2 }
  | .logout h => { w with mod := (exec (FreeHsm.logout h) w.mod).2 }
  | .close env h =>
    if ∀ i, w.phase i = .idle then { w with mod := (exec (closeSession C env h) w.mod).2 } else w

@[simp] theorem mod_goto (p : Phase) (m : Module P) : (w.goto i p m).mod = m := rfl

@[simp] theorem phase_goto (p : Phase) (m : Module P) : (w.goto i p m).phase i = p := if_pos rfl

theorem phase_goto_of_ne {i j : Fin n} (p : Phase) (m : Module P) (h : j ≠ i) :
    (w.goto i p m).phase j = w.phase j := if_neg h

theorem run_openSession (env : Envs) (slotId flags : UInt64) (hidle : w.phase i = .idle)
    (hro : flags &&& ckfRwSession = 0) :
    (run (step C) w [.openTest i env slotId flags, .openFill i, .attach i]).mod =
      (exec (openSession env slotId flags true) w.mod).2 := by
  rw [openSession_eq]
  unfold openEntry
  simp only [run_cons, run_nil]
  rw [exec_bind, exec_bind]
  simp only [step, hidle, hro, and_self, ↓reduceIte]
  rcases exec (FreeHsm.openTest env slotId flags true) w.mod with ⟨_ | _, m₁⟩
  · simp
  · simp only [phase_goto, mod_goto]
    rcases exec (FreeHsm.openFill slotId.toNat flags) m₁ with ⟨_ | h, m₂⟩
    · simp
    · simp only [phase_goto, mod_goto]
      rw [exec_bind]
      rfl

theorem run_login (env : Envs) (h : UInt64) (pin : Option Bytes) (hidle : w.phase i = .idle) :
    (run (step C) w [.loginTest i h pin, .loginToken i env]).mod =
      (exec (login C env h 0 pin) w.mod).2 := by
  rw [login_so_eq]
  simp only [run_cons, run_nil]
  rw [exec_bind]
  simp only [step, hidle, ↓reduceIte]
  rcases exec (soLoginTest h) w.mod with ⟨_ | slot, m₁⟩
  · simp
  · simp only [phase_goto, mod_goto]

end Threads

/-! ## What a step does to the module -/

namespace Module

/-- The SO is logged in on the token of a slot. -/
def SoOn (m : Module P) (slot : Nat) : Prop :=
  ∃ t, (m.slots slot).token = some t ∧ t.loggedIn = .so

/-- A read-only session is open on the token of a slot. -/
def RoOn (m : Module P) (slot : Nat) : Prop :=
  ∃ i e, m.sessions i = some e ∧ e.attached = true ∧ e.slot = slot ∧ e.flags &&& ckfRwSession = 0

/-- Tokens and entries stay; an entry keeps its slot and its token. -/
structure Keeps (m m' : Module P) : Prop where
  token : ∀ slot t, (m.slots slot).token = some t → ∃ t', (m'.slots slot).token = some t'
  entry : ∀ i e, m.sessions i = some e → ∃ e', m'.sessions i = some e' ∧ e'.slot = e.slot ∧
    (e.attached = true → e'.attached = true)

/-- The SO is logged in nowhere anew, and no read-only session is new. -/
structure Calm (m m' : Module P) : Prop where
  so : ∀ slot, m'.SoOn slot → m.SoOn slot
  ro : ∀ slot, m'.RoOn slot → m.RoOn slot

variable {m m' : Module P} {i slot : Nat} {e : Session}

theorem Keeps.refl (m : Module P) : m.Keeps m where
  token _ t ht := ⟨t, ht⟩
  entry _ e he := ⟨e, he, rfl, id⟩

theorem Calm.refl (m : Module P) : m.Calm m := ⟨fun _ h => h, fun _ h => h⟩

theorem Keeps.trans {m₂ : Module P} (h : m.Keeps m') (h' : m'.Keeps m₂) : m.Keeps m₂ where
  token slot t ht := by
    obtain ⟨t', ht'⟩ := h.token slot t ht
    exact h'.token slot t' ht'
  entry i e he := by
    obtain ⟨e', he', hslot, hatt⟩ := h.entry i e he
    obtain ⟨e₂, he₂, hslot₂, hatt₂⟩ := h'.entry i e' he'
    exact ⟨e₂, he₂, hslot₂.trans hslot, fun ha => hatt₂ (hatt ha)⟩

theorem Calm.trans {m₂ : Module P} (h : m.Calm m') (h' : m'.Calm m₂) : m.Calm m₂ :=
  ⟨fun slot hs => h.so slot (h'.so slot hs), fun slot hs => h.ro slot (h'.ro slot hs)⟩

theorem Loads.keeps (h : m.Loads m') : m.Keeps m' where
  token slot t ht := ⟨t, h.kept slot t ht⟩
  entry i e he := ⟨e, by rw [h.sessions, he], rfl, id⟩

theorem Loads.calm (h : m.Loads m') : m.Calm m' where
  so := by
    rintro slot ⟨t, ht, hso⟩
    rcases h.fresh slot t ht with hold | hnone
    · exact ⟨t, hold, hso⟩
    · rw [hso] at hnone
      cases hnone
  ro := by
    rintro slot ⟨i, e, he, hrest⟩
    rw [h.sessions] at he
    exact ⟨i, e, he, hrest⟩

theorem keeps_calm_fill {flags : UInt64} (hslots : m'.slots = m.slots) (hfree : m.sessions i = none)
    (hsess : m'.sessions = update m.sessions i (some ⟨slot, flags, .none, false⟩)) :
    m.Keeps m' ∧ m.Calm m' := by
  refine ⟨⟨fun s t ht => ⟨t, by rw [hslots, ht]⟩, fun j e he => ?_⟩, ⟨fun s => ?_, fun s => ?_⟩⟩
  · have hne : j ≠ i := by
      rintro rfl
      rw [hfree] at he
      cases he
    exact ⟨e, by rw [hsess, update_of_ne _ _ hne, he], rfl, id⟩
  · rintro ⟨t, ht, hso⟩
    rw [hslots] at ht
    exact ⟨t, ht, hso⟩
  · rintro ⟨j, e, he, hatt, hrest⟩
    rw [hsess] at he
    by_cases hj : j = i
    · rw [hj, update_self] at he
      cases he
      cases hatt
    · rw [update_of_ne _ _ hj] at he
      exact ⟨j, e, he, hatt, hrest⟩

theorem keeps_setSession {e' : Session} (he : m.sessions i = some e) (hslot : e'.slot = e.slot)
    (hatt : e.attached = true → e'.attached = true) : m.Keeps (m.setSession i (some e')) where
  token _ t ht := ⟨t, ht⟩
  entry j x hx := by
    by_cases hj : j = i
    · subst hj
      rw [he] at hx
      cases hx
      exact ⟨e', sessions_setSession .., hslot, hatt⟩
    · exact ⟨x, (sessions_setSession_of_ne m _ hj).trans hx, rfl, id⟩

theorem roOn_setSession {e' : Session} (h : (m.setSession i (some e')).RoOn slot) :
    m.RoOn slot ∨ (e'.attached = true ∧ e'.slot = slot ∧ e'.flags &&& ckfRwSession = 0) := by
  obtain ⟨j, x, hx, hrest⟩ := h
  by_cases hj : j = i
  · subst hj
    rw [sessions_setSession] at hx
    cases hx
    exact .inr hrest
  · rw [sessions_setSession_of_ne _ _ hj] at hx
    exact .inl ⟨j, x, hx, hrest⟩

theorem keeps_setToken (m : Module P) (slot : Nat) (t : Token) (d : Disk) :
    m.Keeps (m.setToken slot (some t) d) where
  token s t' ht' := by
    by_cases hs : s = slot
    · subst hs
      exact ⟨t, token_setToken ..⟩
    · exact ⟨t', by rw [slots_setToken_of_ne _ _ _ hs, ht']⟩
  entry _ e he := ⟨e, he, rfl, id⟩

theorem soOn_setToken {s : Nat} {t : Token} {d : Disk} (h : (m.setToken slot (some t) d).SoOn s) :
    m.SoOn s ∨ (s = slot ∧ t.loggedIn = .so) := by
  obtain ⟨t', ht', hso⟩ := h
  by_cases hs : s = slot
  · subst hs
    rw [token_setToken] at ht'
    cases ht'
    exact .inr ⟨rfl, hso⟩
  · rw [slots_setToken_of_ne _ _ _ hs] at ht'
    exact .inl ⟨t', ht', hso⟩

theorem calm_setToken {t t' : Token} {d : Disk} (htok : (m.slots slot).token = some t)
    (hrole : t'.loggedIn = .so → t.loggedIn = .so) : m.Calm (m.setToken slot (some t') d) where
  so s hs := by
    rcases soOn_setToken hs with hold | ⟨rfl, hso⟩
    · exact hold
    · exact ⟨t, htok, hrole hso⟩
  ro _ hs := hs

theorem calm_clearSession (m : Module P) (i : Nat) : m.Calm (m.setSession i none) where
  so _ h := h
  ro slot h := by
    obtain ⟨j, x, hx, hrest⟩ := h
    by_cases hj : j = i
    · subst hj
      rw [sessions_setSession] at hx
      cases hx
    · rw [sessions_setSession_of_ne _ _ hj] at hx
      exact ⟨j, x, hx, hrest⟩

theorem attach_eq (he : m.sessions i = some e) :
    (exec (sessionAttachToken i) m).2 = m.setSession i (some { e with attached := true }) := by
  show m.setSession i ((m.sessions i).map _) = _
  rw [he]
  rfl

theorem Sound.openReadWrite (hm : m.Sound) (env : Envs) (slotId flags : UInt64)
    (hrw : flags &&& ckfRwSession ≠ 0) :
    (exec (openSession env slotId flags true) m).2.Sound ∧
      m.Keeps (exec (openSession env slotId flags true) m).2 ∧
      m.Calm (exec (openSession env slotId flags true) m).2 := by
  rw [openSession_eq]
  unfold FreeHsm.openEntry
  rw [exec_bind, exec_bind]
  obtain ⟨hsound, hloads, hpass⟩ := hm.openTest env slotId flags true
  rcases hrun : exec (FreeHsm.openTest env slotId flags true) m with ⟨_ | _, m₁⟩
  all_goals rw [hrun] at hsound hloads
  · exact ⟨hsound, hloads.keeps, hloads.calm⟩
  · obtain ⟨t, htok, -⟩ := hpass m₁ hrun
    rcases hsound.openFill flags htok with hfull | ⟨i, m₂, hfill, hnext, hslots, hfree, hsess, -, -⟩
    · simp only [hfull]
      exact ⟨hsound, hloads.keeps, hloads.calm⟩
    · simp only [hfill]
      rw [exec_bind]
      have hi : m₂.sessions i = some ⟨slotId.toNat, flags, .none, false⟩ := by
        rw [hsess, update_self]
      obtain ⟨hkeeps, hcalm⟩ := keeps_calm_fill hslots hfree hsess
      have hattach := hnext.attach i
      have hkeeps₃ : m₂.Keeps (exec (sessionAttachToken i) m₂).2 := by
        rw [attach_eq hi]
        exact keeps_setSession hi rfl fun _ => rfl
      have hcalm₃ : m₂.Calm (exec (sessionAttachToken i) m₂).2 := by
        rw [attach_eq hi]
        refine ⟨fun _ h => h, fun s h => ?_⟩
        rcases roOn_setSession h with hold | ⟨-, -, hro⟩
        · exact hold
        · exact absurd hro hrw
      exact ⟨hattach, hloads.keeps.trans (hkeeps.trans hkeeps₃),
        hloads.calm.trans (hcalm.trans hcalm₃)⟩

theorem Sound.logout_keeps_calm (hm : m.Sound) (h : UInt64) :
    m.Keeps (exec (FreeHsm.logout h) m).2 ∧ m.Calm (exec (FreeHsm.logout h) m).2 := by
  unfold FreeHsm.logout
  rw [exec_gate_bind]
  split
  · exact ⟨.refl m, .refl m⟩
  rw [exec_bind, exec_get]
  dsimp only
  cases hsess : m.session h with
  | none => exact ⟨.refl m, .refl m⟩
  | some e =>
    have he := (session_eq_some hsess).1
    have hkeeps : m.Keeps (m.setSession h.toNat (some { e with role := .none })) :=
      keeps_setSession he rfl id
    have hcalm : m.Calm (m.setSession h.toNat (some { e with role := .none })) := by
      refine ⟨fun _ h => h, fun s h => ?_⟩
      rcases roOn_setSession h with hold | hrest
      · exact hold
      · exact ⟨_, e, he, hrest⟩
    dsimp only
    split
    · exact ⟨hkeeps, hcalm⟩
    obtain ⟨t, htok⟩ := Option.isSome_iff_exists.1 (hm.token _ e he)
    rw [htok]
    exact ⟨hkeeps.trans (keeps_setToken ..), hcalm.trans (calm_setToken (t := t) htok nofun)⟩

theorem Sound.close_calm (hm : m.Sound) (env : Envs) (h : UInt64) :
    m.Calm (exec (closeSession C env h) m).2 := by
  have hreset : m.Calm (m.sessionOpsReset h) :=
    sessionOpsReset_ind m h fun _ _ => ⟨fun _ h => h, fun _ h => h⟩
  refine hm.close_ind env h (.refl m) hreset (fun _ _ _ => hreset.trans (calm_clearSession ..))
    fun e t rv t' d' hsess htok hgone => ?_
  have hrole : t'.loggedIn = t.loggedIn :=
    Token.object_loggedIn (.destroySession h.toUInt32) hgone
  have htok₁ : ((m.sessionOpsReset h).slots e.slot).token = some t :=
    sessionOpsReset_ind m h fun _ _ => htok
  have hset : (m.sessionOpsReset h).Calm ((m.sessionOpsReset h).setToken e.slot (some t') d') :=
    calm_setToken htok₁ fun h => hrole ▸ h
  have hgone₁ := (hreset.trans hset).trans (calm_clearSession _ h.toNat)
  unfold Module.closed
  dsimp only
  split
  · exact hgone₁
  · exact hgone₁.trans (calm_setToken (t := t') (token_setToken _ _ _ d') nofun)

theorem Sound.loginOn_keeps (hm : m.Sound) (env : Envs) {h : UInt64} (pin : Option Bytes)
    (he : m.sessions h.toNat = some e) :
    m.Keeps (exec (FreeHsm.loginOn C env h e.slot .so pin) m).2 ∧
      (∀ slot, (exec (FreeHsm.loginOn C env h e.slot .so pin) m).2.RoOn slot → m.RoOn slot) ∧
      ∀ slot, (exec (FreeHsm.loginOn C env h e.slot .so pin) m).2.SoOn slot → m.SoOn slot ∨ slot = e.slot := by
  unfold FreeHsm.loginOn
  cases pin with
  | none => exact ⟨.refl m, fun _ h => h, fun _ h => .inl h⟩
  | some pin =>
    dsimp only
    rw [exec_bind, exec_tokenEnv]
    dsimp only
    rw [exec_bind, exec_tryCatch]
    obtain ⟨t, htok⟩ := Option.isSome_iff_exists.1 (hm.token _ e he)
    rcases hlogin : t.login C { env 0 with moduleError := m.state == .error } .so pin
      (m.disks e.slot) with ⟨rv, t', d'⟩
    rw [exec_onToken htok hlogin]
    have hso : ∀ slot, (m.setToken e.slot (some t') d').SoOn slot → m.SoOn slot ∨ slot = e.slot := by
      intro slot hs
      rcases soOn_setToken hs with hold | ⟨heq, -⟩
      · exact .inl hold
      · exact .inr heq
    have hkeeps : m.Keeps (m.setToken e.slot (some t') d') := keeps_setToken ..
    -- with the role of the entry set, and without
    have hentered : ∀ m', m' = (m.setToken e.slot (some t') d').setSession h.toNat
          (((m.setToken e.slot (some t') d').sessions h.toNat).map fun e => { e with role := .so }) →
        m.Keeps m' ∧ (∀ slot, m'.RoOn slot → m.RoOn slot) ∧
          ∀ slot, m'.SoOn slot → m.SoOn slot ∨ slot = e.slot := by
      rintro _ rfl
      rw [sessions_setToken, he]
      refine ⟨hkeeps.trans (keeps_setSession (e := e) he rfl id), fun slot hs => ?_, hso⟩
      rcases roOn_setSession hs with hold | hrest
      · exact hold
      · exact ⟨_, e, he, hrest⟩
    cases rv with
    | ok => exact hentered _ rfl
    | err err =>
      dsimp only
      by_cases hsame : err = .userAlreadyLoggedIn
      · rw [if_pos hsame]
        exact hentered _ rfl
      · rw [if_neg hsame]
        exact ⟨hkeeps, fun _ h => h, hso⟩

/-- The test of `C_Login` as SO changes nothing, and passes when no read-only session is open. -/
theorem Sound.soLoginTest (hm : m.Sound) (h : UInt64) :
    (exec (FreeHsm.soLoginTest h) m).2 = m ∧ ∀ slot, (exec (FreeHsm.soLoginTest h) m).1 = .ok slot →
      ∃ e, m.session h = some e ∧ e.attached = true ∧ e.slot = slot ∧ ¬ m.RoOn slot := by
  unfold FreeHsm.soLoginTest
  rw [exec_gate_bind]
  split
  · exact ⟨rfl, nofun⟩
  rw [exec_bind, exec_get]
  dsimp only
  cases hsess : m.session h with
  | none => exact ⟨rfl, nofun⟩
  | some e =>
    dsimp only
    rw [exec_failIf_bind]
    split
    · exact ⟨rfl, nofun⟩
    rename_i hatt
    rw [exec_failIf_bind]
    split
    · exact ⟨rfl, nofun⟩
    rename_i hro
    refine ⟨rfl, ?_⟩
    rintro _ ⟨⟩
    refine ⟨e, rfl, by simpa using hatt, rfl, ?_⟩
    rintro ⟨i, e', he', hatt', hslot', hflags⟩
    exact hro (hm.anySessionOf_iff.2 ⟨i, e', he', hatt', hslot', beq_iff_eq.2 hflags⟩)

end Module

/-! ## The invariant -/

/-- What a thread relies on is there. -/
def Phase.Backed (m : Module P) : Phase → Prop
  | .idle => True
  | .tested slot _ => ∃ t, (m.slots slot).token = some t
  | .entered slot h => ∃ e, m.sessions h = some e ∧ e.slot = slot
  | .checked h slot _ => ∃ e, m.sessions h.toNat = some e ∧ e.attached = true ∧ e.slot = slot

theorem Phase.Backed.keeps {m m' : Module P} {p : Phase} (h : p.Backed m) (hkeeps : m.Keeps m') :
    p.Backed m' := by
  cases p with
  | idle => trivial
  | tested slot flags =>
    obtain ⟨t, ht⟩ := h
    exact hkeeps.token slot t ht
  | entered slot i =>
    obtain ⟨e, he, hslot⟩ := h
    obtain ⟨e', he', hslot', -⟩ := hkeeps.entry i e he
    exact ⟨e', he', hslot'.trans hslot⟩
  | checked i slot pin =>
    obtain ⟨e, he, hatt, hslot⟩ := h
    obtain ⟨e', he', hslot', hatt'⟩ := hkeeps.entry _ e he
    exact ⟨e', he', hatt' hatt, hslot'.trans hslot⟩

namespace Threads

/-- A slot is free of read-only sessions, and of threads that are opening one. -/
def NoReadOnly (w : Threads P n) (slot : Nat) : Prop :=
  ¬ w.mod.RoOn slot ∧ ∀ i, (w.phase i).opensOn slot = false

/-- A slot with the SO logged in, or with a thread that is logging the SO in, is free of
read-only sessions, now and to come. -/
structure Excludes (w : Threads P n) : Prop where
  sound : w.mod.Sound
  backed : ∀ i, (w.phase i).Backed w.mod
  so : ∀ slot, w.mod.SoOn slot → w.NoReadOnly slot
  checked : ∀ i slot, (w.phase i).logsInOn slot = true → w.NoReadOnly slot

variable {w : Threads P n} {m' : Module P}

/-- A step of thread `i`: the SO is new only where it was logging in, a read-only session only
where it was opening one. -/
theorem Excludes.goto (hw : w.Excludes) {i : Fin n} {p : Phase} (hsound : m'.Sound)
    (hkeeps : w.mod.Keeps m') (hback : p.Backed m')
    (hso : ∀ slot, m'.SoOn slot → w.mod.SoOn slot ∨ (w.phase i).logsInOn slot = true)
    (hro : ∀ slot, m'.RoOn slot → w.mod.RoOn slot ∨ (w.phase i).opensOn slot = true)
    (hopen : ∀ slot, p.opensOn slot = true → (w.phase i).opensOn slot = true ∨
      (¬ m'.SoOn slot ∧ ∀ j, (w.phase j).logsInOn slot = false))
    (hlog : ∀ slot, p.logsInOn slot = true → w.NoReadOnly slot) : (w.goto i p m').Excludes := by
  -- what was free before the step is free of read-only sessions after it
  have hfree : ∀ slot, w.NoReadOnly slot → ¬ m'.RoOn slot := by
    rintro slot ⟨hold, hnone⟩ hnew
    rcases hro slot hnew with h | h
    · exact hold h
    · rw [hnone i] at h
      cases h
  constructor
  · exact hsound
  · intro j
    by_cases hj : j = i
    · subst hj
      rw [phase_goto]
      exact hback
    · rw [phase_goto_of_ne _ _ _ hj]
      exact (hw.backed j).keeps hkeeps
  · intro slot hnew
    have hnone : w.NoReadOnly slot := by
      rcases hso slot hnew with h | h
      · exact hw.so slot h
      · exact hw.checked i slot h
    refine ⟨hfree slot hnone, fun j => ?_⟩
    by_cases hj : j = i
    · subst hj
      rw [phase_goto, Bool.eq_false_iff]
      intro hp
      rcases hopen slot hp with h | ⟨h, -⟩
      · rw [hnone.2 j] at h
        cases h
      · exact h hnew
    · rw [phase_goto_of_ne _ _ _ hj]
      exact hnone.2 j
  · intro k slot hk
    have hnone : w.NoReadOnly slot := by
      by_cases hki : k = i
      · subst hki
        rw [phase_goto] at hk
        exact hlog slot hk
      · rw [phase_goto_of_ne _ _ _ hki] at hk
        exact hw.checked k slot hk
    refine ⟨hfree slot hnone, fun j => ?_⟩
    by_cases hj : j = i
    · subst hj
      rw [phase_goto, Bool.eq_false_iff]
      intro hp
      rcases hopen slot hp with h | ⟨-, h⟩
      · rw [hnone.2 j] at h
        cases h
      · -- then `k` is this thread, which does not do both
        by_cases hkj : k = j
        · subst hkj
          rw [phase_goto] at hk
          cases p <;> first | cases hk | cases hp
        · rw [phase_goto_of_ne _ _ _ hkj, h k] at hk
          cases hk
    · rw [phase_goto_of_ne _ _ _ hj]
      exact hnone.2 j

/-- A step after which the thread is idle and nothing is new. -/
theorem Excludes.stop (hw : w.Excludes) (i : Fin n) (hsound : m'.Sound) (hkeeps : w.mod.Keeps m')
    (hcalm : w.mod.Calm m') : (w.goto i .idle m').Excludes :=
  hw.goto hsound hkeeps trivial (fun slot h => .inl (hcalm.so slot h))
    (fun slot h => .inl (hcalm.ro slot h)) nofun nofun

/-- A whole call. -/
theorem Excludes.whole (hw : w.Excludes) (hsound : m'.Sound) (hback : ∀ i, (w.phase i).Backed m')
    (hcalm : w.mod.Calm m') : Excludes { w with mod := m' } where
  sound := hsound
  backed := hback
  so slot h := ⟨fun hro => (hw.so slot (hcalm.so slot h)).1 (hcalm.ro slot hro),
    (hw.so slot (hcalm.so slot h)).2⟩
  checked i slot h := ⟨fun hro => (hw.checked i slot h).1 (hcalm.ro slot hro),
    (hw.checked i slot h).2⟩

/-- Neither call makes its test while the other is between its test and its effect. -/
def InTurn (w : Threads P n) : ThreadStep n → Prop
  | .openTest _ _ slotId _ => ∀ j, (w.phase j).logsInOn slotId.toNat = false
  | .loginTest _ h _ => ∀ e, w.mod.session h = some e → ∀ j, (w.phase j).opensOn e.slot = false
  | _ => True

theorem Excludes.step (hw : w.Excludes) (s : ThreadStep n) (hturn : w.InTurn s) :
    (w.step C s).Excludes := by
  cases s with
  | openTest i env slotId flags =>
    simp only [Threads.step]
    split
    · rename_i hidle
      obtain ⟨hsound, hloads, hpass⟩ := hw.sound.openTest env slotId flags true
      rcases hrun : exec (FreeHsm.openTest env slotId flags true) w.mod with ⟨_ | _, m₁⟩
      all_goals rw [hrun] at hsound hloads
      · exact hw.stop i hsound hloads.keeps hloads.calm
      · obtain ⟨t, htok, hnot⟩ := hpass m₁ hrun
        refine hw.goto hsound hloads.keeps ⟨t, htok⟩ (fun slot h => .inl (hloads.calm.so slot h))
          (fun slot h => .inl (hloads.calm.ro slot h)) (fun slot h => .inr ?_) nofun
        -- the test has passed, and nobody is logging in
        obtain rfl : slotId.toNat = slot := beq_iff_eq.1 h
        refine ⟨?_, hturn⟩
        rintro ⟨t', ht', hso⟩
        rw [htok] at ht'
        cases ht'
        exact hnot hidle.2 hso
    · exact hw
  | openFill i =>
    simp only [Threads.step]
    split
    · rename_i slot flags hphase
      have hback := hw.backed i
      rw [hphase] at hback
      obtain ⟨t, htok⟩ := hback
      rcases hw.sound.openFill flags htok with
        hfull | ⟨h, m₁, hfill, hsound, hslots, hfree, hsess, -, -⟩
      · simp only [hfull]
        exact hw.stop i hw.sound (.refl _) (.refl _)
      · simp only [hfill]
        obtain ⟨hkeeps, hcalm⟩ := keeps_calm_fill hslots hfree hsess
        refine hw.goto hsound hkeeps ⟨_, by rw [hsess, update_self], rfl⟩
          (fun slot h => .inl (hcalm.so slot h)) (fun slot h => .inl (hcalm.ro slot h))
          (fun slot h => .inl ?_) nofun
        rw [hphase]
        exact h
    · exact hw
  | attach i =>
    simp only [Threads.step]
    split
    · rename_i slot h hphase
      have hback := hw.backed i
      rw [hphase] at hback
      obtain ⟨e, he, hslot⟩ := hback
      have hsound := hw.sound.attach h
      rw [attach_eq he] at hsound ⊢
      refine hw.goto hsound (keeps_setSession he rfl fun _ => rfl) trivial (fun slot h => .inl h)
        (fun slot' hro => ?_) nofun nofun
      rcases roOn_setSession hro with hold | ⟨-, hs, -⟩
      · exact .inl hold
      · rw [hphase]
        exact .inr (beq_iff_eq.2 (hslot.symm.trans hs))
    · exact hw
  | loginTest i h pin =>
    simp only [Threads.step]
    split
    · obtain ⟨hsame, hpass⟩ := hw.sound.soLoginTest h
      rcases hrun : exec (soLoginTest h) w.mod with ⟨_ | slot, m₁⟩
      all_goals
        rw [hrun] at hsame hpass
        subst hsame
      · exact hw.stop i hw.sound (.refl _) (.refl _)
      · obtain ⟨e, hsess, hatt, rfl, hro⟩ := hpass slot rfl
        refine hw.goto hw.sound (.refl _) ⟨e, (session_eq_some hsess).1, hatt, rfl⟩
          (fun slot h => .inl h) (fun slot h => .inl h) nofun (fun slot h => ?_)
        obtain rfl : e.slot = slot := beq_iff_eq.1 h
        exact ⟨hro, hturn e hsess⟩
    · exact hw
  | loginToken i env =>
    simp only [Threads.step]
    split
    · rename_i h slot pin hphase
      have hback := hw.backed i
      rw [hphase] at hback
      obtain ⟨e, he, hatt, rfl⟩ := hback
      obtain ⟨hkeeps, hro, hso⟩ := hw.sound.loginOn_keeps (C := C) env pin he
      refine hw.goto (hw.sound.loginOn env .so pin he hatt) hkeeps trivial (fun slot h => ?_)
        (fun slot h => .inl (hro slot h)) nofun nofun
      rcases hso slot h with hold | rfl
      · exact .inl hold
      · rw [hphase]
        exact .inr (beq_iff_eq.2 rfl)
    · exact hw
  | openReadWrite env slotId flags =>
    simp only [Threads.step]
    split
    · exact hw
    rename_i hrw
    obtain ⟨hsound, hkeeps, hcalm⟩ := hw.sound.openReadWrite env slotId flags hrw
    exact hw.whole hsound (fun i => (hw.backed i).keeps hkeeps) hcalm
  | logout h =>
    obtain ⟨hkeeps, hcalm⟩ := hw.sound.logout_keeps_calm h
    exact hw.whole (hw.sound.logout h) (fun i => (hw.backed i).keeps hkeeps) hcalm
  | close env h =>
    simp only [Threads.step]
    split
    · -- nobody relies on anything
      rename_i hidle
      refine hw.whole (hw.sound.close env h) (fun i => ?_) (hw.sound.close_calm env h)
      rw [hidle i]
      trivial
    · exact hw

end Threads

/-- From a sound module without the SO beside a read-only session, with no call under way: if
neither call makes its test while the other is between its test and its effect, the SO is never
logged in on a token with a read-only session. -/
theorem so_excludes_readOnly (C : Crypto) (m : Module P) (hm : m.Sound)
    (hstart : ∀ slot, ¬ (m.SoOn slot ∧ m.RoOn slot)) (steps : List (ThreadStep n))
    (hturn : Along (Threads.step C) Threads.InTurn ⟨m, fun _ => .idle⟩ steps) (slot : Nat) :
    ¬ ((run (Threads.step C) ⟨m, fun _ => .idle⟩ steps).mod.SoOn slot ∧
      (run (Threads.step C) ⟨m, fun _ => .idle⟩ steps).mod.RoOn slot) := by
  have hw : Threads.Excludes (⟨m, fun _ => .idle⟩ : Threads P n) :=
    ⟨hm, fun _ => trivial, fun slot hso => ⟨fun hro => hstart slot ⟨hso, hro⟩, fun _ => rfl⟩,
      fun _ _ h => by cases h⟩
  have hend := run_invariant (P := Threads.Excludes) (fun _ s hw h => hw.step s h) hw hturn
  rintro ⟨hso, hro⟩
  exact (hend.so slot hso).1 hro

/-! ## Two threads -/

/-- A token in slot 0 with a read-write session, nobody logged in. -/
def readWriteOpen : Module .plain :=
  run (Module.call .plain) (.start fun _ => ⟨none, []⟩) ((soOnSlot 0 1).take 3)

theorem sound_readWriteOpen : readWriteOpen.Sound := sound_run _ _

/-- The role on slot 0, and whether a read-only session is open there. -/
def soAndReadOnly (m : Module P) : Option Role × Bool :=
  ((m.slots 0).token.map Token.loggedIn, m.sessionRoExists 0)

/-- A read-only session is opened, and then the SO tries to log in. -/
theorem so_excludes_readOnly_inTurn :
    soAndReadOnly readWriteOpen = (some .none, false) ∧
      let steps : List (ThreadStep 2) := [.openTest 0 (fun _ => .quiet) 0 ckfSerialSession, .openFill 0,
        .attach 0, .loginTest 1 1 (some soPin), .loginToken 1 (fun _ => .quiet)]
      ¬ ((run (Threads.step .plain) ⟨readWriteOpen, fun _ => .idle⟩ steps).mod.SoOn 0 ∧
        (run (Threads.step .plain) ⟨readWriteOpen, fun _ => .idle⟩ steps).mod.RoOn 0) := by
  refine ⟨by decide +kernel, so_excludes_readOnly .plain readWriteOpen sound_readWriteOpen ?_ _ ?_ 0⟩
  · rintro slot ⟨⟨t, htok, hso⟩, i, e, he, hatt, hslot, hro⟩
    -- no session is read-only
    have hall : ((List.range maxSessions).all fun i =>
        (readWriteOpen.sessions i).all (·.flags &&& ckfRwSession != 0)) = true := by decide +kernel
    have hi := List.all_eq_true.1 hall i (List.mem_range.2 (sound_readWriteOpen.range i e he).2)
    rw [he] at hi
    simp [hro] at hi
  · refine ⟨fun j => rfl, trivial, trivial, fun e he j => ?_, trivial, trivial⟩
    have hidle : ∀ j, (run (Threads.step .plain) ⟨readWriteOpen, fun _ => .idle⟩
        ([.openTest 0 (fun _ => .quiet) 0 ckfSerialSession, .openFill 0, .attach 0] :
          List (ThreadStep 2))).phase j = .idle := by decide +kernel
    have hj := hidle j
    simp only [run_cons, run_nil] at hj
    rw [hj]
    rfl

/-- The session is opened on a token that nobody is logged in on, the SO logs in, and only then
the entry is filled and the token attached. -/
theorem so_beside_readOnly :
    soAndReadOnly readWriteOpen = (some .none, false) ∧
      soAndReadOnly (run (Threads.step .plain) ⟨readWriteOpen, fun _ => .idle⟩
        ([.openTest 0 (fun _ => .quiet) 0 ckfSerialSession, .loginTest 1 1 (some soPin),
          .loginToken 1 (fun _ => .quiet), .openFill 0, .attach 0] : List (ThreadStep 2))).mod =
        (some .so, true) := by
  decide +kernel

end FreeHsm
