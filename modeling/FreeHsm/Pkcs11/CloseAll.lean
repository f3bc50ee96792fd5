import FreeHsm.Pkcs11.SessionTable

/-!
# C_CloseAllSessions

The session table is one for all slots. `C_CloseAllSessions` goes through the whole table
and closes every session that has a token, whatever slot it was opened on; of the slots it
takes 0 only.
-/

namespace FreeHsm

open StateExcept ModM FreeHsm.Module List

variable {P : Provider} {C : Crypto} {m m₁ : Module P} {h : UInt64} {e : Session}

/-! ## One session -/

/-- What is left of the module when a session of it was closed. -/
structure Module.ClosedOne (m : Module P) (i : Nat) (e : Session) (m₁ : Module P) : Prop where
  state : m₁.state = m.state
  sessions : m₁.sessions = update m.sessions i none
  ops : m₁.ops = update m.ops i .fresh
  finds : m₁.finds = update m.finds i {}
  others : ∀ slot, slot ≠ e.slot → m₁.slots slot = m.slots slot ∧ m₁.disks slot = m.disks slot
  objects : ∃ t t', (m.slots e.slot).token = some t ∧ (m₁.slots e.slot).token = some t' ∧
    List.Perm t'.objects.objs (t.objects.objs.filter fun o => !(o.ownerSession.toNat == i))

theorem closeSession_closedOne (env : Envs) (hm : m.Sound) (hstate : m.state ≠ .error)
    (hsess : m.session h = some e) (hatt : e.attached = true) :
    ∃ m₁, exec (closeSession C env h) m = (.ok (), m₁) ∧ m₁.Sound ∧ m.ClosedOne h.toNat e m₁ := by
  obtain ⟨he, hzero, hlt⟩ := session_eq_some hsess
  obtain ⟨t, htok⟩ := hm.exists_token he
  rcases hgone : t.destroySessionObjects C { env 0 with moduleError := m.state == .error }
    h.toUInt32 (m.disks e.slot) with ⟨rv, t', d'⟩
  refine ⟨_, exec_closeSession env hstate hsess hatt htok hgone, hm.closed hsess htok hgone, ?_⟩
  have hreset : m.sessionOpsReset h = { m with
      ops := update m.ops h.toNat .fresh, finds := update m.finds h.toNat {} } :=
    if_neg (by rw [not_or, not_le]; exact ⟨hzero, hlt⟩)
  obtain ⟨howner, hne⟩ := toUInt32_of_session hsess
  have hperm : List.Perm t'.objects.objs
      (t.objects.objs.filter fun o => !(o.ownerSession.toNat == h.toNat)) := by
    have hsame : (fun o : Obj => !(o.ownerSession.toNat == h.toNat)) =
        fun o : Obj => !(o.ownerSession == h.toUInt32) := by
      funext o
      rw [← howner, Bool.eq_iff_iff, Bool.not_eq_true', Bool.not_eq_true', beq_eq_false_iff_ne,
        beq_eq_false_iff_ne, ne_eq, UInt32.toNat_inj]
    rw [hsame]
    exact Token.destroySessionObjects_objects hne hgone
  unfold Module.closed
  rw [hreset]
  dsimp only
  split
  · exact ⟨rfl, rfl, rfl, rfl, fun slot hslot => ⟨update_of_ne _ _ hslot, update_of_ne _ _ hslot⟩,
      t, t', htok, token_setToken _ _ _ d', hperm⟩
  · -- the last session: the objects stay when the token is logged out
    refine ⟨rfl, rfl, rfl, rfl, fun slot hslot => ?_, t, t'.logout, htok, token_setToken .., hperm⟩
    constructor
    · rw [slots_setToken_of_ne _ _ _ hslot, slots_setSession, slots_setToken_of_ne _ _ _ hslot]
    · exact (update_of_ne _ _ hslot).trans (update_of_ne _ _ hslot)

/-! ## The loop -/

/-- Between calls every entry has its token. -/
def Module.Settled (m : Module P) : Prop := ∀ i e, m.sessions i = some e → e.attached = true

/-- The entries that are left when the loop reaches handle `k`. -/
def Module.leftFrom (m : Module P) (k : Nat) : Nat → Option Session :=
  fun i => if i < k then none else m.sessions i

/-- The object belongs to a session below handle `k`. -/
def Module.ownedBelow (m : Module P) (k : Nat) (o : Obj) : Bool :=
  (m.sessions o.ownerSession.toNat).isSome && decide (o.ownerSession.toNat < k)

theorem Module.leftFrom_self (m : Module P) (k : Nat) : m.leftFrom k k = m.sessions k :=
  if_neg (lt_irrefl k)

theorem Module.leftFrom_succ (m : Module P) (k : Nat) :
    m.leftFrom (k + 1) = update (m.leftFrom k) k none := by
  funext i
  unfold leftFrom update
  by_cases hi : i = k
  · rw [if_pos (by omega), if_pos hi]
  · simp only [Nat.lt_succ_iff_lt_or_eq, hi, or_false, if_false]

theorem Module.ownedBelow_succ (m : Module P) (k : Nat) (o : Obj) :
    m.ownedBelow (k + 1) o =
      (m.ownedBelow k o || ((m.sessions k).isSome && o.ownerSession.toNat == k)) := by
  unfold ownedBelow
  by_cases ho : o.ownerSession.toNat = k
  · simp [ho]
  · have hlt : (o.ownerSession.toNat < k + 1) = (o.ownerSession.toNat < k) := propext (by omega)
    simp only [hlt, beq_eq_false_iff_ne.2 ho, Bool.and_false, Bool.or_false]

/-- What `C_CloseAllSessions` has done to `m` when it reaches handle `k`. -/
structure Module.ClosedBelow (m : Module P) (k : Nat) (m₁ : Module P) : Prop where
  sound : m₁.Sound
  state : m₁.state = m.state
  sessions : m₁.sessions = m.leftFrom k
  cleared : ∀ i e, i < k → m.sessions i = some e → m₁.ops i = .fresh ∧ m₁.finds i = {}
  untouched : ∀ slot, (∀ i e, m.sessions i = some e → e.slot ≠ slot) →
    m₁.slots slot = m.slots slot ∧ m₁.disks slot = m.disks slot
  objects : ∀ slot t, (m.slots slot).token = some t → ∃ t', (m₁.slots slot).token = some t' ∧
    List.Perm t'.objects.objs (t.objects.objs.filter fun o => !m.ownedBelow k o)

theorem Module.closedBelow_start (hm : m.Sound) : m.ClosedBelow 1 m where
  sound := hm
  state := rfl
  sessions := by
    funext i
    unfold leftFrom
    split
    · -- handle 0 has no entry
      cases he : m.sessions i with
      | none => rfl
      | some e => exact absurd (hm.range i e he).1 (by omega)
    · rfl
  cleared i e hi he := absurd (hm.range i e he).1 (by omega)
  untouched _ _ := ⟨rfl, rfl⟩
  objects slot t htok := by
    refine ⟨t, htok, .of_eq (filter_eq_self.2 fun o ho => ?_).symm⟩
    rw [Bool.not_eq_true', ownedBelow, Bool.and_eq_false_iff]
    cases he : m.sessions o.ownerSession.toNat with
    | none => exact .inl rfl
    | some e =>
      have hrange := hm.range _ e he
      exact .inr (decide_eq_false (by omega))

theorem Module.closedBelow_skip {k : Nat} (hk : m.ClosedBelow k m₁) (he : m.sessions k = none) :
    m.ClosedBelow (k + 1) m₁ := by
  refine ⟨hk.sound, hk.state, ?_, fun i e hi hie => ?_, hk.untouched, fun slot t htok => ?_⟩
  · rw [leftFrom_succ, hk.sessions]
    funext i
    by_cases hik : i = k
    · rw [hik, update_self, leftFrom_self, he]
    · rw [update_of_ne _ _ hik]
  · have hik : i ≠ k := by
      rintro rfl
      cases he.symm.trans hie
    exact hk.cleared i e (by omega) hie
  · obtain ⟨t', htok', hperm⟩ := hk.objects slot t htok
    refine ⟨t', htok', hperm.trans (.of_eq (filter_congr fun o _ => ?_))⟩
    rw [ownedBelow_succ, he, Option.isSome_none, Bool.false_and, Bool.or_false]

theorem Module.closedBelow_close {k : Nat} {m₂ : Module P} (hm : m.Sound) (hlow : 1 ≤ k)
    (hk : m.ClosedBelow k m₁) (he : m.sessions k = some e) (hsound : m₂.Sound)
    (hone : m₁.ClosedOne k e m₂) : m.ClosedBelow (k + 1) m₂ := by
  refine ⟨hsound, hone.state.trans hk.state, ?_, fun i e' hi hie => ?_, fun slot hslot => ?_,
    fun slot t htok => ?_⟩
  · rw [hone.sessions, hk.sessions, leftFrom_succ]
  · rw [hone.ops, hone.finds]
    by_cases hik : i = k
    · subst hik
      rw [update_self, update_self]
      exact ⟨rfl, rfl⟩
    · rw [update_of_ne _ _ hik, update_of_ne _ _ hik]
      exact hk.cleared i e' (by omega) hie
  · obtain ⟨hslots, hdisks⟩ := hk.untouched slot hslot
    have hother := hone.others slot fun heq => hslot k e he heq.symm
    exact ⟨hother.1.trans hslots, hother.2.trans hdisks⟩
  · -- the objects of the session go, those of the sessions before it are gone
    obtain ⟨t₁, htok₁, hperm₁⟩ := hk.objects slot t htok
    have hsplit : ∀ o : Obj, (!m.ownedBelow (k + 1) o) =
        (!(o.ownerSession.toNat == k) && !m.ownedBelow k o) := by
      intro o
      rw [ownedBelow_succ, he, Option.isSome_some, Bool.true_and, Bool.not_or, Bool.and_comm]
    simp only [hsplit]
    by_cases hslot : slot = e.slot
    · subst hslot
      obtain ⟨t₁', t', ht₁', ht', hperm⟩ := hone.objects
      rw [htok₁] at ht₁'
      cases ht₁'
      refine ⟨t', ht', hperm.trans ((hperm₁.filter _).trans (.of_eq ?_))⟩
      rw [filter_filter]
    · refine ⟨t₁, ?_, hperm₁.trans (.of_eq (filter_congr fun o ho => ?_))⟩
      · rw [(hone.others slot hslot).1, htok₁]
      · -- an object of the session is on the token of its slot
        have hnot : (o.ownerSession.toNat == k) = false := by
          rw [beq_eq_false_iff_ne]
          intro hok
          have hne : o.ownerSession ≠ 0 := by
            intro hz
            rw [hz] at hok
            exact absurd hok (by rw [UInt32.toNat_zero]; omega)
          obtain ⟨e', he', -, hslot'⟩ := (hm.fits slot t htok).owned o ho hne
          rw [hok, he] at he'
          cases he'
          exact hslot hslot'.symm
        rw [hnot, Bool.not_false, Bool.true_and]

theorem Module.closedBelow_step {k : Nat} (env : Envs) (hm : m.Sound) (hset : m.Settled)
    (hstate : m.state ≠ .error) (hlow : 1 ≤ k) (hhigh : k < maxSessions) (hk : m.ClosedBelow k m₁) :
    ∃ m₂, m.ClosedBelow (k + 1) m₂ ∧
      ((m₁.sessionToken (UInt64.ofNat k)).isSome = true →
        exec (closeSession C env (UInt64.ofNat k)) m₁ = (.ok (), m₂)) ∧
      ((m₁.sessionToken (UInt64.ofNat k)).isSome = false → m₂ = m₁) := by
  have hmax : maxSessions = 128 := rfl
  have hnat : (UInt64.ofNat k).toNat = k := by
    rw [UInt64.toNat_ofNat', Nat.mod_eq_of_lt (by omega)]
  have hvalid : ¬ (UInt64.ofNat k = 0 ∨ maxSessions ≤ (UInt64.ofNat k).toNat) := by
    rw [hnat]
    rintro (hz | hbig)
    · rw [hz] at hnat
      exact absurd hnat (by rw [UInt64.toNat_zero]; omega)
    · omega
  have hentry : m₁.sessions k = m.sessions k := by rw [hk.sessions, leftFrom_self]
  have hsess : m₁.session (UInt64.ofNat k) = m.sessions k := by
    rw [session, if_neg hvalid, hnat, hentry]
  cases he : m.sessions k with
  | none =>
    have hnone : m₁.sessionToken (UInt64.ofNat k) = none := by
      simp only [sessionToken, hsess, he]
    refine ⟨m₁, closedBelow_skip hk he, ?_, fun _ => rfl⟩
    rw [hnone]
    intro h
    cases h
  | some e =>
    rw [he] at hsess hentry
    have hatt := hset k e he
    obtain ⟨m₂, hclose, hsound, hone⟩ := closeSession_closedOne (C := C) env hk.sound
      (by rw [hk.state]; exact hstate) hsess hatt
    rw [hnat] at hone
    refine ⟨m₂, closedBelow_close hm hlow hk he hsound hone, fun _ => hclose, fun hno => ?_⟩
    simp only [sessionToken, hsess, hatt, ↓reduceIte, Option.isSome_map] at hno
    cases hno.symm.trans (hk.sound.token k e hentry)

theorem Module.closedBelow_run (env : Envs) (hm : m.Sound) (hset : m.Settled)
    (hstate : m.state ≠ .error) (n k : Nat) (hlow : 1 ≤ k) (hhigh : k + n ≤ maxSessions)
    (hk : m.ClosedBelow k m₁) :
    ∃ m₂, exec (closeSessionsFrom C env n k) m₁ = (.ok (), m₂) ∧ m.ClosedBelow (k + n) m₂ := by
  induction n generalizing m₁ k with
  | zero => exact ⟨m₁, rfl, hk⟩
  | succ n ih =>
    obtain ⟨m₂, hk₂, hclose, hskip⟩ := closedBelow_step (C := C) (env.after k) hm hset hstate hlow
      (by omega) hk
    obtain ⟨m₃, hrun, hk₃⟩ := ih (k + 1) (by omega) (by omega) hk₂
    refine ⟨m₃, ?_, by rwa [add_right_comm] at hk₃⟩
    unfold closeSessionsFrom
    rw [exec_get_bind]
    cases htok : (m₁.sessionToken (UInt64.ofNat k)).isSome with
    | true =>
      rw [if_pos rfl, exec_bind, exec_tryCatch, hclose htok]
      exact hrun
    | false =>
      rw [if_neg (by decide)]
      rw [hskip htok] at hrun
      exact hrun

/-! ## The entry point -/

/-- What `C_CloseAllSessions` is for: it succeeds on a slot that exists, and then the sessions of
the slot are closed, with their operations, searches and objects, and the token is logged out; all
else is as it was. -/
structure Module.ClosesSlot (m : Module P) (slot : Nat) (r : Except Err Unit × Module P) : Prop where
  result : r.1 = .ok () ↔ slot < maxSlots
  sessions : ∀ i, r.2.sessions i =
    if slot < maxSlots ∧ (m.sessions i).any (·.slot == slot) then none else m.sessions i
  cleared : slot < maxSlots → ∀ i e, m.sessions i = some e → e.slot = slot →
    r.2.ops i = .fresh ∧ r.2.finds i = {}
  token : slot < maxSlots → ∀ t, (m.slots slot).token = some t →
    ∃ t', (r.2.slots slot).token = some t' ∧ t'.loggedIn = .none ∧
      List.Perm t'.objects.objs (t.objects.objs.filter fun o =>
        !(m.sessions o.ownerSession.toNat).any (·.slot == slot))
  otherSessions : ∀ i e, m.sessions i = some e → e.slot ≠ slot →
    r.2.ops i = m.ops i ∧ r.2.finds i = m.finds i
  otherSlots : ∀ s, s ≠ slot → r.2.slots s = m.slots s ∧ r.2.disks s = m.disks s

theorem Module.closesSlot_refused_iff {slot : Nat} {err : Err} :
    m.ClosesSlot slot (.error err, m) ↔ maxSlots ≤ slot := by
  constructor
  · intro hspec
    by_contra hvalid
    cases hspec.result.2 (Nat.lt_of_not_le hvalid)
  · intro hbad
    have hno : ¬ slot < maxSlots := not_lt.2 hbad
    exact ⟨⟨nofun, fun hv => absurd hv hno⟩, fun i => by rw [if_neg (fun hv => hno hv.1)],
      fun hv => absurd hv hno, fun hv => absurd hv hno, fun _ _ _ _ => ⟨rfl, rfl⟩,
      fun _ _ => ⟨rfl, rfl⟩⟩

/-- `C_CloseAllSessions` closes the sessions of the slot and leaves the other slots alone exactly
when the slot does not exist, or when the module is not in its error state, the slot is 0 and no
session is open on another slot. -/
theorem closeAllSessions_exact_iff (C : Crypto) (env : Envs) (m : Module P) (hm : m.Sound)
    (hset : m.Settled) (slotId : UInt64) :
    m.ClosesSlot slotId.toNat (exec (closeAllSessions C env slotId) m) ↔
      maxSlots ≤ slotId.toNat ∨
        (m.state ≠ .error ∧ slotId = 0 ∧ ∀ i e, m.sessions i = some e → e.slot = 0) := by
  unfold closeAllSessions
  rw [exec_gate_bind]
  by_cases hstate : m.state = .error
  · rw [if_pos hstate, closesSlot_refused_iff]
    constructor
    · exact .inl
    · rintro (hbad | ⟨hno, -⟩)
      · exact hbad
      · exact absurd hstate hno
  rw [if_neg hstate, exec_failIf_bind]
  by_cases hzero : slotId = 0
  · subst hzero
    rw [if_neg (by decide)]
    have hslot : (0 : UInt64).toNat = 0 := rfl
    have hvalid : 0 < maxSlots := by decide
    obtain ⟨m₂, hrun, hk⟩ := closedBelow_run (C := C) env hm hset hstate (maxSessions - 1) 1
      (le_refl 1) (by decide) (closedBelow_start hm)
    rw [show 1 + (maxSessions - 1) = maxSessions by decide] at hk
    rw [hrun, hslot]
    -- every session is gone
    have hgone : ∀ i, m₂.sessions i = none := by
      intro i
      rw [hk.sessions, leftFrom]
      split
      · rfl
      cases he : m.sessions i with
      | none => rfl
      | some e => exact absurd (hm.range i e he).2 (by omega)
    constructor
    · intro hspec
      refine .inr ⟨hstate, rfl, fun i e he => ?_⟩
      -- a session of another slot should have stayed
      by_contra hother
      have hstay := hspec.sessions i
      rw [hgone, he, if_neg (by simp [hother])] at hstay
      cases hstay
    · rintro (hbad | ⟨-, -, hall⟩)
      · exact absurd hvalid (by omega)
      have hany : ∀ i, (m.sessions i).any (·.slot == 0) = (m.sessions i).isSome := by
        intro i
        cases he : m.sessions i with
        | none => rfl
        | some e =>
          rw [Option.any_some, hall i e he]
          rfl
      refine ⟨⟨fun _ => hvalid, fun _ => rfl⟩, fun i => ?_, fun _ i e he _ => ?_, fun _ t htok => ?_,
        fun i e he hne => absurd (hall i e he) hne, fun s hs => ?_⟩
      · rw [hgone, hany]
        cases he : m.sessions i with
        | none => simp
        | some e => simp [hvalid]
      · exact hk.cleared i e (hm.range i e he).2 he
      · obtain ⟨t', htok', hperm⟩ := hk.objects 0 t htok
        refine ⟨t', htok', ?_, hperm.trans (.of_eq (filter_congr fun o _ => ?_))⟩
        · -- nobody is logged in without a session
          by_contra hlog
          obtain ⟨i, e, he, -⟩ := (hk.sound.fits 0 t' htok').login hlog
          rw [hgone] at he
          cases he
        · rw [hany, ownedBelow]
          cases he : m.sessions o.ownerSession.toNat with
          | none => rfl
          | some e =>
            have hlt := (hm.range _ e he).2
            simp [hlt]
      · exact hk.untouched s fun i e he heq => hs (heq.symm.trans (hall i e he))
  · rw [if_pos (by simpa using hzero), closesSlot_refused_iff]
    constructor
    · exact .inl
    · rintro (hbad | ⟨-, hz, -⟩)
      · exact hbad
      · exact absurd hz hzero

/-! ## Two slots -/

/-- A token in a slot, a session on it, and its SO logged in. -/
def soOnSlot (slotId h : UInt64) : List (TableCall .plain) :=
  [.initToken (fun _ => .quiet) slotId (some soPin) (some (List.replicate 32 0x20)),
    .openEntry (fun _ => .quiet) slotId (ckfSerialSession ||| ckfRwSession) true, .attach h.toNat,
    .login (fun _ => .quiet) h 0 (some soPin)]

def oneSlotOpen : Module .plain :=
  Transition.run (Module.call .plain) (.start fun _ => ⟨none, []⟩) (soOnSlot 0 1)

def twoSlotsOpen : Module .plain :=
  Transition.run (Module.call .plain) (.start fun _ => ⟨none, []⟩) (soOnSlot 0 1 ++ soOnSlot 1 2)

theorem settled_of_range {m : Module P} (hm : m.Sound)
    (h : ((range maxSessions).all fun i => (m.sessions i).all (·.attached)) = true) :
    m.Settled := by
  intro i e he
  have hi := all_eq_true.1 h i (mem_range.2 (hm.range i e he).2)
  rw [he] at hi
  exact hi

/-- One session, on slot 0. -/
theorem closeAllSessions_exact_iff_oneSlot :
    oneSlotOpen.sessionRole 1 = .so ∧
      oneSlotOpen.ClosesSlot 0 (exec (closeAllSessions .plain (fun _ => .quiet) 0) oneSlotOpen) := by
  have hm : oneSlotOpen.Sound := Module.sound_run _ _
  refine ⟨by decide +kernel, (closeAllSessions_exact_iff .plain (fun _ => .quiet) oneSlotOpen hm
    (settled_of_range hm (by decide +kernel)) 0).2 (.inr ⟨by decide +kernel, rfl, ?_⟩)⟩
  intro i e he
  have hslots : ((range maxSessions).all fun i =>
      (oneSlotOpen.sessions i).all (·.slot == 0)) = true := by decide +kernel
  have hi := all_eq_true.1 hslots i (mem_range.2 (hm.range i e he).2)
  rw [he] at hi
  exact beq_iff_eq.1 hi

/-- With a session on slot 1, closing those of slot 0 closes it and logs its token out, and those
of slot 1 cannot be closed. -/
theorem closeAll_reaches_slot_one :
    twoSlotsOpen.sessionRole 1 = .so ∧ twoSlotsOpen.sessionRole 2 = .so ∧
      (twoSlotsOpen.sessions 2).map (·.slot) = some 1 ∧
      (exec (closeAllSessions .plain (fun _ => .quiet) 0) twoSlotsOpen).1 = .ok () ∧
      ((exec (closeAllSessions .plain (fun _ => .quiet) 0) twoSlotsOpen).2.sessions 2).isNone = true ∧
      ((exec (closeAllSessions .plain (fun _ => .quiet) 0) twoSlotsOpen).2.slots 1).token.map
        Token.loggedIn = some .none ∧
      (exec (closeAllSessions .plain (fun _ => .quiet) 1) twoSlotsOpen).1 = .error .slotIdInvalid := by
  decide +kernel

end FreeHsm
