import FreeHsm.Token.PinChange
import FreeHsm.Token.Run

/-!
# Pacing PIN attempts

After a failed attempt a role has a deadline before which no PIN of it is tried. A thread
that comes early gives the mutex up, sleeps until the deadline and starts again from the
top. Here any number of threads do so, on a clock that goes on between the calls and
during an attempt; the process may end and load the token again at any time.

The deadline counts from the clock reading at the top of the attempt, which is before the
key derivation; the failure is recorded after it.
-/

namespace FreeHsm

open Token Transition

/-! ## The delays -/

theorem throttleDouble_succ (n ms : Nat) :
    throttleDouble (n + 1) ms =
      if ms < pinThrottleMaxMs then throttleDouble n (2 * ms) else ms := rfl

theorem le_throttleDouble (n ms : Nat) : ms ≤ throttleDouble n ms := by
  induction n generalizing ms with
  | zero => exact le_refl _
  | succ n ih =>
    rw [throttleDouble_succ]
    split
    · have := ih (2 * ms)
      omega
    · exact le_refl _

theorem throttleDouble_le_succ (n ms : Nat) : throttleDouble n ms ≤ throttleDouble (n + 1) ms := by
  induction n generalizing ms with
  | zero => exact le_throttleDouble 1 ms
  | succ n ih =>
    rw [throttleDouble_succ n, throttleDouble_succ (n + 1)]
    split
    · exact ih (2 * ms)
    · exact le_refl _

theorem throttleDouble_mono {m n : Nat} (h : m ≤ n) (ms : Nat) :
    throttleDouble m ms ≤ throttleDouble n ms := by
  induction h with
  | refl => exact le_refl _
  | step _ ih => exact ih.trans (throttleDouble_le_succ _ ms)

theorem throttleDelayMs_le (fails : UInt32) : throttleDelayMs fails ≤ pinThrottleMaxMs := by
  unfold throttleDelayMs
  split
  · exact Nat.zero_le _
  · exact min_le_right _ _

theorem throttleDelayMs_mono {a b : UInt32} (h : a ≤ b) : throttleDelayMs a ≤ throttleDelayMs b := by
  have hnat : a.toNat ≤ b.toNat := UInt32.le_iff_toNat_le.1 h
  unfold throttleDelayMs
  split
  · exact Nat.zero_le _
  rename_i ha
  have hb : b ≠ 0 := by
    rintro rfl
    exact ha (UInt32.toNat_inj.1 (Nat.le_zero.1 hnat))
  rw [if_neg hb]
  have := throttleDouble_mono (m := a.toNat - 1) (n := b.toNat - 1) (by omega) pinThrottleBaseMs
  omega

/-! ## Threads and time -/

/-- When the count of a role reached its value, and how long the attempt took that brought it
there. -/
structure Mark where
  recorded : Nat
  took : Nat

/-- A process with at most one token loaded, the monotonic clock, and the time each thread sleeps
to. `marks` is not in the program. -/
structure TimedWorld where
  tok : Option Token
  disk : Disk
  clock : Nat
  wakes : Nat → Nat
  marks : PerRole Mark

/-- The calls that try a PIN. -/
def TokenOp.tries : TokenOp → Bool
  | .login .. | .verifyPin .. | .setPin .. => true
  | _ => false

/-- The call made at a time. -/
def TokenOp.atTime (now : Nat) : TokenOp → TokenOp
  | .load env => .load { env with nowMs := now }
  | op => op

inductive TimedEvent
  | wait (ms : Nat)
  /-- Thread `i` takes the mutex at the top of `fhsm_token_verify_pin` or `fhsm_token_login`; if a
  PIN is tried, that takes `took` milliseconds. -/
  | attempt (i : Nat) (verify : Bool) (env : Env) (role : Role) (pin : Bytes) (took : Nat)
  /-- The second section of `fhsm_token_set_pin`. The first is a login. -/
  | setPinWrap (env : Env) (role : Role) (newPin : Bytes)
    | call (op : TokenOp)

/-- The checks before the throttle let an attempt pass. -/
def Token.admits (t : Token) (verify : Bool) (role : Role) : Bool :=
  role ≠ .none && (verify || t.loggedIn = .none) && t.header.failed.get role < pinMaxFailed

/-- `throttle_sleep` is called. -/
def Token.sleeps (t : Token) (verify : Bool) (role : Role) (now : Nat) : Bool :=
  t.admits verify role && now < t.throttleUntilMs.get role

/-- A PIN of a role was tried. -/
def Event.triesPin (role : Role) : Event → Bool
  | .pinTried r _ => r = role
  | _ => false

/-- The number of PINs of a role tried so far. -/
def Disk.tries (d : Disk) (role : Role) : Nat := d.log.countP (Event.triesPin role)

namespace TimedWorld

/-- The mark of a role after a call, which ends at `m.recorded`. -/
def remark (tok tok' : Option Token) (m old : Mark) (role : Role) : Mark :=
  match tok, tok' with
  | _, none => old
  | none, some _ => m
  | some t, some t' => if t'.header.failed.get role = t.header.failed.get role then old else m

/-- A call has ended. -/
def settle (w : TimedWorld) (tok' : Option Token) (d : Disk) (took : Nat) : TimedWorld :=
  { w with
    tok := tok'
    disk := d
    clock := w.clock + took
    marks := ⟨remark w.tok tok' ⟨w.clock + took, took⟩ w.marks.so .so,
      remark w.tok tok' ⟨w.clock + took, took⟩ w.marks.user .user⟩ }

def step (C : Crypto) (w : TimedWorld) : TimedEvent → TimedWorld
  | .wait ms => { w with clock := w.clock + ms }
  | .attempt i verify env role pin took =>
    match w.tok with
    | none => w
    | some t =>
      if w.clock < w.wakes i then w
      else if t.sleeps verify role w.clock then
        { w with wakes := fun j => if j = i then t.throttleUntilMs.get role else w.wakes j }
      else
        let env := { env with nowMs := w.clock }
        let (_, t', d) :=
          if verify then t.verifyPin C env role pin w.disk else t.login C env role pin w.disk
        w.settle (some t') d took
  | .setPinWrap env role newPin =>
    match w.tok with
    | none => w
    | some t =>
      let (_, t', d) := t.setPinWrap C env role newPin w.disk
      w.settle (some t') d 0
  | .call op =>
    if op.tries then w
    else
      let w' := World.step C ⟨w.tok, w.disk⟩ (op.atTime w.clock)
      w.settle w'.tok w'.disk 0

/-- If the step tries a PIN, the delay has passed since the count of its role reached its value. -/
def Paced (C : Crypto) (w : TimedWorld) (ev : TimedEvent) : Prop :=
  ∀ role, (w.step C ev).disk.tries role ≠ w.disk.tries role → ∃ t, w.tok = some t ∧
    (w.marks.get role).recorded + throttleDelayMs (t.header.failed.get role) ≤ w.clock

/-- What every call keeps. -/
structure Timed (w : TimedWorld) : Prop where
  past : ∀ role, (w.marks.get role).recorded ≤ w.clock
  due : ∀ t role, w.tok = some t → t.header.failed.get role ≠ 0 →
    (w.marks.get role).recorded + throttleDelayMs (t.header.failed.get role) ≤
      t.throttleUntilMs.get role + (w.marks.get role).took

end TimedWorld

/-! ## What a call does to the counters -/

/-- A count is zero, is as it was with its deadline, or is one more with a deadline that is far
enough. -/
def Token.Counts (now : Nat) (t t' : Token) : Prop :=
  ∀ role, t'.header.failed.get role = 0 ∨
    (t'.header.failed.get role = t.header.failed.get role ∧
      t'.throttleUntilMs.get role = t.throttleUntilMs.get role) ∨
    (t'.header.failed.get role = t.header.failed.get role + 1 ∧
      now + throttleDelayMs (t'.header.failed.get role) ≤ t'.throttleUntilMs.get role)

namespace Token

variable {C : Crypto} {env : Env} {t t' : Token} {d d' : Disk} {rv : Rv} {role : Role} {pin : Bytes}

theorem Counts.of_eq {now : Nat} (hfailed : t'.header.failed = t.header.failed)
    (huntil : t'.throttleUntilMs = t.throttleUntilMs) : Counts now t t' := fun role =>
  .inr (.inl ⟨by rw [hfailed], by rw [huntil]⟩)

theorem Counts.recordFailure (env : Env) (t : Token) (role : Role) :
    Counts env.nowMs t (t.recordFailure env role) := by
  have hdue : ∀ a b delay : Nat, a + delay ≤ max a b + delay := fun a b delay =>
    Nat.add_le_add_right (Nat.le_max_left a b) delay
  intro r
  cases role with
  | so =>
    cases r with
    | so => exact .inr (.inr ⟨rfl, hdue ..⟩)
    | none | user => exact .inr (.inl ⟨rfl, rfl⟩)
  | none | user =>
    cases r with
    | so => exact .inr (.inl ⟨rfl, rfl⟩)
    | none | user => exact .inr (.inr ⟨rfl, hdue ..⟩)

theorem Counts.clearFailures (now : Nat) (t : Token) (role : Role) :
    Counts now t (t.clearFailures role) := by
  intro r
  cases role with
  | so =>
    cases r with
    | so => exact .inl rfl
    | none | user => exact .inr (.inl ⟨rfl, rfl⟩)
  | none | user =>
    cases r with
    | so => exact .inr (.inl ⟨rfl, rfl⟩)
    | none | user => exact .inl rfl

/-- Counters and deadlines are all that matters. -/
theorem Counts.congr {now : Nat} {t₁ : Token} (h : Counts now t t₁)
    (hfailed : t'.header.failed = t₁.header.failed)
    (huntil : t'.throttleUntilMs = t₁.throttleUntilMs) : Counts now t t' := by
  intro role
  rw [hfailed, huntil]
  exact h role

theorem counts_login (h : t.login C env role pin d = (rv, t', d')) : Counts env.nowMs t t' := by
  cases login_cases h with
  | refused | tpmRefused => exact .of_eq rfl rfl
  | wrong es htried hrole t' ht' =>
    subst ht'
    exact (Counts.recordFailure env t role).congr rfl rfl
  | accepted dek es es' htried hrole hfree htpm t₁ t' ht₁ hload =>
    obtain ⟨objs, next, loaded, pub, rfl⟩ := (loadIfNeeded_frame hload).1
    subst ht₁
    exact (Counts.clearFailures env.nowMs t role).congr rfl rfl

theorem counts_verifyPin (h : t.verifyPin C env role pin d = (rv, t', d')) :
    Counts env.nowMs t t' := by
  cases verifyPin_cases h with
  | refused => exact .of_eq rfl rfl
  | wrong es htried hrole t' ht' =>
    subst ht'
    exact .recordFailure env t role
  | right dek es htried hrole t' ht' =>
    subst ht'
    exact .clearFailures env.nowMs t role

theorem counts_setPinWrap {newPin : Bytes} (now : Nat)
    (h : t.setPinWrap C env role newPin d = (rv, t', d')) : Counts now t t' := by
  obtain ⟨w, rfl⟩ := setPinWrap_frame h
  exact .of_eq rfl rfl

/-- A load sets the deadlines from the counters. -/
theorem load_until (h : Token.load env d = (.ok, some t)) (role : Role) :
    t.throttleUntilMs.get role = if t.header.failed.get role = 0 then 0
      else env.nowMs + throttleDelayMs (t.header.failed.get role) := by
  unfold Token.load at h
  split at h
  · cases h
  · cases h
  split at h
  · cases h
  split at h
  · cases h
  rename_i header _
  split at h
  · cases h
  dsimp only at h
  have ht := Option.some.inj (Prod.mk.inj h).2
  obtain ⟨objs, next, pub, hview⟩ := publicViewLoad_frame env { zeroed with
    header := header
    throttleUntilMs :=
      ⟨if header.failed.so = 0 then 0 else env.nowMs + throttleDelayMs header.failed.so,
        if header.failed.user = 0 then 0 else env.nowMs + throttleDelayMs header.failed.user⟩ } d.file
  rw [hview] at ht
  subst ht
  cases role <;> rfl

end Token

/-- A call that tries no PIN. -/
theorem counts_call {C : Crypto} {w w' : World} {op : TokenOp} {rv : Rv} {t t' : Token} (now : Nat)
    (h : w.call C op = (rv, w')) (hop : op.tries = false) (ht : w.tok = some t)
    (ht' : w'.tok = some t') : Token.Counts now t t' := by
  cases call_cases h with
  | idle => 
    cases ht.symm.trans ht'
    exact .of_eq rfl rfl
  | init _ _ _ _ _ _ hnone => cases hnone.symm.trans ht
  | load _ _ _ hnone => cases hnone.symm.trans ht
  | close => cases ht'
  | login | verifyPin | setPin => cases hop
  | logout t htok =>
    cases htok.symm.trans ht
    cases ht'
    exact .of_eq rfl rfl
  | initUserPin env pin rv t₁ t₂ d htok hcase =>
    cases htok.symm.trans ht
    cases ht'
    cases hcase with
    | refused => exact .of_eq rfl rfl
    | failed e dek t₂ hdek hre =>
      cases hre
      exact .of_eq rfl rfl
    | done dek es t₁ t₂ rv d hso hdek hre ht₂ =>
      cases hre
      subst ht₂
      exact (Counts.clearFailures now t .user).congr rfl rfl
  | reinit env newSoPin label rv t₁ t₂ d htok hcase =>
    cases htok.symm.trans ht
    cases ht'
    cases hcase with
    | refused => exact .of_eq rfl rfl
    | noBuffer _ _ _ _ hfailed | notWrapped _ _ _ hfailed => exact .of_eq hfailed rfl
    | written =>
      intro role
      left
      cases role <;> rfl
  | object env op rv t₁ t₂ d htok _ hcase =>
    cases htok.symm.trans ht
    cases ht'
    rcases hcase with ⟨rfl, -⟩ | ⟨objs, next, rfl, -⟩
    · exact .of_eq rfl rfl
    · exact .of_eq rfl rfl

/-- A call that makes a token: its counts are zero or their deadlines are set from now. -/
theorem due_call {C : Crypto} {w w' : World} {op : TokenOp} {rv : Rv} {t' : Token} (now : Nat)
    (h : w.call C (op.atTime now) = (rv, w')) (ht : w.tok = none) (ht' : w'.tok = some t')
    (role : Role) : t'.header.failed.get role = 0 ∨
      now + throttleDelayMs (t'.header.failed.get role) ≤ t'.throttleUntilMs.get role := by
  generalize hop : op.atTime now = op' at h
  cases call_cases h with
  | idle => cases ht.symm.trans ht'
  | close => cases ht'
  | login _ _ _ _ _ _ _ htok | verifyPin _ _ _ _ _ _ _ htok | logout _ htok
  | initUserPin _ _ _ _ _ _ htok | setPin _ _ _ _ _ _ _ _ _ htok | reinit _ _ _ _ _ _ _ htok
  | object _ _ _ _ _ _ htok => cases ht.symm.trans htok
  | init env soPin label rv tok d hnone hcase =>
    left
    cases hcase with
    | refused | notSealed => cases ht'
    | written rv d hwrite =>
      dsimp only at ht'
      split at ht'
      · cases ht'
        cases role <;> rfl
      · cases ht'
  | load env rv tok hnone hcase =>
    have hnow : env.nowMs = now := by
      cases op <;> first | cases hop; rfl | cases hop
    cases hcase with
    | refused => cases ht'
    | done f header until₀ hfile hlen hdecode =>
      have hload : Token.load env w.disk = (.ok, some t') := by
        have hcall : w.call C (.load env) =
            ((Token.load env w.disk).1, ⟨(Token.load env w.disk).2, w.disk⟩) := by
          unfold World.call
          rw [ht]
        rw [hcall] at h
        obtain ⟨hrv, hw⟩ := Prod.mk.inj h
        exact Prod.ext hrv ((congrArg World.tok hw).trans ht')
      have huntil := load_until hload role
      by_cases hzero : t'.header.failed.get role = 0
      · exact .inl hzero
      · rw [if_neg hzero, hnow] at huntil
        exact .inr (le_of_eq huntil.symm)

/-! ## Which steps try a PIN -/

section Tries

variable {C : Crypto} {env : Env} {t t' : Token} {d d' : Disk} {rv : Rv} {role r : Role} {pin : Bytes}

theorem Disk.tries_record (d : Disk) (es : List Event) (r : Role) :
    (d.record es).tries r = d.tries r + es.countP (Event.triesPin r) := List.countP_append

theorem tries_writeAtomic (h : writeAtomic C env t d = (rv, d')) (r : Role) :
    d'.tries r = d.tries r := by
  cases writeAtomic_cases h <;> exact List.countP_append

theorem Token.Tried.eq_role {k : Option Key} {es : List Event} (h : Tried C t role pin k es)
    (hr : es.countP (Event.triesPin r) ≠ 0) : r = role := by
  by_contra hne
  have hne : role ≠ r := Ne.symm hne
  rcases h.events with ⟨-, rfl⟩ | ⟨pt, -, rfl⟩ <;>
    simp [Event.triesPin, Header.unwrapEvent, hne] at hr

/-- What a call tries on the wrapped DEK and then writes. -/
theorem Token.Tried.of_tries {k : Option Key} {es es' : List Event} (h : Tried C t role pin k es)
    (hes : es'.countP (Event.triesPin r) = 0)
    (hr : (writeAtomic C env t' (d.record (es ++ es'))).2.tries r ≠ d.tries r) : r = role := by
  refine h.eq_role fun hzero => hr ((tries_writeAtomic rfl r).trans ?_)
  simp [Disk.tries_record, hzero, hes]

theorem tries_login (h : t.login C env role pin d = (rv, t', d')) (hr : d'.tries r ≠ d.tries r) :
    r = role ∧ t.admits false role = true := by
  have hfree : t.loggedIn = .none := by
    by_contra hin
    unfold Token.login at h
    rw [if_pos hin] at h
    split at h <;> cases h <;> exact hr rfl
  have hadmits {k es} (h : Tried C t role pin k es) (hrole : role ≠ .none) :
      t.admits false role = true := by
    simp [Token.admits, hrole, hfree, h.notLocked]
  cases login_cases h with
  | refused => exact absurd rfl hr
  | wrong es htried hrole =>
    rw [← List.append_nil es] at hr
    exact ⟨htried.of_tries rfl hr, hadmits htried hrole⟩
  | tpmRefused dek es htried hrole =>
    rw [Disk.tries_record] at hr
    exact ⟨htried.eq_role fun hzero => hr (by rw [hzero]; rfl), hadmits htried hrole⟩
  | accepted dek es es' htried hrole _ _ t₁ t' _ hload =>
    refine ⟨htried.of_tries ?_ hr, hadmits htried hrole⟩
    rcases (loadIfNeeded_frame hload).2 with rfl | ⟨_, _, _, _, _, _, rfl⟩ <;> rfl

theorem tries_verifyPin (h : t.verifyPin C env role pin d = (rv, t', d'))
    (hr : d'.tries r ≠ d.tries r) : r = role ∧ t.admits true role = true := by
  cases verifyPin_cases h with
  | refused => exact absurd rfl hr
  | wrong es htried hrole =>
    rw [← List.append_nil es] at hr
    exact ⟨htried.of_tries rfl hr, by simp [Token.admits, hrole, htried.notLocked]⟩
  | right dek es htried hrole =>
    exact ⟨htried.of_tries rfl hr, by simp [Token.admits, hrole, htried.notLocked]⟩

theorem tries_setPinWrap {newPin : Bytes} (h : t.setPinWrap C env role newPin d = (rv, t', d'))
    (r : Role) : d'.tries r = d.tries r := by
  unfold setPinWrap at h
  split at h
  · rename_i hre
    cases h
    cases rewrapDek_cases hre
    exact Disk.tries_record ..
  · rename_i hre
    cases h
    cases rewrapDek_cases hre
    exact (tries_writeAtomic rfl r).trans (Disk.tries_record ..)

theorem tries_call {w w' : World} {op : TokenOp} (h : w.call C op = (rv, w'))
    (hop : op.tries = false) (r : Role) : w'.disk.tries r = w.disk.tries r := by
  cases call_cases h with
  | login | verifyPin | setPin => cases hop
  | idle | load | close | logout => rfl
  | init env soPin label rv t d hnone hcase =>
    cases hcase with
    | refused => rfl
    | notSealed => exact Disk.tries_record ..
    | written rv d hwrite => exact (tries_writeAtomic hwrite r).trans (Disk.tries_record ..)
  | initUserPin env pin rv t t' d htok hcase =>
    cases hcase with
    | refused | failed => rfl
    | done dek es t₁ t₂ rv d hso hdek hre ht₂ hwrite =>
      cases hre
      exact (tries_writeAtomic hwrite r).trans (Disk.tries_record ..)
  | reinit env newSoPin label rv t t' d htok hcase =>
    cases hcase with
    | refused | noBuffer | notWrapped => rfl
    | written rv d hwrite => exact (tries_writeAtomic hwrite r).trans (Disk.tries_record ..)
  | object env op rv t t' d htok hcall hcase =>
    rcases hcase with ⟨-, rfl⟩ | ⟨_, _, -, hwrite⟩
    · rfl
    · exact tries_writeAtomic hwrite r

end Tries

namespace TimedWorld

variable {C : Crypto} {w : TimedWorld}

theorem get_marks_settle (w : TimedWorld) (tok' : Option Token) (d : Disk) (took : Nat)
    (role : Role) : (w.settle tok' d took).marks.get role =
      remark w.tok tok' ⟨w.clock + took, took⟩ (w.marks.get role) role := by
  cases role <;> rfl

theorem Timed.settle (hw : w.Timed) {tok' : Option Token} {d : Disk} {took : Nat}
    (hcounts : ∀ t t', w.tok = some t → tok' = some t' → Token.Counts w.clock t t')
    (hnew : ∀ t' role, w.tok = none → tok' = some t' → t'.header.failed.get role = 0 ∨
      w.clock + throttleDelayMs (t'.header.failed.get role) ≤ t'.throttleUntilMs.get role) :
    (w.settle tok' d took).Timed := by
  constructor
  · intro role
    rw [get_marks_settle]
    have hpast := hw.past role
    unfold remark
    split
    · exact hpast.trans (Nat.le_add_right _ _)
    · exact le_refl _
    · split
      · exact hpast.trans (Nat.le_add_right _ _)
      · exact le_refl _
  · intro t' role ht' hfailed
    obtain rfl : tok' = some t' := ht'
    rw [get_marks_settle]
    cases ht : w.tok with
    | none =>
      rcases hnew t' role ht rfl with hzero | hdue
      · exact absurd hzero hfailed
      · change w.clock + took + _ ≤ _ + took
        omega
    | some t =>
      simp only [remark]
      rcases hcounts t t' ht rfl role with hzero | ⟨hsame, huntil⟩ | ⟨hmore, hdue⟩
      · exact absurd hzero hfailed
      · rw [if_pos hsame, hsame, huntil]
        exact hw.due t role ht (hsame ▸ hfailed)
      · have hne : t'.header.failed.get role ≠ t.header.failed.get role := by
          rw [hmore]
          intro h
          simp at h
        rw [if_neg hne]
        change w.clock + took + _ ≤ _ + took
        omega

/-- Every step keeps the invariant. -/
theorem Timed.step (ev : TimedEvent) (hw : w.Timed) : (w.step C ev).Timed := by
  cases ev with
  | wait ms => exact ⟨fun role => (hw.past role).trans (Nat.le_add_right _ _), hw.due⟩
  | attempt i verify env role pin took =>
    unfold TimedWorld.step
    dsimp only
    split
    · exact hw
    rename_i t ht
    split
    · exact hw
    split
    · exact ⟨hw.past, hw.due⟩
    apply hw.settle
    · intro t₁ t' ht₁ ht'
      cases ht.symm.trans ht₁
      cases ht'
      change Token.Counts ({ env with nowMs := w.clock } : Env).nowMs t _
      cases verify with
      | true => exact counts_verifyPin rfl
      | false => exact counts_login rfl
    · intro _ _ hnone
      cases hnone.symm.trans ht
  | setPinWrap env role newPin =>
    unfold TimedWorld.step
    dsimp only
    split
    · exact hw
    rename_i t ht
    apply hw.settle
    · intro t₁ t' ht₁ ht'
      cases ht.symm.trans ht₁
      cases ht'
      exact counts_setPinWrap w.clock rfl
    · intro _ _ hnone
      cases hnone.symm.trans ht
  | call op =>
    unfold TimedWorld.step
    dsimp only
    split
    · exact hw
    rename_i hop
    have htries : (op.atTime w.clock).tries = false := by
      cases op <;> first | rfl | exact absurd rfl hop
    apply hw.settle
    · intro t t' ht ht'
      exact counts_call w.clock rfl htries ht ht'
    · intro t' role ht ht'
      exact due_call w.clock rfl ht ht' role

/-- A process that has just started. -/
def start (disk : Disk) (clock : Nat) : TimedWorld :=
  ⟨none, disk, clock, fun _ => 0, ⟨⟨0, 0⟩, ⟨0, 0⟩⟩⟩

theorem timed_run (C : Crypto) (disk : Disk) (clock : Nat) (evs : List TimedEvent) :
    (run (step C) (start disk clock) evs).Timed := by
  have hstart : (start disk clock).Timed := by
    refine ⟨fun role => ?_, nofun⟩
    cases role <;> exact Nat.zero_le _
  exact run_invariant (C := fun _ _ => True) (fun _ ev hw _ => hw.step ev) hstart
    (along_of_forall (fun _ _ => trivial) _ _)

/-- Trying a PIN takes no time on the clock. -/
def Instant : TimedEvent → Prop
  | .attempt _ _ _ _ _ took => took = 0
  | _ => True

/-- No mark stands for an attempt that took time. -/
def Quick (w : TimedWorld) : Prop := ∀ role, (w.marks.get role).took = 0

theorem Quick.settle (hw : w.Quick) (tok' : Option Token) (d : Disk) : (w.settle tok' d 0).Quick := by
  intro role
  rw [get_marks_settle]
  unfold remark
  split
  · exact hw role
  · rfl
  · split
    · exact hw role
    · rfl

theorem Quick.step (ev : TimedEvent) (hw : w.Quick) (hinstant : Instant ev) :
    (w.step C ev).Quick := by
  cases ev with
  | wait ms => exact hw
  | attempt i verify env role pin took =>
    obtain rfl : took = 0 := hinstant
    unfold TimedWorld.step
    dsimp only
    split
    · exact hw
    split
    · exact hw
    split
    · exact hw
    · exact hw.settle _ _
  | setPinWrap env role newPin =>
    unfold TimedWorld.step
    dsimp only
    split
    · exact hw
    · exact hw.settle _ _
  | call op =>
    unfold TimedWorld.step
    dsimp only
    split
    · exact hw
    · exact hw.settle _ _

/-- A PIN is tried no earlier than the deadline of its role. -/
theorem until_le_of_tries {ev : TimedEvent} {role : Role}
    (h : (w.step C ev).disk.tries role ≠ w.disk.tries role) :
    ∃ t, w.tok = some t ∧ t.throttleUntilMs.get role ≤ w.clock := by
  cases ev with
  | wait => exact absurd rfl h
  | attempt i verify env role' pin took =>
    unfold TimedWorld.step at h
    dsimp only at h
    split at h
    · exact absurd rfl h
    rename_i t ht
    split at h
    · exact absurd rfl h
    split at h
    · exact absurd rfl h
    rename_i hawake
    have hrole : role = role' ∧ t.admits verify role' = true := by
      cases verify with
      | true => exact tries_verifyPin rfl h
      | false => exact tries_login rfl h
    obtain ⟨rfl, hadmits⟩ := hrole
    refine ⟨t, ht, ?_⟩
    simpa [Token.sleeps, hadmits] using hawake
  | setPinWrap env role' newPin =>
    unfold TimedWorld.step at h
    dsimp only at h
    split at h
    · exact absurd rfl h
    · exact absurd (tries_setPinWrap rfl role) h
  | call op =>
    unfold TimedWorld.step at h
    dsimp only at h
    split at h
    · exact absurd rfl h
    rename_i hop
    have htries : (op.atTime w.clock).tries = false := by
      cases op <;> first | rfl | exact absurd rfl hop
    exact absurd (tries_call rfl htries role) h

/-- If trying a PIN takes no time, every PIN is tried at least the delay after the failure that
brought the count of its role to its value was recorded, or after the token was loaded. The delays
grow with the count and are bounded. -/
theorem attempts_paced (C : Crypto) (disk : Disk) (clock : Nat) (evs : List TimedEvent)
    (hinstant : Along (step C) (fun _ ev => Instant ev) (start disk clock) evs) :
    Along (step C) (Paced C) (start disk clock) evs ∧
      (∀ a b : UInt32, a ≤ b → throttleDelayMs a ≤ throttleDelayMs b) ∧
      ∀ n : UInt32, throttleDelayMs n ≤ pinThrottleMaxMs := by
  refine ⟨?_, fun _ _ => throttleDelayMs_mono, throttleDelayMs_le⟩
  have hstart : (start disk clock).Quick := by
    intro role
    cases role <;> rfl
  refine along_of_invariant (P := fun w => w.Timed ∧ w.Quick)
    (fun w ev hw hev => ⟨hw.1.step ev, hw.2.step ev hev⟩) ?_
    ⟨timed_run C disk clock [], hstart⟩ hinstant
  rintro w ev ⟨htimed, hquick⟩ - role htries
  obtain ⟨t, ht, huntil⟩ := until_le_of_tries htries
  refine ⟨t, ht, ?_⟩
  by_cases hzero : t.header.failed.get role = 0
  · rw [hzero]
    exact htimed.past role
  · have hdue := htimed.due t role ht hzero
    rw [hquick role] at hdue
    omega

/-- A new token, a wrong PIN of its SO, and the right one after a while. -/
def twoTries (took wait : Nat) : List TimedEvent :=
  [.call (.init .quiet (List.replicate 8 0x31) []),
    .attempt 0 true .quiet .so (List.replicate 8 0x32) took, .wait wait,
    .attempt 0 true .quiet .so (List.replicate 8 0x31) took]

theorem attempts_paced_wrongThenRight :
    let w := start ⟨none, []⟩ 0
    Along (step .plain) (Paced .plain) w (twoTries 0 500) ∧
      (run (step .plain) w (twoTries 0 500)).disk.tries .so = 2 :=
  ⟨(attempts_paced .plain ⟨none, []⟩ 0 (twoTries 0 500) ⟨trivial, rfl, trivial, rfl, trivial⟩).1,
    by decide +kernel⟩

/-- The failed attempt takes 100 milliseconds, and the next PIN is tried as soon as it may be: 100
milliseconds early. -/
theorem attempt_early :
    let w := run (step .plain) (start ⟨none, []⟩ 0) ((twoTries 100 400).take 3)
    let w' := run (step .plain) (start ⟨none, []⟩ 0) (twoTries 100 400)
    (w.tok.map (·.header.failed.so), w.disk.tries .so, w'.disk.tries .so) = (some 1, 1, 2) ∧
      w.marks.so.recorded + throttleDelayMs 1 = w.clock + 100 ∧
      ¬Along (step .plain) (Paced .plain) (start ⟨none, []⟩ 0) (twoTries 100 400) := by
  intro w w'
  have htries : (w.tok.map (·.header.failed.so), w.disk.tries .so, w'.disk.tries .so) =
      (some 1, 1, 2) := by decide +kernel
  have hearly : w.marks.so.recorded + throttleDelayMs 1 = w.clock + 100 := by decide +kernel
  refine ⟨htries, hearly, fun hpaced => ?_⟩
  obtain ⟨hfailed, hbefore, hafter⟩ : _ ∧ _ ∧ _ := by simpa only [Prod.mk.injEq] using htries
  obtain ⟨t, ht, hlate⟩ := hpaced.2.2.2.1 .so (hafter.trans_ne (hbefore ▸ by decide))
  change w.tok = some t at ht
  rw [ht] at hfailed
  have hget : t.header.failed.get .so = 1 := Option.some.inj hfailed
  rw [hget] at hlate
  change w.marks.so.recorded + _ ≤ w.clock at hlate
  omega

end TimedWorld

end FreeHsm
