import FreeHsm.ForStd.Lockout
import FreeHsm.Token.Run

/-!
# PIN failure counters

The failure counter of a role lives in memory and in the file header. As long as
writes succeed the two agree whenever a token is loaded, so a restart gives no
attempt back, and the counter is a lockout counter: the history of a role replays
on `Lockout.replay` with the limit `FHSM_PIN_MAX_FAILED`.
-/

namespace FreeHsm

open Lockout Token Transition Event World List

/-- What an event is for the failure counter of a role. -/
def Event.lockout (r : Role) : Event → Option Ev
  | .pinTried role false => if role = r then some .wrong else none
  | .cleared role => if role = r then some .clear else none
  | _ => none

/-- `FHSM_PIN_MAX_FAILED` as a limit. -/
def pinLimit : Nat := pinMaxFailed.toNat

/-- From disk `d` to `d'` the history grew, and what it says of role `r` moves the counter from
    `c` to `c'`. -/
def CounterMoves (r : Role) (d : Disk) (c : Nat) (d' : Disk) (c' : Nat) : Prop :=
  ∃ new, d'.log = d.log ++ new ∧ replay pinLimit c (new.filterMap (Event.lockout r)) = some c'

def Event.isFailedWrite : Event → Bool
  | .wrote (.err _) => true
  | _ => false

/-- Every write so far succeeded. -/
def WritesOk (d : Disk) : Prop := ∀ e ∈ d.log, e.isFailedWrite = false

variable {d d' : Disk} {C : Crypto} {env : Env} {t t' : Token} {rv : Rv} {role r other : Role}
  {pin : Bytes} {es : List Event} {dek : Key}

theorem WritesOk.of_append {new : List Event} (h : d'.log = d.log ++ new) (hok : WritesOk d') :
    WritesOk d := by
  intro e hmem
  exact hok e (by rw [h]; exact mem_append_left _ hmem)

namespace CounterMoves

variable {r : Role} {d d₁ d' : Disk} {c c₁ c' : Nat}

theorem refl (r : Role) (d : Disk) (c : Nat) : CounterMoves r d c d c :=
  ⟨[], by simp, rfl⟩

theorem trans (h : CounterMoves r d c d₁ c₁) (h' : CounterMoves r d₁ c₁ d' c') :
    CounterMoves r d c d' c' := by
  obtain ⟨new, hlog, hreplay⟩ := h
  obtain ⟨new', hlog', hreplay'⟩ := h'
  refine ⟨new ++ new', by rw [hlog', hlog, append_assoc], ?_⟩
  rw [filterMap_append, replay_append _ _ hreplay, hreplay']

theorem record (h : replay pinLimit c (es.filterMap (lockout r)) = some c') :
    CounterMoves r d c (d.record es) c' :=
  ⟨es, rfl, h⟩

/-- A write is not an attempt. -/
theorem write (h : writeAtomic C env t d = (rv, d')) : CounterMoves r d c d' c := by
  cases writeAtomic_cases h with
  | failed | lost | kept | emptied | stored => exact ⟨_, rfl, rfl⟩

theorem writesOk (h : CounterMoves r d c d' c') (hok : WritesOk d') : WritesOk d := by
  obtain ⟨new, hlog, -⟩ := h
  exact hok.of_append hlog

end CounterMoves

/-- The counters in the header of a file. -/
def storedFailed (file : Option Bytes) : Option (PerRole UInt32) :=
  (file.bind Header.decode).map Header.failed

theorem storedFailed_write (h : writeAtomic C env t d = (rv, d')) (hok : WritesOk d') :
    storedFailed d'.file = some t.header.failed := by
  have hstored : ∀ tail, storedFailed (some (t.header.encode ++ tail)) = some t.header.failed := by
    intro tail
    simp [storedFailed, t.header.decode_encode]
  cases writeAtomic_cases h with
  | failed e => exact absurd (hok (.wrote (.err e)) (by simp)) nofun
  | lost => exact absurd (hok (.wrote (.err .functionFailed)) (by simp)) nofun
  | kept | emptied | stored => exact hstored _

/-- The value of a counter in a token. -/
def Token.failedCount (t : Token) (r : Role) : Nat := (t.header.failed.get r).toNat

/-- Trying a PIN is a wrong attempt on its role, or nothing to the counter. -/
theorem lockout_tried {res : Option Key} (h : Tried C t role pin res es) (r : Role) :
    es.filterMap (lockout r) = if res = none ∧ role = r then [.wrong] else [] := by
  have hopened : ∀ pt, lockout r (t.header.unwrapEvent C role pin pt) = none := fun _ => rfl
  rcases h.events with ⟨rfl, rfl⟩ | ⟨pt, -, rfl⟩
  · by_cases hrole : role = r <;> simp [lockout, hrole]
  · rw [filterMap_cons, hopened]
    cases res with
    | none => by_cases hrole : role = r <;> simp [lockout, hrole]
    | some dek => simp [filterMap_cons, lockout]

theorem toNat_succ_of_lt {n : UInt32} (h : n < pinMaxFailed) : (n + 1).toNat = n.toNat + 1 := by
  have hlt : n.toNat < 5 := h
  rw [UInt32.toNat_add]
  exact Nat.mod_eq_of_lt (by simp; omega)

/-- A wrong PIN: the counter of its role goes up by one, below the limit. -/
theorem counter_wrong (env : Env) (d : Disk) (h : Tried C t role pin none es) (hrole : role ≠ .none)
    (hr : r ≠ .none) :
    CounterMoves r d (t.failedCount r) (d.record es) ((t.recordFailure env role).failedCount r) := by
  apply CounterMoves.record
  rw [lockout_tried h]
  by_cases hsame : role = r
  · subst hsame
    have hlt : t.failedCount role < pinLimit := h.notLocked
    simp only [and_self, ↓reduceIte, replay, hlt]
    simp only [failedCount, recordFailure, PerRole.get_set_self, toNat_succ_of_lt h.notLocked]
  · simp only [hsame, and_false, ↓reduceIte, replay]
    simp only [failedCount, recordFailure]
    rw [PerRole.get_set_of_ne _ _ hrole hr (Ne.symm hsame)]

/-- A right PIN: the counter of its role is cleared, whatever else was recorded. -/
theorem counter_right {es' : List Event} (d : Disk) (h : Tried C t role pin (some dek) es)
    (hrole : role ≠ .none) (hr : r ≠ .none) (hes' : es'.filterMap (lockout r) = []) :
    CounterMoves r d (t.failedCount r) (d.record (es ++ .cleared role :: es'))
      ((t.clearFailures role).failedCount r) := by
  apply CounterMoves.record
  rw [filterMap_append, lockout_tried h]
  by_cases hsame : role = r
  · subst hsame
    simp [lockout, hes', replay, failedCount, clearFailures]
  · simp only [lockout, hsame, ↓reduceIte, filterMap_cons, hes']
    simp only [failedCount, clearFailures]
    rw [PerRole.get_set_of_ne _ _ hrole hr (Ne.symm hsame)]
    simp [replay]

/-! ## One call -/

/-- The counter of the file agrees with the counter of the token. -/
def InSync (t : Token) (d : Disk) : Prop := storedFailed d.file = some t.header.failed

/-- From one token and disk to others, while writes succeed, the counter in memory moves as the history
says, and the one in the file with it. -/
def Counts (r : Role) (t : Token) (d : Disk) (t' : Token) (d' : Disk) : Prop :=
  WritesOk d' → InSync t d → CounterMoves r d (t.failedCount r) d' (t'.failedCount r) ∧ InSync t' d'

theorem Counts.refl (r : Role) (t : Token) (d : Disk) : Counts r t d t d :=
  fun _ hsync => ⟨.refl .., hsync⟩

/-- Events, and then a write. -/
theorem Counts.write {d₁ : Disk} (h : CounterMoves r d (t.failedCount r) d₁ (t'.failedCount r))
    (hwrite : writeAtomic C env t' d₁ = (rv, d')) : Counts r t d t' d' :=
  fun hok _ => ⟨h.trans (.write hwrite), storedFailed_write hwrite hok⟩

theorem Counts.congr (h : Counts r t d t' d') {t₁ : Token} (hfailed : t₁.header.failed = t'.header.failed) :
    Counts r t d t₁ d' := by
  unfold Counts InSync failedCount at *
  rwa [hfailed]

section

variable (hr : r ≠ .none)
include hr

theorem login_counter (h : LoginOutcome C env t role pin d rv t' d') : Counts r t d t' d' := by
  cases h with
  | refused e => exact .refl r t d
  | wrong es htried hrole _ ht' =>
    subst ht'
    exact .write (counter_wrong env d htried hrole hr) rfl
  | tpmRefused dek es htried htpm =>
    refine fun _ hsync => ⟨.record ?_, hsync⟩
    rw [lockout_tried htried]
    rfl
  | accepted dek es es' htried hrole hfree htpm t₁ _ ht₁ ht' =>
    obtain ⟨⟨objs, next, loaded, pub, hframe⟩, hes'⟩ := loadIfNeeded_frame ht'
    have hfailed : t'.failedCount r = (t.clearFailures role).failedCount r := by
      rw [hframe, ht₁]; rfl
    refine .write ?_ rfl
    rw [hfailed]
    refine counter_right d htried hrole hr ?_
    -- a decryption of the blob is nothing to the counter
    rcases hes' with rfl | ⟨_, _, _, _, _, _, rfl⟩ <;> rfl

theorem verifyPin_counter (h : VerifyOutcome C env t role pin d rv t' d') : Counts r t d t' d' := by
  cases h with
  | refused e => exact .refl r t d
  | wrong es htried hrole _ ht' =>
    subst ht'
    exact .write (counter_wrong env d htried hrole hr) rfl
  | right dek es htried hrole _ ht' =>
    subst ht'
    exact .write (counter_right d htried hrole hr rfl) rfl

omit hr in

theorem rewrap_failed {res : Option Err} (h : RewrapOutcome C env t role pin dek res t' es) :
    t'.header.failed = t.header.failed := by
  cases h <;> rfl

omit hr in
theorem rewrap_lockout {res : Option Err} (r : Role)
    (h : RewrapOutcome C env t role pin dek res t' es) : es.filterMap (lockout r) = [] := by
  cases h <;> rfl

theorem initUserPin_counter (h : InitUserPinOutcome C env t pin d rv t' d') : Counts r t d t' d' := by
  cases h with
  | refused e => exact .refl r t d
  | failed e dek _ hdek hre => exact (Counts.refl r t d).congr (rewrap_failed hre)
  | done dek es t₁ _ _ _ hso hdek hre ht' hwrite =>
    refine .write (.record ?_) hwrite
    subst ht'
    have hfailed := rewrap_failed hre
    rw [filterMap_append, rewrap_lockout r hre]
    by_cases huser : r = .user
    · subst huser
      simp [lockout, replay, failedCount, clearFailures]
    · have hother : ¬ .user = r := Ne.symm huser
      simp only [failedCount, clearFailures, hfailed]
      rw [PerRole.get_set_of_ne _ _ (by decide) hr huser]
      simp [lockout, hother, replay]

theorem setPin_counter {loginEnv : Env} {oldPin newPin : Bytes}
    (h : SetPinOutcome C loginEnv env t role oldPin newPin d rv t' d') : Counts r t d t' d' := by
  cases h with
  | refused e => exact .refl r t d
  | noLogin e _ _ hlogin => exact login_counter hr hlogin
  | failed e dek t₁ _ _ hlogin hre => exact (login_counter hr hlogin).congr (rewrap_failed hre)
  | done dek es t₁ _ d₁ _ _ hlogin hdek hre hwrite =>
    intro hok hsync
    have hrecord : CounterMoves r d₁ (t'.failedCount r) d' (t'.failedCount r) := by
      refine .trans (.record ?_) (.write hwrite)
      rw [rewrap_lockout r hre]
      rfl
    obtain ⟨hmoves, -⟩ := login_counter hr hlogin (hrecord.writesOk hok) hsync
    have hfailed : t'.failedCount r = t₁.failedCount r := by
      simp only [failedCount, rewrap_failed hre]
    rw [hfailed] at hrecord ⊢
    exact ⟨hmoves.trans hrecord, storedFailed_write hwrite hok⟩

theorem counter_created {header : Header} (d : Disk) (c : Nat) :
    CounterMoves r d c (d.record [wrappedEvent C env header pin, .cleared .so, .cleared .user]) 0 := by
  apply CounterMoves.record
  cases r with
  | none => exact absurd rfl hr
  | so => rfl
  | user => rfl

theorem reinit_counter {newSoPin label : Bytes}
    (h : ReinitOutcome C env t newSoPin label d rv t' d') : Counts r t d t' d' := by
  cases h with
  | refused e => exact .refl r t d
  | noBuffer e hdek halloc header hfailed | notWrapped e hfail header hfailed =>
    exact (Counts.refl r t d).congr hfailed
  | written _ _ hwrite =>
    refine .write ?_ hwrite
    have hzero : (t.reinitToken C env newSoPin label).failedCount r = 0 := by cases r <;> rfl
    rw [hzero]
    exact counter_created hr d _

end

theorem write_ok (h : writeAtomic C env t d = (rv, d')) (hok : WritesOk d') : rv = .ok := by
  cases writeAtomic_cases h with
  | failed e => exact absurd (hok (.wrote (.err e)) (by simp)) nofun
  | lost => exact absurd (hok (.wrote (.err .functionFailed)) (by simp)) nofun
  | kept | emptied | stored => rfl

/-- The failure counter of a role: in memory when the token is loaded, else in the file. -/
def World.counter (w : World) (r : Role) : Nat :=
  match w.tok with
  | some t => t.failedCount r
  | none => match storedFailed w.disk.file with
    | some failed => (failed.get r).toNat
    | none => 0

def World.Synced (w : World) : Prop := ∀ t, w.tok = some t → InSync t w.disk

/-- One call moves the counter of a role as its history entries say. -/
theorem call_counter {w w' : World} {op : TokenOp} (hr : r ≠ .none) (h : CallOutcome C w op rv w')
    (hok : WritesOk w'.disk) (hsync : w.Synced) :
    CounterMoves r w.disk (w.counter r) w'.disk (w'.counter r) ∧ w'.Synced := by
  -- a call on a loaded token, from the lemma of its function
  have onToken : ∀ {t t' : Token} {d' : Disk}, w.tok = some t → WritesOk d' →
      Counts r t w.disk t' d' →
      CounterMoves r w.disk (w.counter r) d' ((mk (some t') d').counter r) ∧
        (mk (some t') d').Synced := by
    intro t t' d' htok hok hcounts
    obtain ⟨hmoves, hsync'⟩ := hcounts hok (hsync t htok)
    refine ⟨by simpa only [counter, htok] using hmoves, ?_⟩
    rintro _ ⟨⟩
    exact hsync'
  -- a call that leaves no token and does not touch the file
  have noToken : ∀ {d' : Disk}, w.tok = none → d'.file = w.disk.file →
      CounterMoves r w.disk (w.counter r) d' (w.counter r) →
      CounterMoves r w.disk (w.counter r) d' ((mk none d').counter r) ∧
        (mk none d').Synced := by
    intro d' htok hfile hmoves
    refine ⟨?_, nofun⟩
    have hcounter : (mk none d').counter r = w.counter r := by
      simp only [counter, htok, hfile]
    rw [hcounter]
    exact hmoves
  cases h with
  | idle => exact ⟨.refl .., hsync⟩
  | init env soPin label _ _ _ hnone h =>
    cases h with
    | refused e => exact noToken hnone rfl (.refl ..)
    | notSealed e => exact noToken hnone rfl (.record rfl)
    | written rv' _ hwrite =>
      have hrv : rv' = .ok := write_ok hwrite hok
      subst hrv
      have hzero : (initialToken C env soPin label).failedCount r = 0 := by cases r <;> rfl
      refine ⟨?_, ?_⟩
      · show CounterMoves r _ _ _ ((initialToken C env soPin label).failedCount r)
        rw [hzero]
        exact (counter_created hr w.disk _).trans (.write hwrite)
      · rintro _ ⟨⟩
        exact storedFailed_write hwrite hok
  | load env _ _ hnone h =>
    cases h with
    | refused e => exact noToken hnone rfl (.refl ..)
    | done f header until₀ hfile hlen hdecode =>
      obtain ⟨objs, next, pub, hview⟩ := publicViewLoad_frame env
        { zeroed with header := header, throttleUntilMs := until₀ } w.disk.file
      have hstored : storedFailed w.disk.file = some header.failed := by
        simp [storedFailed, hfile, hdecode]
      rw [hview]
      refine ⟨?_, ?_⟩
      · have hcounter : w.counter r = (header.failed.get r).toNat := by
          simp only [counter, hnone, hstored]
        rw [hcounter]
        exact .refl ..
      · rintro _ ⟨⟩
        exact hstored
  | close =>
    cases htok : w.tok with
    | none => exact noToken htok rfl (.refl ..)
    | some t =>
      have hstored : storedFailed w.disk.file = some t.header.failed := hsync t htok
      refine ⟨?_, nofun⟩
      simp only [counter, htok, hstored]
      exact .refl ..
  | login _ _ _ _ _ _ _ htok h => exact onToken htok hok (login_counter hr h)
  | verifyPin _ _ _ _ _ _ _ htok h => exact onToken htok hok (verifyPin_counter hr h)
  | logout t htok => exact onToken htok hok ((Counts.refl r t _).congr rfl)
  | initUserPin _ _ _ _ _ _ htok h => exact onToken htok hok (initUserPin_counter hr h)
  | setPin _ _ _ _ _ _ _ _ _ htok h => exact onToken htok hok (setPin_counter hr h)
  | reinit _ _ _ _ _ _ _ htok h => exact onToken htok hok (reinit_counter hr h)
  | object env op _ t t' _ htok hcall h =>
    apply onToken htok hok
    rcases h with ⟨rfl, rfl⟩ | ⟨objs, next, rfl, hwrite⟩
    · exact .refl r _ _
    · exact .write (.refl ..) hwrite

/-! ## Runs -/

/-- The counter of a role follows the history of the run, restarts included. -/
theorem run_counter {w : World} (hr : r ≠ .none) (hsync : w.Synced) (ops : List TokenOp)
    (hok : WritesOk (run (step C) w ops).disk) :
    CounterMoves r w.disk (w.counter r) (run (step C) w ops).disk
      ((run (step C) w ops).counter r) ∧ (run (step C) w ops).Synced := by
  induction ops generalizing w with
  | nil => exact ⟨.refl .., hsync⟩
  | cons op ops ih =>
    obtain ⟨rv, hcase⟩ := step_cases C w op
    -- the history only grows, so the writes of this call succeeded too
    obtain ⟨new, hnew⟩ := run_log C (w.step C op) ops
    obtain ⟨hmoves, hsync'⟩ := call_counter hr hcase (hok.of_append hnew) hsync
    obtain ⟨hrest, hend⟩ := ih hsync' hok
    exact ⟨hmoves.trans hrest, hend⟩

/-- The event is a wrong PIN of the role. -/
def Event.isWrong (r : Role) (e : Event) : Bool := e.lockout r == some .wrong

theorem count_lockout (r : Role) (es : List Event) :
    (es.filterMap (lockout r)).count .wrong = es.countP (isWrong r) := by
  induction es with
  | nil => rfl
  | cons e es ih =>
    rw [countP_cons, ← ih]
    cases h : e.lockout r with
    | none => simp [isWrong, h]
    | some ev => cases ev <;> simp [isWrong, h]

theorem clear_not_mem_lockout (h : .cleared r ∉ es) :
    Ev.clear ∉ es.filterMap (lockout r) := by
  intro hmem
  obtain ⟨e, he, hclear⟩ := mem_filterMap.mp hmem
  cases e with
  | cleared role =>
    by_cases hrole : role = r
    · exact h (hrole ▸ he)
    · simp [lockout, hrole] at hclear
  | pinTried role right =>
    cases right with
    | true => cases hclear
    | false => by_cases hrole : role = r <;> simp [lockout, hrole] at hclear
  | wrapped | sealed | opened | wrote => cases hclear

theorem evalPin_locked {b : Bool} (h : pinMaxFailed ≤ t.header.failed.get role) :
    t.evalPin C env role pin b = .error .pinLocked :=
  if_pos h

/-- The code a login with a locked role returns. A role that is logged in is reported first. -/
def lockedLoginErr (t : Token) (role : Role) : Err :=
  if t.loggedIn = role then .userAlreadyLoggedIn
  else if t.loggedIn ≠ .none then .userAnotherAlreadyLoggedIn
  else .pinLocked

theorem login_locked (h : pinMaxFailed ≤ t.header.failed.get role) :
    t.login C env role pin d = (.err (lockedLoginErr t role), t, d) := by
  unfold Token.login lockedLoginErr
  split
  · rfl
  split
  · rfl
  · rw [evalPin_locked h]

theorem failed_recordFailure_of_ne (env : Env) (hrole : role ≠ .none) (hother : other ≠ .none)
    (hne : other ≠ role) :
    (t.recordFailure env role).header.failed.get other = t.header.failed.get other :=
  PerRole.get_set_of_ne _ _ hrole hother hne

theorem failed_clearFailures_of_ne (hrole : role ≠ .none) (hother : other ≠ .none)
    (hne : other ≠ role) :
    (t.clearFailures role).header.failed.get other = t.header.failed.get other :=
  PerRole.get_set_of_ne _ _ hrole hother hne

theorem login_other (h : LoginOutcome C env t role pin d rv t' d') (hother : other ≠ .none)
    (hne : other ≠ role) : t'.header.failed.get other = t.header.failed.get other := by
  cases h with
  | refused | tpmRefused => rfl
  | wrong es htried hrole _ ht' =>
    subst ht'
    exact failed_recordFailure_of_ne env hrole hother hne
  | accepted dek es es' htried hrole hfree htpm t₁ _ ht₁ ht' =>
    obtain ⟨⟨objs, next, loaded, pub, rfl⟩, -⟩ := loadIfNeeded_frame ht'
    subst ht₁
    exact failed_clearFailures_of_ne hrole hother hne

theorem verifyPin_other (h : VerifyOutcome C env t role pin d rv t' d') (hother : other ≠ .none)
    (hne : other ≠ role) : t'.header.failed.get other = t.header.failed.get other := by
  cases h with
  | refused => rfl
  | wrong es htried hrole _ ht' =>
    subst ht'
    exact failed_recordFailure_of_ne env hrole hother hne
  | right dek es htried hrole _ ht' =>
    subst ht'
    exact failed_clearFailures_of_ne hrole hother hne

/-- Between two events that clear the counter of a role, over any calls and restarts whose
    writes succeed, at most `FHSM_PIN_MAX_FAILED` wrong PINs are tried on its wrapped DEK. Once
    the counter is there, an attempt changes nothing and tries nothing: `verify_pin` says
    `PIN_LOCKED`, and so does `login` unless a role is logged in, which it reports first. An
    attempt on one role leaves the counter of the other alone. -/
theorem pinAttempts_bounded (C : Crypto) (w₀ : World) (hstart : w₀.tok = none)
    (before segment : List TokenOp) (role : Role) (hrole : role ≠ .none)
    (hwrites : WritesOk (run (step C) w₀ (before ++ segment)).disk) :
    (∃ new, (run (step C) w₀ (before ++ segment)).disk.log =
        (run (step C) w₀ before).disk.log ++ new ∧
      (.cleared role ∉ new → new.countP (isWrong role) ≤ pinMaxFailed.toNat)) ∧
    (∀ (env : Env) (t : Token) (pin : Bytes) (d : Disk), pinMaxFailed ≤ t.header.failed.get role →
      t.verifyPin C env role pin d = (.err .pinLocked, t, d) ∧
      t.login C env role pin d = (.err (lockedLoginErr t role), t, d)) ∧
    (∀ (env : Env) (t : Token) (pin : Bytes) (d : Disk) (other : Role), other ≠ .none → other ≠ role →
      (t.verifyPin C env role pin d).2.1.header.failed.get other = t.header.failed.get other ∧
      (t.login C env role pin d).2.1.header.failed.get other = t.header.failed.get other) := by
  refine ⟨?_, ?_, ?_⟩
  · rw [run_append] at hwrites ⊢
    obtain ⟨new₀, hnew₀⟩ := run_log C (run (.step C) w₀ before) segment
    have hstart : w₀.Synced := fun t ht => by rw [hstart] at ht; cases ht
    obtain ⟨-, hsync⟩ := run_counter hrole hstart before (hwrites.of_append hnew₀)
    obtain ⟨⟨new, hlog, hreplay⟩, -⟩ := run_counter hrole hsync segment hwrites
    refine ⟨new, hlog, fun hclear => ?_⟩
    rw [← count_lockout]
    exact count_wrong_le hreplay (clear_not_mem_lockout hclear)
  · intro env t pin d hlocked
    refine ⟨?_, login_locked hlocked⟩
    rw [verifyPin, if_neg hrole, evalPin_locked hlocked]
  · intro env t pin d other hother hne
    rcases hverify : t.verifyPin C env role pin d with ⟨rv, t₁, d₁⟩
    rcases hlogin : t.login C env role pin d with ⟨rv', t₂, d₂⟩
    exact ⟨verifyPin_other (verifyPin_cases hverify) hother hne,
      login_other (login_cases hlogin) hother hne⟩

/-- Five wrong PINs, four of them after a restart, then the right one. -/
theorem pinAttempts_bounded_restart :
    let wrong : TokenOp := .login .quiet .so []
    let w₀ : World := ⟨none, ⟨none, []⟩⟩
    let before : List TokenOp := [.init .quiet (replicate 8 0x31) []]
    let segment : List TokenOp := [wrong, .close, .load .quiet, wrong, wrong, wrong, wrong,
      .login .quiet .so (replicate 8 0x31)]
    ∃ new, (run (step .plain) w₀ (before ++ segment)).disk.log =
        (run (step .plain) w₀ before).disk.log ++ new ∧
      (.cleared .so ∉ new → new.countP (isWrong .so) ≤ pinMaxFailed.toNat) :=
  (pinAttempts_bounded .plain ⟨none, ⟨none, []⟩⟩ rfl _ _ .so (by decide)
    (by unfold WritesOk; decide +kernel)).1

/-- The USER is logged in and five wrong PINs lock the role: a login with the right PIN then
    does not say `PIN_LOCKED`. -/
theorem login_locked_while_loggedIn :
    let soPin : Bytes := replicate 8 0x31
    let userPin : Bytes := replicate 8 0x32
    let wrong : TokenOp := .verifyPin .quiet .user []
    let w := run (step .plain) ⟨none, ⟨none, []⟩⟩
      [.init .quiet soPin [], .login .quiet .so soPin, .initUserPin .quiet userPin, .logout,
        .login .quiet .user userPin, wrong, wrong, wrong, wrong, wrong]
    w.counter .user = pinMaxFailed.toNat ∧
      (w.call .plain (.login .quiet .user userPin)).1 = .err .userAlreadyLoggedIn := by
  decide +kernel

end FreeHsm
