import FreeHsm.ForStd.Transition
import FreeHsm.Token.Outcome
import FreeHsm.Token.ObjectStep

/-!
# Runs of one token

A `World` is a token file and at most one process that has it loaded. `call` is
one call of a token function; a run is a list of calls, each with the environment
it meets, so a theorem about every run covers every order of logins, restarts,
failures and object operations.
-/

namespace FreeHsm

open Token

/-- The token in memory, if one is loaded, and the disk. -/
structure World where
  tok : Option Token
  disk : Disk

/-- A call of a token function with its arguments and environment. `setPin` has two
    environments, one for the login inside it. -/
inductive TokenOp
  | init (env : Env) (soPin label : Bytes)
  | load (env : Env)
  | close
  | login (env : Env) (role : Role) (pin : Bytes)
  | verifyPin (env : Env) (role : Role) (pin : Bytes)
  | logout
  | initUserPin (env : Env) (pin : Bytes)
  | setPin (loginEnv env : Env) (role : Role) (oldPin newPin : Bytes)
  | reinit (env : Env) (newSoPin label : Bytes)
  | object (env : Env) (op : ObjectOp)

/-- One call. Every function but `init` and `load` returns `ARGUMENTS_BAD` on a null token;
    those two are called when no token is loaded. -/
def World.call (C : Crypto) (w : World) (op : TokenOp) : Rv × World :=
  let onToken (t : Token) (f : Token → Disk → Rv × Token × Disk) : Rv × World :=
    let (rv, t, d) := f t w.disk
    (rv, ⟨some t, d⟩)
  match op, w.tok with
  | .init env soPin label, none =>
    let (rv, t, d) := Token.init C env soPin label w.disk
    (rv, ⟨t, d⟩)
  | .load env, none =>
    let (rv, t) := Token.load env w.disk
    (rv, ⟨t, w.disk⟩)
  | .close, _ => (.ok, ⟨none, w.disk⟩)
  | .login env role pin, some t => onToken t fun t => t.login C env role pin
  | .verifyPin env role pin, some t => onToken t fun t => t.verifyPin C env role pin
  | .logout, some t => (.ok, ⟨some t.logout, w.disk⟩)
  | .initUserPin env pin, some t => onToken t fun t => t.initUserPin C env pin
  | .setPin loginEnv env role oldPin newPin, some t =>
    onToken t fun t => t.setPin C loginEnv env role oldPin newPin
  | .reinit env newSoPin label, some t => onToken t fun t => t.reinit C env newSoPin label
  | .object env op, some t => onToken t fun t => t.object C env op
  | _, _ => (.err .argumentsBad, w)

/-- The state after a call. -/
def World.step (C : Crypto) (w : World) (op : TokenOp) : World := (w.call C op).2

/-- The login in `fhsm_token_set_pin`. -/
def TokenOp.first : TokenOp → Option TokenOp
  | .setPin loginEnv _ role oldPin newPin =>
    if (cstr newPin).length < 4 then none else some (.login loginEnv role (cstr oldPin))
  | _ => none

/-- Between the two parts of a call. -/
def World.mid (C : Crypto) (w : World) (op : TokenOp) : World :=
  match op.first with
  | none => w
  | some first => w.step C first

theorem World.mid_setPin {C : Crypto} {w : World} {loginEnv env : Env} {role : Role}
    {oldPin newPin : Bytes} {t t₁ : Token} {d₁ : Disk} {rv : Rv} (htok : w.tok = some t)
    (hfirst : ¬ (cstr newPin).length < 4 ∧
      t.login C loginEnv role (cstr oldPin) w.disk = (rv, t₁, d₁)) :
    w.mid C (.setPin loginEnv env role oldPin newPin) = ⟨some t₁, d₁⟩ := by
  simp only [mid, TokenOp.first, if_neg hfirst.1, step, call, htok, hfirst.2]

/-- Everything a call can do. -/
inductive CallOutcome (C : Crypto) (w : World) : TokenOp → Rv → World → Prop
  | idle (op : TokenOp) : CallOutcome C w op (.err .argumentsBad) w
  | init (env : Env) (soPin label : Bytes) (rv : Rv) (t : Option Token) (d : Disk)
      (hnone : w.tok = none) (h : InitOutcome C env soPin label w.disk rv t d) :
    CallOutcome C w (.init env soPin label) rv ⟨t, d⟩
  | load (env : Env) (rv : Rv) (t : Option Token) (hnone : w.tok = none)
      (h : LoadOutcome env w.disk rv t) : CallOutcome C w (.load env) rv ⟨t, w.disk⟩
  | close : CallOutcome C w .close .ok ⟨none, w.disk⟩
  | login (env : Env) (role : Role) (pin : Bytes) (rv : Rv) (t t' : Token) (d : Disk)
      (htok : w.tok = some t) (h : LoginOutcome C env t role pin w.disk rv t' d) :
    CallOutcome C w (.login env role pin) rv ⟨some t', d⟩
  | verifyPin (env : Env) (role : Role) (pin : Bytes) (rv : Rv) (t t' : Token) (d : Disk)
      (htok : w.tok = some t) (h : VerifyOutcome C env t role pin w.disk rv t' d) :
    CallOutcome C w (.verifyPin env role pin) rv ⟨some t', d⟩
  | logout (t : Token) (htok : w.tok = some t) :
    CallOutcome C w .logout .ok ⟨some t.logout, w.disk⟩
  | initUserPin (env : Env) (pin : Bytes) (rv : Rv) (t t' : Token) (d : Disk)
      (htok : w.tok = some t) (h : InitUserPinOutcome C env t pin w.disk rv t' d) :
    CallOutcome C w (.initUserPin env pin) rv ⟨some t', d⟩
  | setPin (loginEnv env : Env) (role : Role) (oldPin newPin : Bytes) (rv : Rv) (t t' : Token)
      (d : Disk) (htok : w.tok = some t)
      (h : SetPinOutcome C loginEnv env t role oldPin newPin w.disk rv t' d) :
    CallOutcome C w (.setPin loginEnv env role oldPin newPin) rv ⟨some t', d⟩
  | reinit (env : Env) (newSoPin label : Bytes) (rv : Rv) (t t' : Token) (d : Disk)
      (htok : w.tok = some t) (h : ReinitOutcome C env t newSoPin label w.disk rv t' d) :
    CallOutcome C w (.reinit env newSoPin label) rv ⟨some t', d⟩
  | object (env : Env) (op : ObjectOp) (rv : Rv) (t t' : Token) (d : Disk)
      (htok : w.tok = some t) (hcall : t.object C env op w.disk = (rv, t', d))
      (h : StoreStep C env t w.disk rv t' d) :
    CallOutcome C w (.object env op) rv ⟨some t', d⟩

theorem call_cases {C : Crypto} {w w' : World} {op : TokenOp} {rv : Rv}
    (h : w.call C op = (rv, w')) : CallOutcome C w op rv w' := by
  unfold World.call at h
  dsimp only at h
  split at h
  · rename_i hnone
    cases h
    exact .init _ _ _ _ _ _ hnone (init_cases rfl)
  · rename_i hnone
    cases h
    exact .load _ _ _ hnone (load_cases rfl)
  · cases h; exact .close
  · rename_i htok
    cases h
    exact .login _ _ _ _ _ _ _ htok (login_cases rfl)
  · rename_i htok
    cases h
    exact .verifyPin _ _ _ _ _ _ _ htok (verifyPin_cases rfl)
  · rename_i htok
    cases h
    exact .logout _ htok
  · rename_i htok
    cases h
    exact .initUserPin _ _ _ _ _ _ htok (initUserPin_cases rfl)
  · rename_i htok
    cases h
    exact .setPin _ _ _ _ _ _ _ _ _ htok (setPin_cases rfl)
  · rename_i htok
    cases h
    exact .reinit _ _ _ _ _ _ _ htok (reinit_cases rfl)
  · rename_i htok
    cases h
    exact .object _ _ _ _ _ _ htok rfl (object_cases rfl)
  · cases h; exact .idle _

theorem step_cases (C : Crypto) (w : World) (op : TokenOp) :
    ∃ rv, CallOutcome C w op rv (w.step C op) :=
  ⟨_, call_cases rfl⟩

/-- What holds before a call and after a login holds between the two parts of the call. -/
theorem World.mid_of_login {C : Crypto} {w : World} {op : TokenOp} {R : World → Prop} (hw : R w)
    (hlogin : ∀ loginEnv env role oldPin newPin, op = .setPin loginEnv env role oldPin newPin →
      R (w.step C (.login loginEnv role (cstr oldPin)))) : R (w.mid C op) := by
  cases op with
  | setPin loginEnv env role oldPin newPin =>
    unfold mid TokenOp.first
    dsimp only
    split
    · exact hw
    · rename_i first hfirst
      split at hfirst
      · cases hfirst
      · cases hfirst
        exact hlogin _ _ _ _ _ rfl
  | _ => exact hw

/-! ## The disk -/

section Disk

variable {C : Crypto} {P : Disk → Prop} {Q : Rv → Token → Prop}
  (hrecord : ∀ d es, (∀ t key nonce, .sealed t key nonce ∉ es) → P d → P (d.record es))
  (hwrite : ∀ {env t d rv d'}, writeAtomic C env t d = (rv, d') → Q rv t → P d → P d')

include hrecord hwrite

theorem login_disk {env : Env} {t t' : Token} {role : Role} {pin : Bytes} {d d' : Disk} {rv : Rv}
    (h : LoginOutcome C env t role pin d rv t' d') (ht' : ∀ rv, Q rv t') (hd : P d) : P d' := by
  cases h with
  | refused => exact hd
  | wrong es htried => exact hwrite rfl (ht' _) (hrecord _ _ htried.no_sealed hd)
  | tpmRefused dek es htried => exact hrecord _ _ htried.no_sealed hd
  | accepted dek es es' htried hrole hfree htpm t₁ t' ht₁ hload =>
    refine hwrite rfl (ht' _) (hrecord _ _ ?_ hd)
    obtain ⟨-, rfl | ⟨_, _, _, _, _, _, rfl⟩⟩ := loadIfNeeded_frame hload <;> simp [htried.no_sealed]

/-- What records preserve that encrypt nothing, and writes of the tokens that are in memory or not
kept by a failing `fhsm_token_init`, every call preserves. -/
theorem call_disk {w w' : World} {op : TokenOp} {rv : Rv} (h : CallOutcome C w op rv w')
    (hinit : ∀ env soPin label e, op = .init env soPin label →
      Q (.err e) (initialToken C env soPin label))
    (hmid : ∀ t, (w.mid C op).tok = some t → ∀ rv, Q rv t)
    (hlast : ∀ t, w'.tok = some t → ∀ rv, Q rv t) (hd : P w.disk) : P w'.disk := by
  cases h with
  | idle | load | close | logout => exact hd
  | init _ _ _ _ _ _ _ h =>
    cases h with
    | refused => exact hd
    | notSealed => exact hrecord _ _ (by simp [wrappedEvent]) hd
    | written rv _ h =>
      refine hwrite h ?_ (hrecord _ _ (by simp [wrappedEvent]) hd)
      cases rv with
      | ok => exact hlast _ rfl _
      | err e => exact hinit _ _ _ e rfl
  | login _ _ _ _ _ _ _ _ h => exact login_disk hrecord hwrite h (hlast _ rfl) hd
  | verifyPin _ _ _ _ _ _ _ _ h =>
    cases h with
    | refused => exact hd
    | wrong es htried => exact hwrite rfl (hlast _ rfl _) (hrecord _ _ htried.no_sealed hd)
    | right dek es htried =>
      exact hwrite rfl (hlast _ rfl _) (hrecord _ _ (by simp [htried.no_sealed]) hd)
  | initUserPin _ _ _ _ _ _ _ h =>
    cases h with
    | refused | failed => exact hd
    | done _ _ _ _ _ _ _ _ hre _ h =>
      cases hre
      exact hwrite h (hlast _ rfl _) (hrecord _ _ (by simp) hd)
  | setPin _ _ _ _ _ _ _ _ _ htok h =>
    -- the login writes the token that is in memory between the two parts
    have hlogin {rv t₁ d₁} (hfirst : _ ∧ _ = (rv, t₁, d₁))  : ∀ rv, Q rv t₁ :=
      hmid _ (by rw [World.mid_setPin htok hfirst])
    cases h with
    | refused => exact hd
    | noLogin _ _ _ h hfirst => exact login_disk hrecord hwrite h (hlogin hfirst) hd
    | failed _ _ _ _ _ h _ hfirst => exact login_disk hrecord hwrite h (hlogin hfirst) hd
    | done _ _ _ _ _ _ _ h _ hre hdone hfirst =>
      cases hre
      exact hwrite hdone (hlast _ rfl _)
        (hrecord _ _ (by simp) (login_disk hrecord hwrite h (hlogin hfirst) hd))
  | reinit _ _ _ _ _ _ _ _ h =>
    cases h with
    | refused | noBuffer | notWrapped => exact hd
    | written _ _ h => exact hwrite h (hlast _ rfl _) (hrecord _ _ (by simp [wrappedEvent]) hd)
  | object _ _ _ _ _ _ _ _ h =>
    rcases h with ⟨-, rfl⟩ | ⟨_, _, -, h⟩
    · exact hd
    · exact hwrite h (hlast _ rfl _) hd

end Disk

/-! ## The history -/

theorem writeAtomic_log {C : Crypto} {env : Env} {t : Token} {d d' : Disk} {rv : Rv}
    (h : writeAtomic C env t d = (rv, d')) : ∃ new, d'.log = d.log ++ new := by
  cases writeAtomic_cases h <;> exact ⟨_, rfl⟩

theorem step_log (C : Crypto) (w : World) (op : TokenOp) :
    ∃ new, (w.step C op).disk.log = w.disk.log ++ new := by
  obtain ⟨rv, hcase⟩ := step_cases C w op
  refine call_disk (P := fun d => ∃ new, d.log = w.disk.log ++ new) (Q := fun _ _ => True) ?_ ?_ hcase
    (fun _ _ _ _ _ => trivial) (fun _ _ _ => trivial) (fun _ _ _ => trivial) ⟨[], by simp⟩
  · rintro d es - ⟨new, hnew⟩
    exact ⟨new ++ es, by rw [Disk.log_record, hnew, List.append_assoc]⟩
  · rintro env t d rv d' hwrite - ⟨new, hnew⟩
    obtain ⟨new', hnew'⟩ := writeAtomic_log hwrite
    exact ⟨new ++ new', by rw [hnew', hnew, List.append_assoc]⟩

theorem run_log (C : Crypto) (w : World) (ops : List TokenOp) :
    ∃ new, (Transition.run (World.step C) w ops).disk.log = w.disk.log ++ new := by
  induction ops generalizing w with
  | nil => exact ⟨[], by simp⟩
  | cons op ops ih =>
    obtain ⟨new, hnew⟩ := step_log C w op
    obtain ⟨new', hnew'⟩ := ih (w.step C op)
    exact ⟨new ++ new', by rw [Transition.run_cons, hnew', hnew, List.append_assoc]⟩

end FreeHsm
