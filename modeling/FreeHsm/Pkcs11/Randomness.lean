import Mathlib.Data.List.Perm.Subperm
import FreeHsm.Pkcs11.Cipher
import FreeHsm.Pkcs11.Generate
import FreeHsm.Pkcs11.Retry
import FreeHsm.Token.Draws

/-!
# Random bytes of the module

Beside the token functions two functions draw random bytes: `C_GenerateKey`, which looks at
the result, and `C_Encrypt` with AES-GCM when the operation has no nonce, which does not.
The second goes on to encrypt whatever the draw left, in the error state too.

A run interleaves calls of the token functions with such calls. The token file, the keys
and the nonces come from draws that succeeded, each nonce from a draw of its own.
-/

namespace FreeHsm

open StateExcept Transition
open List hiding Vector

/-! ## C_GenerateKey -/

section

variable {P : Provider} {L : KeyLib P} {c : Caller} {mech : UInt64} {param : Option Pbkd2Params}
  {arg : TemplateArg} {t : Template} {args : AddArgs} {tail : Tail}

/-- The draw for a key of some length. -/
def KeyLib.keyDraw (L : KeyLib P) (len : Nat) : Site × Bool × Bytes :=
  match L.rngBytes len with
  | .ok v => (.key, true, v.toList)
  | .error _ => (.key, false, [])

/-- A key is what one successful draw gave, unless it is derived from a password. -/
theorem generateKeyPlan_drawn (h : generateKeyPlan L c mech param arg = .ok (t, args, tail))
    (hmech : mech ≠ 0x3B0) :
    L.errorState = false ∧ L.keyDraw args.value.length = (.key, true, args.value) := by
  simp only [generateKeyPlan, ite_error_eq_ok, bind_eq_ok, hmech, if_false] at h
  obtain ⟨herror, t', -, -, -, -, -, ⟨keyType, len⟩, -, key, hkey, h⟩ := h
  cases h
  refine ⟨by simpa using herror, ?_⟩
  cases hrng : L.rngBytes len with
  | error e =>
    rw [hrng] at hkey
    cases hkey
  | ok v =>
    rw [hrng] at hkey
    cases hkey
    rw [KeyLib.keyDraw, Vector.length_toList, hrng]

end

/-! ## Runs -/

/-- The token with its draws, the keys that `C_GenerateKey` made of random bytes, and the nonces
that `C_Encrypt` chose for the ciphertexts it returned. -/
structure RandWorld where
  token : DrawWorld
  keys : List Bytes
  ivs : List Bytes

/-- `generateKey` and `encrypt` are calls as they are; `drew` says whether the draw for a nonce
succeeds. A call that makes no key or returns no ciphertext is an `other` draw, if it draws. -/
inductive RandEvent (P : Provider)
  | token (ev : DrawEvent)
  | generateKey (L : KeyLib P) (c : Caller) (mech : UInt64) (param : Option Pbkd2Params)
      (arg : TemplateArg)
  | encrypt (drew : Bool) (env : OpEnv P) (s : Setup) (o : Obj) (aad data : Bytes) (out : OutArg)
      (l : Running P)

namespace RandWorld

variable {P : Provider}

/-- `C_Encrypt` has no nonce for AES-GCM. -/
def choosesIv (s : Setup) : Bool := s.gcmIvLen == 0 && s.iv.isNone

/-- Whether AES-GCM is answered with a ciphertext. -/
def answers (env : OpEnv P) (s : Setup) (o : Obj) (aad data : Bytes) (out : OutArg) (l : Running P) :
    Bool :=
  match (exec (gcmEncrypt env s o aad data out) l).1 with
  | .ok (.data _) => true
  | _ => false

def step (C : Crypto) (w : RandWorld) : RandEvent P → RandWorld
  | .token ev => { w with token := w.token.step C ev }
  | .generateKey L c mech param arg =>
    match generateKeyPlan { L with errorState := w.token.error } c mech param arg with
    | .ok (_, args, _) =>
      if mech = 0x3B0 then w
      else
        { w with
          token := w.token.step C (.other [L.keyDraw args.value.length])
          keys := w.keys ++ [args.value] }
    | .error _ => w
  | .encrypt drew env s o aad data out l =>
    if choosesIv s && answers env s o aad data out l then
      { w with
        token := w.token.step C (.other [(.iv, drew, P.rng env.seed 12)])
        ivs := w.ivs ++ [gcmNonce env s] }
    else w

/-- No function is called that may write a torn token, and when `C_Encrypt` returns a ciphertext
under a nonce it chose, the module is running and the draw succeeds. -/
def Kept (w : RandWorld) : RandEvent P → Prop
  | .token ev => w.token.Spared ev
  | .generateKey .. => True
  | .encrypt drew env s o aad data out l =>
    choosesIv s = true → answers env s o aad data out l = true → w.token.error = false ∧ drew = true

def start : RandWorld := ⟨.start, [], []⟩

/-- The nonces the module took. -/
def nonces (w : RandWorld) : List (Site × Bytes) :=
  uses w.token.world.disk.log ++ w.ivs.map (.iv, ·)

/-- What everything random is made of. -/
structure AllDrawn (w : RandWorld) : Prop where
  file : FileDrawn w.token.drawn w.token.world.disk.file
  deks : ∀ kek nonce aad dek, .wrapped kek nonce aad dek ∈ w.token.world.disk.log →
    (.dek, dek.toList) ∈ w.token.drawn
  keys : ∀ k ∈ w.keys, (.key, k) ∈ w.token.drawn
  /-- Every nonce is a draw of its own. -/
  nonces : w.nonces.Subperm w.token.drawn
  once : (w.token.drawn.map (·.2)).Nodup → (w.nonces.map (·.2)).Nodup

/-- What every event keeps. -/
structure Inv (w : RandWorld) : Prop where
  token : w.token.Inv
  keys : ∀ k ∈ w.keys, (.key, k) ∈ w.token.drawn
  ivs : List.Sublist (w.ivs.map (.iv, ·)) w.token.drawn

variable {C : Crypto} {w : RandWorld}

theorem drawn_mono (C : Crypto) (w : DrawWorld) (ev : DrawEvent) :
    ∃ more, (w.step C ev).drawn = w.drawn ++ more := by
  cases ev with
  | call | other => exact ⟨_, rfl⟩
  | latch | restart => exact ⟨[], (append_nil _).symm⟩

theorem Inv.extend (hw : w.Inv) {token : DrawWorld} (htoken : token.Inv) {more : List (Site × Bytes)}
    (hmore : token.drawn = w.token.drawn ++ more) : Inv { w with token := token } := by
  refine ⟨htoken, fun k hk => ?_, ?_⟩
  · exact hmore ▸ mem_append_left _ (hw.keys k hk)
  · exact hmore ▸ hw.ivs.trans (sublist_append_left _ _)

theorem inv_other {token : DrawWorld} (h : token.Inv) (made : List (Site × Bool × Bytes))
    (hforge : Unforged (fun _ => True) token.world.disk.log) : (token.step C (.other made)).Inv :=
  DrawWorld.drawn_step h trivial hforge

section

variable {L : KeyLib P} {c : Caller} {mech : UInt64} {param : Option Pbkd2Params} {arg : TemplateArg}
  {drew : Bool} {env : OpEnv P} {s : Setup} {o : Obj} {aad data : Bytes} {out : OutArg}
  {l : Running P}

theorem generateKey_cases (C : Crypto) (w : RandWorld) :
    w.step C (.generateKey L c mech param arg) = w ∨
      ∃ k, L.keyDraw k.length = (.key, true, k) ∧ w.token.error = false ∧
        w.step C (.generateKey L c mech param arg) =
          { w with
            token := w.token.step C (.other [(.key, true, k)])
            keys := w.keys ++ [k] } := by
  simp only [step]
  split
  · rename_i t args tail hplan
    split
    · exact .inl rfl
    rename_i hmech
    obtain ⟨hrun, hdraw⟩ := generateKeyPlan_drawn hplan hmech
    change L.keyDraw args.value.length = _ at hdraw
    exact .inr ⟨args.value, hdraw, hrun, by rw [hdraw]⟩
  · exact .inl rfl

theorem encrypt_cases (C : Crypto) (w : RandWorld) (hkept : w.Kept (.encrypt drew env s o aad data out l)) :
    w.step C (.encrypt drew env s o aad data out l) = w ∨
      drew = true ∧ w.token.error = false ∧
        w.step C (.encrypt drew env s o aad data out l) =
          { w with
            token := w.token.step C (.other [(.iv, true, P.rng env.seed 12)])
            ivs := w.ivs ++ [P.rng env.seed 12] } := by
  by_cases hchosen : choosesIv s = true ∧ answers env s o aad data out l = true
  · obtain ⟨hrun, rfl⟩ := hkept hchosen.1 hchosen.2
    have hiv : gcmNonce env s = P.rng env.seed 12 := by
      have h := hchosen.1
      simp only [choosesIv, Bool.and_eq_true, beq_iff_eq, Option.isNone_iff_eq_none] at h
      rw [gcmNonce, if_neg (not_not.2 h.1), h.2]
      rfl
    refine .inr ⟨rfl, hrun, ?_⟩
    simp only [step, hchosen.1, hchosen.2, Bool.and_self, if_true, hiv]
  · left
    simp only [step]
    rw [if_neg (by simpa using hchosen)]

end

/-- The steps beside the token functions leave the file and the history alone. -/
theorem random_step {ev : RandEvent P} (hw : w.Inv) (hkept : w.Kept ev)
    (hforge : Unforged (fun _ => True) (w.step C ev).token.world.disk.log) : (w.step C ev).Inv := by
  cases ev with
  | token ev =>
    obtain ⟨more, hmore⟩ := drawn_mono C w.token ev
    exact hw.extend (DrawWorld.drawn_step hw.token hkept hforge) hmore
  | generateKey L c mech param arg =>
    rcases generateKey_cases C w with hsame | ⟨k, -, hrun, hstep⟩
    · rw [hsame]
      exact hw
    · rw [hstep] at hforge ⊢
      have hw' := hw.extend (inv_other (C := C) hw.token [(.key, true, k)] hforge) rfl
      refine ⟨hw'.token, fun k' hk' => ?_, hw'.ivs⟩
      rcases mem_append.1 hk' with hold | hnew
      · exact hw'.keys k' hold
      · rw [mem_singleton.1 hnew]
        refine mem_append_right _ ?_
        simp [produced, hrun]
  | encrypt drew env s o aad data out l =>
    rcases encrypt_cases C w hkept with hsame | ⟨-, hrun, hstep⟩
    · rw [hsame]
      exact hw
    · rw [hstep] at hforge ⊢
      have hw' := hw.extend (inv_other (C := C) hw.token [(.iv, true, P.rng env.seed 12)] hforge) rfl
      refine ⟨hw'.token, hw'.keys, ?_⟩
      rw [map_append]
      refine hw.ivs.append ?_
      simp [produced, hrun]

theorem step_log (C : Crypto) (w : RandWorld) (ev : RandEvent P) :
    ∃ new, (w.step C ev).token.world.disk.log = w.token.world.disk.log ++ new := by
  have hself : ∃ new, w.token.world.disk.log = w.token.world.disk.log ++ new :=
    ⟨[], (append_nil _).symm⟩
  cases ev with
  | token ev => exact DrawWorld.step_log C w.token ev
  | generateKey L c mech param arg =>
    rcases generateKey_cases C w with hsame | ⟨k, -, -, hstep⟩
    · rw [hsame]
      exact hself
    · rw [hstep]
      exact hself
  | encrypt drew env s o aad data out l =>
    simp only [step]
    split
    · exact hself
    · exact hself

/-- The nonces of encryptions by token functions are not those of `C_Encrypt`. -/
theorem uses_ne_iv {log : List Event} {u : Site × Bytes} (hu : u ∈ uses log) : u.1 ≠ .iv := by
  obtain ⟨e, -, he⟩ := mem_filterMap.1 hu
  cases e <;> cases he <;> nofun

theorem Inv.nonces (hw : w.Inv) : w.nonces.Subperm w.token.drawn := by
  have huses : List.Sublist (uses w.token.world.disk.log)
      (w.token.drawn.filter fun u => !decide (u.1 = .iv)) := by
    have h := hw.token.uses.filter fun u => !decide (u.1 = .iv)
    rwa [filter_eq_self.2 fun u hu => by simpa using uses_ne_iv hu] at h
  have hivs : List.Sublist (w.ivs.map ((.iv, ·) : Bytes → Site × Bytes))
      (w.token.drawn.filter fun u => decide (u.1 = .iv)) := by
    have h := hw.ivs.filter fun u => decide (u.1 = .iv)
    rwa [filter_eq_self.2 (by simp)] at h
  have hperm := filter_append_perm (fun u : Site × Bytes => decide (u.1 = .iv)) w.token.drawn
  exact (huses.append hivs).subperm.trans (perm_append_comm.trans hperm).subperm

theorem inv_start : Inv start := ⟨DrawWorld.inv_start, nofun, List.Sublist.refl _⟩

/-- In every run, with draws that behave as `fhsm_drbg_bytes` does. -/
theorem random_run (C : Crypto) (evs : List (RandEvent P))
    (hkept : Along (step C) Kept start evs)
    (hforge : Unforged (fun _ => True) (run (step C) start evs).token.world.disk.log) :
    (run (step C) start evs).AllDrawn ∧
      ∀ (rounds : Nat → Round) (s s' : Drbg) (buf out : Bytes) (e : Option Err) (site : Site),
        s.Ready → buf ≠ [] → drbgBytes rounds s buf = (e, out, s') →
        s'.Ready ∧ s'.error = latches s.error [(site, e.isNone, out)] ∧
          produced s.error [(site, e.isNone, out)] =
            if e.isNone then [(site, randOutput rounds 1 buf.length)] else [] := by
  have hback : ∀ (w : RandWorld) (ev : RandEvent P),
      Unforged (fun _ => True) (w.step C ev).token.world.disk.log →
        Unforged (fun _ => True) w.token.world.disk.log := by
    intro w ev h
    obtain ⟨new, hnew⟩ := step_log C w ev
    rw [hnew] at h
    exact h.of_append
  obtain ⟨-, hforge⟩ := along_of_run
    (P := fun w : RandWorld => Unforged (fun _ => True) w.token.world.disk.log) hback hforge
  have hinv : (run (step C) start evs).Inv := by
    refine run_invariant ?_ inv_start (along_and hkept hforge)
    exact fun w ev hw h => random_step hw h.1 h.2
  refine ⟨⟨hinv.token.file, fun kek nonce aad dek h => hinv.token.deks dek ⟨kek, nonce, aad, h⟩,
      hinv.keys, hinv.nonces, fun hnodup => ?_⟩,
    fun rounds s s' buf out e site hready hbuf h => ?_⟩
  · obtain ⟨l, hperm, hsub⟩ := hinv.nonces
    exact (hperm.map _).nodup_iff.1 ((hsub.map _).nodup hnodup)
  · exact ⟨drbgBytes_ready hready h, drbgBytes_draw hready hbuf h site⟩

/-- Draws that succeed. -/
def goodDraws : Draws where
  serial := ⟨true, .replicate 8 1⟩
  salt := ⟨true, .replicate 16 2⟩
  saltUser := ⟨true, .replicate 16 3⟩
  dek := ⟨true, .replicate 32 4⟩
  wrapNonce := ⟨true, .replicate 12 5⟩
  blobNonce := ⟨true, .replicate 12 6⟩

def aes16 : Template := [⟨ckaValueLen, .bytes (le64 16), []⟩]

def aes16Key : Obj :=
  Token.zeroed.newObject ⟨ckoSecretKey, ckkAes, [], List.replicate 16 1, [], 0⟩ (by decide) (by decide)

/-- A new token, a key, and a ciphertext under a nonce that `C_Encrypt` chose. -/
def oneOfEach : List (RandEvent .hashing) :=
  [.token (.call (.init .quiet (List.replicate 8 0x31) []) goodDraws goodDraws),
    .generateKey .plain soCaller 0x1080 none (.list aes16),
    .encrypt true ⟨none, false, true, false, ()⟩
      { ({} : Op .hashing).params.setup with mechanism := ckmAesGcm.toUInt32 } aes16Key [] [1, 2]
      (.room 32) {}]

/-- A change of the SO PIN in which the draw of the salt fails, after the login has written. -/
def tornSetPin : RandEvent .hashing :=
  .token (.call (.setPin .quiet .quiet .so (List.replicate 8 0x31) (List.replicate 8 0x32))
    { goodDraws with salt := ⟨false, .replicate 16 0⟩ } goodDraws)

theorem random_run_oneOfEach :
    let w := run (step .plain) start (oneOfEach ++ [tornSetPin])
    w.token.world.disk.file.isSome ∧ w.token.torn ∧ w.keys ≠ [] ∧ w.ivs ≠ [] ∧ w.AllDrawn := by
  refine ⟨by decide +kernel, by decide +kernel, by decide +kernel, by decide +kernel, ?_⟩
  have hrunning (w : DrawWorld) (h : w.torn = false) : w.torn = true → w.error = true :=
    fun h' => absurd (h.symm.trans h') nofun
  refine (random_run .plain (oneOfEach ++ [tornSetPin])
    ⟨fun _ => trivial, trivial, fun _ _ => ⟨?_, rfl⟩, hrunning _ ?_, trivial⟩ ?_).1
  all_goals decide +kernel

/-- A generator that always fails. -/
def noRandom : KeyLib .hashing := { KeyLib.plain with rngBytes := fun _ => .error .rngFailure }

def somePassword : Pbkd2Params where
  saltSource := 1
  salt := .bytes [1]
  iterations := 1000
  prf := 4
  prfData := .null 0
  password := .bytes [1, 2, 3]

/-- A key made from a password has no byte of a draw. -/
theorem pbkd2_key_derived : ∃ s s' o, tokenWithKey 0 = some s ∧
    exec (generateKey noRandom .plain (fun _ => .quiet) soCaller 0x3B0 (some somePassword)
      (.list aes16)) s = (.ok 2, s') ∧
    s'.tok.objectGet 2 = .ok o ∧ o.value ≠ [] ∧ ∀ n, noRandom.rngBytes n = .error .rngFailure := by
  have h : (tokenWithKey 0).any (fun s =>
      let r := exec (generateKey noRandom .plain (fun _ => .quiet) soCaller 0x3B0 (some somePassword)
        (.list aes16)) s
      decide (r.1 = .ok 2) && (r.2.tok.objectGet 2).toOption.any (fun o => decide (o.value ≠ []))) =
        true := by
    decide +kernel
  obtain ⟨s, hs, hfacts⟩ := Option.any_eq_true _ _ |>.1 h
  simp only [Bool.and_eq_true, decide_eq_true_eq] at hfacts
  obtain ⟨o, ho, hvalue⟩ := Option.any_eq_true _ _ |>.1 hfacts.2
  have hok : ∀ {x : Except Err Obj}, x.toOption = some o → x = .ok o := by
    rintro (e | o') ⟨⟩
    rfl
  exact ⟨s, _, o, hs, Prod.ext hfacts.1 rfl, hok ho, by simpa using hvalue, fun _ => rfl⟩

end RandWorld

end FreeHsm
