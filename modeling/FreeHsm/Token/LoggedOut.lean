import FreeHsm.Token.FailedWrite
import FreeHsm.Token.Run

/-!
# The token while nobody is logged in

A login puts the DEK into its buffer and a logout wipes it, and every function that
changes an object asks for a live DEK. `fhsm_token_init` and `fhsm_token_reinit` also put
a DEK into the buffer, but they log nobody in, so after them the store is open to
everyone. Nothing else does this: on a run without these two calls the DEK is in memory
only while a role is logged in.
-/

namespace FreeHsm

open ListEdit Token Transition World

variable {C : Crypto} {env : Env} {t t' : Token} {d d' : Disk} {rv : Rv}

/-! ## The object functions -/

/-- Nothing is added to the store, and no token object is changed or destroyed. -/
structure Token.RefusesChanges (C : Crypto) (t : Token) : Prop where
  refused : ∀ env op d, (∀ owner, op ≠ .destroySession owner) →
    ∃ e, t.object C env op d = (.err e, t, d)
  /-- The end of a session takes its own objects only. -/
  kept : ∀ env owner d, ∀ o ∈ t.objects.objs, o.ownerSession = 0 →
    o ∈ (t.object C env (.destroySession owner) d).2.1.objects.objs

/-- Without a live DEK no object is added and no token object changes. -/
theorem object_refused (C : Crypto) (hclosed : t.storeOpen = false) : t.RefusesChanges C where
  refused env op d hop := by
    rcases object_moves env t op with ⟨rv, hrv, hobj⟩ | ⟨t₁, hchanged, -⟩
    · cases rv with
      | err e => exact ⟨e, hobj C env d rfl⟩
      | ok =>
        obtain ⟨owner, howner⟩ := hrv rfl
        exact absurd howner (hop owner)
    · rw [(hchanged.storeOpen hop).1] at hclosed
      cases hclosed
  kept env owner d o ho howner := by
    simp only [object, destroySessionObjects]
    split
    · exact ho
    rename_i hzero
    split
    · have hperm := sweep_perm_filter (·.ownerSession == owner) (i := 0) (l := t.objects.objs)
        (Nat.le_of_eq (Nat.zero_add _).symm) fun _ h => by cases h
      refine hperm.mem_iff.2 (List.mem_filter.2 ⟨ho, ?_⟩)
      rw [howner, Bool.not_eq_true', beq_eq_false_iff_ne]
      exact fun h => hzero h.symm
    · exact ho

/-! ## The invariant -/

/-- While nobody is logged in, the buffer is absent or wiped, and not live. -/
def Token.Idle (t : Token) : Prop :=
  t.loggedIn = .none → t.dek = none ∨ t.dek = some ⟨zeroKey, false⟩

/-- The calls that put a DEK into the buffer without a login: a new token, and a token that is
initialised again, with a PIN of the required length. -/
def TokenOp.Opens : TokenOp → Prop
  | .init _ soPin _ => 8 ≤ (cstr soPin).length
  | .reinit _ newSoPin _ => 4 ≤ (cstr newSoPin).length
  | _ => False

theorem Token.Idle.not_live (h : t.Idle) (hout : t.loggedIn = .none) : t.dekLive = false := by
  rcases h hout with hdek | hdek <;> simp [dekLive, liveDek, hdek]

theorem Token.Idle.congr (h : t.Idle) (hdek : t'.dek = t.dek) (hrole : t'.loggedIn = t.loggedIn) :
    t'.Idle := by
  intro hout
  rw [hdek]
  exact h (hrole ▸ hout)

theorem idle_login {role : Role} {pin : Bytes} (h : LoginOutcome C env t role pin d rv t' d')
    (ht : t.Idle) : t'.Idle := by
  cases h with
  | refused => exact ht
  | wrong es htried hrole t' ht' =>
    rw [ht']
    exact fun _ => .inr rfl
  | tpmRefused dek es htried hrole hfree htpm =>
    -- the buffer was not live before, so it is not live now
    intro _
    rw [ht.not_live hfree]
    exact .inr rfl
  | accepted dek es es' htried hrole hfree htpm t₁ t' ht₁ hload =>
    obtain ⟨⟨objs, next, loaded, pub, hframe⟩, -⟩ := loadIfNeeded_frame hload
    rw [hframe, ht₁]
    exact fun hout => absurd hout hrole

theorem Token.RewrapOutcome.idle {role : Role} {pin : Bytes} {dek : Key} {r : Option Err}
    {es : List Event} (h : RewrapOutcome C env t role pin dek r t' es) (ht : t.Idle) : t'.Idle := by
  cases h <;> exact ht

theorem init_short {w : World} {soPin label : Bytes} (hshort : (cstr soPin).length < 8) :
    (w.step C (.init env soPin label)).tok = w.tok := by
  cases hw : w.tok with
  | none => simp only [step, call, hw, Token.init, if_pos hshort]
  | some t => simp only [step, call, hw]

theorem reinit_short {w : World} {newSoPin label : Bytes} (hshort : (cstr newSoPin).length < 4) :
    (w.step C (.reinit env newSoPin label)).tok = w.tok := by
  cases hw : w.tok with
  | none => simp only [step, call, hw]
  | some t => simp only [step, call, hw, reinit, if_pos hshort]

/-- Every call but the two keeps the buffer empty while nobody is logged in. -/
theorem idle_step (w : World) (op : TokenOp) (hop : ¬op.Opens) (hw : ∀ t ∈ w.tok, t.Idle) :
    ∀ t ∈ (w.step C op).tok, t.Idle := by
  obtain ⟨rv, hcase⟩ := step_cases C w op
  cases op with
  | init env soPin label =>
    rw [init_short (Nat.not_le.1 hop)]
    exact hw
  | reinit env newSoPin label =>
    rw [reinit_short (Nat.not_le.1 hop)]
    exact hw
  | load env =>
    generalize w.step C (.load env) = w' at hcase
    cases hcase with
    | idle => exact hw
    | load _ _ tok hnone h =>
      cases h with
      | refused => nofun
      | done f header until₀ hfile hlen hdecode =>
        rintro _ ⟨⟩
        obtain ⟨objs, next, pub, hframe⟩ := publicViewLoad_frame env
          { zeroed with header := header, throttleUntilMs := until₀ } w.disk.file
        rw [hframe]
        exact fun _ => .inl rfl
  | close =>
    generalize w.step C .close = w' at hcase
    cases hcase with
    | idle => exact hw
    | close => nofun
  | login env role pin =>
    generalize w.step C (.login env role pin) = w' at hcase
    cases hcase with
    | idle => exact hw
    | login _ _ _ _ t t' d htok h =>
      rintro _ ⟨⟩
      exact idle_login h (hw t htok)
  | verifyPin env role pin =>
    generalize w.step C (.verifyPin env role pin) = w' at hcase
    cases hcase with
    | idle => exact hw
    | verifyPin _ _ _ _ t t' d htok h =>
      rintro _ ⟨⟩
      cases h with
      | refused => exact hw t htok
      | wrong es htried hrole t' ht' =>
        rw [ht']
        exact (hw t htok).congr rfl rfl
      | right dek es htried hrole t' ht' =>
        rw [ht']
        exact (hw t htok).congr rfl rfl
  | logout =>
    generalize w.step C .logout = w' at hcase
    cases hcase with
    | idle => exact hw
    | logout t htok =>
      rintro _ ⟨⟩
      intro _
      cases hdek : t.dek with
      | none =>
        left
        rw [Token.logout, dropDek, hdek]
        rfl
      | some dek =>
        right
        rw [Token.logout, dropDek, hdek]
        rfl
  | initUserPin env pin =>
    generalize w.step C (.initUserPin env pin) = w' at hcase
    cases hcase with
    | idle => exact hw
    | initUserPin _ _ _ t t' d htok h =>
      rintro _ ⟨⟩
      cases h with
      | refused => exact hw t htok
      | failed e dek t' hdek hre => exact hre.idle (hw t htok)
      | done dek es t₁ t' rv d' hso hdek hre ht' hwrite =>
        rw [ht']
        exact (hre.idle (hw t htok)).congr rfl rfl
  | setPin loginEnv env role oldPin newPin =>
    generalize w.step C (.setPin loginEnv env role oldPin newPin) = w' at hcase
    cases hcase with
    | idle => exact hw
    | setPin _ _ _ _ _ _ t t' d htok h =>
      rintro _ ⟨⟩
      cases h with
      | refused => exact hw t htok
      | noLogin e t' d' hlogin => exact idle_login hlogin (hw t htok)
      | failed e dek t₁ t' d₁ hlogin hre => exact hre.idle (idle_login hlogin (hw t htok))
      | done dek es t₁ t' d₁ d' rv hlogin hdek hre hwrite =>
        exact hre.idle (idle_login hlogin (hw t htok))
  | object env op =>
    generalize w.step C (.object env op) = w' at hcase
    cases hcase with
    | idle => exact hw
    | object _ _ _ t t' d htok hcall h =>
      rintro _ ⟨⟩
      rcases h with ⟨hsame, -⟩ | ⟨objs, next, hstore, -⟩
      · rw [hsame]
        exact hw t htok
      · rw [hstore]
        exact (hw t htok).congr rfl rfl

/-! ## Runs -/

/-- While nobody is logged in, the buffer is absent or zero and the store is closed to changes. -/
def Token.LoggedOutClosed (C : Crypto) (t : Token) : Prop :=
  t.loggedIn = .none → (∀ dek ∈ t.dek, dek.key = zeroKey) ∧ t.RefusesChanges C

theorem Token.Idle.closed (h : t.Idle) (C : Crypto) : t.LoggedOutClosed C := by
  intro hout
  constructor
  · rintro dek hdek
    rcases h hout with hnone | hzero
    · rw [hnone] at hdek
      cases hdek
    · rw [hzero] at hdek
      cases hdek
      rfl
  · apply object_refused
    rw [storeOpen, h.not_live hout]
    rfl

/-- On every run of a process on a token file, as long as it makes no new token and initialises
none again, the DEK is in memory only while a role is logged in. -/
theorem loggedOut_closed (C : Crypto) (d : Disk) (ops : List TokenOp)
    (hops : Along (step C) (fun _ op => ¬op.Opens) ⟨none, d⟩ ops) :
    ∀ t ∈ (run (step C) ⟨none, d⟩ ops).tok, t.LoggedOutClosed C := by
  have hinv : ∀ t ∈ (run (step C) ⟨none, d⟩ ops).tok, t.Idle := by
    refine run_invariant (P := fun w : World => ∀ t ∈ w.tok, t.Idle) ?_ nofun hops
    exact fun w op hw hop => idle_step w op hop hw
  exact fun t ht => (hinv t ht).closed C

/-- The file of a new token with an eight-digit PIN. -/
def madeElsewhere : Disk :=
  (run (World.step .plain) ⟨none, ⟨none, []⟩⟩
    [.init .quiet (List.replicate 8 0x31) [], .close]).disk

/-- A login and a logout on a token that another process has made. -/
theorem loggedOut_closed_login :
    let w := run (step .plain) ⟨none, madeElsewhere⟩
      [.load .quiet, .login .quiet .so (List.replicate 8 0x31), .logout]
    w.tok.isSome = true ∧ ∀ t ∈ w.tok, t.LoggedOutClosed .plain := by
  refine ⟨by decide +kernel, loggedOut_closed .plain madeElsewhere _ ?_⟩
  exact ⟨nofun, nofun, nofun, trivial⟩

/-- A new token has its DEK in memory with nobody logged in, and takes objects from anyone. -/
theorem loggedOut_open :
    ∃ t, (run (step .plain) ⟨none, ⟨none, []⟩⟩ [.init .quiet (List.replicate 8 0x31) []]).tok =
        some t ∧
      (t.object .plain .quiet (.add ⟨ckoSecretKey, 0x1F, [], [1], [], 0⟩) ⟨none, []⟩).1 = .ok ∧
      ¬t.LoggedOutClosed .plain := by
  refine ⟨_, rfl, by decide +kernel, fun hclosed => ?_⟩
  have hzero := (hclosed rfl).1 _ rfl
  exact absurd hzero (by decide)

end FreeHsm
