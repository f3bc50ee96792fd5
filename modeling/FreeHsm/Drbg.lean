import FreeHsm.Common

/-!
# The random generator

`fhsm_drbg_bytes` takes what `RAND_bytes` gives and runs three health tests on it: a
repetition count, an adaptive proportion and a comparison of consecutive blocks. An alarm
and a failure of `RAND_bytes` latch the error state of the module. A failure to seed does
not; but `fhsm_crypto_init` seeds first and latches the error state if it cannot, so the
seeding inside `fhsm_drbg_bytes` only ever runs in a module that nobody initialised.

Most callers do not look at the result.
-/

namespace FreeHsm

/-! ## Health tests -/

def rctCutoff : Nat := 6
def aptWindow : Nat := 512
def aptCutoff : Nat := 51

/-- `FHSM_CRNGT_BLOCK_SZ`. -/
def crngtBlock : Nat := 16

/-- What the tests remember. -/
structure Health where
  rctLast : UInt8
  rctCount : Nat
  aptByte : UInt8
  aptCount : Nat
  aptSeen : Nat
  crngtLast : Option Bytes
  deriving DecidableEq

namespace Health

/-- The repetition count, and whether it raises an alarm. -/
def rct (h : Health) (b : UInt8) : Health × Bool :=
  if h.rctCount = 0 then ({ h with rctLast := b, rctCount := 1 }, false)
  else if b = h.rctLast then
    ({ h with rctCount := h.rctCount + 1 }, decide (rctCutoff ≤ h.rctCount + 1))
  else ({ h with rctLast := b, rctCount := 1 }, false)

/-- The adaptive proportion. A window that is full starts again. -/
def apt (h : Health) (b : UInt8) : Health × Bool :=
  if h.aptCount = 0 then ({ h with aptByte := b, aptSeen := 1, aptCount := 1 }, false)
  else
    let h := { h with aptCount := h.aptCount + 1 }
    let h := if b = h.aptByte then { h with aptSeen := h.aptSeen + 1 } else h
    if b = h.aptByte ∧ aptCutoff < h.aptSeen then (h, true)
    else if aptWindow ≤ h.aptCount then ({ h with aptCount := 0, aptSeen := 0 }, false)
    else (h, false)

/-- `health_rct_apt`. -/
def rctApt : Health → Bytes → Health × Bool
  | h, [] => (h, false)
  | h, b :: bs =>
    match h.rct b with
    | (h, true) => (h, true)
    | (h, false) =>
      match h.apt b with
      | (h, true) => (h, true)
      | (h, false) => rctApt h bs

/-- `health_crngt`. -/
def crngt (h : Health) (buf : Bytes) : Health × Bool :=
  if buf.length < crngtBlock then (h, false)
  else if h.crngtLast = some (buf.take crngtBlock) then (h, true)
  else ({ h with crngtLast := some (buf.take crngtBlock) }, false)

/-- The tests on one piece of output. -/
def test (h : Health) (buf : Bytes) : Health × Bool :=
  match h.rctApt buf with
  | (h, true) => (h, true)
  | (h, false) => h.crngt buf

end Health

/-! ## The generator -/

/-- `FHSM_RESEED_BYTES_MAX`. -/
def reseedBytesMax : Nat := 1024 * 1024

/-- `FHSM_RESEED_SECS_MAX`. -/
def reseedSecsMax : Int := 3600

/-- `FHSM_DRBG_MAX_REQUEST`. -/
def drbgMaxRequest : Nat := 65536

/-- The state of the generator, and whether the module is in its error state. -/
structure Drbg where
  initialised : Bool
  error : Bool
  sinceReseed : Nat
  lastReseed : Int
  health : Health

/-- What one round of the loop meets. -/
structure Round where
  now : Int
  /-- `condition_and_seed` succeeds. -/
  seeds : Bool
  /-- Whether `RAND_bytes` succeeds, and what it leaves in the buffer. -/
  rand : (n : Nat) → Bool × Vector UInt8 n

/-- `condition_and_seed`. -/
def Drbg.seed (s : Drbg) (r : Round) : Drbg :=
  if r.seeds then { s with lastReseed := r.now, sinceReseed := 0 } else s

/-- The loop of `fhsm_drbg_bytes`: `done` is what is in the buffer, `n` bytes are missing. On a
failure the buffer holds `done` and what the failed round left, or nothing but zeros. -/
def drbgLoop (rounds : Nat → Round) (s : Drbg) (k : Nat) (done : Bytes) (n : Nat) :
    Option Err × Bytes × Drbg :=
  if n = 0 then (none, done, s)
  else
    let want := min n drbgMaxRequest
    let r := rounds k
    let s := if reseedBytesMax < s.sinceReseed ∨ reseedSecsMax < r.now - s.lastReseed then s.seed r
      else s
    match r.rand want with
    | (false, out) => (some .rngFailure, done ++ out.toList, { s with error := true })
    | (true, out) =>
      match s.health.test out.toList with
      | (h, true) => (some .rngFailure, List.replicate (done.length + want) 0,
          { s with error := true, health := h })
      | (h, false) =>
        drbgLoop rounds { s with health := h, sinceReseed := s.sinceReseed + want } (k + 1)
          (done ++ out.toList) (n - want)
  termination_by n
  decreasing_by
    have : drbgMaxRequest = 65536 := rfl
    omega

/-- `fhsm_drbg_bytes` into a buffer that holds `buf`, with what it returns and what the buffer holds
then. Round 0 is for the seeding. -/
def drbgBytes (rounds : Nat → Round) (s : Drbg) (buf : Bytes) : Option Err × Bytes × Drbg :=
  if s.error then (some .functionFailed, buf, s)
  else if buf = [] then (some .argumentsBad, buf, s)
  else if s.initialised then drbgLoop rounds s 1 [] buf.length
  else if (rounds 0).seeds then
    drbgLoop rounds { s.seed (rounds 0) with initialised := true } 1 [] buf.length
  else (some .rngFailure, buf, s)

/-- Seeded, or in the error state: what `fhsm_crypto_init` leaves. -/
def Drbg.Ready (s : Drbg) : Prop := s.initialised = true ∨ s.error = true

/-- What the rounds from `k` on give, if `RAND_bytes` succeeds in each. -/
def randOutput (rounds : Nat → Round) (k n : Nat) : Bytes :=
  if n = 0 then []
  else
    ((rounds k).rand (min n drbgMaxRequest)).2.toList ++
      randOutput rounds (k + 1) (n - min n drbgMaxRequest)
  termination_by n
  decreasing_by
    have : drbgMaxRequest = 65536 := rfl
    omega

/-- The loop keeps the generator seeded; it fails into the error state, or gives all the output. -/
theorem drbgLoop_spec {rounds : Nat → Round} {s s' : Drbg} {k n : Nat} {done out : Bytes}
    {e : Option Err} (h : drbgLoop rounds s k done n = (e, out, s')) :
    s'.initialised = s.initialised ∧ (e ≠ none → s'.error = true) ∧
      (e = none → s'.error = s.error ∧ out = done ++ randOutput rounds k n) := by
  -- seeding again, or not, changes neither flag
  have hseed (s : Drbg) (c : Prop) [Decidable c] (r : Round) :
      (if c then s.seed r else s).initialised = s.initialised ∧
        (if c then s.seed r else s).error = s.error := by
    split
    · unfold Drbg.seed
      split <;> exact ⟨rfl, rfl⟩
    · exact ⟨rfl, rfl⟩
  fun_induction drbgLoop rounds s k done n with
  | case1 s k done =>
    cases h
    refine ⟨rfl, fun hne => absurd rfl hne, fun _ => ⟨rfl, ?_⟩⟩
    rw [randOutput, if_pos rfl, List.append_nil]
  | case2 | case3 =>
    cases h
    exact ⟨(hseed ..).1, fun _ => rfl, nofun⟩
  | case4 s k done n hn want r s₁ out hrand health hhealth ih =>
    obtain ⟨hinit, hfail, hok⟩ := ih h
    refine ⟨hinit.trans (hseed ..).1, hfail, fun he => ?_⟩
    obtain ⟨herror, hout⟩ := hok he
    refine ⟨herror.trans (hseed ..).2, ?_⟩
    rw [hout, randOutput.eq_def rounds k n, if_neg hn, hrand, List.append_assoc]

section

variable {rounds : Nat → Round} {s s' : Drbg} {buf out : Bytes} {e : Option Err}

theorem drbgBytes_ready (hready : s.Ready) (h : drbgBytes rounds s buf = (e, out, s')) :
    s'.Ready := by
  unfold drbgBytes at h
  split at h
  · cases h
    exact hready
  split at h
  · cases h
    exact hready
  split at h
  · rename_i hinit
    exact .inl ((drbgLoop_spec h).1.trans hinit)
  split at h
  · exact .inl (drbgLoop_spec h).1
  · cases h
    exact hready

/-- A failure is noticed by everything that asks for the state of the module. -/
theorem drbgBytes_failed (hready : s.Ready) (hbuf : buf ≠ [])
    (h : drbgBytes rounds s buf = (e, out, s')) (hfail : e ≠ none) : s'.error = true := by
  unfold drbgBytes at h
  split at h
  · rename_i herror
    cases h
    exact herror
  rename_i herror
  split at h
  · exact (drbgLoop_spec h).2.1 hfail
  rename_i hinit
  rcases hready with hyes | hyes
  · exact absurd hyes hinit
  · exact absurd hyes herror

theorem drbgBytes_ok (hready : s.Ready) (h : drbgBytes rounds s buf = (none, out, s')) :
    s'.error = false ∧ out = randOutput rounds 1 buf.length := by
  unfold drbgBytes at h
  split at h
  · cases h
  rename_i herror
  split at h
  · cases h
  split at h
  · obtain ⟨herror', hout⟩ := (drbgLoop_spec h).2.2 rfl
    exact ⟨herror'.trans (by simpa using herror), hout⟩
  · rename_i hinit
    rcases hready with hyes | hyes
    · exact absurd hyes hinit
    · exact absurd hyes herror

end

end FreeHsm
