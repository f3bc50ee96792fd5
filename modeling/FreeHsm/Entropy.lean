import FreeHsm.Common

/-!
# The sources of the seed

`condition_and_seed` asks four sources for bytes, one after the other, and hashes what they
gave. They share one pool of 512 bytes: each is offered what the ones before it left. A source
that gives something sets its bit in `entropy_sources_active`, and nothing but
`fhsm_drbg_init` clears one.

The system calls, the RDRAND instruction and the clock are a parameter. So is the hash.
-/

namespace FreeHsm

/-- The sources, in the order in which they are asked. -/
inductive EntropySource
  | getrandom | rdrand | devurandom | tscJitter
  deriving DecidableEq

/-- A system call that fills a buffer: it gives at most what it is offered, and something if it
is offered something. -/
structure ByteCall where
  read : Nat → Bytes
  fits (cap : Nat) : (read cap).length ≤ cap
  gives (cap : Nat) (h : 0 < cap) : read cap ≠ []

/-- What one seeding meets. -/
structure Entropy where
  /-- The system call, unless it fails. -/
  getrandom : Option ByteCall
  /-- What `_rdrand64_step` gives for a word at a try, on a processor that has it. -/
  rdrand : Option (Nat → Nat → Option (Vector UInt8 8))
  /-- `read` on `/dev/urandom`, unless it or `open` fails. -/
  devurandom : Option ByteCall
  /-- The nanoseconds of the `i`-th reading of the clock. -/
  nsec : Nat → UInt64

namespace Entropy

variable (e : Entropy)

/-- The bytes of a call that may fail. -/
def readOf (call : Option ByteCall) (cap : Nat) : Bytes :=
  match call with
  | none => []
  | some c => c.read cap

/-- The ten tries for a word. -/
def rdrandWord (step : Nat → Nat → Option (Vector UInt8 8)) (word : Nat) :
    Option (Vector UInt8 8) :=
  (List.range 10).findSome? (step word)

/-- `rdrand_fill` from a word on, with room for `room` words. -/
def rdrandFill (step : Nat → Nat → Option (Vector UInt8 8)) (word : Nat) : Nat → Bytes
  | 0 => []
  | room + 1 =>
    match rdrandWord step word with
    | none => []
    | some v => v.toList ++ rdrandFill step (word + 1) room

/-- `entropy_rdrand`. -/
def entropyRdrand (cap : Nat) : Bytes :=
  match e.rdrand with
  | none => []
  | some step => rdrandFill step 0 (cap / 8)

/-- `entropy_tsc_jitter`. -/
def entropyTscJitter (cap : Nat) : Bytes :=
  if cap < 8 then []
  else
    let acc : UInt64 := (List.range 64).foldl
      (fun acc i => (acc <<< 1) ^^^ (e.nsec i &&& 0xff)) 0
    le32 acc.toUInt32 ++ le32 (acc >>> 32).toUInt32

/-- A source, offered `cap` bytes. -/
def read (cap : Nat) : EntropySource → Bytes
  | .getrandom => readOf e.getrandom cap
  | .rdrand => e.entropyRdrand cap
  | .devurandom => readOf e.devurandom cap
  | .tscJitter => e.entropyTscJitter cap

/-- `sizeof(pool)`. -/
def poolSize : Nat := 512

/-- What is in the pool before a source is asked. -/
def before : EntropySource → Bytes
  | .getrandom => []
  | .rdrand => e.read poolSize .getrandom
  | .devurandom =>
    let pool := e.read poolSize .getrandom
    pool ++ e.read (poolSize - pool.length) .rdrand
  | .tscJitter =>
    let pool := e.read poolSize .getrandom
    let pool := pool ++ e.read (poolSize - pool.length) .rdrand
    pool ++ e.read (poolSize - pool.length) .devurandom

/-- What a source puts into the pool. -/
def contribution (src : EntropySource) : Bytes := e.read (poolSize - (e.before src).length) src

/-- What is hashed. -/
def pool : Bytes := e.before .tscJitter ++ e.contribution .tscJitter

/-- The source is there: it gives something if it is offered enough. The clock always is. -/
def Available : EntropySource → Prop
  | .getrandom => e.getrandom.isSome
  | .rdrand => ∃ step, e.rdrand = some step ∧ (rdrandWord step 0).isSome
  | .devurandom => e.devurandom.isSome
  | .tscJitter => True

end Entropy

/-- The bits of `entropy_sources_active`, and what each source put into the seed in use. -/
structure Seeding where
  active : EntropySource → Bool
  seed : EntropySource → Bytes

/-- `condition_and_seed`. The bits are set before the hash can fail. -/
def Seeding.conditionAndSeed (s : Seeding) (hash : Bytes → Option Bytes) (e : Entropy) :
    Option Err × Seeding :=
  let s := { s with active := fun src => s.active src || e.contribution src != [] }
  if e.pool = [] then (some .rngFailure, s)
  else match hash e.pool with
    | none => (some .rngFailure, s)
    | some _ => (none, { s with seed := e.contribution })

/-! ## Who contributes -/

namespace Entropy

variable {e : Entropy} {src : EntropySource}

theorem readOf_ne_nil {call : Option ByteCall} {cap : Nat} (hcap : 0 < cap) :
    readOf call cap ≠ [] ↔ call.isSome := by
  cases call with
  | none => simp [readOf]
  | some c => simpa [readOf] using c.gives cap hcap

theorem entropyRdrand_ne_nil {cap : Nat} (hcap : 8 ≤ cap) :
    e.entropyRdrand cap ≠ [] ↔ e.Available .rdrand := by
  obtain ⟨room, hroom⟩ : ∃ room, cap / 8 = room + 1 := ⟨cap / 8 - 1, by omega⟩
  unfold entropyRdrand Available
  cases hr : e.rdrand with
  | none => simp
  | some step =>
    simp only [hroom, rdrandFill, Option.some.injEq, exists_eq_left']
    cases hw : rdrandWord step 0 with
    | none => simp
    | some v =>
      have hlen : v.toList ≠ [] := by
        intro hnil
        simpa using congrArg List.length hnil
      simp [hlen]

/-- With room for eight bytes a source gives something exactly when it is there. -/
theorem read_ne_nil {cap : Nat} (hcap : 8 ≤ cap) : e.read cap src ≠ [] ↔ e.Available src := by
  cases src with
  | getrandom => exact readOf_ne_nil (by omega)
  | rdrand => exact entropyRdrand_ne_nil hcap
  | devurandom => exact readOf_ne_nil (by omega)
  | tscJitter => simp [read, entropyTscJitter, Available, Nat.not_lt.mpr hcap, le32]

theorem length_before_le : (e.before src).length ≤ (e.before .tscJitter).length := by
  cases src <;> simp only [before, List.length_append, List.length_nil] <;> omega

theorem length_before : (e.before .tscJitter).length = (e.contribution .getrandom).length +
    (e.contribution .rdrand).length + (e.contribution .devurandom).length := by
  simp only [before, contribution, List.length_append, List.length_nil, Nat.sub_zero]

/-- Every source that is there contributes exactly when the first three leave eight bytes. -/
theorem contributes_iff : (∀ src, e.Available src → e.contribution src ≠ []) ↔
    (e.before .tscJitter).length + 8 ≤ poolSize := by
  constructor
  · intro hall
    by_contra hfull
    refine hall .tscJitter trivial ?_
    rw [contribution, read, entropyTscJitter, if_pos (by omega)]
  · intro hroom src hsrc
    have hle := @length_before_le e src
    exact (read_ne_nil (by omega)).mpr hsrc

theorem pool_ne_nil : e.pool ≠ [] := by
  intro hnil
  obtain ⟨hbefore, hjitter⟩ := List.append_eq_nil_iff.mp hnil
  rw [contribution, hbefore] at hjitter
  exact (@read_ne_nil e .tscJitter _ (by decide)).mpr trivial hjitter

end Entropy

/-! ## The bits -/

/-- Every source that is there put something into what is hashed, and the bits are those of the
sources of the seed in use. -/
def Seeding.Sound (s : Seeding) (e : Entropy) : Prop :=
  (∀ src, e.Available src → e.contribution src ≠ []) ∧
    ∀ src, s.active src = true ↔ s.seed src ≠ []

namespace Seeding

variable (s : Seeding) (hash : Bytes → Option Bytes) (e : Entropy)

/-- `condition_and_seed` is sound exactly when the system calls and RDRAND leave eight bytes of
the pool and the bits of earlier seedings fit: if the hash works, each is of a source that is
there now; if it does not, they and those of the sources that are there now are the bits of
the seed that stays in use. -/
theorem sound_iff : (s.conditionAndSeed hash e).2.Sound e ↔
    (e.contribution .getrandom).length + (e.contribution .rdrand).length +
        (e.contribution .devurandom).length + 8 ≤ Entropy.poolSize ∧
      ∀ src, if (hash e.pool).isSome then s.active src = true → e.Available src
        else s.active src = true ∨ e.Available src ↔ s.seed src ≠ [] := by
  unfold Sound
  rw [Entropy.contributes_iff, ← Entropy.length_before]
  refine and_congr_right fun hroom => forall_congr' fun src => ?_
  have hle := @Entropy.length_before_le e src
  have hgives : e.contribution src ≠ [] ↔ e.Available src := Entropy.read_ne_nil (by omega)
  rw [conditionAndSeed, if_neg Entropy.pool_ne_nil]
  cases hash e.pool with
  | none => simp [← hgives]
  | some digest => simp [← hgives]

end Seeding

/-- `getrandom` fills the pool, as it does on every system where it works. -/
def Entropy.greedy : Entropy where
  getrandom := some ⟨fun cap => List.replicate cap 7, by simp, by
    intro cap hcap hnil
    simp at hnil
    omega⟩
  rdrand := some fun _ _ => some (Vector.replicate 8 7)
  devurandom := none
  nsec := fun _ => 0

/-- RDRAND is there, and nothing of it is hashed. -/
theorem Seeding.rdrand_left_out : Entropy.greedy.Available .rdrand ∧
    Entropy.greedy.contribution .rdrand = [] ∧
    ¬ (Seeding.conditionAndSeed ⟨fun _ => false, fun _ => []⟩ some Entropy.greedy).2.Sound
      Entropy.greedy := by
  have havail : Entropy.greedy.Available .rdrand := ⟨_, rfl, rfl⟩
  have hnone : Entropy.greedy.contribution .rdrand = [] := by decide +kernel
  exact ⟨havail, hnone, fun hsound => hsound.1 .rdrand havail hnone⟩

end FreeHsm
