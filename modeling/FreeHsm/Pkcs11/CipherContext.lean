import FreeHsm.ForStd.BlockStream
import FreeHsm.Pkcs11.Provider

/-!
# Cipher contexts

What is expected of an `EVP_CIPHER_CTX`: it transforms what it is given block by
block, keeps an incomplete block for the next update and, when it decrypts padded
data, also the last full block. The final call checks the length, adds or removes
the padding, and in GCM compares the tag that it was given; a GCM decryption that was
given none fails.

`EvpModel P` says that the contexts of a library `P` behave like this: `Holds` relates
a context to what it was set up with and what was put into it. `Provider.buffered` is a
library that does.
-/

namespace FreeHsm

open BlockStream List

def CipherMode.isBlock : CipherMode → Bool
  | .ecb | .cbc => true
  | _ => false

namespace CipherSpec

variable (spec : CipherSpec)

/-- The block size that `EVP_CIPHER_get_block_size` gives for AES. -/
def block : Nat := if spec.alg.mode.isBlock then 16 else 1

/-- The last full block may be padding. -/
def holdsBack : Bool := !spec.enc && spec.padding

/-- The same parameters for decryption. -/
def decrypting : CipherSpec := { spec with enc := false }

@[simp] theorem decrypting_enc : spec.decrypting.enc = false := rfl

@[simp] theorem decrypting_alg : spec.decrypting.alg = spec.alg := rfl

@[simp] theorem decrypting_padding : spec.decrypting.padding = spec.padding := rfl

/-- The final call after the data `fed`, with the tag that was given. -/
def finish (T : Transform UInt8) (tag : Nat → Bytes) (fed : Bytes) (given : Option Bytes) :
    Option Bytes :=
  if spec.alg.mode = .gcm then
    if spec.enc ∨ given.any (fun t => tag t.length == t) then some [] else none
  else if spec.padding then
    if spec.enc then some (T.added false fed (BlockStream.padding T.block fed.length))
    else if fed = [] ∨ ¬ T.block ∣ fed.length then none
    else unpad ((T.apply fed).drop (fed.length - T.block))
  else if T.block ∣ fed.length then some []
  else none

end CipherSpec

/-- The cipher contexts of a library are the standard buffering transforms. -/
structure EvpModel (P : Provider) where
  transform : CipherSpec → Transform UInt8
  block_eq : ∀ spec, (transform spec).block = spec.block
  decrypts_blocks : ∀ spec d, spec.enc = true → spec.block ∣ d.length →
    (transform spec.decrypting).apply ((transform spec).apply d) = d
  /-- The tag over the data so far, cut to a length. -/
  tag : CipherSpec → Bytes → Nat → Bytes
  /-- The algorithms and parameters that a context can be set up with, in either direction. -/
  supports : CipherSpec → Bool
  supports_decrypting : ∀ spec, supports spec.decrypting = supports spec
  /-- The context was set up with a specification, was given the data and then the tag. -/
  Holds : P.Cipher → CipherSpec → Bytes → Option Bytes → Prop
  /-- The final call was made after the data. -/
  Finished : P.Cipher → CipherSpec → Bytes → Prop
  alloc : ∀ seed n, P.alloc seed n = true
  fetch : ∀ seed a, P.fetch seed a = true
  ctxNew : ∀ seed, P.ctxNew seed = true
  copy : ∀ seed c, P.cipherCopy seed c = true
  init : ∀ seed spec, supports spec = true →
    ∃ c, P.cipherInit seed spec = some c ∧ Holds c spec [] none
  init_none : ∀ seed spec, supports spec = false → P.cipherInit seed spec = none
  update : ∀ seed c spec fed b, Holds c spec fed none →
    ∃ c', P.cipherUpdate seed c b = (some ((transform spec).added spec.holdsBack fed b), c') ∧
      Holds c' spec (fed ++ b) none
  final : ∀ seed c spec fed given, Holds c spec fed given →
    ∃ c', P.cipherFinal seed c = (spec.finish (transform spec) (tag spec fed) fed given, c') ∧
      Finished c' spec fed
  getTag : ∀ seed c spec fed n, Finished c spec fed → P.cipherTag seed c n = some (tag spec fed n)
  setTag : ∀ seed c spec fed t, Holds c spec fed none →
    ∃ c', P.cipherSetTag seed c t = some c' ∧ Holds c' spec fed (some t)

namespace EvpModel

variable {P : Provider} (V : EvpModel P)

variable (spec : CipherSpec)

/-- The output of the updates so far. -/
def emitted (fed : Bytes) : Bytes :=
  (V.transform spec).emitted spec.holdsBack fed

/-- The output of an update. -/
def added (fed b : Bytes) : Bytes :=
  (V.transform spec).added spec.holdsBack fed b

/-- The output of the final call. -/
def finish (fed : Bytes) (given : Option Bytes) : Option Bytes :=
  spec.finish (V.transform spec) (V.tag spec fed) fed given

@[simp] theorem emitted_nil : V.emitted spec [] = [] :=
  (V.transform spec).emitted_nil _

theorem emitted_append (fed b : Bytes) :
    V.emitted spec fed ++ V.added spec fed b = V.emitted spec (fed ++ b) :=
  (V.transform spec).emitted_append _ _ _

theorem added_nil (b : Bytes) : V.added spec [] b = V.emitted spec b := by
  have happend := V.emitted_append spec [] b
  rwa [V.emitted_nil, nil_append, nil_append] at happend

theorem cipherInit_eq_some {seed : P.Seed} {spec : CipherSpec} {c : P.Cipher}
    (h : P.cipherInit seed spec = some c) : V.supports spec = true ∧ V.Holds c spec [] none := by
  cases hs : V.supports spec with
  | false =>
    rw [V.init_none seed spec hs] at h
    cases h
  | true =>
    obtain ⟨c', hc', hholds⟩ := V.init seed spec hs
    rw [hc'] at h
    cases h
    exact ⟨rfl, hholds⟩

theorem finish_gcm_untagged {spec : CipherSpec} (hmode : spec.alg.mode = .gcm)
    (henc : spec.enc = false) (fed : Bytes) : V.finish spec fed none = none := by
  simp [finish, CipherSpec.finish, hmode, henc]

section Decrypts

variable {spec : CipherSpec} {d f : Bytes} (henc : spec.enc = true) (hmode : spec.alg.mode ≠ .gcm)
  (hf : V.finish spec d none = some f)

include henc hmode hf

theorem sealed_unpadded (hpad : spec.padding = false) :
    (V.transform spec).block ∣ d.length ∧ f = [] ∧ V.emitted spec d = (V.transform spec).apply d := by
  simp only [finish, CipherSpec.finish, hmode, hpad, if_false, Bool.false_eq_true] at hf
  split at hf
  · rename_i hdvd
    refine ⟨hdvd, (Option.some.inj hf).symm, ?_⟩
    simp only [emitted, CipherSpec.holdsBack, henc, Bool.not_true, Bool.false_and,
      Transform.emitted, Transform.released_of_dvd _ hdvd, take_length]
  · cases hf

/-- With padding, the final call adds what is missing of the transform of the padded data. -/
theorem sealed_padded (hpad : spec.padding = true) :
    V.emitted spec d ++ f =
      (V.transform spec).apply (d ++ padding (V.transform spec).block d.length) := by
  have hpadded := dvd_length_padded (V.transform spec).block_pos d
  simp only [finish, CipherSpec.finish, hmode, hpad, henc, if_false, if_true] at hf
  cases hf
  simp only [emitted, CipherSpec.holdsBack, henc, Bool.not_true, Bool.false_and]
  rw [Transform.emitted_append, Transform.emitted, Transform.released_of_dvd _ hpadded, take_length]

theorem length_sealed_unpadded (hpad : spec.padding = false) :
    (V.emitted spec d ++ f).length = d.length := by
  obtain ⟨hdvd, rfl, hall⟩ := V.sealed_unpadded henc hmode hf hpad
  rw [append_nil, hall, (V.transform spec).length_apply d hdvd]

theorem length_sealed_padded (hpad : spec.padding = true) :
    (V.emitted spec d ++ f).length = d.length / spec.block * spec.block + spec.block := by
  have hpos := (V.transform spec).block_pos
  rw [V.sealed_padded henc hmode hf hpad,
    (V.transform spec).length_apply _ (dvd_length_padded hpos d), length_append,
    length_padding, ← V.block_eq]
  have hmod := Nat.mod_lt d.length hpos
  have hdiv := Nat.div_add_mod' d.length (V.transform spec).block
  omega

theorem decrypts_unpadded (hpad : spec.padding = false) :
    V.finish spec.decrypting (V.emitted spec d ++ f) none = some [] ∧
      V.emitted spec.decrypting (V.emitted spec d ++ f) = d := by
  have hblock := V.block_eq spec
  have hblock' : (V.transform spec.decrypting).block = (V.transform spec).block :=
    (V.block_eq spec.decrypting).trans hblock.symm
  obtain ⟨hdvd, rfl, hall⟩ := V.sealed_unpadded henc hmode hf hpad
  have hdvd' : (V.transform spec.decrypting).block ∣ ((V.transform spec).apply d).length := by
    rw [hblock', (V.transform spec).length_apply d hdvd]
    exact hdvd
  rw [append_nil, hall]
  constructor
  · simp only [finish, CipherSpec.finish, CipherSpec.decrypting_alg, CipherSpec.decrypting_padding,
      hmode, hpad, if_false, Bool.false_eq_true]
    rw [if_pos hdvd']
  · simp only [emitted, CipherSpec.holdsBack, hpad, CipherSpec.decrypting_padding, Bool.and_false,
      Transform.emitted]
    rw [Transform.released_of_dvd _ hdvd', take_length]
    exact V.decrypts_blocks spec d henc (hblock ▸ hdvd)

theorem decrypts_padded (hpad : spec.padding = true) :
    ∃ g, V.finish spec.decrypting (V.emitted spec d ++ f) none = some g ∧
      V.emitted spec.decrypting (V.emitted spec d ++ f) ++ g = d := by
  have hblock := V.block_eq spec
  have hblock' : (V.transform spec.decrypting).block = (V.transform spec).block :=
    (V.block_eq spec.decrypting).trans hblock.symm
  have hsmall : (V.transform spec).block < 256 := by
    rw [hblock, CipherSpec.block]
    split <;> decide
  have hpadded := dvd_length_padded (V.transform spec).block_pos d
  obtain ⟨g, hg, hd⟩ := emitted_unpad hsmall hblock'
    (fun d hd => V.decrypts_blocks spec d henc (hblock ▸ hd)) d
  rw [V.sealed_padded henc hmode hf hpad]
  generalize hx : (V.transform spec).apply (d ++ padding (V.transform spec).block d.length) = x at *
  have hlen : x.length = (d ++ padding (V.transform spec).block d.length).length := by
    rw [← hx]
    exact (V.transform spec).length_apply _ hpadded
  have hne : x ≠ [] := by
    rintro rfl
    have hpos := (V.transform spec).block_pos
    have hmod := Nat.mod_lt d.length hpos
    rw [length_append, length_padding, length_nil] at hlen
    omega
  refine ⟨g, ?_, ?_⟩
  · simp only [finish, CipherSpec.finish, CipherSpec.decrypting_alg, CipherSpec.decrypting_enc,
      CipherSpec.decrypting_padding, hmode, hpad, if_false, if_true, Bool.false_eq_true]
    have hdvd : (V.transform spec.decrypting).block ∣ x.length := by
      rw [hblock', hlen]
      exact hpadded
    have hok : ¬(x = [] ∨ ¬ (V.transform spec.decrypting).block ∣ x.length) := by
      rintro (h | h)
      · exact hne h
      · exact h hdvd
    rw [← hblock'] at hg
    exact (if_neg hok).trans hg
  · simpa only [emitted, CipherSpec.holdsBack, CipherSpec.decrypting_enc,
      CipherSpec.decrypting_padding, hpad, Bool.not_false, Bool.true_and] using hd

theorem decrypts :
    ∃ g, V.finish spec.decrypting (V.emitted spec d ++ f) none = some g ∧
      V.emitted spec.decrypting (V.emitted spec d ++ f) ++ g = d := by
  cases hpad : spec.padding with
  | true => exact V.decrypts_padded henc hmode hf hpad
  | false =>
    obtain ⟨hfin, hd⟩ := V.decrypts_unpadded henc hmode hf hpad
    exact ⟨[], hfin, by rw [append_nil, hd]⟩

end Decrypts

end EvpModel

/-! ## A library with such contexts -/

/-- Exclusive or with one byte, in blocks of a size. -/
def xorBlocks (k : UInt8) (spec : CipherSpec) : Transform UInt8 where
  block := spec.block
  block_pos := by
    unfold CipherSpec.block
    split <;> decide
  apply d := d.map (· ^^^ k)
  length_apply d _ := List.length_map _
  apply_append d e _ _ := ⟨e.map (· ^^^ k), List.map_append⟩

/-- The transform of `Provider.buffered`. -/
def bufferedTransform (spec : CipherSpec) : Transform UInt8 := xorBlocks (byteAt spec.key 0) spec

/-- Its tag: the sum of the ciphertext bytes. -/
def bufferedTag (spec : CipherSpec) (fed : Bytes) (n : Nat) : Bytes :=
  List.replicate n ((if spec.enc then (bufferedTransform spec).apply fed else fed).foldl (· + ·) 0)

/-- A toy library whose contexts collect what they are given. -/
def Provider.buffered : Provider :=
  { Provider.plain with
    Cipher := CipherSpec × Bytes × Option Bytes
    cipherInit := fun _ spec => some (spec, [], none)
    cipherUpdate := fun _ c b =>
      (some ((bufferedTransform c.1).added c.1.holdsBack c.2.1 b), c.1, c.2.1 ++ b, c.2.2)
    cipherFinal := fun _ c =>
      (c.1.finish (bufferedTransform c.1) (bufferedTag c.1 c.2.1) c.2.1 c.2.2, c)
    cipherTag := fun _ c n => some (bufferedTag c.1 c.2.1 n)
    cipherSetTag := fun _ c t => some (c.1, c.2.1, some t)
    cipherCopy := fun _ _ => true }

theorem map_xor_twice (k : UInt8) (d : Bytes) : (d.map (· ^^^ k)).map (· ^^^ k) = d := by
  rw [map_map]
  refine (map_congr_left fun a _ => ?_).trans (map_id d)
  show a ^^^ k ^^^ k = a
  rw [UInt8.xor_assoc, UInt8.xor_self, UInt8.xor_zero]

def EvpModel.buffered : EvpModel Provider.buffered where
  transform := bufferedTransform
  block_eq _ := rfl
  decrypts_blocks spec d _ _ := map_xor_twice (byteAt spec.key 0) d
  tag := bufferedTag
  supports _ := true
  supports_decrypting _ := rfl
  Holds c spec fed given := c = (spec, fed, given)
  Finished c spec fed := c.1 = spec ∧ c.2.1 = fed
  alloc _ _ := rfl
  fetch _ _ := rfl
  ctxNew _ := rfl
  copy _ _ := rfl
  init _ spec _ := ⟨_, rfl, rfl⟩
  init_none _ _ h := by cases h
  update _ c spec fed b h := by
    subst h
    exact ⟨_, rfl, rfl⟩
  final _ c spec fed given h := by
    subst h
    exact ⟨_, rfl, rfl, rfl⟩
  getTag _ c spec fed n h := by
    obtain ⟨rfl, rfl⟩ := h
    rfl
  setTag _ c spec fed t h := by
    subst h
    exact ⟨_, rfl, rfl⟩

end FreeHsm
