import Mathlib.Data.List.Basic

/-!
# Transforms of a stream, block by block

A transform that maps lists of whole blocks to lists of the same length, one block
after the other, can be run on input that comes in parts: what is known to be
complete is transformed, the rest is kept for later. The output so far depends on
the input so far only, not on how it was cut (`emitted_append`), which is what makes
a multipart computation agree with one that gets all its input at once.

A transform that is undone with its padding removed holds the last full block back,
since it may turn out to be padding (`hold`).
-/

namespace BlockStream

open List

/-- A length-preserving transform of whole blocks. -/
structure Transform (α : Type) where
  block : Nat
  block_pos : 0 < block
  apply : List α → List α
  length_apply : ∀ d, block ∣ d.length → (apply d).length = d.length
  /-- The blocks that follow do not show in those before them. -/
  apply_append : ∀ d e, block ∣ d.length → block ∣ e.length → ∃ e', apply (d ++ e) = apply d ++ e'

namespace Transform

variable {α : Type} (T : Transform α)

/-- How much of `n` elements of input can be transformed. -/
def released (hold : Bool) (n : Nat) : Nat :=
  T.block * ((if hold then n - 1 else n) / T.block)

/-- The output for an input so far. -/
def emitted (hold : Bool) (fed : List α) : List α := T.apply (fed.take (T.released hold fed.length))

/-- What `b` adds to the output after `fed`. -/
def added (hold : Bool) (fed b : List α) : List α :=
  (T.emitted hold (fed ++ b)).drop (T.emitted hold fed).length

theorem dvd_released (hold : Bool) (n : Nat) : T.block ∣ T.released hold n := Nat.dvd_mul_right ..

theorem released_le (hold : Bool) (n : Nat) : T.released hold n ≤ n := by
  unfold released
  refine Nat.le_trans (Nat.mul_div_le _ _) ?_
  split <;> omega

theorem released_mono (hold : Bool) {n m : Nat} (h : n ≤ m) :
    T.released hold n ≤ T.released hold m := by
  refine Nat.mul_le_mul_left _ (Nat.div_le_div_right ?_)
  split <;> omega

theorem released_of_dvd {n : Nat} (h : T.block ∣ n) : T.released false n = n :=
  Nat.mul_div_cancel' h

theorem released_hold {n : Nat} (h : T.block ∣ n) (hn : 0 < n) :
    T.released true n = n - T.block := by
  obtain ⟨k, rfl⟩ := h
  have hk : 0 < k := Nat.pos_of_mul_pos_left hn
  have hpos := T.block_pos
  have hdiv : (T.block * k - 1) / T.block = k - 1 := by
    rw [Nat.div_eq_iff hpos]
    obtain ⟨j, rfl⟩ : ∃ j, k = j + 1 := ⟨k - 1, by omega⟩
    rw [Nat.mul_succ, Nat.add_sub_cancel, Nat.mul_comm]
    omega
  unfold released
  rw [if_pos rfl, hdiv, Nat.mul_sub, Nat.mul_one]

@[simp] theorem emitted_nil (hold : Bool) : T.emitted hold [] = [] := by
  have hlen := T.length_apply [] (Nat.dvd_zero _)
  unfold emitted
  rw [take_nil]
  exact eq_nil_of_length_eq_zero hlen

theorem emitted_append (hold : Bool) (fed b : List α) :
    T.emitted hold fed ++ T.added hold fed b = T.emitted hold (fed ++ b) := by
  -- the part that was complete before is a prefix of whole blocks of what is complete now
  have hmono := T.released_mono hold (show fed.length ≤ (fed ++ b).length by simp)
  have hle := T.released_le hold fed.length
  generalize hk : T.released hold fed.length = k at *
  generalize hk' : T.released hold (fed ++ b).length = k' at *
  have hdvd : T.block ∣ k := hk ▸ T.dvd_released hold _
  have hdvd' : T.block ∣ k' := hk' ▸ T.dvd_released hold _
  have hlen' : k' ≤ (fed ++ b).length := hk' ▸ T.released_le hold _
  have hsplit : (fed ++ b).take k' = fed.take k ++ ((fed ++ b).take k').drop k := by
    have htake : ((fed ++ b).take k').take k = fed.take k := by
      rw [take_take, Nat.min_eq_left hmono, take_append_of_le_length hle]
    rw [← htake, take_append_drop]
  have hrest : T.block ∣ (((fed ++ b).take k').drop k).length := by
    rw [length_drop, length_take, Nat.min_eq_left hlen']
    exact Nat.dvd_sub hdvd' hdvd
  have hfirst : T.block ∣ (fed.take k).length := by
    rw [length_take, Nat.min_eq_left hle]
    exact hdvd
  obtain ⟨e', he'⟩ := T.apply_append _ _ hfirst hrest
  have hemit : T.emitted hold (fed ++ b) = T.emitted hold fed ++ e' := by
    unfold emitted
    rw [hk, hk', hsplit, he']
  rw [added, hemit, drop_left]

end Transform

/-! ## Padding -/

/-- The padding of `n` bytes: as many bytes as fill the block, each of that value. -/
def padding (block n : Nat) : List UInt8 :=
  List.replicate (block - n % block) (UInt8.ofNat (block - n % block))

/-- A last block without its padding, if it has one. -/
def unpad (last : List UInt8) : Option (List UInt8) :=
  match last.getLast? with
  | none => none
  | some k =>
    if k ≠ 0 ∧ k.toNat ≤ last.length ∧ last.drop (last.length - k.toNat) = List.replicate k.toNat k
    then some (last.take (last.length - k.toNat)) else none

theorem length_padding (block n : Nat) : (padding block n).length = block - n % block :=
  length_replicate

theorem dvd_length_padded {block : Nat} (hpos : 0 < block) (d : List UInt8) :
    block ∣ (d ++ padding block d.length).length := by
  rw [length_append, length_padding]
  have hmod := Nat.mod_lt d.length hpos
  refine ⟨d.length / block + 1, ?_⟩
  have := Nat.div_add_mod d.length block
  rw [Nat.mul_add, Nat.mul_one]
  omega

theorem unpad_padded {block : Nat} (hpos : 0 < block) (hblock : block < 256) (d : List UInt8)
    (n : Nat) : unpad (d ++ padding block n) = some d := by
  have hmod := Nat.mod_lt n hpos
  obtain ⟨j, hj⟩ : ∃ j, block - n % block = j + 1 := ⟨block - n % block - 1, by omega⟩
  have hk : (UInt8.ofNat (j + 1)).toNat = j + 1 := by
    rw [UInt8.toNat_ofNat']
    exact Nat.mod_eq_of_lt (by omega)
  have hne : UInt8.ofNat (j + 1) ≠ 0 := by
    intro h
    rw [h] at hk
    simp at hk
  have hlast : (d ++ replicate (j + 1) (UInt8.ofNat (j + 1))).getLast? =
      some (UInt8.ofNat (j + 1)) := by
    rw [replicate_succ', ← append_assoc, getLast?_concat]
  have hlen : (d ++ replicate (j + 1) (UInt8.ofNat (j + 1))).length - (j + 1) = d.length := by
    simp
  unfold unpad padding
  rw [hj]
  simp only [hlast, hk, hlen]
  rw [if_pos ⟨hne, by simp, by rw [drop_left]⟩, take_left]

/-- What a transform made of padded input, its inverse takes apart: all blocks but the last as
    they come, and the last one without its padding. -/
theorem emitted_unpad {T U : Transform UInt8} (hblock : T.block < 256) (hU : U.block = T.block)
    (hinv : ∀ d, T.block ∣ d.length → U.apply (T.apply d) = d) (d : List UInt8) :
    let x := T.apply (d ++ padding T.block d.length)
    ∃ tail, unpad ((U.apply x).drop (x.length - T.block)) = some tail ∧
      U.emitted true x ++ tail = d := by
  intro x
  have hpos := T.block_pos
  have hdvd := dvd_length_padded hpos d
  have hxlen : x.length = (d ++ padding T.block d.length).length := T.length_apply _ hdvd
  have hmod := Nat.mod_lt d.length hpos
  have hlen : x.length = d.length + (T.block - d.length % T.block) := by
    rw [hxlen, length_append, length_padding]
  have hplain : U.apply x = d ++ padding T.block d.length := hinv _ hdvd
  have hle : x.length - T.block ≤ d.length := by omega
  refine ⟨d.drop (x.length - T.block), ?_, ?_⟩
  · rw [hplain, drop_append_of_le_length hle]
    exact unpad_padded hpos hblock _ _
  · -- the blocks before the last are a prefix of the input
    have hreleased : U.released true x.length = x.length - T.block := by
      rw [U.released_hold (by rw [hU, hxlen]; exact hdvd) (by omega), hU]
    have hcut : T.block ∣ x.length - T.block :=
      Nat.dvd_sub (by rw [hxlen]; exact hdvd) (Nat.dvd_refl _)
    have hcutx : (x.take (x.length - T.block)).length = x.length - T.block := by
      rw [length_take]
      omega
    obtain ⟨e', he'⟩ := U.apply_append (x.take (x.length - T.block)) (x.drop (x.length - T.block))
      (by rw [hU, hcutx]; exact hcut)
      (by rw [hU, length_drop]; exact Nat.dvd_sub (by rw [hxlen]; exact hdvd) hcut)
    rw [take_append_drop, hplain] at he'
    have hprefix : U.apply (x.take (x.length - T.block)) = d.take (x.length - T.block) := by
      have hl : (U.apply (x.take (x.length - T.block))).length = x.length - T.block := by
        rw [U.length_apply _ (by rw [hU, hcutx]; exact hcut), hcutx]
      have htake := congrArg (take (x.length - T.block)) he'
      rw [take_append_of_le_length hle, take_append_of_le_length (Nat.le_of_eq hl.symm),
        take_of_length_le (Nat.le_of_eq hl)] at htake
      exact htake.symm
    unfold Transform.emitted
    rw [hreleased, hprefix, take_append_drop]

end BlockStream
