import FreeHsm.ForStd.ByteLayout
import Mathlib.Data.List.Sort
import Mathlib.Tactic.Linarith
import Mathlib.Tactic.Ring

/-!
# Distinguished encoding

The encoding rules of ASN.1 as far as hand-written encoders and readers use them: an
element is a tag, the length of its content in the shortest form, and the content; the
members of a set stand in ascending order.
-/

namespace Der

open List

open ByteLayout (Bytes)

/-! ## Numbers -/

/-- The `k` low octets of a number, the highest first. -/
def octets : (k n : Nat) → Bytes
  | 0, _ => []
  | k + 1, n => UInt8.ofNat (n / 256 ^ k) :: octets k n

/-- The number that octets stand for, the highest first. -/
def value (bs : Bytes) : Nat := bs.foldl (fun v b => v * 256 + b.toNat) 0

@[simp] theorem length_octets (k n : Nat) : (octets k n).length = k := by
  induction k with
  | zero => rfl
  | succ k ih => rw [octets, length_cons, ih]

theorem foldl_octets (k n acc : Nat) :
    (octets k n).foldl (fun v b => v * 256 + b.toNat) acc = acc * 256 ^ k + n % 256 ^ k := by
  induction k generalizing acc with
  | zero => simp [octets, Nat.mod_one]
  | succ k ih =>
    have hmod : n % 256 ^ (k + 1) = n % 256 ^ k + 256 ^ k * (n / 256 ^ k % 256) := Nat.mod_pow_succ
    rw [octets, foldl_cons, ih, hmod, UInt8.toNat_ofNat', show 2 ^ 8 = 256 from rfl]
    ring

variable {n k : Nat}

theorem value_octets (h : n < 256 ^ k) : value (octets k n) = n := by
  rw [value, foldl_octets, Nat.zero_mul, Nat.zero_add, Nat.mod_eq_of_lt h]

theorem foldl_value (bs : Bytes) (acc : Nat) :
    bs.foldl (fun v b => v * 256 + b.toNat) acc = acc * 256 ^ bs.length + value bs := by
  unfold value
  induction bs generalizing acc with
  | nil => simp
  | cons b bs ih =>
    rw [foldl_cons, foldl_cons, ih, ih (0 * 256 + b.toNat), length_cons]
    ring

theorem value_cons (b : UInt8) (bs : Bytes) : value (b :: bs) = b.toNat * 256 ^ bs.length + value bs := by
  rw [value, foldl_cons, foldl_value, zero_mul, zero_add]

theorem value_lt (bs : Bytes) : value bs < 256 ^ bs.length := by
  induction bs with
  | nil => decide
  | cons b bs ih =>
    have hb : b.toNat < 256 := b.toNat_lt
    rw [value_cons, length_cons, pow_succ]
    nlinarith

theorem value_inj {a b : Bytes} (hlen : a.length = b.length) (h : value a = value b) : a = b := by
  induction a generalizing b with
  | nil => exact (length_eq_zero_iff.1 hlen.symm).symm
  | cons x a ih =>
    cases b with
    | nil => cases hlen
    | cons y b =>
      replace hlen : a.length = b.length := Nat.succ.inj hlen
      have ha := value_lt a
      have hb := value_lt b
      rw [value_cons, value_cons, hlen] at h
      rw [hlen] at ha
      have hx : x.toNat = y.toNat := by
        have hdiv := congrArg (· / 256 ^ b.length) h
        simpa [Nat.add_comm _ (value _), Nat.add_mul_div_right, Nat.pow_pos, Nat.div_eq_of_lt ha,
          Nat.div_eq_of_lt hb] using hdiv
      rw [hx] at h
      rw [UInt8.toNat_inj.1 hx, ih hlen (add_left_cancel h)]

/-- How many octets a number takes. -/
def octetCount (n : Nat) : Nat := n.log2 / 8 + 1

theorem lt_pow_octetCount (n : Nat) : n < 256 ^ octetCount n := by
  have h : n < 2 ^ (n.log2 + 1) := Nat.lt_log2_self
  have hle : 2 ^ (n.log2 + 1) ≤ 2 ^ (8 * octetCount n) := by
    apply Nat.pow_le_pow_right (by decide)
    unfold octetCount
    omega
  rw [show (256 : Nat) = 2 ^ 8 from rfl, ← Nat.pow_mul]
  omega

theorem octetCount_le (hk : 0 < k) (h : n < 256 ^ k) : octetCount n ≤ k := by
  unfold octetCount
  by_cases hzero : n = 0
  · rw [hzero, Nat.log2_zero]
    exact hk
  · rw [show (256 : Nat) = 2 ^ 8 from rfl, ← pow_mul] at h
    have hlt : n.log2 < 8 * k := (Nat.log2_lt hzero).2 h
    omega

theorem octetCount_eq (hlow : 256 ^ k ≤ n) (hhigh : n < 256 ^ (k + 1)) : octetCount n = k + 1 := by
  have hpos : n ≠ 0 := by
    have : 0 < 256 ^ k := Nat.pow_pos (by decide)
    omega
  rw [show (256 : Nat) = 2 ^ 8 from rfl, ← pow_mul] at hlow hhigh
  have hge : 8 * k ≤ n.log2 := (Nat.le_log2 hpos).2 hlow
  have hlt : n.log2 < 8 * (k + 1) := (Nat.log2_lt hpos).2 hhigh
  unfold octetCount
  omega

/-! ## Lengths -/

/-- The length octets of a content of `n` octets. -/
def lengthOctets (n : Nat) : Bytes :=
  if n < 128 then [UInt8.ofNat n] else UInt8.ofNat (128 + octetCount n) :: octets (octetCount n) n

theorem lengthOctets_of_lt (h : n < 128) : lengthOctets n = [UInt8.ofNat n] := if_pos h

theorem lengthOctets_one (hlow : 128 ≤ n) (hhigh : n ≤ 0xFF) :
    lengthOctets n = [0x81, UInt8.ofNat n] := by
  rw [lengthOctets, if_neg (by omega), octetCount_eq (k := 0) (by omega) (by omega)]
  simp [octets]

theorem lengthOctets_two (hlow : 0xFF < n) (hhigh : n ≤ 0xFFFF) :
    lengthOctets n = [0x82, UInt8.ofNat (n / 256), UInt8.ofNat n] := by
  rw [lengthOctets, if_neg (by omega), octetCount_eq (k := 1) (by omega) (by omega)]
  simp [octets]

theorem lengthOctets_three (hlow : 0xFFFF < n) (hhigh : n ≤ 0xFFFFFF) :
    lengthOctets n = [0x83, UInt8.ofNat (n / 65536), UInt8.ofNat (n / 256), UInt8.ofNat n] := by
  rw [lengthOctets, if_neg (by omega), octetCount_eq (k := 2) (by omega) (by omega)]
  simp [octets]

theorem lengthOctets_head (hk : 0 < k) (hlow : 256 ^ k ≤ n) (hhigh : n < 256 ^ 127) :
    ∃ b rest, lengthOctets n = b :: rest ∧ 128 + k < b.toNat := by
  have hpow : 256 ^ 1 ≤ 256 ^ k := Nat.pow_le_pow_right (by decide) hk
  refine ⟨UInt8.ofNat (128 + octetCount n), octets (octetCount n) n, if_neg (by omega), ?_⟩
  have hle : octetCount n ≤ 127 := octetCount_le (by decide) hhigh
  have hge : k < octetCount n := by
    by_contra hlt
    have : 256 ^ octetCount n ≤ 256 ^ k := Nat.pow_le_pow_right (by decide) (Nat.not_lt.1 hlt)
    have := lt_pow_octetCount n
    omega
  rw [UInt8.toNat_ofNat', Nat.mod_eq_of_lt (by omega)]
  omega

/-! ## Elements -/

/-- An element. -/
def tlv (tag : UInt8) (content : Bytes) : Bytes :=
  tag :: (lengthOctets content.length ++ content)

theorem length_tlv (tag : UInt8) (content : Bytes) :
    (tlv tag content).length = 1 + (lengthOctets content.length).length + content.length := by
  simp only [tlv, length_cons, length_append]
  omega

theorem length_content_lt (tag : UInt8) (content : Bytes) : content.length < (tlv tag content).length := by
  rw [length_tlv]
  omega

/-! ## Reading -/

/-- The length that octets start with, and the octets after it. -/
def readLength : Bytes → Option (Nat × Bytes)
  | [] => none
  | b :: rest =>
    if b < 0x80 then some (b.toNat, rest)
    else some (value (rest.take (b.toNat - 0x80)), rest.drop (b.toNat - 0x80))

theorem readLength_lengthOctets (h : n < 256 ^ 127) (rest : Bytes) :
    readLength (lengthOctets n ++ rest) = some (n, rest) := by
  by_cases hshort : n < 128
  · have hnat : (UInt8.ofNat n).toNat = n := by
      rw [UInt8.toNat_ofNat', Nat.mod_eq_of_lt (by omega)]
    have hlt : UInt8.ofNat n < 0x80 := by
      rw [UInt8.lt_iff_toNat_lt, hnat]
      exact hshort
    rw [lengthOctets_of_lt hshort]
    simp [readLength, hlt, Nat.mod_eq_of_lt (show n < 256 by omega)]
  · have hcount : octetCount n ≤ 127 := octetCount_le (by decide) h
    have hnat : (UInt8.ofNat (128 + octetCount n)).toNat = 128 + octetCount n := by
      rw [UInt8.toNat_ofNat', Nat.mod_eq_of_lt (by omega)]
    have hge : ¬UInt8.ofNat (128 + octetCount n) < 0x80 := by
      rw [UInt8.lt_iff_toNat_lt, hnat]
      exact Nat.not_lt.2 (Nat.le_add_right _ _)
    have hk : 128 + octetCount n - 0x80 = octetCount n := by omega
    rw [lengthOctets, if_neg hshort, cons_append, readLength, if_neg hge, hnat, hk,
      take_left' (length_octets _ _), drop_left' (length_octets _ _),
      value_octets (lt_pow_octetCount n)]

theorem tlv_append_inj {t t' : UInt8} {c c' r r' : Bytes} (hc : c.length < 256 ^ 127)
    (hc' : c'.length < 256 ^ 127) (h : tlv t c ++ r = tlv t' c' ++ r') : t = t' ∧ c = c' ∧ r = r' := by
  simp only [tlv, cons_append, cons.injEq, append_assoc] at h
  obtain ⟨ht, h⟩ := h
  have hread := readLength_lengthOctets hc (c ++ r)
  rw [h, readLength_lengthOctets hc'] at hread
  simp only [Option.some.injEq, Prod.mk.injEq] at hread
  obtain ⟨hlen, hrest⟩ := hread
  obtain ⟨hcc, hr⟩ := append_inj hrest hlen
  exact ⟨ht, hcc.symm, hr.symm⟩

theorem tlv_inj {t t' : UInt8} {c c' : Bytes} (hc : c.length < 256 ^ 127)
    (hc' : c'.length < 256 ^ 127) (h : tlv t c = tlv t' c') : c = c' := by
  have happend : tlv t c ++ [] = tlv t' c' ++ [] := by rw [h]
  exact (tlv_append_inj hc hc' happend).2.1

/-! ## Sequences of elements -/

/-- Elements one after the other, given by tag and content. -/
def elements (es : List (UInt8 × Bytes)) : Bytes := es.flatMap fun e => tlv e.1 e.2

@[simp] theorem elements_cons (e : UInt8 × Bytes) (es : List (UInt8 × Bytes)) :
    elements (e :: es) = tlv e.1 e.2 ++ elements es := rfl

theorem length_le_elements {e : UInt8 × Bytes} {es : List (UInt8 × Bytes)} (h : e ∈ es) :
    e.2.length ≤ (elements es).length := by
  induction es with
  | nil => cases h
  | cons e' es ih =>
    rw [elements_cons, length_append, length_tlv]
    rcases mem_cons.1 h with rfl | h
    · omega
    · have := ih h
      omega

theorem length_le_length_elements (es : List (UInt8 × Bytes)) : es.length ≤ (elements es).length := by
  induction es with
  | nil => exact le_refl 0
  | cons e es ih =>
    rw [elements_cons, length_append, length_tlv, length_cons]
    omega

theorem elements_inj {es es' : List (UInt8 × Bytes)} (hes : ∀ e ∈ es, e.2.length < 256 ^ 127)
    (hes' : ∀ e ∈ es', e.2.length < 256 ^ 127) (h : elements es = elements es') : es = es' := by
  induction es generalizing es' with
  | nil =>
    cases es' with
    | nil => rfl
    | cons e es' => cases h
  | cons e es ih =>
    cases es' with
    | nil => cases h
    | cons e' es' =>
      obtain ⟨htag, hcontent, hrest⟩ := tlv_append_inj (hes e mem_cons_self)
        (hes' e' mem_cons_self) h
      rw [ih (fun x hx => hes x (mem_cons_of_mem _ hx))
        (fun x hx => hes' x (mem_cons_of_mem _ hx)) hrest, Prod.ext htag hcontent]

/-- The members of a set as one content. -/
def setContent (members : List Bytes) : Bytes := (members.insertionSort (· ≤ ·)).flatten

end Der
