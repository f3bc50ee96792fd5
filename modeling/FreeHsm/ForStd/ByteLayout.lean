import Mathlib.Data.List.Basic
import Mathlib.Data.Nat.Digits.Defs
import Mathlib.Data.Vector.Defs
import Mathlib.Tactic.IntervalCases

/-!
# Byte layouts

Reading fixed-width fields at given offsets out of a byte buffer, and the
correspondence with a buffer written as a sequence of segments.

A record written field by field is `segs.flatten` for a list `segs` of byte
strings; the reader addresses the same record by offset. `byteAt_flatten`
relates the two: the byte at `offsetOf segs k + i` is byte `i` of segment `k`.
The typed readers (`u32At`, `vecAt`) follow from it.
-/

namespace ByteLayout

open List hiding Vector

/-- A byte string. -/
abbrev Bytes := List UInt8

/-- The byte at index `i`; reads past the end give zero. -/
def byteAt (b : Bytes) (i : Nat) : UInt8 := b.getD i 0

/-- Four little-endian bytes of a 32-bit word. -/
def le32 (v : UInt32) : Bytes :=
  [v.toUInt8, (v >>> 8).toUInt8, (v >>> 16).toUInt8, (v >>> 24).toUInt8]

/-- The 32-bit little-endian word at offset `off`. -/
def u32At (b : Bytes) (off : Nat) : UInt32 :=
  (byteAt b off).toUInt32 ||| ((byteAt b (off + 1)).toUInt32 <<< 8)
    ||| ((byteAt b (off + 2)).toUInt32 <<< 16) ||| ((byteAt b (off + 3)).toUInt32 <<< 24)

/-- The `n` bytes at offset `off`. Irreducible, since unification would otherwise
    compute the array element by element. -/
@[irreducible] def vecAt (b : Bytes) (off n : Nat) : Vector UInt8 n :=
  Vector.ofFn fun i => byteAt b (off + i)

@[simp] theorem length_le32 (v : UInt32) : (le32 v).length = 4 := rfl

/-- Reassembling the four little-endian bytes of a word recovers it. -/
theorem or_bytes_eq (v : UInt32) :
    v.toUInt8.toUInt32 ||| ((v >>> 8).toUInt8.toUInt32 <<< 8)
      ||| ((v >>> 16).toUInt8.toUInt32 <<< 16) ||| ((v >>> 24).toUInt8.toUInt32 <<< 24) = v := by
  apply UInt32.toBitVec_inj.mp
  apply BitVec.eq_of_getLsbD_eq
  intro i hi
  simp only [UInt32.toBitVec_or, UInt32.toBitVec_shiftLeft, UInt8.toBitVec_toUInt32,
    UInt32.toBitVec_toUInt8, UInt32.toBitVec_shiftRight, BitVec.getLsbD_or]
  -- each of the 32 bits comes from exactly one of the four bytes
  interval_cases i <;>
    simp [BitVec.shiftLeft_eq', BitVec.ushiftRight_eq']

theorem u32At_le32_append (v : UInt32) (rest : Bytes) : u32At (le32 v ++ rest) 0 = v := by
  exact or_bytes_eq v

/-! ## Reading through a prefix -/

theorem byteAt_append_right (a b : Bytes) (i : Nat) :
    byteAt (a ++ b) (a.length + i) = byteAt b i := by
  simp only [byteAt, getD_eq_getElem?_getD]
  rw [getElem?_append_right (Nat.le_add_right _ _), Nat.add_sub_cancel_left]

theorem byteAt_append_left {a : Bytes} {i : Nat} (b : Bytes) (h : i < a.length) :
    byteAt (a ++ b) i = byteAt a i := by
  simp [byteAt, getD_eq_getElem?_getD, getElem?_append_left h]

theorem u32At_append_right (a b : Bytes) (off : Nat) :
    u32At (a ++ b) (a.length + off) = u32At b off := by
  simp only [u32At, add_assoc, byteAt_append_right]

theorem vecAt_append_right (a b : Bytes) (off n : Nat) :
    vecAt (a ++ b) (a.length + off) n = vecAt b off n := by
  simp only [vecAt, add_assoc, byteAt_append_right]

variable {n off : Nat} {segs : List Bytes}

/-- A fixed-size array read back from the front of the bytes it was written to. -/
theorem vecAt_toList_append (v : Vector UInt8 n) (rest : Bytes) :
    vecAt (v.toList ++ rest) 0 n = v := by
  ext i hi
  have hlen : i < v.toList.length := by simpa using hi
  simp only [vecAt, Vector.getElem_ofFn, zero_add, byteAt_append_left rest hlen]
  simp [byteAt, getD_eq_getElem?_getD, getElem?_eq_getElem hlen]

theorem toList_vecAt {b : Bytes} (h : b.length = n) : (vecAt b 0 n).toList = b := by
  apply ext_getElem
  · simp [h]
  · intro i h₁ h₂
    simp [vecAt, byteAt, getD_eq_getElem?_getD, getElem?_eq_getElem h₂]

/-! ## Segments -/

/-- Where segment `k` starts in `segs.flatten`. -/
def offsetOf (segs : List Bytes) (k : Nat) : Nat := ((segs.take k).map List.length).sum

theorem offsetOf_eq_length (segs : List Bytes) (k : Nat) :
    offsetOf segs k = (segs.take k).flatten.length := by
  simp [offsetOf, length_flatten]

/-- The buffer splits at segment `k` into what precedes it, the segment, and the rest. -/
theorem flatten_split {k : Nat} {seg : Bytes} (rest : Bytes) (hk : segs[k]? = some seg) :
    segs.flatten ++ rest =
      (segs.take k).flatten ++ (seg ++ ((segs.drop (k + 1)).flatten ++ rest)) := by
  obtain ⟨hlt, rfl⟩ := List.getElem?_eq_some_iff.mp hk
  have hs : segs = segs.take k ++ segs[k] :: segs.drop (k + 1) := by
    rw [getElem_cons_drop, take_append_drop]
  calc segs.flatten ++ rest
      = (segs.take k ++ segs[k] :: segs.drop (k + 1)).flatten ++ rest := by rw [← hs]
    _ = _ := by simp only [flatten_append, flatten_cons, append_assoc]

theorem byteAt_flatten {b : UInt8} (k : Nat) (rest : Bytes) (hk : segs[k]? = some [b])
    (hoff : offsetOf segs k = off) : byteAt (segs.flatten ++ rest) off = b := by
  rw [flatten_split rest hk, ← hoff, offsetOf_eq_length, ← add_zero (length _), byteAt_append_right]
  rfl

theorem u32At_flatten {v : UInt32} (k : Nat) (rest : Bytes) (hk : segs[k]? = some (le32 v))
    (hoff : offsetOf segs k = off) : u32At (segs.flatten ++ rest) off = v := by
  rw [flatten_split rest hk, ← hoff, offsetOf_eq_length, ← add_zero (length _),
    u32At_append_right, u32At_le32_append]

theorem vecAt_flatten {v : Vector UInt8 n} (k : Nat) (rest : Bytes) (hk : segs[k]? = some v.toList)
    (hoff : offsetOf segs k = off) : vecAt (segs.flatten ++ rest) off n = v := by
  rw [flatten_split rest hk, ← hoff, offsetOf_eq_length, ← add_zero (length _),
    vecAt_append_right, vecAt_toList_append]

/-- Dropping the segments before `k` leaves segment `k` at the front. -/
theorem drop_flatten {seg : Bytes} (k : Nat) (rest : Bytes) (hk : segs[k]? = some seg)
    (hoff : offsetOf segs k = off) :
    (segs.flatten ++ rest).drop off = seg ++ ((segs.drop (k + 1)).flatten ++ rest) := by
  rw [flatten_split rest hk, ← hoff, offsetOf_eq_length, drop_left]

/-! ## Integers in a fixed number of bytes

`intBytes` writes a number into `n` bytes in either order, shifting as C code does; `intValue` reads
it back. Bits that do not fit are lost. -/

/-- The `n` bytes of a number, least significant byte first or last. -/
def intBytes (v n : Nat) (le : Bool) : Bytes :=
  (List.range n).map fun i => UInt8.ofNat (v >>> ((if le then i else n - 1 - i) * 8))

/-- The number in some bytes. -/
def intValue (b : Bytes) (le : Bool) : Nat :=
  Nat.ofDigits 256 ((if le then b else b.reverse).map UInt8.toNat)

@[simp] theorem length_intBytes (v n : Nat) (le : Bool) : (intBytes v n le).length = n := by
  simp [intBytes]

theorem reverse_intBytes (v n : Nat) : (intBytes v n false).reverse = intBytes v n true := by
  apply List.ext_getElem
  · simp
  · intro i hi _
    rw [List.length_reverse, length_intBytes] at hi
    have hindex : n - 1 - (n - 1 - i) = i := by omega
    simp [intBytes, hindex]

/-- The bytes in their order of significance are the digits of the number. -/
theorem ofDigits_intBytes (v n : Nat) :
    Nat.ofDigits 256 ((intBytes v n true).map UInt8.toNat) = v % 256 ^ n := by
  induction n with
  | zero => simp [intBytes, Nat.mod_one]
  | succ n ih =>
    have hlast : intBytes v (n + 1) true = intBytes v n true ++ [UInt8.ofNat (v >>> (n * 8))] := by
      simp [intBytes, List.range_succ]
    have hshift : v >>> (n * 8) = v / 256 ^ n := by
      rw [Nat.shiftRight_eq_div_pow, Nat.mul_comm, Nat.pow_mul]
    rw [hlast, List.map_append, Nat.ofDigits_append, ih, List.length_map, length_intBytes,
      List.map_singleton, Nat.ofDigits_singleton, UInt8.toNat_ofNat', hshift]
    exact Nat.mod_pow_succ.symm

theorem intValue_intBytes (v n : Nat) (le : Bool) :
    intValue (intBytes v n le) le = v % 256 ^ n := by
  unfold intValue
  cases le with
  | true => exact ofDigits_intBytes v n
  | false =>
    rw [if_neg Bool.false_ne_true, reverse_intBytes]
    exact ofDigits_intBytes v n

theorem intValue_intBytes_of_lt {v n : Nat} (h : v < 256 ^ n) (le : Bool) :
    intValue (intBytes v n le) le = v := by
  rw [intValue_intBytes, Nat.mod_eq_of_lt h]

theorem intBytes_inj {v w n : Nat} {le : Bool} (hv : v < 256 ^ n) (hw : w < 256 ^ n)
    (h : intBytes v n le = intBytes w n le) : v = w := by
  rw [← intValue_intBytes_of_lt hv le, h, intValue_intBytes_of_lt hw]

end ByteLayout
