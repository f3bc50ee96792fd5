import FreeHsm.Token.PublicSection

/-!
# Sizes of the store

The size of the serialized store is computed in `size_t`, written as a 32-bit word, passed to
OpenSSL as an `int` and compared with a bound that the preprocessor computes in 32 bits from
`FHSM_MAX_OBJECTS`. Here that number is any the static assertion admits.
-/

namespace FreeHsm

open ByteLayout List

/-- What the build sets. -/
structure Build where
  /-- `FHSM_MAX_OBJECTS`. -/
  maxObjects : Nat
  /-- `FHSM_SECURE_HEAP_BYTES`. -/
  secureHeapBytes : Nat
  /-- The static assertion; both sides are of type `size_t`. -/
  admitted : maxObjects * 5120 % 2 ^ 64 ≤ secureHeapBytes % 2 ^ 64

/-- The longest record, with the length before it. -/
def recordMax : Nat := 4 + recV4Fixed + objValueMax

/-- `FHSM_OBJ_BLOB_MAX`, in `uint32_t`. -/
def Build.objBlobMax (b : Build) : Nat := (12 + b.maxObjects % 2 ^ 32 * recordMax) % 2 ^ 32

/-- The object array of such a build; `object_count` is a `uint32_t`. -/
structure Build.Store (b : Build) where
  objs : List Obj
  length_le : objs.length ≤ b.maxObjects
  length_lt : objs.length < 2 ^ 32

/-- The bytes that `serialize_objects` writes. -/
def serializedBytes (objs : List Obj) (publicOnly : Bool) : Nat :=
  12 + ((objs.filter (Obj.serialized publicOnly)).flatMap putRecord).length

theorem serializedBytes_le (objs : List Obj) (publicOnly : Bool) :
    serializedBytes objs publicOnly ≤ 12 + objs.length * recordMax := by
  have hrecords := length_flatMap_putRecord_le (objs.filter (Obj.serialized publicOnly))
  have hmul := Nat.mul_le_mul_right recordMax (length_filter_le (Obj.serialized publicOnly) objs)
  exact Nat.add_le_add_left (Nat.le_trans hrecords hmul) 12

namespace Build.Store

variable {b : Build} (s : b.Store) (publicOnly : Bool)

/-- The step of `serialized_size`: a record in `uint32_t`, the sum in `size_t`. -/
def addRecord (sz : Nat) (o : Obj) : Nat :=
  if o.serialized publicOnly then (sz + (4 + recV4Fixed + o.value.length) % 2 ^ 32) % 2 ^ 64 else sz

/-- `serialized_size`. -/
def serializedSize : Nat := s.objs.foldl (addRecord publicOnly) 12

/-- The length before a blob or a public section, in `uint32_t`. -/
def lenField : Nat := s.serializedSize publicOnly % 2 ^ 32

/-- The length that OpenSSL is given, an `int`. -/
def gcmLen : Int := Int.bmod (s.serializedSize false) (2 ^ 32)

/-- The loop counts the bytes: it adds less than `2 ^ 32` records of little over 2 MiB. -/
theorem serializedSize_eq : s.serializedSize publicOnly = serializedBytes s.objs publicOnly := by
  have hloop : ∀ (os : List Obj) (acc : Nat), acc + os.length * 2 ^ 22 < 2 ^ 64 →
      os.foldl (addRecord publicOnly) acc =
        acc + ((os.filter (Obj.serialized publicOnly)).flatMap putRecord).length := by
    intro os
    induction os with
    | nil => exact fun acc _ => rfl
    | cons o os ih =>
      intro acc hacc
      have hvalue : o.value.length ≤ 2097152 := o.value_le
      have hfixed : recV4Fixed = 912 := rfl
      rw [length_cons, Nat.succ_mul] at hacc
      generalize os.length * 2 ^ 22 = room at ih hacc
      rw [foldl_cons, addRecord]
      split
      · rename_i hser
        rw [ih _ (by omega), filter_cons_of_pos hser, flatMap_cons, length_append, length_putRecord]
        omega
      · rename_i hser
        rw [ih _ (by omega), filter_cons_of_neg hser]
  have hcount : s.objs.length < 4294967296 := s.length_lt
  rw [serializedSize, hloop s.objs 12 (by omega), serializedBytes]

theorem gcmLen_eq : s.gcmLen = Int.bmod (serializedBytes s.objs false) (2 ^ 32) :=
  congrArg (fun n : Nat => Int.bmod n (2 ^ 32)) (s.serializedSize_eq false)

end Build.Store

/-- Every size is what it stands for, and the loader accepts what was written. -/
structure SizesExact (b : Build) (s : b.Store) : Prop where
  size : ∀ publicOnly, s.serializedSize publicOnly = serializedBytes s.objs publicOnly
  blobMax : b.objBlobMax = 12 + b.maxObjects * recordMax
  lenField : ∀ publicOnly, s.lenField publicOnly = serializedBytes s.objs publicOnly
  gcmLen : s.gcmLen = serializedBytes s.objs false
  accepted : ∀ publicOnly, s.lenField publicOnly ≠ 0 ∧ s.lenField publicOnly ≤ b.objBlobMax

theorem bmod_of_le {n : Nat} (h : n ≤ 2 ^ 31 - 1) : Int.bmod n (2 ^ 32) = n := by
  have hlt : (n : Int) < (((2 ^ 32 : Nat) : Int) + 1) / 2 := by omega
  exact Int.bmod_eq_of_le (Int.le_trans (by decide) (Int.natCast_nonneg n)) hlt

/-- No size wraps exactly when there can be no more than 2047 objects and the serialized store is no
longer than the largest `int`. -/
theorem sizes_exact_iff (b : Build) (s : b.Store) :
    SizesExact b s ↔ b.maxObjects ≤ 2047 ∧ serializedBytes s.objs false ≤ 2 ^ 31 - 1 := by
  have hsize := fun publicOnly => s.serializedSize_eq publicOnly
  have hbytes : ∀ publicOnly, serializedBytes s.objs publicOnly ≤ 12 + b.maxObjects * recordMax :=
    fun publicOnly => le_trans (serializedBytes_le s.objs publicOnly)
      (Nat.add_le_add_left (Nat.mul_le_mul_right recordMax s.length_le) 12)
  constructor
  · intro hexact
    constructor
    · have hlt := Nat.mod_lt (12 + b.maxObjects % 2 ^ 32 * recordMax) (show 0 < 2 ^ 32 by decide)
      rw [← Build.objBlobMax, hexact.blobMax] at hlt
      have hroom : b.maxObjects * recordMax < 2048 * recordMax :=
        lt_of_lt_of_le (by omega) (show 2 ^ 32 ≤ 2048 * recordMax by decide)
      exact Nat.le_of_lt_succ (Nat.lt_of_mul_lt_mul_right hroom)
    · have hbound : s.gcmLen < (2 ^ 32 + 1) / 2 := Int.bmod_lt (by decide)
      rw [hexact.gcmLen] at hbound
      omega
  · rintro ⟨hmax, hint⟩
    have hroom : b.maxObjects * recordMax ≤ 4294745196 := Nat.mul_le_mul_right recordMax hmax
    have hblob : b.objBlobMax = 12 + b.maxObjects * recordMax := by
      rw [Build.objBlobMax, Nat.mod_eq_of_lt (show b.maxObjects < 2 ^ 32 by omega)]
      exact Nat.mod_eq_of_lt (by omega)
    have hfield : ∀ publicOnly, s.lenField publicOnly = serializedBytes s.objs publicOnly := by
      intro publicOnly
      have := hbytes publicOnly
      rw [Build.Store.lenField, hsize]
      exact Nat.mod_eq_of_lt (by omega)
    refine ⟨hsize, hblob, hfield, ?_, fun publicOnly => ?_⟩
    · exact s.gcmLen_eq.trans (bmod_of_le hint)
    · rw [hfield, hblob]
      exact ⟨Nat.ne_of_gt (Nat.lt_of_lt_of_le (by decide) (Nat.le_add_right 12 _)), hbytes publicOnly⟩

/-- The build as it comes. -/
def Build.default : Build := ⟨1024, 8 * 1024 * 1024, by decide⟩

example : Build.default.objBlobMax = FreeHsm.objBlobMax := rfl

theorem serializedBytes_replicate {o : Obj} (n : Nat) (h : o.serialized false = true) :
    serializedBytes (replicate n o) false = 12 + n * (4 + recV4Fixed + o.value.length) := by
  simp [serializedBytes, h, length_flatMap]

/-- An object with as long a value as there can be. -/
def largestObj : Obj := { Obj.zero with
  value := List.replicate objValueMax 0
  value_le := by rw [List.length_replicate] }

/-- A store full of them. -/
def fullStore : Build.default.Store where
  objs := List.replicate 1024 largestObj
  length_le := by
    rw [List.length_replicate]
    decide
  length_lt := by
    rw [List.length_replicate]
    decide

/-- Its length is negative for OpenSSL; and with room for 2048 objects the bound of the loader wraps and is
less than one object may take. -/
theorem gcmLen_fullStore :
    fullStore.gcmLen = -2146545652 ∧ serializedBytes fullStore.objs false = 2148421644 ∧
    (Build.mk 2048 (2048 * 5120) (by decide)).objBlobMax = 1875980 := by
  have hbytes : serializedBytes fullStore.objs false = 2148421644 := by
    have hlen : largestObj.value.length = objValueMax := length_replicate
    rw [show fullStore.objs = replicate 1024 largestObj from rfl,
      serializedBytes_replicate 1024 rfl, hlen]
    rfl
  have hlen := fullStore.gcmLen_eq
  rewrite [hbytes] at hlen
  exact ⟨hlen.trans (by decide +kernel), hbytes, by decide +kernel⟩

end FreeHsm
