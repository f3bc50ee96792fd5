import FreeHsm.Pkcs11.Footprint
import FreeHsm.Pkcs11.HashContext
import FreeHsm.Pkcs11.Kbkdf
import Mathlib.Algebra.BigOperators.Ring.List
import Mathlib.Algebra.Order.BigOperators.Group.List

/-!
# SP 800-108 derivation follows the standard

The standard describes the output by a recurrence over the calls of the PRF, with an
input that a list of fields lays out. `KdfField` is a field as the standard reads it,
and `kdfScheme` the recurrence for a list of them.
-/

namespace FreeHsm

open ByteLayout TokenM StateExcept IteratedPrf List

/-! ## The recurrence -/

/-- A field of the PRF input. -/
inductive KdfField
  | iteration
  | counter (f : IntFormat)
  /-- The length of the output, in bits. -/
  | length (f : IntFormat) (bits : Nat)
  | bytes (b : Bytes)

/-- What a field stands for. In counter mode the iteration variable is the counter. -/
def PrfDataParam.field (mode : Mode) (z : KdfSizes) (p : PrfDataParam) : KdfField :=
  if p.type = iterationVariable then
    if mode = .counter then .counter p.counterFormat else .iteration
  else if p.type = optionalCounter then .counter p.counterFormat
  else if p.type = dkmLength then .length p.lengthFormat (z.dkm p)
  else .bytes p.value.data

namespace KdfField

/-- The field in call `i`, which takes the block `x`. -/
def encode (i : Nat) (x : Bytes) : KdfField → Bytes
  | iteration => x
  | counter f => f.encode i
  | length f bits => f.encode bits
  | bytes b => b

/-- The field in `A(0)`, the input without iteration variable and counter. -/
def encodeFixed : KdfField → Bytes
  | iteration | counter _ => []
  | length f bits => f.encode bits
  | bytes b => b

end KdfField

/-- The recurrence of the standard for a list of fields. -/
def kdfScheme (prf : Bytes → Bytes) (fields : List KdfField) (iv : Bytes) : Scheme Bytes where
  prf := prf
  input i x := fields.flatMap (·.encode i x)
  noBlock := []
  iv := iv
  start := fields.flatMap (·.encodeFixed)

/-! ## The loop computes it -/

section

variable {P : Provider} (H : HashModel P) {K : KeyEnv P} {mode : Mode} {z : KdfSizes}
  {ps : List PrfDataParam} {iv : Bytes}

theorem flatten_filterMap {α β : Type} (f : α → Option (List β)) (l : List α) :
    (l.filterMap f).flatten = l.flatMap fun a => (f a).getD [] := by
  induction l with
  | nil => rfl
  | cons a l ih =>
    cases h : f a with
    | none => simp [h, ih]
    | some b => simp [h, ih]

theorem kbkdfInput_flatten (i : Nat) (x : Bytes) : (kbkdfInput mode z ps i x false).flatten =
      (ps.map (·.field mode z)).flatMap (·.encode i x) := by
  rw [kbkdfInput, flatten_filterMap, flatMap_map]
  refine flatMap_congr fun p _ => ?_
  simp only [fieldInput, PrfDataParam.field, Bool.false_eq_true, if_false]
  split
  · split
    · rfl
    · split
      · rename_i hx
        exact (length_eq_zero_iff.1 hx).symm
      · rfl
  · split
    · rfl
    · split <;> rfl

theorem kbkdfInput_flatten_iv : (kbkdfInput mode z ps 0 [] true).flatten =
      (ps.map (·.field mode z)).flatMap (·.encodeFixed) := by
  rw [kbkdfInput, flatten_filterMap, flatMap_map]
  refine flatMap_congr fun p _ => ?_
  simp only [fieldInput, PrfDataParam.field, if_true]
  split
  · split <;> rfl
  split
  · rfl
  · split <;> rfl

theorem kbkdfLoop_eq {prf : Bytes → Bytes} {call : List Bytes → Option Bytes}
    (hcall : ∀ pieces, call pieces = some (prf pieces.flatten)) (n i : Nat) (a prev : Bytes)
    (hpipe : mode = .doublePipeline → i ≠ 0 →
      a = (kdfScheme prf (ps.map (·.field mode z)) iv).pipe i)
    (hfed : mode = .feedback → i ≠ 0 →
      prev = (kdfScheme prf (ps.map (·.field mode z)) iv).fed i) :
    kbkdfLoop call mode z ps iv n (i + 1) a prev =
      some ((kdfScheme prf (ps.map (·.field mode z)) iv).blocks mode (i + 1) n).flatten := by
  induction n generalizing i a prev with
  | zero => rfl
  | succ n ih =>
    cases mode with
    | counter =>
      simp only [kbkdfLoop, hcall, Option.bind_eq_bind, Option.bind_some]
      rw [ih (i + 1) a _ nofun nofun, kbkdfInput_flatten]
      rfl
    | feedback =>
      have hiter : (if i + 1 = 1 then iv else prev) =
          (kdfScheme prf (ps.map (·.field .feedback z)) iv).fed i := by
        by_cases hi : i = 0
        · rw [if_pos (by omega), hi]
          rfl
        · rw [if_neg (by omega)]
          exact hfed rfl hi
      simp only [kbkdfLoop, hcall, Option.bind_eq_bind, Option.bind_some, hiter]
      have hblock : prf (kbkdfInput .feedback z ps (i + 1)
          ((kdfScheme prf (ps.map (·.field .feedback z)) iv).fed i) false).flatten =
          (kdfScheme prf (ps.map (·.field .feedback z)) iv).fed (i + 1) := by
        rw [kbkdfInput_flatten]
        rfl
      rw [hblock, ih (i + 1) a _ nofun fun _ _ => rfl]
      rfl
    | doublePipeline =>
      have hpiece : prf (if i + 1 = 1 then kbkdfInput .doublePipeline z ps 0 [] true
          else [a]).flatten = (kdfScheme prf (ps.map (·.field .doublePipeline z)) iv).pipe (i + 1) := by
        by_cases hi : i = 0
        · rw [if_pos (by omega), kbkdfInput_flatten_iv, hi]
          rfl
        · rw [if_neg (by omega), hpipe rfl hi, flatten_singleton]
          rfl
      simp only [kbkdfLoop, hcall, Option.bind_eq_bind, Option.bind_some, hpiece]
      rw [ih (i + 1) _ _ (fun _ _ => rfl) nofun, kbkdfInput_flatten]
      rfl

variable {spec : MacSpec} {key : Bytes}

/-- A PRF call over a library whose MACs are functions of their input. -/
theorem prfCall_eq (hsupports : H.supports spec key = true) (pieces : List Bytes) :
    prfCall K spec key spec.size pieces = some (H.mac spec key pieces.flatten) := by
  obtain ⟨c, hinit, hc⟩ := H.macInit K.seed spec key hsupports
  -- the context holds what was given to it so far
  have hfeed : ∀ (pieces : List Bytes) (c : P.Mac) (fed : Bytes), H.Macs c spec key fed →
      ∃ c', pieces.foldlM (prfUpdate K) c = some c' ∧
        H.Macs c' spec key (fed ++ pieces.flatten) := by
    intro pieces
    induction pieces with
    | nil => exact fun c fed hc => ⟨c, rfl, by simpa using hc⟩
    | cons b pieces ih =>
      intro c fed hc
      obtain ⟨c₁, hupdate, hc₁⟩ := H.macUpdate K.seed c spec key fed b hc
      obtain ⟨c₂, hrest, hc₂⟩ := ih c₁ (fed ++ b) hc₁
      refine ⟨c₂, ?_, by simpa using hc₂⟩
      rw [foldlM_cons, prfUpdate, hupdate]
      exact hrest
  obtain ⟨c', hfold, hc'⟩ := hfeed pieces c [] hc
  have hfinal := H.macFinal K.seed c' spec key _ hc'
  rw [nil_append] at hfinal
  unfold prfCall
  simp only [hinit, Option.bind_eq_bind, Option.bind_some, hfold, hfinal]
  rw [Option.filter_some, if_pos (by simpa using H.length_mac spec key pieces.flatten)]

theorem kbkdfRun_none {h : Nat} (hsupports : H.supports spec key = false) (hpos : 0 < z.segments) :
    kbkdfRun K spec key h mode ps iv z = none := by
  have hcall (pieces : List Bytes) : prfCall K spec key h pieces = none := by
    unfold prfCall
    rw [H.macInit_none K.seed spec key hsupports]
    rfl
  obtain ⟨n, hn⟩ := Nat.exists_eq_succ_of_ne_zero (Nat.pos_iff_ne_zero.1 hpos)
  unfold kbkdfRun
  rw [hn]
  cases mode <;> simp [kbkdfLoop, hcall]

end

/-! ## What the checks establish -/

/-- A field that passed `kbkdf_check_fields`. -/
def PrfDataParam.Ok (mode : Mode) (p : PrfDataParam) : Prop :=
  (p.type = iterationVariable ∧ mode = .counter ∨ p.type = optionalCounter →
    counterFormatOk p = true) ∧
  (p.type = dkmLength → lengthFormatOk p = true)

variable {mode : Mode} {P : Provider} {K : KeyEnv P} {c : Caller} {tok : Token} {hBase : UInt64}
  {arg : TemplateArg} {param : Option KdfParams}

theorem checkField_ok {seen seen' : FieldsSeen} {p : PrfDataParam}
    (h : checkField mode seen p = some seen') : p.Ok mode := by
  unfold checkField at h
  by_cases hiter : p.type = iterationVariable
  · refine ⟨?_, by simp +decide [hiter]⟩
    rintro (⟨-, rfl⟩ | hcounter)
    · rw [if_pos hiter, Option.ite_none_left_eq_some, if_pos rfl, Option.ite_none_right_eq_some] at h
      exact h.2.1
    · simp +decide [hiter] at hcounter
  rw [if_neg hiter] at h
  by_cases hcounter : p.type = optionalCounter
  · rw [if_pos hcounter, Option.ite_none_left_eq_some, Option.ite_none_right_eq_some] at h
    exact ⟨fun _ => h.2.1, by simp +decide [hcounter]⟩
  · refine ⟨by simp [hiter, hcounter], fun hdkm => ?_⟩
    rw [if_neg hcounter, if_pos hdkm, Option.ite_none_right_eq_some] at h
    exact h.1.2

theorem checkFields_ok {arg : ArrayArg PrfDataParam} {ps : List PrfDataParam}
    (h : checkFields mode arg = .ok ps) : ∀ p ∈ ps, p.Ok mode := by
  have hfold : ∀ (ps : List PrfDataParam) (seen seen' : FieldsSeen),
      ps.foldlM (checkField mode) seen = some seen' → ∀ p ∈ ps, p.Ok mode := by
    intro ps
    induction ps with
    | nil => exact fun _ _ _ _ hp => nomatch hp
    | cons p ps ih =>
      intro seen seen' hrun
      rw [foldlM_cons] at hrun
      obtain ⟨seen₁, hfirst, hrest⟩ := Option.bind_eq_some_iff.1 hrun
      intro q hq
      rcases mem_cons.1 hq with rfl | hq
      · exact checkField_ok hfirst
      · exact ih seen₁ seen' hrest q hq
  cases arg with
  | null n => cases h
  | list qs =>
    simp only [checkFields] at h
    split at h
    · cases h
    split at h
    · rename_i seen hrun
      split at h
      · cases h
        exact hfold _ _ _ hrun
      · cases h
    · cases h

theorem checkRanges_ok {ps : List PrfDataParam} {z : KdfSizes} (h : checkRanges ps z = .ok ())
    {p : PrfDataParam} (hp : p ∈ ps) {bits v : Nat} (hrange : z.range p = (bits, v))
    (hpos : bits ≠ 0) (hlt : bits < 64) : v < 2 ^ bits := by
  unfold checkRanges at h
  split at h
  · cases h
  rename_i hany
  rw [any_eq_true] at hany
  by_contra hge
  refine hany ⟨p, hp, ?_⟩
  have hshift : v >>> bits ≠ 0 := by
    rw [Nat.shiftRight_eq_div_pow]
    exact Nat.ne_of_gt (Nat.div_pos (Nat.le_of_not_lt hge) (Nat.two_pow_pos _))
  simp [hrange, hpos, hlt, hshift]

theorem kbkdfPrf_size {prfType : UInt64} {o : Obj} {spec : MacSpec} {h : Nat}
    (hprf : kbkdfPrf K prfType o = .ok (spec, h)) : h = spec.size ∧ 0 < spec.size := by
  unfold kbkdfPrf at hprf
  repeat' split at hprf
  all_goals try cases hprf
  · exact ⟨rfl, Nat.succ_pos _⟩
  · exact ⟨rfl, Nat.succ_pos _⟩
  · rename_i md hmd
    exact ⟨rfl, hmacHashOf_size hmd⟩

theorem kbkdfCheckTemplate_len {t : Template} {len : Nat}
    (h : kbkdfCheckTemplate c tok hBase arg = .ok (t, len)) : 0 < len ∧ len ≤ kbkdfMaxDkm := by
  simp only [kbkdfCheckTemplate, ite_error_eq_ok, bind_eq_ok] at h
  obtain ⟨t', -, -, -, -, -, -, -, -, -, -, -, -, h⟩ := h
  split at h
  · cases h
  rename_i req _
  simp only [ite_error_eq_ok] at h
  obtain ⟨hreq, -, h⟩ := h
  cases h
  have hzero : req.toNat ≠ 0 := fun hz => hreq (.inl (UInt64.toNat_inj.1 hz))
  omega

/-! ## The bytes of each key -/

/-- Where the bytes of key `k` begin: after the blocks of the keys before it. -/
def keyOffset (h : Nat) (lens : List Nat) (k : Nat) : Nat :=
  h * ((lens.take k).map (segmentsFor h)).sum

theorem keyOffset_cons (h len : Nat) (lens : List Nat) (k : Nat) :
    keyOffset h (len :: lens) (k + 1) = segmentsFor h len * h + keyOffset h lens k := by
  simp only [keyOffset, take_succ_cons, map_cons, sum_cons]
  ring

theorem keyOffset_succ {h : Nat} (hpos : 0 < h) {lens : List Nat} {k len : Nat}
    (hk : lens[k]? = some len) : keyOffset h lens k + len ≤ keyOffset h lens (k + 1) := by
  have hlen : len ≤ h * segmentsFor h len := by
    have hmod := Nat.div_add_mod (len + h - 1) h
    have hlt := Nat.mod_lt (len + h - 1) hpos
    unfold segmentsFor
    omega
  rw [keyOffset, keyOffset, take_add_one, hk, Option.toList_some, map_append,
    sum_append, mul_add, map_singleton, sum_singleton]
  omega

theorem cutKeys_eq (h : Nat) (lens : List Nat) (okm : Bytes) :
    cutKeys h lens okm = lens.mapIdx fun k len => (okm.drop (keyOffset h lens k)).take len := by
  induction lens generalizing okm with
  | nil => rfl
  | cons len lens ih =>
    rw [cutKeys, ih, mapIdx_cons]
    simp only [keyOffset_cons, drop_drop]
    rfl

/-! ## Accepted derivations -/

/-- A derivation whose parameter, base key and templates have passed every check. -/
structure KdfAccepted {P : Provider} (K : KeyEnv P) (c : Caller) (tok : Token) (mode : Mode)
    (param : Option KdfParams) (hBase : UInt64) (arg : TemplateArg) where
  p : KdfParams
  extra : List DerivedKey
  ps : List PrfDataParam
  o : Obj
  spec : MacSpec
  keys : List (Template × Nat)
  hparam : kdfParams mode param = .ok p
  hextra : additionalKeys p.additional = .ok extra
  hps : checkFields mode p.dataParams = .ok ps
  hbase : tok.objectGet hBase.toUInt32 = .ok o
  hprf : kbkdfPrf K p.prfType o = .ok (spec, spec.size)
  hkeys : (arg :: extra.map (·.tmpl)).mapM (kbkdfCheckTemplate c tok hBase) = .ok keys
  hdkm : (kdfSizes spec.size (keys.map (·.2))).segments * spec.size ≤ kbkdfMaxDkm
  hranges : checkRanges ps (kdfSizes spec.size (keys.map (·.2))) = .ok ()

namespace KdfAccepted

variable {P : Provider} {K : KeyEnv P} {c : Caller} {tok : Token} {mode : Mode}
  {param : Option KdfParams} {hBase : UInt64} {arg : TemplateArg}
  (A : KdfAccepted K c tok mode param hBase arg)

/-- The lengths asked for. -/
def lens : List Nat := A.keys.map (·.2)

def sizes : KdfSizes := kdfSizes A.spec.size A.lens

def fields : List KdfField := A.ps.map (·.field mode A.sizes)

/-- The recurrence for this derivation. -/
def scheme (H : HashModel P) : Scheme Bytes :=
  kdfScheme (H.mac A.spec A.o.value) A.fields A.p.iv.data

/-- `K(1) || K(2) || ...`, as far as the keys need it. -/
def output (H : HashModel P) : Bytes := ((A.scheme H).blocks mode 1 A.sizes.segments).flatten

theorem length_keys : A.keys.length ≤ 1 + kbkdfMaxKeys := by
  have hlen := (mapM_ok A.hkeys).length_eq
  have hextra := A.hextra
  rw [length_cons, length_map] at hlen
  unfold additionalKeys at hextra
  split at hextra
  · rw [← hlen, ← Except.ok.inj hextra, length_nil]
    omega
  · cases hextra
  · split at hextra
    · cases hextra
    · cases hextra
      omega

theorem len_le {len : Nat} (h : len ∈ A.lens) : 0 < len ∧ len ≤ kbkdfMaxDkm := by
  obtain ⟨⟨t, n⟩, hmem, rfl⟩ := mem_map.1 h
  obtain ⟨a, -, ha⟩ : ∃ a ∈ arg :: A.extra.map (·.tmpl), kbkdfCheckTemplate c tok hBase a = .ok (t, n) := by
    have hall := mapM_ok A.hkeys
    obtain ⟨i, hi, hget⟩ := getElem_of_mem hmem
    have hi' : i < (arg :: A.extra.map (·.tmpl)).length := hall.length_eq ▸ hi
    refine ⟨_, getElem_mem hi', ?_⟩
    rw [← hget]
    exact hall.get hi' hi
  exact kbkdfCheckTemplate_len ha

theorem segments_pos : 0 < A.sizes.segments := by
  cases hkeys : A.keys with
  | nil =>
    have hlen := (mapM_ok A.hkeys).length_eq
    rw [hkeys] at hlen
    cases hlen
  | cons k keys =>
    have hmem : k.2 ∈ A.lens := by simp [lens, hkeys]
    have hlen := A.len_le hmem
    have hsize := (kbkdfPrf_size A.hprf).2
    have hsegs : 0 < segmentsFor A.spec.size k.2 := Nat.div_pos (by omega) hsize
    simp only [sizes, kdfSizes, lens, hkeys, map_cons, sum_cons]
    omega

theorem keysBits_lt : A.sizes.keysBits < 2 ^ 64 := by
  have hsum : (A.lens.map (· * 8)).sum ≤ A.lens.length * (kbkdfMaxDkm * 8) := by
    have hle : ∀ x ∈ A.lens.map (· * 8), x ≤ kbkdfMaxDkm * 8 := by
      intro x hx
      obtain ⟨len, hlen, rfl⟩ := mem_map.1 hx
      exact Nat.mul_le_mul_right 8 (A.len_le hlen).2
    have hsum := sum_le_card_nsmul _ _ hle
    rwa [length_map, nsmul_eq_mul, Nat.cast_id] at hsum
  have hcount : A.lens.length ≤ 1 + kbkdfMaxKeys := by
    rw [lens, length_map]
    exact A.length_keys
  show (A.lens.map (· * 8)).sum < 2 ^ 64
  unfold kbkdfMaxKeys at hcount
  unfold kbkdfMaxDkm at hsum
  omega

theorem segsBits_lt : A.sizes.segsBits < 2 ^ 64 := by
  have hdkm := A.hdkm
  show A.sizes.segments * A.spec.size * 8 < 2 ^ 64
  change A.sizes.segments * A.spec.size ≤ kbkdfMaxDkm at hdkm
  unfold kbkdfMaxDkm at hdkm
  omega

theorem widthOk_bits {bits limit : Nat} (h : widthOk bits limit = true) :
    bits ≠ 0 ∧ bits ≤ limit ∧ 256 ^ (bits / 8) = 2 ^ bits := by
  simp only [widthOk, Bool.and_eq_true, bne_iff_ne, decide_eq_true_eq, beq_iff_eq] at h
  obtain ⟨⟨hpos, hle⟩, hmod⟩ := h
  refine ⟨hpos, hle, ?_⟩
  rw [show (256 : Nat) = 2 ^ 8 from rfl, ← pow_mul]
  congr 1
  omega

theorem counter_inj {f : IntFormat} (hf : .counter f ∈ A.fields) {i j : Nat}
    (hi : i ≤ A.sizes.segments) (hj : j ≤ A.sizes.segments) (h : f.encode i = f.encode j) :
    i = j := by
  obtain ⟨p, hp, hfield⟩ := mem_map.1 hf
  have hok := (checkFields_ok A.hps p hp).1
  -- the field is one whose format was checked, and whose range is that of the calls
  obtain ⟨hfmt, hformat, hrange⟩ : f = p.counterFormat ∧ counterFormatOk p = true ∧
      A.sizes.range p = (p.counterFormat.bits, A.sizes.segments) := by
    unfold PrfDataParam.field at hfield
    split at hfield
    · rename_i htype
      split at hfield
      · rename_i hmode
        cases hfield
        have hformat := hok (.inl ⟨htype, hmode⟩)
        have hnull : p.value.isNull = false := by
          simp only [counterFormatOk, Bool.and_eq_true, Bool.not_eq_true'] at hformat
          exact hformat.1.1
        refine ⟨rfl, hformat, ?_⟩
        rw [KdfSizes.range, if_pos (.inl ⟨htype, by simp [hnull]⟩)]
      · cases hfield
    · split at hfield
      · rename_i htype
        cases hfield
        refine ⟨rfl, hok (.inr htype), ?_⟩
        rw [KdfSizes.range, if_pos (.inr htype)]
      · split at hfield <;> cases hfield
  rw [← hfmt] at hrange
  have hwidth : widthOk f.bits 32 = true := hfmt ▸ (Bool.and_eq_true_iff.1 hformat).2
  obtain ⟨hpos, hle, hpow⟩ := widthOk_bits hwidth
  have hlt : A.sizes.segments < 2 ^ f.bits :=
    checkRanges_ok A.hranges hp hrange hpos (by omega)
  rw [← hpow] at hlt
  exact intBytes_inj (by omega) (by omega) h

theorem length_exact {p : PrfDataParam} (hp : p ∈ A.ps) {f : IntFormat} {bits : Nat}
    (hfield : p.field mode A.sizes = .length f bits) :
    intValue (f.encode bits) f.le = bits ∧
      (p.lengthMethod = sumOfKeys ∧ bits = A.sizes.keysBits ∨
        p.lengthMethod = sumOfSegments ∧ bits = A.sizes.segsBits) := by
  have hok := (checkFields_ok A.hps p hp).2
  obtain ⟨hfmt, hvalue, htype, hrange⟩ : f = p.lengthFormat ∧ bits = A.sizes.dkm p ∧
      p.type = dkmLength ∧ A.sizes.range p = (p.lengthFormat.bits, A.sizes.dkm p) := by
    unfold PrfDataParam.field at hfield
    split at hfield
    · split at hfield <;> cases hfield
    rename_i hiter
    split at hfield
    · cases hfield
    rename_i hcounter
    split at hfield
    · rename_i htype
      cases hfield
      refine ⟨rfl, rfl, htype, ?_⟩
      rw [KdfSizes.range, if_neg (not_or.2 ⟨fun h => hiter h.1, hcounter⟩), if_pos htype]
    · cases hfield
  have hformat := hok htype
  simp only [lengthFormatOk, Bool.and_eq_true, Bool.or_eq_true, beq_iff_eq] at hformat
  obtain ⟨⟨-, hmethod⟩, hwidth⟩ := hformat
  have hcase : p.lengthMethod = sumOfKeys ∧ bits = A.sizes.keysBits ∨
      p.lengthMethod = sumOfSegments ∧ bits = A.sizes.segsBits := by
    rw [hvalue, KdfSizes.dkm]
    split
    · rename_i hkeys
      exact .inl ⟨hkeys, rfl⟩
    · rename_i hkeys
      exact .inr ⟨hmethod.resolve_left hkeys, rfl⟩
  refine ⟨?_, hcase⟩
  rw [← hfmt] at hwidth
  obtain ⟨hpos, hle, hpow⟩ := widthOk_bits hwidth
  have hlt : bits < 2 ^ f.bits := by
    by_cases hfull : f.bits = 64
    · -- the widest format is not checked, but no length is that large
      rw [hfull]
      rcases hcase with ⟨-, rfl⟩ | ⟨-, rfl⟩
      · exact A.keysBits_lt
      · exact A.segsBits_lt
    · rw [← hfmt, ← hvalue] at hrange
      exact checkRanges_ok A.hranges hp hrange hpos (by omega)
  rw [← hpow] at hlt
  exact intValue_intBytes_of_lt hlt f.le

/-- Where the bytes of key `k` begin. -/
def offset (k : Nat) : Nat := keyOffset A.spec.size A.lens k

/-- The bytes of the output that the keys are. -/
def pieces (H : HashModel P) : List Bytes :=
  A.lens.mapIdx fun k len => ((A.output H).drop (A.offset k)).take len

theorem length_output (H : HashModel P) : (A.output H).length = A.spec.size * A.sizes.segments := by
  have hblock : ∀ b ∈ (A.scheme H).blocks mode 1 A.sizes.segments, b.length = A.spec.size :=
    (A.scheme H).forall_blocks (fun _ => H.length_mac _ _ _) mode 0 _
  rw [output, length_flatten, map_congr_left hblock, map_const',
    sum_replicate_nat, Scheme.length_blocks, mul_comm]

end KdfAccepted

/-- A call that gets as far as making keys has passed the checks and run the loop. -/
theorem kbkdfPlan_accepted {keys : List (Template × Bytes)}
    (h : kbkdfPlan K c tok mode param hBase arg = .ok keys) :
    ∃ A : KdfAccepted K c tok mode param hBase arg, ∃ okm,
      kbkdfRun K A.spec A.o.value A.spec.size mode A.ps A.p.iv.data A.sizes = some okm ∧
        keys = (A.keys.map (·.1)).zip (cutKeys A.spec.size A.lens okm) := by
  simp only [kbkdfPlan, ite_error_eq_ok, bind_eq_ok] at h
  obtain ⟨p, hparam, extra, hextra, ps, hps, o, hbase, -, ⟨spec, size⟩, hprf, keys', hkeys, hdkm, ⟨⟩,
    hranges, -, -, h⟩ := h
  obtain ⟨rfl, hpos⟩ := kbkdfPrf_size hprf
  dsimp only at hdkm
  let A : KdfAccepted K c tok mode param hBase arg :=
    ⟨p, extra, ps, o, spec, keys', hparam, hextra, hps, hbase, hprf, hkeys, by omega, hranges⟩
  split at h
  · cases h
  · rename_i okm hrun
    exact ⟨A, okm, hrun, (Except.ok.inj h).symm⟩

theorem kbkdfPlan_ok (H : HashModel P) {keys : List (Template × Bytes)}
    (h : kbkdfPlan K c tok mode param hBase arg = .ok keys) :
    ∃ A : KdfAccepted K c tok mode param hBase arg,
      keys = (A.keys.map (·.1)).zip (A.pieces H) := by
  obtain ⟨A, okm, hrun, rfl⟩ := kbkdfPlan_accepted h
  refine ⟨A, ?_⟩
  cases hsupports : H.supports A.spec A.o.value with
  | false =>
    rw [kbkdfRun_none H hsupports A.segments_pos] at hrun
    cases hrun
  | true =>
    rw [kbkdfRun, kbkdfLoop_eq (prfCall_eq H hsupports) A.sizes.segments 0 [] []
      (fun _ h => absurd rfl h) fun _ h => absurd rfl h] at hrun
    rw [← Option.some.inj hrun, cutKeys_eq]
    rfl

/-! ## Making the keys -/

section

variable (C : Crypto) (c : Caller) (d : DeriveFrom)

/-- The objects that the loop of `kbkdf_derive` puts into memory. -/
def kbkdfAdditions : (env : Envs) → List (Template × Bytes) → Live → List Addition
  | _, [], _ => []
  | env, (t, secret) :: keys, s =>
    (deriveAddition C env t secret d s).toList ++
      match exec (deriveStoreSecret C env c t secret d) s with
      | (.ok _, s') => kbkdfAdditions (env.after createCalls) keys s'
      | (.error _, _) => []

variable {C c d}

variable (env : Envs) (keys : List (Template × Bytes)) (made : List UInt32) (s : Live)

theorem length_kbkdfAdditions : (kbkdfAdditions C c d env keys s).length ≤ keys.length := by
  induction keys generalizing env s with
  | nil => exact le_refl 0
  | cons k keys ih =>
    obtain ⟨t, secret⟩ := k
    have hone : (deriveAddition C env t secret d s).toList.length ≤ 1 := by
      cases deriveAddition C env t secret d s <;> simp
    rw [kbkdfAdditions, length_append, length_cons]
    split
    · exact (add_le_add hone (ih _ _)).trans_eq (add_comm _ _)
    · simp only [length_nil]
      omega

/-- The handles of the new objects are those after the last one given out. -/
theorem kbkdfAdditions_handles : (kbkdfAdditions C c d env keys s).map (·.handle) =
      iterate followHandle s.tok.newHandle (kbkdfAdditions C c d env keys s).length := by
  induction keys generalizing env s with
  | nil => rfl
  | cons k keys ih =>
    obtain ⟨t, secret⟩ := k
    have hout := deriveStoreSecret_outcome C env c t secret d s
    rw [kbkdfAdditions]
    rcases hrun : exec (deriveStoreSecret C env c t secret d) s with ⟨rv, s'⟩
    rw [hrun] at hout
    dsimp only at hout
    generalize deriveAddition C env t secret d s = a at hout
    cases hout with
    | created handle hhandle hkeys hnext hopen =>
      have hfollow : s'.tok.newHandle = followHandle handle := by
        unfold Token.newHandle followHandle
        rw [hnext]
      simp only [Option.toList_some, singleton_append, map_cons, length_cons, ih,
        hfollow, iterate, hhandle]
    | refused e hs => rfl
    | stuck e handle hhandle => simp [hhandle]
    | dropped e handle hhandle => simp [hhandle]

theorem kbkdfAdditions_unused (hnodup : ((kbkdfAdditions C c d env keys s).map (·.handle)).Nodup) :
    ∀ a ∈ kbkdfAdditions C c d env keys s, a.unused = !s.handles.contains a.handle := by
  induction keys generalizing env s with
  | nil => exact fun a ha => absurd ha not_mem_nil
  | cons k keys ih =>
    obtain ⟨t, secret⟩ := k
    have hout := deriveStoreSecret_outcome C env c t secret d s
    rw [kbkdfAdditions] at hnodup ⊢
    rcases hrun : exec (deriveStoreSecret C env c t secret d) s with ⟨rv, s'⟩
    rw [hrun] at hout hnodup
    dsimp only at hout hnodup ⊢
    generalize deriveAddition C env t secret d s = a at hout hnodup
    cases hout with
    | created handle hhandle hkeys hnext hopen =>
      obtain ⟨hnew, hrest⟩ := nodup_cons.1 hnodup
      intro a ha
      rcases mem_cons.1 ha with rfl | ha
      · rfl
      · have hne : a.handle ≠ handle := by
          rintro rfl
          exact hnew (mem_map.2 ⟨a, ha, rfl⟩)
        rw [ih _ _ hrest a ha, Live.handles_append hkeys]
        simp [hne]
    | refused e hs => exact fun a ha => absurd ha not_mem_nil
    | stuck e handle hhandle =>
      intro a ha
      rw [mem_singleton.1 ha]
    | dropped e handle hhandle =>
      intro a ha
      rw [mem_singleton.1 ha]

theorem exec_destroyAll_fst : (exec (destroyAll C env made) s).1 = .ok () := by
  induction made generalizing env s with
  | nil => rfl
  | cons handle made ih =>
    rw [destroyAll, exec_bind, exec_ignored]
    exact ih _ _

theorem destroyAll_handles (hopen : made ≠ [] → s.tok.storeOpen = true) :
    (exec (destroyAll C env made) s).2.handles.Perm (s.handles.diff made) := by
  induction made generalizing env s with
  | nil => exact .refl _
  | cons handle made ih =>
    rw [destroyAll, exec_bind, exec_ignored, exec_object]
    rcases hobj : s.tok.object C (env 0) (.destroy handle) s.disk with ⟨rv, t', d'⟩
    obtain ⟨hperm, -, hopen'⟩ :=
      Token.objectDestroy_perm (hopen (cons_ne_nil _ _)) (hobj : s.tok.objectDestroy .. = _)
    refine (ih (env.after 1) ⟨t', d'⟩ fun _ => hopen').trans ?_
    rw [diff_cons]
    exact List.Perm.diff_right _ hperm

theorem exec_kbkdfStore_cons (t : Template) (secret : Bytes) (keys : List (Template × Bytes))
    (made : List UInt32) (s : Live) : exec (kbkdfStore C c d env ((t, secret) :: keys) made) s =
      match exec (deriveStoreSecret C env c t secret d) s with
      | (.ok handle, s₁) =>
        exec (kbkdfStore C c d (env.after createCalls) keys (made ++ [handle])) s₁
      | (.error e, s₁) =>
        (.error e, (exec (destroyAll C (env.after createCalls) made) s₁).2) := by
  rw [kbkdfStore, exec_bind, exec_tryCatch]
  rcases exec (deriveStoreSecret C env c t secret d) s with ⟨e | handle, s₁⟩
  · have hok := exec_destroyAll_fst (C := C) (env.after createCalls) made s₁
    simp only [exec_bind]
    rcases hrun : exec (destroyAll C (env.after createCalls) made) s₁ with ⟨rv, s₂⟩
    rw [hrun] at hok
    cases hok
    rfl
  · rfl

theorem kbkdfStore_ok (handles : List UInt32) (s s' : Live)
    (h : exec (kbkdfStore C c d env keys made) s = (.ok handles, s')) :
    ∃ new, handles = made ++ new ∧ new.length = keys.length ∧
      s'.keys = s.keys ++ new.zip (keys.map (·.2)) := by
  induction keys generalizing env made s with
  | nil =>
    cases h
    exact ⟨[], by simp⟩
  | cons k keys ih =>
    obtain ⟨t, secret⟩ := k
    have hout := deriveStoreSecret_outcome C env c t secret d s
    rw [exec_kbkdfStore_cons] at h
    rcases hrun : exec (deriveStoreSecret C env c t secret d) s with ⟨rv, s₁⟩
    rw [hrun] at hout h
    dsimp only at hout
    generalize deriveAddition C env t secret d s = a at hout
    cases hout with
    | created handle hhandle hkeys hnext hopen =>
      obtain ⟨new, rfl, hlen, hs'⟩ := ih _ _ _ h
      refine ⟨handle :: new, by simp, by simp [hlen], ?_⟩
      rw [hs', hkeys, append_assoc]
      rfl
    | refused e | stuck e | dropped e => cases h

/-- What a call that fails leaves: all objects, without those it destroyed. -/
theorem kbkdfStore_error (s' : Live) (e : Err) (hopen : made ≠ [] → s.tok.storeOpen = true)
    (h : exec (kbkdfStore C c d env keys made) s = (.error e, s')) :
    s'.handles.Perm ((s.handles ++ (kbkdfAdditions C c d env keys s).map (·.handle)).diff
      (made ++ ((kbkdfAdditions C c d env keys s).filter (·.written)).map (·.handle))) := by
  induction keys generalizing env made s with
  | nil => cases h
  | cons k keys ih =>
    obtain ⟨t, secret⟩ := k
    have hout := deriveStoreSecret_outcome C env c t secret d s
    rw [exec_kbkdfStore_cons] at h
    rw [kbkdfAdditions]
    rcases hrun : exec (deriveStoreSecret C env c t secret d) s with ⟨rv, s₁⟩
    rw [hrun] at hout h
    dsimp only at hout ⊢
    generalize deriveAddition C env t secret d s = a at hout
    cases hout with
    | created handle hhandle hkeys hnext hopen' =>
      have hrest := ih _ _ _ (fun _ => hopen') h
      rw [Live.handles_append hkeys] at hrest
      simpa using hrest
    | refused e' hs =>
      cases h
      subst hs
      simpa using destroyAll_handles (env.after createCalls) made s₁ hopen
    | stuck e' handle hhandle hhandles hnext hopen' =>
      -- the new object is in memory and nothing destroys it
      cases h
      have hrest := destroyAll_handles (C := C) (env.after createCalls) made s₁ fun _ => hopen'
      rw [hhandles] at hrest
      simpa using hrest
    | dropped e' handle hhandle hhandles hnext hopen' =>
      cases h
      refine (destroyAll_handles (env.after createCalls) made s₁ fun _ => hopen').trans ?_
      refine (List.Perm.diff_right made hhandles).trans ?_
      rw [← diff_cons]
      have hswap : ([handle] ++ made).Perm (made ++ [handle]) := perm_append_comm
      exact .of_eq (List.Perm.diff_left _ hswap)

/-- A call leaves none of its handles exactly when each was unused and each new object was
written. -/
theorem no_handle_left {old left : List UInt32} {adds : List Addition}
    (hnodup : (adds.map (·.handle)).Nodup)
    (hunused : ∀ a ∈ adds, a.unused = !old.contains a.handle)
    (hleft : left.Perm ((old ++ adds.map (·.handle)).diff
      ((adds.filter (·.written)).map (·.handle)))) :
    (∀ a ∈ adds, a.handle ∉ left) ↔ ∀ a ∈ adds, a.unused = true ∧ a.written = true := by
  refine forall₂_congr fun a ha => ?_
  have hadds : (adds.map (·.handle)).count a.handle = 1 :=
    count_eq_one_of_mem hnodup (mem_map_of_mem ha)
  have hcount : left.count a.handle =
      old.count a.handle + 1 - ((adds.filter (·.written)).map (·.handle)).count a.handle := by
    rw [hleft.count_eq, count_diff, count_append, hadds]
  have hdestroyed : ((adds.filter (·.written)).map (·.handle)).count a.handle =
      if a.written then 1 else 0 := by
    have hsub : ((adds.filter (·.written)).map (·.handle)).Sublist (adds.map (·.handle)) :=
      filter_sublist.map _
    split
    · rename_i hwritten
      exact count_eq_one_of_mem (hsub.nodup hnodup)
        (mem_map_of_mem (mem_filter.2 ⟨ha, hwritten⟩))
    · rename_i hwritten
      refine count_eq_zero.2 fun hmem => ?_
      obtain ⟨b, hb, hhandle⟩ := mem_map.1 hmem
      obtain ⟨hb, hb'⟩ := mem_filter.1 hb
      exact hwritten (inj_on_of_nodup_map hnodup hb ha hhandle ▸ hb')
  rw [← count_eq_zero, hcount, hdestroyed, hunused a ha, Bool.not_eq_true',
    contains_eq_mem, decide_eq_false_iff_not, ← count_eq_zero]
  split <;> simp_all

end

/-! ## The whole call -/

/-- What is exact about an accepted derivation: counters and lengths are written without loss, and
the bytes of the keys follow one another in the output. -/
structure KdfAccepted.Exact {P : Provider} {K : KeyEnv P} {c : Caller} {tok : Token} {mode : Mode}
    {param : Option KdfParams} {hBase : UInt64} {arg : TemplateArg}
    (A : KdfAccepted K c tok mode param hBase arg) (H : HashModel P) : Prop where
  counters : ∀ f, .counter f ∈ A.fields → ∀ i j, i ≤ A.sizes.segments → j ≤ A.sizes.segments →
    f.encode i = f.encode j → i = j
  lengths : ∀ p ∈ A.ps, ∀ f bits, p.field mode A.sizes = .length f bits →
    intValue (f.encode bits) f.le = bits ∧
      (p.lengthMethod = sumOfKeys ∧ bits = 8 * A.lens.sum ∨
        p.lengthMethod = sumOfSegments ∧ bits = 8 * (A.output H).length)
  apart : ∀ k len, A.lens[k]? = some len → A.offset k + len ≤ A.offset (k + 1)
  whole : A.offset A.lens.length = (A.output H).length

theorem KdfAccepted.exact (A : KdfAccepted K c tok mode param hBase arg) (H : HashModel P) :
    A.Exact H where
  counters f hf i j hi hj := A.counter_inj hf hi hj
  lengths p hp f bits hf := by
    obtain ⟨hexact, hbits⟩ := A.length_exact hp hf
    refine ⟨hexact, hbits.imp (And.imp_right fun h => h.trans ?_) (And.imp_right fun h => h.trans ?_)⟩
    · show (A.lens.map (· * 8)).sum = _
      rw [sum_map_mul_right, map_id', mul_comm]
    · rw [A.length_output H]
      show A.sizes.segments * A.spec.size * 8 = _
      ring
  apart k len hk := keyOffset_succ (kbkdfPrf_size A.hprf).2 hk
  whole := by
    rw [A.length_output H]
    show keyOffset A.spec.size A.lens A.lens.length = _
    rw [keyOffset, take_length]
    rfl

section

variable {P : Provider} (C : Crypto) (K : KeyEnv P) (env : Envs) (c : Caller) (mode : Mode)
  (param : Option KdfParams) (hBase : UInt64) (arg : TemplateArg)

/-- The objects that a call of `kbkdf_derive` puts into memory. -/
def kbkdfDeriveAdditions (s : Live) : List Addition :=
  match kbkdfPlan K c s.tok mode param hBase arg with
  | .ok keys => kbkdfAdditions C c { dflt := ckoSecretKey, base := hBase } env keys s
  | .error _ => []

/-- Every accepted derivation is exact, and a call that succeeds has put the pieces of the output
into the store. A call that fails leaves none of its keys exactly when no object had their handles
and the token file was written each time. -/
theorem kbkdfDerive_standard (H : HashModel P) (s : Live) :
    (∀ A : KdfAccepted K c s.tok mode param hBase arg, A.Exact H) ∧
    match exec (kbkdfDerive C K env c mode param hBase arg) s with
    | (.ok handles, s') => ∃ A : KdfAccepted K c s.tok mode param hBase arg,
        handles.length = A.lens.length ∧ s'.keys = s.keys ++ handles.zip (A.pieces H)
    | (.error _, s') =>
      (∀ a ∈ kbkdfDeriveAdditions C K env c mode param hBase arg s, a.handle ∉ s'.handles) ↔
        ∀ a ∈ kbkdfDeriveAdditions C K env c mode param hBase arg s,
          a.unused = true ∧ a.written = true := by
  refine ⟨fun A => A.exact H, ?_⟩
  unfold kbkdfDerive kbkdfDeriveAdditions
  rw [exec_bind_of_ok (exec_get s), exec_bind, exec_check]
  cases hplan : kbkdfPlan K c s.tok mode param hBase arg with
  | error e => simp
  | ok keys =>
    obtain ⟨A, rfl⟩ := kbkdfPlan_ok H hplan
    have hpieces : (A.pieces H).length = A.keys.length := by simp [KdfAccepted.pieces, KdfAccepted.lens]
    have hlen : ((A.keys.map (·.1)).zip (A.pieces H)).length = A.keys.length := by
      simp [hpieces]
    dsimp only
    rcases hrun : exec (kbkdfStore C c { dflt := ckoSecretKey, base := hBase } env
      ((A.keys.map (·.1)).zip (A.pieces H)) []) s with ⟨e | handles, s'⟩
    · have hadds := length_kbkdfAdditions (C := C) (c := c)
        (d := { dflt := ckoSecretKey, base := hBase }) env
        ((A.keys.map (·.1)).zip (A.pieces H)) s
      have hnodup : ((kbkdfAdditions C c { dflt := ckoSecretKey, base := hBase } env
          ((A.keys.map (·.1)).zip (A.pieces H)) s).map (·.handle)).Nodup := by
        rw [kbkdfAdditions_handles]
        have hkeys := A.length_keys
        unfold kbkdfMaxKeys at hkeys
        refine nodup_iterate_followHandle ?_ (by omega)
        unfold Token.newHandle
        split
        · decide
        · assumption
      rw [hrun]
      exact no_handle_left hnodup (kbkdfAdditions_unused env _ s hnodup)
        (kbkdfStore_error env _ [] s s' e (fun h => absurd rfl h) hrun)
    · obtain ⟨new, rfl, hnew, hs'⟩ := kbkdfStore_ok env _ [] handles s s' hrun
      rw [hrun]
      refine ⟨A, ?_, ?_⟩
      · simp [hnew, hpieces, KdfAccepted.lens]
      · have hsnd : ((A.keys.map (·.1)).zip (A.pieces H)).map (·.2) = A.pieces H :=
          map_snd_zip (by simp [hpieces])
        rw [hs', hsnd]

end

/-- Counter mode with HMAC-SHA-256: a big-endian counter of 16 bits and a label, and a second key
of 40 bytes. -/
def twoKeysParam : KdfParams where
  prfType := 0x251
  dataParams := .list [⟨iterationVariable, .bytes (intBytes 0 8 true ++ intBytes 16 8 true)⟩,
    ⟨byteArray, .bytes [0x6C]⟩]
  additional := .list [⟨.list [⟨ckaValueLen, .bytes (intBytes 40 8 true), []⟩], true⟩]

/-- A first key of 16 bytes. -/
def firstKeyTemplate : TemplateArg := .list [⟨ckaValueLen, .bytes (intBytes 16 8 true), []⟩]

/-- A module in service. -/
def KeyEnv.calm : KeyEnv .hashing := ⟨false, true, true, ()⟩

/-- The keys of `twoKeysParam` are made from the AES key of a token. -/
theorem kbkdfDerive_standard_twoKeys :
    ∃ s, tokenWithKey 0 = some s ∧
      ∃ A : KdfAccepted .calm soCaller s.tok .counter (some twoKeysParam) 1 firstKeyTemplate,
        A.Exact .hashing ∧ (exec (kbkdfDerive .plain .calm (fun _ => .quiet) soCaller .counter
          (some twoKeysParam) 1 firstKeyTemplate) s).2.keys =
            s.keys ++ zip [2, 3] (A.pieces .hashing) := by
  have hfacts : (tokenWithKey 0).any (fun s =>
      (exec (kbkdfDerive .plain .calm (fun _ => .quiet) soCaller .counter (some twoKeysParam) 1
        firstKeyTemplate) s).1 = .ok [2, 3]) := by
    decide +kernel
  obtain ⟨s, hs, hok⟩ := (Option.any_eq_true _ _).1 hfacts
  replace hok := of_decide_eq_true hok
  refine ⟨s, hs, ?_⟩
  obtain ⟨hexact, hcall⟩ := kbkdfDerive_standard .plain .calm (fun _ => .quiet) soCaller .counter
    (some twoKeysParam) 1 firstKeyTemplate .hashing s
  rcases hrun : exec (kbkdfDerive .plain .calm (fun _ => .quiet) soCaller .counter
    (some twoKeysParam) 1 firstKeyTemplate) s with ⟨rv, s'⟩
  rw [hrun] at hcall hok
  obtain rfl : rv = .ok [2, 3] := hok
  obtain ⟨A, -, hkeys⟩ := hcall
  exact ⟨A, hexact A, hkeys⟩

/-- The token file cannot be written when the second object is added: the call fails and destroys
the first, and the second is there. -/
theorem failed_write_leaves_key : (tokenWithKey 0).map (fun s =>
      let (rv, s') := exec (kbkdfDerive .plain .calm
        (fun n => { Env.quiet with writeOk := n != createCalls }) soCaller .counter
        (some twoKeysParam) 1 firstKeyTemplate) s
      (rv, s.handles, s'.handles)) = some (.error .functionFailed, [1], [1, 3]) := by
  decide +kernel

end FreeHsm
