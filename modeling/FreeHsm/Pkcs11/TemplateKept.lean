import FreeHsm.Pkcs11.Attributes
import FreeHsm.Pkcs11.Created
import Mathlib.Data.Bool.AllAny

/-!
# The restrictions a template asks for

A template states an attribute by its first occurrence, as `find_attr` reads it.
`Obj.KeepsTemplate` says that every attribute that restricts a key reads back as the
template states it, or stricter.

The creation functions do not treat all of these attributes alike. `Handling` lists
the attributes in which they differ.
-/

namespace FreeHsm

open ByteLayout TokenM StateExcept List Obj Template

/-! ## What is asked for -/

/-- The attributes that restrict an object of a class when they are true. -/
def trueRestricts (cls : UInt32) : List UInt64 :=
  [ckaSensitive, ckaWrapWithTrusted] ++ if cls = ckoPrivateKey then [ckaAlwaysAuth] else []

/-- The attributes that restrict an object when they are false. -/
def falseRestricts : List UInt64 :=
  [ckaExtractable, ckaEncapsulate, ckaDecapsulate, ckaTrusted, ckaModifiable, ckaDestroyable,
    ckaCopyable] ++ usageMap.map (·.1)

/-- The mechanisms of `CKA_ALLOWED_MECHANISMS`, as the caller wrote them. -/
def Attr.statedMechanisms (a : Attr) : List UInt64 :=
  (List.range (a.value.len / ckUlongSize)).map fun k => u64At a.value.data (ckUlongSize * k)

/-- What a template states reads back on an object, or something stricter: fewer mechanisms, more
entries of a nested template. -/
structure Obj.KeepsTemplate (V : KeyView) (t : Template) (o : Obj) : Prop where
  whenTrue : ∀ type ∈ trueRestricts o.cls, ∀ b, t.bbool? type = some b →
    ∃ b', o.report V type = .bbool b' ∧ (b = true → b' = true)
  whenFalse : ∀ type ∈ falseRestricts, ∀ b, t.bbool? type = some b →
    ∃ b', o.report V type = .bbool b' ∧ (b' = true → b = true)
  mechanisms : ∀ a, t.findAttr ckaAllowedMechanisms = some a →
    ∃ ms : List UInt64, o.report V ckaAllowedMechanisms = .bytes (ms.flatMap le64) ∧
      ∀ m ∈ ms, m ∈ a.statedMechanisms
  nested : ∀ which a, t.findAttr (TmplWhich.attr which) = some a →
    ∃ es, o.report V which.attr = .entries es ∧
      ∀ e ∈ a.entries, ∃ e' ∈ es, e'.type.toUInt64 = e.type ∧ e'.bytes = e.value.data

/-! ## How creations differ -/

/-- What a creation does with the attributes that not every creation treats alike. -/
structure Handling where
  /-- `CKA_SENSITIVE` = TRUE is kept. -/
  sensitive : Bool := true
  /-- `CKA_EXTRACTABLE` = FALSE is kept. -/
  extractable : Bool := true
  /-- `CKA_ALWAYS_AUTHENTICATE` = TRUE is kept, on a private key. -/
  alwaysAuth : Bool := true
  /-- Whether `CKA_ENCAPSULATE` = FALSE is kept, if the attribute can be read at all. -/
  encap : Option Bool := none
  /-- Whether `CKA_DECAPSULATE` = FALSE is kept, if the attribute can be read at all. -/
  decap : Option Bool := none
  deriving DecidableEq

/-- A KEM attribute that may be stated. -/
def kemKept (t : Template) (type : UInt64) (kept : Option Bool) : Prop :=
  ∀ b, t.bbool? type = some b → ∃ k, kept = some k ∧ (b = false → k = true)

/-- A template asks for nothing that is lost. -/
structure Handling.Keeps (h : Handling) (t : Template) : Prop where
  sensitive : t.bbool? ckaSensitive = some true → h.sensitive = true
  extractable : t.bbool? ckaExtractable = some false → h.extractable = true
  alwaysAuth : t.bbool? ckaAlwaysAuth = some true → h.alwaysAuth = true
  encap : kemKept t ckaEncapsulate h.encap
  decap : kemKept t ckaDecapsulate h.decap

/-- The mechanisms and nested entries of a template are the same in 32 bits: a mechanism that is cut
off is one the template also states. -/
structure PolicyFits (t : Template) : Prop where
  mechanisms : ∀ a, t.findAttr ckaAllowedMechanisms = some a →
    ∀ m ∈ a.statedMechanisms, m.toUInt32.toUInt64 ∈ a.statedMechanisms
  nested : ∀ which a, t.findAttr (TmplWhich.attr which) = some a →
    ∀ e ∈ a.entries, e.type.toUInt32.toUInt64 = e.type

/-- The usage bits deny what the template denies. -/
structure Making.UsageKept (m : Making) : Prop where
  valid : hasBit m.tail.usage usageValid = true
  denied : ∀ p ∈ usageMap, m.tmpl.bbool? p.1 = some false → hasBit m.tail.usage p.2 = false

/-- What becomes of a KEM attribute, if the object has it. -/
structure Making.KemAs (m : Making) (attr : UInt64) (cls : UInt32) (bit : UInt8)
    (kept : Option Bool) : Prop where
  isSome : kept.isSome = (m.args.keyType == ckkMlKem && m.args.cls == cls)
  eq : ∀ k, kept = some k → m.tmpl.bbool? attr = some false →
    hasBit (m.tail.encapBits m.tmpl) bit = k

/-- What an object is made from has a handling. -/
structure Making.HandledAs (m : Making) (h : Handling) : Prop where
  sensitive : m.tmpl.bbool? ckaSensitive = some true →
    hasBit m.args.flags objfSensitive = h.sensitive
  extractable : m.tmpl.bbool? ckaExtractable = some false →
    hasBit m.args.flags objfExtractable = !h.extractable
  trusted : m.tmpl.bbool? ckaTrusted = some false → hasBit m.args.flags objfTrusted = false
  alwaysAuth : m.args.cls = ckoPrivateKey → m.tmpl.bbool? ckaAlwaysAuth = some true →
    hasBit m.args.flags objfAlwaysAuth = h.alwaysAuth
  alwaysAuth_else : m.args.cls ≠ ckoPrivateKey → h.alwaysAuth = true
  usage : m.UsageKept
  encap : m.KemAs ckaEncapsulate ckoPublicKey objf2NoEncapsulate h.encap
  decap : m.KemAs ckaDecapsulate ckoPrivateKey objf2NoDecapsulate h.decap

/-! ## Numbers in memory -/

theorem le32_inj {v w : UInt32} (h : le32 v = le32 w) : v = w := by
  have hv := u32At_le32_append v []
  rw [h, u32At_le32_append] at hv
  exact hv.symm

theorem le64_inj {v w : UInt64} (h : le64 v = le64 w) : v = w := by
  obtain ⟨hlow, hhigh⟩ := append_inj h rfl
  have hlow := congrArg UInt32.toNat (le32_inj hlow)
  have hhigh := congrArg UInt32.toNat (le32_inj hhigh)
  simp only [UInt64.toNat_toUInt32, UInt64.toNat_shiftRight, UInt64.reduceToNat, Nat.reduceMod,
    Nat.shiftRight_eq_div_pow] at hlow hhigh
  have hv := v.toNat_lt
  have hw := w.toNat_lt
  exact UInt64.toNat_inj.1 (by omega)

theorem flatMap_le64_inj {ms ms' : List UInt64} (h : ms.flatMap le64 = ms'.flatMap le64) :
    ms = ms' := by
  induction ms generalizing ms' with
  | nil =>
    cases ms' with
    | nil => rfl
    | cons m ms' => simp [le64, le32] at h
  | cons m ms ih =>
    cases ms' with
    | nil => simp [le64, le32] at h
    | cons m' ms' =>
      have hcons : le64 m ++ ms.flatMap le64 = le64 m' ++ ms'.flatMap le64 := h
      obtain ⟨hm, hms⟩ := append_inj hcons rfl
      rw [le64_inj hm, ih hms]

theorem take_toList_vecAt {b : Bytes} {n : Nat} (h : b.length ≤ n) :
    (vecAt b 0 n).toList.take b.length = b := by
  apply ext_getElem
  · simp [h]
  · intro i h₁ h₂
    simp [vecAt, byteAt, getD_eq_getElem?_getD, getElem?_eq_getElem h₂]

/-! ## Bits of the template -/

section

variable {t : Template}

theorem hasBit_zero (k : UInt8) : hasBit 0 k = false := by simp [hasBit]

theorem hasBit_if (c : Prop) [Decidable c] (bit k : UInt8) :
    hasBit (if c then bit else 0) k = (decide c && hasBit bit k) := by
  split <;> simp_all [hasBit_zero]

theorem hasBit_deniedBit (attr : UInt64) (bit k : UInt8) :
    hasBit (deniedBit t attr bit) k = (!t.bbool attr true && hasBit bit k) := by
  unfold deniedBit
  cases t.bbool attr true <;> simp [hasBit_zero]

theorem hasBit_flagIf (attr : UInt64) (bit k : UInt8) :
    hasBit (flagIf t attr bit) k = (t.bbool attr false && hasBit bit k) := by
  unfold flagIf
  rw [hasBit_if, Bool.decide_eq_true]

theorem hasBit_scopeBits (k : UInt8) :
    hasBit (scopeBits t) k = (!t.bbool ckaModifiable true && hasBit objfUnmodifiable k ||
      !t.bbool ckaDestroyable true && hasBit objfUndestroyable k) := by
  rw [scopeBits, hasBit_or, hasBit_deniedBit, hasBit_deniedBit]

theorem hasBit_scopeBits2 (k : UInt8) :
    hasBit (scopeBits2 t) k = (!t.bbool ckaCopyable true && hasBit objf2NotCopyable k ||
      t.bbool ckaWrapWithTrusted false && hasBit objf2WrapWithTrusted k) := by
  rw [scopeBits2, hasBit_or, hasBit_deniedBit, hasBit_if, Bool.decide_eq_true]

theorem hasBit_policyBits (k : UInt8) :
    hasBit (policyBits t) k =
      ((t.findAttr ckaAllowedMechanisms).isSome && hasBit objf2HasAllowedMech k ||
        (t.findAttr ckaUnwrapTemplate).isSome && hasBit objf2HasUnwrapTmpl k ||
        (t.findAttr ckaDeriveTemplate).isSome && hasBit objf2HasDeriveTmpl k ||
        (t.findAttr ckaWrapTemplate).isSome && hasBit objf2HasWrapTmpl k) := by
  simp only [policyBits, hasBit_or, presentBit, hasBit_if, Bool.decide_eq_true]

theorem hasBit_policyBits_nested (which : TmplWhich) :
    hasBit (policyBits t) which.presentBit = (t.findAttr which.attr).isSome := by
  rw [hasBit_policyBits]
  cases which <;>
    (dsimp only [TmplWhich.attr]
     cases (t.findAttr ckaAllowedMechanisms).isSome <;>
       cases (t.findAttr ckaUnwrapTemplate).isSome <;>
       cases (t.findAttr ckaDeriveTemplate).isSome <;>
       cases (t.findAttr ckaWrapTemplate).isSome <;> rfl)

theorem hasBit_policyBits_allowed :
    hasBit (policyBits t) objf2HasAllowedMech = (t.findAttr ckaAllowedMechanisms).isSome := by
  rw [hasBit_policyBits]
  cases (t.findAttr ckaAllowedMechanisms).isSome <;>
    cases (t.findAttr ckaUnwrapTemplate).isSome <;>
    cases (t.findAttr ckaDeriveTemplate).isSome <;>
    cases (t.findAttr ckaWrapTemplate).isSome <;> rfl

theorem hasBit_encapBit (cls : UInt32) (k : UInt8) :
    hasBit (encapBit t cls) k =
      (decide (t.bbool? (if cls = ckoPublicKey then ckaEncapsulate else ckaDecapsulate) = some false)
        && hasBit (if cls = ckoPublicKey then objf2NoEncapsulate else objf2NoDecapsulate) k) := by
  rw [encapBit, hasBit_if]

theorem Template.bbool_of {type : UInt64} {b dflt : Bool} (h : t.bbool? type = some b) :
    t.bbool type dflt = b := by
  rw [bbool, h]
  rfl

end

/-! ## Usage -/

theorem hasBit_foldl {α : Type} {f : UInt8 → α → UInt8} {l : List α} {k : UInt8}
    (hf : ∀ u, ∀ a ∈ l, hasBit (f u a) k = hasBit u k) (u : UInt8) :
    hasBit (l.foldl f u) k = hasBit u k := by
  induction l generalizing u with
  | nil => rfl
  | cons a l ih =>
    rw [foldl_cons, ih fun u b hb => hf u b (mem_cons_of_mem _ hb)]
    exact hf u a mem_cons_self

theorem hasBit_usageStep {t : Template} {u k : UInt8} {p : UInt64 × UInt8}
    (hclear : ~~~p.2 &&& k = k) (hset : hasBit p.2 k = false) :
    hasBit (match t.bbool? p.1 with
      | some true => u ||| p.2
      | some false => u &&& ~~~p.2
      | none => u) k = hasBit u k := by
  split
  · rw [hasBit_or, hset, Bool.or_false]
  · exact hasBit_clear u hclear
  · rfl

theorem computeUsage_valid (cls : UInt32) (t : Template) :
    hasBit (computeUsage cls t) usageValid = true := by
  have hother : ∀ p ∈ usageMap, ~~~p.2 &&& usageValid = usageValid ∧ hasBit p.2 usageValid = false :=
    List.all_iff_forall_prop.1 (by decide)
  refine (hasBit_foldl (fun u p hp => ?_) _).trans (hasBit_or _ _ _)
  exact hasBit_usageStep (hother p hp).1 (hother p hp).2

theorem computeUsage_denied {cls : UInt32} {t : Template} {p : UInt64 × UInt8} (hp : p ∈ usageMap)
    (h : t.bbool? p.1 = some false) : hasBit (computeUsage cls t) p.2 = false := by
  have hpair : usageMap.Pairwise fun p q => ~~~q.2 &&& p.2 = p.2 ∧ hasBit q.2 p.2 = false := by
    decide
  obtain ⟨pre, post, hmap⟩ := append_of_mem hp
  rw [hmap] at hpair
  have hpost := (pairwise_cons.1 (pairwise_append.1 hpair).2.1).1
  rw [computeUsage, hmap, foldl_append, foldl_cons]
  -- the rounds after that of the bit leave it alone
  refine (hasBit_foldl (fun u q hq => ?_) _).trans ?_
  · exact hasBit_usageStep (hpost q hq).1 (hpost q hq).2
  · dsimp only
    rw [h]
    exact hasBit_clear_self _ _

/-! ## One object -/

theorem Report.bbool_inj {b b' : Bool} (h : Report.bbool b = .bbool b') : b = b' := by
  cases b <;> cases b' <;> first | rfl | exact absurd h (by decide)

namespace Obj

variable {o : Obj} {V : KeyView}

variable {v : Bool}

theorem reads_iff {type : UInt64} (h : o.boolReport type = some v) (p : Bool → Prop) :
    (∃ b, o.report V type = .bbool b ∧ p b) ↔ p v := by
  rw [report_of_bool o h]
  constructor
  · rintro ⟨b, hb, hp⟩
    exact Report.bbool_inj hb ▸ hp
  · exact fun hp => ⟨v, rfl, hp⟩

variable {t : Template} {type : UInt64}

theorem keepsTrue_iff (h : o.boolReport type = some v) :
    (∀ b, t.bbool? type = some b → ∃ b', o.report V type = .bbool b' ∧ (b = true → b' = true)) ↔
      (t.bbool? type = some true → v = true) := by
  constructor
  · intro hall hstated
    exact (reads_iff h _).1 (hall true hstated) rfl
  · intro hv b hb
    refine (reads_iff h _).2 fun htrue => hv ?_
    rw [hb, htrue]

theorem keepsFalse_iff (h : o.boolReport type = some v) :
    (∀ b, t.bbool? type = some b → ∃ b', o.report V type = .bbool b' ∧ (b' = true → b = true)) ↔
      (t.bbool? type = some false → v = false) := by
  constructor
  · intro hall hstated
    cases hv : v with
    | false => rfl
    | true => exact absurd ((reads_iff h _).1 (hall false hstated) hv) (by decide)
  · intro hv b hb
    refine (reads_iff h _).2 fun htrue => ?_
    cases b with
    | true => rfl
    | false => rw [hv hb] at htrue; cases htrue

theorem boolReport_encapsulate : o.boolReport ckaEncapsulate =
    if o.isKem ckoPublicKey then some !(hasBit o.flags2 objf2NoEncapsulate) else none := by
  show (if ckaEncapsulate = ckaEncapsulate ∧ o.isKem ckoPublicKey then _
    else if ckaEncapsulate = ckaDecapsulate ∧ o.isKem ckoPrivateKey then _ else _) = _
  simp [show ckaEncapsulate ≠ ckaDecapsulate by decide]

theorem boolReport_decapsulate : o.boolReport ckaDecapsulate =
    if o.isKem ckoPrivateKey then some !(hasBit o.flags2 objf2NoDecapsulate) else none := by
  show (if ckaDecapsulate = ckaDecapsulate ∧ o.isKem ckoPrivateKey then _ else _) = _
  simp

theorem keepsKem_iff {kem denied : Bool} {kept : Option Bool}
    (htype : type = ckaEncapsulate ∨ type = ckaDecapsulate)
    (h : o.boolReport type = if kem then some !denied else none) (hsome : kept.isSome = kem)
    (hkept : ∀ k, kept = some k → t.bbool? type = some false → denied = k) :
    (∀ b, t.bbool? type = some b → ∃ b', o.report V type = .bbool b' ∧ (b' = true → b = true)) ↔
      kemKept t type kept := by
  cases kept with
  | none =>
    obtain rfl : kem = false := hsome.symm
    rw [if_neg (by decide)] at h
    constructor
    · intro hall b hb
      obtain ⟨b', hb', -⟩ := hall b hb
      rw [report, h] at hb'
      rcases htype with rfl | rfl <;> cases hb'
    · intro hkem b hb
      obtain ⟨k, hk, -⟩ := hkem b hb
      cases hk
  | some k =>
    obtain rfl : kem = true := hsome.symm
    rw [if_pos rfl] at h
    rw [keepsFalse_iff h]
    constructor
    · intro hall b hb
      refine ⟨k, rfl, fun hfalse => ?_⟩
      subst hfalse
      rw [← hkept k rfl hb]
      simpa using hall hb
    · intro hkem hb
      obtain ⟨_, hk, htrue⟩ := hkem false hb
      rw [hkept _ hk hb, htrue rfl]
      rfl

theorem boolReport_usage {p : UInt64 × UInt8} (hp : p ∈ usageMap) :
    ∃ dflt, o.boolReport p.1 = some (o.usageBool p.2 dflt) := by
  simp only [usageMap, mem_cons, not_mem_nil, or_false] at hp
  rcases hp with rfl | rfl | rfl | rfl | rfl | rfl | rfl <;> exact ⟨_, rfl⟩

end Obj

/-! ## New objects -/

section

variable {V : KeyView} {c : Caller} {m : Making} {h : Handling} {o : Obj}
variable {which : TmplWhich} {a : Attr}

section

variable (hm : Made c m o)

include hm

theorem Made.flags {k : UInt8} (hk : hasBit (objfUnmodifiable ||| objfUndestroyable) k = false) :
    hasBit o.flags k = hasBit m.args.flags k := by
  obtain ⟨tok, hvalue, hid, hr⟩ := hm
  rw [hasBit_or, Bool.or_eq_false_iff] at hk
  rw [hr.flags, hasBit_or, hasBit_scopeBits, hk.1, hk.2]
  simp [Token.newObject]

theorem Made.flags2 (k : UInt8) :
    hasBit o.flags2 k = (hasBit (policyBits m.tmpl) k || hasBit (m.tail.encapBits m.tmpl) k ||
      hasBit (scopeBits2 m.tmpl) k) := by
  obtain ⟨tok, hvalue, hid, hr⟩ := hm
  rw [hr.flags2, hasBit_or, hasBit_or, hasBit_or]
  show (hasBit 0 k || _ || _ || _) = _
  rw [hasBit_zero, Bool.false_or]

theorem Made.cls : o.cls = m.args.cls := by
  obtain ⟨tok, hvalue, hid, hr⟩ := hm
  exact hr.cls

theorem Made.isKem (cls : UInt32) :
    o.isKem cls = (m.args.keyType == ckkMlKem && m.args.cls == cls) := by
  obtain ⟨tok, hvalue, hid, hr⟩ := hm
  rw [Obj.isKem, hr.keyType, hr.cls]
  rfl

theorem Made.usageFlags : o.usageFlags = m.tail.usage := by
  obtain ⟨tok, hvalue, hid, hr⟩ := hm
  exact hr.usageFlags

theorem Made.report_nested (ha : m.tmpl.findAttr which.attr = some a) :
    o.report V which.attr = .entries (o.tmpl which) := by
  have hbit : hasBit o.flags2 which.presentBit = true := by
    rw [hm.flags2, hasBit_policyBits_nested, ha]
    rfl
  cases which <;> (show tmplReport o _ = _; rw [tmplReport, hbit]; rfl)

theorem Made.keeps_mechanisms_iff (ha : m.tmpl.findAttr ckaAllowedMechanisms = some a) :
    (∃ ms : List UInt64, o.report V ckaAllowedMechanisms = .bytes (ms.flatMap le64) ∧
        ∀ x ∈ ms, x ∈ a.statedMechanisms) ↔
      ∀ x ∈ a.statedMechanisms, x.toUInt32.toUInt64 ∈ a.statedMechanisms := by
  have hbit : hasBit o.flags2 objf2HasAllowedMech = true := by
    rw [hm.flags2, hasBit_policyBits_allowed, ha]
    rfl
  obtain ⟨tok, hvalue, hid, hr⟩ := hm
  -- the stored mechanisms are those of the template, cut to 32 bits
  have hreport : o.report V ckaAllowedMechanisms =
      .bytes ((a.statedMechanisms.map (·.toUInt32.toUInt64)).flatMap le64) := by
    show (if hasBit o.flags2 objf2HasAllowedMech then _ else _) = _
    rw [if_pos hbit, hr.allowed a ha, Attr.mechanisms, Attr.statedMechanisms]
    simp only [map_map, flatMap_map, Function.comp_def]
  rw [hreport]
  constructor
  · rintro ⟨ms, hms, hall⟩ x hx
    rw [Report.bytes.injEq] at hms
    have hms := flatMap_le64_inj hms
    subst hms
    exact hall _ (mem_map_of_mem hx)
  · intro hall
    refine ⟨_, rfl, fun x hx => ?_⟩
    obtain ⟨y, hy, rfl⟩ := mem_map.1 hx
    exact hall y hy

end

theorem nestedEntry_stored {e : NestedAttr} {raw : RawPolicyAttr} {e' : PolicyAttr}
    (hraw : nestedEntry which e = .ok raw) (he' : raw.check = .ok e') :
    e'.type = e.type.toUInt32 ∧ e'.bytes = e.value.data := by
  unfold nestedEntry at hraw
  split at hraw
  · cases hraw
  rename_i hok
  simp only [Bool.or_eq_true, decide_eq_true_eq, not_or, Nat.not_lt] at hok
  cases hraw
  unfold RawPolicyAttr.check at he'
  split at he'
  · rename_i hle
    split at he'
    · cases he'
      refine ⟨rfl, ?_⟩
      have hmax : policyValueMax = 48 := rfl
      have hlen : (UInt8.ofNat e.value.len).toNat = e.value.data.length := by
        rw [UInt8.toNat_ofNat', Nat.mod_eq_of_lt (by omega)]
        cases hv : e.value with
        | bytes b => rfl
        | null n => simpa [hv, Buf.dangling, Buf.isNull, Buf.len, Buf.data] using hok.1.1
      show (vecAt e.value.data 0 48).toList.take (UInt8.ofNat e.value.len).toNat = _
      rw [hlen]
      exact take_toList_vecAt (hlen ▸ hle)
    · cases he'
  · cases he'

section

variable (hm : Made c m o)

include hm

theorem Made.keeps_nested_iff (ha : m.tmpl.findAttr which.attr = some a) :
    (∃ es, o.report V which.attr = .entries es ∧
        ∀ e ∈ a.entries, ∃ e' ∈ es, e'.type.toUInt64 = e.type ∧ e'.bytes = e.value.data) ↔
      ∀ e ∈ a.entries, e.type.toUInt32.toUInt64 = e.type := by
  rw [hm.report_nested ha]
  obtain ⟨tok, hvalue, hid, hr⟩ := hm
  constructor
  · rintro ⟨es, -, hall⟩ e he
    obtain ⟨e', -, htype, -⟩ := hall e he
    rw [← htype, UInt32.toUInt32_toUInt64]
  · intro hall
    refine ⟨_, rfl, fun e he => ?_⟩
    -- each entry is stored
    obtain ⟨raws, hraws, hes⟩ := bind_ok (hr.nested which a ha)
    obtain ⟨raw, hmem, hraw⟩ := mapM_mem hraws he
    obtain ⟨e', hmem', hcheck⟩ := mapM_mem hes hmem
    obtain ⟨htype, hbytes⟩ := nestedEntry_stored hraw hcheck
    exact ⟨e', hmem', by rw [htype, hall e he], hbytes⟩

theorem Made.keeps_scope {type : UInt64}
    (htype : type = ckaModifiable ∨ type = ckaDestroyable ∨ type = ckaCopyable) :
    ∀ b, m.tmpl.bbool? type = some b →
      ∃ b', o.report V type = .bbool b' ∧ (b' = true → b = true) := by
  have hflags2 := hm.flags2 objf2NotCopyable
  obtain ⟨tok, hvalue, hid, hr⟩ := hm
  rcases htype with rfl | rfl | rfl
  · refine (keepsFalse_iff (v := !hasBit o.flags objfUnmodifiable) rfl).2 fun hstated => ?_
    rw [hr.flags, hasBit_or, hasBit_scopeBits, bbool_of hstated]
    simp [show hasBit objfUnmodifiable objfUnmodifiable = true from rfl]
  · refine (keepsFalse_iff (v := !hasBit o.flags objfUndestroyable) rfl).2 fun hstated => ?_
    rw [hr.flags, hasBit_or, hasBit_scopeBits, bbool_of hstated]
    simp [show hasBit objfUndestroyable objfUndestroyable = true from rfl]
  · refine (keepsFalse_iff (v := !hasBit o.flags2 objf2NotCopyable) rfl).2 fun hstated => ?_
    rw [hflags2, hasBit_scopeBits2, bbool_of hstated]
    simp [show hasBit objf2NotCopyable objf2NotCopyable = true from rfl]

theorem Made.keeps_kem_iff {attr : UInt64} {cls : UInt32} {bit : UInt8} {kept : Option Bool}
    (hattr : attr = ckaEncapsulate ∨ attr = ckaDecapsulate)
    (hreport : o.boolReport attr = if o.isKem cls then some !(hasBit o.flags2 bit) else none)
    (hbit : hasBit (objf2HasAllowedMech ||| objf2HasUnwrapTmpl ||| objf2HasDeriveTmpl |||
      objf2HasWrapTmpl) bit = false)
    (hscope : hasBit objf2NotCopyable bit = false ∧ hasBit objf2WrapWithTrusted bit = false)
    (hh : m.KemAs attr cls bit kept) :
    (∀ b, m.tmpl.bbool? attr = some b →
      ∃ b', o.report V attr = .bbool b' ∧ (b' = true → b = true)) ↔ kemKept m.tmpl attr kept := by
  refine keepsKem_iff hattr hreport (hh.isSome.trans (hm.isKem _).symm) fun k hk hstated => ?_
  simp only [hasBit_or, Bool.or_eq_false_iff] at hbit
  rw [hm.flags2, hasBit_policyBits, hasBit_scopeBits2, hh.eq k hk hstated]
  simp [hbit, hscope.1, hscope.2]

theorem Made.keepsTemplate_iff (hh : m.HandledAs h) :
    o.KeepsTemplate V m.tmpl ↔ h.Keeps m.tmpl ∧ PolicyFits m.tmpl := by
  have hsens : o.boolReport ckaSensitive = some (hasBit m.args.flags objfSensitive) :=
    congrArg some (hm.flags rfl)
  have hauth : o.boolReport ckaAlwaysAuth = some (hasBit m.args.flags objfAlwaysAuth) :=
    congrArg some (hm.flags rfl)
  have hext : o.boolReport ckaExtractable = some (hasBit m.args.flags objfExtractable) :=
    congrArg some (hm.flags rfl)
  have htrusted : o.boolReport ckaTrusted = some (hasBit m.args.flags objfTrusted) :=
    congrArg some (hm.flags rfl)
  have hencap := hm.keeps_kem_iff (V := V) (.inl rfl) o.boolReport_encapsulate rfl ⟨rfl, rfl⟩
    hh.encap
  have hdecap := hm.keeps_kem_iff (V := V) (.inr rfl) o.boolReport_decapsulate rfl ⟨rfl, rfl⟩
    hh.decap
  constructor
  · intro hkeeps
    refine ⟨{
      sensitive := fun hstated => hh.sensitive hstated ▸
        (keepsTrue_iff hsens).1 (hkeeps.whenTrue _ (by simp [trueRestricts])) hstated
      extractable := fun hstated => by
        have hfalse := (keepsFalse_iff hext).1 (hkeeps.whenFalse _ (by simp [falseRestricts])) hstated
        rw [hh.extractable hstated] at hfalse
        simpa using hfalse
      alwaysAuth := fun hstated => by
        by_cases hpriv : m.args.cls = ckoPrivateKey
        · rw [← hh.alwaysAuth hpriv hstated]
          exact (keepsTrue_iff hauth).1
            (hkeeps.whenTrue _ (by simp [trueRestricts, hm.cls, hpriv])) hstated
        · exact hh.alwaysAuth_else hpriv
      encap := hencap.1 (hkeeps.whenFalse _ (by simp [falseRestricts]))
      decap := hdecap.1 (hkeeps.whenFalse _ (by simp [falseRestricts])) }, {
      mechanisms := fun a ha => (hm.keeps_mechanisms_iff ha).1 (hkeeps.mechanisms a ha)
      nested := fun which a ha => (hm.keeps_nested_iff ha).1 (hkeeps.nested which a ha) }⟩
  · rintro ⟨hkeeps, hfits⟩
    exact {
      whenTrue := fun type htype => by
        rw [trueRestricts, mem_append] at htype
        rcases htype with htype | htype
        · rcases mem_cons.1 htype with rfl | htype
          · exact (keepsTrue_iff hsens).2 fun hstated =>
              (hh.sensitive hstated).trans (hkeeps.sensitive hstated)
          · rw [mem_singleton.1 htype]
            refine (keepsTrue_iff (v := hasBit o.flags2 objf2WrapWithTrusted) rfl).2 fun hstated => ?_
            rw [hm.flags2, hasBit_scopeBits2, bbool_of hstated]
            simp [show hasBit objf2WrapWithTrusted objf2WrapWithTrusted = true from rfl]
        · split at htype
          · rename_i hpriv
            rw [mem_singleton.1 htype]
            exact (keepsTrue_iff hauth).2 fun hstated =>
              (hh.alwaysAuth (hm.cls ▸ hpriv) hstated).trans (hkeeps.alwaysAuth hstated)
          · cases htype
      whenFalse := fun type htype => by
        rw [falseRestricts, mem_append] at htype
        rcases htype with htype | htype
        · simp only [mem_cons, not_mem_nil, or_false] at htype
          rcases htype with rfl | rfl | rfl | rfl | htype
          · exact (keepsFalse_iff hext).2 fun hstated => by
              rw [hh.extractable hstated, hkeeps.extractable hstated]
              rfl
          · exact hencap.2 hkeeps.encap
          · exact hdecap.2 hkeeps.decap
          · exact (keepsFalse_iff htrusted).2 hh.trusted
          · exact hm.keeps_scope htype
        · obtain ⟨p, hp, rfl⟩ := mem_map.1 htype
          obtain ⟨dflt, hreport⟩ := o.boolReport_usage hp
          rw [usageBool, hm.usageFlags, if_pos hh.usage.valid] at hreport
          exact (keepsFalse_iff hreport).2 (hh.usage.denied p hp)
      mechanisms := fun a ha => (hm.keeps_mechanisms_iff ha).2 (hfits.mechanisms a ha)
      nested := fun which a ha => (hm.keeps_nested_iff ha).2 (hfits.nested which a ha) }

end

end

end FreeHsm
