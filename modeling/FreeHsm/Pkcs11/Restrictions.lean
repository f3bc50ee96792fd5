import FreeHsm.Pkcs11.TemplateKept

/-!
# Which restrictions the creation functions keep

`CreateCall.asked` has the templates of a call, each with the way its creation function
handles it. It is a function of the arguments of the call alone.
-/

namespace FreeHsm

open TokenM StateExcept IteratedPrf Template CreateCall

/-! ## How each function handles its templates -/

/-- The attributes of a template argument. -/
def TemplateArg.attrs : TemplateArg → Template
  | .null _ => []
  | .list t => t

/-- A secret key that is generated, derived, encapsulated or unwrapped. -/
def secretHandling : Handling := {}

def pairPubHandling (mech : UInt64) : Handling :=
  { sensitive := false, encap := if mech = ckmMlKemKeyPairGen then some true else none }

def pairPrivHandling (mech : UInt64) : Handling :=
  { decap := if mech = ckmMlKemKeyPairGen then some true else none }

/-- An object of `C_CreateObject`, by its path. -/
def createHandling (t : Template) : Handling :=
  match parseCreateAttrs t with
  | .error _ => {}
  | .ok a =>
    match a.path with
    | .verbatim _ =>
      { sensitive := a.cko != ckoData.toUInt64
        decap := if a.cko = ckoPrivateKey.toUInt64 ∧ a.ckk.toUInt32 = ckkMlKem then some true
          else none }
    | .certX509 _ => { sensitive := false, extractable := false }
    | .rsaPriv _ => {}
    | _ => { sensitive := false, encap := if a.ckk.toUInt32 = ckkMlKem then some false else none }

def unwrapHandling (t : Template) : Handling :=
  if unwrapClass t = ckoPrivateKey then
    { alwaysAuth := false
      decap := if templateKeyType t ckkAes = ckkMlKem then some false else none }
  else {}

/-- The templates of the additional keys of a derivation. -/
def DeriveMech.additional (m : DeriveMech) : List TemplateArg :=
  match kbkdfMode m.type, m.kdf with
  | some _, some { additional := .list ks, .. } => ks.map (·.tmpl)
  | _, _ => []

/-- The templates of a call and how they are handled. -/
def CreateCall.asked : CreateCall → List (Template × Handling)
  | .generateKey _ _ arg => [(arg.attrs, secretHandling)]
  | .generateKeyPair mech pub priv =>
    [(pub.attrs, pairPubHandling mech), (priv.attrs, pairPrivHandling mech)]
  | .createObject arg => [(arg.attrs, createHandling arg.attrs)]
  | .unwrapKey _ _ _ arg => [(arg.attrs, unwrapHandling arg.attrs)]
  | .deriveKey m _ arg => (arg :: m.additional).map fun arg => (arg.attrs, secretHandling)
  -- a size query makes no key
  | .encapsulateKey _ _ arg out => if out = .query then [] else [(arg.attrs, secretHandling)]
  | .decapsulateKey _ _ _ arg => [(arg.attrs, secretHandling)]

/-! ## The plans -/

theorem checkTemplate_attrs {arg : TemplateArg} {t : Template} (h : checkTemplate arg = .ok t) :
    t = arg.attrs := by
  cases arg with
  | null n =>
    cases n with
    | zero => cases h; rfl
    | succ n => cases h
  | list ts =>
    simp only [checkTemplate, ite_error_eq_ok] at h
    cases h.2.2
    rfl

theorem hasBit_unwrapTemplateFlags (t : Template) {k : UInt8} (hk : hasBit objfUnwrapSens k = false) :
    hasBit (unwrapTemplateFlags t) k = false := by
  unfold unwrapTemplateFlags
  split
  · exact hasBit_zero k
  dsimp only
  split
  · exact hasBit_zero k
  split
  · exact hk
  · exact hasBit_zero k

/-- Which of the bits that restrict an object its flags have. -/
structure FlagsAre (flags : UInt8) (sens ext trusted auth : Bool) : Prop where
  sensitive : hasBit flags objfSensitive = sens
  extractable : hasBit flags objfExtractable = ext
  trusted : hasBit flags objfTrusted = trusted
  alwaysAuth : hasBit flags objfAlwaysAuth = auth

/-- Flags that are put together from the bits. -/
theorem FlagsAre.of {flags : UInt8} (sens ext trusted auth here : Bool)
    (h : ∀ k, hasBit objfUnwrapSens k = false → hasBit flags k =
      (sens && hasBit objfSensitive k || ext && hasBit objfExtractable k ||
        trusted && hasBit objfTrusted k || auth && hasBit objfAlwaysAuth k ||
        here && hasBit objfLocal k)) : FlagsAre flags sens ext trusted auth := by
  constructor <;> rw [h _ rfl] <;> cases sens <;> cases ext <;> cases trusted <;> cases auth <;>
    cases here <;> rfl

section

variable {m : Making} {cls : UInt32} {attr : UInt64} {bit : UInt8}

theorem Making.usageKept (h : m.tail.usage = computeUsage cls m.tmpl) : m.UsageKept where
  valid := by
    rw [h]
    exact computeUsage_valid cls m.tmpl
  denied p hp hstated := by
    rw [h]
    exact computeUsage_denied hp hstated

/-- An object that has no such attribute. -/
theorem Making.KemAs.none (h : ¬(m.args.keyType = ckkMlKem ∧ m.args.cls = cls)) :
    m.KemAs attr cls bit none where
  isSome := by simpa using h
  eq k hk := nomatch hk

theorem Making.KemAs.of {c : Prop} [Decidable c] {k : Bool}
    (hkem : c ↔ m.args.keyType = ckkMlKem ∧ m.args.cls = cls)
    (hbit : c → m.tmpl.bbool? attr = some false → hasBit (m.tail.encapBits m.tmpl) bit = k) :
    m.KemAs attr cls bit (if c then some k else Option.none) := by
  by_cases hc : c
  · rw [if_pos hc]
    refine ⟨by simpa using hkem.1 hc, ?_⟩
    rintro _ ⟨⟩
    exact hbit hc
  · rw [if_neg hc]
    exact .none fun h => hc (hkem.2 h)

theorem secret_handled (hcls : m.args.cls = ckoSecretKey ∨ m.args.cls = ckoData)
    (hsens : m.tmpl.bbool? ckaSensitive = some true → hasBit m.args.flags objfSensitive = true)
    (hext : m.tmpl.bbool? ckaExtractable = some false → hasBit m.args.flags objfExtractable = false)
    (htrusted : hasBit m.args.flags objfTrusted = false)
    (husage : m.tail.usage = computeUsage cls m.tmpl) : m.HandledAs secretHandling := by
  have hother : ∀ cls', cls' = ckoPublicKey ∨ cls' = ckoPrivateKey → m.args.cls ≠ cls' := by
    rcases hcls with hcls | hcls <;> (rw [hcls]; rintro _ (rfl | rfl) <;> decide)
  exact {
    sensitive := hsens
    extractable := hext
    trusted := fun _ => htrusted
    alwaysAuth := fun hpriv => absurd hpriv (hother _ (.inr rfl))
    alwaysAuth_else := fun _ => rfl
    usage := Making.usageKept husage
    encap := .none fun h => hother _ (.inl rfl) h.2
    decap := .none fun h => hother _ (.inr rfl) h.2 }

theorem secret_handled_of_flags (sens ext : Bool) (hcls : m.args.cls = ckoSecretKey)
    (hflags : FlagsAre m.args.flags (m.tmpl.bbool ckaSensitive sens) (m.tmpl.bbool ckaExtractable ext)
      false false)
    (husage : m.tail.usage = computeUsage cls m.tmpl) : m.HandledAs secretHandling := by
  refine secret_handled (.inl hcls) (fun hstated => ?_) (fun hstated => ?_) hflags.trusted husage
  · rw [hflags.sensitive, bbool_of hstated]
  · rw [hflags.extractable, bbool_of hstated]

end

section

variable {P : Provider} {L : KeyLib P} {c : Caller} {tok : Token}

variable {arg : TemplateArg} {t pub : Template} {mech hBase : UInt64} {args : AddArgs} {tail : Tail}
  {pair : KeyPair} {k : UInt8} {a : CreateAttrs} {m : DeriveMech} {mode : Mode}

theorem checkCreationTemplate_attrs (h : checkCreationTemplate c arg = .ok t) : t = arg.attrs := by
  simp only [checkCreationTemplate, bind_eq_ok, pure_eq_ok] at h
  obtain ⟨t', ht', -, -, -, -, -, -, rfl⟩ := h
  exact checkTemplate_attrs ht'

/-- What an object is made from fits the template it was asked for with. -/
def Making.Fits (m : Making) (a : Template × Handling) : Prop := m.tmpl = a.1 ∧ m.HandledAs a.2

theorem generateKey_handled {param : Option Pbkd2Params}
    (h : generateKeyPlan L c mech param arg = .ok (t, args, tail)) :
    Making.Fits ⟨t, args, tail⟩ (arg.attrs, secretHandling) := by
  simp only [generateKeyPlan, ite_error_eq_ok, bind_eq_ok] at h
  obtain ⟨-, t', ht', -, -, -, -, ⟨keyType, len⟩, -, h⟩ := h
  split at h
  all_goals
    obtain ⟨key, -, h⟩ := bind_ok h
    cases h
    -- the flags of a generated key follow its template
    refine ⟨checkCreationTemplate_attrs ht', secret_handled_of_flags true false rfl ?_ rfl⟩
    refine .of _ _ _ _ true fun k hk => ?_
    simp only [generateFlags, hasBit_or, hasBit_if, hasBit_flagIf, hasBit_unwrapTemplateFlags t hk,
      Bool.decide_eq_true, Bool.or_false, Bool.true_and, Bool.false_and, Bool.or_right_comm]

/-- Combining keys only adds restrictions. -/
theorem Token.inheritFlags_bit (tok : Token) (base : UInt64) (flags : UInt8) :
    (hasBit flags objfSensitive = true → hasBit (tok.inheritFlags base flags) objfSensitive = true) ∧
      (hasBit flags objfExtractable = false →
        hasBit (tok.inheritFlags base flags) objfExtractable = false) ∧
      hasBit (tok.inheritFlags base flags) objfTrusted = hasBit flags objfTrusted := by
  have hraise (b : Bool) : (hasBit flags objfSensitive = true →
      hasBit (if b then flags ||| objfSensitive else flags) objfSensitive = true) ∧
      hasBit (if b then flags ||| objfSensitive else flags) objfExtractable =
        hasBit flags objfExtractable ∧
      hasBit (if b then flags ||| objfSensitive else flags) objfTrusted =
        hasBit flags objfTrusted := by
    cases b
    · exact ⟨id, rfl, rfl⟩
    · simp only [if_true, hasBit_or]
      exact ⟨fun _ => Bool.or_true _, Bool.or_false _, Bool.or_false _⟩
  unfold inheritFlags
  dsimp only
  split
  · exact ⟨id, id, rfl⟩
  rename_i o _
  obtain ⟨hsens, hext, htrusted⟩ := hraise (hasBit o.flags objfSensitive)
  split
  · exact ⟨hsens, fun h => hext.trans h, htrusted⟩
  · exact ⟨fun h => (hasBit_clear _ rfl).trans (hsens h), fun _ => hasBit_clear_self _ _,
      (hasBit_clear _ rfl).trans htrusted⟩

theorem DeriveFrom.flags_bit (d : DeriveFrom) (tok : Token) (t : Template) :
    (t.bbool? ckaSensitive = some true → hasBit (d.flags tok t) objfSensitive = true) ∧
      (t.bbool? ckaExtractable = some false → hasBit (d.flags tok t) objfExtractable = false) ∧
      hasBit (d.flags tok t) objfTrusted = false := by
  have hflags : FlagsAre (deriveFlags t) (t.bbool ckaSensitive false) (t.bbool ckaExtractable false)
      false false := .of _ _ _ _ false fun k _ => by
    simp only [deriveFlags, hasBit_or, hasBit_if, Bool.decide_eq_true, Bool.false_and, Bool.or_false]
  have hsens (h : t.bbool? ckaSensitive = some true) :
      hasBit (deriveFlags t) objfSensitive = true := by
    rw [hflags.sensitive, bbool_of h]
  have hext (h : t.bbool? ckaExtractable = some false) :
      hasBit (deriveFlags t) objfExtractable = false := by
    rw [hflags.extractable, bbool_of h]
  unfold flags
  split
  · obtain ⟨hsens₁, hext₁, htrusted₁⟩ := tok.inheritFlags_bit d.base (deriveFlags t)
    obtain ⟨hsens₂, hext₂, htrusted₂⟩ :=
      tok.inheritFlags_bit d.base2 (tok.inheritFlags d.base (deriveFlags t))
    exact ⟨fun h => hsens₂ (hsens₁ (hsens h)), fun h => hext₂ (hext₁ (hext h)),
      htrusted₂.trans (htrusted₁.trans hflags.trusted)⟩
  · exact ⟨hsens, hext, hflags.trusted⟩

theorem deriveClass_ok {dflt cls : UInt32} (h : deriveClass t dflt = .ok cls)
    (hdflt : dflt = ckoSecretKey ∨ dflt = ckoData) : cls = ckoSecretKey ∨ cls = ckoData := by
  unfold deriveClass at h
  split at h
  · cases h
    exact hdflt
  · split at h
    · rename_i cls' hcls
      cases h
      rcases hcls with rfl | rfl
      · exact .inl rfl
      · exact .inr rfl
    · cases h

theorem deriveMaking_handled {d : DeriveFrom} {secret : Bytes} {m : Making}
    (h : deriveMaking tok d t secret = .ok m) (hdflt : d.dflt = ckoSecretKey ∨ d.dflt = ckoData) :
    m.tmpl = t ∧ m.HandledAs secretHandling := by
  obtain ⟨_, -, h⟩ := bind_ok h
  obtain ⟨cls, hcls, h⟩ := bind_ok h
  cases h
  obtain ⟨hsens, hext, htrusted⟩ := d.flags_bit tok t
  exact ⟨rfl, secret_handled (deriveClass_ok hcls hdflt) hsens hext htrusted rfl⟩

theorem kemGate_attrs {hKey : UInt64} {cls : UInt32} {denied : UInt8} {o : Obj}
    (h : kemGate L c tok mech hKey cls denied arg = .ok (t, o)) : t = arg.attrs := by
  simp only [kemGate, ite_error_eq_ok, bind_eq_ok, pure_eq_ok] at h
  obtain ⟨-, t', ht', -, -, -, -, -, -, o', -, -, -, -, -, h⟩ := h
  cases h
  exact checkCreationTemplate_attrs ht'

theorem kemSecret_handled {ss : Bytes} (h : kemSecret t ss = .ok (args, tail)) :
    Making.HandledAs ⟨t, args, tail⟩ secretHandling := by
  simp only [kemSecret, ite_error_eq_ok] at h
  obtain ⟨-, -, -, h⟩ := h
  cases h
  exact secret_handled_of_flags false true rfl (.of _ _ _ _ false fun k _ => by
    simp only [hasBit_or, hasBit_if, hasBit_flagIf, Bool.decide_eq_true, Bool.false_and,
      Bool.or_false]) rfl

theorem flagsAre_unwrap (t : Template) : FlagsAre (unwrapFlags t) (t.bbool ckaSensitive true)
    (t.bbool ckaExtractable false) false false :=
  .of _ _ _ _ false fun k _ => by
    simp only [unwrapFlags, hasBit_or, hasBit_if, hasBit_flagIf, Bool.decide_eq_true, Bool.false_and,
      Bool.or_false]

/-- An unwrapped private key: `CKA_ALWAYS_AUTHENTICATE` and `CKA_DECAPSULATE` are not looked at. -/
theorem unwrapPrivate_handled {der : Bytes} (hcls : unwrapClass t = ckoPrivateKey) :
    Making.HandledAs ⟨t, ⟨ckoPrivateKey, templateKeyType t ckkAes, t.labelText, der, t.templateId,
        unwrapFlags t ||| objfSensitive⟩,
      { history := keyFromOutside, usage := computeUsage (unwrapClass t) t }⟩ (unwrapHandling t) := by
  rw [unwrapHandling, if_pos hcls]
  exact {
    sensitive := fun _ => by
      rw [hasBit_or]
      exact Bool.or_true _
    extractable := fun hstated => by
      rw [hasBit_or, (flagsAre_unwrap t).extractable, bbool_of hstated]
      rfl
    trusted := fun _ => by
      rw [hasBit_or, (flagsAre_unwrap t).trusted]
      rfl
    alwaysAuth := fun _ _ => by
      rw [hasBit_or, (flagsAre_unwrap t).alwaysAuth]
      rfl
    alwaysAuth_else := fun h => absurd rfl h
    usage := Making.usageKept rfl
    encap := .none fun h => absurd h.2 (by decide : ckoPrivateKey ≠ ckoPublicKey)
    decap := .of (by simp) fun _ _ => hasBit_zero _ }

theorem unwrap_handled {m : Mech} {hUnwrapping : UInt64} {wrapped : Bytes}
    (h : unwrapPlan L c tok m hUnwrapping wrapped arg = .ok (t, args, tail)) :
    Making.Fits ⟨t, args, tail⟩ (arg.attrs, unwrapHandling arg.attrs) := by
  simp only [unwrapPlan, unwrapGate, ite_error_eq_ok, bind_eq_ok, pure_eq_ok] at h
  obtain ⟨t', ⟨-, _, ht', -, -, -, -, -, -, -, -, -, rfl⟩, u, -, cap, -, -, pt, -, args', himport, h⟩ := h
  cases h
  obtain rfl := checkCreationTemplate_attrs ht'
  refine ⟨rfl, ?_⟩
  simp only [KeyLib.unwrapImport, ite_error_eq_ok] at himport
  obtain ⟨-, -, -, himport⟩ := himport
  split at himport
  · rename_i hcls
    cases himport
    rw [unwrapHandling, if_neg hcls]
    exact secret_handled_of_flags true false rfl (flagsAre_unwrap arg.attrs) rfl
  · rename_i hcls
    split at himport
    · cases himport
    simp only [ite_error_eq_ok] at himport
    obtain ⟨-, himport⟩ := himport
    split at himport
    · cases himport
    cases himport
    exact unwrapPrivate_handled (not_not.1 hcls)

/-! ## Key pairs -/

theorem pqcPairFamily_keyType {fam : PqcFamily} {dflt : ParamSet}
    (h : pqcPairFamily mech = some (fam, dflt)) :
    fam.keyType = ckkMlKem ↔ mech = ckmMlKemKeyPairGen := by
  unfold pqcPairFamily at h
  split at h
  · rename_i hmech
    cases h
    exact ⟨fun _ => hmech, fun _ => rfl⟩
  · rename_i hne
    repeat' split at h
    all_goals cases h
    all_goals exact ⟨fun h => absurd h (by decide), fun h => absurd h hne⟩

theorem pairAlg_keyType {keyType : UInt32} {alg : PairAlg}
    (h : pairAlg L mech pub = .ok (keyType, alg)) :
    keyType = ckkMlKem ↔ mech = ckmMlKemKeyPairGen := by
  have hknown : ∀ {kt : UInt32}, mech ≠ ckmMlKemKeyPairGen → kt ≠ ckkMlKem →
      (kt = ckkMlKem ↔ mech = ckmMlKemKeyPairGen) := fun hmech hkt => iff_of_false hkt hmech
  unfold pairAlg at h
  iterate 3
    split at h
    · rename_i hmech
      obtain ⟨_, -, h⟩ := bind_ok h
      cases h
      exact hknown (by rw [hmech]; decide) (by decide)
  split at h
  · rename_i hmech
    simp only [ite_error_eq_ok, bind_eq_ok] at h
    obtain ⟨-, _, -, h⟩ := h
    cases h
    exact hknown (by rw [hmech]; decide) (by decide)
  split at h
  · cases h
  rename_i fam dflt hfam
  repeat' split at h
  all_goals cases h
  all_goals exact pqcPairFamily_keyType hfam

theorem pairMaterial_keyType (h : pairMaterial L mech pub = .ok pair) :
    pair.keyType = ckkMlKem ↔ mech = ckmMlKemKeyPairGen := by
  unfold pairMaterial at h
  split at h
  · rename_i hmech
    simp only [ite_error_eq_ok, bind_eq_ok, pure_eq_ok] at h
    obtain ⟨-, ⟨priv, pub⟩, -, -, rfl⟩ := h
    rw [hmech]
    show ckkCompositeMldsa65Ed25519 = ckkMlKem ↔ _
    decide
  · obtain ⟨⟨keyType, alg⟩, halg, h⟩ := bind_ok h
    dsimp only at h
    split at h
    · cases h
    simp only [ite_error_eq_ok, bind_eq_ok, pure_eq_ok] at h
    obtain ⟨-, _, -, _, -, rfl⟩ := h
    exact pairAlg_keyType (mapError_ok halg)

theorem pairPub_handled (hkey : pair.keyType = ckkMlKem ↔ mech = ckmMlKemKeyPairGen) :
    Making.HandledAs ⟨pub, pairPubArgs pub pair, pairPubTail pub⟩ (pairPubHandling mech) where
  sensitive _ := (by decide : hasBit objfLocal objfSensitive = false)
  extractable _ := (by decide : hasBit objfLocal objfExtractable = false)
  trusted _ := (by decide : hasBit objfLocal objfTrusted = false)
  alwaysAuth h := absurd h (by decide : ckoPublicKey ≠ ckoPrivateKey)
  alwaysAuth_else _ := rfl
  usage := Making.usageKept rfl
  encap := .of ⟨fun h => ⟨hkey.2 h, rfl⟩, fun h => hkey.1 h.1⟩ fun _ hstated => by
    show hasBit (Obj.encapBit pub ckoPublicKey) objf2NoEncapsulate = true
    rw [hasBit_encapBit, if_pos rfl, hstated]
    rfl
  decap := .none fun h => absurd h.2 (by decide : ckoPublicKey ≠ ckoPrivateKey)

theorem flagsAre_pairPriv (priv : Template) (pair : KeyPair) :
    FlagsAre (pairPrivArgs priv pair).flags true (priv.bbool ckaExtractable false) false
      (priv.bbool ckaAlwaysAuth false) :=
  .of _ _ _ _ true fun k hk => by
    simp only [pairPrivArgs, hasBit_or, hasBit_flagIf, hasBit_unwrapTemplateFlags priv hk,
      Bool.or_false, Bool.true_and, Bool.false_and]
    ac_rfl

theorem pairPriv_handled {priv : Template}
    (hkey : pair.keyType = ckkMlKem ↔ mech = ckmMlKemKeyPairGen) :
    Making.HandledAs ⟨priv, pairPrivArgs priv pair, pairPrivTail pub priv pair⟩
      (pairPrivHandling mech) where
  sensitive _ := (flagsAre_pairPriv priv pair).sensitive
  extractable hstated := by
    rw [(flagsAre_pairPriv priv pair).extractable, bbool_of hstated]
    rfl
  trusted _ := (flagsAre_pairPriv priv pair).trusted
  alwaysAuth _ hstated := by
    rw [(flagsAre_pairPriv priv pair).alwaysAuth, bbool_of hstated]
    rfl
  alwaysAuth_else h := absurd rfl h
  usage := by
    refine ⟨?_, fun p hp hstated => ?_⟩
    · show hasBit (pairPrivUsage priv pair.keyType) _ = true
      unfold pairPrivUsage
      split
      · exact computeUsage_valid _ _
      · exact (hasBit_clear _ rfl).trans (computeUsage_valid _ _)
    have hdenied : hasBit (computeUsage ckoPrivateKey priv) p.2 = false := computeUsage_denied hp hstated
    show hasBit (pairPrivUsage priv pair.keyType) _ = false
    unfold pairPrivUsage
    split
    · exact hdenied
    -- clearing a bit denies no less
    by_cases hderive : p.2 = usageDerive
    · rw [hderive]
      exact hasBit_clear_self _ _
    · have hother : ∀ p ∈ usageMap, p.2 ≠ usageDerive → ~~~usageDerive &&& p.2 = p.2 :=
        List.all_iff_forall_prop.1 (by decide)
      exact (hasBit_clear _ (hother p hp hderive)).trans hdenied
  encap := .none fun h => absurd h.2 (by decide : ckoPrivateKey ≠ ckoPublicKey)
  decap := .of ⟨fun h => ⟨hkey.2 h, rfl⟩, fun h => hkey.1 h.1⟩ fun _ hstated => by
    show hasBit (Obj.encapBit priv ckoPrivateKey) objf2NoDecapsulate = true
    rw [hasBit_encapBit, if_neg (by decide), hstated]
    rfl

/-! ## C_CreateObject -/

/-- The classes of each path. -/
def CreatePath.classOk (cko ckk : UInt64) : CreatePath → Prop
  | .verbatim _ =>
    cko = ckoData.toUInt64 ∨ cko = ckoSecretKey.toUInt64 ∨ cko = ckoPrivateKey.toUInt64
  | .certX509 _ => cko = ckoCertificate.toUInt64
  | .rsaPriv _ => cko = ckoPrivateKey.toUInt64 ∧ ckk = ckkRsa.toUInt64
  | .pqcPub .. | .ecPub .. | .edPub .. | .rsaPub .. => cko = ckoPublicKey.toUInt64

theorem parseKeyPath_classOk {cko ckk : UInt64} {path : CreatePath}
    (hcko : cko = ckoPublicKey.toUInt64 ∨ cko = ckoPrivateKey.toUInt64 ∨ cko = ckoSecretKey.toUInt64)
    (h : parseKeyPath cko ckk t = .ok path) : path.classOk cko ckk := by
  unfold parseKeyPath at h
  split at h
  · cases h
  split at h
  · rename_i hpriv
    unfold parseRsaPriv at h
    split at h
    all_goals cases h
    exact ⟨hpriv.1, hpriv.2.1⟩
  split at h
  · rename_i hcls
    unfold parseVerbatim at h
    split at h
    all_goals cases h
    exact .inr hcls
  rename_i hpub
  replace hpub : cko = ckoPublicKey.toUInt64 := by
    rcases hcko with h | h | h
    · exact h
    · exact absurd (.inr h) hpub
    · exact absurd (.inl h) hpub
  unfold parsePqcPub parseEcPub parseEdPub at h
  iterate 3
    split at h
    · repeat' split at h
      all_goals cases h
      all_goals exact hpub
  split at h
  · unfold parseRsaPub at h
    split at h
    all_goals cases h
    exact hpub
  · cases h

theorem parseCreateAttrs_classOk (h : parseCreateAttrs t = .ok a) : a.path.classOk a.cko a.ckk := by
  unfold parseCreateAttrs at h
  split at h
  · cases h
  rename_i cko _
  split at h
  · cases h
  rename_i hknown
  split at h
  · rename_i hdata
    cases h
    exact .inl hdata
  rename_i hdata
  split at h
  · rename_i hcert
    repeat' split at h
    all_goals cases h
    exact hcert
  rename_i hcert
  split at h
  · cases h
  obtain ⟨path, hpath, h⟩ := bind_ok h
  cases h
  refine parseKeyPath_classOk ?_ hpath
  simp only [List.map_cons, List.map_nil, Bool.not_eq_true', Bool.not_eq_false,
    List.contains_eq_mem, decide_eq_true_eq, List.mem_cons, List.not_mem_nil, or_false] at hknown
  rcases hknown with h | h | h | h | h
  · exact absurd h hdata
  · exact .inl h
  · exact .inr (.inl h)
  · exact .inr (.inr h)
  · exact absurd h hcert

theorem hasBit_trustedFlag (t : Template) (hk : hasBit objfUnwrapSens k = false) :
    hasBit (trustedFlag t) k = (t.bbool ckaTrusted false && hasBit objfTrusted k) := by
  rw [trustedFlag, hasBit_or, hasBit_flagIf, hasBit_unwrapTemplateFlags t hk, Bool.or_false]

theorem flagsAre_verbatim (cko : UInt64) (t : Template) : FlagsAre (verbatimFlags cko t)
    (cko == ckoPrivateKey.toUInt64 || cko == ckoSecretKey.toUInt64 && t.bbool ckaSensitive false)
    ((cko == ckoSecretKey.toUInt64 || cko == ckoPrivateKey.toUInt64) && t.bbool ckaExtractable false)
    (t.bbool ckaTrusted false) (cko == ckoPrivateKey.toUInt64 && t.bbool ckaAlwaysAuth false) :=
  .of _ _ _ _ false fun k hk => by
    simp only [verbatimFlags, hasBit_or, hasBit_if, hasBit_flagIf, hasBit_trustedFlag t hk,
      Bool.decide_or, beq_eq_decide, Bool.and_or_distrib_right, Bool.and_assoc, Bool.false_and,
      Bool.or_false]

/-- The object is stored as it comes. -/
theorem verbatim_handled {stored v : Bytes} (hparse : parseCreateAttrs t = .ok a)
    (hpath : a.path = .verbatim v) :
    Making.HandledAs ⟨t, ⟨a.cko.toUInt32, a.ckk.toUInt32, t.labelText, stored, t.templateId,
        verbatimFlags a.cko t⟩,
      { history := keyFromOutside, encap := some a.cko.toUInt32, edName := some t
        usage := computeUsage a.cko.toUInt32 t }⟩ (createHandling t) := by
  have hcls := parseCreateAttrs_classOk hparse
  rw [hpath] at hcls
  rw [createHandling, hparse]
  obtain ⟨cko, ckk, path⟩ := a
  cases hpath
  exact {
    sensitive := fun hstated => by
      rw [(flagsAre_verbatim cko t).sensitive, bbool_of hstated]
      rcases hcls with rfl | rfl | rfl <;> rfl
    extractable := fun hstated => by
      rw [(flagsAre_verbatim cko t).extractable, bbool_of hstated, Bool.and_false]
      rfl
    trusted := fun hstated => by
      rw [(flagsAre_verbatim cko t).trusted, bbool_of hstated]
    alwaysAuth := fun hpriv hstated => by
      rw [(flagsAre_verbatim cko t).alwaysAuth, bbool_of hstated]
      rcases hcls with rfl | rfl | rfl
      · exact absurd hpriv (by decide : ckoData ≠ ckoPrivateKey)
      · exact absurd hpriv (by decide : ckoSecretKey ≠ ckoPrivateKey)
      · rfl
    alwaysAuth_else := fun _ => rfl
    usage := Making.usageKept rfl
    encap := .none fun h => by
      have hpub : cko.toUInt32 = ckoPublicKey := h.2
      rcases hcls with rfl | rfl | rfl <;> exact absurd hpub (by decide)
    decap := by
      refine .of ⟨fun h => ⟨h.2, by rw [h.1]; rfl⟩, fun h => ⟨?_, h.1⟩⟩ fun hpriv hstated => ?_
      · have hpriv : cko.toUInt32 = ckoPrivateKey := h.2
        rcases hcls with rfl | rfl | rfl
        · exact absurd hpriv (by decide)
        · exact absurd hpriv (by decide)
        · rfl
      · cases hpriv.1
        show hasBit (Obj.encapBit t ckoPrivateKey) objf2NoDecapsulate = true
        rw [hasBit_encapBit, if_neg (by decide), hstated]
        rfl }

theorem cert_handled {v : Bytes} (hparse : parseCreateAttrs t = .ok a)
    (hpath : a.path = .certX509 v) :
    Making.HandledAs ⟨t, ⟨ckoCertificate, 0, t.labelText, v, t.templateId,
        objfExtractable ||| trustedFlag t⟩,
      { encap := some a.cko.toUInt32, usage := computeUsage a.cko.toUInt32 t }⟩
      (createHandling t) := by
  rw [createHandling, hparse]
  obtain ⟨cko, ckk, path⟩ := a
  cases hpath
  exact {
    sensitive := fun _ => by
      rw [hasBit_or, hasBit_trustedFlag t rfl]
      cases t.bbool ckaTrusted false <;> rfl
    extractable := fun _ => by
      rw [hasBit_or]
      rfl
    trusted := fun hstated => by
      rw [hasBit_or, hasBit_trustedFlag t rfl, bbool_of hstated]
      rfl
    alwaysAuth := fun hpriv => absurd hpriv (by decide : ckoCertificate ≠ ckoPrivateKey)
    alwaysAuth_else := fun _ => rfl
    usage := Making.usageKept rfl
    encap := .none fun h => absurd h.2 (by decide : ckoCertificate ≠ ckoPublicKey)
    decap := .none fun h => absurd h.2 (by decide : ckoCertificate ≠ ckoPrivateKey) }

theorem flagsAre_built (isPriv : Bool) (t : Template) : FlagsAre (builtFlags isPriv t) isPriv
    (isPriv && t.bbool ckaExtractable false) (t.bbool ckaTrusted false)
    (isPriv && t.bbool ckaAlwaysAuth false) :=
  .of _ _ _ _ false fun k hk => by
    simp only [builtFlags, hasBit_or, hasBit_if, hasBit_flagIf, hasBit_trustedFlag t hk,
      Bool.decide_eq_true, Bool.and_or_distrib_left, Bool.and_assoc, Bool.false_and, Bool.or_false]
    ac_rfl

theorem builtPrivate_handled {r : RsaComponents} {enc : Bytes} (hparse : parseCreateAttrs t = .ok a)
    (hpath : a.path = .rsaPriv r) :
    Making.HandledAs ⟨t, ⟨a.cko.toUInt32, a.ckk.toUInt32, t.labelText, enc, t.templateId,
        builtFlags true t⟩,
      { history := keyFromOutside, edName := some t, usage := computeUsage a.cko.toUInt32 t }⟩
      (createHandling t) := by
  have hcls := parseCreateAttrs_classOk hparse
  rw [hpath] at hcls
  rw [createHandling, hparse]
  obtain ⟨cko, ckk, path⟩ := a
  cases hpath
  obtain ⟨rfl, rfl⟩ := hcls
  exact {
    sensitive := fun _ => (flagsAre_built true t).sensitive
    extractable := fun hstated => by
      rw [(flagsAre_built true t).extractable, bbool_of hstated]
      rfl
    trusted := fun hstated => by
      rw [(flagsAre_built true t).trusted, bbool_of hstated]
    alwaysAuth := fun _ hstated => by
      rw [(flagsAre_built true t).alwaysAuth, bbool_of hstated]
      rfl
    alwaysAuth_else := fun _ => rfl
    usage := Making.usageKept rfl
    encap := .none fun h => absurd h.1 (by decide : ckkRsa ≠ ckkMlKem)
    decap := .none fun h => absurd h.1 (by decide : ckkRsa ≠ ckkMlKem) }

/-- A public key that OpenSSL built: `CKA_ENCAPSULATE` is not looked at. -/
theorem builtPublic_handled {ckk : UInt64} {enc : Bytes} :
    Making.HandledAs ⟨t, ⟨ckoPublicKey, ckk.toUInt32, t.labelText, enc, t.templateId,
        builtFlags false t⟩,
      { history := keyFromOutside, edName := some t, usage := computeUsage ckoPublicKey t }⟩
      { sensitive := false, encap := if ckk.toUInt32 = ckkMlKem then some false else none } where
  sensitive _ := (flagsAre_built false t).sensitive
  extractable _ := (flagsAre_built false t).extractable
  trusted hstated := by
    rw [(flagsAre_built false t).trusted, bbool_of hstated]
  alwaysAuth hpriv := absurd hpriv (by decide : ckoPublicKey ≠ ckoPrivateKey)
  alwaysAuth_else _ := rfl
  usage := Making.usageKept rfl
  encap := .of (by simp) fun _ _ => hasBit_zero _
  decap := .none fun h => absurd h.2 (by decide : ckoPublicKey ≠ ckoPrivateKey)

theorem createArgs_handled (hparse : parseCreateAttrs t = .ok a)
    (h : createArgs L t a = .ok (args, tail)) :
    Making.HandledAs ⟨t, args, tail⟩ (createHandling t) := by
  have hcls := parseCreateAttrs_classOk hparse
  unfold createArgs at h
  dsimp only at h
  split at h
  · rename_i v hpath
    split at h
    all_goals
      obtain ⟨stored, -, h⟩ := bind_ok h
      cases h
      exact verbatim_handled hparse hpath
  · rename_i v hpath
    cases h
    exact cert_handled hparse hpath
  · rename_i hverbatim hcert
    obtain ⟨enc, -, h⟩ := bind_ok h
    cases hpath : a.path with
    | verbatim v => exact absurd hpath (hverbatim v)
    | certX509 v => exact absurd hpath (hcert v)
    | rsaPriv r =>
      rw [hpath] at h
      cases h
      exact builtPrivate_handled hparse hpath
    | pqcPub fam byLength v | ecPub curve point | edPub curve point | rsaPub n e =>
      rw [hpath] at h hcls
      rw [createHandling, hparse]
      obtain ⟨cko, ckk, path⟩ := a
      cases hpath
      cases hcls
      cases h
      exact builtPublic_handled

theorem create_handled (h : createPlan L c arg = .ok (t, args, tail)) :
    Making.Fits ⟨t, args, tail⟩ (arg.attrs, createHandling arg.attrs) := by
  simp only [createPlan, ite_error_eq_ok, bind_eq_ok, pure_eq_ok] at h
  obtain ⟨t', hgate, a, hparse, -, ⟨args', tail'⟩, hargs, h⟩ := h
  cases h
  obtain rfl : t = arg.attrs := by
    simp only [createGate, ite_error_eq_ok] at hgate
    obtain ⟨-, hgate⟩ := hgate
    split at hgate
    · cases hgate
    · cases hgate
    · simp only [bind_eq_ok, pure_eq_ok] at hgate
      obtain ⟨t₁, ht₁, -, -, -, -, -, -, -, -, -, -, rfl⟩ := hgate
      exact checkTemplate_attrs ht₁
  exact ⟨rfl, createArgs_handled (mapError_ok hparse) hargs⟩

/-! ## Derivations -/

theorem deriveSecret_dflt {secret : Bytes} {d : DeriveFrom}
    (h : deriveSecret L tok m hBase t = .ok (secret, d)) :
    d.dflt = ckoSecretKey ∨ d.dflt = ckoData := by
  unfold deriveSecret at h
  split at h
  · obtain ⟨p, -, h⟩ := bind_ok h
    obtain ⟨mode, -, h⟩ := bind_ok h
    split at h
    · cases h
    simp only [ite_error_eq_ok, bind_eq_ok, pure_eq_ok] at h
    obtain ⟨-, base, -, salt, -, -, len, -, okm, -, h⟩ := h
    cases h
    dsimp only
    split
    · exact .inr rfl
    · exact .inl rfl
  split at h
  · simp only [combineSecret, ite_error_eq_ok, bind_eq_ok, pure_eq_ok] at h
    obtain ⟨base, -, _, -, ⟨other, base2⟩, -, -, -, h⟩ := h
    cases h
    exact .inl rfl
  split at h
  · unfold ecdhSecret at h
    split at h
    · cases h
    simp only [ite_error_eq_ok, bind_eq_ok, pure_eq_ok] at h
    obtain ⟨-, base, -, -, -, z, -, -, h⟩ := h
    cases h
    exact .inl rfl
  · cases h

theorem kbkdfCheckTemplate_attrs {len : Nat} (h : kbkdfCheckTemplate c tok hBase arg = .ok (t, len))
    : t = arg.attrs := by
  simp only [kbkdfCheckTemplate, bind_eq_ok, exists_and_right] at h
  obtain ⟨t', ht', -, -, -, -, -, h⟩ := h
  repeat' split at h
  all_goals cases h
  exact checkTemplate_attrs ht'

theorem kdfParams_ok {param : Option KdfParams} {p : KdfParams} (h : kdfParams mode param = .ok p) :
    param = some p := by
  cases param with
  | none => cases h
  | some p' =>
    simp only [kdfParams, ite_error_eq_ok] at h
    rw [← Except.ok.inj h.2]

theorem DeriveMech.additional_eq {p : KdfParams} {extra : List DerivedKey}
    (hmode : kbkdfMode m.type = some mode) (hkdf : m.kdf = some p)
    (hextra : additionalKeys p.additional = .ok extra) : m.additional = extra.map (·.tmpl) := by
  obtain ⟨prfType, dataParams, iv, additional⟩ := p
  rw [DeriveMech.additional, hmode, hkdf]
  cases additional with
  | null n =>
    cases n with
    | zero => cases hextra; rfl
    | succ n => cases hextra
  | list ks =>
    dsimp only [additionalKeys] at hextra
    split at hextra
    · cases hextra
    · cases hextra
      rfl

theorem length_cutKeys (h : Nat) (lens : List Nat) (okm : Bytes) :
    (cutKeys h lens okm).length = lens.length := by
  induction lens generalizing okm with
  | nil => rfl
  | cons len lens ih => simp [cutKeys, ih]

/-- The keys of an SP 800-108 derivation have the templates of the call. -/
theorem kbkdfPlan_templates {keys : List (Template × Bytes)} (hmode : kbkdfMode m.type = some mode)
    (h : kbkdfPlan L.toKeyEnv c tok mode m.kdf hBase arg = .ok keys) :
    keys.map (·.1) = (arg :: m.additional).map (·.attrs) := by
  obtain ⟨A, okm, -, rfl⟩ := kbkdfPlan_accepted h
  have hattrs : ∀ (args : List TemplateArg) (keys : List (Template × Nat)),
      args.mapM (kbkdfCheckTemplate c tok hBase) = .ok keys → keys.map (·.1) = args.map (·.attrs) := by
    intro args keys hkeys
    have hall := mapM_ok hkeys
    clear hkeys
    induction hall with
    | nil => rfl
    | cons hfirst _ ih =>
      rw [List.map_cons, List.map_cons, ih, kbkdfCheckTemplate_attrs hfirst]
  have hlen : (A.keys.map (·.1)).length ≤ (cutKeys A.spec.size A.lens okm).length := by
    rw [length_cutKeys, KdfAccepted.lens, List.length_map, List.length_map]
  rw [List.map_fst_zip hlen, hattrs _ _ A.hkeys,
    DeriveMech.additional_eq hmode (kdfParams_ok A.hparam) A.hextra]

theorem derive_handled {makings : List Making} (h : derivePlan L c tok m hBase arg = .ok makings) :
    List.Forall₂ Making.Fits makings (asked (.deriveKey m hBase arg)) := by
  obtain ⟨t, hgate, h⟩ := bind_ok h
  cases hmode : kbkdfMode m.type with
  | some mode =>
    rw [hmode] at h
    obtain ⟨keys, hkeys, h⟩ := bind_ok h
    have htmpl := kbkdfPlan_templates hmode hkeys
    have hasked : asked (.deriveKey m hBase arg) =
        keys.map fun k => (k.1, secretHandling) := by
      have hmap := congrArg (List.map fun t => (t, secretHandling)) htmpl
      simp only [List.map_map, Function.comp_def] at hmap
      exact hmap.symm
    rw [hasked, List.forall₂_map_right_iff]
    refine .flip ((mapM_ok h).imp fun k making hmaking => ?_)
    exact deriveMaking_handled hmaking (.inl rfl)
  | none =>
    rw [hmode] at h
    obtain ⟨⟨secret, d⟩, hsecret, h⟩ := bind_ok h
    obtain ⟨making, hmaking, h⟩ := bind_ok h
    cases h
    obtain ⟨htmpl, hhandled⟩ := deriveMaking_handled hmaking (deriveSecret_dflt hsecret)
    have hnone : m.additional = [] := by rw [DeriveMech.additional, hmode]
    rw [asked, hnone]
    simp only [deriveGate, ite_error_eq_ok, bind_eq_ok, pure_eq_ok] at hgate
    obtain ⟨-, t', ht', -, -, -, -, -, -, -, -, -, rfl⟩ := hgate
    exact .cons ⟨htmpl.trans (checkCreationTemplate_attrs ht'), hhandled⟩ .nil

/-- Every creation function handles its templates as listed. -/
theorem CreateCall.plan_handled {call : CreateCall} {makings : List Making}
    (h : call.plan L c tok = .ok makings) : List.Forall₂ Making.Fits makings call.asked := by
  have hone {plan : Except Err (Template × AddArgs × Tail)} {a : Template × Handling}
      (hplan : oneMaking plan = .ok makings)
      (hfits : ∀ t args tail, plan = .ok (t, args, tail) → Making.Fits ⟨t, args, tail⟩ a) :
      List.Forall₂ Making.Fits makings [a] := by
    cases plan with
    | error e => cases hplan
    | ok r =>
      obtain ⟨t, args, tail⟩ := r
      cases hplan
      exact .cons (hfits t args tail rfl) .nil
  cases call with
  | generateKey mech param arg => exact hone h fun _ _ _ => generateKey_handled
  | generateKeyPair mech pubArg privArg =>
    obtain ⟨⟨pub, priv⟩, hgate, h⟩ := bind_ok h
    obtain ⟨pair, hpair, h⟩ := bind_ok h
    cases h
    simp only [generatePairGate, ite_error_eq_ok, bind_eq_ok, pure_eq_ok, exists_and_right] at hgate
    obtain ⟨-, pub', hpub, -, priv', hpriv, -, -, -, -, -, -, -, -, -, hgate⟩ := hgate
    cases hgate
    have hkey := pairMaterial_keyType (mapError_ok hpair)
    exact .cons ⟨checkTemplate_attrs hpub, pairPub_handled hkey⟩
      (.cons ⟨checkTemplate_attrs hpriv, pairPriv_handled hkey⟩ .nil)
  | createObject arg => exact hone h fun _ _ _ => create_handled
  | unwrapKey m hUnwrapping wrapped arg => exact hone h fun _ _ _ => unwrap_handled
  | deriveKey m hBase arg => exact derive_handled h
  | encapsulateKey mech hPublic arg out =>
    obtain ⟨made, hplan, h⟩ := bind_ok h
    unfold encapsulatePlan at hplan
    dsimp only at hplan
    by_cases hnoLen : (!L.errorState) = true ∧ out = .noLen
    · rw [if_pos hnoLen] at hplan
      cases hplan
    rw [if_neg hnoLen] at hplan
    obtain ⟨_, -, hplan⟩ := bind_ok hplan
    obtain ⟨⟨t, o⟩, hgate, hplan⟩ := bind_ok hplan
    obtain ⟨⟨ctLen, ssLen⟩, -, hplan⟩ := bind_ok hplan
    cases out with
    | noLen => cases hplan
    | query =>
      cases hplan
      cases h
      exact .nil
    | room n =>
      simp only [ite_error_eq_ok, bind_eq_ok, pure_eq_ok] at hplan
      obtain ⟨-, -, ⟨ct, ss⟩, -, ⟨args, tail⟩, hsecret, rfl⟩ := hplan
      cases h
      exact .cons ⟨kemGate_attrs hgate, kemSecret_handled hsecret⟩ .nil
  | decapsulateKey mech hPrivate ct arg =>
    refine hone h fun t args tail hplan => ?_
    simp only [decapsulatePlan, ite_error_eq_ok, bind_eq_ok, pure_eq_ok] at hplan
    obtain ⟨⟨t', o⟩, hgate, want, -, -, ss, -, -, ⟨args', tail'⟩, hsecret, hplan⟩ := hplan
    cases hplan
    exact ⟨kemGate_attrs hgate, kemSecret_handled hsecret⟩

/-! ## Calls -/

variable {C : Crypto} {env : Envs} {s s' : Live} {call : CreateCall} {handles : List UInt32}

/-- The object under a handle has what a template asks for. -/
def KeptUnder (V : KeyView) (s : Live) (handle : UInt32) (a : Template × Handling) : Prop :=
  ∃ o, s.tok.objects.find? handle = some o ∧ o.KeepsTemplate V a.1

theorem keptUnder_iff {V : KeyView} {handle : UInt32} {a : Template × Handling} {o : Obj}
    (hfind : s.tok.objects.find? handle = some o) :
    KeptUnder V s handle a ↔ o.KeepsTemplate V a.1 := by
  constructor
  · rintro ⟨o', ho', hkeeps⟩
    rw [hfind] at ho'
    cases ho'
    exact hkeeps
  · exact fun hkeeps => ⟨o, hfind, hkeeps⟩

/-- When a call keeps what its templates ask for. The handles of the new objects have to be free,
since the steps on a new object reach it by its handle. -/
theorem CreateCall.restrictions_kept_iff (V : KeyView)
    (h : exec (call.run L C env c) s = (.ok handles, s')) (hfree : s.tok.HandlesFree handles.length) :
    List.Forall₂ (KeptUnder V s') handles call.asked ↔
      ∀ a ∈ call.asked, a.2.Keeps a.1 ∧ PolicyFits a.1 := by
  obtain ⟨makings, hplan, hmade⟩ := run_ok h
  have hfits := plan_handled hplan
  have hlen : handles.length = makings.length := by
    rw [hmade.handles_eq, Token.newHandles, List.length_iterate]
  rw [hlen] at hfree
  have hfound := hmade.found hfree
  clear hplan hmade h hlen hfree
  generalize call.asked = asked at hfits
  induction hfound generalizing asked with
  | nil =>
    cases hfits
    exact ⟨(fun _ _ ha => by cases ha), fun _ => .nil⟩
  | cons hfirst _ ih =>
    cases hfits with
    | cons hm hrest =>
      obtain ⟨o, hfind, ho⟩ := hfirst
      have hiff := ho.keepsTemplate_iff (V := V) hm.2
      rw [hm.1] at hiff
      rw [List.forall₂_cons, List.forall_mem_cons, keptUnder_iff hfind, hiff]
      exact and_congr_right' (ih _ hrest)

end

/-! ## A token -/

/-- An AES key that may not leave, with one mechanism. -/
def aesTemplate : Template :=
  [⟨ckaValueLen, .bytes (le64 16), []⟩, ⟨ckaSensitive, .bytes [1], []⟩,
    ⟨ckaExtractable, .bytes [0], []⟩, ⟨ckaAllowedMechanisms, .bytes (le64 0x1082), []⟩]

/-- A call on the token with a key, whose result and effect on handle 2 are known. -/
theorem exists_call (call : CreateCall) (p : Option Obj → Bool) (h : (tokenWithKey 0).any (fun s =>
      let r := exec (call.run .plain .plain (fun _ => .quiet) soCaller) s
      (s.tok.newHandle == 2 && (s.tok.objects.find? 2).isNone) &&
        (r.1.toOption == some [2] && p (r.2.tok.objects.find? 2))) = true) :
    ∃ s s', tokenWithKey 0 = some s ∧
      exec (call.run .plain .plain (fun _ => .quiet) soCaller) s = (.ok [2], s') ∧
      s.tok.HandlesFree 1 ∧ p (s'.tok.objects.find? 2) = true := by
  obtain ⟨s, hs, hfacts⟩ := Option.any_eq_true _ _ |>.1 h
  simp only [Bool.and_eq_true, beq_iff_eq] at hfacts
  obtain ⟨⟨hnew, hnone⟩, hrv, hp⟩ := hfacts
  rcases hrun : exec (call.run .plain .plain (fun _ => .quiet) soCaller) s with ⟨rv, s'⟩
  rw [hrun] at hrv hp
  refine ⟨s, s', hs, ?_, ?_, hp⟩
  · cases rv with
    | error e => cases hrv
    | ok handles =>
      cases hrv
      exact hrun
  · intro handle hhandle
    obtain rfl : handle = 2 := by simpa [Token.newHandles, hnew] using hhandle
    simpa using hnone

/-- A generated key has all that is asked for. -/
theorem restrictions_kept_aes : ∃ s s', tokenWithKey 0 = some s ∧
    exec (run .plain .plain (fun _ => .quiet) soCaller
      (.generateKey 0x1080 none (.list aesTemplate))) s = (.ok [2], s') ∧
    ∀ V, List.Forall₂ (KeptUnder V s') [2] [(aesTemplate, secretHandling)] := by
  obtain ⟨s, s', hs, hrun, hfree, -⟩ := exists_call
    (.generateKey 0x1080 none (.list aesTemplate)) (fun _ => true) (by decide +kernel)
  refine ⟨s, s', hs, hrun, fun V => ?_⟩
  refine (restrictions_kept_iff V hrun hfree).2 fun a ha => ?_
  rw [List.mem_singleton.1 ha]
  refine ⟨⟨fun _ => rfl, fun _ => rfl, fun _ => rfl, nofun, nofun⟩, fun a ha => ?_, fun which a ha => ?_⟩
  · obtain rfl : ⟨ckaAllowedMechanisms, .bytes (le64 0x1082), []⟩ = a := Option.some.inj ha
    exact List.all_iff_forall_prop.1 (by decide)
  · cases which <;> cases ha

/-- An ML-KEM public key that may not encapsulate. -/
def mlKemPublic : Template :=
  [⟨ckaClass, .bytes (le64 2), []⟩, ⟨ckaKeyType, .bytes (le64 0x49), []⟩,
    ⟨ckaParameterSet, .bytes (le64 2), []⟩, ⟨ckaValue, .bytes [1], []⟩,
    ⟨ckaEncapsulate, .bytes [0], []⟩]

/-- The key is created, and may encapsulate. -/
theorem created_may_encapsulate : ∃ s s', tokenWithKey 0 = some s ∧
    exec (run .plain .plain (fun _ => .quiet) soCaller
      (.createObject (.list mlKemPublic))) s = (.ok [2], s') ∧ s.tok.HandlesFree 1 ∧
    ∀ V, (∃ o, s'.tok.objects.find? 2 = some o ∧ o.report V ckaEncapsulate = .bbool true) ∧
      ¬List.Forall₂ (KeptUnder V s') [2] (asked (.createObject (.list mlKemPublic))) := by
  obtain ⟨s, s', hs, hrun, hfree, hp⟩ := exists_call (.createObject (.list mlKemPublic))
    (fun o => o.bind (·.boolReport ckaEncapsulate) == some true) (by decide +kernel)
  refine ⟨s, s', hs, hrun, hfree, fun V => ?_⟩
  simp only [beq_iff_eq, Option.bind_eq_some_iff] at hp
  obtain ⟨o, hfind, hreport⟩ := hp
  refine ⟨⟨o, hfind, o.report_of_bool hreport⟩, fun hkept => ?_⟩
  cases hkept with
  | cons hfirst hnil =>
    have hkeeps := (keptUnder_iff hfind).1 hfirst
    have hdenied := (Obj.keepsFalse_iff (t := mlKemPublic) hreport).1
      (hkeeps.whenFalse ckaEncapsulate (by simp [falseRestricts])) rfl
    cases hdenied

end FreeHsm
