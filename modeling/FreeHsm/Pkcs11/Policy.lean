import FreeHsm.ForStd.StateExcept
import FreeHsm.Pkcs11.Template
import FreeHsm.Token.Store

/-!
# What an object permits

The authority of an object is spread over three flag bytes, a usage byte, an
allow-list and three nested templates. This module has the checks of
`fhsm_pkcs11.c` that read them, first as predicates of one object and then as the
functions that look the object up by handle.

`Obj.permits` collects the predicates: a `Request` is something a caller may ask
of an object, and an object grants no more than another when it permits no request
the other refuses (`Obj.GrantsNoMore`).
-/

namespace FreeHsm

open StateExcept

/-- Eight little-endian bytes of a `CK_ULONG`. -/
def le64 (v : UInt64) : Bytes := le32 v.toUInt32 ++ le32 (v >>> 32).toUInt32

/-! ## Nested templates -/

namespace PolicyAttr

/-- The significant bytes of an entry. -/
def bytes (e : PolicyAttr) : Bytes := e.value.toList.take e.len.toNat

/-- A template states an entry: same length, same bytes. -/
def statedBy (t : Template) (e : PolicyAttr) : Bool :=
  match t.findAttr e.type.toUInt64 with
  | none => false
  | some a => a.value.len == e.len.toNat && (e.len == 0 || (!a.value.isNull && a.value.data == e.bytes))

end PolicyAttr

namespace Obj

/-- The entries of one nested template. -/
def tmpl (o : Obj) : TmplWhich → List PolicyAttr
  | .wrap => o.wrap
  | .unwrap => o.unwrap
  | .derive => o.derive

/-- `fhsm_check_nested_tmpl` on the object found. -/
def nestedAccepts (o : Obj) (which : TmplWhich) (t : Template) : Bool :=
  !hasBit o.flags2 which.presentBit || (o.tmpl which).all (·.statedBy t)

/-- `fhsm_read_obj_attr` with a buffer of `FHSM_POLICY_VALUE_MAX` bytes. -/
def readAttr (o : Obj) (type : UInt64) : Option Bytes :=
  if type = ckaClass then some (le64 o.cls.toUInt64)
  else if type = ckaKeyType then some (le64 o.keyType.toUInt64)
  else if type = ckaValueLen then some (le64 (UInt64.ofNat o.value.length))
  else if type = ckaLabel then
    if (cstr o.label.toList).length > policyValueMax then none else some (cstr o.label.toList)
  else if type = ckaId then some (o.id.toList.take o.idLen.toNat)
  else if type = ckaSensitive then some [if o.sensitive then 1 else 0]
  else if type = ckaExtractable then some [if o.extractable then 1 else 0]
  else none

/-- `fhsm_check_wrap_tmpl` on the wrapping key found; the target may be missing. -/
def wrapAccepts (o : Obj) (target : Option Obj) : Bool :=
  !hasBit o.flags2 objf2HasWrapTmpl ||
    o.wrap.all fun e => (target.bind (·.readAttr e.type.toUInt64)) == some e.bytes

/-! ## Flags -/

/-- `fhsm_token_object_mech_allowed` on the object found. -/
def mechAllowed (o : Obj) (mech : UInt32) : Bool :=
  !hasBit o.flags2 objf2HasAllowedMech || o.allowed.contains mech

/-- `fhsm_check_usage` on the object found: no usage recorded means every usage. -/
def usageAllowed (o : Obj) (bit : UInt8) : Bool :=
  !hasBit o.usageFlags usageValid || hasBit o.usageFlags bit

/-- The refusal of `wrap_key_value` by flags: `CKA_WRAP_WITH_TRUSTED` of the target, then
    `CKA_SENSITIVE` without `CKA_EXTRACTABLE`. -/
def wrappableUnder (target wrapping : Obj) : Bool :=
  (!hasBit target.flags2 objf2WrapWithTrusted || hasBit wrapping.flags objfTrusted) &&
    !(target.sensitive && !target.extractable)

end Obj

/-! ## Attribute changes -/

/-- A `CK_BBOOL` value. -/
def bboolValue (b : Buf) : Except Err Bool :=
  match b with
  | .bytes [v] => .ok (v != 0)
  | _ => .error .attributeValueInvalid

/-- The truth value a template states is that of one of its attributes. -/
theorem Template.bboolValue_of_bbool? {t : Template} {type : UInt64} {b : Bool}
    (h : t.bbool? type = some b) : ∃ a ∈ t, a.type = type ∧ bboolValue a.value = .ok b := by
  unfold Template.bbool? at h
  split at h
  case h_1 type' v nested hfind =>
    have hmem := List.mem_of_find?_eq_some hfind
    have htype := List.find?_some hfind
    simp only [beq_iff_eq] at htype
    simp only [Option.some.injEq] at h
    exact ⟨_, hmem, htype, by rw [← h]; rfl⟩
  case h_2 => cases h

/-- An attribute that may be set but not cleared: `mask` is its bit in `b`. -/
def raiseBit (b mask : UInt8) (want : Bool) : Except Err UInt8 :=
  if want = hasBit b mask then .ok b
  else if want then .ok (b ||| mask)
  else .error .attributeReadOnly

/-- An attribute that may be cleared but not set. -/
def lowerBit (b mask : UInt8) (want : Bool) : Except Err UInt8 :=
  if want = hasBit b mask then .ok b
  else if want then .error .attributeReadOnly
  else .ok (b &&& ~~~mask)

variable {b m b' b₁ : UInt8} {want : Bool}

theorem raiseBit_ok (hm : hasBit m m = true) (h : raiseBit b m want = .ok b') :
    hasBit b' m = want ∧ (hasBit b m = true → want = true) ∧ (b' = b ∨ b' = b ||| m) := by
  unfold raiseBit at h
  split at h
  case isTrue heq =>
    cases h
    exact ⟨heq.symm, fun hb => heq.trans hb, .inl rfl⟩
  case isFalse =>
    split at h
    case isTrue hwant =>
      cases h
      exact ⟨by rw [hasBit_or, hm, Bool.or_true, hwant], fun _ => hwant, .inr rfl⟩
    case isFalse => cases h

theorem lowerBit_ok (h : lowerBit b m want = .ok b') :
    hasBit b' m = want ∧ (want = true → hasBit b m = true) ∧ (b' = b ∨ b' = b &&& ~~~m) := by
  unfold lowerBit at h
  split at h
  case isTrue heq =>
    cases h
    exact ⟨heq.symm, fun hw => heq.symm.trans hw, .inl rfl⟩
  case isFalse =>
    split at h
    case isTrue => cases h
    case isFalse hwant =>
      cases h
      have hwant : want = false := by simpa using hwant
      exact ⟨by rw [hasBit_clear_self, hwant], fun hw => absurd hw (by simp [hwant]), .inr rfl⟩

theorem raiseBit_mono (h : raiseBit b m want = .ok b₁)
    (hle : hasBit b' m = true → hasBit b m = true) : ∃ b₁', raiseBit b' m want = .ok b₁' := by
  unfold raiseBit at h ⊢
  cases want with
  | true => split <;> exact ⟨_, rfl⟩
  | false =>
    have hb : hasBit b m = false := by
      cases hb : hasBit b m with
      | false => rfl
      | true => simp [hb] at h
    have hb' : hasBit b' m = false := by
      cases hb' : hasBit b' m with
      | false => rfl
      | true => rw [hle hb'] at hb; cases hb
    exact ⟨b', by rw [if_pos hb'.symm]⟩

theorem lowerBit_mono (h : lowerBit b m want = .ok b₁)
    (hle : hasBit b m = true → hasBit b' m = true) : ∃ b₁', lowerBit b' m want = .ok b₁' := by
  unfold lowerBit at h ⊢
  cases want with
  | false => split <;> exact ⟨_, rfl⟩
  | true =>
    have hb : hasBit b m = true := by
      cases hb : hasBit b m with
      | true => rfl
      | false => simp [hb] at h
    exact ⟨b', by rw [if_pos (hle hb).symm]⟩

theorem raiseBit_other {k : UInt8} (hm : hasBit m m = true) (h : raiseBit b m want = .ok b₁)
    (hk : hasBit m k = false) : hasBit b₁ k = hasBit b k := by
  obtain ⟨-, -, rfl | rfl⟩ := raiseBit_ok hm h
  · rfl
  · rw [hasBit_or, hk, Bool.or_false]

theorem lowerBit_other {k : UInt8} (h : lowerBit b m want = .ok b₁) (hk : ~~~m &&& k = k) :
    hasBit b₁ k = hasBit b k := by
  obtain ⟨-, -, rfl | rfl⟩ := lowerBit_ok h
  · rfl
  · exact hasBit_clear b hk

/-- What `C_SetAttributeValue` has computed so far. -/
structure FlagEdit where
  flags : UInt8
  flags2 : UInt8
  deriving DecidableEq

/-- One round of the validation loop of `C_SetAttributeValue`, for an object of class `cls`. -/
def setAttrStep (cls : UInt32) (s : FlagEdit) (a : Attr) : Except Err FlagEdit :=
  if a.type = ckaLabel then
    if a.value.dangling then .error .attributeValueInvalid else .ok s
  else if a.type = ckaId then
    if a.value.dangling || a.value.len > 32 then .error .attributeValueInvalid else .ok s
  else if a.type = ckaSensitive then do
    return { s with flags := ← raiseBit s.flags objfSensitive (← bboolValue a.value) }
  else if a.type = ckaWrapWithTrusted then do
    return { s with flags2 := ← raiseBit s.flags2 objf2WrapWithTrusted (← bboolValue a.value) }
  else if a.type = ckaCopyable then do
    return { s with flags2 := ← raiseBit s.flags2 objf2NotCopyable !(← bboolValue a.value) }
  else if a.type = ckaExtractable then do
    return { s with flags := ← lowerBit s.flags objfExtractable (← bboolValue a.value) }
  else if a.type = ckaStartDate ∨ a.type = ckaEndDate then
    if cls = ckoData then .error .attributeTypeInvalid
    else if a.value.dangling || !dateWellformed a.value.data then .error .attributeValueInvalid
    else .ok s
  else if a.type = ckaApplication then
    if cls ≠ ckoData then .error .attributeTypeInvalid
    else if a.value.dangling || a.value.len > 64 then .error .attributeValueInvalid
    else .ok s
  else if [ckaClass, ckaKeyType, ckaValue, ckaToken, ckaPrivate, ckaLocal, ckaAlwaysSensitive,
      ckaNeverExtractable, ckaModifiable, ckaDestroyable, ckaAlwaysAuth].contains a.type then
    .error .attributeReadOnly
  else .error .attributeTypeInvalid

/-- The refusals of `C_SetAttributeValue` that depend on the object, and the new flags. -/
def Obj.setAttrCheck (o : Obj) (t : Template) : Except Err FlagEdit :=
  if hasBit o.flags objfUnmodifiable then .error .actionProhibited
  else t.foldlM (setAttrStep o.cls) ⟨o.flags, o.flags2⟩

/-! ## Requests -/

/-- The usages `fhsm_check_usage` is called for. -/
inductive Usage
  | encrypt
  | decrypt
  | sign
  | verify
  | wrap
  | unwrap
  | derive
  deriving DecidableEq, Repr

def Usage.bit : Usage → UInt8
  | .encrypt => usageEncrypt
  | .decrypt => usageDecrypt
  | .sign => usageSign
  | .verify => usageVerify
  | .wrap => usageWrap
  | .unwrap => usageUnwrap
  | .derive => usageDerive

/-- What a caller may ask of an object. -/
inductive Request
  /-- Use it with a mechanism. -/
  | mechanism (mech : UInt32)
  | usage (u : Usage)
  | encapsulate
  | decapsulate
  /-- Wrap `target` under it. -/
  | wrap (target : Obj)
  /-- Take it out wrapped under `wrapping`, as far as its own flags decide. -/
  | wrappedUnder (wrapping : Obj)
  /-- Unwrap a key with it, or derive one from it, asking for a template. -/
  | unwrap (t : Template)
  | derive (t : Template)
  | setAttributes (t : Template)
  | copy
  | destroy

/-- The checks of the module on one object, by request. -/
def Obj.permits (o : Obj) : Request → Bool
  | .mechanism mech => o.mechAllowed mech
  | .usage u => o.usageAllowed u.bit
  | .encapsulate => !hasBit o.flags2 objf2NoEncapsulate
  | .decapsulate => !hasBit o.flags2 objf2NoDecapsulate
  | .wrap target => o.wrapAccepts (some target) && target.wrappableUnder o
  | .wrappedUnder wrapping => o.wrappableUnder wrapping
  | .unwrap t => o.nestedAccepts .unwrap t
  | .derive t => o.nestedAccepts .derive t
  | .setAttributes t => (o.setAttrCheck t).isOk
  | .copy => !hasBit o.flags2 objf2NotCopyable
  | .destroy => !hasBit o.flags objfUndestroyable

/-- Whatever `o` permits, `o'` permits. -/
def Obj.GrantsNoMore (o o' : Obj) : Prop := ∀ r, o.permits r = true → o'.permits r = true

/-! ## Objects with fewer rights -/

/-- `s` has every restriction of `s'` that a later change may not lift. -/
structure FlagEdit.AtMost (s s' : FlagEdit) : Prop where
  sensitive : hasBit s'.flags objfSensitive = true → hasBit s.flags objfSensitive = true
  extractable : hasBit s.flags objfExtractable = true → hasBit s'.flags objfExtractable = true
  wrapWithTrusted :
    hasBit s'.flags2 objf2WrapWithTrusted = true → hasBit s.flags2 objf2WrapWithTrusted = true
  notCopyable : hasBit s'.flags2 objf2NotCopyable = true → hasBit s.flags2 objf2NotCopyable = true

/-- What one attribute does: a check that does not look at the flags, or one flag bit. -/
theorem setAttrStep_cases (cls : UInt32) (a : Attr) :
    (∃ r : Except Err Unit, ∀ s, setAttrStep cls s a = r.map fun _ => s) ∨
    (∀ s, setAttrStep cls s a = do
      return { s with flags := ← raiseBit s.flags objfSensitive (← bboolValue a.value) }) ∨
    (∀ s, setAttrStep cls s a = do
      return { s with flags2 := ← raiseBit s.flags2 objf2WrapWithTrusted (← bboolValue a.value) }) ∨
    (∀ s, setAttrStep cls s a = do
      return { s with flags2 := ← raiseBit s.flags2 objf2NotCopyable !(← bboolValue a.value) }) ∨
    (∀ s, setAttrStep cls s a = do
      return { s with flags := ← lowerBit s.flags objfExtractable (← bboolValue a.value) }) := by
  unfold setAttrStep
  by_cases hsens : a.type = ckaSensitive
  · right; left; intro s
    simp +decide only [hsens, ↓reduceIte]
  by_cases hwwt : a.type = ckaWrapWithTrusted
  · right; right; left; intro s
    simp +decide only [hwwt, ↓reduceIte]
  by_cases hcopy : a.type = ckaCopyable
  · right; right; right; left; intro s
    simp +decide only [hcopy, ↓reduceIte]
  by_cases hext : a.type = ckaExtractable
  · right; right; right; right; intro s
    simp +decide only [hext, ↓reduceIte]
  -- every other attribute is a check alone, so its outcome for one state is its outcome for all
  left
  refine ⟨(setAttrStep cls ⟨0, 0⟩ a).map fun _ => (), fun s => ?_⟩
  unfold setAttrStep
  simp only [hsens, hwwt, hcopy, hext, ↓reduceIte]
  split_ifs <;> rfl

variable {s s' s₁ : FlagEdit} {cls : UInt32}

/-- One attribute accepted under more restrictions is accepted under fewer. -/
theorem setAttrStep_mono {a : Attr} (hle : s.AtMost s') (h : setAttrStep cls s a = .ok s₁) :
    ∃ s₁', setAttrStep cls s' a = .ok s₁' ∧ s₁.AtMost s₁' := by
  rcases setAttrStep_cases cls a with ⟨r, hr⟩ | hr | hr | hr | hr
  · rw [hr] at h ⊢
    cases r with
    | error e => cases h
    | ok u => cases h; exact ⟨s', rfl, hle⟩
  all_goals
    rw [hr] at h ⊢
    obtain ⟨want, hwant, h⟩ := bind_ok h
    obtain ⟨f, hf, h⟩ := bind_ok h
    cases h
    simp only [hwant, bind, Except.bind]
  · obtain ⟨f', hf'⟩ := raiseBit_mono hf hle.sensitive
    simp only [hf']
    refine ⟨_, rfl, ?_, ?_, hle.wrapWithTrusted, hle.notCopyable⟩
    · dsimp only
      rw [(raiseBit_ok (by decide) hf).1, (raiseBit_ok (by decide) hf').1]
      exact id
    · dsimp only
      rw [raiseBit_other (by decide) hf (by decide), raiseBit_other (by decide) hf' (by decide)]
      exact hle.extractable
  · obtain ⟨f', hf'⟩ := raiseBit_mono hf hle.wrapWithTrusted
    simp only [hf']
    refine ⟨_, rfl, hle.sensitive, hle.extractable, ?_, ?_⟩
    · dsimp only
      rw [(raiseBit_ok (by decide) hf).1, (raiseBit_ok (by decide) hf').1]
      exact id
    · dsimp only
      rw [raiseBit_other (by decide) hf (by decide), raiseBit_other (by decide) hf' (by decide)]
      exact hle.notCopyable
  · obtain ⟨f', hf'⟩ := raiseBit_mono hf hle.notCopyable
    simp only [hf']
    refine ⟨_, rfl, hle.sensitive, hle.extractable, ?_, ?_⟩
    · dsimp only
      rw [raiseBit_other (by decide) hf (by decide), raiseBit_other (by decide) hf' (by decide)]
      exact hle.wrapWithTrusted
    · dsimp only
      rw [(raiseBit_ok (by decide) hf).1, (raiseBit_ok (by decide) hf').1]
      exact id
  · obtain ⟨f', hf'⟩ := lowerBit_mono hf hle.extractable
    simp only [hf']
    refine ⟨_, rfl, ?_, ?_, hle.wrapWithTrusted, hle.notCopyable⟩
    · dsimp only
      rw [lowerBit_other hf (by decide), lowerBit_other hf' (by decide)]
      exact hle.sensitive
    · dsimp only
      rw [(lowerBit_ok hf).1, (lowerBit_ok hf').1]
      exact id

theorem FlagEdit.AtMost.refl (s : FlagEdit) : s.AtMost s := ⟨id, id, id, id⟩

theorem FlagEdit.AtMost.trans {s'' : FlagEdit} (h : s.AtMost s') (h' : s'.AtMost s'') :
    s.AtMost s'' where
  sensitive := h.sensitive ∘ h'.sensitive
  extractable := h'.extractable ∘ h.extractable
  wrapWithTrusted := h.wrapWithTrusted ∘ h'.wrapWithTrusted
  notCopyable := h.notCopyable ∘ h'.notCopyable

theorem setAttrStep_atMost {a : Attr} (h : setAttrStep cls s a = .ok s₁) : s₁.AtMost s := by
  rcases setAttrStep_cases cls a with ⟨r, hr⟩ | hr | hr | hr | hr
  · rw [hr] at h
    cases r with
    | error e => cases h
    | ok u => cases h; exact .refl s
  all_goals
    rw [hr] at h
    obtain ⟨want, hwant, h⟩ := bind_ok h
    obtain ⟨f, hf, h⟩ := bind_ok h
    cases h
  · obtain ⟨hself, hup, -⟩ := raiseBit_ok (by decide) hf
    refine ⟨fun hb => hself.trans (hup hb), ?_, id, id⟩
    dsimp only
    rw [raiseBit_other (by decide) hf (by decide)]
    exact id
  · obtain ⟨hself, hup, -⟩ := raiseBit_ok (by decide) hf
    refine ⟨id, id, fun hb => hself.trans (hup hb), ?_⟩
    dsimp only
    rw [raiseBit_other (by decide) hf (by decide)]
    exact id
  · obtain ⟨hself, hup, -⟩ := raiseBit_ok (by decide) hf
    refine ⟨id, id, ?_, fun hb => hself.trans (hup hb)⟩
    dsimp only
    rw [raiseBit_other (by decide) hf (by decide)]
    exact id
  · obtain ⟨hself, hdown, -⟩ := lowerBit_ok hf
    refine ⟨?_, fun hb => hdown (hself.symm.trans hb), id, id⟩
    dsimp only
    rw [lowerBit_other hf (by decide)]
    exact id

theorem setAttrLoop_mono {t : Template} (hle : s.AtMost s')
    (h : t.foldlM (setAttrStep cls) s = .ok s₁) :
    ∃ s₁', t.foldlM (setAttrStep cls) s' = .ok s₁' := by
  induction t generalizing s s' with
  | nil => exact ⟨s', rfl⟩
  | cons a t ih =>
    rw [List.foldlM_cons] at h ⊢
    obtain ⟨s₂, hstep, h⟩ := bind_ok h
    obtain ⟨s₂', hstep', hle₂⟩ := setAttrStep_mono hle hstep
    obtain ⟨s₃', hrest⟩ := ih hle₂ h
    exact ⟨s₃', by rw [hstep']; exact hrest⟩

/-- `o` has every restriction of `o'` and the same policies. -/
structure Obj.AtMost (o o' : Obj) : Prop where
  cls : o.cls = o'.cls
  usage : o.usageFlags = o'.usageFlags
  allowed : o.allowed = o'.allowed
  wrap : o.wrap = o'.wrap
  unwrap : o.unwrap = o'.unwrap
  derive : o.derive = o'.derive
  flags2 : ∀ m, hasBit o'.flags2 m = true → hasBit o.flags2 m = true
  sensitive : o'.sensitive = true → o.sensitive = true
  extractable : o.extractable = true → o'.extractable = true
  unmodifiable : hasBit o'.flags objfUnmodifiable = true → hasBit o.flags objfUnmodifiable = true
  undestroyable : hasBit o'.flags objfUndestroyable = true → hasBit o.flags objfUndestroyable = true
  trusted : hasBit o.flags objfTrusted = true → hasBit o'.flags objfTrusted = true

namespace Obj.AtMost

variable {o o' : Obj}

theorem bit_or {m : UInt8} {b : Bool} (h : o.AtMost o') (hb : (!hasBit o.flags2 m || b) = true) :
    (!hasBit o'.flags2 m || b) = true := by
  cases hbit : hasBit o'.flags2 m with
  | false => rfl
  | true => rw [h.flags2 m hbit] at hb; exact hb

theorem bit_not {m : UInt8} (h : o.AtMost o') (hb : (!hasBit o.flags2 m) = true) :
    (!hasBit o'.flags2 m) = true := by
  rw [← Bool.or_false (!_)] at hb ⊢
  exact h.bit_or hb

theorem wrappableUnder_left (h : o.AtMost o') {wrapping : Obj}
    (hw : o.wrappableUnder wrapping = true) : o'.wrappableUnder wrapping = true := by
  unfold Obj.wrappableUnder at hw ⊢
  rw [Bool.and_eq_true] at hw ⊢
  refine ⟨h.bit_or hw.1, ?_⟩
  have hs := h.sensitive
  have hx := h.extractable
  revert hs hx hw
  cases o.sensitive <;> cases o.extractable <;> cases o'.sensitive <;> cases o'.extractable <;> simp

theorem wrappableUnder_right (h : o.AtMost o') {target : Obj}
    (hw : target.wrappableUnder o = true) : target.wrappableUnder o' = true := by
  unfold Obj.wrappableUnder at hw ⊢
  rw [Bool.and_eq_true, Bool.or_eq_true] at hw ⊢
  exact ⟨hw.1.imp_right h.trusted, hw.2⟩

theorem setAttributes (h : o.AtMost o') {t : Template} (hset : (o.setAttrCheck t).isOk = true) :
    (o'.setAttrCheck t).isOk = true := by
  unfold Obj.setAttrCheck at hset ⊢
  split at hset
  case isTrue => cases hset
  case isFalse hmod =>
    rw [if_neg fun hmod' => hmod (h.unmodifiable hmod'), ← h.cls]
    cases hloop : t.foldlM (setAttrStep o.cls) ⟨o.flags, o.flags2⟩ with
    | error e => rw [hloop] at hset; cases hset
    | ok s₁ =>
      have hle : FlagEdit.AtMost ⟨o.flags, o.flags2⟩ ⟨o'.flags, o'.flags2⟩ :=
        ⟨h.sensitive, h.extractable, h.flags2 _, h.flags2 _⟩
      obtain ⟨s₁', hloop'⟩ := setAttrLoop_mono hle hloop
      rw [hloop']
      rfl

/-- Fewer rights: every request the object permits, the other permits. -/
theorem grantsNoMore (h : o.AtMost o') : o.GrantsNoMore o' := by
  intro r hr
  cases r with
  | mechanism mech =>
    replace hr : (!hasBit o.flags2 objf2HasAllowedMech || o.allowed.contains mech) = true := hr
    rw [h.allowed] at hr
    exact h.bit_or hr
  | usage u =>
    replace hr : (!hasBit o.usageFlags usageValid || hasBit o.usageFlags u.bit) = true := hr
    rw [h.usage] at hr
    exact hr
  | encapsulate => exact h.bit_not hr
  | decapsulate => exact h.bit_not hr
  | wrap target =>
    replace hr : (o.wrapAccepts (some target) && target.wrappableUnder o) = true := hr
    show (o'.wrapAccepts (some target) && target.wrappableUnder o') = true
    rw [Bool.and_eq_true] at hr ⊢
    refine ⟨?_, h.wrappableUnder_right hr.2⟩
    have haccept := hr.1
    unfold Obj.wrapAccepts at haccept ⊢
    rw [h.wrap] at haccept
    exact h.bit_or haccept
  | wrappedUnder wrapping => exact h.wrappableUnder_left hr
  | unwrap t =>
    replace hr : (!hasBit o.flags2 objf2HasUnwrapTmpl || o.unwrap.all (·.statedBy t)) = true := hr
    rw [h.unwrap] at hr
    exact h.bit_or hr
  | derive t =>
    replace hr : (!hasBit o.flags2 objf2HasDeriveTmpl || o.derive.all (·.statedBy t)) = true := hr
    rw [h.derive] at hr
    exact h.bit_or hr
  | setAttributes t => exact h.setAttributes hr
  | copy => exact h.bit_not hr
  | destroy =>
    replace hr : (!hasBit o.flags objfUndestroyable) = true := hr
    show (!hasBit o'.flags objfUndestroyable) = true
    rw [Bool.not_eq_true'] at hr ⊢
    cases hbit : hasBit o'.flags objfUndestroyable with
    | false => rfl
    | true => rw [h.undestroyable hbit] at hr; cases hr

end Obj.AtMost

/-! ## By handle -/

namespace Token

variable (t : Token)

/-- `t->objects_loaded || t->objects_public`. -/
def storeVisible : Bool := t.objectsLoaded || t.objectsPublic

/-- `fhsm_require_key`. -/
def requireKey (hKey : UInt64) : Except Err Obj :=
  match t.objectGet hKey.toUInt32 with
  | .ok o => .ok o
  | .error _ => .error .keyHandleInvalid

/-- `fhsm_check_usage`. An unknown handle passes: the lookup that follows refuses it. -/
def checkUsage (hKey : UInt64) (u : Usage) : Except Err Unit :=
  match t.objects.find? hKey.toUInt32 with
  | some o => if o.usageAllowed u.bit then .ok () else .error .keyFunctionNotPermitted
  | none => .ok ()

/-- `fhsm_check_allowed_mech`: the mechanism is compared as a 32-bit value. -/
def checkAllowedMech (hKey mech : UInt64) : Except Err Unit :=
  if !t.storeVisible then .ok ()
  else match t.objects.find? hKey.toUInt32 with
    | some o => if o.mechAllowed mech.toUInt32 then .ok () else .error .mechanismInvalid
    | none => .ok ()

/-- `fhsm_check_nested_tmpl`. -/
def checkNestedTmpl (hKey : UInt64) (which : TmplWhich) (tmpl : Template) : Except Err Unit :=
  match t.objects.find? hKey.toUInt32 with
  | some o =>
    if !t.storeVisible || o.nestedAccepts which tmpl then .ok () else .error .templateInconsistent
  | none => .ok ()

/-- `fhsm_object_access_denied`. -/
def objectAccessDenied (cls : UInt32) : Bool :=
  t.loggedIn != .user && (cls == ckoSecretKey || cls == ckoPrivateKey)

/-- `fhsm_always_sensitive`; an unknown handle reads as no flags. -/
def alwaysSensitive (handle : UInt64) : Bool :=
  match t.objects.find? handle.toUInt32 with
  | some o => o.sensitive && !hasBit o.flags3 objf3WasNotSensitive
  | none => false

/-- `fhsm_never_extractable`. -/
def neverExtractable (handle : UInt64) : Bool :=
  match t.objects.find? handle.toUInt32 with
  | some o => !o.extractable && !hasBit o.flags3 objf3WasExtractable
  | none => true

end Token

/-- `fhsm_object_lookup_rv`. -/
def objectLookupRv : Err → Err
  | .keyHandleInvalid => .objectHandleInvalid
  | e => e

end FreeHsm
