import FreeHsm.Pkcs11.Creation

/-!
# C_CopyObject

The copy is rebuilt from its source field by field: `object_add` stores class, key
type, label, value, identifier and flags, and some ten setters on the new handle
follow. The usage flags, the allowed mechanisms and the nested templates are never
carried over, and `CKA_COPYABLE` is overwritten by the second flag byte of the source.
-/

namespace FreeHsm

open TokenM StateExcept List Token

/-! ## The function -/

/-- What the template loop of `C_CopyObject` changes: `copy_label`, `copy_id`, `copy_flags`. -/
structure CopyEdit where
  label : Bytes
  id : Bytes
  flags : UInt8
  deriving DecidableEq

/-- The values the loop starts from. -/
def Obj.copyEdit (src : Obj) : CopyEdit where
  label := (cstr src.label.toList).take 63
  id := src.id.toList.take src.idLen.toNat
  flags := src.flags

/-- One round of the template loop of `C_CopyObject`. -/
def copyStep (e : CopyEdit) (a : Attr) : Except Err CopyEdit :=
  if a.type = ckaLabel then .ok { e with label := a.value.data.take 63 }
  else if a.type = ckaId then
    if a.value.len > 32 then .error .attributeValueInvalid else .ok { e with id := a.value.data }
  else if a.type = ckaSensitive then do
    return { e with flags := ← raiseBit e.flags objfSensitive (← bboolValue a.value) }
  else if a.type = ckaExtractable then do
    return { e with flags := ← lowerBit e.flags objfExtractable (← bboolValue a.value) }
  else if [ckaToken, ckaPrivate, ckaModifiable, ckaDestroyable, ckaCopyable].contains a.type then do
    let _ ← bboolValue a.value
    return e
  else if [ckaClass, ckaKeyType, ckaValue].contains a.type then .error .templateInconsistent
  else .error .attributeTypeInvalid

/-- The checks of `C_CopyObject` that come before the token is looked up. -/
def copyObjectGate (role : Role) (flags : Option UInt64) (arg : TemplateArg) :
    Except Err Template := do
  let tmpl ← checkTemplate arg
  checkTrustedAttr role tmpl
  checkRoToken flags tmpl
  return tmpl

/-- The source object, if it may be copied. -/
def Token.copySource (t : Token) (role : Role) (hObject : UInt32) : Except Err Obj :=
  if (t.objects.find? hObject).any fun o => hasBit o.flags2 objf2NotCopyable then
    .error .actionProhibited
  else if role = .none then .error .userNotLoggedIn
  else (t.objectGet hObject).mapError objectLookupRv

variable (C : Crypto)

/-- The history bits of the source, as its flags and its own history give them. -/
def Token.copyHistory (t : Token) (hObject : UInt64) : UInt8 :=
  let f3 := (t.objects.find? hObject.toUInt32).elim 0 (·.flags3)
  let f3 := if t.alwaysSensitive hObject then f3 else f3 ||| objf3WasNotSensitive
  let f3 := if t.neverExtractable hObject then f3 else f3 ||| objf3WasExtractable
  f3 &&& keyFromOutside

/-- Whether the copy is to be a token object. -/
def Token.copyIsToken (t : Token) (hObject : UInt32) (tmpl : Template) : Bool :=
  match tmpl.bbool? ckaToken with
  | some b => b
  | none => (t.objects.find? hObject).elim true (·.ownerSession == 0)

/-- `CKA_COPYABLE` of the template. -/
def copyCopyable (env : Envs) (tmpl : Template) (handle : UInt32) : TokenM Unit :=
  if tmpl.bbool ckaCopyable true then pure () else raiseFlags2 C env handle objf2NotCopyable

/-- The second flag byte of the source replaces that of the copy, unless it is zero. -/
def copyFlags2 (env : Envs) (hObject handle : UInt32) : TokenM Unit := do
  match ← find hObject with
  | some src =>
    if src.flags2 ≠ 0 then ignored (object C (env 0) (.setFlags2 handle src.flags2)) else pure ()
  | none => pure ()

/-- The same for the third. -/
def copyFlags3 (env : Envs) (hObject handle : UInt32) : TokenM Unit := do
  match ← find hObject with
  | some src =>
    if src.flags3 ≠ 0 then ignored (object C (env 0) (.setFlags3 handle src.flags3)) else pure ()
  | none => pure ()

/-- `fhsm_apply_encap_flags` on the class the copy reads back with. -/
def copyEncapFlags (env : Envs) (tmpl : Template) (handle : UInt32) : TokenM Unit := do
  match (← get).tok.objectGet handle with
  | .ok o => orDestroy C (env 1) handle (applyEncapFlags C (env.after 0) tmpl handle o.cls)
  | .error _ => pure ()

/-- The significant bytes of the dates and the application. -/
def Obj.startDateBytes (o : Obj) : Bytes := o.startDate.toList.take o.startDateLen.toNat
def Obj.endDateBytes (o : Obj) : Bytes := o.endDate.toList.take o.endDateLen.toNat
def Obj.applicationBytes (o : Obj) : Bytes := o.application.toList.take o.applicationLen.toNat

/-- The dates and the application of the source, if it has any. -/
def copyMeta (env : Envs) (hObject handle : UInt32) : TokenM Unit := do
  match ← find hObject with
  | some src =>
    if src.startDateLen ≠ 0 ∨ src.endDateLen ≠ 0 ∨ src.applicationLen ≠ 0 then
      ignored (object C (env 0) (.setMeta handle (some src.startDateBytes) (some src.endDateBytes)
        (some src.applicationBytes)))
    else pure ()
  | none => pure ()

/-- The arguments `C_CopyObject` gives to `object_add`. -/
def CopyEdit.addArgs (e : CopyEdit) (src : Obj) : AddArgs :=
  { cls := src.cls, keyType := src.keyType, label := e.label, value := src.value, id := e.id,
    flags := e.flags }

/-- What `C_CopyObject` does to the object it has added. -/
def copyRefine (env : Envs) (c : Caller) (hObject : UInt64) (tmpl : Template) (handle : UInt32) :
    TokenM Unit := do
  orDestroy C (env 2) handle
    (addKeyHistory C (env.after 1) handle ((← get).tok.copyHistory hObject))
  orDestroy C (env 4) handle (applyAllowedMechs C (env.after 3) tmpl handle)
  applyNestedTmpls C (env.after 5) tmpl handle
  scopeToSession C (env.after 11) c ((← get).tok.copyIsToken hObject.toUInt32 tmpl) handle
  raiseFlags C (env.after 12) handle (scopeBits tmpl)
  copyCopyable C (env.after 13) tmpl handle
  copyFlags2 C (env.after 14) hObject.toUInt32 handle
  copyFlags3 C (env.after 15) hObject.toUInt32 handle
  copyEncapFlags C (env.after 16) tmpl handle
  copyMeta C (env.after 18) hObject.toUInt32 handle
  orDestroy C (env 20) handle (applyObjMeta C (env.after 19) tmpl handle)

/-- `C_CopyObject` on an open session. -/
def copyObject (env : Envs) (c : Caller) (hObject : UInt64) (arg : TemplateArg) :
    TokenM UInt32 := do
  let tmpl ← check (copyObjectGate c.role (some c.flags) arg)
  let src ← check ((← get).tok.copySource c.role hObject.toUInt32)
  let e ← check (tmpl.foldlM copyStep src.copyEdit)
  let handle ← add C (env 0) (e.addArgs src)
  copyRefine C env c hObject tmpl handle
  return handle

/-! ## The template loop -/

/-- What a whole template loop can do to the flags it starts from. -/
structure FlagsEdited (tmpl : Template) (f f' : UInt8) : Prop where
  sensitive_mono : hasBit f objfSensitive = true → hasBit f' objfSensitive = true
  extractable_mono : hasBit f' objfExtractable = true → hasBit f objfExtractable = true
  sensitive_asked : ∀ a ∈ tmpl, a.type = ckaSensitive → bboolValue a.value = .ok true →
    hasBit f' objfSensitive = true
  extractable_asked : ∀ a ∈ tmpl, a.type = ckaExtractable → bboolValue a.value = .ok false →
    hasBit f' objfExtractable = false
  sensitive_unnamed : (∀ a ∈ tmpl, a.type ≠ ckaSensitive) →
    hasBit f' objfSensitive = hasBit f objfSensitive
  extractable_unnamed : (∀ a ∈ tmpl, a.type ≠ ckaExtractable) →
    hasBit f' objfExtractable = hasBit f objfExtractable
  rest : f' &&& 0xFC = f &&& 0xFC

theorem FlagsEdited.extractable_false {tmpl : Template} {f f' : UInt8} (h : FlagsEdited tmpl f f')
    (hf : hasBit f objfExtractable = false) : hasBit f' objfExtractable = false := by
  cases hbit : hasBit f' objfExtractable with
  | false => rfl
  | true => rw [h.extractable_mono hbit] at hf; cases hf

/-- The attributes a copy template may name. -/
def copyTypes : List UInt64 :=
  [ckaLabel, ckaId, ckaSensitive, ckaExtractable, ckaToken, ckaPrivate, ckaModifiable,
    ckaDestroyable, ckaCopyable]

section Loop

variable {e e' : CopyEdit} {a : Attr} {tmpl : Template}

/-- One attribute: which types are accepted, and what becomes of label, identifier and flags. -/
theorem copyStep_cases (h : copyStep e a = .ok e') :
    a.type ∈ copyTypes ∧ (a.type ≠ ckaLabel → e'.label = e.label) ∧
      (a.type ≠ ckaId → e'.id = e.id) ∧
      ((a.type ≠ ckaSensitive ∧ a.type ≠ ckaExtractable ∧ e'.flags = e.flags) ∨
       (a.type = ckaSensitive ∧
          ∃ want, bboolValue a.value = .ok want ∧ raiseBit e.flags objfSensitive want = .ok e'.flags) ∨
       (a.type = ckaExtractable ∧
          ∃ want, bboolValue a.value = .ok want ∧
            lowerBit e.flags objfExtractable want = .ok e'.flags)) := by
  unfold copyStep at h
  split at h
  case isTrue ht =>
    cases h
    exact ⟨by rw [ht]; decide, fun hne => absurd ht hne, fun _ => rfl,
      .inl ⟨by rw [ht]; decide, by rw [ht]; decide, rfl⟩⟩
  split at h
  case isTrue ht =>
    rw [ite_error_eq_ok] at h
    cases h.2
    exact ⟨by rw [ht]; decide, fun _ => rfl, fun hne => absurd ht hne,
      .inl ⟨by rw [ht]; decide, by rw [ht]; decide, rfl⟩⟩
  split at h
  case isTrue ht =>
    obtain ⟨want, hwant, h⟩ := bind_ok h
    obtain ⟨f, hf, h⟩ := bind_ok h
    cases h
    exact ⟨by rw [ht]; decide, fun _ => rfl, fun _ => rfl, .inr (.inl ⟨ht, want, hwant, hf⟩)⟩
  split at h
  case isTrue ht =>
    obtain ⟨want, hwant, h⟩ := bind_ok h
    obtain ⟨f, hf, h⟩ := bind_ok h
    cases h
    exact ⟨by rw [ht]; decide, fun _ => rfl, fun _ => rfl, .inr (.inr ⟨ht, want, hwant, hf⟩)⟩
  rename_i hsens hext
  split at h
  case isTrue ht =>
    obtain ⟨_, -, h⟩ := bind_ok h
    cases h
    refine ⟨?_, fun _ => rfl, fun _ => rfl, .inl ⟨hsens, hext, rfl⟩⟩
    simp only [contains_eq_mem, decide_eq_true_eq] at ht
    exact List.Sublist.subset (by decide) ht
  split at h <;> cases h

/-- One attribute of the loop edits the flags as a template of that attribute alone may. -/
theorem copyStep_flags (h : copyStep e a = .ok e') : FlagsEdited [a] e.flags e'.flags := by
  have hne : ckaSensitive ≠ ckaExtractable := by decide
  obtain ⟨-, -, -, ⟨hs, hx, hf⟩ | ⟨ht, want, hwant, hf⟩ | ⟨ht, want, hwant, hf⟩⟩ := copyStep_cases h
  · rw [hf]
    constructor <;> simp_all
  · obtain ⟨hbit, hmono, hf⟩ := raiseBit_ok (by decide) hf
    have hx : hasBit e'.flags objfExtractable = hasBit e.flags objfExtractable := by
      rcases hf with hf | hf
      · rw [hf]
      · rw [hf, hasBit_or, show hasBit objfSensitive objfExtractable = false by decide,
          Bool.or_false]
    have hrest : e'.flags &&& 0xFC = e.flags &&& 0xFC := by
      rcases hf with hf | hf
      · rw [hf]
      · rw [hf, or_and_right, show objfSensitive &&& 0xFC = 0 by decide, UInt8.or_zero]
    constructor <;> simp_all
  · obtain ⟨hbit, hmono, hf⟩ := lowerBit_ok hf
    have hs : hasBit e'.flags objfSensitive = hasBit e.flags objfSensitive := by
      rcases hf with hf | hf
      · rw [hf]
      · rw [hf, hasBit_clear _ (by decide)]
    have hrest : e'.flags &&& 0xFC = e.flags &&& 0xFC := by
      rcases hf with hf | hf
      · rw [hf]
      · rw [hf, UInt8.and_assoc, show ~~~objfExtractable &&& 0xFC = 0xFC by decide]
    have hne := hne.symm
    constructor <;> simp_all

theorem FlagsEdited.cons {f f₁ f' : UInt8} (h : FlagsEdited [a] f f₁)
    (ht : FlagsEdited tmpl f₁ f') : FlagsEdited (a :: tmpl) f f' where
  sensitive_mono := fun hs => ht.sensitive_mono (h.sensitive_mono hs)
  extractable_mono := fun hx => h.extractable_mono (ht.extractable_mono hx)
  sensitive_asked := by
    intro b hb htype hval
    rcases mem_cons.1 hb with rfl | hb
    · exact ht.sensitive_mono (h.sensitive_asked b mem_cons_self htype hval)
    · exact ht.sensitive_asked b hb htype hval
  extractable_asked := by
    intro b hb htype hval
    rcases mem_cons.1 hb with rfl | hb
    · exact ht.extractable_false (h.extractable_asked b mem_cons_self htype hval)
    · exact ht.extractable_asked b hb htype hval
  sensitive_unnamed := by
    intro hnot
    rw [ht.sensitive_unnamed fun b hb => hnot b (mem_cons_of_mem _ hb),
      h.sensitive_unnamed (by simpa using hnot a mem_cons_self)]
  extractable_unnamed := by
    intro hnot
    rw [ht.extractable_unnamed fun b hb => hnot b (mem_cons_of_mem _ hb),
      h.extractable_unnamed (by simpa using hnot a mem_cons_self)]
  rest := ht.rest.trans h.rest

/-- The whole loop. -/
structure LoopEdited (tmpl : Template) (e e' : CopyEdit) : Prop where
  flags : FlagsEdited tmpl e.flags e'.flags
  types : ∀ a ∈ tmpl, a.type ∈ copyTypes
  label : (∀ a ∈ tmpl, a.type ≠ ckaLabel) → e'.label = e.label
  id : (∀ a ∈ tmpl, a.type ≠ ckaId) → e'.id = e.id

theorem copyLoop_edited (h : tmpl.foldlM copyStep e = .ok e') : LoopEdited tmpl e e' := by
  induction tmpl generalizing e with
  | nil =>
    cases h
    exact ⟨by constructor <;> simp, by simp, fun _ => rfl, fun _ => rfl⟩
  | cons a tmpl ih =>
    rw [foldlM_cons] at h
    obtain ⟨e₁, hstep, h⟩ := bind_ok h
    obtain ⟨htype, hlabel, hid, -⟩ := copyStep_cases hstep
    have hrest := ih h
    refine ⟨(copyStep_flags hstep).cons hrest.flags, forall_mem_cons.2 ⟨htype, hrest.types⟩, ?_, ?_⟩
    · intro hnot
      rw [forall_mem_cons] at hnot
      rw [hrest.label hnot.2, hlabel hnot.1]
    · intro hnot
      rw [forall_mem_cons] at hnot
      rw [hrest.id hnot.2, hid hnot.1]

theorem copyLoop_findAttr (h : tmpl.foldlM copyStep e = .ok e') {type : UInt64}
    (htype : type ∉ copyTypes) : tmpl.findAttr type = none := by
  unfold Template.findAttr
  rw [find?_eq_none]
  intro a ha heq
  have hmem := (copyLoop_edited h).types a ha
  rw [beq_iff_eq.1 heq] at hmem
  exact htype hmem

end Loop

/-! ## What an accepted copy leaves -/

namespace ObjAt

variable {C} {env : Envs} {base : List Obj} {hObject handle : UInt32} {o src : Obj} {s s' : Live}

section

variable (h : LastObj base handle o s)

include h

theorem copyCopyable {tmpl : Template}
    (hrun : exec (copyCopyable C env tmpl handle) s = (.ok (), s')) :
    LastObj base handle
      { o with flags2 := o.flags2 ||| deniedBit tmpl ckaCopyable objf2NotCopyable } s' := by
  unfold FreeHsm.copyCopyable at hrun
  unfold deniedBit
  cases hask : tmpl.bbool ckaCopyable true with
  | true =>
    rw [hask, if_pos rfl] at hrun
    cases hrun
    simpa using h
  | false =>
    rw [hask, if_neg (by decide)] at hrun
    exact h.raiseFlags2 hrun

theorem copyFlags2 (hsrc : base.find? (·.handle == hObject) = some src)
    (hrun : exec (copyFlags2 C env hObject handle) s = (.ok (), s')) :
    LastObj base handle
      { o with flags2 := if src.flags2 = 0 then o.flags2 else src.flags2 } s' := by
  unfold FreeHsm.copyFlags2 at hrun
  rw [exec_bind, exec_find, h.find_base hsrc] at hrun
  by_cases hzero : src.flags2 = 0
  all_goals
    simp only [hzero, ne_eq, not_true_eq_false, not_false_eq_true, ↓reduceIte, exec_ignored] at hrun ⊢
    cases hrun
  · exact h
  · exact h.setFlags2 _

theorem copyFlags3 (hsrc : base.find? (·.handle == hObject) = some src)
    (hrun : exec (copyFlags3 C env hObject handle) s = (.ok (), s')) :
    LastObj base handle
      { o with flags3 := if src.flags3 = 0 then o.flags3 else src.flags3 } s' := by
  unfold FreeHsm.copyFlags3 at hrun
  rw [exec_bind, exec_find, h.find_base hsrc] at hrun
  by_cases hzero : src.flags3 = 0
  all_goals
    simp only [hzero, ne_eq, not_true_eq_false, not_false_eq_true, ↓reduceIte, exec_ignored] at hrun ⊢
    cases hrun
  · exact h
  · exact h.setFlags3 _

theorem copyMeta (hsrc : base.find? (·.handle == hObject) = some src)
    (hnone : o.startDateLen = 0 ∧ o.endDateLen = 0 ∧ o.applicationLen = 0)
    (hrun : exec (copyMeta C env hObject handle) s = (.ok (), s')) :
    ∃ o', LastObj base handle o' s' ∧ (o' = o ∨ ∃ a b c h, o' = o.setMeta a b c h) ∧
      o'.startDateBytes = src.startDateBytes ∧ o'.endDateBytes = src.endDateBytes ∧
      o'.applicationBytes = src.applicationBytes := by
  unfold FreeHsm.copyMeta at hrun
  rw [exec_bind, exec_find, h.find_base hsrc] at hrun
  by_cases hany : src.startDateLen ≠ 0 ∨ src.endDateLen ≠ 0 ∨ src.applicationLen ≠ 0
  · simp only [if_pos hany, exec_ignored] at hrun
    cases hrun
    have hs : src.startDateBytes.length ≤ 8 := by simp [Obj.startDateBytes]
    have he : src.endDateBytes.length ≤ 8 := by simp [Obj.endDateBytes]
    have ha : src.applicationBytes.length ≤ 64 := by simp [Obj.applicationBytes]
    refine ⟨o.setMeta (some src.startDateBytes) (some src.endDateBytes)
      (some src.applicationBytes) ⟨hs, he, ha⟩, ?_, .inr ⟨_, _, _, _, rfl⟩, ?_, ?_, ?_⟩
    · rw [exec_object]
      simp only [Token.object, Token.setMeta, Option.getD_some, hs, he, ha, and_self, ↓reduceDIte]
      exact h.update rfl rfl
    · exact take_overlay_ofNat _ hs (by omega)
    · exact take_overlay_ofNat _ he (by omega)
    · exact take_overlay_ofNat _ ha (by omega)
  · simp only [if_neg hany] at hrun
    cases hrun
    simp only [ne_eq, not_or, not_not] at hany
    refine ⟨o, h, .inl rfl, ?_, ?_, ?_⟩
    · simp [Obj.startDateBytes, hnone, hany]
    · simp [Obj.endDateBytes, hnone, hany]
    · simp [Obj.applicationBytes, hnone, hany]

end

end ObjAt

/-- The object an accepted copy leaves, field by field. -/
structure CopyOf (c : Caller) (tmpl : Template) (src : Obj) (e : CopyEdit) (o : Obj) : Prop where
  cls : o.cls = src.cls
  keyType : o.keyType = src.keyType
  value : o.value = src.value
  label : cstr o.label.toList = (cstr e.label).take 63
  id : o.id.toList.take o.idLen.toNat = e.id
  token : tmpl.findAttr ckaToken = none → (o.ownerSession = 0 ↔ src.ownerSession = 0)
  flags : o.flags = e.flags ||| scopeBits tmpl
  flags2 : o.flags2 =
    if src.flags2 = 0 then deniedBit tmpl ckaCopyable objf2NotCopyable else src.flags2
  flags3 : src.flags3 ≠ 0 → o.flags3 = src.flags3
  flags3_zero : src.flags3 = 0 → (o.flags3 = 0 ↔ src.sensitive = true ∧ src.extractable = false)
  usage : o.usageFlags = 0
  allowed : o.allowed = []
  wrap : o.wrap = []
  unwrap : o.unwrap = []
  derive : o.derive = []
  startDate : o.startDateBytes = src.startDateBytes
  endDate : o.endDateBytes = src.endDateBytes
  application : o.applicationBytes = src.applicationBytes

section Ok

variable {C} {env : Envs} {c : Caller} {hObject : UInt64} {arg : TemplateArg} {tmpl : Template}
  {src : Obj} {e : CopyEdit} {s s' : Live} {handle : UInt32}

theorem copySource_ok {t : Token} {hObject : UInt32} (h : t.copySource c.role hObject = .ok src) :
    t.objects.find? hObject = some src ∧ hasBit src.flags2 objf2NotCopyable = false := by
  unfold copySource at h
  split at h
  case isTrue => cases h
  case isFalse hcopy =>
    split at h
    case isTrue => cases h
    case isFalse =>
      unfold objectGet at h
      split at h
      · cases h
      cases hfind : t.objects.find? hObject with
      | none => simp [hfind, Except.mapError] at h
      | some o =>
        simp only [hfind, Except.mapError, Except.ok.injEq, Option.any_some] at h hcopy
        subst h
        exact ⟨rfl, by simpa using hcopy⟩

theorem exec_copyEncapFlags_none (s : Live) (hloop : tmpl.foldlM copyStep src.copyEdit = .ok e) :
    exec (copyEncapFlags C env tmpl handle) s = (.ok (), s) := by
  have hencap := copyLoop_findAttr hloop (show ckaEncapsulate ∉ copyTypes by decide)
  have hdecap := copyLoop_findAttr hloop (show ckaDecapsulate ∉ copyTypes by decide)
  unfold copyEncapFlags
  rw [exec_bind, exec_get]
  simp only [applyEncapFlags_none hencap hdecap]
  cases s.tok.objectGet handle <;> rfl

theorem copied_flags3_eq_zero (t : Token) {t₁ : Token}
    (hvalue : (e.addArgs src).value.length ≤ objValueMax) (hid : (e.addArgs src).id.length ≤ 32)
    (hsrc : t₁.objects.find? hObject.toUInt32 = some src) (hzero : src.flags3 = 0)
    (hloop : tmpl.foldlM copyStep src.copyEdit = .ok e) :
    (t.newObject (e.addArgs src) hvalue hid).flags3 ||| t₁.copyHistory hObject = 0 ↔
      src.sensitive = true ∧ src.extractable = false := by
  have hflags := (copyLoop_edited hloop).flags
  have hhistory : t₁.copyHistory hObject = 0 ↔ src.sensitive = true ∧ src.extractable = false := by
    simp only [copyHistory, alwaysSensitive, neverExtractable, hsrc, hzero, Option.elim_some]
    cases src.sensitive <;> cases src.extractable <;> decide
  rw [UInt8.or_eq_zero_iff, hhistory]
  constructor
  · exact fun h => h.2
  · rintro ⟨hs, hx⟩
    have hs' : hasBit e.flags objfSensitive = true := hflags.sensitive_mono hs
    have hx' : hasBit e.flags objfExtractable = false := hflags.extractable_false hx
    refine ⟨?_, hs, hx⟩
    simp [newObject, CopyEdit.addArgs, hs', hx']

theorem copyRefine_ok {t : Token} {base : List Obj}
    {hvalue : (e.addArgs src).value.length ≤ objValueMax} {hid : (e.addArgs src).id.length ≤ 32}
    (h : LastObj base handle (t.newObject (e.addArgs src) hvalue hid) s)
    (hsrc : base.find? (·.handle == hObject.toUInt32) = some src)
    (hloop : tmpl.foldlM copyStep src.copyEdit = .ok e)
    (hrun : exec (copyRefine C env c hObject tmpl handle) s = (.ok (), s')) :
    ∃ o', LastObj base handle o' s' ∧ CopyOf c tmpl src e o' := by
  have hmechs := copyLoop_findAttr hloop (show ckaAllowedMechanisms ∉ copyTypes by decide)
  have hnested : ∀ which : TmplWhich, tmpl.findAttr which.attr = none := fun which =>
    copyLoop_findAttr hloop (by cases which <;> decide)
  have hstart := copyLoop_findAttr hloop (show ckaStartDate ∉ copyTypes by decide)
  have hfinish := copyLoop_findAttr hloop (show ckaEndDate ∉ copyTypes by decide)
  have happ := copyLoop_findAttr hloop (show ckaApplication ∉ copyTypes by decide)
  unfold copyRefine at hrun
  simp only [applyAllowedMechs_none hmechs, applyObjMeta_none hstart hfinish happ] at hrun
  rw [exec_bind_of_ok (exec_get s)] at hrun
  obtain ⟨⟨⟩, s₁, hstep, hrun⟩ := exec_bind_ok.1 hrun
  have h₁ := h.addKeyHistory (exec_orDestroy_ok hstep)
  -- the template names neither mechanisms nor nested templates
  rw [exec_bind_of_ok (exec_orDestroy_pure ..), exec_bind_of_ok (exec_applyNestedTmpls_none _ hnested),
    exec_bind_of_ok (exec_get s₁)] at hrun
  obtain ⟨⟨⟩, s₂, hstep, hrun⟩ := exec_bind_ok.1 hrun
  have h₂ := h₁.scopeToSession hstep
  obtain ⟨⟨⟩, s₃, hstep, hrun⟩ := exec_bind_ok.1 hrun
  have h₃ := h₂.raiseFlags ?secure hstep
  obtain ⟨⟨⟩, s₄, hstep, hrun⟩ := exec_bind_ok.1 hrun
  have h₄ := h₃.copyCopyable hstep
  obtain ⟨⟨⟩, s₅, hstep, hrun⟩ := exec_bind_ok.1 hrun
  have h₅ := h₄.copyFlags2 hsrc hstep
  obtain ⟨⟨⟩, s₆, hstep, hrun⟩ := exec_bind_ok.1 hrun
  have h₆ := h₅.copyFlags3 hsrc hstep
  rw [exec_bind_of_ok (exec_copyEncapFlags_none _ hloop)] at hrun
  obtain ⟨⟨⟩, s₇, hstep, hrun⟩ := exec_bind_ok.1 hrun
  obtain ⟨o', h₇, ho', hsd, hed, hap⟩ := h₆.copyMeta hsrc ⟨rfl, rfl, rfl⟩ hstep
  cases hrun
  case secure =>
    intro hs
    have hscope : hasBit (scopeBits tmpl) objfSensitive = false := by
      unfold scopeBits deniedBit
      split <;> split <;> decide
    replace hs : hasBit (e.flags ||| scopeBits tmpl) objfSensitive = true := hs
    rw [hasBit_or, hscope, Bool.or_false] at hs
    by_cases hnil : src.value = []
    · exact .inr hnil
    · left
      show (hasBit e.flags objfSensitive && src.value.length != 0) = true
      simp [hs, hnil]
  refine ⟨o', h₇, ?_⟩
  have hzero : src.flags3 = 0 → (o'.flags3 = 0 ↔ src.sensitive = true ∧ src.extractable = false) := by
    intro hzero
    rw [← copied_flags3_eq_zero t hvalue hid (h.find_base hsrc) hzero hloop]
    obtain rfl | ⟨a, b, c, hm, rfl⟩ := ho' <;> simp [hzero, Obj.setMeta]
  have hident : (overlay Obj.zero.id e.id).toList.take (UInt32.ofNat e.id.length).toNat = e.id := by
    replace hid : e.id.length ≤ 32 := hid
    rw [UInt32.toNat_ofNat', Nat.mod_eq_of_lt (by omega)]
    exact take_overlay _ hid
  have htoken : tmpl.findAttr ckaToken = none →
      ((if s₁.tok.copyIsToken hObject.toUInt32 tmpl then 0 else c.handle.toUInt32) = 0 ↔
        src.ownerSession = 0) := by
    intro hnone
    have hbbool : tmpl.bbool? ckaToken = none := by rw [Template.bbool?, hnone]
    rw [copyIsToken, hbbool, h₁.find_base hsrc]
    simp only [Option.elim_some, beq_iff_eq, ite_eq_left_iff, c.handle_ne_zero]
    tauto
  obtain rfl | ⟨a, b, d, hm, rfl⟩ := ho'
  all_goals exact {
    cls := rfl, keyType := rfl, value := rfl, flags := rfl
    label := cstr_snprintfInto _ _
    id := hident
    token := htoken
    flags2 := by
      show (if src.flags2 = 0 then 0 ||| deniedBit _ _ _ else src.flags2) = _
      rw [UInt8.zero_or]
    flags3 := fun hne => if_neg hne
    flags3_zero := hzero
    usage := rfl, allowed := rfl, wrap := rfl, unwrap := rfl, derive := rfl
    startDate := hsd, endDate := hed, application := hap }

/-- What an accepted copy was asked for, and what it leaves if the new handle was free. -/
theorem copyObject_ok (h : exec (copyObject C env c hObject arg) s = (.ok handle, s')) :
    ∃ tmpl src e, checkTemplate arg = .ok tmpl ∧
      s.tok.objects.find? hObject.toUInt32 = some src ∧
      hasBit src.flags2 objf2NotCopyable = false ∧
      tmpl.foldlM copyStep src.copyEdit = .ok e ∧ handle = s.tok.newHandle ∧
      (s.tok.objects.find? s.tok.newHandle = none →
        ∃ o, LastObj s.tok.objects.objs handle o s' ∧ CopyOf c tmpl src e o) := by
  unfold copyObject at h
  obtain ⟨tmpl, hgate, h⟩ := exec_check_bind_ok h
  obtain ⟨tmpl', htmpl, hgate⟩ := bind_ok hgate
  obtain ⟨_, -, hgate⟩ := bind_ok hgate
  obtain ⟨_, -, hgate⟩ := bind_ok hgate
  cases hgate
  rw [exec_bind_of_ok (exec_get s)] at h
  obtain ⟨src, hsrc, h⟩ := exec_check_bind_ok h
  obtain ⟨hfind, hcopy⟩ := copySource_ok hsrc
  obtain ⟨e, hloop, h⟩ := exec_check_bind_ok h
  rw [exec_bind_ok] at h
  obtain ⟨handle', s₁, hadd, h⟩ := h
  rw [exec_bind_ok] at h
  obtain ⟨⟨⟩, s₂, hrefine, h⟩ := h
  cases h
  obtain ⟨-, -, hhandle, -⟩ := exec_add_ok hadd
  refine ⟨tmpl, src, e, htmpl, hfind, hcopy, hloop, hhandle, ?_⟩
  intro hfree
  obtain ⟨hvalue, hid, hlast⟩ := LastObj.of_add hadd hfree
  exact copyRefine_ok hlast hfind hloop hrefine

end Ok

end FreeHsm
