import FreeHsm.Pkcs11.Copy
import FreeHsm.Token.Auth

/-!
# Faithful copies

`FaithfulCopy` says what a copy should be: it grants no more than its source, it has
the restrictions its template asks for, and it has every other stored attribute of
the source. `CopyLosesNothing` is the case in which `C_CopyObject` makes one.

A template states an attribute by its first occurrence, as everywhere in the module.
-/

namespace FreeHsm

open TokenM StateExcept Template

/-! ## Faithful copies -/

/-- What a copy of `src` under `tmpl` should be. -/
structure FaithfulCopy (src : Obj) (tmpl : Template) (copy : Obj) : Prop where
  grants : copy.GrantsNoMore src
  -- the restrictions the template asks for
  copyable_asked : tmpl.bbool? ckaCopyable = some false →
    hasBit copy.flags2 objf2NotCopyable = true
  modifiable_asked : tmpl.bbool? ckaModifiable = some false →
    hasBit copy.flags objfUnmodifiable = true
  destroyable_asked : tmpl.bbool? ckaDestroyable = some false →
    hasBit copy.flags objfUndestroyable = true
  sensitive_asked : tmpl.bbool? ckaSensitive = some true → copy.sensitive = true
  extractable_asked : tmpl.bbool? ckaExtractable = some false → copy.extractable = false
  -- the attributes the template does not name
  cls : copy.cls = src.cls
  keyType : copy.keyType = src.keyType
  value : copy.value = src.value
  label : tmpl.findAttr ckaLabel = none → cstr copy.label.toList = cstr src.label.toList
  id : tmpl.findAttr ckaId = none →
    copy.id.toList.take copy.idLen.toNat = src.id.toList.take src.idLen.toNat
  token : tmpl.findAttr ckaToken = none → (copy.ownerSession = 0 ↔ src.ownerSession = 0)
  usage : copy.usageFlags = src.usageFlags
  allowed : copy.allowed = src.allowed
  wrap : copy.wrap = src.wrap
  unwrap : copy.unwrap = src.unwrap
  derive : copy.derive = src.derive
  sensitive : tmpl.findAttr ckaSensitive = none → copy.sensitive = src.sensitive
  extractable : tmpl.findAttr ckaExtractable = none → copy.extractable = src.extractable
  modifiable : tmpl.findAttr ckaModifiable = none →
    hasBit copy.flags objfUnmodifiable = hasBit src.flags objfUnmodifiable
  destroyable : tmpl.findAttr ckaDestroyable = none →
    hasBit copy.flags objfUndestroyable = hasBit src.flags objfUndestroyable
  flags : copy.flags &&& 0xF0 = src.flags &&& 0xF0
  copyable : tmpl.findAttr ckaCopyable = none → copy.flags2 = src.flags2
  flags2 : copy.flags2 &&& ~~~objf2NotCopyable = src.flags2 &&& ~~~objf2NotCopyable
  flags3 : copy.flags3 = src.flags3
  startDate : copy.startDateBytes = src.startDateBytes
  endDate : copy.endDateBytes = src.endDateBytes
  application : copy.applicationBytes = src.applicationBytes

/-- The sources and templates `C_CopyObject` copies faithfully. -/
structure CopyLosesNothing (t : Token) (src : Obj) (tmpl : Template) : Prop where
  free : t.objects.find? t.newHandle = none
  usage : src.usageFlags = 0
  allowed : src.allowed = []
  wrap : src.wrap = []
  unwrap : src.unwrap = []
  derive : src.derive = []
  history : src.flags3 = 0 → src.sensitive = true ∧ src.extractable = false
  copyable : tmpl.bbool? ckaCopyable = some false → src.flags2 = 0
  -- a label that was read from a file may fill the field, without the NUL
  label : tmpl.findAttr ckaLabel = none → (cstr src.label.toList).length ≤ 63

theorem deniedBit_false {t : Template} {attr : UInt64} {bit : UInt8}
    (h : t.bbool? attr = some false) : deniedBit t attr bit = bit := by
  simp [deniedBit, bbool, h]

theorem deniedBit_unnamed {t : Template} {attr : UInt64} {bit : UInt8}
    (h : t.findAttr attr = none) : deniedBit t attr bit = 0 := by
  simp [deniedBit, bbool, bbool?, h]

theorem forall_type_ne {t : Template} {type : UInt64} (h : t.findAttr type = none) :
    ∀ a ∈ t, a.type ≠ type := by
  intro a ha
  simpa using List.find?_eq_none.1 h a ha

namespace CopyOf

variable {c : Caller} {tmpl : Template} {src o : Obj} {e : CopyEdit}

/-- A bit of the copy's flags comes from the loop or from the template's scope attributes. -/
theorem hasBit_flags (h : CopyOf c tmpl src e o) (m : UInt8) :
    hasBit o.flags m = (hasBit e.flags m ||
      (hasBit (deniedBit tmpl ckaModifiable objfUnmodifiable) m ||
        hasBit (deniedBit tmpl ckaDestroyable objfUndestroyable) m)) := by
  rw [h.flags, scopeBits, hasBit_or, hasBit_or]

theorem hasBit_deniedBit (attr : UInt64) (bit : UInt8) {m : UInt8} (h : hasBit bit m = false) :
    hasBit (deniedBit tmpl attr bit) m = false := by
  unfold deniedBit
  split
  · simp [hasBit]
  · exact h

variable (h : CopyOf c tmpl src e o)

include h

theorem sensitive_eq : o.sensitive = hasBit e.flags objfSensitive := by
  rw [Obj.sensitive, h.hasBit_flags, hasBit_deniedBit _ _ (by decide), hasBit_deniedBit _ _ (by decide)]
  simp

theorem extractable_eq : o.extractable = hasBit e.flags objfExtractable := by
  rw [Obj.extractable, h.hasBit_flags, hasBit_deniedBit _ _ (by decide), hasBit_deniedBit _ _ (by decide)]
  simp

section

variable (hflags : FlagsEdited tmpl src.flags e.flags)

include hflags

/-- The flags of the source that no template attribute of a copy can change. -/
theorem flags_high : o.flags &&& 0xF0 = src.flags &&& 0xF0 := by
  have hscope : scopeBits tmpl &&& 0xF0 = 0 := by
    unfold scopeBits deniedBit
    split <;> split <;> decide
  have hrest : e.flags &&& 0xF0 = src.flags &&& 0xF0 := by
    rw [show (0xF0 : UInt8) = 0xFC &&& 0xF0 by decide, ← UInt8.and_assoc, ← UInt8.and_assoc,
      hflags.rest]
  rw [h.flags, or_and_right, hscope, UInt8.or_zero, hrest]

theorem unmodifiable_eq :
    hasBit o.flags objfUnmodifiable = (hasBit src.flags objfUnmodifiable ||
      hasBit (deniedBit tmpl ckaModifiable objfUnmodifiable) objfUnmodifiable) := by
  rw [h.hasBit_flags, hasBit_congr hflags.rest (by decide),
    hasBit_deniedBit _ objfUndestroyable (by decide), Bool.or_false]

theorem undestroyable_eq :
    hasBit o.flags objfUndestroyable = (hasBit src.flags objfUndestroyable ||
      hasBit (deniedBit tmpl ckaDestroyable objfUndestroyable) objfUndestroyable) := by
  rw [h.hasBit_flags, hasBit_congr hflags.rest (by decide),
    hasBit_deniedBit _ objfUnmodifiable (by decide), Bool.false_or]

/-- With the policies of the source empty, the copy has no more rights. -/
theorem atMost {t : Token} (hcond : CopyLosesNothing t src tmpl) : o.AtMost src where
  cls := h.cls
  usage := h.usage.trans hcond.usage.symm
  allowed := h.allowed.trans hcond.allowed.symm
  wrap := h.wrap.trans hcond.wrap.symm
  unwrap := h.unwrap.trans hcond.unwrap.symm
  derive := h.derive.trans hcond.derive.symm
  flags2 := by
    intro m hm
    rw [h.flags2]
    split
    case isTrue hzero => rw [hzero] at hm; simp [hasBit] at hm
    case isFalse => exact hm
  sensitive := by rw [h.sensitive_eq]; exact hflags.sensitive_mono
  extractable := by rw [h.extractable_eq]; exact hflags.extractable_mono
  unmodifiable := by
    intro hm
    rw [h.unmodifiable_eq hflags, hm, Bool.true_or]
  undestroyable := by
    intro hm
    rw [h.undestroyable_eq hflags, hm, Bool.true_or]
  trusted := by
    intro hm
    rwa [hasBit_congr (h.flags_high hflags) (by decide)] at hm

end

/-- What the condition gives. -/
theorem faithful (hloop : tmpl.foldlM copyStep src.copyEdit = .ok e) {t : Token}
    (hcond : CopyLosesNothing t src tmpl) : FaithfulCopy src tmpl o := by
  have hedited := copyLoop_edited hloop
  have hflags : FlagsEdited tmpl src.flags e.flags := hedited.flags
  have hmost := h.atMost hflags hcond
  exact {
    grants := hmost.grantsNoMore
    copyable_asked := by
      intro hask
      rw [h.flags2, if_pos (hcond.copyable hask), deniedBit_false hask]
      decide
    modifiable_asked := by
      intro hask
      rw [h.unmodifiable_eq hflags, deniedBit_false hask]
      simp [hasBit, objfUnmodifiable]
    destroyable_asked := by
      intro hask
      rw [h.undestroyable_eq hflags, deniedBit_false hask]
      simp [hasBit, objfUndestroyable]
    sensitive_asked := by
      intro hask
      obtain ⟨a, ha, htype, hval⟩ := bboolValue_of_bbool? hask
      rw [h.sensitive_eq]
      exact hflags.sensitive_asked a ha htype hval
    extractable_asked := by
      intro hask
      obtain ⟨a, ha, htype, hval⟩ := bboolValue_of_bbool? hask
      rw [h.extractable_eq]
      exact hflags.extractable_asked a ha htype hval
    cls := h.cls
    keyType := h.keyType
    value := h.value
    label := by
      intro hnone
      have hlabel : e.label = (cstr src.label.toList).take 63 := hedited.label (forall_type_ne hnone)
      rw [h.label, hlabel, cstr_take_cstr, List.take_take, Nat.min_self,
        List.take_of_length_le (hcond.label hnone)]
    id := by
      intro hnone
      rw [h.id, hedited.id (forall_type_ne hnone)]
      rfl
    token := h.token
    usage := hmost.usage
    allowed := hmost.allowed
    wrap := hmost.wrap
    unwrap := hmost.unwrap
    derive := hmost.derive
    sensitive := by
      intro hnone
      rw [h.sensitive_eq, hflags.sensitive_unnamed (forall_type_ne hnone)]
      rfl
    extractable := by
      intro hnone
      rw [h.extractable_eq, hflags.extractable_unnamed (forall_type_ne hnone)]
      rfl
    modifiable := by
      intro hnone
      rw [h.unmodifiable_eq hflags, deniedBit_unnamed hnone]
      simp [hasBit]
    destroyable := by
      intro hnone
      rw [h.undestroyable_eq hflags, deniedBit_unnamed hnone]
      simp [hasBit]
    flags := h.flags_high hflags
    copyable := by
      intro hnone
      rw [h.flags2, deniedBit_unnamed hnone]
      split
      case isTrue hzero => exact hzero.symm
      case isFalse => rfl
    flags2 := by
      rw [h.flags2]
      split
      case isTrue hzero =>
        rw [hzero]
        unfold deniedBit
        split <;> decide
      case isFalse => rfl
    flags3 := by
      by_cases hzero : src.flags3 = 0
      · rw [hzero]
        exact (h.flags3_zero hzero).2 (hcond.history hzero)
      · exact h.flags3 hzero
    startDate := h.startDate
    endDate := h.endDate
    application := h.application }

/-- A faithful copy of an object that may be copied meets the condition. -/
theorem losesNothing (hf : FaithfulCopy src tmpl o) {t : Token}
    (hfree : t.objects.find? t.newHandle = none)
    (hcopy : hasBit src.flags2 objf2NotCopyable = false) : CopyLosesNothing t src tmpl where
  free := hfree
  usage := hf.usage.symm.trans h.usage
  allowed := hf.allowed.symm.trans h.allowed
  wrap := hf.wrap.symm.trans h.wrap
  unwrap := hf.unwrap.symm.trans h.unwrap
  derive := hf.derive.symm.trans h.derive
  history := fun hzero => (h.flags3_zero hzero).1 (hf.flags3.trans hzero)
  copyable := by
    intro hask
    have hbit := hf.copyable_asked hask
    rw [h.flags2] at hbit
    split at hbit
    case isTrue hzero => exact hzero
    case isFalse => rw [hcopy] at hbit; cases hbit
  label := by
    intro hnone
    rw [← hf.label hnone, h.label]
    exact List.length_take_le _ _

end CopyOf

/-- The new handle is free and leads to a faithful copy, exactly if the source has no usage,
    no policies and a consistent history, no `CKA_COPYABLE` is lost under its flags, and its label fits. -/
theorem copyObject_faithful_iff {C : Crypto} {env : Envs} {c : Caller} {hObject : UInt64}
    {arg : TemplateArg} {s s' : Live} {handle : UInt32}
    (h : exec (copyObject C env c hObject arg) s = (.ok handle, s')) :
    ∃ tmpl src, checkTemplate arg = .ok tmpl ∧
      s.tok.objects.find? hObject.toUInt32 = some src ∧
      ((s.tok.objects.find? handle = none ∧
          ∃ copy, s'.tok.objects.find? handle = some copy ∧ FaithfulCopy src tmpl copy) ↔
        CopyLosesNothing s.tok src tmpl) := by
  obtain ⟨tmpl, src, e, htmpl, hsrc, hcopy, hloop, rfl, hlast⟩ := copyObject_ok h
  refine ⟨tmpl, src, htmpl, hsrc, ?_, ?_⟩
  · rintro ⟨hfree, copy, hfind, hfaithful⟩
    obtain ⟨o, ho, hof⟩ := hlast hfree
    obtain rfl : o = copy := Option.some.inj (ho.find.symm.trans hfind)
    exact hof.losesNothing hfaithful hfree hcopy
  · intro hcond
    obtain ⟨o, ho, hof⟩ := hlast hcond.free
    exact ⟨hcond.free, o, ho.find, hof.faithful hloop hcond⟩

/-- A key without usage flags, copied with no template. -/
theorem copyObject_faithful_iff_plainKey :
    ∃ s s', tokenWithKey 0 = some s ∧
      exec (copyObject .plain (fun _ => .quiet) soCaller 1 (.null 0)) s = (.ok 2, s') ∧
      ∃ tmpl src, s.tok.objects.find? 1 = some src ∧ CopyLosesNothing s.tok src tmpl ∧
        ∃ copy, s'.tok.objects.find? 2 = some copy ∧ FaithfulCopy src tmpl copy := by
  have hfacts : (tokenWithKey 0).any (fun s =>
      (exec (copyObject .plain (fun _ => .quiet) soCaller 1 (.null 0)) s).1 = .ok 2 ∧
        s.tok.newHandle = 2 ∧ s.tok.objects.find? 2 = none ∧
        (s.tok.objects.find? 1).any fun src => src.usageFlags = 0 ∧ src.allowed = [] ∧
          src.wrap = [] ∧ src.unwrap = [] ∧ src.derive = [] ∧ src.flags3 ≠ 0 ∧ src.flags2 = 0 ∧
          (cstr src.label.toList).length ≤ 63) := by
    decide +kernel
  obtain ⟨s, hs, hfacts⟩ := (Option.any_eq_true _ _).1 hfacts
  obtain ⟨hok, hnew, hfree, hsrc⟩ := of_decide_eq_true hfacts
  obtain ⟨src, hfind, hsrc⟩ := (Option.any_eq_true _ _).1 hsrc
  obtain ⟨husage, hallowed, hwrap, hunwrap, hderive, hflags3, hflags2, hlabel⟩ :=
    of_decide_eq_true hsrc
  obtain ⟨s', hrun⟩ : ∃ s', exec (copyObject .plain (fun _ => .quiet) soCaller 1 (.null 0)) s =
      (.ok 2, s') := ⟨_, Prod.ext hok rfl⟩
  obtain ⟨tmpl, src', -, hfind', hiff⟩ := copyObject_faithful_iff hrun
  obtain rfl : src = src' := Option.some.inj (hfind.symm.trans hfind')
  have hcond : CopyLosesNothing s.tok src tmpl :=
    ⟨hnew ▸ hfree, husage, hallowed, hwrap, hunwrap, hderive, fun h => absurd h hflags3,
      fun _ => hflags2, fun _ => hlabel⟩
  exact ⟨s, s', hs, hrun, tmpl, src, hfind, hcond, (hiff.2 hcond).2⟩

/-- A key that may decrypt but not encrypt: its copy may encrypt. -/
theorem copyObject_drops_usage : (tokenWithKey (usageValid ||| usageDecrypt)).map (fun s =>
      let (r, s') := exec (copyObject .plain (fun _ => .quiet) soCaller 1 (.null 0)) s
      (r, (s'.tok.objects.find? 1).map (·.permits (.usage .encrypt)),
        (s'.tok.objects.find? 2).map (·.permits (.usage .encrypt)))) =
      some (.ok 2, some false, some true) := by
  decide +kernel

end FreeHsm
