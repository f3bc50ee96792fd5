import FreeHsm.Pkcs11.Creation

/-!
# The object a creation leaves

The steps on a new object, each with what it makes of the object. The steps write to the
token file and may fail; when none reports a failure, the object in memory is `Refined`.
-/

namespace FreeHsm

open TokenM StateExcept

/-! ## What the steps do -/

/-- The mechanisms of `CKA_ALLOWED_MECHANISMS`, as they are stored. -/
def Attr.mechanisms (a : Attr) : List UInt32 :=
  (List.range (a.value.len / ckUlongSize)).map fun k =>
    (u64At a.value.data (ckUlongSize * k)).toUInt32

/-- The entries of an array attribute. -/
def Attr.entries (a : Attr) : List NestedAttr := a.nested.take (a.value.len / ckAttributeSize)

/-- The entries of a nested template, as they are stored. -/
def storedEntries (which : TmplWhich) (a : Attr) : Except Err (List PolicyAttr) := do
  (← a.entries.mapM (nestedEntry which)).mapM RawPolicyAttr.check

namespace Obj

/-- The bit of `fhsm_apply_encap_flags`. -/
def encapBit (t : Template) (cls : UInt32) : UInt8 :=
  if t.bbool? (if cls = ckoPublicKey then ckaEncapsulate else ckaDecapsulate) = some false then
    if cls = ckoPublicKey then objf2NoEncapsulate else objf2NoDecapsulate
  else 0

/-- The bit of `fhsm_apply_ed_curve_name`. -/
def edNameBit (t : Template) : UInt8 := if t.edCurveNamed then objf3EdCurveName else 0

def withScope (o : Obj) (c : Caller) (t : Template) : Obj :=
  { o with
    ownerSession := if t.bbool ckaToken false then o.ownerSession else c.handle.toUInt32
    flags := o.flags ||| scopeBits t
    flags2 := o.flags2 ||| scopeBits2 t }

end Obj

/-- The bits of `fhsm_apply_encap_flags`, if a tail calls it. -/
def Tail.encapBits (tail : Tail) (t : Template) : UInt8 :=
  if tail.encap.isSome then Obj.encapBit t (tail.encap.getD 0) else 0

/-- The bit of `fhsm_apply_ed_curve_name`, if a tail calls it. -/
def Tail.edNameBits (tail : Tail) : UInt8 :=
  if tail.edName.isSome then Obj.edNameBit (tail.edName.getD []) else 0

/-- A presence bit, if the template has the attribute. -/
def presentBit (t : Template) (attr : UInt64) (bit : UInt8) : UInt8 :=
  if (t.findAttr attr).isSome then bit else 0

/-- The presence bits of the policies of a template. -/
def policyBits (t : Template) : UInt8 :=
  presentBit t ckaAllowedMechanisms objf2HasAllowedMech |||
    presentBit t ckaUnwrapTemplate objf2HasUnwrapTmpl |||
    presentBit t ckaDeriveTemplate objf2HasDeriveTmpl |||
    presentBit t ckaWrapTemplate objf2HasWrapTmpl

/-- Two objects that differ in policies, second flag byte, dates and application at most. -/
structure Obj.SameKey (o o' : Obj) : Prop where
  handle : o'.handle = o.handle
  cls : o'.cls = o.cls
  keyType : o'.keyType = o.keyType
  label : o'.label = o.label
  value : o'.value = o.value
  valueSecure : o'.valueSecure = o.valueSecure
  id : o'.id = o.id
  idLen : o'.idLen = o.idLen
  flags : o'.flags = o.flags
  flags3 : o'.flags3 = o.flags3
  ownerSession : o'.ownerSession = o.ownerSession

namespace Obj

variable {t : Template} {o o' o₁ o₂ o₃ o₄ : Obj}

theorem SameKey.refl (o : Obj) : o.SameKey o := ⟨rfl, rfl, rfl, rfl, rfl, rfl, rfl, rfl, rfl, rfl, rfl⟩

theorem SameKey.trans (h : o.SameKey o₁) (h' : o₁.SameKey o₂) : o.SameKey o₂ where
  handle := h'.handle.trans h.handle
  cls := h'.cls.trans h.cls
  keyType := h'.keyType.trans h.keyType
  label := h'.label.trans h.label
  value := h'.value.trans h.value
  valueSecure := h'.valueSecure.trans h.valueSecure
  id := h'.id.trans h.id
  idLen := h'.idLen.trans h.idLen
  flags := h'.flags.trans h.flags
  flags3 := h'.flags3.trans h.flags3
  ownerSession := h'.ownerSession.trans h.ownerSession

/-- The allowed mechanisms of a template are stored. -/
structure AllowedSet (t : Template) (o o' : Obj) : Prop extends SameKey o o' where
  flags2 : o'.flags2 = o.flags2 ||| presentBit t ckaAllowedMechanisms objf2HasAllowedMech
  allowed : ∀ a, t.findAttr ckaAllowedMechanisms = some a → o'.allowed = a.mechanisms

/-- A nested template is stored. -/
structure NestedSet (t : Template) (which : TmplWhich) (o o' : Obj) : Prop
    extends SameKey o o' where
  flags2 : o'.flags2 = o.flags2 ||| presentBit t which.attr which.presentBit
  allowed : o'.allowed = o.allowed
  self : ∀ a, t.findAttr which.attr = some a → storedEntries which a = .ok (o'.tmpl which)
  other : ∀ w, w ≠ which → o'.tmpl w = o.tmpl w

/-- The allowed mechanisms and the three nested templates are stored. -/
structure PolicySet (t : Template) (o o' : Obj) : Prop extends SameKey o o' where
  flags2 : o'.flags2 = o.flags2 ||| policyBits t
  allowed : ∀ a, t.findAttr ckaAllowedMechanisms = some a → o'.allowed = a.mechanisms
  nested : ∀ which a, t.findAttr (TmplWhich.attr which) = some a →
    storedEntries which a = .ok (o'.tmpl which)

/-- Dates and application are a matter of their own. -/
structure MetaSet (o o' : Obj) : Prop extends SameKey o o' where
  flags2 : o'.flags2 = o.flags2
  allowed : o'.allowed = o.allowed
  tmpl : ∀ which, o'.tmpl which = o.tmpl which

theorem PolicySet.of (h : AllowedSet t o o₁) (h₁ : NestedSet t .unwrap o₁ o₂)
    (h₂ : NestedSet t .derive o₂ o₃) (h₃ : NestedSet t .wrap o₃ o₄) : PolicySet t o o₄ where
  toSameKey := ((h.toSameKey.trans h₁.toSameKey).trans h₂.toSameKey).trans h₃.toSameKey
  flags2 := by
    rw [h₃.flags2, h₂.flags2, h₁.flags2, h.flags2]
    simp only [policyBits, TmplWhich.attr, TmplWhich.presentBit, UInt8.or_assoc]
  allowed a ha := by rw [h₃.allowed, h₂.allowed, h₁.allowed, h.allowed a ha]
  nested which a ha := by
    cases which with
    | wrap => exact h₃.self a ha
    | derive => rw [h₃.other _ (by decide), h₂.self a ha]
    | unwrap => rw [h₃.other _ (by decide), h₂.other _ (by decide), h₁.self a ha]

/-- The flags and the rest of a refined object. -/
structure Refined (o : Obj) (c : Caller) (t : Template) (tail : Tail) (o' : Obj) : Prop where
  handle : o'.handle = o.handle
  cls : o'.cls = o.cls
  keyType : o'.keyType = o.keyType
  label : o'.label = o.label
  value : o'.value = o.value
  id : o'.id = o.id
  idLen : o'.idLen = o.idLen
  ownerSession : o'.ownerSession =
    if t.bbool ckaToken false then o.ownerSession else c.handle.toUInt32
  flags : o'.flags = o.flags ||| scopeBits t
  flags2 : o'.flags2 = o.flags2 ||| policyBits t ||| tail.encapBits t ||| scopeBits2 t
  flags3 : o'.flags3 = o.flags3 ||| tail.history ||| tail.edNameBits
  usageFlags : o'.usageFlags = tail.usage
  allowed : ∀ a, t.findAttr ckaAllowedMechanisms = some a → o'.allowed = a.mechanisms
  nested : ∀ which a, t.findAttr (TmplWhich.attr which) = some a →
    storedEntries which a = .ok (o'.tmpl which)

/-- The steps put together. -/
theorem Refined.of {c : Caller} {tail : Tail}
    (ho : o₁ = { o with flags3 := o.flags3 ||| tail.history }) (hp : PolicySet t o₁ o₂)
    (hm : MetaSet (Obj.withScope { o₂ with
      flags2 := o₂.flags2 ||| tail.encapBits t
      flags3 := o₂.flags3 ||| tail.edNameBits } c t) o₃) :
    Refined o c t tail { o₃ with usageFlags := tail.usage } := by
  subst ho
  exact {
    handle := hm.handle.trans hp.handle
    cls := hm.cls.trans hp.cls
    keyType := hm.keyType.trans hp.keyType
    label := hm.label.trans hp.label
    value := hm.value.trans hp.value
    id := hm.id.trans hp.id
    idLen := hm.idLen.trans hp.idLen
    ownerSession := by
      refine hm.ownerSession.trans ?_
      dsimp only [withScope]
      rw [hp.ownerSession]
    flags := hm.flags.trans (congrArg (· ||| scopeBits t) hp.flags)
    flags2 := hm.flags2.trans (congrArg (· ||| tail.encapBits t ||| scopeBits2 t) hp.flags2)
    flags3 := hm.flags3.trans (congrArg (· ||| tail.edNameBits) hp.flags3)
    usageFlags := rfl
    allowed := fun a ha => hm.allowed.trans (hp.allowed a ha)
    nested := fun which a ha => (hp.nested which a ha).trans
      (congrArg Except.ok (hm.tmpl which).symm) }

end Obj

/-! ## The steps -/

/-- A sensitive value is on the secure heap. -/
def Obj.Settled (o : Obj) : Prop :=
  hasBit o.flags objfSensitive = true → o.valueSecure = true ∨ o.value = []

theorem Obj.SameKey.settled {o o' : Obj} (h : o.SameKey o') (ho : o.Settled) (f2 f3 : UInt8) :
    Obj.Settled { o' with flags2 := f2, flags3 := f3 } := by
  intro hs
  replace hs : hasBit o'.flags objfSensitive = true := hs
  show o'.valueSecure = true ∨ o'.value = []
  rw [h.flags] at hs
  rw [h.valueSecure, h.value]
  exact ho hs

namespace ObjAt

variable {C : Crypto} {env : Envs} {c : Caller} {t : Template} {tail : Tail}
  {pre post : List Obj} {handle : UInt32} {o : Obj} {s s' : Live}

variable (h : ObjAt pre post handle o s)

include h

theorem object_ok {env : Env} {op : ObjectOp} {f : Obj → Except Err Obj} {o' : Obj}
    (hop : s.tok.object C env op s.disk = s.tok.objectUpdate C env handle f s.disk)
    (hf : f o = .ok o') (hhandle : o'.handle = o.handle)
    (hrun : exec (object C env op) s = (.ok (), s')) : ObjAt pre post handle o' s' := by
  obtain rfl : (exec (object C env op) s).2 = s' := congrArg Prod.snd hrun
  rw [exec_object, hop]
  exact h.update hf hhandle

theorem applyAllowedMechs (hrun : exec (applyAllowedMechs C env t handle) s = (.ok (), s')) :
    ∃ o', ObjAt pre post handle o' s' ∧ o.AllowedSet t o' := by
  unfold FreeHsm.applyAllowedMechs at hrun
  cases hattr : t.findAttr ckaAllowedMechanisms with
  | none =>
    rw [hattr] at hrun
    cases hrun
    exact ⟨o, h, .refl o, by simp [presentBit, hattr], by simp [hattr]⟩
  | some a =>
    rw [hattr] at hrun
    dsimp only at hrun
    split at hrun
    · cases hrun
    split at hrun
    · cases hrun
    have hlen : a.mechanisms.length ≤ policyMechMax := by
      rw [Attr.mechanisms, List.length_map, List.length_range]
      omega
    have hop (env : Env) : s.tok.object C env (.setAllowedMechs handle a.mechanisms) s.disk =
        s.tok.objectUpdate C env handle (fun o => .ok { o with
          allowed := a.mechanisms
          allowed_le := hlen
          flags2 := o.flags2 ||| objf2HasAllowedMech }) s.disk := dif_pos hlen
    refine ⟨_, h.object_ok (hop _) rfl rfl hrun,
      ⟨rfl, rfl, rfl, rfl, rfl, rfl, rfl, rfl, rfl, rfl, rfl⟩, by simp [presentBit, hattr], ?_⟩
    rw [hattr]
    rintro _ ⟨⟩
    rfl

theorem applyNestedTmpl {which : TmplWhich}
    (hrun : exec (applyNestedTmpl C env t handle which) s = (.ok (), s')) :
    ∃ o', ObjAt pre post handle o' s' ∧ o.NestedSet t which o' := by
  unfold FreeHsm.applyNestedTmpl at hrun
  cases hattr : t.findAttr which.attr with
  | none =>
    rw [hattr] at hrun
    cases hrun
    exact ⟨o, h, .refl o, by simp [presentBit, hattr], rfl, by simp [hattr], fun _ _ => rfl⟩
  | some a =>
    rw [hattr] at hrun
    dsimp only at hrun
    split at hrun
    · cases hrun
    split at hrun
    · cases hrun
    split at hrun
    · cases hrun
    obtain ⟨raw, hraw, hset⟩ := exec_check_bind_ok hrun
    -- the setter checks the entries once more
    cases has : raw.mapM RawPolicyAttr.check with
    | error e =>
      rw [exec_object] at hset
      simp only [Token.object, Token.setTmpl, has] at hset
      cases hset
    | ok as =>
      have hstored : storedEntries which a = .ok as := by
        rw [storedEntries, Attr.entries, hraw]
        exact has
      by_cases hlen : as.length ≤ policyAttrMax
      · have hop (env : Env) : s.tok.object C env (.setTmpl handle which raw) s.disk =
            s.tok.objectUpdate C env handle (fun o => .ok (o.setTmpl which as hlen)) s.disk := by
          simp only [Token.object, Token.setTmpl, has]
          exact dif_pos hlen
        refine ⟨_, h.object_ok (hop _) rfl (by cases which <;> rfl) hset, ?_⟩
        constructor
        · cases which <;> exact ⟨rfl, rfl, rfl, rfl, rfl, rfl, rfl, rfl, rfl, rfl, rfl⟩
        · rw [presentBit, hattr]
          cases which <;> rfl
        · cases which <;> rfl
        · rw [hattr]
          rintro _ ⟨⟩
          rw [hstored]
          cases which <;> rfl
        · intro w hw
          cases which <;> cases w <;> first | rfl | exact absurd rfl hw
      · rw [exec_object] at hset
        simp only [Token.object, Token.setTmpl, has, dif_neg hlen] at hset
        cases hset

theorem applyPolicy (hrun : exec (applyPolicy C env t handle) s = (.ok (), s')) :
    ∃ o', ObjAt pre post handle o' s' ∧ o.PolicySet t o' := by
  simp only [FreeHsm.applyPolicy, applyNestedTmpls, exec_bind_ok] at hrun
  obtain ⟨_, s₁, h₁, _, s₂, h₂, _, s₃, h₃, hrun⟩ := hrun
  obtain ⟨o₁, h, ha⟩ := h.applyAllowedMechs (exec_orDestroy_ok h₁)
  obtain ⟨o₂, h, hu⟩ := h.applyNestedTmpl (exec_orDestroy_ok h₂)
  obtain ⟨o₃, h, hd⟩ := h.applyNestedTmpl (exec_orDestroy_ok h₃)
  obtain ⟨o₄, h, hw⟩ := h.applyNestedTmpl (exec_orDestroy_ok hrun)
  exact ⟨o₄, h, .of ha hu hd hw⟩

theorem applyEncapFlags {cls : UInt32}
    (hrun : exec (applyEncapFlags C env t handle cls) s = (.ok (), s')) :
    ObjAt pre post handle { o with flags2 := o.flags2 ||| Obj.encapBit t cls } s' := by
  unfold FreeHsm.applyEncapFlags at hrun
  unfold Obj.encapBit
  dsimp only at hrun
  by_cases hstated : t.bbool? (if cls = ckoPublicKey then ckaEncapsulate else ckaDecapsulate) =
      some false
  · rw [if_pos hstated, exec_bind, exec_find, h.find] at hrun
    rw [if_pos hstated]
    obtain rfl : (exec (object C (env 0) _) s).2 = s' := congrArg Prod.snd hrun
    exact h.setFlags2 _
  · rw [if_neg hstated] at hrun
    cases hrun
    rw [if_neg hstated, UInt8.or_zero]
    exact h

theorem applyEdCurveName (hrun : exec (applyEdCurveName C env t handle) s = (.ok (), s')) :
    ObjAt pre post handle { o with flags3 := o.flags3 ||| Obj.edNameBit t } s' := by
  unfold FreeHsm.applyEdCurveName at hrun
  unfold Obj.edNameBit
  by_cases hnamed : t.edCurveNamed = true
  · rw [if_pos hnamed, exec_bind, exec_find, h.find] at hrun
    rw [if_pos hnamed]
    obtain rfl : (exec (object C (env 0) _) s).2 = s' := congrArg Prod.snd hrun
    exact h.setFlags3 _
  · rw [if_neg hnamed] at hrun
    cases hrun
    rw [if_neg hnamed, UInt8.or_zero]
    exact h

theorem applyTokenScope (ho : o.Settled)
    (hrun : exec (applyTokenScope C env c t handle) s = (.ok (), s')) :
    ObjAt pre post handle (o.withScope c t) s' := by
  obtain ⟨_, s₁, h₁, hrun⟩ := exec_bind_ok.1 hrun
  obtain ⟨_, s₂, h₂, hrun⟩ := exec_bind_ok.1 hrun
  have hscope : hasBit (scopeBits t) objfSensitive = false := by
    unfold scopeBits deniedBit
    split <;> split <;> decide
  have hmarked := (h.scopeToSession h₁).raiseFlags (fun hs => by
    rw [hasBit_or, hscope, Bool.or_false] at hs
    exact ho hs) h₂
  split at hrun
  · exact hmarked.raiseFlags2 hrun
  rename_i hnone
  cases hrun
  have hbits : scopeBits2 t = 0 := by
    simp only [Bool.or_eq_true, Bool.not_eq_true', not_or, Bool.not_eq_true,
      Bool.not_eq_false] at hnone
    rw [scopeBits2, deniedBit, hnone.1, hnone.2]
    rfl
  rw [Obj.withScope, hbits, UInt8.or_zero]
  exact hmarked

theorem applyObjMeta (hrun : exec (applyObjMeta C env t handle) s = (.ok (), s')) :
    ∃ o', ObjAt pre post handle o' s' ∧ o.MetaSet o' := by
  unfold FreeHsm.applyObjMeta at hrun
  dsimp only at hrun
  split at hrun
  · obtain ⟨start, hstart, hrun⟩ := exec_check_bind_ok hrun
    obtain ⟨finish, hfinish, hrun⟩ := exec_check_bind_ok hrun
    obtain ⟨app, happ, hrun⟩ := exec_check_bind_ok hrun
    by_cases hlen : (start.getD []).length ≤ 8 ∧ (finish.getD []).length ≤ 8 ∧
        (app.getD []).length ≤ 64
    · have hop (env : Env) : s.tok.object C env (.setMeta handle start finish app) s.disk =
          s.tok.objectUpdate C env handle (fun o => .ok (o.setMeta start finish app hlen)) s.disk :=
        dif_pos hlen
      exact ⟨_, h.object_ok (hop _) rfl rfl hrun,
        ⟨rfl, rfl, rfl, rfl, rfl, rfl, rfl, rfl, rfl, rfl, rfl⟩, rfl, rfl,
        fun which => by cases which <;> rfl⟩
    · rw [exec_object] at hrun
      simp only [Token.object, Token.setMeta, dif_neg hlen] at hrun
      cases hrun
  · cases hrun
    exact ⟨o, h, .refl o, rfl, rfl, fun _ => rfl⟩

theorem applyUsage {usage : UInt8} (hrun : exec (applyUsage C env usage handle) s = (.ok (), s')) :
    ObjAt pre post handle { o with usageFlags := usage } s' := by
  rw [FreeHsm.applyUsage, exec_ignored] at hrun
  cases hrun
  rw [exec_object]
  exact h.update rfl rfl

theorem stepIf {b : Bool} {x : TokenM Unit} {f : Obj → Obj}
    (hx : b = true → exec x s = (.ok (), s') → ObjAt pre post handle (f o) s')
    (hf : b = false → f o = o) (hrun : exec (stepIf b x) s = (.ok (), s')) :
    ObjAt pre post handle (f o) s' := by
  unfold FreeHsm.stepIf at hrun
  cases b with
  | true => exact hx rfl hrun
  | false =>
    cases hrun
    rw [hf rfl]
    exact h

/-- The object after all steps, when none of them reports a failure. -/
theorem refineObject (ho : o.Settled)
    (hrun : exec (refineObject C env c t tail handle) s = (.ok (), s')) :
    ∃ o', ObjAt pre post handle o' s' ∧ o.Refined c t tail o' := by
  simp only [FreeHsm.refineObject, applyScopeAndMeta, exec_bind_ok] at hrun
  obtain ⟨_, s₁, h₁, _, s₂, h₂, _, s₃, h₃, _, s₄, h₄, _, s₅, ⟨_, s₆, h₆, hmeta⟩, hrun⟩ := hrun
  have hhistory := h.stepIf (f := fun o => { o with flags3 := o.flags3 ||| tail.history })
    (fun _ hx => h.addKeyHistory (exec_orDestroy_ok hx))
    (fun hzero => by
      have hzero : tail.history = 0 := by simpa using hzero
      simp [hzero]) h₁
  obtain ⟨o₂, hpolicy, hp⟩ := hhistory.applyPolicy h₂
  have hencap := hpolicy.stepIf (f := fun o => { o with flags2 := o.flags2 ||| tail.encapBits t })
    (fun hsome hx => by
      rw [Tail.encapBits, if_pos hsome]
      exact hpolicy.applyEncapFlags (exec_orDestroy_ok hx))
    (fun hnone => by simp [Tail.encapBits, hnone]) h₃
  have hname := hencap.stepIf (f := fun o => { o with flags3 := o.flags3 ||| tail.edNameBits })
    (fun hed hx => by
      rw [Tail.edNameBits, if_pos hed]
      exact hencap.applyEdCurveName (exec_orDestroy_ok hx))
    (fun hnone => by simp [Tail.edNameBits, hnone]) h₄
  have hscope := hname.applyTokenScope (hp.toSameKey.settled ho _ _) h₆
  obtain ⟨o₃, hmeta, hm⟩ := hscope.applyObjMeta (exec_orDestroy_ok hmeta)
  exact ⟨_, hmeta.applyUsage hrun, .of rfl hp hm⟩

end ObjAt

/-! ## Creations -/

theorem Token.newObject_settled (t : Token) (a : AddArgs) (hvalue : a.value.length ≤ objValueMax)
    (hid : a.id.length ≤ 32) : (t.newObject a hvalue hid).Settled := by
  intro hs
  replace hs : hasBit a.flags objfSensitive = true := hs
  show (hasBit a.flags objfSensitive && a.value.length != 0) = true ∨ a.value = []
  cases hnil : a.value with
  | nil => exact .inr rfl
  | cons b bs => exact .inl (by simp [hs])

end FreeHsm
