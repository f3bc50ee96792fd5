import FreeHsm.ForStd.StateExcept
import FreeHsm.Pkcs11.KeyNames
import FreeHsm.Pkcs11.Policy
import FreeHsm.Token.Auth
import FreeHsm.Token.ObjectStep

/-!
# Creating an object

Every creation function of `fhsm_pkcs11.c` calls `fhsm_token_object_add` and then
refines the new object by handle, one setter and one file write at a time. The
setters are shared helpers (`fhsm_apply_allowed_mechs`, `fhsm_apply_nested_tmpl`,
`fhsm_apply_token_scope` and so on); this module has the helpers.

They run in `TokenM`: a token and its disk are the state, an error return is an
exception that keeps the state. `(void)f()` is `ignored`, and a failure that
destroys the new object before it is reported is `orDestroy`.
-/

namespace FreeHsm

/-- A token in memory and its disk. -/
structure Live where
  tok : Token
  disk : Disk

/-- Code that works on a token and may return an error. -/
abbrev TokenM := ExceptT Err (StateM Live)

/-- What each token call inside one PKCS#11 call meets, in order. -/
abbrev Envs := Nat → Env

/-- The environments from the `n`-th call on. -/
def Envs.after (env : Envs) (n : Nat) : Envs := fun i => env (n + i)

/-- An open session as the object functions see it. -/
structure Caller where
  handle : UInt64
  flags : UInt64
  role : Role
  /-- Handle 0 is never given out. -/
  handle_range : 0 < handle.toNat ∧ handle.toNat < maxSessions

namespace TokenM

/-- A check that does not touch the token. -/
def check {α : Type} : Except Err α → TokenM α
  | .ok a => pure a
  | .error e => throw e

/-- `(void)x`. -/
def ignored (x : TokenM Unit) : TokenM Unit := tryCatch x fun _ => pure ()

/-- One call of an object function. -/
def object (C : Crypto) (env : Env) (op : ObjectOp) : TokenM Unit := fun s =>
  match s.tok.object C env op s.disk with
  | (.ok, t, d) => (.ok (), ⟨t, d⟩)
  | (.err e, t, d) => (.error e, ⟨t, d⟩)

/-- `fhsm_token_object_add`, returning the handle. -/
def add (C : Crypto) (env : Env) (a : AddArgs) : TokenM UInt32 := fun s =>
  match s.tok.objectAdd C env a s.disk with
  | (.ok, handle, t, d) => (.ok (handle.getD 0), ⟨t, d⟩)
  | (.err e, _, t, d) => (.error e, ⟨t, d⟩)

/-- The first object with a handle. -/
def find (handle : UInt32) : TokenM (Option Obj) :=
  return (← get).tok.objects.find? handle

/-- `if (rv != OK) { (void)fhsm_token_object_destroy(t, handle); return rv; }` -/
def orDestroy (C : Crypto) (env : Env) (handle : UInt32) (x : TokenM Unit) : TokenM Unit :=
  tryCatch x fun e => do
    ignored (object C env (.destroy handle))
    throw e

end TokenM

open TokenM StateExcept

variable (C : Crypto)

variable (env : Envs) (t : Template) (handle : UInt32)

/-- `fhsm_add_key_history`. -/
def addKeyHistory (bits : UInt8) : TokenM Unit := do
  let o ← find handle
  object C (env 0) (.setFlags3 handle ((o.elim 0 (·.flags3)) ||| bits))

/-- `FHSM_KEY_FROM_OUTSIDE`. -/
def keyFromOutside : UInt8 := objf3WasNotSensitive ||| objf3WasExtractable

/-- `fhsm_apply_allowed_mechs`. -/
def applyAllowedMechs : TokenM Unit :=
  match t.findAttr ckaAllowedMechanisms with
  | none => pure ()
  | some a =>
    if a.value.len % ckUlongSize ≠ 0 then throw .attributeValueInvalid
    else if a.value.len / ckUlongSize > policyMechMax then throw .attributeValueInvalid
    else object C (env 0) (.setAllowedMechs handle
      ((List.range (a.value.len / ckUlongSize)).map fun k =>
        (u64At a.value.data (ckUlongSize * k)).toUInt32))

/-- `fhsm_policy_kind_of`. -/
def policyKindOf (type : UInt64) : UInt8 :=
  if boolAttrTypes.contains type then 1 else if ulongAttrTypes.contains type then 2 else 3

/-- `fhsm_wrap_tmpl_attr_supported`. -/
def wrapTmplAttrSupported (type : UInt64) : Bool :=
  [ckaClass, ckaKeyType, ckaValueLen, ckaLabel, ckaId, ckaSensitive, ckaExtractable].contains type

/-- One entry of a nested template, as `fhsm_apply_nested_tmpl` stores it. -/
def nestedEntry (which : TmplWhich) (e : NestedAttr) : Except Err RawPolicyAttr :=
  if e.value.dangling || e.value.len > policyValueMax
      || (which == .wrap && !wrapTmplAttrSupported e.type) then
    .error .attributeValueInvalid
  else
    .ok { type := e.type.toUInt32, kind := policyKindOf e.type, len := UInt8.ofNat e.value.len,
          value := vecAt e.value.data 0 48 }

/-- The attribute that carries each nested template. -/
def TmplWhich.attr : TmplWhich → UInt64
  | .wrap => ckaWrapTemplate
  | .unwrap => ckaUnwrapTemplate
  | .derive => ckaDeriveTemplate

/-- `fhsm_apply_nested_tmpl`. -/
def applyNestedTmpl (which : TmplWhich) : TokenM Unit :=
  match t.findAttr which.attr with
  | none => pure ()
  | some a =>
    if a.value.len % ckAttributeSize ≠ 0 then throw .attributeValueInvalid
    else if a.value.len / ckAttributeSize > policyAttrMax then throw .attributeValueInvalid
    else if a.value.len / ckAttributeSize > 0 ∧ a.value.isNull then throw .attributeValueInvalid
    else do
      let entries ← check ((a.nested.take (a.value.len / ckAttributeSize)).mapM (nestedEntry which))
      object C (env 0) (.setTmpl handle which entries)

/-- The three nested templates, in the order every creation function applies them. -/
def applyNestedTmpls : TokenM Unit := do
  orDestroy C (env 1) handle (applyNestedTmpl C (env.after 0) t handle .unwrap)
  orDestroy C (env 3) handle (applyNestedTmpl C (env.after 2) t handle .derive)
  orDestroy C (env 5) handle (applyNestedTmpl C (env.after 4) t handle .wrap)

/-- `fhsm_apply_encap_flags`. -/
def applyEncapFlags (cls : UInt32) : TokenM Unit := do
  let attr := if cls = ckoPublicKey then ckaEncapsulate else ckaDecapsulate
  let bit := if cls = ckoPublicKey then objf2NoEncapsulate else objf2NoDecapsulate
  if t.bbool? attr = some false then
    let o ← find handle
    object C (env 0) (.setFlags2 handle ((o.elim 0 (·.flags2)) ||| bit))

/-- `fhsm_apply_ed_curve_name`. -/
def applyEdCurveName : TokenM Unit := do
  if t.edCurveNamed then
    let o ← find handle
    object C (env 0) (.setFlags3 handle ((o.elim 0 (·.flags3)) ||| objf3EdCurveName))

/-- The bit a template asks for when it states an attribute as FALSE. -/
def deniedBit (attr : UInt64) (bit : UInt8) : UInt8 :=
  if t.bbool attr true then 0 else bit

/-- `CKA_MODIFIABLE` and `CKA_DESTROYABLE` of a template, as flag bits. -/
def scopeBits : UInt8 :=
  deniedBit t ckaModifiable objfUnmodifiable ||| deniedBit t ckaDestroyable objfUndestroyable

/-- Read the flags of an object, set some bits and write them back. -/
def raiseFlags (bits : UInt8) : TokenM Unit := do
  match ← find handle with
  | some o => ignored (object C (env 0) (.setFlags handle (o.flags ||| bits)))
  | none => pure ()

/-- The same for the second flag byte; an object that is not there reads as no flags. -/
def raiseFlags2 (bits : UInt8) : TokenM Unit := do
  let o ← find handle
  ignored (object C (env 0) (.setFlags2 handle ((o.elim 0 (·.flags2)) ||| bits)))

/-- A new object belongs to the session unless it is to be a token object. -/
def scopeToSession (c : Caller) (token : Bool) (handle : UInt32) : TokenM Unit :=
  if token then pure () else ignored (object C (env 0) (.markSession handle c.handle.toUInt32))

/-- `CKA_COPYABLE` and `CKA_WRAP_WITH_TRUSTED` of a template, as bits of the second flag byte. -/
def scopeBits2 : UInt8 :=
  deniedBit t ckaCopyable objf2NotCopyable |||
    (if t.bbool ckaWrapWithTrusted false then objf2WrapWithTrusted else 0)

/-- `fhsm_apply_token_scope`. -/
def applyTokenScope (c : Caller) (t : Template) (handle : UInt32) : TokenM Unit := do
  scopeToSession C (env.after 0) c (t.bbool ckaToken false) handle
  raiseFlags C (env.after 1) handle (scopeBits t)
  if t.bbool ckaWrapWithTrusted false || !t.bbool ckaCopyable true then
    raiseFlags2 C (env.after 2) handle (scopeBits2 t)

/-- A date of a template. -/
def metaDate (a : Option Attr) : Except Err (Option Bytes) :=
  match a with
  | none => .ok none
  | some a =>
    if a.value.dangling || !dateWellformed a.value.data then .error .attributeValueInvalid
    else .ok (some a.value.data)

/-- `CKA_APPLICATION` of a template. -/
def metaApplication (a : Option Attr) : Except Err (Option Bytes) :=
  match a with
  | none => .ok none
  | some a =>
    if a.value.dangling || a.value.len > 64 then .error .attributeValueInvalid
    else .ok (some a.value.data)

/-- `fhsm_apply_obj_meta`. -/
def applyObjMeta : TokenM Unit := do
  let start := t.findAttr ckaStartDate
  let finish := t.findAttr ckaEndDate
  let app := t.findAttr ckaApplication
  if start.isSome || finish.isSome || app.isSome then
    let start ← check (metaDate start)
    let finish ← check (metaDate finish)
    let app ← check (metaApplication app)
    object C (env 0) (.setMeta handle start finish app)

/-! ## Attributes a template does not name -/

section Unnamed

variable {C} {env : Envs} {t : Template} {handle cls : UInt32}

theorem applyAllowedMechs_none (h : t.findAttr ckaAllowedMechanisms = none) :
    applyAllowedMechs C env t handle = pure () := by
  rw [applyAllowedMechs, h]

theorem applyNestedTmpl_none {which : TmplWhich} (h : t.findAttr which.attr = none) :
    applyNestedTmpl C env t handle which = pure () := by
  rw [applyNestedTmpl, h]

theorem applyEncapFlags_none (hpub : t.findAttr ckaEncapsulate = none)
    (hpriv : t.findAttr ckaDecapsulate = none) :
    applyEncapFlags C env t handle cls = pure () := by
  have hattr : t.bbool? (if cls = ckoPublicKey then ckaEncapsulate else ckaDecapsulate) = none := by
    split
    · rw [Template.bbool?, hpub]
    · rw [Template.bbool?, hpriv]
  simp only [applyEncapFlags, hattr]
  rfl

theorem applyObjMeta_none (hstart : t.findAttr ckaStartDate = none)
    (hfinish : t.findAttr ckaEndDate = none) (happ : t.findAttr ckaApplication = none) :
    applyObjMeta C env t handle = pure () := by
  simp only [applyObjMeta, hstart, hfinish, happ]
  rfl

end Unnamed

/-! ## Running an object function -/

namespace TokenM

variable {C} {env : Env} {s s' : Live}

theorem exec_check {α : Type} (x : Except Err α) (s : Live) : exec (check x) s = (x, s) := by
  cases x <;> rfl

theorem exec_check_bind_ok {α β : Type} {x : Except Err α} {f : α → TokenM β} {b : β}
    (h : exec (check x >>= f) s = (.ok b, s')) :
    ∃ a, x = .ok a ∧ exec (f a) s = (.ok b, s') := by
  rw [exec_bind, exec_check] at h
  cases x with
  | error e => cases h
  | ok a => exact ⟨a, rfl, h⟩

theorem exec_find (handle : UInt32) (s : Live) :
    exec (find handle) s = (.ok (s.tok.objects.find? handle), s) := rfl

theorem exec_object (op : ObjectOp) (s : Live) :
    exec (object C env op) s =
      (match (s.tok.object C env op s.disk).1 with | .ok => .ok () | .err e => .error e,
        ⟨(s.tok.object C env op s.disk).2.1, (s.tok.object C env op s.disk).2.2⟩) := by
  show object C env op s = _
  unfold object
  rcases s.tok.object C env op s.disk with ⟨_ | _, _, _⟩ <;> rfl

theorem exec_add (a : AddArgs) (s : Live) :
    exec (add C env a) s =
      (match (s.tok.objectAdd C env a s.disk).1 with
        | .ok => .ok ((s.tok.objectAdd C env a s.disk).2.1.getD 0)
        | .err e => .error e,
        ⟨(s.tok.objectAdd C env a s.disk).2.2.1, (s.tok.objectAdd C env a s.disk).2.2.2⟩) := by
  show add C env a s = _
  unfold add
  rcases s.tok.objectAdd C env a s.disk with ⟨_ | _, _, _, _⟩ <;> rfl

/-- A successful `object_add` appends the object under the next handle. -/
theorem exec_add_ok {a : AddArgs} {handle : UInt32} (h : exec (add C env a) s = (.ok handle, s')) :
    ∃ hvalue hid, handle = s.tok.newHandle ∧ s.tok.storeOpen = true ∧ s'.tok.storeOpen = true ∧
      s'.tok.objects.objs = s.tok.objects.objs ++ [s.tok.newObject a hvalue hid] := by
  rw [exec_add] at h
  rcases hadd : s.tok.objectAdd C env a s.disk with ⟨_ | e, handle?, t, d⟩
  · rw [hadd] at h
    cases h
    rcases Token.objectAdd_appends hadd with ⟨hrv, -⟩ | ⟨hvalue, hid, -, hopen, rfl, rfl, -⟩
    · exact absurd rfl hrv
    · exact ⟨hvalue, hid, rfl, hopen, hopen, rfl⟩
  · rw [hadd] at h
    cases h

theorem exec_ignored (x : TokenM Unit) (s : Live) : exec (ignored x) s = (.ok (), (exec x s).2) := by
  unfold ignored
  rw [exec_tryCatch]
  rcases exec x s with ⟨_ | _, _⟩ <;> rfl

theorem exec_orDestroy_ok {handle : UInt32} {x : TokenM Unit}
    (h : exec (orDestroy C env handle x) s = (.ok (), s')) : exec x s = (.ok (), s') := by
  unfold orDestroy at h
  rw [exec_tryCatch] at h
  rcases hx : exec x s with ⟨e | _, s₁⟩
  · rw [hx] at h
    simp only [exec_bind, exec_ignored, exec_throw] at h
    cases h
  · rw [hx] at h
    exact h

theorem exec_orDestroy_pure (handle : UInt32) (s : Live) :
    exec (orDestroy C env handle (pure ())) s = (.ok (), s) := rfl

end TokenM

theorem exec_applyNestedTmpls_none {C} {env : Envs} {t : Template} {handle : UInt32} (s : Live)
    (h : ∀ which : TmplWhich, t.findAttr which.attr = none) :
    exec (applyNestedTmpls C env t handle) s = (.ok (), s) := by
  simp only [applyNestedTmpls, applyNestedTmpl_none (h _)]
  rfl

/-! ## The object being refined -/

/-- `o` is in the store between `pre` and `post`, it alone has the handle, and setters work. -/
structure ObjAt (pre post : List Obj) (handle : UInt32) (o : Obj) (s : Live) : Prop where
  objs : s.tok.objects.objs = pre ++ o :: post
  handle_eq : o.handle = handle
  fresh : ∀ x ∈ pre, x.handle ≠ handle
  fresh_post : ∀ x ∈ post, x.handle ≠ handle
  opened : s.tok.storeOpen = true

/-- The object is the last one of the store. -/
abbrev LastObj (base : List Obj) : UInt32 → Obj → Live → Prop := ObjAt base []

theorem LastObj.of_add {C} {env : Env} {handle : UInt32} {s s' : Live} {a : AddArgs}
    (h : exec (add C env a) s = (.ok handle, s'))
    (hfresh : s.tok.objects.find? s.tok.newHandle = none) :
    ∃ hvalue hid, LastObj s.tok.objects.objs handle (s.tok.newObject a hvalue hid) s' := by
  obtain ⟨hvalue, hid, rfl, -, hopen, hobjs⟩ := exec_add_ok h
  refine ⟨hvalue, hid, hobjs, rfl, ?_, nofun, hopen⟩
  intro x hx
  simpa using List.find?_eq_none.1 hfresh x hx

namespace ObjAt

variable {C} {env : Env} {pre post : List Obj} {handle : UInt32} {o o' src : Obj} {s s' : Live}

variable (h : ObjAt pre post handle o s)

include h

theorem find : s.tok.objects.find? handle = some o := by
  have hpre : pre.find? (·.handle == handle) = none := by
    rw [List.find?_eq_none]
    intro x hx
    simpa using h.fresh x hx
  unfold ObjStore.find?
  rw [h.objs, List.find?_append, hpre]
  simp [h.handle_eq]

theorem find_base {other : UInt32} (hsrc : pre.find? (·.handle == other) = some src) :
    s.tok.objects.find? other = some src := by
  unfold ObjStore.find?
  rw [h.objs, List.find?_append, hsrc]
  rfl

/-- A setter on the handle changes the object, whether or not its write succeeds. -/
theorem update {f : Obj → Except Err Obj} (hf : f o = .ok o') (hhandle : o'.handle = o.handle) :
    ObjAt pre post handle o' ⟨(s.tok.objectUpdate C env handle f s.disk).2.1,
      (s.tok.objectUpdate C env handle f s.disk).2.2⟩ := by
  have hmodify : ListEdit.modifyFirst (·.handle == handle) (fun _ => o') (pre ++ o :: post) =
      pre ++ o' :: post :=
    ListEdit.modifyFirst_append_of_not (by simpa using h.fresh) (by simp [h.handle_eq])
  unfold Token.objectUpdate
  rw [if_neg (by simp [h.opened]), h.find]
  simp only [hf]
  exact {
    objs := by simp only [ObjStore.modify, h.objs, hmodify]
    handle_eq := hhandle.trans h.handle_eq
    fresh := h.fresh
    fresh_post := h.fresh_post
    opened := h.opened }

theorem setFlags2 (v : UInt8) :
    ObjAt pre post handle { o with flags2 := v } (exec (object C env (.setFlags2 handle v)) s).2 := by
  rw [exec_object]
  exact h.update rfl rfl

theorem setFlags3 (v : UInt8) :
    ObjAt pre post handle { o with flags3 := v } (exec (object C env (.setFlags3 handle v)) s).2 := by
  rw [exec_object]
  exact h.update rfl rfl

theorem markSession {owner : UInt32} (howner : owner ≠ 0) :
    ObjAt pre post handle { o with ownerSession := owner }
      (exec (object C env (.markSession handle owner)) s).2 := by
  rw [exec_object]
  simp only [Token.object, Token.markSession, if_neg howner]
  exact h.update rfl rfl

end ObjAt

theorem Caller.handle_ne_zero (c : Caller) : c.handle.toUInt32 ≠ 0 := by
  intro h
  have hnat := congrArg UInt32.toNat h
  have hrange := c.handle_range
  simp only [UInt64.toNat_toUInt32, UInt32.toNat_zero, maxSessions] at hnat hrange
  omega

namespace ObjAt

variable {C} {env : Envs} {pre post : List Obj} {handle : UInt32} {o src : Obj} {s s' : Live}

variable (h : ObjAt pre post handle o s)

include h

theorem addKeyHistory {bits : UInt8}
    (hrun : exec (addKeyHistory C env handle bits) s = (.ok (), s')) :
    ObjAt pre post handle { o with flags3 := o.flags3 ||| bits } s' := by
  unfold FreeHsm.addKeyHistory at hrun
  rw [exec_bind, exec_find, h.find] at hrun
  obtain rfl : (exec (object C (env 0) (.setFlags3 handle (o.flags3 ||| bits))) s).2 = s' :=
    congrArg Prod.snd hrun
  exact h.setFlags3 _

theorem scopeToSession {c : Caller} {token : Bool}
    (hrun : exec (scopeToSession C env c token handle) s = (.ok (), s')) :
    ObjAt pre post handle
      { o with ownerSession := if token then o.ownerSession else c.handle.toUInt32 } s' := by
  unfold FreeHsm.scopeToSession at hrun
  cases token with
  | true =>
    cases hrun
    exact h
  | false =>
    rw [if_neg (by decide), exec_ignored] at hrun
    cases hrun
    exact h.markSession c.handle_ne_zero

theorem raiseFlags {bits : UInt8}
    (hsecure : hasBit (o.flags ||| bits) objfSensitive = true → o.valueSecure = true ∨ o.value = [])
    (hrun : exec (raiseFlags C env handle bits) s = (.ok (), s')) :
    ObjAt pre post handle { o with flags := o.flags ||| bits } s' := by
  unfold FreeHsm.raiseFlags at hrun
  rw [exec_bind, exec_find, h.find] at hrun
  simp only [exec_ignored] at hrun
  cases hrun
  -- a sensitive value is already on the secure heap, so no allocation can fail
  have hmove : (hasBit (o.flags ||| bits) objfSensitive && !o.valueSecure &&
      o.value.length != 0) = false := by
    cases hv : hasBit (o.flags ||| bits) objfSensitive with
    | false => rfl
    | true => rcases hsecure hv with hs | hnil <;> simp [*]
  rw [exec_object]
  exact h.update (by rw [hmove]; rfl) rfl

theorem raiseFlags2 {bits : UInt8} (hrun : exec (raiseFlags2 C env handle bits) s = (.ok (), s')) :
    ObjAt pre post handle { o with flags2 := o.flags2 ||| bits } s' := by
  unfold FreeHsm.raiseFlags2 at hrun
  rw [exec_bind, exec_find, h.find] at hrun
  simp only [exec_ignored] at hrun
  cases hrun
  exact h.setFlags2 _

end ObjAt

/-! ## A token with one key -/

/-- A token just initialised, with one AES key of the given usage flags under handle 1. -/
def tokenWithKey (usage : UInt8) : Option Live :=
  match Token.init .plain .quiet (List.replicate 8 0x31) [] ⟨none, []⟩ with
  | (.ok, some t, d) => some (exec (do
      let handle ← add .plain .quiet ⟨ckoSecretKey, 0x1F, [], List.replicate 16 7, [], 0⟩
      object .plain .quiet (.setUsage handle usage)) ⟨t, d⟩).2
  | _ => none

/-- A read-write session of the SO. -/
def soCaller : Caller := ⟨1, 6, .so, by decide⟩

/-! ## How creation functions end

Every creation function adds an object and then takes the same steps: history, policy lists and
nested templates, scope, dates and usage. Some take a step more, for KEM keys or for the name of an
Edwards curve. -/

/-- The allowed mechanisms and the nested templates of a template; eight token calls. -/
def applyPolicy (env : Envs) (t : Template) (handle : UInt32) : TokenM Unit := do
  orDestroy C (env 1) handle (applyAllowedMechs C (env.after 0) t handle)
  applyNestedTmpls C (env.after 2) t handle

/-- Scope, dates and application of a template; five token calls. -/
def applyScopeAndMeta (env : Envs) (c : Caller) (t : Template) (handle : UInt32) :
    TokenM Unit := do
  applyTokenScope C (env.after 0) c t handle
  orDestroy C (env 4) handle (applyObjMeta C (env.after 3) t handle)

/-- `(void)fhsm_token_object_set_usage(...)`. -/
def applyUsage (env : Envs) (usage : UInt8) (handle : UInt32) : TokenM Unit :=
  ignored (object C (env 0) (.setUsage handle usage))

/-- What a creation function does beyond the steps that all take. -/
structure Tail where
  /-- The bits for `fhsm_add_key_history`; zero leaves the call out. -/
  history : UInt8 := 0
  /-- The class for `fhsm_apply_encap_flags`, if it is called. -/
  encap : Option UInt32 := none
  /-- The template for `fhsm_apply_ed_curve_name`, if it is called. -/
  edName : Option Template := none
  usage : UInt8
  deriving DecidableEq

/-- A step that some tails leave out. -/
def stepIf (b : Bool) (x : TokenM Unit) : TokenM Unit := if b then x else pure ()

/-- The steps on a new object; twenty token calls. -/
def refineObject (env : Envs) (c : Caller) (t : Template) (tail : Tail) (handle : UInt32) :
    TokenM Unit := do
  stepIf (tail.history != 0)
    (orDestroy C (env 1) handle (addKeyHistory C (env.after 0) handle tail.history))
  applyPolicy C (env.after 2) t handle
  stepIf tail.encap.isSome
    (orDestroy C (env 11) handle (applyEncapFlags C (env.after 10) t handle (tail.encap.getD 0)))
  stepIf tail.edName.isSome
    (orDestroy C (env 13) handle (applyEdCurveName C (env.after 12) (tail.edName.getD []) handle))
  applyScopeAndMeta C (env.after 14) c t handle
  applyUsage C (env.after 19) tail.usage handle

/-- Add an object and refine it. -/
def createWith (env : Envs) (c : Caller) (t : Template) (a : AddArgs) (tail : Tail) :
    TokenM UInt32 := do
  let handle ← add C (env 0) a
  refineObject C (env.after 1) c t tail handle
  return handle

/-- The number of token calls of a creation. -/
def createCalls : Nat := 21

/-! ## Storing a derived secret

`derive_store_secret` is the end of every derivation. It takes over the history of the base keys, and
for the mechanisms that combine key values also their `CKA_SENSITIVE` and `CKA_EXTRACTABLE`. -/

/-- The class of a derived object: what the template says, if it is a secret key or data. -/
def deriveClass (t : Template) (dflt : UInt32) : Except Err UInt32 :=
  match t.ulong? ckaClass with
  | none => .ok dflt
  | some cls =>
    if cls = ckoSecretKey.toUInt64 ∨ cls = ckoData.toUInt64 then .ok cls.toUInt32
    else .error .templateInconsistent

/-- The key type of a template. -/
def templateKeyType (t : Template) (dflt : UInt32) : UInt32 :=
  (t.ulong? ckaKeyType).elim dflt (·.toUInt32)

/-- `CKA_SENSITIVE` and `CKA_EXTRACTABLE` of a template that has to ask for both. -/
def deriveFlags (t : Template) : UInt8 :=
  (if t.bbool ckaSensitive false then objfSensitive else 0) |||
    (if t.bbool ckaExtractable false then objfExtractable else 0)

/-- What a combined key takes over from one base key. A handle of zero is no key. -/
def Token.inheritFlags (t : Token) (base : UInt64) (flags : UInt8) : UInt8 :=
  match if base = 0 then none else t.objects.find? base.toUInt32 with
  | none => flags
  | some o =>
    let flags := if hasBit o.flags objfSensitive then flags ||| objfSensitive else flags
    if hasBit o.flags objfExtractable then flags else flags &&& ~~~objfExtractable

/-- The history a derived key takes over from one base key. -/
def Token.baseHistory (t : Token) (base : UInt64) : UInt8 :=
  if base = 0 then 0
  else
    (if t.alwaysSensitive base then 0 else objf3WasNotSensitive) |||
      (if t.neverExtractable base then 0 else objf3WasExtractable)

/-- The arguments of `derive_store_secret` beside the template and the secret. -/
structure DeriveFrom where
  /-- The class when the template has none. -/
  dflt : UInt32
  base : UInt64
  /-- Zero when there is no second key. -/
  base2 : UInt64 := 0
  combines : Bool := false
  deriving DecidableEq

/-- The flags of the new object. -/
def DeriveFrom.flags (d : DeriveFrom) (tok : Token) (t : Template) : UInt8 :=
  if d.combines then tok.inheritFlags d.base2 (tok.inheritFlags d.base (deriveFlags t))
  else deriveFlags t

/-- The history of the new object. -/
def DeriveFrom.history (d : DeriveFrom) (tok : Token) : UInt8 :=
  tok.baseHistory d.base ||| tok.baseHistory d.base2

/-- What is given to `fhsm_token_object_add`. -/
def DeriveFrom.addArgs (d : DeriveFrom) (tok : Token) (t : Template) (cls : UInt32)
    (secret : Bytes) : AddArgs where
  cls := cls
  keyType := templateKeyType t ckkGenericSecret
  label := t.labelText
  value := secret
  id := t.templateId
  flags := d.flags tok t

/-- `derive_store_secret`. -/
def deriveStoreSecret (env : Envs) (c : Caller) (t : Template) (secret : Bytes) (d : DeriveFrom) :
    TokenM UInt32 := do
  check (rejectMechSupplied t)
  let cls ← check (deriveClass t d.dflt)
  let tok := (← get).tok
  createWith C env c t (d.addArgs tok t cls secret)
    { history := d.history tok, usage := computeUsage cls t }

end FreeHsm
