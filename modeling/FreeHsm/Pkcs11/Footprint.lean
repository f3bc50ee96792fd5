import FreeHsm.Pkcs11.Creation
import Mathlib.Data.List.Count
import Mathlib.Data.List.Iterate
import Mathlib.Data.List.Nodup

/-!
# Which keys a creation leaves

The code that refines a new object uses setters only, so it changes neither the
handles nor the values of the store. When it fails it destroys the new object by its
handle: the first object that has it goes.
-/

namespace FreeHsm

open TokenM StateExcept

/-- The handle and the value of every object, in order. -/
def Live.keys (s : Live) : List (UInt32 × Bytes) :=
  s.tok.objects.objs.map fun o => (o.handle, o.value)

def Live.handles (s : Live) : List UInt32 := s.tok.objects.handles

theorem Live.handles_eq (s : Live) : s.handles = s.keys.map Prod.fst := by
  simp [handles, keys, ObjStore.handles]

theorem Live.handles_append {s s' : Live} {handle : UInt32} {secret : Bytes}
    (h : s'.keys = s.keys ++ [(handle, secret)]) : s'.handles = s.handles ++ [handle] := by
  rw [handles_eq, h, List.map_append, ← handles_eq]
  rfl

/-- No key came or went, and no handle was given out. -/
structure Kept (s s' : Live) : Prop where
  keys : s'.keys = s.keys
  next : s'.tok.nextHandle = s.tok.nextHandle
  opened : s'.tok.storeOpen = s.tok.storeOpen

instance : IsPreorder Live Kept where
  refl _ := ⟨rfl, rfl, rfl⟩
  trans _ _ _ h h' := ⟨h'.keys.trans h.keys, h'.next.trans h.next, h'.opened.trans h.opened⟩

theorem Kept.handles {s s' : Live} (h : Kept s s') : s'.handles = s.handles := by
  rw [s.handles_eq, s'.handles_eq, h.keys]

section

variable {C : Crypto} {env : Envs} {t : Template} {handle : UInt32}

/-! ## Code that uses setters only -/

theorem kept_object {env : Env} {op : ObjectOp} (hop : op.setter? = some handle) :
    Within Kept (object C env op) := by
  intro s
  rw [exec_object]
  rcases hobj : s.tok.object C env op s.disk with ⟨rv, t', d'⟩
  have hedits := Token.object_edits hop hobj
  exact ⟨hedits.map_eq fun _ _ ho => by rw [ho.handle, ho.value], hedits.nextHandle,
    hedits.storeOpen⟩

theorem kept_check {α : Type} (x : Except Err α) : Within Kept (check x) := by
  intro s
  rw [exec_check]
  exact refl_of Kept s

theorem kept_ignored {x : TokenM Unit} (hx : Within Kept x) : Within Kept (ignored x) :=
  .tryCatch hx fun _ => .pure ()

theorem kept_find : Within Kept (find handle) := .bind .get fun _ => .pure _

theorem kept_addKeyHistory (bits : UInt8) : Within Kept (addKeyHistory C env handle bits) :=
  .bind kept_find fun _ => kept_object rfl

theorem kept_applyAllowedMechs : Within Kept (applyAllowedMechs C env t handle) := by
  unfold applyAllowedMechs
  split
  · exact .pure ()
  · exact .ite (.throw _) (.ite (.throw _) (kept_object rfl))

theorem kept_applyNestedTmpl (which : TmplWhich) :
    Within Kept (applyNestedTmpl C env t handle which) := by
  unfold applyNestedTmpl
  split
  · exact .pure ()
  · exact .ite (.throw _) (.ite (.throw _) (.ite (.throw _)
      (.bind (kept_check _) fun _ => kept_object rfl)))

theorem kept_raiseFlags (bits : UInt8) : Within Kept (raiseFlags C env handle bits) := by
  refine .bind kept_find fun o => ?_
  cases o with
  | none => exact .pure ()
  | some o => exact kept_ignored (kept_object rfl)

theorem kept_raiseFlags2 (bits : UInt8) : Within Kept (raiseFlags2 C env handle bits) :=
  .bind kept_find fun _ => kept_ignored (kept_object rfl)

theorem kept_scopeToSession (c : Caller) (token : Bool) :
    Within Kept (scopeToSession C env c token handle) :=
  .ite (.pure ()) (kept_ignored (kept_object rfl))

theorem kept_applyObjMeta : Within Kept (applyObjMeta C env t handle) :=
  .ite (.bind (kept_check _) fun _ => .bind (kept_check _) fun _ => .bind (kept_check _) fun _ =>
    kept_object rfl) (.pure _)

theorem kept_applyEncapFlags (cls : UInt32) :
    Within Kept (applyEncapFlags C env t handle cls) :=
  .ite (.bind kept_find fun _ => kept_object rfl) (.pure ())

theorem kept_applyEdCurveName : Within Kept (applyEdCurveName C env t handle) :=
  .ite (.bind kept_find fun _ => kept_object rfl) (.pure ())

theorem kept_applyUsage (usage : UInt8) : Within Kept (applyUsage C env usage handle) :=
  kept_ignored (kept_object rfl)

end

/-! ## Code that destroys the object when it fails -/

/-- The first object with the handle is gone. -/
structure Dropped (handle : UInt32) (s s' : Live) : Prop where
  handles : s'.handles.Perm (s.handles.erase handle)
  next : s'.tok.nextHandle = s.tok.nextHandle
  opened : s'.tok.storeOpen = true

/-- On an open store the code keeps all keys when it succeeds, and drops the handle when it
fails. -/
def Refines {α : Type} (handle : UInt32) (x : TokenM α) : Prop :=
  ∀ s, s.tok.storeOpen = true → match (exec x s).1 with
    | .ok _ => Kept s (exec x s).2
    | .error _ => Dropped handle s (exec x s).2

namespace Refines

variable {C : Crypto} {handle : UInt32} {α β : Type}

theorem pure (a : α) : Refines handle (Pure.pure a : TokenM α) := fun s _ => refl_of Kept s

theorem of_kept {x : TokenM α} (hx : Within Kept x) (hok : ∀ s, ∃ a, (exec x s).1 = .ok a) :
    Refines handle x := by
  intro s _
  obtain ⟨a, ha⟩ := hok s
  rw [ha]
  exact hx s

theorem ite {c : Prop} [Decidable c] {x y : TokenM α} (hx : Refines handle x)
    (hy : Refines handle y) : Refines handle (if c then x else y) := by
  split
  · exact hx
  · exact hy

theorem stepIf {b : Bool} {x : TokenM Unit} (hx : Refines handle x) :
    Refines handle (stepIf b x) := .ite hx (.pure ())

theorem bind {x : TokenM α} {f : α → TokenM β} (hx : Refines handle x)
    (hf : ∀ a, Refines handle (f a)) : Refines handle (x >>= f) := by
  intro s hopen
  have hs := hx s hopen
  rw [exec_bind]
  rcases hrun : exec x s with ⟨e | a, s₁⟩
  · rw [hrun] at hs
    exact hs
  · rw [hrun] at hs
    have hkept : Kept s s₁ := hs
    have hnext := hf a s₁ (hkept.opened.trans hopen)
    dsimp only
    rcases hrun' : exec (f a) s₁ with ⟨e | b, s₂⟩
    · rw [hrun'] at hnext
      have hdrop : Dropped handle s₁ s₂ := hnext
      exact ⟨hkept.handles ▸ hdrop.handles, hdrop.next.trans hkept.next, hdrop.opened⟩
    · rw [hrun'] at hnext
      exact trans_of Kept hkept hnext

theorem orDestroy {env : Env} {x : TokenM Unit} (hx : Within Kept x) :
    Refines handle (orDestroy C env handle x) := by
  intro s hopen
  have hs := hx s
  unfold TokenM.orDestroy
  rw [exec_tryCatch]
  rcases hrun : exec x s with ⟨e | a, s₁⟩
  · rw [hrun] at hs
    have hkept : Kept s s₁ := hs
    simp only [exec_bind, exec_ignored, exec_throw]
    rw [exec_object]
    rcases hobj : s₁.tok.object C env (.destroy handle) s₁.disk with ⟨rv, t', d'⟩
    obtain ⟨hperm, hnext, hopen'⟩ :=
      Token.objectDestroy_perm (hkept.opened.trans hopen) (hobj : s₁.tok.objectDestroy .. = _)
    exact ⟨hkept.handles ▸ hperm, hnext.trans hkept.next, hopen'⟩
  · rw [hrun] at hs
    exact hs

end Refines

section

variable {C : Crypto} {env : Envs} {t : Template} {handle : UInt32}

theorem refines_applyNestedTmpls : Refines handle (applyNestedTmpls C env t handle) :=
  .bind (.orDestroy (kept_applyNestedTmpl _)) fun _ =>
    .bind (.orDestroy (kept_applyNestedTmpl _)) fun _ => .orDestroy (kept_applyNestedTmpl _)

theorem refines_applyPolicy : Refines handle (applyPolicy C env t handle) :=
  .bind (.orDestroy kept_applyAllowedMechs) fun _ => refines_applyNestedTmpls

theorem exec_raiseFlags_fst (bits : UInt8) (s : Live) :
    (exec (raiseFlags C env handle bits) s).1 = .ok () := by
  unfold raiseFlags
  rw [exec_bind_of_ok (exec_find handle s)]
  split
  · rw [exec_ignored]
  · rfl

theorem exec_raiseFlags2_fst (bits : UInt8) (s : Live) :
    (exec (raiseFlags2 C env handle bits) s).1 = .ok () := by
  unfold raiseFlags2
  rw [exec_bind_of_ok (exec_find handle s), exec_ignored]

theorem exec_scopeToSession_fst (c : Caller) (token : Bool) (s : Live) :
    (exec (scopeToSession C env c token handle) s).1 = .ok () := by
  unfold scopeToSession
  split
  · rfl
  · rw [exec_ignored]

theorem refines_applyTokenScope (c : Caller) : Refines handle (applyTokenScope C env c t handle) :=
  .bind (.of_kept (kept_scopeToSession c _) fun s => ⟨(), exec_scopeToSession_fst c _ s⟩) fun _ =>
    .bind (.of_kept (kept_raiseFlags _) fun s => ⟨(), exec_raiseFlags_fst _ s⟩) fun _ =>
      .ite (.of_kept (kept_raiseFlags2 _) fun s => ⟨(), exec_raiseFlags2_fst _ s⟩) (.pure _)

theorem refines_applyScopeAndMeta (c : Caller) :
    Refines handle (applyScopeAndMeta C env c t handle) :=
  .bind (refines_applyTokenScope c) fun _ => .orDestroy kept_applyObjMeta

theorem refines_applyUsage (usage : UInt8) : Refines handle (applyUsage C env usage handle) :=
  .of_kept (kept_applyUsage usage) fun s => ⟨(), by rw [applyUsage, exec_ignored]⟩

theorem refines_refineObject (c : Caller) (tail : Tail) :
    Refines handle (refineObject C env c t tail handle) :=
  .bind (.stepIf (.orDestroy (kept_addKeyHistory _))) fun _ =>
    .bind refines_applyPolicy fun _ =>
      .bind (.stepIf (.orDestroy (kept_applyEncapFlags _))) fun _ =>
        .bind (.stepIf (.orDestroy kept_applyEdCurveName)) fun _ =>
          .bind (refines_applyScopeAndMeta c) fun _ => refines_applyUsage _

end

/-! ## What a creation leaves -/

/-- A new object that `fhsm_token_object_add` put into memory: its handle, whether no object had
it, and whether the token file was written. -/
structure Addition where
  handle : UInt32
  unused : Bool
  written : Bool
  deriving DecidableEq

variable (C : Crypto) (env : Envs)

/-- The object a creation puts into memory, if it comes to that. -/
def createAddition (a : AddArgs) (s : Live) : Option Addition :=
  let r := s.tok.objectAdd C (env 0) a s.disk
  r.2.1.map fun handle => ⟨handle, !s.handles.contains handle, r.1 == .ok⟩

/-- What a creation can come to: the new object is there, nothing happened, the new object is
there although the call failed, or the first object with its handle is gone. -/
inductive Creates (secret : Bytes) (s s' : Live) : Except Err UInt32 → Option Addition → Prop
  | created (handle : UInt32) (hhandle : handle = s.tok.newHandle)
      (hkeys : s'.keys = s.keys ++ [(handle, secret)])
      (hnext : s'.tok.nextHandle = handle + 1) (hopen : s'.tok.storeOpen = true) :
      Creates secret s s' (.ok handle) (some ⟨handle, !s.handles.contains handle, true⟩)
  | refused (e : Err) (hs : s' = s) : Creates secret s s' (.error e) none
  | stuck (e : Err) (handle : UInt32) (hhandle : handle = s.tok.newHandle)
      (hhandles : s'.handles = s.handles ++ [handle]) (hnext : s'.tok.nextHandle = handle + 1)
      (hopen : s'.tok.storeOpen = true) :
      Creates secret s s' (.error e) (some ⟨handle, !s.handles.contains handle, false⟩)
  | dropped (e : Err) (handle : UInt32) (hhandle : handle = s.tok.newHandle)
      (hhandles : s'.handles.Perm ((s.handles ++ [handle]).erase handle))
      (hnext : s'.tok.nextHandle = handle + 1) (hopen : s'.tok.storeOpen = true) :
      Creates secret s s' (.error e) (some ⟨handle, !s.handles.contains handle, true⟩)

/-- The handle that follows a handle. Zero is left out. -/
def followHandle (handle : UInt32) : UInt32 := if handle + 1 = 0 then 1 else handle + 1

theorem iterate_followHandle {handle : UInt32} (h : handle ≠ 0) (n : Nat) :
    (followHandle^[n] handle).toNat = (handle.toNat - 1 + n) % (2 ^ 32 - 1) + 1 := by
  have hrange := handle.toNat_lt
  have hpos : handle.toNat ≠ 0 := fun hz => h (UInt32.toNat_inj.1 hz)
  induction n with
  | zero => simp; omega
  | succ n ih =>
    rw [Function.iterate_succ_apply']
    generalize followHandle^[n] handle = x at ih
    unfold followHandle
    have hsucc : (x + 1).toNat = (x.toNat + 1) % 2 ^ 32 := rfl
    split
    · rename_i hz
      rw [hz] at hsucc
      change 0 = _ at hsucc
      change 1 = _
      omega
    · rename_i hz
      have hnz : (x + 1).toNat ≠ 0 := fun h => hz (UInt32.toNat_inj.1 h)
      omega

theorem nodup_iterate_followHandle {handle : UInt32} (h : handle ≠ 0) {n : Nat}
    (hn : n < 2 ^ 32) : (List.iterate followHandle handle n).Nodup := by
  rw [← List.range_map_iterate]
  refine .map_on ?_ List.nodup_range
  intro i hi j hj heq
  have hi' := iterate_followHandle h i
  have hj' := iterate_followHandle h j
  rw [heq] at hi'
  rw [List.mem_range] at hi hj
  omega

theorem createWith_outcome (c : Caller) (t : Template) (a : AddArgs) (tail : Tail) (s : Live) :
    Creates a.value s (exec (createWith C env c t a tail) s).2
      (exec (createWith C env c t a tail) s).1 (createAddition C env a s) := by
  unfold createWith createAddition
  rw [exec_bind, exec_add]
  rcases hadd : s.tok.objectAdd C (env 0) a s.disk with ⟨rv, handle?, t', d'⟩
  rcases Token.objectAdd_appends hadd with
    ⟨hrv, rfl, rfl, rfl⟩ | ⟨hvalue, hid, hroom, hopen, rfl, ht', -⟩
  · cases rv with
    | ok => exact absurd rfl hrv
    | err e => exact .refused e rfl
  · have hkeys : (⟨t', d'⟩ : Live).keys = s.keys ++ [(s.tok.newHandle, a.value)] := by
      subst ht'
      simp [Live.keys, ObjStore.push, Token.newObject]
    have hhandles := Live.handles_append hkeys
    have hnext : t'.nextHandle = s.tok.newHandle + 1 := by rw [ht']
    have hopen' : t'.storeOpen = true := by
      rw [ht']
      exact hopen
    cases rv with
    | err e => exact .stuck e _ rfl hhandles hnext hopen'
    | ok =>
      -- the object is in the file; what follows keeps it or drops its handle
      have hrefine : Refines s.tok.newHandle (refineObject C (env.after 1) c t tail
          s.tok.newHandle) := refines_refineObject c tail
      replace hrefine := hrefine ⟨t', d'⟩ hopen'
      dsimp only [Option.getD_some, Option.map_some]
      rw [exec_bind]
      rcases href : exec (refineObject C (env.after 1) c t tail s.tok.newHandle) ⟨t', d'⟩ with
        ⟨e | u, s₂⟩
      · rw [href] at hrefine
        have hdrop : Dropped s.tok.newHandle ⟨t', d'⟩ s₂ := hrefine
        exact .dropped e _ rfl (hhandles ▸ hdrop.handles) (hdrop.next.trans hnext) hdrop.opened
      · rw [href] at hrefine
        have hkept : Kept ⟨t', d'⟩ s₂ := hrefine
        exact .created _ rfl (hkept.keys.trans hkeys) (hkept.next.trans hnext)
          (hkept.opened.trans hopen')

/-- The object a call of `derive_store_secret` puts into memory. -/
def deriveAddition (t : Template) (secret : Bytes) (d : DeriveFrom) (s : Live) : Option Addition :=
  match rejectMechSupplied t, deriveClass t d.dflt with
  | .ok (), .ok cls => createAddition C env (d.addArgs s.tok t cls secret) s
  | _, _ => none

theorem deriveStoreSecret_outcome (c : Caller) (t : Template) (secret : Bytes) (d : DeriveFrom)
    (s : Live) : Creates secret s (exec (deriveStoreSecret C env c t secret d) s).2
      (exec (deriveStoreSecret C env c t secret d) s).1 (deriveAddition C env t secret d s) := by
  unfold deriveStoreSecret deriveAddition
  rw [exec_bind, exec_check]
  cases rejectMechSupplied t with
  | error e => exact .refused e rfl
  | ok u =>
    dsimp only
    rw [exec_bind, exec_check]
    cases deriveClass t d.dflt with
    | error e => exact .refused e rfl
    | ok cls =>
      dsimp only
      rw [exec_bind_of_ok (exec_get s)]
      exact createWith_outcome C env c t (d.addArgs s.tok t cls secret) _ s

end FreeHsm
