import FreeHsm.Token.ObjectStep
import FreeHsm.Token.StoreInvariant

/-!
# Object handles

Every object function looks an object up by its handle and takes the first match,
so two objects with one handle are one object to the rest of the module. Handles
come from `next_handle`, a 32-bit counter that the blob carries and that skips 0
when it wraps.

As long as the counter has not come round, it is above every handle in the store
and the handles are distinct, through destroys, session ends, `reinit` and reloads.
When it comes round over a store that is not empty, the next object gets a handle
that may be taken.
-/

namespace FreeHsm

open ListEdit Transition World ObjStore Token

/-- The handles are distinct, and a next handle that has not wrapped to 0 is above them. -/
structure HandlesOk (s : ObjStore) (next : UInt32) : Prop where
  nodup : s.handles.Nodup
  below : next ≠ 0 → ∀ h ∈ s.handles, h < next

/-- The handles of the objects that are read back are handles of the store. -/
theorem ObjStore.handles_persisted (s : ObjStore) (publicOnly : Bool) :
    List.Sublist (s.persisted publicOnly).handles s.handles := by
  have hmap : (s.persisted publicOnly).handles =
      (s.objs.filter (Obj.serialized publicOnly)).map Obj.handle := by
    rw [handles, persisted, List.map_map]
    rfl
  rw [hmap]
  exact List.filter_sublist.map Obj.handle

theorem HandlesOk.of_subperm {s s' : ObjStore} {next : UInt32} (h : HandlesOk s next)
    (hsub : List.Subperm s'.handles s.handles) : HandlesOk s' next :=
  ⟨nodup_of_subperm hsub h.nodup, fun hnext _ hmem => h.below hnext _ (hsub.subset hmem)⟩

theorem handlesOk_closed : StoreClosed HandlesOk where
  empty _ := ⟨List.nodup_nil, fun _ _ hmem => nomatch hmem⟩
  persisted s _ publicOnly h := h.of_subperm (s.handles_persisted publicOnly).subperm

namespace Token

variable {C : Crypto} {env : Env} {t t' : Token} {d d' : Disk} {rv : Rv}

/-! ## What the object functions do to the handles -/

/-- Every object function but `object_add` keeps the counter and adds no handle. -/
theorem object_handles {op : ObjectOp} (hadd : ∀ a, op ≠ .add a)
    (h : t.object C env op d = (rv, t', d')) :
    t'.nextHandle = t.nextHandle ∧ List.Subperm t'.objects.handles t.objects.handles := by
  -- a call that is refused changes nothing
  have hsame : ∀ {x : Rv × Token × Disk}, x = (rv, t', d') → x.2.1 = t →
      t'.nextHandle = t.nextHandle ∧ List.Subperm t'.objects.handles t.objects.handles := by
    rintro _ rfl rfl
    exact ⟨rfl, .refl _⟩
  cases hop : op.setter? with
  | some handle =>
    have hedits := object_edits hop h
    have hkeep : t'.objects.handles = t.objects.handles := hedits.map_eq fun _ _ ho => ho.handle
    rw [hkeep]
    exact ⟨hedits.nextHandle, .refl _⟩
  | none =>
    cases op with
    | add a => exact absurd rfl (hadd a)
    | destroy handle =>
      simp only [object, objectDestroy] at h
      split at h
      · exact hsame h rfl
      split at h
      · exact hsame h rfl
      · cases h
        exact ⟨rfl, subperm_map _ (t.objects.remove_subperm handle)⟩
    | destroySession owner =>
      simp only [object, destroySessionObjects] at h
      split at h
      · exact hsame h rfl
      split at h
      · cases h
        exact ⟨rfl, subperm_map _ (t.objects.removeOwned_subperm owner)⟩
      · exact hsame h rfl
    | _ => cases hop

/-- `object_add` refuses, or appends an object with the next handle to an open store. -/
theorem objectAdd_handles {a : AddArgs} {handle : Option UInt32}
    (h : t.objectAdd C env a d = (rv, handle, t', d')) :
    (handle = none ∧ t' = t) ∨
      (t.storeOpen = true ∧ handle = some t.newHandle ∧ t'.nextHandle = t.newHandle + 1 ∧
        t'.objects.handles = t.objects.handles ++ [t.newHandle]) := by
  rcases objectAdd_appends h with ⟨-, hnone, rfl, -⟩ | ⟨hvalue, hid, hroom, hopen, hsome, rfl, -⟩
  · exact .inl ⟨hnone, rfl⟩
  · refine .inr ⟨hopen, hsome, rfl, ?_⟩
    simp [handles, push, newObject]

/-- When `object_add` meets a counter that has wrapped, the store is empty. -/
def WrapsEmpty (t : Token) : Prop :=
  t.storeOpen = true → t.nextHandle = 0 → t.objects.objs = []

theorem newHandle_not_mem (h : HandlesOk t.objects t.nextHandle) (hopen : t.storeOpen = true)
    (hwrap : t.WrapsEmpty) : ∀ x ∈ t.objects.handles, x < t.newHandle := by
  intro x hx
  unfold newHandle
  split
  · rename_i hzero
    rw [handles, hwrap hopen hzero] at hx
    cases hx
  · rename_i hzero
    exact h.below hzero x hx

theorem objectAdd_handlesOk {a : AddArgs} {handle : Option UInt32}
    (h : t.objectAdd C env a d = (rv, handle, t', d')) (ht : HandlesOk t.objects t.nextHandle)
    (hwrap : t.WrapsEmpty) : HandlesOk t'.objects t'.nextHandle := by
  rcases objectAdd_handles h with ⟨-, rfl⟩ | ⟨hopen, -, hnext, hhandles⟩
  · exact ht
  · have hbelow := newHandle_not_mem ht hopen hwrap
    refine ⟨?_, fun hnz x hx => ?_⟩
    · rw [hhandles, List.nodup_append]
      refine ⟨ht.nodup, by simp, ?_⟩
      rintro x hx y hy rfl
      rw [List.mem_singleton] at hy
      exact UInt32.lt_irrefl _ (hy ▸ hbelow x hx)
    · -- the counter did not wrap in this call, so it is above the new handle
      rw [hnext] at hnz ⊢
      have hlt : t.newHandle < t.newHandle + 1 := by
        rw [UInt32.lt_iff_toNat_lt, UInt32.toNat_add]
        have hne : (t.newHandle + 1).toNat ≠ 0 := fun hz => hnz (UInt32.toNat_inj.1 hz)
        rw [UInt32.toNat_add] at hne
        have := t.newHandle.toNat_lt
        simp only [UInt32.toNat_one] at hne ⊢
        omega
      rw [hhandles, List.mem_append, List.mem_singleton] at hx
      rcases hx with hx | rfl
      · exact UInt32.lt_trans (hbelow x hx) hlt
      · exact hlt

end Token

/-! ## Runs -/

/-- No object is added to a store that is not empty when the counter has wrapped. -/
def NoWrapOverObjects (w : World) : TokenOp → Prop
  | .object _ (.add _) => ∀ t, w.tok = some t → t.WrapsEmpty
  | _ => True

theorem keepsStore_handlesOk {C : Crypto} (w : World) (op : TokenOp)
    (h : NoWrapOverObjects w op) : KeepsStore C HandlesOk w op := by
  cases op with
  | object env op =>
    intro t htok ht
    by_cases hadd : ∃ a, op = .add a
    · obtain ⟨a, rfl⟩ := hadd
      exact objectAdd_handlesOk rfl ht (h t htok)
    · obtain ⟨hnext, hsub⟩ := object_handles (C := C) (not_exists.1 hadd) rfl
      have hkept := ht.of_subperm hsub
      rwa [← hnext] at hkept
  | _ => trivial

/-- The handle an addition returns is the handle of no object of the store it is added to. -/
def AddIsFresh (C : Crypto) (w : World) (op : TokenOp) : Prop :=
  ∀ env a t handle, op = .object env (.add a) → w.tok = some t →
    (t.objectAdd C env a w.disk).2.1 = some handle → ∀ o ∈ t.objects.objs, o.handle ≠ handle

/-- In every run in which the counter does not wrap over objects, the handles of the store are
    distinct and every addition returns a handle that no object has. -/
theorem handles_distinct {C : Crypto} (hC : C.OpensOwn) (ops : List TokenOp)
    (hwrap : Along (step C) NoWrapOverObjects ⟨none, ⟨none, []⟩⟩ ops) :
    (∀ t, (run (step C) ⟨none, ⟨none, []⟩⟩ ops).tok = some t → t.objects.handles.Nodup) ∧
    Along (step C) (AddIsFresh C) ⟨none, ⟨none, []⟩⟩ ops := by
  have hstart : World.Stores C HandlesOk ⟨none, ⟨none, []⟩⟩ := ⟨nofun, nofun, nofun⟩
  have hstep : ∀ w op, World.Stores C HandlesOk w → NoWrapOverObjects w op →
      (w.step C op).Stores C HandlesOk := fun w op hw h =>
    hw.step hC handlesOk_closed w op (keepsStore_handlesOk w op h)
  refine ⟨fun t ht => ((run_invariant hstep hstart hwrap).tok t ht).nodup, ?_⟩
  refine along_of_invariant hstep ?_ hstart hwrap
  rintro w _ hw hnowrap env a t handle rfl htok hret o ho heq
  rcases hadd : t.objectAdd C env a w.disk with ⟨rv, ret, t', d'⟩
  rw [hadd] at hret
  rcases objectAdd_handles hadd with ⟨rfl, -⟩ | ⟨hopen, rfl, -⟩
  · cases hret
  · cases hret
    have hlt := newHandle_not_mem (hw.tok t htok) hopen (hnowrap t htok) o.handle
      (List.mem_map_of_mem ho)
    rw [heq] at hlt
    exact UInt32.lt_irrefl _ hlt

/-- A PIN long enough for `fhsm_token_init`, and the arguments of a small object. -/
def eightDigits : Bytes := List.replicate 8 0x31

def smallObject : AddArgs := ⟨ckoPublicKey, 0, [], [], [], 0⟩

/-- Two additions to a new token. -/
theorem handles_distinct_twoAdds :
    let ops : List TokenOp := [.init .quiet eightDigits [], .object .quiet (.add smallObject),
      .object .quiet (.add smallObject)]
    (∃ t, (run (step .plain) ⟨none, ⟨none, []⟩⟩ ops).tok = some t ∧
      t.objects.handles = [1, 2]) ∧
    Along (step .plain) (AddIsFresh .plain) ⟨none, ⟨none, []⟩⟩ ops := by
  intro ops
  have hwrap : Along (.step .plain) NoWrapOverObjects ⟨none, ⟨none, []⟩⟩ ops := by
    refine ⟨trivial, ?_, ?_, trivial⟩
    · rintro t ⟨⟩ - hzero
      cases hzero
    · rintro t ⟨⟩ - hzero
      cases hzero
  exact ⟨⟨_, rfl, rfl⟩, (handles_distinct Crypto.opensOwn_plain ops hwrap).2⟩

/-! ## The counter comes round -/

/-- An open store with one object, whose handle is 1. -/
def OneObject (next : UInt32) (w : World) : Prop :=
  ∃ t o, w.tok = some t ∧ t.storeOpen = true ∧ t.objects.objs = [o] ∧ o.handle = 1 ∧
    t.nextHandle = next

/-- A second object is added. -/
theorem OneObject.add {w : World} {next : UInt32} (h : OneObject next w) :
    ∃ t o o', (w.step .plain (.object .quiet (.add smallObject))).tok = some t ∧
      t.storeOpen = true ∧ t.objects.objs = [o, o'] ∧ o.handle = 1 ∧
      o'.handle = (if next = 0 then 1 else next) ∧ t.nextHandle = o'.handle + 1 := by
  obtain ⟨t, o, htok, hopen, hobjs, ho, rfl⟩ := h
  have hroom : t.objects.objs.length < maxObjects := by
    simp [hobjs, maxObjects]
  let o' := t.newObject smallObject (Nat.zero_le _) (Nat.zero_le _)
  have hadd : (t.objectAdd .plain .quiet smallObject w.disk).2.2.1 =
      { t with objects := t.objects.push o' hroom, nextHandle := t.newHandle + 1 } := by
    have halloc : allocValue Env.quiet.valueAlloc 0 o' = .ok () := if_pos (.inr rfl)
    simp only [objectAdd, dif_pos (show smallObject.value.length ≤ objValueMax from Nat.zero_le _),
      dif_pos (show smallObject.id.length ≤ 32 from Nat.zero_le _), hopen, Bool.not_true,
      Bool.false_eq_true, if_false, dif_pos hroom, halloc, o']
    rfl
  refine ⟨{ t with objects := t.objects.push o' hroom, nextHandle := t.newHandle + 1 }, o, o', ?_,
    hopen, ?_, ho, rfl, rfl⟩
  · simp only [step, call, htok, object, hadd]
  · rw [← List.singleton_append, ← hobjs]
    rfl

/-- The second object is destroyed again: only the counter has moved. -/
theorem OneObject.churn {w : World} {next : UInt32} (h : OneObject next w) (hzero : next ≠ 0)
    (hone : next ≠ 1) :
    OneObject (next + 1) (run (step .plain) w
      [.object .quiet (.add smallObject), .object .quiet (.destroy next)]) := by
  obtain ⟨t, o, o', htok, hopen, hobjs, ho, ho', hnext⟩ := h.add
  rw [if_neg hzero] at ho'
  have hother : (o.handle == next) = false := by
    rw [ho, beq_eq_false_iff_ne]
    exact hone.symm
  have hfind : t.objects.find? next = some o' := by
    simp [find?, hobjs, hother, ho']
  have hremove : (t.objects.remove next).objs = [o] := by
    simp [remove, hobjs, List.findIdx?_cons, hother, ho', swapRemove]
  refine ⟨{ t with objects := t.objects.remove next }, o, ?_, hopen, hremove, ho, ?_⟩
  · simp only [run_cons, run_nil]
    generalize step .plain w (.object .quiet (.add smallObject)) = w₁ at htok
    simp only [step, call, htok, object, objectDestroy, hopen, hfind,
      Bool.not_true, Bool.false_eq_true, if_false]
  · rw [← ho']
    exact hnext

/-- Calls that add and destroy an object for each of `n` handles, from handle 2 on. -/
def churns (n : Nat) : List TokenOp :=
  (List.range n).flatMap fun i =>
    [.object .quiet (.add smallObject), .object .quiet (.destroy (UInt32.ofNat (2 + i)))]

theorem OneObject.run_churns {w : World} (h : OneObject 2 w) (n : Nat) (hn : 2 + n ≤ 2 ^ 32) :
    OneObject (UInt32.ofNat (2 + n)) (run (step .plain) w (churns n)) := by
  induction n with
  | zero => exact h
  | succ n ih =>
    have htoNat : (UInt32.ofNat (2 + n)).toNat = 2 + n := by
      rw [UInt32.toNat_ofNat']
      exact Nat.mod_eq_of_lt (by omega)
    have hzero : UInt32.ofNat (2 + n) ≠ 0 := by
      intro h
      rw [h] at htoNat
      simp at htoNat
      omega
    have hone : UInt32.ofNat (2 + n) ≠ 1 := by
      intro h
      rw [h] at htoNat
      simp at htoNat
      omega
    have hstep := (ih (by omega)).churn hzero hone
    rw [← UInt32.ofNat_one, ← UInt32.ofNat_add] at hstep
    rw [churns, List.range_succ, List.flatMap_append, run_append]
    exact hstep

/-- One object stays while 2³² - 2 others come and go; the next one gets its handle. -/
theorem handles_collide :
    ∃ t, (run (step .plain) ⟨none, ⟨none, []⟩⟩
        ([.init .quiet eightDigits [], .object .quiet (.add smallObject)] ++
          churns (2 ^ 32 - 2) ++ [.object .quiet (.add smallObject)])).tok = some t ∧
      t.objects.handles = [1, 1] := by
  have hstart : OneObject 2 (run (.step .plain) ⟨none, ⟨none, []⟩⟩
      [.init .quiet eightDigits [], .object .quiet (.add smallObject)]) :=
    ⟨_, _, rfl, rfl, rfl, rfl, rfl⟩
  have hround := hstart.run_churns (2 ^ 32 - 2) (by decide)
  have hwrapped : UInt32.ofNat (2 + (2 ^ 32 - 2)) = 0 := by decide
  rw [hwrapped, ← run_append] at hround
  obtain ⟨t, o, o', htok, -, hobjs, ho, ho', -⟩ := hround.add
  refine ⟨t, ?_, by simp [handles, hobjs, ho, ho']⟩
  rw [run_append, run_cons, run_nil, htok]

end FreeHsm
