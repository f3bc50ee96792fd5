import FreeHsm.Token.Store

/-!
# What an object function does to the store

An object function refuses and changes nothing, or it makes one change: a new object
at the end, an edit of the first object with a handle, or the removal of objects.
The write that follows never undoes it.
-/

namespace FreeHsm

open ListEdit List

/-- The handles of the objects of a store, in order. -/
def ObjStore.handles (s : ObjStore) : List UInt32 := s.objs.map Obj.handle

/-- With distinct handles every object is the one its handle leads to. -/
theorem find?_of_nodup {news : List Obj} (hnodup : (news.map (·.handle)).Nodup) {o : Obj}
    (ho : o ∈ news) : news.find? (·.handle == o.handle) = some o := by
  induction news with
  | nil => cases ho
  | cons x news ih =>
    rw [map_cons, nodup_cons] at hnodup
    rcases mem_cons.1 ho with rfl | ho
    · simp
    · have hne : x.handle ≠ o.handle := fun heq => hnodup.1 (heq ▸ mem_map_of_mem ho)
      rw [find?_cons_of_neg (by simpa using hne)]
      exact ih hnodup.2 ho

theorem ObjStore.handles_remove (s : ObjStore) (handle : UInt32) :
    List.Perm (s.remove handle).handles (s.handles.erase handle) := by
  have herase : s.handles.erase handle = (s.objs.eraseP (·.handle == handle)).map Obj.handle := by
    rw [handles, erase_eq_eraseP', eraseP_map]
    rfl
  rw [herase, eraseP_eq_eraseIdx, handles, remove]
  dsimp only
  cases hidx : s.objs.findIdx? (·.handle == handle) with
  | none => exact .refl _
  | some i => exact (swapRemove_perm (findIdx?_eq_some_iff_getElem.1 hidx).1).map _

/-- The handle a setter is for. -/
def ObjectOp.setter? : ObjectOp → Option UInt32
  | .add _ | .destroy _ | .destroySession _ => none
  | .setUsage handle _ | .markSession handle _ | .setMeta handle .. | .setAllowedMechs handle _
  | .setTmpl handle .. | .setLabel handle _ | .setId handle _ | .setFlags handle _
  | .setFlags2 handle _ | .setFlags3 handle _ => some handle

/-- The first flag byte after a setter. -/
def ObjectOp.newFlags (op : ObjectOp) (o : Obj) : UInt8 :=
  match op with
  | .setFlags _ flags => flags
  | _ => o.flags

/-- The second. -/
def ObjectOp.newFlags2 (op : ObjectOp) (o : Obj) : UInt8 :=
  match op with
  | .setFlags2 _ flags2 => flags2
  | .setAllowedMechs _ _ => o.flags2 ||| objf2HasAllowedMech
  | .setTmpl _ which _ => o.flags2 ||| which.presentBit
  | _ => o.flags2

/-- The third. -/
def ObjectOp.newFlags3 (op : ObjectOp) (o : Obj) : UInt8 :=
  match op with
  | .setFlags3 _ flags3 => flags3
  | _ => o.flags3

/-- The owner after it. -/
def ObjectOp.newOwner (op : ObjectOp) (o : Obj) : UInt32 :=
  match op with
  | .markSession _ owner => owner
  | _ => o.ownerSession

/-- An object before and after a setter. -/
structure Obj.Edited (op : ObjectOp) (o o' : Obj) : Prop where
  handle : o'.handle = o.handle
  cls : o'.cls = o.cls
  keyType : o'.keyType = o.keyType
  value : o'.value = o.value
  flags : o'.flags = op.newFlags o
  flags2 : o'.flags2 = op.newFlags2 o
  flags3 : o'.flags3 = op.newFlags3 o
  owner : o'.ownerSession = op.newOwner o

/-- A setter refuses, or edits the first object with its handle. -/
inductive Token.Edits (op : ObjectOp) (t t' : Token) : Prop
  | refused (h : t' = t)
  | edited (handle : UInt32) (o o' : Obj) (hop : op.setter? = some handle)
      (hopen : t.storeOpen = true) (hfind : t.objects.find? handle = some o)
      (hedit : o.Edited op o')
      (h : t' = { t with objects := t.objects.modify handle fun _ => o' })

/-- The change an object function makes in memory once its checks have passed. -/
inductive Token.Changed (op : ObjectOp) (t : Token) : Token → Prop
  | added (a : AddArgs) (hop : op = .add a) (hopen : t.storeOpen = true)
      (hvalue : a.value.length ≤ objValueMax) (hid : a.id.length ≤ 32)
      (hroom : t.objects.objs.length < maxObjects) :
      Changed op t { t with
        objects := t.objects.push (t.newObject a hvalue hid) hroom
        nextHandle := t.newHandle + 1 }
  | edited (handle : UInt32) (o o' : Obj) (hop : op.setter? = some handle)
      (hopen : t.storeOpen = true) (hfind : t.objects.find? handle = some o)
      (hedit : o.Edited op o') :
      Changed op t { t with objects := t.objects.modify handle fun _ => o' }
  | removed (handle : UInt32) (hop : op = .destroy handle) (hopen : t.storeOpen = true) :
      Changed op t { t with objects := t.objects.remove handle }
  | swept (owner : UInt32) (hop : op = .destroySession owner) (howner : owner ≠ 0) :
      Changed op t { t with objects := t.objects.removeOwned owner }

namespace Token

variable {C : Crypto} {env : Env} {t t' : Token} {d d' : Disk} {rv : Rv}

variable {op : ObjectOp} {handle : UInt32}

/-- A function that changes nothing, or makes its change and then writes. Which of the two, and the
change, do not depend on the disk, nor on what becomes of the write. -/
def Moves (env₀ : Env) (op : ObjectOp) (t : Token) (f : Crypto → Env → Disk → Rv × Token × Disk) :
    Prop :=
  (∃ rv, (rv = .ok → ∃ owner, op = .destroySession owner) ∧
      ∀ C env d, env.valueAlloc = env₀.valueAlloc → f C env d = (rv, t, d)) ∨
    ∃ t₁, t.Changed op t₁ ∧ ∀ C env d, env.valueAlloc = env₀.valueAlloc →
      f C env d = ((writeAtomic C env t₁ d).1, t₁, (writeAtomic C env t₁ d).2)

theorem Moves.refused {f : Crypto → Env → Disk → Rv × Token × Disk} (e : Err)
    (h : ∀ C env' d, env'.valueAlloc = env.valueAlloc → f C env' d = (.err e, t, d)) :
    Moves env op t f := .inl ⟨.err e, nofun, h⟩

theorem objectUpdate_moves {f : Env → Obj → Except Err Obj} (hop : op.setter? = some handle)
    (halloc : ∀ env', env'.valueAlloc = env.valueAlloc → f env' = f env)
    (hf : ∀ o o', f env o = .ok o' → o.Edited op o') :
    Moves env op t fun C env => t.objectUpdate C env handle (f env) := by
  cases hopen : t.storeOpen with
  | false =>
    refine .refused .userNotLoggedIn fun C env' d h => ?_
    simp only [objectUpdate, hopen]
    rfl
  | true =>
    cases hfind : t.objects.find? handle with
    | none =>
      refine .refused .keyHandleInvalid fun C env' d h => ?_
      simp only [objectUpdate, hopen, hfind]
      rfl
    | some o =>
      cases ho' : f env o with
      | error e =>
        refine .refused e fun C env' d h => ?_
        simp only [objectUpdate, hopen, hfind, halloc env' h, ho']
        rfl
      | ok o' =>
        refine .inr ⟨_, .edited handle o o' hop hopen hfind (hf o o' ho'), fun C env' d h => ?_⟩
        simp only [objectUpdate, hopen, hfind, halloc env' h, ho']
        rfl

theorem objectUpdate_ok {f : Obj → Except Err Obj}
    (h : t.objectUpdate C env handle f d = (.ok, t', d')) :
    ∃ o o', t.objects.find? handle = some o ∧ f o = .ok o' ∧
      t' = { t with objects := t.objects.modify handle fun _ => o' } := by
  unfold objectUpdate at h
  split at h
  · cases h
  split at h
  · cases h
  rename_i o hfind
  split at h
  · cases h
  rename_i o' ho'
  exact ⟨o, o', hfind, ho', (congrArg (·.2.1) h).symm⟩

theorem setter_moves (hop : op.setter? = some handle) :
    Moves env op t fun C env => t.object C env op := by
  cases op with
  | add | destroy | destroySession => cases hop
  | setUsage | setLabel | setFlags2 | setFlags3 =>
    refine objectUpdate_moves (f := fun _ _ => .ok _) rfl (fun _ _ => rfl) ?_
    rintro o _ ⟨⟩
    exact ⟨rfl, rfl, rfl, rfl, rfl, rfl, rfl, rfl⟩
  | setFlags handle flags =>
    unfold object
    dsimp only [setFlags]
    refine objectUpdate_moves rfl (fun env' h => by simp only [h]) fun o o' ho => ?_
    -- a value that becomes sensitive may have to move
    split at ho
    · split at ho <;> cases ho
      exact ⟨rfl, rfl, rfl, rfl, rfl, rfl, rfl, rfl⟩
    · cases ho
      exact ⟨rfl, rfl, rfl, rfl, rfl, rfl, rfl, rfl⟩
  | markSession | setMeta | setAllowedMechs | setId =>
    unfold object
    dsimp only [markSession, setMeta, setAllowedMechs, setId]
    split
    all_goals first
      | (refine objectUpdate_moves (f := fun _ _ => .ok _) rfl (fun _ _ => rfl) ?_
         rintro o _ ⟨⟩
         exact ⟨rfl, rfl, rfl, rfl, rfl, rfl, rfl, rfl⟩)
      | exact .refused _ fun _ _ _ _ => rfl
  | setTmpl handle which raw =>
    unfold object
    dsimp only [setTmpl]
    split
    · exact .refused _ fun _ _ _ _ => rfl
    split
    · refine objectUpdate_moves (f := fun _ _ => .ok _) rfl (fun _ _ => rfl) ?_
      rintro o _ ⟨⟩
      cases which <;> exact ⟨rfl, rfl, rfl, rfl, rfl, rfl, rfl, rfl⟩
    · exact .refused _ fun _ _ _ _ => rfl

/-- `fhsm_token_object_add` refuses, or appends the new object and then writes. -/
theorem objectAdd_moves (env : Env) (t : Token) (a : AddArgs) :
    (∃ e, ∀ C env' d, env'.valueAlloc = env.valueAlloc →
      t.objectAdd C env' a d = (.err e, none, t, d)) ∨
      ∃ hvalue hid hroom, t.storeOpen = true ∧ ∀ C env' d, env'.valueAlloc = env.valueAlloc →
        t.objectAdd C env' a d =
        let t₁ := { t with
          objects := t.objects.push (t.newObject a hvalue hid) hroom
          nextHandle := t.newHandle + 1 }
        ((writeAtomic C env' t₁ d).1, some t.newHandle, t₁, (writeAtomic C env' t₁ d).2) := by
  unfold objectAdd
  by_cases hvalue : a.value.length ≤ objValueMax
  case neg => exact .inl ⟨_, fun _ _ _ _ => dif_neg hvalue⟩
  by_cases hid : a.id.length ≤ 32
  case neg => exact .inl ⟨_, fun _ _ _ _ => (dif_pos hvalue).trans (dif_neg hid)⟩
  simp only [dif_pos hvalue, dif_pos hid]
  cases hopen : t.storeOpen with
  | false => exact .inl ⟨_, fun _ _ _ _ => rfl⟩
  | true =>
    by_cases hroom : t.objects.objs.length < maxObjects
    case neg => exact .inl ⟨_, fun _ _ _ _ => dif_neg hroom⟩
    simp only [dif_pos hroom]
    cases hvalueAlloc : allocValue env.valueAlloc 0 (t.newObject a hvalue hid) with
    | error e => exact .inl ⟨e, fun _ _ _ h => by rw [h, hvalueAlloc]; rfl⟩
    | ok u => exact .inr ⟨hvalue, hid, hroom, trivial, fun _ _ _ h => by rw [h, hvalueAlloc]; rfl⟩

theorem objectAdd_appends {a : AddArgs} {handle : Option UInt32}
    (h : t.objectAdd C env a d = (rv, handle, t', d')) :
    (rv ≠ .ok ∧ handle = none ∧ t' = t ∧ d' = d) ∨
      ∃ hvalue hid hroom, t.storeOpen = true ∧ handle = some t.newHandle ∧
        t' = { t with
          objects := t.objects.push (t.newObject a hvalue hid) hroom
          nextHandle := t.newHandle + 1 } ∧
        writeAtomic C env t' d = (rv, d') := by
  rcases objectAdd_moves env t a with ⟨e, hadd⟩ | ⟨hvalue, hid, hroom, hopen, hadd⟩
  · cases (hadd C env d rfl).symm.trans h
    exact .inl ⟨nofun, rfl, rfl, rfl⟩
  · cases (hadd C env d rfl).symm.trans h
    exact .inr ⟨hvalue, hid, hroom, hopen, rfl, rfl, rfl⟩

/-- Every object function changes nothing, or makes its change and writes. -/
theorem object_moves (env : Env) (t : Token) (op : ObjectOp) :
    (∃ rv, (rv = .ok → ∃ owner, op = .destroySession owner) ∧
      ∀ C env' d, env'.valueAlloc = env.valueAlloc → t.object C env' op d = (rv, t, d)) ∨
    ∃ t₁, t.Changed op t₁ ∧ ∀ C env' d, env'.valueAlloc = env.valueAlloc →
      t.object C env' op d = ((writeAtomic C env' t₁ d).1, t₁, (writeAtomic C env' t₁ d).2) := by
  show Moves env op t fun C env => t.object C env op
  cases hop : op.setter? with
  | some handle => exact setter_moves hop
  | none =>
    cases op with
    | add a =>
      rcases objectAdd_moves env t a with ⟨e, hadd⟩ | ⟨hvalue, hid, hroom, hopen, hadd⟩
      · exact .refused e fun C env' d h => by simp only [object, hadd C env' d h]
      · exact .inr ⟨_, .added a rfl hopen hvalue hid hroom, fun C env' d h => by
          simp only [object, hadd C env' d h]⟩
    | destroy handle =>
      unfold object
      dsimp only [objectDestroy]
      cases hopen : t.storeOpen with
      | false => exact .refused _ fun _ _ _ _ => rfl
      | true =>
        cases t.objects.find? handle with
        | none => exact .refused _ fun _ _ _ _ => rfl
        | some o => exact .inr ⟨_, .removed handle rfl hopen, fun _ _ _ _ => rfl⟩
    | destroySession owner =>
      unfold object destroySessionObjects
      by_cases howner : owner = 0
      case pos => exact .refused _ fun _ _ _ _ => if_pos howner
      simp only [howner, ↓reduceIte]
      split
      · exact .inr ⟨_, .swept owner rfl howner, fun _ _ _ _ => rfl⟩
      · exact .inl ⟨_, fun _ => ⟨owner, rfl⟩, fun _ _ _ _ => rfl⟩
    | setUsage | setLabel | setFlags2 | setFlags3 | setFlags | markSession | setMeta
    | setAllowedMechs | setId | setTmpl => cases hop

theorem object_cases (h : t.object C env op d = (rv, t', d')) : StoreStep C env t d rv t' d' := by
  rcases object_moves env t op with ⟨rv₁, -, hobj⟩ | ⟨t₁, hchanged, hobj⟩
  · cases (hobj C env d rfl).symm.trans h
    exact .inl ⟨rfl, rfl⟩
  · cases (hobj C env d rfl).symm.trans h
    cases hchanged <;> exact .inr ⟨_, _, rfl, rfl⟩

theorem object_edits (hop : op.setter? = some handle) (h : t.object C env op d = (rv, t', d')) :
    t.Edits op t' := by
  rcases object_moves env t op with ⟨rv₁, -, hobj⟩ | ⟨t₁, hchanged, hobj⟩
  · cases (hobj C env d rfl).symm.trans h
    exact .refused rfl
  · cases (hobj C env d rfl).symm.trans h
    cases hchanged with
    | added a hadd | removed a hadd | swept a hadd =>
      subst hadd
      cases hop
    | edited handle o o' hset hopen hfind hedit =>
      exact .edited handle o o' hset hopen hfind hedit rfl

theorem Edits.map_eq {β : Type} {g : Obj → β} (h : t.Edits op t')
    (hg : ∀ o o', o.Edited op o' → g o' = g o) : t'.objects.objs.map g = t.objects.objs.map g := by
  cases h with
  | refused h => rw [h]
  | edited handle o o' _ _ hfind hedit h =>
    subst h
    refine map_modifyFirst fun a ha => ?_
    obtain rfl : o = a := Option.some.inj (hfind.symm.trans ha)
    exact hg o o' hedit

/-- The object a setter is for is still there, as it was or edited. -/
theorem Edits.find? {o : Obj} (h : t.Edits op t') (hop : op.setter? = some handle)
    (ho : t.objects.find? handle = some o) :
    t'.objects.find? handle = some o ∨ ∃ o', t'.objects.find? handle = some o' ∧ o.Edited op o' := by
  cases h with
  | refused h =>
    rw [h]
    exact .inl ho
  | edited handle' o₁ o' hop' _ hfind hedit h =>
    obtain rfl : handle = handle' := Option.some.inj (hop.symm.trans hop')
    obtain rfl : o = o₁ := Option.some.inj (ho.symm.trans hfind)
    subst h
    refine .inr ⟨o', ?_, hedit⟩
    have hhandle := find?_some hfind
    exact find?_modifyFirst hfind (by rw [hedit.handle]; exact hhandle)

theorem object_setFlags_ok {flags : UInt8}
    (h : t.object C env (.setFlags handle flags) d = (.ok, t', d')) :
    ∃ o, t'.objects.find? handle = some o ∧ o.flags = flags := by
  obtain ⟨o, o', hfind, hset, rfl⟩ := objectUpdate_ok h
  have hhandle := find?_some hfind
  have hflags : o'.handle = o.handle ∧ o'.flags = flags := by
    split at hset
    · split at hset <;> cases hset
      exact ⟨rfl, rfl⟩
    · cases hset
      exact ⟨rfl, rfl⟩
  exact ⟨o', find?_modifyFirst hfind (by rw [hflags.1]; exact hhandle), hflags.2⟩

theorem object_setFlags2_ok {flags2 : UInt8}
    (h : t.object C env (.setFlags2 handle flags2) d = (.ok, t', d')) :
    ∃ o, t'.objects.find? handle = some o ∧ o.flags2 = flags2 := by
  simp only [object, setFlags2] at h
  obtain ⟨o, o', hfind, hset, rfl⟩ := objectUpdate_ok h
  have hhandle := find?_some hfind
  cases hset
  exact ⟨_, find?_modifyFirst hfind hhandle, rfl⟩

theorem Edits.nextHandle (h : t.Edits op t') : t'.nextHandle = t.nextHandle := by
  cases h with
  | refused h => rw [h]
  | edited _ _ _ _ _ _ _ h => rw [h]

theorem Edits.storeOpen (h : t.Edits op t') : t'.storeOpen = t.storeOpen := by
  cases h with
  | refused h => rw [h]
  | edited _ _ _ _ _ _ _ h =>
    rw [h]
    rfl

/-- `fhsm_token_object_destroy` on an open store removes the first object with the handle, if
there is one. -/
theorem objectDestroy_perm (hopen : t.storeOpen = true)
    (h : t.objectDestroy C env handle d = (rv, t', d')) :
    t'.objects.handles.Perm (t.objects.handles.erase handle) ∧
      t'.nextHandle = t.nextHandle ∧ t'.storeOpen = true := by
  unfold objectDestroy at h
  rw [if_neg (by simp [hopen])] at h
  split at h
  · -- nothing has the handle
    rename_i hfind
    cases h
    have hnone : handle ∉ t.objects.handles := by
      intro hmem
      obtain ⟨o, ho, rfl⟩ := mem_map.1 hmem
      simpa using find?_eq_none.1 hfind o ho
    rw [erase_of_not_mem hnone]
    exact ⟨.refl _, rfl, hopen⟩
  · cases h
    exact ⟨t.objects.handles_remove handle, rfl, hopen⟩

end Token

end FreeHsm
