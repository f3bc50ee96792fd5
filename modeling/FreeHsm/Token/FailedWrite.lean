import FreeHsm.Token.Auth
import FreeHsm.Token.ObjectStep

/-!
# Object functions whose write fails

Every object function changes the store in memory first and writes the token file
second, and none of them takes the change back when the write fails. `objectEffect` is
the store in memory once the checks of a call have passed: what the call leaves where
the write succeeds.
-/

namespace FreeHsm

/-- An image of an open store can be written: there is memory for the blob, its encryption
succeeds, and so do the calls on the temporary file. -/
def Env.writesStore (env : Env) (objs : ObjStore) : Bool :=
  env.writeOk &&
    (objs.objs.isEmpty || (env.heapAlloc && !env.moduleError && env.blobErr.isNone))

/-- The same environment, where every image can be written. -/
def Env.letsWrite (env : Env) : Env :=
  { env with writeOk := true, heapAlloc := true, moduleError := false, blobErr := none }

namespace Token

variable {C : Crypto} {env : Env} {t t' : Token} {d d' : Disk} {rv : Rv}

/-- A write of an open store succeeds just when the system lets it. -/
theorem writeAtomic_ok_iff (hopen : t.storeOpen = true) :
    (writeAtomic C env t d).1 = .ok ↔ env.writesStore t.objects = true := by
  obtain ⟨⟨dek, hdek⟩, hloaded⟩ := storeOpen_eq_true.1 hopen
  unfold writeAtomic Env.writesStore
  simp only [storeBytes, hdek, hloaded]
  by_cases hobjs : t.objects.objs = []
  · rw [if_pos hobjs, hobjs]
    cases env.writeOk <;> simp
  · have hsome : t.objects.objs.isEmpty = false := by simpa using hobjs
    rw [if_neg hobjs, hsome, Env.sealBlob]
    cases env.heapAlloc <;> cases env.moduleError <;> cases env.blobErr <;>
      cases env.writeOk <;> simp

/-- The token in memory once the checks of a call have passed. `none` is a call that its checks
refuse. -/
def objectEffect (env : Env) (t : Token) (op : ObjectOp) : Option Token :=
  let r := t.object .plain env.letsWrite op ⟨none, []⟩
  if r.1 = .ok then some r.2.1 else none

theorem Changed.storeOpen {op : ObjectOp} {t₁ : Token} (h : t.Changed op t₁)
    (hop : ∀ owner, op ≠ .destroySession owner) : t.storeOpen = true ∧ t₁.storeOpen = true := by
  cases h with
  | added _ _ hopen | edited _ _ _ _ hopen | removed _ _ hopen => exact ⟨hopen, hopen⟩
  | swept owner hswept => exact absurd hswept (hop owner)

/-! ## Calls that fail -/

/-- The objects and the counter for handles are the same. -/
def SameStore (t t' : Token) : Prop := t'.objects = t.objects ∧ t'.nextHandle = t.nextHandle

/-- A call that fails leaves the store as it was just when its checks refuse it, its image can be
written, or the change is none. -/
theorem failed_object_restores_iff (C : Crypto) (env : Env) (t : Token) (d : Disk) (op : ObjectOp)
    (hop : ∀ owner, op ≠ .destroySession owner) :
    ((t.object C env op d).1 ≠ .ok → t.SameStore (t.object C env op d).2.1) ↔
      ∀ t₁, t.objectEffect env op = some t₁ →
        env.writesStore t₁.objects = true ∨ t.SameStore t₁ := by
  rcases object_moves env t op with ⟨rv, -, hobj⟩ | ⟨t₁, hchanged, hobj⟩
  · -- the store stays as it is, however the call ends
    rw [objectEffect, hobj .plain env.letsWrite _ rfl, hobj C env d rfl]
    refine ⟨fun _ t₁ h => .inr ?_, fun _ _ => ⟨rfl, rfl⟩⟩
    dsimp only at h
    split at h
    · cases h
      exact ⟨rfl, rfl⟩
    · cases h
  · have hopen := (hchanged.storeOpen hop).2
    have heffect : t.objectEffect env op = some t₁ := by
      rw [objectEffect, hobj .plain env.letsWrite _ rfl]
      exact if_pos ((writeAtomic_ok_iff hopen).2 (by simp [Env.writesStore, Env.letsWrite]))
    rw [heffect, hobj C env d rfl]
    constructor
    · rintro h t₂ ⟨⟩
      by_cases hwrites : env.writesStore t₁.objects = true
      · exact .inl hwrites
      · exact .inr (h fun hok => hwrites ((writeAtomic_ok_iff hopen).1 hok))
    · intro h hfails
      rcases h t₁ rfl with hwrites | hsame
      · exact absurd ((writeAtomic_ok_iff hopen).2 hwrites) hfails
      · exact hsame

/-- A token with an open store and no objects. -/
def openEmpty : Token := { zeroed with dek := some ⟨zeroKey, true⟩, objectsLoaded := true }

/-- The same, with a key that may do nothing. -/
def openKey : Token :=
  { openEmpty with objects := ⟨[{ Obj.zero with handle := 1, cls := ckoSecretKey }], by decide⟩ }

/-- A setter that writes what is stored already, while no file can be written. -/
theorem failed_object_restores_iff_setUsage :
    (openKey.object .plain { Env.quiet with writeOk := false } (.setUsage 1 0) ⟨none, []⟩).1 ≠ .ok ∧
      openKey.SameStore (openKey.object .plain { Env.quiet with writeOk := false } (.setUsage 1 0)
        ⟨none, []⟩).2.1 := by
  have hfails : (openKey.object .plain { Env.quiet with writeOk := false } (.setUsage 1 0)
      ⟨none, []⟩).1 ≠ .ok := by decide
  refine ⟨hfails, (failed_object_restores_iff .plain { Env.quiet with writeOk := false } openKey
    ⟨none, []⟩ (.setUsage 1 0) fun _ h => by cases h).2 ?_ hfails⟩
  rintro t₁ ⟨⟩
  exact .inr ⟨rfl, rfl⟩

/-- A key whose file cannot be written stays in memory. -/
theorem orphan_key : (openEmpty.object .plain { Env.quiet with writeOk := false }
        (.add ⟨ckoSecretKey, 0x1F, [], [1], [], 0⟩) ⟨none, []⟩).1 = .err .functionFailed ∧
      ¬openEmpty.SameStore (openEmpty.object .plain { Env.quiet with writeOk := false }
        (.add ⟨ckoSecretKey, 0x1F, [], [1], [], 0⟩) ⟨none, []⟩).2.1 := by
  refine ⟨by decide, fun hsame => ?_⟩
  have hlen := congrArg (fun objs : ObjStore => objs.objs.length) hsame.1
  exact absurd hlen (by decide)

end Token

end FreeHsm
