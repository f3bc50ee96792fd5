import FreeHsm.Token.BlobMigration
import FreeHsm.Token.Outcome
import FreeHsm.Token.ObjectStep

/-!
# The owners of session objects

An object of a session carries the session's handle in `owner_session`; a token object
has 0 there. The field is not part of the blob, so what a login or a load reads has no
owner, and only `fhsm_token_object_mark_session` sets one.
-/

namespace FreeHsm

open ListEdit ByteLayout StateExcept List

/-! ## Reading -/

variable {fixed n : Nat} {p : Bytes} {hn : n ≤ objValueMax} {o : Obj}

theorem parseRecV2_owner (h : parseRecV2 fixed p n hn = .ok o) : o.ownerSession = 0 := by
  unfold parseRecV2 at h
  obtain ⟨_, -, h⟩ := bind_ok h
  cases h
  rfl

theorem parseRecV3_owner (h : parseRecV3 fixed p n hn = .ok o) : o.ownerSession = 0 := by
  unfold parseRecV3 at h
  obtain ⟨o', hv2, h⟩ := bind_ok h
  obtain ⟨_, -, h⟩ := bind_ok h
  obtain ⟨_, -, h⟩ := bind_ok h
  obtain ⟨_, -, h⟩ := bind_ok h
  have howner := parseRecV2_owner hv2
  cases h
  exact howner

theorem parseRecV4_owner (h : parseRecV4 fixed p n hn = .ok o) : o.ownerSession = 0 := by
  unfold parseRecV4 at h
  obtain ⟨o', hv3, h⟩ := bind_ok h
  obtain ⟨_, -, h⟩ := bind_ok h
  obtain ⟨_, -, h⟩ := bind_ok h
  obtain ⟨_, -, h⟩ := bind_ok h
  obtain ⟨_, -, h⟩ := bind_ok h
  have howner := parseRecV3_owner hv3
  cases h
  exact howner

theorem parseObjects_owner {alloc : Nat → Bool} {buf : Bytes} {s : ObjStore} {next : UInt32}
    (h : parseObjects alloc buf = .ok (s, next)) : ∀ o ∈ s.objs, o.ownerSession = 0 := by
  by_cases hmagic : u32At buf 0 = blobV4Magic
  · unfold parseObjects at h
    obtain ⟨_, -, h⟩ := bind_ok h
    rw [if_pos hmagic] at h
    obtain ⟨_, -, h⟩ := bind_ok h
    have hrecs := parseObjectsTagged_records (Q := fun _ o => o.ownerSession = 0)
      (fun _ _ _ _ _ _ => parseRecV4_owner) h
    exact hrecs.1.forall_mem fun _ _ => id
  · exact fun o ho => ((parseObjects_readAs hmagic h).legacy o ho).ownerSession

/-! ## The end of a session -/

namespace Token

variable {C : Crypto} {env : Env} {t t' : Token} {d d' : Disk} {rv : Rv} {Q : UInt32 → Prop}

/-- Every owner in the store satisfies `Q`. -/
def Owned (Q : UInt32 → Prop) (t : Token) : Prop :=
  ∀ o ∈ t.objects.objs, o.ownerSession ≠ 0 → Q o.ownerSession

theorem Owned.of_objects (h : t.Owned Q) (heq : t'.objects = t.objects) : t'.Owned Q := by
  unfold Owned
  rw [heq]
  exact h

theorem Owned.mono {R : UInt32 → Prop} (h : t.Owned Q) (himp : ∀ w, Q w → R w) : t.Owned R :=
  fun o ho hne => himp _ (h o ho hne)

theorem owned_of_no_owner (h : ∀ o ∈ t.objects.objs, o.ownerSession = 0) : t.Owned Q :=
  fun o ho hne => absurd (h o ho) hne

theorem owned_of_empty (h : t.objects = .empty) : t.Owned Q := by
  apply owned_of_no_owner
  rw [h]
  exact nofun

theorem destroySessionObjects_objects {owner : UInt32} (howner : owner ≠ 0)
    (h : t.destroySessionObjects C env owner d = (rv, t', d')) :
    List.Perm t'.objects.objs (t.objects.objs.filter fun o => !(o.ownerSession == owner)) := by
  unfold destroySessionObjects at h
  rw [if_neg howner] at h
  split at h
  · cases h
    exact sweep_perm_filter _ (Nat.le_of_eq (Nat.zero_add _).symm) nofun
  · -- the session owns nothing
    rename_i hnone
    cases h
    have hkept : t.objects.objs.filter (fun o => !(o.ownerSession == owner)) = t.objects.objs := by
      refine filter_eq_self.2 fun o ho => ?_
      rw [Bool.not_eq_true']
      by_contra hmine
      exact hnone (any_eq_true.2 ⟨o, ho, by simpa using hmine⟩)
    rw [hkept]

theorem owned_destroySession {owner : UInt32} (howner : owner ≠ 0) (ht : t.Owned Q)
    (h : t.destroySessionObjects C env owner d = (rv, t', d')) :
    t'.Owned fun w => Q w ∧ w ≠ owner := by
  intro o ho hne
  have hmem := (destroySessionObjects_objects howner h).mem_iff.1 ho
  rw [mem_filter] at hmem
  exact ⟨ht o hmem.1 hne, by simpa using hmem.2⟩

/-! ## Logging in -/

theorem owned_loadIfNeeded {file : Option Bytes} {es : List Event} (ht : t.Owned Q)
    (h : t.loadIfNeeded C env file = (t', es)) : t'.Owned Q := by
  rcases loadIfNeeded_cases h with ⟨-, rfl, -⟩ | ⟨-, rv, hload⟩
  · exact ht
  · cases hload with
    | refused => exact ht
    | failed | malformed | noBlob => exact owned_of_empty rfl
    | loaded f dek key nonce ct tag pt objs next hfile hblob hdek hkey hopen hparse =>
      exact owned_of_no_owner (parseObjects_owner hparse)

variable {pin : Bytes}

theorem owned_login {role : Role} (ht : t.Owned Q) (h : LoginOutcome C env t role pin d rv t' d') :
    t'.Owned Q := by
  cases h with
  | refused => exact ht
  | wrong es htried hrole t' ht' => exact ht.of_objects (by rw [ht']; rfl)
  | tpmRefused => exact ht
  | accepted dek es es' htried hrole hfree htpm t₁ t' ht₁ hload =>
    exact owned_loadIfNeeded (ht.of_objects (by rw [ht₁]; rfl)) hload

theorem owned_verify {role : Role} (ht : t.Owned Q) (h : VerifyOutcome C env t role pin d rv t' d')
    : t'.Owned Q := by
  cases h with
  | refused => exact ht
  | wrong es htried hrole t' ht' => exact ht.of_objects (by rw [ht']; rfl)
  | right dek es htried hrole t' ht' => exact ht.of_objects (by rw [ht']; rfl)

theorem owned_initUserPin (ht : t.Owned Q) (h : InitUserPinOutcome C env t pin d rv t' d') :
    t'.Owned Q := by
  cases h with
  | refused => exact ht
  | failed e dek t' hdek hre =>
    cases hre
    exact ht
  | done dek es t₁ t' rv d' hso hdek hre ht' hwrite =>
    cases hre
    exact ht.of_objects (by rw [ht']; rfl)

theorem owned_reinit {newSoPin label : Bytes} (ht : t.Owned Q)
    (h : ReinitOutcome C env t newSoPin label d rv t' d') : t'.Owned Q := by
  cases h with
  | refused | noBuffer => exact ht
  | notWrapped | written => exact owned_of_empty rfl

theorem owned_load {t : Option Token} (h : LoadOutcome env d rv t) :
    ∀ t' ∈ t, t'.Owned Q := by
  cases h with
  | refused => exact nofun
  | done f header until₀ hfile hlen hdecode =>
    rintro _ ⟨⟩
    apply owned_of_no_owner
    unfold publicViewLoad
    split
    · split
      · exact nofun
      · split
        · exact nofun
        · split
          · exact nofun
          · split
            · exact nofun
            · rename_i hparse
              split
              · exact parseObjects_owner hparse
              · exact nofun
    · exact nofun

/-! ## The object functions -/

/-- The owners an object function brings in are the ones it marks an object with. -/
theorem owned_object {op : ObjectOp} (ht : t.Owned Q)
    (hmark : ∀ handle owner, op = .markSession handle owner → Q owner)
    (h : t.object C env op d = (rv, t', d')) : t'.Owned Q := by
  rcases object_moves env t op with ⟨rv₁, -, hobj⟩ | ⟨t₁, hchanged, hobj⟩
  · cases (hobj C env d rfl).symm.trans h
    exact ht
  cases (hobj C env d rfl).symm.trans h
  cases hchanged with
  | added a hop hopen hvalue hid hroom =>
    intro o ho hne
    rcases mem_append.1 ho with ho | ho
    · exact ht o ho hne
    · rw [mem_singleton.1 ho] at hne
      exact absurd rfl hne
  | edited handle o o' hop hopen hfind hedit =>
    intro x hx hne
    rcases mem_modifyFirst hx with hx | ⟨_, -, rfl⟩
    · exact ht x hx hne
    · have howner := hedit.owner
      cases op with
      | markSession handle owner =>
        rw [howner]
        exact hmark handle owner rfl
      | _ =>
        rw [howner] at hne ⊢
        exact ht o (mem_of_find?_eq_some hfind) hne
  | removed handle => exact fun o ho => ht o ((t.objects.remove_subperm handle).subset ho)
  | swept owner => exact fun o ho => ht o ((t.objects.removeOwned_subperm owner).subset ho)

theorem object_loggedIn (op : ObjectOp) (h : t.object C env op d = (rv, t', d')) :
    t'.loggedIn = t.loggedIn := by
  rcases object_cases h with ⟨rfl, -⟩ | ⟨objs, next, rfl, -⟩
  · rfl
  · rfl

end Token

end FreeHsm
