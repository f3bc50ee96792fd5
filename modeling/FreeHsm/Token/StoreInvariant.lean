import FreeHsm.Token.BlobReader
import FreeHsm.Token.PublicSection

/-!
# Invariants of the object store

A store reaches memory in three ways: a new token has an empty one, an object
function edits it, or a login or the public view reads it back from the file. So
a property of stores that the empty store has, that writing and reading back
keeps, and that the object functions keep, holds of the store in memory and of
every store ever encrypted, in every run.

The property may speak of the next handle as well, which the blob carries.
-/

namespace FreeHsm

open Transition

/-- Whatever key is tried, a ciphertext opens to what was encrypted or not at all. -/
def Crypto.OpensOwn (C : Crypto) : Prop :=
  ∀ k n aad pt k' n' aad' pt',
    C.decrypt k' n' aad' (C.encrypt k n aad pt).1 (C.encrypt k n aad pt).2 = some pt' → pt' = pt

theorem Crypto.opensOwn_plain : Crypto.plain.OpensOwn := by
  intro k n aad pt k' n' aad' pt' h
  simp only [Crypto.plain] at h
  split at h <;> cases h
  rfl

/-- The empty store has the property, and a store that has it is read back with it. -/
structure StoreClosed (S : ObjStore → UInt32 → Prop) : Prop where
  empty : ∀ next, S .empty next
  persisted : ∀ s next publicOnly, S s next → S (s.persisted publicOnly) next

/-- The store of a token has the property. -/
def Token.Has (S : ObjStore → UInt32 → Prop) (t : Token) : Prop := S t.objects t.nextHandle

/-- Every store that was encrypted has the property, and the file holds one of them. -/
structure Disk.Stores (C : Crypto) (S : ObjStore → UInt32 → Prop) (d : Disk) : Prop where
  file : FileOk C (fun _ => True) d
  log : ∀ t key nonce, .sealed t key nonce ∈ d.log → t.Has S

structure World.Stores (C : Crypto) (S : ObjStore → UInt32 → Prop) (w : World) : Prop where
  tok : ∀ t, w.tok = some t → t.Has S
  disk : w.disk.Stores C S

section

variable {C : Crypto} {S : ObjStore → UInt32 → Prop} {env : Env} {t t' : Token} {d d' : Disk}
  {rv : Rv} {role : Role} {pin : Bytes}

open Token

/-! ## Writing -/

theorem Disk.Stores.record {es : List Event} (h : d.Stores C S)
    (hes : ∀ t key nonce, .sealed t key nonce ∉ es) : (d.record es).Stores C S := by
  refine ⟨fileOk_record d es h.file, fun t key nonce hmem => ?_⟩
  rcases List.mem_append.mp hmem with hmem | hmem
  · exact h.log t key nonce hmem
  · exact absurd hmem (hes t key nonce)

theorem Disk.Stores.write (h : writeAtomic C env t d = (rv, d')) (ht : t.Has S)
    (hd : d.Stores C S) : d'.Stores C S := by
  refine ⟨fileOk_write h (fun _ => trivial) hd.file, fun t' key nonce hmem => ?_⟩
  -- the only blob a write encrypts is that of `t`
  have hnew : .sealed t' key nonce ∈ d.log ∨ t' = t := by
    cases writeAtomic_cases h with
    | failed | kept | emptied => exact .inl (by simpa using hmem)
    | lost | stored =>
      rcases List.mem_append.mp hmem with hmem | hmem
      · exact .inl hmem
      · simp only [List.mem_cons, Event.sealed.injEq, reduceCtorEq, List.not_mem_nil, or_false]
          at hmem
        exact .inr hmem.1
  rcases hnew with hold | rfl
  · exact hd.log t' key nonce hold
  · exact ht

/-! ## Reading back -/

/-- What is parsed from a serialization of a store is the part of it that was written. -/
theorem parseObjects_serialize_ok {alloc : Nat → Bool} {s objs : ObjStore} {next next' : UInt32}
    {publicOnly : Bool}
    (h : parseObjects alloc (serializeObjects s next publicOnly) = .ok (objs, next')) :
    objs = s.persisted publicOnly ∧ next' = next := by
  have hfull := parseObjects_alloc h
  rw [parseObjects_serialize (fun _ => rfl)] at hfull
  cases hfull
  exact ⟨rfl, rfl⟩

/-- A login reads back a store that was encrypted. -/
theorem Disk.Stores.load (hC : C.OpensOwn) (hS : StoreClosed S) (hd : d.Stores C S) {es : List Event}
    (ht : t.Has S) (h : LoadObjectsOutcome C env t d.file rv t' es) : t'.Has S := by
  cases h with
  | refused => exact ht
  | failed | malformed | noBlob => exact hS.empty _
  | loaded f dek key nonce ct tag pt objs next hfile hblob hdek hkey hopen hparse =>
    obtain ⟨header, -, tail, rfl, htail⟩ := hd.file f hfile
    rw [header.drop_encode_append] at hblob
    cases htail with
    | empty => cases hblob
    | stored t₀ dek₀ nonce₀ ct₀ tag₀ hlog hseal =>
      obtain ⟨hpos, hmax⟩ := length_sealed hseal
      rw [locateBlob_blobBytes nonce₀ tag₀ _ hpos hmax] at hblob
      cases hblob
      have hpt : pt = serializeObjects t₀.objects t₀.nextHandle false := by
        apply hC dek₀ nonce t₀.header.aad _ key nonce t.header.aad pt
        rw [hseal]
        exact hopen
      subst hpt
      obtain ⟨rfl, rfl⟩ := parseObjects_serialize_ok hparse
      exact hS.persisted _ _ _ (hd.log t₀ dek₀ nonce hlog)

theorem Disk.Stores.publicView (hS : StoreClosed S) (hd : d.Stores C S)
    (hempty : t.objects = .empty) : (publicViewLoad env t d.file).Has S := by
  have ht : t.Has S := by
    rw [Has, hempty]
    exact hS.empty _
  unfold publicViewLoad
  split
  · rename_i f hfile hread
    have hfile : d.file = some f := by
      split at hfile
      · cases hfile
      · exact hfile
    split
    · exact ht
    split
    · exact ht
    rename_i pt hpub
    split
    · exact ht
    split
    · exact hS.empty _
    rename_i objs next hparse
    split
    · obtain ⟨header, -, tail, rfl, htail⟩ := hd.file f hfile
      cases htail with
      | empty => simp [locatePublic] at hpub
      | stored t₀ dek₀ nonce₀ ct₀ tag₀ hlog hseal =>
        obtain ⟨hpos, hmax⟩ := length_sealed hseal
        rw [locatePublic_encode header nonce₀ tag₀ _ _ hpos hmax] at hpub
        cases hpub
        obtain ⟨rfl, rfl⟩ := parseObjects_serialize_ok hparse
        exact hS.persisted _ _ _ (hd.log t₀ dek₀ nonce₀ hlog)
    · exact hS.empty _
  · exact ht

/-- A login leaves the store that it found, or one that it read back. -/
theorem Disk.Stores.login (hC : C.OpensOwn) (hS : StoreClosed S) (hd : d.Stores C S)
    (h : LoginOutcome C env t role pin d rv t' d') (ht : t.Has S) : t'.Has S := by
  cases h with
  | refused | tpmRefused => exact ht
  | wrong es htried hrole t' ht' => exact ht' ▸ ht
  | accepted dek es es' htried hrole hfree htpm t₁ t' ht₁ hload =>
    have ht₁ : t₁.Has S := ht₁ ▸ ht
    rcases loadIfNeeded_cases hload with ⟨-, rfl, -⟩ | ⟨-, rv, hload⟩
    · exact ht₁
    · exact hd.load hC hS ht₁ hload

end

/-! ## Runs -/

/-- The object functions keep the property. -/
def KeepsStore (C : Crypto) (S : ObjStore → UInt32 → Prop) (w : World) : TokenOp → Prop
  | .object env op => ∀ t, w.tok = some t → t.Has S → (t.object C env op w.disk).2.1.Has S
  | _ => True

variable {C : Crypto} {S : ObjStore → UInt32 → Prop}

theorem World.Stores.token (hC : C.OpensOwn) (hS : StoreClosed S) {w w' : World} {op : TokenOp}
    {rv : Rv} (hcase : CallOutcome C w op rv w') (hw : w.Stores C S) (hkeep : KeepsStore C S w op)
    {t : Token} (ht : w'.tok = some t) : t.Has S := by
  cases hcase with
  | idle => exact hw.tok t ht
  | init env soPin label rv t' d hnone h =>
    cases h with
    | refused | notSealed => cases ht
    | written rv d hwrite =>
      dsimp only at ht
      split at ht <;> cases ht
      exact hS.empty _
  | load env rv t' hnone h =>
    cases h with
    | refused => cases ht
    | done f header until₀ hfile hlen hdecode =>
      cases ht
      exact hw.disk.publicView hS rfl
  | close => cases ht
  | login env role pin rv t₀ t' d htok h =>
    cases ht
    exact hw.disk.login hC hS h (hw.tok t₀ htok)
  | verifyPin env role pin rv t₀ t' d htok h =>
    cases ht
    have ht₀ := hw.tok t₀ htok
    cases h with
    | refused => exact ht₀
    | wrong es htried hrole t' ht' => exact ht' ▸ ht₀
    | right dek es htried hrole t' ht' => exact ht' ▸ ht₀
  | logout t₀ htok =>
    cases ht
    exact hw.tok t₀ htok
  | initUserPin env pin rv t₀ t' d htok h =>
    cases ht
    have ht₀ := hw.tok t₀ htok
    cases h with
    | refused => exact ht₀
    | failed e dek t' hdek hre =>
      cases hre
      exact ht₀
    | done dek es t₁ t' rv d' hso hdek hre ht' hwrite =>
      cases hre
      exact ht' ▸ ht₀
  | setPin loginEnv env role oldPin newPin rv t₀ t' d htok h =>
    cases ht
    have ht₀ := hw.tok t₀ htok
    cases h with
    | refused => exact ht₀
    | noLogin e t' d' hlogin => exact hw.disk.login hC hS hlogin ht₀
    | failed e dek t₁ t' d₁ hlogin hre =>
      have ht₁ : t₁.Has S := hw.disk.login hC hS hlogin ht₀
      cases hre
      exact ht₁
    | done dek es t₁ t' d₁ d' rv hlogin hdek hre hwrite =>
      have ht₁ : t₁.Has S := hw.disk.login hC hS hlogin ht₀
      cases hre
      exact ht₁
  | reinit env newSoPin label rv t₀ t' d htok h =>
    cases ht
    have ht₀ := hw.tok t₀ htok
    cases h with
    | refused | noBuffer => exact ht₀
    | notWrapped | written => exact hS.empty _
  | object env op rv t₀ t' d htok hcall h =>
    cases ht
    have ht' := hkeep t₀ htok (hw.tok t₀ htok)
    rwa [hcall] at ht'

theorem World.Stores.step (hC : C.OpensOwn) (hS : StoreClosed S) (w : World) (op : TokenOp)
    (hw : w.Stores C S) (hkeep : KeepsStore C S w op) : (w.step C op).Stores C S := by
  obtain ⟨rv, hcase⟩ := step_cases C w op
  have hlast : ∀ t, (w.step C op).tok = some t → t.Has S := fun t => token hC hS hcase hw hkeep
  refine ⟨hlast, call_disk (Q := fun _ => Token.Has S) (fun d es hes hd => hd.record hes) .write
    hcase (fun _ _ _ _ _ => hS.empty _) (fun t ht _ => ?_) (fun t ht _ => hlast t ht) hw.disk⟩
  refine mid_of_login (R := fun w => ∀ t, w.tok = some t → t.Has S) hw.tok ?_ t ht
  intro loginEnv _ role oldPin _ _ t
  obtain ⟨rv, hlogin⟩ := step_cases C w (.login loginEnv role (cstr oldPin))
  exact token hC hS hlogin hw trivial

end FreeHsm
