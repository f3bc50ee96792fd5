import FreeHsm.Pkcs11.Signature

/-!
# How operations end

The calls that continue a signature or a decryption never start one, and never
change whether the user has authenticated for it; and a call that delivers the
signature, or the last of the data, ends the operation. Both are proved along the
code: `Running.Fades` is a preorder that every step follows, and `Closes` says that
code which answers with data has cleared `active`.
-/

namespace FreeHsm

open StateExcept OpM

variable {P : Provider}

/-- An operation goes on or ends, with the same authentication. -/
structure Running.Fades (l l' : Running P) : Prop where
  auth : l'.ctxAuthDone = l.ctxAuthDone
  active : l'.active = true → l.active = true

instance : IsPreorder (Running P) Running.Fades where
  refl _ := ⟨rfl, id⟩
  trans _ _ _ h h' := ⟨h'.auth.trans h.auth, h.active ∘ h'.active⟩

/-- Code that follows it. -/
abbrev Fading {α : Type} (x : OpM P α) : Prop := Within Running.Fades x

/-- Code that ends the operation when it answers with data. -/
def Closes (x : OpM P Reply) : Prop :=
  ∀ l b l', exec x l = (.ok (.data b), l') → l'.active = false

/-! ## Code that leaves the slot alone -/

section

variable {env : OpEnv P} {s : Setup} {o : Obj} {aad data : Bytes} {out : OutArg} {c : P.Cipher}
  {n need : Nat} {bad : Err}

theorem steady_ofExcept {α : Type} (x : Except Err α) : Steady (OpM.ofExcept x : OpM P α) := by
  cases x with
  | error e => exact .throw _
  | ok a => exact .pure a

theorem steady_sized {k : OpM P Reply} (hk : Steady k) :
    Steady (sized out need k) := by
  cases out with
  | noLen => exact .throw _
  | query => exact .pure _
  | room n => exact .ite (.throw _) hk

theorem steady_updateFinal : Steady (updateFinal env c data bad) := by
  unfold updateFinal
  iterate 2
    split
    · exact .throw _
  exact .pure _

theorem steady_sealTagged : Steady (sealTagged env c data n) := by
  unfold sealTagged
  iterate 3
    split
    · exact .throw _
  exact .pure _

theorem steady_cipherOneShot {spec : CipherSpec} :
    Steady (cipherOneShot env spec need bad data out) := by
  refine .check (.check ?_)
  split
  · exact .throw _
  · exact steady_sized steady_updateFinal

theorem steady_aesOneShot {enc : Bool} : Steady (aesOneShot env enc s o data out) :=
  .check (.check steady_cipherOneShot)

theorem steady_rsaDecryptOut {k : P.Pkey} {pad : RsaPadding} :
    Steady (rsaDecryptOut env k pad n data out) := by
  cases out with
  | noLen => exact .throw _
  | query => exact .pure _
  | room m =>
    refine .check (.check ?_)
    split
    · exact .throw _
    · exact .ite (.throw _) (.ite (.throw _) (.pure _))

theorem steady_oaepDecrypt : Steady (oaepDecrypt env s o data out) := by
  refine .check ?_
  split
  · exact .throw _
  refine .bind (.check (.bind (steady_ofExcept _) fun _ => .check (.pure _))) fun _ => ?_
  split
  · exact .throw _
  · exact steady_rsaDecryptOut

theorem steady_rsaDecrypt : Steady (rsaDecrypt env s o data out) := by
  refine .check (.check ?_)
  split
  · exact .throw _
  refine .check (.check (.check ?_))
  split
  · exact .throw _
  · exact steady_rsaDecryptOut

theorem steady_kwDecrypt : Steady (kwDecrypt env s o data out) := by
  refine .check (.check (.check (steady_sized (.check (.check (.check ?_))))))
  split
  · exact .throw _
  refine steady_updateFinal.bind fun r => ?_
  split
  · exact .ite (.throw _) (.pure _)
  · exact .pure _

theorem steady_ccmDecrypt : Steady (ccmDecrypt env s o aad data out) := by
  refine .check (.check (steady_sized ?_))
  split
  · exact .throw _
  refine .check ?_
  iterate 2
    split
    · exact .throw _
  exact .pure _

theorem steady_gcmEncrypt : Steady (gcmEncrypt env s o aad data out) := by
  refine .check (steady_sized ?_)
  split
  · exact .throw _
  refine .check ?_
  split
  · exact .throw _
  · exact steady_sealTagged

theorem steady_gcmDecrypt : Steady (gcmDecrypt env s o aad data out) := by
  refine .check (.check (steady_sized ?_))
  split
  · exact .throw _
  refine .check ?_
  iterate 4
    split
    · exact .throw _
  exact .pure _

theorem steady_decryptWith : Steady (decryptWith env s o aad data out) := by
  refine .ite steady_oaepDecrypt (.ite steady_rsaDecrypt ?_)
  refine .ite steady_kwDecrypt (.ite steady_aesOneShot ?_)
  refine .ite ?_ (.ite steady_ccmDecrypt steady_gcmDecrypt)
  exact .check (.check (.check (.check steady_cipherOneShot)))

variable {t : Token} {prehashed : Bool}

theorem steady_signOut : Steady (signOut env t s prehashed data out) := by
  cases out with
  | noLen => exact .throw _
  | query => exact .pure _
  | room n => exact .check (.bind (steady_ofExcept _) fun sig => .ite (.throw _) (.pure _))

theorem steady_signWith : Steady (signWith env t s prehashed data out) := by
  have hmade : ∀ x : Except Err Bytes,
      Steady (do let sig ← .ofExcept x; pure (.data sig) : OpM P Reply) := fun x =>
    (steady_ofExcept x).bind fun _ => .pure _
  refine .ite (.bind (steady_ofExcept _) fun o => .check (steady_sized (hmade _))) ?_
  split
  · exact .bind (steady_ofExcept _) fun o => steady_sized (hmade _)
  · refine .ite (.bind (steady_ofExcept _) fun o => ?_) steady_signOut
    exact .check (steady_sized (.bind (steady_ofExcept _) fun spec =>
      .bind (steady_ofExcept _) fun mac => .pure _))

end

/-! ## The parts of the code -/

section Parts

variable {α : Type}

theorem fading_stop : Fading (stop : OpM P Unit) := Within.update fun _ => ⟨rfl, nofun⟩

theorem fading_setCipher (c : Option P.Cipher) : Fading (setCipher c) :=
  .update fun _ => ⟨rfl, id⟩

theorem fading_setMd (c : Option P.Md) : Fading (setMd c) := Within.update fun _ => ⟨rfl, id⟩

theorem fading_setMac (c : Option P.Mac) : Fading (setMac c) := Within.update fun _ => ⟨rfl, id⟩

theorem fading_freeMultipart : Fading (freeMultipart : OpM P Unit) :=
  .update fun _ => ⟨rfl, id⟩

theorem fading_ofExcept (x : Except Err α) : Fading (OpM.ofExcept x : OpM P α) :=
  (steady_ofExcept x).within

theorem fading_sized {out : OutArg} {need : Nat} {k : OpM P Reply} (hk : Fading k) :
    Fading (sized out need k) := by
  cases out with
  | noLen => exact .throw _
  | query => exact .pure _
  | room n => exact .ite (.throw _) hk

theorem fading_probed {out : OutArg} {bound : Nat} {exact : Except Err Nat} {k : OpM P Reply}
    (hk : Fading k) : Fading (probed out bound exact k) := by
  cases out with
  | noLen => exact .throw _
  | query => exact .pure _
  | room n =>
    refine .ite ?_ hk
    exact (fading_ofExcept _).bind fun _ => .ite (.throw _) hk

/-- The end of `C_SignFinal` with a buffer. -/
def freeing (x : OpM P Reply) : OpM P Reply :=
  tryCatch
    (do
      let r ← x
      match r with
      | .size n => pure (.size n)
      | r => do
        freeMultipart
        stop
        pure r)
    fun
      | .tooSmall n => throw (.tooSmall n)
      | .rv e => do
        freeMultipart
        stop
        refuse e

theorem fading_endingOnError {x : OpM P α} (hx : Fading x) : Fading (endingOnError x) := by
  refine hx.tryCatch fun e => ?_
  cases e with
  | tooSmall n => exact .throw _
  | rv e => exact fading_stop.bind fun _ => .throw _

theorem fading_ending {x : OpM P Reply} (hx : Fading x) : Fading (ending x) := by
  refine (hx.bind fun r => ?_).tryCatch fun e => ?_
  · cases r with
    | size n => exact .pure _
    | done | data b => exact fading_stop.bind fun _ => .pure _
  · cases e with
    | tooSmall n => exact .throw _
    | rv e => exact fading_stop.bind fun _ => .throw _

theorem fading_freeing {x : OpM P Reply} (hx : Fading x) : Fading (freeing x) := by
  refine (hx.bind fun r => ?_).tryCatch fun e => ?_
  · cases r with
    | size n => exact .pure _
    | done | data b =>
      exact fading_freeMultipart.bind fun _ => fading_stop.bind fun _ => .pure _
  · cases e with
    | tooSmall n => exact .throw _
    | rv e => exact fading_freeMultipart.bind fun _ => fading_stop.bind fun _ => .throw _

theorem fading_orHmldsaFail {x : OpM P α} (hx : Fading x) : Fading (orHmldsaFail x) :=
  hx.tryCatch fun _ => (fading_setMd _).bind fun _ => fading_freeMultipart.bind fun _ =>
    fading_stop.bind fun _ => .throw _

theorem fading_orMacFail {x : OpM P α} (hx : Fading x) : Fading (orMacFail x) :=
  hx.tryCatch fun _ => (fading_setMac _).bind fun _ => fading_stop.bind fun _ => .throw _

theorem fading_requireCtxAuth (s : Setup) : Fading (requireCtxAuth s : OpM P Unit) :=
  Within.get.bind fun _ =>
    .ite (fading_stop.bind fun _ => .throw _) (.pure _)

end Parts

namespace Closes

variable {x k : OpM P Reply}

theorem throw (e : Refusal) : Closes (MonadExcept.throw e : OpM P Reply) := by
  intro l b l' h
  rw [exec_throw] at h
  cases h

/-- An answer without data. -/
theorem answer {r : Reply} (hr : ∀ b, r ≠ .data b) : Closes (pure r : OpM P Reply) := by
  intro l b l' h
  rw [exec_pure] at h
  cases h
  exact absurd rfl (hr b)

theorem size (n : Nat) : Closes (pure (.size n) : OpM P Reply) := answer (by simp)

theorem done : Closes (pure .done : OpM P Reply) := answer (by simp)

theorem bind {α : Type} {x : OpM P α} {f : α → OpM P Reply} (hf : ∀ a, Closes (f a)) :
    Closes (x >>= f) := by
  intro l b l' h
  obtain ⟨a, l₁, -, h⟩ := exec_bind_ok.1 h
  exact hf a l₁ b l' h

theorem ite {c : Prop} [Decidable c] (hx : Closes x) (hk : Closes k) : Closes (if c then x else k) := by
  split
  · exact hx
  · exact hk

theorem stopped (b : Bytes) : Closes (do stop; pure (.data b) : OpM P Reply) := by
  intro l b' l' h
  obtain rfl : { l with active := false } = l' := congrArg Prod.snd h
  rfl

theorem sized {out : OutArg} {need : Nat} (hk : Closes k) : Closes (OpM.sized out need k) := by
  cases out with
  | noLen => exact throw _
  | query => exact size _
  | room n => exact ite (throw _) hk

theorem probed {out : OutArg} {bound : Nat} {exact : Except Err Nat} (hk : Closes k) :
    Closes (FreeHsm.probed out bound exact k) := by
  cases out with
  | noLen => exact throw _
  | query => exact size _
  | room n => exact ite (bind fun _ => ite (throw _) hk) hk

theorem tryCatch {f : Refusal → OpM P Reply} (hx : Closes x) (hf : ∀ e, Closes (f e)) :
    Closes (MonadExcept.tryCatch x f) := by
  intro l b l' h
  rw [exec_tryCatch] at h
  rcases hrun : exec x l with ⟨e | r, l₁⟩
  · rw [hrun] at h
    exact hf e l₁ b l' h
  · rw [hrun] at h
    cases h
    exact hx l b l' hrun

theorem endingOnError (hx : Closes x) : Closes (OpM.endingOnError x) := by
  refine hx.tryCatch fun e => ?_
  cases e with
  | tooSmall n => exact throw _
  | rv e => exact bind fun _ => throw _

/-- Whatever goes through `ending` closes. -/
theorem ending (x : OpM P Reply) : Closes (OpM.ending x) := by
  refine tryCatch (bind fun r => ?_) fun e => ?_
  · cases r with
    | size n => exact size n
    | done => exact bind fun _ => done
    | data b => exact stopped b
  · cases e with
    | tooSmall n => exact throw _
    | rv e => exact bind fun _ => throw _

theorem freeing (x : OpM P Reply) : Closes (FreeHsm.freeing x) := by
  refine tryCatch (bind fun r => ?_) fun e => ?_
  · cases r with
    | size n => exact size n
    | done => exact bind fun _ => bind fun _ => done
    | data b => exact bind fun _ => stopped b
  · cases e with
    | tooSmall n => exact throw _
    | rv e => exact bind fun _ => bind fun _ => throw _

theorem orMacFail (hx : Closes x) : Closes (FreeHsm.orMacFail x) :=
  hx.tryCatch fun _ => bind fun _ => bind fun _ => throw _

end Closes

section

variable {env : OpEnv P} {s : Setup} {part : Bytes} {out : OutArg}

/-! ## Decryption -/

theorem fading_ensureCipherCtx {enc : Bool} : Fading (ensureCipherCtx env enc s) := by
  unfold ensureCipherCtx
  refine Within.get.bind fun l => ?_
  split
  · exact Within.pure _
  split
  · exact Within.throw _
  refine (fading_ofExcept _).bind fun o => Within.check fun _ => ?_
  refine Within.check fun _ => ?_
  split
  · exact Within.throw _
  refine Within.check fun _ => Within.check fun _ => ?_
  split
  · exact Within.throw _
  · exact (fading_setCipher _).bind fun _ => Within.pure _

theorem fading_updateCtx {c : P.Cipher} : Fading (updateCtx env c part) := by
  unfold updateCtx
  split
  · exact (fading_setCipher _).bind fun _ => .throw _
  · exact (fading_setCipher _).bind fun _ => .pure _

theorem fading_freeAfterProbe {bound : Nat} {exact : Except Err Nat} :
    Fading (freeAfterProbe out bound exact : OpM P Unit) := by
  unfold freeAfterProbe
  split
  · exact .ite (fading_setCipher _) (.pure _)
  · exact .pure _

/-! ## Signatures and MACs -/

theorem fading_appendMultipart : Fading (appendMultipart env part) := by
  have hdrop : ∀ e, Fading (do freeMultipart; stop; refuse e : OpM P Unit) := fun _ =>
    fading_freeMultipart.bind fun _ => fading_stop.bind fun _ => .throw _
  refine Within.get.bind fun l => Within.ite (Within.pure _) (Within.ite (hdrop _) ?_)
  exact Within.ite (hdrop _) (Within.update fun _ => ⟨rfl, id⟩)

theorem fading_feedDigest {md : MdAlg} {e : Err} : Fading (feedDigest env md e part) := by
  unfold feedDigest
  refine Within.get.bind fun l => ?_
  dsimp only
  -- the context that is there or was made is fed
  have hfeed : ∀ c, Fading (if part.length = 0 then pure ()
      else do
        setMd (some (P.mdUpdate env.seed c part).2)
        refuseIf (!(P.mdUpdate env.seed c part).1) .functionFailed : OpM P Unit) := fun c =>
    Within.ite (Within.pure _) ((fading_setMd _).bind fun _ => Within.failIf _ _)
  split
  · exact (Within.pure _).bind hfeed
  refine Within.check fun _ => ?_
  split
  · exact (Within.throw _).bind hfeed
  · exact (fading_setMd _).bind fun _ => (Within.pure _).bind hfeed

theorem fading_compositePhFinal : Fading (compositePhFinal env) := by
  unfold compositePhFinal
  refine Within.get.bind fun l => ?_
  dsimp only
  split
  on_goal 2 => refine fading_feedDigest.bind fun _ => ?_
  -- the digest is taken from the context that is there now
  all_goals
    refine Within.get.bind fun l => (fading_setMd _).bind fun _ => ?_
    split
    · exact Within.ite (Within.pure _) (Within.throw _)
    · exact Within.throw _

theorem fading_hmldsaPhUpdate : Fading (hmldsaPhUpdate env s part) := by
  unfold hmldsaPhUpdate
  refine Within.check fun _ => Within.get.bind fun l => Within.check fun _ => ?_
  split
  · exact Within.throw _
  · exact fading_feedDigest

theorem fading_hmldsaPhFinish : Fading (hmldsaPhFinish env s) := by
  unfold hmldsaPhFinish
  refine Within.check fun _ => Within.get.bind fun l => ?_
  split
  · refine (fading_setMd _).bind fun _ => ?_
    split
    · exact Within.throw _
    · exact fading_freeMultipart.bind fun _ => fading_appendMultipart.bind fun _ =>
        Within.update fun _ => ⟨rfl, id⟩
  · exact Within.pure _

theorem fading_macStream : Fading (macStream env s) := by
  unfold macStream
  refine Within.get.bind fun l => ?_
  split
  · exact Within.pure _
  split
  · exact Within.throw _
  refine (fading_ofExcept _).bind fun o => (fading_ofExcept _).bind fun spec => ?_
  refine Within.check fun _ => Within.check fun _ => ?_
  split
  · exact Within.throw _
  · exact (fading_setMac _).bind fun _ => Within.pure _

theorem fading_updateWith : Fading (updateWith env s part) := by
  unfold updateWith
  dsimp only
  refine .ite ?_ (.ite ?_ (.ite ?_ ?_))
  · exact fading_feedDigest.bind fun _ => .pure _
  · exact (fading_orHmldsaFail fading_hmldsaPhUpdate).bind fun _ => .pure _
  · exact fading_appendMultipart.bind fun _ => .pure _
  · split
    · exact (Within.throw _).bind fun _ => Within.pure _
    · refine .bind (fading_orMacFail ?_) fun _ => .pure _
      exact fading_macStream.bind fun c => (fading_setMac _).bind fun _ => .failIf _ _

theorem fading_signFinalMac : Fading (signFinalMac env s out) := by
  unfold signFinalMac macStreamFinal
  refine (fading_orMacFail (.failIf _ _)).bind fun _ => fading_sized (fading_orMacFail ?_)
  refine .bind (fading_macStream.bind fun c => ?_) fun mac => ?_
  · split
    · exact .throw _
    · exact .pure _
  · exact .check fun _ => (fading_setMac _).bind fun _ =>
      fading_stop.bind fun _ => .pure _

theorem fading_signFinalBuffered {t : Token} : Fading (signFinalBuffered env t s out) := by
  have hsign : Fading (do let l ← get; freeing (signOut env t s l.hmPrehashed l.mpBuf out)) :=
    Within.get.bind fun l => fading_freeing steady_signOut.within
  exact .ite ((fading_orHmldsaFail fading_hmldsaPhFinish).bind fun _ => hsign) hsign

theorem fading_signFinalComposite : Fading (signFinalComposite env s out) := by
  refine fading_sized ?_
  split
  · exact .throw _
  · exact fading_ending ((fading_ofExcept _).bind fun _ => .check fun _ =>
      fading_compositePhFinal.bind fun _ => (fading_ofExcept _).bind fun _ => .pure _)

theorem closes_signFinalComposite : Closes (signFinalComposite env s out) := by
  refine .sized ?_
  split
  · exact .throw _
  · exact .ending _

theorem closes_signFinalMac : Closes (signFinalMac env s out) :=
  .bind fun _ => .sized (.orMacFail
    (.bind fun _ => .bind fun _ => .bind fun _ => .stopped _))

theorem closes_signFinalBuffered {t : Token} : Closes (signFinalBuffered env t s out) := by
  have hsign : Closes (do let l ← get; FreeHsm.freeing (signOut env t s l.hmPrehashed l.mpBuf out)) :=
    .bind fun l => .freeing _
  exact .ite (.bind fun _ => hsign) hsign

end

/-! ## The calls on their slots -/

/-- An operation goes on or ends, with its parameters and the same authentication. -/
structure Op.Fades (op op' : Op P) : Prop where
  params : op'.params = op.params
  live : op.live.Fades op'.live

/-- The operation is active, and the user has authenticated for it if its key asks for that. -/
def Op.Authorised (op : Op P) : Prop :=
  op.live.active = true ∧ (op.params.ctxAuthRequired = true → op.live.ctxAuthDone = true)

/-- A call that answers with data only for an authorised operation, and starts none. -/
structure Gated (call : Op P → Except Refusal Reply × Op P) : Prop where
  fades : ∀ op : Op P, op.Fades (call op).2
  authorised : ∀ (op : Op P) (b : Bytes), (call op).1 = .ok (.data b) → op.Authorised

/-- A call that ends the operation when it answers with data. -/
def EndsOnData (call : Op P → Except Refusal Reply × Op P) : Prop :=
  ∀ (op : Op P) (b : Bytes), (call op).1 = .ok (.data b) → (call op).2.live.active = false

theorem gated_call {k : Setup → OpM P Reply} (hk : ∀ s, Fading (k s)) :
    Gated fun op : Op P => op.call (.ok ()) fun s => do requireCtxAuth s; k s where
  fades op := by
    unfold Op.call
    dsimp only
    split
    · exact ⟨rfl, ((fading_requireCtxAuth _).bind fun _ => hk _) op.live⟩
    · exact ⟨rfl, refl_of Running.Fades _⟩
  authorised op b h := by
    unfold Op.call at h
    dsimp only at h
    split at h
    · rename_i hactive
      refine ⟨hactive, fun hreq => ?_⟩
      by_contra hnot
      -- the gate refuses
      have hrefused : exec (requireCtxAuth op.params.setup) op.live =
          (.error (.rv .userNotLoggedIn), { op.live with active := false }) := by
        have hcond : op.params.setup.ctxAuthRequired = true ∧ (!op.live.ctxAuthDone) = true :=
          ⟨hreq, by simpa using hnot⟩
        unfold requireCtxAuth
        rw [exec_bind_of_ok (exec_get _), if_pos hcond]
        rfl
      rw [exec_bind, hrefused] at h
      cases h
    · cases h

theorem ends_call {k : Setup → OpM P Reply} (hk : ∀ s, Closes (k s)) :
    EndsOnData fun op : Op P => op.call (.ok ()) k := by
  intro op b h
  unfold Op.call at h ⊢
  dsimp only at h ⊢
  split at h
  · rename_i hactive
    rw [if_pos hactive]
    rcases hrun : exec (k op.params.setup) op.live with ⟨r, l'⟩
    rw [hrun] at h
    cases h
    exact hk _ _ b l' hrun
  · cases h

section

variable {env : OpEnv P} {data part : Buf} {out : OutArg}

theorem gated_decrypt : Gated (decrypt env data out) := by
  refine gated_call fun s => ?_
  split
  · exact .throw _
  · exact fading_ending (.check fun _ => .check fun _ =>
      (fading_ofExcept _).bind fun _ => Within.get.bind fun _ => steady_decryptWith.within)

theorem ends_decrypt : EndsOnData (decrypt env data out) := by
  refine ends_call fun s => .bind fun _ => ?_
  split
  · exact .throw _
  · exact .ending _

theorem gated_decryptUpdate : Gated (decryptUpdate env part out) := by
  refine gated_call fun s => ?_
  split
  · exact .throw _
  exact fading_endingOnError (.check fun _ => .check fun _ =>
    fading_ensureCipherCtx.bind fun _ => fading_probed (fading_updateCtx.bind fun _ => .pure _))

theorem gated_decryptFinal : Gated (decryptFinal env out) := by
  refine gated_call fun s => .ite (.throw _) (fading_endingOnError ?_)
  refine fading_ensureCipherCtx.bind fun c => fading_freeAfterProbe.bind fun _ => ?_
  refine fading_probed ((fading_setCipher _).bind fun _ => ?_)
  split
  · exact .throw _
  · exact fading_stop.bind fun _ => .pure _

theorem ends_decryptFinal : EndsOnData (decryptFinal env out) := by
  refine ends_call fun s => .bind fun _ => .ite (.throw _) (.endingOnError ?_)
  refine .bind fun c => .bind fun _ => .probed (.bind fun _ => ?_)
  split
  · exact .throw _
  · exact .stopped _

theorem gated_sign : Gated (sign env data out) := by
  refine gated_call fun s => ?_
  refine (fading_endingOnError (.failIf _ _)).bind fun _ => .check fun _ => ?_
  refine (fading_endingOnError (.failIf _ _)).bind fun _ => ?_
  split
  · exact .throw _
  · exact Within.get.bind fun _ => fading_ending steady_signWith.within

theorem ends_sign : EndsOnData (sign env data out) := by
  refine ends_call fun s => .bind fun _ => .bind fun _ => .bind fun _ =>
    .bind fun _ => ?_
  split
  · exact .throw _
  · exact .bind fun _ => .ending _

theorem gated_signUpdate : Gated (signUpdate env part) :=
  gated_call fun _ => (fading_endingOnError (.check fun _ => .failIf _ _)).bind
    fun _ => fading_updateWith

theorem gated_signFinal : Gated (signFinal env out) := by
  refine gated_call fun s => .check fun _ => ?_
  refine .ite fading_signFinalComposite (.ite ?_ fading_signFinalMac)
  split
  · exact fading_endingOnError (.throw _)
  · exact fading_signFinalBuffered

theorem ends_signFinal : EndsOnData (signFinal env out) := by
  refine ends_call fun s => .bind fun _ => .bind fun _ => ?_
  refine .ite closes_signFinalComposite (.ite ?_ closes_signFinalMac)
  split
  · exact .endingOnError (.throw _)
  · exact closes_signFinalBuffered

end

end FreeHsm
