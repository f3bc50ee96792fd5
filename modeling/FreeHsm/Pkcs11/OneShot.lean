import FreeHsm.Pkcs11.Multipart
import FreeHsm.Pkcs11.OpEnd

/-!
# One-shot ciphers

What `C_Encrypt` and `C_Decrypt` answer with the mechanisms that can also be run in
parts, in terms of the model of the contexts.
-/

namespace FreeHsm

open StateExcept OpM

variable {P : Provider}

/-- `C_Encrypt` or `C_Decrypt`. -/
def oneShotCall (env : OpEnv P) (enc : Bool) (data : Bytes) : SlotStep P := fun seed out op =>
  if enc then encrypt (env.seeded seed) (.bytes data) out op
  else decrypt (env.seeded seed) (.bytes data) out op

section

variable (env : OpEnv P)

/-- The branch of `C_Encrypt` and `C_Decrypt` for these mechanisms. -/
def cipherWith (enc : Bool) (s : Setup) (o : Obj) (aad data : Bytes) (out : OutArg) : OpM P Reply :=
  if s.mechanism = ckmAesGcm.toUInt32 then
    if enc then gcmEncrypt env s o aad data out else gcmDecrypt env s o aad data out
  else aesOneShot env enc s o data out

variable {env} in
theorem steady_cipherWith {enc : Bool} {s : Setup} {o : Obj} {aad data : Bytes} {out : OutArg} :
    Steady (cipherWith env enc s o aad data out) :=
  .ite (.ite steady_gcmEncrypt steady_gcmDecrypt) steady_aesOneShot

theorem multipartMechs_branch : ∀ mech ∈ multipartMechs.map (·.toUInt32),
    (mech ≠ ckmRsaPkcsOaep.toUInt32 ∧
      ¬(mech = ckmRsaPkcs.toUInt32 ∨ mech = ckmRsaX509.toUInt32) ∧
      ¬(mech = ckmAesKeyWrap.toUInt32 ∨ mech = ckmAesKeyWrapKwp.toUInt32)) ∧
    (mech ≠ ckmAesGcm.toUInt32 →
      mech ∈ [ckmAesEcb, ckmAesCbc, ckmAesCbcPad, ckmAesCtr].map (·.toUInt32)) ∧
    (mech = ckmAesGcm.toUInt32 →
      mech ∉ [ckmAesEcb, ckmAesCbc, ckmAesCbcPad, ckmAesCtr].map (·.toUInt32) ∧
      mech ≠ ckmDes3Cbc.toUInt32 ∧ mech ≠ ckmAesCcm.toUInt32) ∧
    (opCipherKind mech).isSome = true :=
  List.all_iff_forall_prop.1 (by decide)

variable {s : Setup} (hs : s.mechanism ∈ multipartMechs.map (·.toUInt32))
include hs

theorem encryptWith_eq (o : Obj) (aad data : Bytes) (out : OutArg) :
    encryptWith env s o aad data out = cipherWith env true s o aad data out := by
  obtain ⟨⟨h1, h2, h3⟩, hblock, hgcm, -⟩ := multipartMechs_branch _ hs
  unfold encryptWith cipherWith
  rw [if_neg h1, if_neg h2, if_neg h3]
  by_cases h : s.mechanism = ckmAesGcm.toUInt32
  · obtain ⟨h4, h5, h6⟩ := hgcm h
    rw [if_neg h4, if_neg h5, if_neg h6, if_pos h, if_pos rfl]
  · rw [if_pos (hblock h), if_neg h]

theorem decryptWith_eq (o : Obj) (aad data : Bytes) (out : OutArg) :
    decryptWith env s o aad data out = cipherWith env false s o aad data out := by
  obtain ⟨⟨h1, h2, h3⟩, hblock, hgcm, -⟩ := multipartMechs_branch _ hs
  unfold decryptWith cipherWith
  rw [if_neg h1, if_neg h2, if_neg h3]
  by_cases h : s.mechanism = ckmAesGcm.toUInt32
  · obtain ⟨h4, h5, h6⟩ := hgcm h
    rw [if_neg h4, if_neg h5, if_neg h6, if_pos h, if_neg Bool.false_ne_true]
  · rw [if_pos (hblock h), if_neg h]

end

/-- A call that goes through `ending` leaves what its body leaves if it answers nothing yet, and
ends the operation otherwise. -/
theorem exec_ending (x : OpM P Reply) (l : Running P) : (exec (ending x) l).1 = (exec x l).1 ∧
      (Outcome.of (exec x l).1 = .unanswered → (exec (ending x) l).2 = (exec x l).2) ∧
      (Outcome.of (exec x l).1 ≠ .unanswered → (exec (ending x) l).2.active = false) := by
  unfold ending
  rw [exec_tryCatch, exec_bind]
  rcases exec x l with ⟨(e | n) | (_ | n | b), l'⟩
  · exact ⟨rfl, nofun, fun _ => rfl⟩
  · exact ⟨rfl, fun _ => rfl, fun h => absurd rfl h⟩
  · exact ⟨rfl, nofun, fun _ => rfl⟩
  · exact ⟨rfl, fun _ => rfl, fun h => absurd rfl h⟩
  · exact ⟨rfl, nofun, fun _ => rfl⟩

section

variable (env : OpEnv P) {op : Op P}
  (hs : op.params.setup.mechanism ∈ multipartMechs.map (·.toUInt32)) {t : Token}
include hs

theorem encrypt_eq (hactive : op.live.active = true) (htok : env.tok = some t) (data : Bytes)
    (out : OutArg) :
    encrypt env (.bytes data) out op = op.result (exec (ending do
      let o ← OpM.ofExcept (t.objectGet op.params.setup.keyHandle)
      refuseIf (out == .noLen || (Buf.bytes data).dangling) .argumentsBad
      refuseIf (inputMax < data.length) .dataLenRange
      let l ← get
      cipherWith env true op.params.setup o l.gcmAad data out) op.live) := by
  simp only [encrypt, Op.call_of_active hactive, htok, encryptWith_eq env hs]
  rfl

theorem decrypt_eq (hactive : op.live.active = true) (htok : env.tok = some t)
    (hauth : op.params.setup.ctxAuthRequired = true → op.live.ctxAuthDone = true) (data : Bytes)
    (out : OutArg) :
    decrypt env (.bytes data) out op = op.result (exec (ending do
      refuseIf (out == .noLen || (Buf.bytes data).dangling) .argumentsBad
      refuseIf (inputMax < data.length) .dataLenRange
      let o ← OpM.ofExcept (t.objectGet op.params.setup.keyHandle)
      let l ← get
      cipherWith env false op.params.setup o l.gcmAad data out) op.live) := by
  simp only [decrypt, Op.call_of_active hactive, htok, decryptWith_eq env hs,
    exec_bind_of_ok (exec_requireCtxAuth hauth)]
  rfl

theorem oneShotCall_waits (hactive : op.live.active = true) (htok : env.tok = some t) (enc : Bool)
    (data : Bytes)
    (hauth : enc = false → op.params.setup.ctxAuthRequired = true → op.live.ctxAuthDone = true) :
    Waits (oneShotCall env enc data) op := by
  have hwait : ∀ x : OpM P Reply, Within Eq x →
      Outcome.of (op.result (exec (ending x) op.live)).1 = .unanswered →
      (op.result (exec (ending x) op.live)).2 = op := by
    intro x hx hun
    obtain ⟨hres, hleft, -⟩ := exec_ending x op.live
    have hstate : (exec (ending x) op.live).2 = op.live := by
      rw [hleft (by rw [← hres]; exact hun)]
      exact (hx op.live).symm
    show ({ op with live := (exec (ending x) op.live).2 } : Op P) = op
    rw [hstate]
  intro seed out hun
  cases enc with
  | true =>
    rw [oneShotCall, if_pos rfl, encrypt_eq (env.seeded seed) hs hactive htok] at hun ⊢
    refine hwait _ ?_ hun
    refine (steady_ofExcept _).within.bind fun o => .check fun _ => .check fun _ => ?_
    exact Within.get.bind fun l => steady_cipherWith.within
  | false =>
    rw [oneShotCall, if_neg Bool.false_ne_true,
      decrypt_eq (env.seeded seed) hs hactive htok (hauth rfl)] at hun ⊢
    refine hwait _ ?_ hun
    refine .check fun _ => .check fun _ => (steady_ofExcept _).within.bind fun o => ?_
    exact Within.get.bind fun l => steady_cipherWith.within

end

/-! ### What a one-shot call answers -/

section

variable (V : EvpModel P) (env : OpEnv P) {s : Setup} {aad data : Bytes} {o : Obj} {n : Option Nat}
  {l : Running P}

theorem exec_updateFinal {spec : CipherSpec} {c : P.Cipher} (hholds : V.Holds c spec [] none)
    (bad : Err) (l : Running P) :
    (exec (updateFinal env c data bad) l).1 = match V.finish spec data none with
      | none => .error (.rv bad)
      | some f => .ok (.data (V.emitted spec data ++ f)) := by
  obtain ⟨c₁, hupdate, hholds₁⟩ := V.update env.seed c spec [] data hholds
  obtain ⟨c₂, hfinal, -⟩ := V.final env.seed c₁ spec _ none hholds₁
  rw [List.nil_append] at hfinal
  have hadded : (V.transform spec).added spec.holdsBack [] data = V.emitted spec data :=
    V.added_nil spec data
  unfold updateFinal EvpModel.finish
  rw [hupdate]
  dsimp only
  rw [hfinal]
  cases spec.finish (V.transform spec) (V.tag spec data) data none with
  | none => rfl
  | some f => rw [hadded]; rfl

/-- `C_Encrypt` and `C_Decrypt` without a tag, when they do more than report a size. -/
theorem aesOneShot_answer {enc : Bool} {r : Outcome}
    (h : Outcome.of (exec (aesOneShot env enc s o data (outArg n)) l).1 = r) :
    (∃ e, r = .refused e ∧ e ≠ .encryptedDataInvalid) ∨ r = .unanswered ∨
      o.keyType = ckkAes ∧ V.supports (aesSpec enc s (aesBits o.value.length) o.value) = true ∧
      r = match V.finish (aesSpec enc s (aesBits o.value.length) o.value) data none with
        | none => .refused (cipherFailure enc)
        | some f => .bytes (V.emitted (aesSpec enc s (aesBits o.value.length) o.value) data ++ f) := by
  unfold aesOneShot cipherOneShot at h
  simp only [refuseIf, exec_failIf_bind, V.fetch, V.ctxNew] at h
  split at h
  · exact .inl ⟨_, h.symm, by decide⟩
  rename_i htype
  split at h
  · exact .inl ⟨_, h.symm, by decide⟩
  simp only [Bool.not_true, Bool.false_eq_true, if_false] at h
  cases hinit : P.cipherInit env.seed (aesSpec enc s (aesBits o.value.length) o.value) with
  | none =>
    rw [hinit] at h
    exact .inl ⟨_, h.symm, by decide⟩
  | some c =>
    obtain ⟨hsup, hholds⟩ := V.cipherInit_eq_some hinit
    rw [hinit] at h
    cases n with
    | none => exact .inr (.inl h.symm)
    | some k =>
      refine .inr ?_
      by_cases hk : k < data.length + if enc ∧ (aesSpec enc s (aesBits o.value.length)
          o.value).padding then 16 else 0
      · exact .inl (by rw [← h, outArg, exec_sized_small hk]; rfl)
      · refine .inr ⟨by simpa using htype, hsup, ?_⟩
        rw [← h, outArg, exec_sized_fits hk, exec_updateFinal V env hholds]
        cases V.finish (aesSpec enc s (aesBits o.value.length) o.value) data none <;> rfl

theorem gcmEncrypt_bytes {ct : Bytes}
    (h : Outcome.of (exec (gcmEncrypt env s o aad data (outArg n)) l).1 = .bytes ct) :
    o.keyType = ckkAes ∧ ∃ bits, aesBits? o.value.length = some bits ∧
      V.supports (gcmSpec env true s bits o.value aad) = true ∧
      ct = V.emitted (gcmSpec env true s bits o.value aad) data ++
        V.tag (gcmSpec env true s bits o.value aad) data s.tagLen := by
  unfold gcmEncrypt at h
  simp only [refuseIf, exec_failIf_bind, V.ctxNew] at h
  split at h
  · cases h
  rename_i htype
  cases n with
  | none => cases h
  | some k =>
    by_cases hk : k < data.length + s.tagLen
    · rw [outArg, exec_sized_small hk] at h
      cases h
    · rw [outArg, exec_sized_fits hk] at h
      cases hbits : aesBits? o.value.length with
      | none =>
        rw [hbits] at h
        cases h
      | some bits =>
        rw [hbits] at h
        simp only [Bool.not_true, exec_failIf_bind, Bool.false_eq_true, if_false] at h
        cases hinit : P.cipherInit env.seed (gcmSpec env true s bits o.value aad) with
        | none =>
          rw [hinit] at h
          cases h
        | some c =>
          rw [hinit] at h
          obtain ⟨hsup, hholds⟩ := V.cipherInit_eq_some hinit
          obtain ⟨c₁, hupdate, hholds₁⟩ := V.update env.seed c _ [] data hholds
          obtain ⟨c₂, hfinal, hdone⟩ := V.final env.seed c₁ _ _ none hholds₁
          have hadded : (V.transform (gcmSpec env true s bits o.value aad)).added
              (gcmSpec env true s bits o.value aad).holdsBack [] data =
                V.emitted (gcmSpec env true s bits o.value aad) data := V.added_nil _ data
          have hfinish : (gcmSpec env true s bits o.value aad).finish
              (V.transform (gcmSpec env true s bits o.value aad))
              (V.tag (gcmSpec env true s bits o.value aad) ([] ++ data)) ([] ++ data) none =
                some [] := by
            simp [CipherSpec.finish, gcmSpec]
          rw [hfinish] at hfinal
          simp only [sealTagged, hupdate, hfinal, hadded,
            V.getTag env.seed c₂ _ _ s.tagLen hdone] at h
          refine ⟨?_, bits, rfl, hsup, ?_⟩
          · simp only [Bool.or_eq_true, bne_iff_ne, not_or, not_not] at htype
            exact htype.2
          · cases h
            rw [List.append_nil, List.nil_append]

/-- The context that both ways give to a key. -/
def keySpec (s : Setup) (aad : Bytes) (o : Obj) (enc : Bool) : CipherSpec :=
  cipherSpec enc s (aesBits o.value.length) o.value aad

theorem decrypting_keySpec (s : Setup) (aad : Bytes) (o : Obj) :
    (keySpec s aad o true).decrypting = keySpec s aad o false := by
  unfold keySpec cipherSpec
  split <;> rfl

@[simp] theorem keySpec_enc (s : Setup) (aad : Bytes) (o : Obj) (enc : Bool) :
    (keySpec s aad o enc).enc = enc := by
  unfold keySpec cipherSpec
  split <;> rfl

/-- What is known of a ciphertext that `C_Encrypt` produced. -/
structure Sealed (s : Setup) (aad : Bytes) (o : Obj) (data ct : Bytes) : Prop where
  keyType : o.keyType = ckkAes
  gcm : s.mechanism = ckmAesGcm.toUInt32 → (aesBits? o.value.length).isSome = true
  supported : V.supports (keySpec s aad o true) = true
  closing : ∃ f, V.finish (keySpec s aad o true) data none = some f ∧
    ct = V.emitted (keySpec s aad o true) data ++
      (f ++ V.closingTag s (keySpec s aad o true) data)

theorem aesBits_of_some {n bits : Nat} (h : aesBits? n = some bits) : aesBits n = bits := by
  unfold aesBits? at h
  unfold aesBits
  grind

theorem opCipherKind_gcm {mech : UInt32} : opCipherKind mech = some .gcm ↔ mech = ckmAesGcm.toUInt32 := by
  unfold opCipherKind
  split
  · rename_i h
    simp [h]
  · rename_i h
    simp only [h, iff_false]
    split
    · simp
    split
    · simp
    · split <;> simp

theorem cipherWith_bytes (hnonce : s.mechanism = ckmAesGcm.toUInt32 → s.gcmIvLen ≠ 0) {ct : Bytes}
    (h : Outcome.of (exec (cipherWith env true s o aad data (outArg n)) l).1 = .bytes ct) :
    Sealed V s aad o data ct := by
  unfold cipherWith at h
  by_cases hgcm : s.mechanism = ckmAesGcm.toUInt32
  · rw [if_pos hgcm, if_pos rfl] at h
    obtain ⟨htype, bits, hbits, hsup, hct⟩ := gcmEncrypt_bytes V env h
    have hspec : gcmSpec env true s bits o.value aad =
        keySpec s aad o true := by
      rw [keySpec, ← multipartSpec_eq hnonce, multipartSpec, if_pos hgcm, aesBits_of_some hbits]
    rw [hspec] at hsup hct
    refine ⟨htype, fun _ => by rw [hbits]; rfl, hsup, [], ?_, ?_⟩
    · simp [EvpModel.finish, CipherSpec.finish, keySpec, cipherSpec, hgcm]
    · rw [hct, List.nil_append, EvpModel.closingTag, if_pos (opCipherKind_gcm.2 hgcm)]
  · rw [if_neg hgcm] at h
    have hspec : keySpec s aad o true =
        aesSpec true s (aesBits o.value.length) o.value := if_neg hgcm
    rcases aesOneShot_answer V env h with ⟨e, he, -⟩ | he | ⟨htype, hsup, hr⟩
    · cases he
    · cases he
    · split at hr
      · cases hr
      · rename_i f hf
        cases hr
        refine ⟨htype, fun hg => absurd hg hgcm, by rw [hspec]; exact hsup, f, by rw [hspec]; exact hf, ?_⟩
        rw [hspec, EvpModel.closingTag, if_neg fun hk => hgcm (opCipherKind_gcm.1 hk), List.append_nil]

end

end FreeHsm
