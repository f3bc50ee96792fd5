import FreeHsm.Pkcs11.OpSlot

/-!
# The start of an operation

What `op_init` leaves in a slot, apart from the parameters it stores: the contexts it
does not touch, the buffers it has emptied, and the bounds of what it stored. Each of
its stages moves the slot along one preorder (`Op.Holds`).
-/

namespace FreeHsm

open StateExcept

variable {P : Provider}

/-- What the parameters of an operation do not touch, and the bounds they keep. -/
structure Op.Holds (a b : Op P) : Prop where
  cipherCtx : b.live.cipherCtx = a.live.cipherCtx := by rfl
  pending : b.live.encPending = a.live.encPending := by rfl
  mdCtx : b.live.mdCtx = a.live.mdCtx := by rfl
  macCtx : b.live.macCtx = a.live.macCtx := by rfl
  mpBuf : b.live.mpBuf = a.live.mpBuf := by rfl
  prehashed : a.live.hmPrehashed = false → b.live.hmPrehashed = false := by exact id
  tagLen : a.params.gcm.tagLen ≤ 16 → b.params.gcm.tagLen ≤ 16 := by exact id
  hmRow : a.params.hmRow ≤ hmTable.length → b.params.hmRow ≤ hmTable.length := by exact id
  keyHandle : b.params.keyHandle = a.params.keyHandle := by rfl
  mechanism : b.params.mechanism = a.params.mechanism := by rfl
  auth : b.params.ctxAuthRequired = a.params.ctxAuthRequired := by rfl
  authDone : b.live.ctxAuthDone = a.live.ctxAuthDone := by rfl
  active : b.live.active = a.live.active := by rfl

instance : IsPreorder (Op P) Op.Holds where
  refl _ := {}
  trans _ _ _ h h' := ⟨h'.cipherCtx.trans h.cipherCtx, h'.pending.trans h.pending,
    h'.mdCtx.trans h.mdCtx, h'.macCtx.trans h.macCtx, h'.mpBuf.trans h.mpBuf,
    h'.prehashed ∘ h.prehashed, h'.tagLen ∘ h.tagLen, h'.hmRow ∘ h.hmRow,
    h'.keyHandle.trans h.keyHandle, h'.mechanism.trans h.mechanism, h'.auth.trans h.auth,
    h'.authDone.trans h.authDone, h'.active.trans h.active⟩

theorem hmIndex_le (p : HmRow → Bool) : hmIndex p ≤ hmTable.length := by
  unfold hmIndex
  cases h : hmTable.findIdx? p with
  | none => exact Nat.zero_le _
  | some i => exact (List.findIdx?_eq_some_iff_getElem.1 h).1

theorem Op.Holds.of_params (op : Op P) {p : Params}
    (htag : op.params.gcm.tagLen ≤ 16 → p.gcm.tagLen ≤ 16)
    (hrow : op.params.hmRow ≤ hmTable.length → p.hmRow ≤ hmTable.length)
    (h : (p.keyHandle, p.mechanism, p.ctxAuthRequired) =
      (op.params.keyHandle, op.params.mechanism, op.params.ctxAuthRequired)) :
    Op.Holds op { op with params := p } := by
  simp only [Prod.mk.injEq] at h
  obtain ⟨hkey, hmech, hauth⟩ := h
  exact ⟨rfl, rfl, rfl, rfl, rfl, id, htag, hrow, hkey, hmech, hauth, rfl, rfl⟩

/-! ## The stages -/

section Start

variable (env : OpEnv P) (m : Mech) (hKey : UInt64)

theorem writeIv_holds (b : Bytes) : Within Op.Holds (modify (·.writeIv b) : InitM P PUnit) :=
  .update fun op => .of_params op id id rfl

theorem writeNonce_holds (b : Bytes) : Within Op.Holds (modify (·.writeNonce b) : InitM P PUnit) :=
  .update fun op => .of_params op id id rfl

theorem writeContext_holds (b : Bytes) : Within Op.Holds (modify (·.writeContext b) : InitM P PUnit) :=
  .update fun op => .of_params op id id rfl

theorem storeAad_holds (aad : Bytes) : Within Op.Holds (storeAad env aad) := by
  unfold storeAad
  refine .ite (.pure _) (.check fun _ => ?_)
  exact .update fun _ => {}

theorem gcmStruct_holds : Within Op.Holds (gcmStruct env m) := by
  unfold gcmStruct
  refine .check fun _ => .check fun hbounds => ?_
  refine (writeNonce_holds _).bind fun _ => ?_
  refine (storeAad_holds env _).bind fun _ => ?_
  simp only [Bool.or_eq_false_iff, decide_eq_false_iff_not] at hbounds
  refine .update fun op => .of_params op (fun _ => ?_) id rfl
  show (if m.ulong 5 = 0 then 128 else (m.ulong 5).toNat) / 8 ≤ 16
  omega

variable (mech : UInt32)

theorem initGcm_holds : Within Op.Holds (initGcm env m mech) := by
  unfold initGcm
  refine .ite (.ite (gcmStruct_holds env m) (.ite ?_ (.pure _)))
    (.pure _)
  refine (writeIv_holds _).bind fun _ => ?_
  refine (writeNonce_holds _).bind fun _ => ?_
  exact .update fun op => .of_params op (fun _ => le_refl _) id rfl

theorem initCbc_holds : Within Op.Holds (initCbc m : InitM P Unit) :=
  .ite (writeIv_holds _) (.pure _)

theorem initDes3_holds : Within Op.Holds (initDes3 m : InitM P Unit) :=
  .ite (.check fun _ => writeIv_holds _) (.pure _)

theorem initCtr_holds : Within Op.Holds (initCtr m : InitM P Unit) := by
  unfold initCtr
  refine .ite (.check fun _ => ?_) (.pure _)
  refine .ite (writeIv_holds _) (.ite ?_ (.throw _))
  exact .check fun _ => writeIv_holds _

theorem initKw_holds : Within Op.Holds (initKw m : InitM P Unit) := by
  unfold initKw
  refine .ite ?_ (.pure _)
  split
  · exact .throw _
  · exact .pure _
  · exact writeIv_holds _

theorem initGmac_holds : Within Op.Holds (initGmac m mech : InitM P Unit) := by
  unfold initGmac
  refine .ite ?_ (.pure _)
  refine .bind (fun s => refl_of Op.Holds s) fun given => ?_
  refine .ite (.pure _) (.ite (.throw _) ?_)
  refine .check fun _ => .check fun _ => ?_
  refine (writeNonce_holds _).bind fun _ => ?_
  exact .update fun op => .of_params op (fun _ => le_refl _) id rfl

theorem initCcm_holds : Within Op.Holds (initCcm env m) := by
  have hmacs : ∀ n ∈ [4, 6, 8, 10, 12, 14, 16], n ≤ 16 := by decide
  unfold initCcm
  refine Within.ite ?_ (Within.pure _)
  refine Within.check fun _ => Within.check fun _ => ?_
  refine Within.check fun hmac => Within.check fun _ => ?_
  refine (writeNonce_holds _).bind fun _ => ?_
  refine (Within.update fun op => .of_params op id id rfl).bind fun _ => ?_
  refine (storeAad_holds env _).bind fun _ => ?_
  refine Within.update fun op => .of_params op (fun _ => ?_) id rfl
  rw [Bool.not_eq_false', List.contains_iff_mem] at hmac
  exact hmacs _ hmac

theorem setOaep_holds (o : OaepParams) : Within Op.Holds (modify (·.setOaep o) : InitM P PUnit) :=
  .update fun op => .of_params op id id rfl

theorem initOaep_holds : Within Op.Holds (initOaep env m) := by
  unfold initOaep
  refine .ite ((setOaep_holds _).bind fun _ => ?_) (.pure _)
  refine .check fun _ => (setOaep_holds _).bind fun _ => ?_
  refine .check fun _ => .check fun _ => ?_
  exact .check fun _ => setOaep_holds _

theorem setPss_holds (pss : PssParams) : Within Op.Holds (modify (·.setPss pss) : InitM P PUnit) :=
  .update fun op => .of_params op id id rfl

theorem initPss_holds : Within Op.Holds (initPss env m mech) := by
  unfold initPss
  refine (setPss_holds _).bind fun _ => .ite ?_ (.pure _)
  refine .check fun _ => (setPss_holds _).bind fun _ => ?_
  refine .check fun _ => (setPss_holds _).bind fun _ => ?_
  exact .check fun _ => setPss_holds _

theorem dropContext_holds (long : Bool) :
    Within Op.Holds (modify (·.dropContext long) : InitM P PUnit) :=
  .update fun op => .of_params op id id rfl

theorem setHedge_holds (v : UInt64) : Within Op.Holds (modify (·.setHedge v) : InitM P PUnit) :=
  .update fun op => .of_params op id id rfl

theorem parsePqParams_holds : Within Op.Holds (parsePqParams m : InitM P Unit) :=
  .ite (.pure _) (.ite (writeContext_holds _)
    (.ite (.pure _) (writeContext_holds _)))

theorem initPq_holds : Within Op.Holds (initPq m mech : InitM P Unit) := by
  unfold initPq
  refine (dropContext_holds _).bind fun _ => .ite ?_ (.pure _)
  refine (parsePqParams_holds m).bind fun _ => .check fun _ => ?_
  refine (setHedge_holds _).bind fun _ => .ite (.pure _) ?_
  exact .ite (dropContext_holds _) (.failIf _ _)

theorem setHmRow_holds {n : Nat} (hn : n ≤ hmTable.length) :
    Within Op.Holds (modify (·.setHmRow n) : InitM P PUnit) :=
  .update fun op => .of_params op id (fun _ => hn) rfl

theorem hmldsaInit_holds : Within Op.Holds (hmldsaInit m mech : InitM P Unit) := by
  have hrow (generic : Bool) (k : Nat) (hk : k ≤ hmTable.length) :
      (if generic then k else hmldsaRowOfMech mech) ≤ hmTable.length := by
    split
    · exact hk
    · exact hmIndex_le _
  unfold hmldsaInit
  refine (setHmRow_holds (hrow _ _ (Nat.zero_le _))).bind fun _ => (dropContext_holds _).bind fun _ => ?_
  refine (setHedge_holds _).bind fun _ => .ite (.failIf _ _) ?_
  refine .check fun _ => .check fun _ => ?_
  refine .check fun _ => .check fun _ => ?_
  refine (setHmRow_holds (hrow _ _ (hmIndex_le _))).bind fun _ => (setHedge_holds _).bind fun _ => ?_
  exact .ite (dropContext_holds _) (writeContext_holds _)

/-- What `op_init` does between its reset and the pre-hash variants. -/
def paramStages : InitM P Unit := do
  initGcm env m mech
  initCbc m
  initDes3 m
  initCtr m
  initKw m
  initGmac m mech
  initCcm env m
  initOaep env m
  initPss env m mech
  initPq m mech

theorem paramStages_holds : Within Op.Holds (paramStages env m mech) := by
  unfold paramStages
  refine (initGcm_holds env m mech).bind fun _ => (initCbc_holds m).bind fun _ => ?_
  refine (initDes3_holds m).bind fun _ => (initCtr_holds m).bind fun _ => ?_
  refine (initKw_holds m).bind fun _ => (initGmac_holds m mech).bind fun _ => ?_
  refine (initCcm_holds env m).bind fun _ => (initOaep_holds env m).bind fun _ => ?_
  exact (initPss_holds env m mech).bind fun _ => initPq_holds m mech

theorem opInit_stages :
    opInit env m hKey = (do
      let active ← (·.live.active) <$> get
      failIf active .operationActive
      modify (·.reset env m hKey)
      paramStages env m (resolveMech env m.type.toUInt32)
      initHm m (resolveMech env m.type.toUInt32)
      failIf (resolveMech env m.type.toUInt32 == ckmEddsa.toUInt32 && eddsaRefused env m hKey)
        .mechanismParamInvalid
      initDone m : InitM P Unit) := by
  unfold opInit paramStages
  simp only [bind_assoc]

/-- The key of the token carries `CKA_ALWAYS_AUTHENTICATE`. -/
def alwaysAuth (env : OpEnv P) (hKey : UInt64) : Bool :=
  match env.tok with
  | some t => (t.objects.find? hKey.toUInt32).any (hasBit ·.flags objfAlwaysAuth)
  | none => false

/-- An operation that has just been started in the slot `old`. -/
structure Op.Started (env : OpEnv P) (m : Mech) (hKey : UInt64) (op old : Op P) : Prop where
  active : op.live.active = true
  cipherCtx : op.live.cipherCtx = old.live.cipherCtx
  macCtx : op.live.macCtx = old.live.macCtx
  pending : op.live.encPending = 0
  mdCtx : op.live.mdCtx = none
  mpBuf : op.live.mpBuf = []
  prehashed : op.live.hmPrehashed = false
  tagLen : op.params.gcm.tagLen ≤ 16
  hmRow : op.params.hmRow ≤ hmTable.length
  hmMech : op.params.hmRow ≠ 0 → hmldsaIs (resolveMech env m.type.toUInt32) = true
  keyHandle : op.params.keyHandle = hKey.toUInt32
  mechanism : op.params.mechanism = resolveMech env m.type.toUInt32
  nonce : m.type = ckmAesGcm → op.params.gcm.ivLen ≠ 0
  auth : op.params.ctxAuthRequired = alwaysAuth env hKey
  authDone : op.live.ctxAuthDone = false

variable {env m hKey} {op op' : Op P}

theorem initDone_ok (h : exec (initDone m) op = (.ok (), op')) :
    op' = op.activate ∧ (m.type = ckmAesGcm → op.params.gcm.ivLen ≠ 0) := by
  rw [initDone, exec_bind_of_ok (exec_gets _ _), exec_failIf_bind_ok, exec_failIf_bind_ok] at h
  obtain ⟨-, hgcm, h⟩ := h
  refine ⟨(congrArg Prod.snd h).symm, fun htype hlen => ?_⟩
  simp [htype, hlen] at hgcm

theorem opInit_started (h : exec (opInit env m hKey) op = (.ok (), op')) :
    op'.Started env m hKey op := by
  rw [opInit_stages, exec_bind_of_ok (exec_gets _ _), exec_failIf_bind_ok, exec_modify_bind] at h
  obtain ⟨_, op₁, hstages, h⟩ := exec_bind_ok.1 h.2
  obtain ⟨_, op₂, hhm, h⟩ := exec_bind_ok.1 h
  rw [exec_failIf_bind_ok] at h
  have h₁ := paramStages_holds env m (resolveMech env m.type.toUInt32) (op.reset env m hKey)
  rw [hstages] at h₁
  -- the row and the flag of the pre-hash variants are reset by `initHm`
  have h₂ : Op.Holds op₁.resetHm op₂ ∧
      (op₂.params.hmRow ≠ 0 → hmldsaIs (resolveMech env m.type.toUInt32) = true) := by
    rw [initHm, exec_modify_bind] at hhm
    split at hhm
    · rename_i his
      have hstep := hmldsaInit_holds m (resolveMech env m.type.toUInt32) op₁.resetHm
      rw [hhm] at hstep
      exact ⟨hstep, fun _ => his⟩
    · obtain rfl : op₁.resetHm = op₂ := congrArg Prod.snd hhm
      exact ⟨refl_of Op.Holds _, fun hrow => absurd rfl hrow⟩
  obtain ⟨h₂, hmech⟩ := h₂
  obtain ⟨rfl, hnonce⟩ := initDone_ok h.2
  exact
    { active := rfl
      cipherCtx := h₂.cipherCtx.trans h₁.cipherCtx
      macCtx := h₂.macCtx.trans h₁.macCtx
      pending := h₂.pending.trans h₁.pending
      mdCtx := h₂.mdCtx.trans h₁.mdCtx
      mpBuf := h₂.mpBuf.trans h₁.mpBuf
      prehashed := h₂.prehashed rfl
      tagLen := h₂.tagLen (h₁.tagLen (le_refl _))
      hmRow := h₂.hmRow (Nat.zero_le _)
      hmMech := hmech
      keyHandle := h₂.keyHandle.trans h₁.keyHandle
      mechanism := h₂.mechanism.trans h₁.mechanism
      nonce := hnonce
      auth := h₂.auth.trans h₁.auth
      authDone := h₂.authDone.trans h₁.authDone }

theorem initHm_active (mech : UInt32) :
    Within (fun a b : Op P => b.live.active = a.live.active) (initHm m mech) := by
  intro op
  unfold initHm
  rw [exec_bind_of_ok (exec_modify _ _)]
  split
  · exact (hmldsaInit_holds m mech op.resetHm).active
  · rfl

theorem initDone_error {e : Err} (h : exec (initDone m) op = (.error e, op')) : op' = op := by
  unfold initDone at h
  rw [exec_bind_of_ok (exec_gets _ _), exec_failIf_bind] at h
  split at h
  · cases h
    rfl
  · rw [exec_failIf_bind] at h
    split at h <;> cases h
    rfl

theorem opInit_error {e : Err} (h : exec (opInit env m hKey) op = (.error e, op')) :
    op' = op ∨ op'.live.active = false := by
  rw [opInit_stages, exec_bind_of_ok (exec_gets _ _), exec_failIf_bind] at h
  split at h
  · cases h
    exact .inl rfl
  · rename_i hidle
    have hidle : op.live.active = false := by simpa using hidle
    right
    rw [exec_bind_of_ok (exec_modify _ _)] at h
    have h₁ := (paramStages_holds env m (resolveMech env m.type.toUInt32) (op.reset env m hKey)).active
    rcases exec_bind_error.1 h with hfail | ⟨_, op₁, hstages, h⟩
    · rw [hfail] at h₁
      exact h₁.trans hidle
    · rw [hstages] at h₁
      have h₂ := initHm_active (m := m) (resolveMech env m.type.toUInt32) op₁
      rcases exec_bind_error.1 h with hfail | ⟨_, op₂, hhm, h⟩
      · rw [hfail] at h₂
        exact h₂.trans (h₁.trans hidle)
      · rw [hhm] at h₂
        rw [exec_failIf_bind] at h
        split at h
        · cases h
          exact h₂.trans (h₁.trans hidle)
        · rw [initDone_error h]
          exact h₂.trans (h₁.trans hidle)

end Start

end FreeHsm
