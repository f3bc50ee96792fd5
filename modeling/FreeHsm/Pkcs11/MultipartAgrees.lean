import FreeHsm.Pkcs11.OneShot

/-!
# Multipart and one-shot ciphers

The two ways to run a cipher are separate code: `C_Encrypt` and `C_Decrypt` build a
context from the parameters of the slot and use it at once, the multipart calls build
theirs in `ensure_cipher_ctx` and keep it in the slot. Here they are compared on the
same key, parameters and data.
-/

namespace FreeHsm

open StateExcept OpM SessionOps List Option

variable {P : Provider}

/-- A cipher operation: the session around it, its mechanism and its key, and whether a
context-specific login follows `C_*Init`. -/
structure CipherJob (P : Provider) where
  env : OpEnv P
  mech : Mech
  hKey : UInt64
  login : Bool

/-- An idle slot without a context left behind. -/
def Op.Clear (op : Op P) : Prop := op.live.active = false ∧ op.live.cipherCtx = none ∧ op.live.macCtx = none

namespace CipherJob

variable (j : CipherJob P)

/-- `C_EncryptInit` or `C_DecryptInit`, and the login. -/
def start (enc : Bool) (op : Op P) : Option (Op P) :=
  match (if enc then encryptInit j.env (some j.mech) j.hKey op
    else decryptInit j.env (some j.mech) j.hKey op) with
  | (.ok _, op') => some (if j.login then SessionOps.grantSlot op' else op')
  | (.error _, _) => none

/-- The operation in one call. -/
def oneShot (enc : Bool) (data : Bytes) (tr : Tries P) (op : Op P) : Option Outcome :=
  (j.start enc op).map fun op' => (complete (oneShotCall j.env enc data) tr op').1

/-- The operation in parts. -/
def multipart (enc : Bool) (parts : List (Part P)) (peeks : List (Peek P)) (last : Tries P)
    (op : Op P) : Option Outcome :=
  (j.start enc op).map fun op' => finishParts j.env enc parts peeks last op'

/-- The key of the operation. -/
def key : Option Obj := j.env.tok.bind fun t => (t.objectGet j.hKey.toUInt32).toOption

/-- The key is of one of the three sizes of AES. -/
def usualKey : Bool := j.key.any fun o => (aesBits? o.value.length).isSome

/-- The key can be used to decrypt: `C_DecryptInit` takes it, and the login it may ask for is made. -/
def canDecrypt : Bool :=
  match decryptInit j.env (some j.mech) j.hKey {} with
  | (.ok _, op) => j.login || !op.params.ctxAuthRequired
  | (.error _, _) => false

/-- The parts make up the data. -/
def Cuts (parts : List (Part P)) (data : Bytes) : Prop := (parts.map (·.data)).flatten = data

/-- The buffers offered before the output is due are too short. -/
def Waits (enc : Bool) (parts : List (Part P)) (peeks : List (Peek P)) (op : Op P) : Prop :=
  ∀ op', j.start enc op = some op' → ShortBetween j.env enc peeks parts op'

/-- The two ways agree on data that one call encrypts to `ct`. -/
structure Agrees (data ct : Bytes) : Prop where
  encrypts : ∀ (op : Op P) parts peeks last, op.Clear → Cuts parts data →
    j.Waits true parts peeks op → j.multipart true parts peeks last op = some (.bytes ct)
  decrypts : j.canDecrypt = true → ∀ (op : Op P) parts peeks last, op.Clear → Cuts parts ct →
    j.Waits false parts peeks op → j.multipart false parts peeks last op = some (.bytes data)
  rejects : j.canDecrypt = true → ∀ (op op' : Op P) x tr parts peeks last, op.Clear → op'.Clear →
    j.oneShot false x tr op = some (.refused .encryptedDataInvalid) → Cuts parts x →
    j.Waits false parts peeks op' →
    ∃ e, j.multipart false parts peeks last op' = some (.refused e)

end CipherJob

/-! ### The start -/

theorem keyedGate_key {env : OpEnv P} {m : Mech} {hKey : UInt64} {valid : UInt64 → Bool}
    {usage : Usage} {m' : Mech} (h : keyedGate env (some m) hKey valid usage = .ok m') :
    m' = m ∧ ∃ t o, env.tok = some t ∧ t.objectGet hKey.toUInt32 = .ok o ∧
      (∀ kt, keyTypeRule m.type = .exactly kt → o.keyType = kt) := by
  unfold keyedGate at h
  cases htok : env.tok with
  | none => rw [htok] at h; cases h
  | some t =>
    rw [htok] at h
    dsimp only at h
    split at h
    · simp only [bind_eq_ok] at h
      obtain ⟨-, -, o, ho, _, htype, -, -, -, -, h⟩ := h
      have hget : t.objectGet hKey.toUInt32 = .ok o := by
        unfold Token.requireKey at ho
        split at ho
        · cases ho
          assumption
        · cases ho
      cases h
      refine ⟨rfl, t, o, rfl, hget, fun kt hrule => ?_⟩
      unfold checkKeyMechType at htype
      rw [hget] at htype
      simp only [hrule] at htype
      split at htype
      · assumption
      · cases htype
    · cases h

/-- An `Init` that succeeds is a start of `op_init` with a key that is there. -/
theorem keyedInit_ok {env : OpEnv P} {m : Mech} {hKey : UInt64} {valid : UInt64 → Bool}
    {usage : Usage} {op op' : Op P} {r : Reply}
    (h : keyedInit env (some m) hKey valid usage op = (.ok r, op')) :
    exec (opInit env m hKey) op = (.ok (), op') ∧
      ∃ t o, env.tok = some t ∧ t.objectGet hKey.toUInt32 = .ok o ∧
        (∀ kt, keyTypeRule m.type = .exactly kt → o.keyType = kt) := by
  unfold keyedInit at h
  cases hgate : keyedGate env (some m) hKey valid usage with
  | error e =>
    rw [hgate] at h
    cases h
  | ok m' =>
    obtain ⟨rfl, hkey⟩ := keyedGate_key hgate
    rw [hgate] at h
    rcases hexec : exec (opInit env m' hKey) op with ⟨e | u, op₂⟩
    · simp only [hexec] at h
      cases h
    · simp only [hexec] at h
      cases h
      exact ⟨rfl, hkey⟩

namespace CipherJob

variable {j : CipherJob P} {op a b : Op P} {enc : Bool}

theorem start_eq (enc : Bool) (op : Op P) :
    j.start enc op = match keyedInit j.env (some j.mech) j.hKey (cipherMechValid j.env)
        (if enc then .encrypt else .decrypt) op with
      | (.ok _, op') => some (if j.login then grantSlot op' else op')
      | (.error _, _) => none := by
  cases enc <;> rfl

theorem start_eq_some {op' : Op P} (h : j.start enc op = some op') :
    ∃ op₁, exec (opInit j.env j.mech j.hKey) op = (.ok (), op₁) ∧
      op' = (if j.login then grantSlot op₁ else op₁) ∧
      ∃ t o, j.env.tok = some t ∧ t.objectGet j.hKey.toUInt32 = .ok o ∧
        (∀ kt, keyTypeRule j.mech.type = .exactly kt → o.keyType = kt) := by
  rw [start_eq] at h
  generalize (if enc then Usage.encrypt else .decrypt) = usage at h
  rcases hx : keyedInit j.env (some j.mech) j.hKey (cipherMechValid j.env) usage op with ⟨e | r, op₁⟩
  · rw [hx] at h
    cases h
  rw [hx] at h
  have hop := (some.inj h).symm
  obtain ⟨hexec, hkey⟩ := keyedInit_ok hx
  exact ⟨op₁, hexec, hop, hkey⟩

/-- The slot, the key and the token of a started operation. -/
structure Ready (j : CipherJob P) (t : Token) (o : Obj) (op : Op P) : Prop where
  tok : j.env.tok = some t
  get : t.objectGet op.params.setup.keyHandle = .ok o
  keyType : o.keyType = ckkAes
  key : j.key = some o
  active : op.live.active = true
  ctx : op.live.cipherCtx = none
  pending : op.live.encPending = 0
  mechanism : op.params.setup.mechanism = j.mech.type.toUInt32
  nonce : op.params.setup.mechanism = ckmAesGcm.toUInt32 → op.params.setup.gcmIvLen ≠ 0
  login : j.login = true → op.live.ctxAuthDone = true

theorem start_ready (hm : j.mech.type ∈ multipartMechs) {op' : Op P} (hclear : op.Clear)
    (h : j.start enc op = some op') : ∃ t o, Ready j t o op' := by
  obtain ⟨op₁, hexec, rfl, t, o, htok, hget, htype⟩ := start_eq_some h
  have hst := opInit_started hexec
  have hrule : ∀ x ∈ multipartMechs, keyTypeRule x = .exactly ckkAes ∧
      (x.toUInt32 = ckmAesGcm.toUInt32 → x = ckmAesGcm) ∧ x.toUInt32 ≠ ckmAesGmac.toUInt32 :=
    List.all_iff_forall_prop.1 (by decide)
  obtain ⟨haes, hgcm, hgmac⟩ := hrule _ hm
  have hmech := hst.mechanism
  rw [resolveMech_of_ne _ hgmac] at hmech
  have hparams : (if j.login then grantSlot op₁ else op₁).params = op₁.params := by
    split
    · unfold grantSlot
      split <;> rfl
    · rfl
  refine ⟨t, o, htok, ?_, htype _ haes, ?_, ?_, ?_, ?_, ?_, ?_, ?_⟩
  · rw [hparams]
    show t.objectGet op₁.params.keyHandle = .ok o
    rw [hst.keyHandle, hget]
  · simp [key, htok, hget, Except.toOption]
  · unfold grantSlot
    split <;> simp [hst.active]
  · unfold grantSlot
    split <;> simp [hst.active, hst.cipherCtx, hclear.2.1]
  · unfold grantSlot
    split <;> simp [hst.active, hst.pending]
  · rw [hparams]
    exact hmech
  · rw [hparams]
    intro hg
    exact hst.nonce (hgcm (hmech.symm.trans hg))
  · intro hlogin
    simp [grantSlot, hst.active, hlogin]

theorem Op.Clear.alike (ha : a.Clear) (hb : b.Clear) : a.Alike b :=
  (Op.BothIdle.mk ha.1 hb.1 (ha.2.1.trans hb.2.1.symm) (ha.2.2.trans hb.2.2.symm)).alike

/-- The same operation on two clear slots, in the same direction or not. -/
theorem start_same (hm : j.mech.type ∈ multipartMechs) {enc' : Bool} {a' b' : Op P} (ha : a.Clear)
    (hb : b.Clear) (hsa : j.start enc a = some a') (hsb : j.start enc' b = some b') :
    a'.live = b'.live ∧ a'.params.setup = b'.params.setup := by
  obtain ⟨a₁, hxa, rfl, -⟩ := start_eq_some hsa
  obtain ⟨b₁, hxb, rfl, -⟩ := start_eq_some hsb
  have hnarrow : j.mech.Narrow := by
    have hall : ∀ x ∈ multipartMechs, x.toUInt32.toUInt64 = x :=
      List.all_iff_forall_prop.1 (by decide)
    exact hall _ hm
  obtain ⟨-, halike⟩ := opInit_alike j.env j.mech j.hKey hnarrow (Op.Clear.alike ha hb)
  rw [hxa, hxb] at halike
  have hlive := halike.live (opInit_ok_active hxa)
  have hsetup := halike.setup (opInit_ok_active hxa)
  unfold grantSlot
  rw [hlive]
  split
  · split
    · exact ⟨rfl, hsetup⟩
    · exact ⟨hlive, hsetup⟩
  · exact ⟨hlive, hsetup⟩

section

variable {V : EvpModel P} {t : Token} {o : Obj} {op : Op P} (hr : Ready j t o op)
include hr

theorem Ready.mech_mem (hm : j.mech.type ∈ multipartMechs) :
    op.params.setup.mechanism ∈ multipartMechs.map (·.toUInt32) := by
  rw [hr.mechanism]
  exact mem_map_of_mem hm

theorem Ready.keyed (hm : j.mech.type ∈ multipartMechs) {enc : Bool} (hkey : j.usualKey = true)
    (hsup : V.supports (keySpec op.params.setup op.live.gcmAad o enc) = true) :
    Keyed V t op.params.setup op.live.gcmAad (keySpec op.params.setup op.live.gcmAad o enc) where
  key := by
    rw [usualKey, hr.key, any_some, isSome_iff_exists] at hkey
    obtain ⟨bits, hbits⟩ := hkey
    exact ⟨o, bits, hr.get, hr.keyType, hbits, by rw [keySpec_enc, ← aesBits_of_some hbits]; rfl⟩
  kind := (multipartMechs_branch _ (hr.mech_mem hm)).2.2.2
  nonce := hr.nonce
  supported := hsup

theorem Ready.fed {enc : Bool}
    (hauth : enc = false → op.params.setup.ctxAuthRequired = true → op.live.ctxAuthDone = true) :
    FedOp V op.params.setup op.live.gcmAad (keySpec op.params.setup op.live.gcmAad o enc) [] op where
  left := rfl
  right :=
    { active := hr.active
      auth := by rw [keySpec_enc]; exact hauth
      aad_eq := rfl
      pending := fun _ _ => hr.pending
      ctx := .inl ⟨hr.ctx, rfl⟩ }

end

theorem Ready.unopened {V : EvpModel P} {t : Token} {o : Obj} (hr : Ready j t o op) (enc : Bool)
    (hbad : ¬(j.usualKey = true ∧ V.supports (keySpec op.params.setup op.live.gcmAad o enc) = true)) :
    Unopened j.env enc op where
  active := hr.active
  refused seed := by
    have htok : (j.env.seeded seed).tok = some t := hr.tok
    unfold ensureCipherCtx
    rw [exec_bind_of_ok (exec_get _)]
    simp only [hr.ctx, htok, hr.get, OpM.ofExcept, pure_bind, refuseIf, hr.keyType,
      bne_self_eq_false, exec_failIf_bind, Bool.false_eq_true, if_false]
    split
    · exact ⟨_, rfl⟩
    cases hbits : aesBits? o.value.length with
    | none => exact ⟨_, rfl⟩
    | some bits =>
      have husual : j.usualKey = true := by
        rw [usualKey, hr.key, any_some, hbits]
        rfl
      have hspec : multipartSpec (j.env.seeded seed) enc op.params.setup bits o.value
          op.live.gcmAad = keySpec op.params.setup op.live.gcmAad o enc := by
        rw [multipartSpec_eq hr.nonce, keySpec, aesBits_of_some hbits]
      have hinit : P.cipherInit (j.env.seeded seed).seed
          (keySpec op.params.setup op.live.gcmAad o enc) = none := by
        refine V.init_none _ _ ?_
        cases hsup : V.supports (keySpec op.params.setup op.live.gcmAad o enc) with
        | true => exact absurd ⟨husual, hsup⟩ hbad
        | false => rfl
      simp only [hspec, hinit, V.fetch, V.ctxNew, Bool.not_true, exec_failIf_bind,
        Bool.false_eq_true, if_false]
      exact ⟨_, rfl⟩

/-! ### What one call says about the parts -/

/-- Whether an operation starts does not depend on the clear slot it starts in. -/
theorem start_some {a' : Op P} (ha : a.Clear) (hb : b.Clear) (h : j.start enc a = some a') :
    ∃ b', j.start enc b = some b' := by
  obtain ⟨hsame, -⟩ := keyedInit_alike j.env (some j.mech) j.hKey
    (if enc then .encrypt else .decrypt) (fun _ => cipherMechValid_narrow) (Op.Clear.alike ha hb)
  rw [start_eq] at h ⊢
  rcases hxa : keyedInit j.env (some j.mech) j.hKey (cipherMechValid j.env)
      (if enc then .encrypt else .decrypt) a with ⟨e | r, a₁⟩
  · rw [hxa] at h
    cases h
  rcases hxb : keyedInit j.env (some j.mech) j.hKey (cipherMechValid j.env)
      (if enc then .encrypt else .decrypt) b with ⟨e | r', b₁⟩
  · rw [hxa, hxb] at hsame
    cases hsame
  · exact ⟨_, rfl⟩

theorem clear_empty : ({} : Op P).Clear := ⟨rfl, rfl, rfl⟩

theorem canDecrypt_start (hm : j.mech.type ∈ multipartMechs) (hc : j.canDecrypt = true)
    (hop : op.Clear) :
    ∃ op', j.start false op = some op' ∧
      (op'.params.setup.ctxAuthRequired = true → op'.live.ctxAuthDone = true) := by
  have hstart : ∃ a, j.start false {} = some a ∧ (j.login = true ∨ a.params.ctxAuthRequired = false) := by
    unfold canDecrypt at hc
    rcases hx : decryptInit j.env (some j.mech) j.hKey {} with ⟨e | r, a₁⟩
    · rw [hx] at hc
      cases hc
    · simp only [hx, Bool.or_eq_true, Bool.not_eq_true'] at hc
      refine ⟨if j.login then grantSlot a₁ else a₁, ?_, hc.imp_right fun h => ?_⟩
      · simp only [start, hx, Bool.false_eq_true, if_false]
      · split
        · unfold grantSlot
          split <;> exact h
        · exact h
  obtain ⟨a, ha, hlogin⟩ := hstart
  obtain ⟨op', hop'⟩ := start_some clear_empty hop ha
  refine ⟨op', hop', fun hreq => ?_⟩
  obtain ⟨t, o, hr⟩ := start_ready hm hop hop'
  obtain ⟨-, hsetup⟩ := start_same hm clear_empty hop ha hop'
  rcases hlogin with hlogin | hnone
  · exact hr.login hlogin
  · rw [← hsetup] at hreq
    exact absurd (hnone.symm.trans hreq) (by decide)

section

variable (V : EvpModel P) {t : Token} {o : Obj} {op : Op P} {data : Bytes} {tr : Tries P}

theorem Ready.sealed_of_bytes (hm : j.mech.type ∈ multipartMechs) (hr : Ready j t o op) {ct : Bytes}
    (h : (complete (oneShotCall j.env true data) tr op).1 = .bytes ct) :
    data.length ≤ inputMax ∧ Sealed V op.params.setup op.live.gcmAad o data ct := by
  have hs := hr.mech_mem hm
  obtain ⟨seed, n, hcall⟩ := complete_answer
    (oneShotCall_waits j.env hs hr.active hr.tok true data fun h => by cases h) h
  have htok : (j.env.seeded seed).tok = some t := hr.tok
  rw [oneShotCall, if_pos rfl, encrypt_eq _ hs hr.active htok] at hcall
  simp only [Op.result, (exec_ending _ _).1, hr.get, OpM.ofExcept, pure_bind, refuseIf,
    exec_failIf_bind] at hcall
  split at hcall
  · cases hcall
  split at hcall
  · cases hcall
  rename_i hlen
  rw [exec_bind_of_ok (exec_get _)] at hcall
  exact ⟨by simpa using hlen, cipherWith_bytes V _ hr.nonce hcall⟩

theorem Ready.invalid_of_refused (hm : j.mech.type ∈ multipartMechs) (hr : Ready j t o op)
    (hauth : op.params.setup.ctxAuthRequired = true → op.live.ctxAuthDone = true)
    (h : (complete (oneShotCall j.env false data) tr op).1 = .refused .encryptedDataInvalid) :
    data.length ≤ inputMax ∧ (op.params.setup.mechanism ≠ ckmAesGcm.toUInt32 →
      V.finish (keySpec op.params.setup op.live.gcmAad o false) data none = none) := by
  have hs := hr.mech_mem hm
  obtain ⟨seed, n, hcall⟩ := complete_answer
    (oneShotCall_waits j.env hs hr.active hr.tok false data fun _ => hauth) h
  have htok : (j.env.seeded seed).tok = some t := hr.tok
  rw [oneShotCall, if_neg Bool.false_ne_true, decrypt_eq _ hs hr.active htok hauth] at hcall
  simp only [Op.result, (exec_ending _ _).1, hr.get, OpM.ofExcept, pure_bind, refuseIf,
    exec_failIf_bind] at hcall
  split at hcall
  · cases hcall
  split at hcall
  · cases hcall
  rename_i hlen
  refine ⟨by simpa using hlen, fun hgcm => ?_⟩
  rw [exec_bind_of_ok (exec_get _), cipherWith, if_neg hgcm] at hcall
  have hspec : keySpec op.params.setup op.live.gcmAad o false =
      aesSpec false op.params.setup (aesBits o.value.length) o.value := if_neg hgcm
  rcases aesOneShot_answer V _ hcall with ⟨e, he, hne⟩ | he | ⟨-, -, hres⟩
  · cases he
    exact absurd rfl hne
  · cases he
  · rw [hspec]
    split at hres
    · assumption
    · cases hres

end

/-! ### When the two ways agree -/

/-- A key of a usual size; and if it can decrypt, a mechanism other than GCM and data that is
still of an accepted length when it is padded. -/
def Fits (j : CipherJob P) (data : Bytes) : Prop :=
  j.usualKey = true ∧ (j.canDecrypt = true → j.mech.type ≠ ckmAesGcm ∧
    (j.mech.type = ckmAesCbcPad → data.length / 16 * 16 + 16 ≤ inputMax))

/-- All of the data in one part, without further queries. -/
def onePart (seed : P.Seed) (data : Bytes) : List (Part P) := [⟨[], data, [], seed, seed⟩]

theorem cuts_onePart (seed : P.Seed) (data : Bytes) : Cuts (onePart seed data) data := by
  simp [Cuts, onePart]

theorem shortBetween_onePart (env : OpEnv P) (enc : Bool) (seed : P.Seed) (data : Bytes) (op : Op P) :
    ShortBetween env enc [] (onePart seed data) op := ⟨trivial, trivial⟩

theorem length_le_of_cuts {parts : List (Part P)} {data : Bytes} (h : Cuts parts data)
    (hlen : data.length ≤ inputMax) : ∀ p ∈ parts, p.data.length ≤ inputMax := by
  intro p hp
  have hsub : p.data.length ≤ (parts.map (·.data)).flatten.length :=
    (sublist_flatten_of_mem (mem_map_of_mem hp)).length_le
  rw [show (parts.map (·.data)).flatten = data from h] at hsub
  omega

section

variable {V : EvpModel P} {t : Token} {o : Obj} {op : Op P} {data x ct : Bytes}

theorem Ready.refused_of_long (hr : Ready j t o op) (hlong : inputMax < data.length) (seed : P.Seed)
    (hauth : op.params.setup.ctxAuthRequired = true → op.live.ctxAuthDone = true) :
    ∃ e, finishParts j.env false (onePart seed data) [] ⟨[], seed, seed⟩ op = .refused e := by
  have htok : (j.env.seeded seed).tok = some t := hr.tok
  have hcall : Outcome.of (updateCall j.env false data seed .query op).1 = .refused .dataLenRange := by
    simp only [updateCall, Bool.false_eq_true, if_false, decryptUpdate,
      Op.call_of_active hr.active, exec_bind_of_ok (exec_requireCtxAuth hauth), htok, Op.result,
      exec_endingOnError, refuseIf, exec_failIf_bind]
    have hlong' : decide (inputMax < (Buf.bytes data).len) = true := decide_eq_true hlong
    rw [if_neg (by simp [Buf.dangling, Buf.isNull]), if_pos hlong']
    rfl
  refine ⟨.dataLenRange, ?_⟩
  simp only [finishParts, onePart, feed, peekAll, foldl_nil, complete, tryEach, if_true, hcall]
  rfl

section

variable (hm : j.mech.type ∈ multipartMechs) (hr : Ready j t o op) (hkey : j.usualKey = true)
  (hlen : data.length ≤ inputMax) {parts : List (Part P)} (hcuts : Cuts parts data)
  {peeks : List (Peek P)}
include hm hr hkey hlen hcuts

theorem Ready.finishParts_eq
    (hauth : enc = false → op.params.setup.ctxAuthRequired = true → op.live.ctxAuthDone = true)
    (hsup : V.supports (keySpec op.params.setup op.live.gcmAad o enc) = true)
    (hwaits : ShortBetween j.env enc peeks parts op) (last : Tries P) :
    finishParts j.env enc parts peeks last op =
      (Outcome.bytes (V.emitted (keySpec op.params.setup op.live.gcmAad o enc) data)).append
        (V.closing op.params.setup (keySpec op.params.setup op.live.gcmAad o enc) data) := by
  have hspec := finishParts_spec (hr.keyed hm hkey hsup) hr.tok parts (length_le_of_cuts hcuts hlen)
    (by rw [keySpec_enc]; exact hwaits) last (hr.fed hauth)
  rwa [keySpec_enc, show (parts.map (·.data)).flatten = data from hcuts] at hspec

theorem Ready.finishParts_encrypt (hs : Sealed V op.params.setup op.live.gcmAad o data ct)
    (hwaits : ShortBetween j.env true peeks parts op) (last : Tries P) :
    finishParts j.env true parts peeks last op = .bytes ct := by
  obtain ⟨f, hf, rfl⟩ := hs.closing
  rw [hr.finishParts_eq hm hkey hlen hcuts (fun h => by cases h) hs.supported hwaits,
    EvpModel.closing, hf]
  simp only [keySpec_enc, if_true, Outcome.append]

theorem Ready.finishParts_decrypt
    (hauth : op.params.setup.ctxAuthRequired = true → op.live.ctxAuthDone = true)
    (hs : Sealed V op.params.setup op.live.gcmAad o x ct)
    (hwaits : ShortBetween j.env false peeks parts op) (last : Tries P) :
    finishParts j.env false parts peeks last op =
      match V.finish (keySpec op.params.setup op.live.gcmAad o false) data none with
      | none => .refused .encryptedDataInvalid
      | some g => .bytes (V.emitted (keySpec op.params.setup op.live.gcmAad o false) data ++ g) := by
  -- what encrypts is supported both ways
  have hsup := hs.supported
  rw [← V.supports_decrypting, decrypting_keySpec] at hsup
  rw [hr.finishParts_eq hm hkey hlen hcuts (fun _ => hauth) hsup hwaits, EvpModel.closing]
  cases V.finish (keySpec op.params.setup op.live.gcmAad o false) data none with
  | none => simp only [keySpec_enc, cipherFailure, Bool.false_eq_true, if_false, Outcome.append]
  | some g => simp only [keySpec_enc, Bool.false_eq_true, if_false, Outcome.append]

end

theorem keySpec_mode (hgcm : op.params.setup.mechanism ≠ ckmAesGcm.toUInt32) (enc : Bool) :
    (keySpec op.params.setup op.live.gcmAad o enc).alg.mode ≠ .gcm ∧
      (keySpec op.params.setup op.live.gcmAad o enc).padding =
        (op.params.setup.mechanism == ckmAesCbcPad.toUInt32) ∧
      (op.params.setup.mechanism = ckmAesCbcPad.toUInt32 →
        (keySpec op.params.setup op.live.gcmAad o enc).block = 16) := by
  have hspec : keySpec op.params.setup op.live.gcmAad o enc =
      aesSpec enc op.params.setup (aesBits o.value.length) o.value := if_neg hgcm
  rw [hspec]
  refine ⟨?_, rfl, fun hpad => ?_⟩
  · unfold aesSpec aesMode
    dsimp only
    split
    · decide
    · split <;> decide
  · simp only [CipherSpec.block, aesSpec, aesMode, hpad]
    decide

theorem Sealed.length_ct (hgcm : op.params.setup.mechanism ≠ ckmAesGcm.toUInt32)
    (hs : Sealed V op.params.setup op.live.gcmAad o data ct) :
    ct.length = if op.params.setup.mechanism = ckmAesCbcPad.toUInt32 then
      data.length / 16 * 16 + 16 else data.length := by
  obtain ⟨f, hf, rfl⟩ := hs.closing
  obtain ⟨hmode, hpadding, hblock⟩ := @keySpec_mode P o op hgcm true
  rw [EvpModel.closingTag, if_neg fun hk => hgcm (opCipherKind_gcm.1 hk), append_nil]
  split
  · rename_i hpad
    have hlen := V.length_sealed_padded (keySpec_enc ..) hmode hf (hpadding.trans (by simpa using hpad))
    rw [hblock hpad] at hlen
    exact hlen
  · rename_i hpad
    exact V.length_sealed_unpadded (keySpec_enc ..) hmode hf (hpadding.trans (by simpa using hpad))

end

/-- The parts agree with the one call on data that it encrypts exactly when the key is of a usual
size and, if it can also decrypt, the mechanism is not GCM and the padded data is not too long
for one call. -/
theorem multipart_agrees_iff (V : EvpModel P) (j : CipherJob P) (hm : j.mech.type ∈ multipartMechs)
    {data ct : Bytes} {tr : Tries P} {op : Op P} (hop : op.Clear)
    (h : j.oneShot true data tr op = some (.bytes ct)) : j.Agrees data ct ↔ j.Fits data := by
  obtain ⟨op₁, hstart, hcomplete⟩ := map_eq_some_iff.1 h
  obtain ⟨t, o, hr⟩ := start_ready hm hop hstart
  obtain ⟨hlen, hs⟩ := hr.sealed_of_bytes V hm hcomplete
  have hmechs : ∀ x ∈ multipartMechs, (x.toUInt32 = ckmAesGcm.toUInt32 ↔ x = ckmAesGcm) ∧
      (x.toUInt32 = ckmAesCbcPad.toUInt32 ↔ x = ckmAesCbcPad) :=
    List.all_iff_forall_prop.1 (by decide)
  obtain ⟨hgcm, hpad⟩ := hmechs _ hm
  rw [← hr.mechanism] at hgcm hpad
  -- every start finds the same setup, additional data and key
  have hsame : ∀ {enc : Bool} {a a' : Op P}, a.Clear → j.start enc a = some a' →
      ∃ t', Ready j t' o a' ∧ Sealed V a'.params.setup a'.live.gcmAad o data ct ∧
        a'.params.setup = op₁.params.setup := by
    intro enc a a' ha hstarta
    obtain ⟨t', o', hr'⟩ := start_ready hm ha hstarta
    obtain ⟨hlive, hsetup⟩ := start_same hm ha hop hstarta hstart
    obtain rfl : o' = o := some.inj (hr'.key.symm.trans hr.key)
    exact ⟨t', hr', by rw [hlive, hsetup]; exact hs, hsetup⟩
  constructor
  · rintro ⟨henc, hdec, -⟩
    have hkey : j.usualKey = true := by
      by_contra hkey
      -- a key of an unusual size is refused by the first update
      have hun : Hopeless j.env true op₁ := .inr (hr.unopened (V := V) true fun h => hkey h.1)
      obtain ⟨e, he⟩ := (updateCall_refuses j.env true data).complete ⟨[], tr.query, tr.query⟩ hun
      have hparts := henc op (onePart tr.query data) [] ⟨[], tr.query, tr.query⟩ hop (cuts_onePart ..)
        fun _ _ => shortBetween_onePart ..
      rw [multipart, hstart, map_some] at hparts
      simp only [finishParts, onePart, feed, peekAll, foldl_nil, he] at hparts
      cases hparts
    refine ⟨hkey, fun hc => ?_⟩
    obtain ⟨op₂, hstart₂, hauth⟩ := canDecrypt_start hm hc hop
    obtain ⟨t₂, hr₂, hs₂, hsetup⟩ := hsame hop hstart₂
    have hparts := hdec hc op (onePart tr.query ct) [] ⟨[], tr.query, tr.query⟩ hop (cuts_onePart ..)
      fun _ _ => shortBetween_onePart ..
    rw [multipart, hstart₂, map_some] at hparts
    have hct : ct.length ≤ inputMax := by
      by_contra hlong
      obtain ⟨e, he⟩ := hr₂.refused_of_long (Nat.not_le.1 hlong) tr.query hauth
      rw [he] at hparts
      cases hparts
    refine ⟨fun hmech => ?_, fun hmech => ?_⟩
    · -- no call gives the tag to the context
      have hgcm₂ : op₂.params.setup.mechanism = ckmAesGcm.toUInt32 := hsetup ▸ hgcm.2 hmech
      rw [hr₂.finishParts_decrypt hm hkey hct (cuts_onePart ..) hauth hs₂ (shortBetween_onePart ..),
        V.finish_gcm_untagged (by simp [keySpec, cipherSpec, hgcm₂]) (keySpec_enc ..)] at hparts
      cases hparts
    · have hpad₁ := hpad.2 hmech
      have hgcm₁ : op₁.params.setup.mechanism ≠ ckmAesGcm.toUInt32 := by
        rw [hpad₁]
        decide
      rw [Sealed.length_ct hgcm₁ hs, if_pos hpad₁] at hct
      exact hct
  · rintro ⟨hkey, hfits⟩
    refine ⟨?_, ?_, ?_⟩
    · intro a parts peeks last ha hcuts hwaits
      obtain ⟨a', hstarta⟩ := start_some hop ha hstart
      obtain ⟨t', hr', hs', -⟩ := hsame ha hstarta
      rw [multipart, hstarta, map_some, hr'.finishParts_encrypt hm hkey hlen hcuts hs'
        (hwaits a' hstarta) last]
    · intro hc a parts peeks last ha hcuts hwaits
      obtain ⟨hnot, hlong⟩ := hfits hc
      obtain ⟨a', hstarta, hauth⟩ := canDecrypt_start hm hc ha
      obtain ⟨t', hr', hs', hsetup⟩ := hsame ha hstarta
      have hgcm' : a'.params.setup.mechanism ≠ ckmAesGcm.toUInt32 := fun hg => hnot (hgcm.1 (hsetup ▸ hg))
      have hct : ct.length ≤ inputMax := by
        rw [Sealed.length_ct hgcm' hs']
        split
        · rename_i hp
          exact hlong (hpad.1 (hsetup ▸ hp))
        · exact hlen
      obtain ⟨f, hf, hcteq⟩ := hs'.closing
      rw [EvpModel.closingTag, if_neg fun hk => hgcm' (opCipherKind_gcm.1 hk), append_nil] at hcteq
      obtain ⟨g, hg, hdata⟩ := V.decrypts (keySpec_enc ..) (@keySpec_mode P o a' hgcm' true).1 hf
      rw [← hcteq] at hg hdata
      change V.finish (keySpec _ _ o true).decrypting ct none = some g at hg
      change V.emitted (keySpec _ _ o true).decrypting ct ++ g = data at hdata
      rw [decrypting_keySpec] at hg hdata
      rw [multipart, hstarta, map_some, hr'.finishParts_decrypt hm hkey hct hcuts hauth hs'
        (hwaits a' hstarta) last, hg]
      simp only [hdata]
    · intro hc a b x tr' parts peeks last ha hb hshot hcuts hwaits
      obtain ⟨hnot, -⟩ := hfits hc
      obtain ⟨a', hstarta, hauth⟩ := canDecrypt_start hm hc ha
      obtain ⟨b', hstartb, hauthb⟩ := canDecrypt_start hm hc hb
      obtain ⟨ta, hra, -, hsetupa⟩ := hsame ha hstarta
      obtain ⟨tb, hrb, hsb, hsetupb⟩ := hsame hb hstartb
      rw [oneShot, hstarta, map_some] at hshot
      obtain ⟨hxlen, hinvalid⟩ := hra.invalid_of_refused V hm hauth (some.inj hshot)
      have hlive := (start_same hm ha hb hstarta hstartb).1
      rw [hlive, hsetupa, ← hsetupb] at hinvalid
      refine ⟨.encryptedDataInvalid, ?_⟩
      rw [multipart, hstartb, map_some, hrb.finishParts_decrypt hm hkey hxlen hcuts hauthb hsb
        (hwaits b' hstartb) last, hinvalid fun hg => hnot (hgcm.1 (hsetupb ▸ hg))]

/-! ### Operations of the toy library -/

/-- An AES key of a number of equal bytes. -/
def keyOf (n : Nat) (h : n ≤ objValueMax) : Obj :=
  { Obj.zero with
    handle := 1, cls := ckoSecretKey, keyType := ckkAes, value := List.replicate n 7
    value_le := by rw [List.length_replicate]; exact h }

/-- An operation with that key as the only object of the token. -/
def jobOf (n : Nat) (h : n ≤ objValueMax) (m : Mech) : CipherJob .buffered where
  env :=
    { tok := some (Token.holding [keyOf n h] (Nat.le_of_ble_eq_true rfl))
      errorState := false, strict := true, gmacAlias := false, seed := () }
  mech := m
  hKey := 1
  login := false

/-- GCM with a bare nonce. -/
def gcmNonced : Mech := ⟨ckmAesGcm, .bytes (List.replicate 12 1), fun _ => 0⟩

/-- CBC with padding. -/
def cbcPadded : Mech := ⟨ckmAesCbcPad, .bytes (List.replicate 16 1), fun _ => 0⟩

/-- A query and then a buffer that is large enough. -/
def atOnce : Tries .buffered := ⟨[], (), ()⟩

/-- Two parts, with a size query before the first, which is also given a short buffer. -/
def twoParts (a : Bytes) (between : List (Peek .buffered)) (b : Bytes) : List (Part .buffered) :=
  [⟨[⟨(), none, none, by simp⟩], a, ⟨[((), some 1)], (), ()⟩⟩, ⟨between, b, atOnce⟩]

/-- `C_*Final` with a buffer of one byte. -/
def shortFinal : Peek .buffered := ⟨(), none, some 1, by simp⟩

/-- CBC with padding agrees on twenty bytes, also when `C_EncryptFinal` is tried with a short buffer
between two parts. -/
theorem multipart_agrees_iff_cbcPadded : (jobOf 16 (by decide) cbcPadded).Agrees (replicate 20 3)
      (replicate 20 4 ++ replicate 12 11) ∧
    (jobOf 16 (by decide) cbcPadded).Waits true
      (twoParts (replicate 18 3) [shortFinal] (replicate 2 3)) [] {} := by
  have hshot : (jobOf 16 (by decide) cbcPadded).oneShot true (replicate 20 3) atOnce {} =
      some (.bytes (replicate 20 4 ++ replicate 12 11)) := by decide +kernel
  refine ⟨(multipart_agrees_iff .buffered _ (by decide) clear_empty hshot).2
    ⟨by decide +kernel, fun _ => ⟨by decide, fun _ => by decide⟩⟩, fun op' hstart => ?_⟩
  cases hstart
  exact ⟨⟨nofun, trivial⟩, ⟨fun _ => by decide +kernel, trivial⟩, trivial⟩

/-- What `C_Encrypt` sealed with GCM is refused by `C_DecryptFinal`; and a key of twenty bytes
encrypts in one call but not in parts. -/
theorem multipart_disagrees : ((jobOf 16 (by decide) gcmNonced).oneShot true [1, 2] atOnce {} =
        some (.bytes ([6, 5] ++ replicate 16 11)) ∧
      (jobOf 16 (by decide) gcmNonced).multipart false
          (twoParts [6, 5] [] (replicate 16 11)) [] atOnce {} =
        some (.refused .encryptedDataInvalid)) ∧
    ((jobOf 20 (by decide) cbcPadded).oneShot true (replicate 20 3) atOnce {} =
        some (.bytes (replicate 20 4 ++ replicate 12 11)) ∧
      (jobOf 20 (by decide) cbcPadded).multipart true
          (twoParts (replicate 20 3) [] []) [] atOnce {} =
        some (.refused .keySizeRange)) := by
  decide +kernel

end CipherJob

end FreeHsm
