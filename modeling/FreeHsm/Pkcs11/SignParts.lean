import FreeHsm.Pkcs11.HashContext
import FreeHsm.Pkcs11.MultipartAgrees

/-!
# Multipart signatures

`C_SignUpdate`, `C_SignFinal`, `C_VerifyUpdate` and `C_VerifyFinal` over whole
operations. What was passed in so far is held in one of four places: the digest
context (the composite mechanism, and the pre-hash variants until their digest is
taken), the buffer or the MAC context. `Held` is the invariant that says so for all
four.
-/

namespace FreeHsm

open StateExcept OpM List

variable {P : Provider}

/-! ## What an operation holds -/

/-- A digest context that was given the data; without data there need not be one. -/
def DigestHeld (H : HashModel P) (md : MdAlg) (fed : Bytes) (c : Option P.Md) : Prop :=
  (c = none ∧ fed = []) ∨ ∃ c', c = some c' ∧ H.Hashes c' md fed

/-- A MAC context that was given the data; without data there need not be one. -/
def MacHeld (H : HashModel P) (spec : MacSpec) (key fed : Bytes) (c : Option P.Mac) : Prop :=
  (c = none ∧ fed = []) ∨ ∃ c', c = some c' ∧ H.Macs c' spec key fed

/-- The composite mechanism, with a key of its own type. -/
structure Compositing (t : Token) (s : Setup) (cls : UInt32) : Prop where
  composite : isComposite s.mechanism = true
  row : s.hmRow = 0
  key : ∃ o, t.objectGet s.keyHandle = .ok o ∧ o.cls = cls ∧ o.keyType = ckkCompositeMldsa65Ed25519

/-- The pre-hash variants that can be run in parts. -/
structure Prehashing (s : Setup) (r : HmRow) : Prop where
  composite : isComposite s.mechanism = false
  buffered : isBufferedMultipart s.mechanism = true
  row : s.hmRow ≠ 0
  get : hmTable[s.hmRow - 1]? = some r
  generic : hmGeneric s.mechanism = false

/-- The signatures whose message is kept as it is. -/
structure Buffering (s : Setup) : Prop where
  composite : isComposite s.mechanism = false
  buffered : isBufferedMultipart s.mechanism = true
  row : s.hmRow = 0

/-- The MACs, with the key they find. -/
structure Macing (H : HashModel P) (t : Token) (s : Setup) (o : Obj) (spec : MacSpec) : Prop where
  composite : isComposite s.mechanism = false
  buffered : isBufferedMultipart s.mechanism = false
  row : s.hmRow = 0
  get : t.objectGet s.keyHandle = .ok o
  spec_eq : macStreamSpec s o = .ok spec
  supported : H.supports spec o.value = true
  tagLen : s.gcmTagLen ≤ 16

/-- Where the data that was passed in is; for the pre-hash variants also whether there was an
update. -/
inductive Held (H : HashModel P) (t : Token) (s : Setup) (cls : UInt32) (opened : Bool)
    (fed : Bytes) (l : Running P) : Prop
  | composite (hs : Compositing t s cls) (h : DigestHeld H .sha512 fed l.mdCtx)
  | prehash (r : HmRow) (hs : Prehashing s r) (hpre : l.hmPrehashed = false) (hbuf : l.mpBuf = [])
      (hopen : l.mdCtx.isSome = opened) (h : DigestHeld H r.md fed l.mdCtx)
  | buffer (hs : Buffering s) (hpre : l.hmPrehashed = false) (hbuf : l.mpBuf = fed)
  | mac (o : Obj) (spec : MacSpec) (hs : Macing H t s o spec) (h : MacHeld H spec o.value fed l.macCtx)

section

variable {H : HashModel P} {t : Token} {s : Setup} {fed part : Bytes} {l : Running P}
  (env : OpEnv P)

variable {md : MdAlg} {o : Obj} {spec : MacSpec} {opened : Bool} {r : HmRow} {out : OutArg}

theorem DigestHeld.feed (h : DigestHeld H md fed l.mdCtx) (e : Err) (part : Bytes) :
    ∃ c, exec (feedDigest env md e part) l = (.ok (), { l with mdCtx := some c }) ∧
      H.Hashes c md (fed ++ part) := by
  -- the context that the update finds or builds
  obtain ⟨c, hc, hget⟩ : ∃ c, H.Hashes c md fed ∧ exec (feedDigest env md e part) l =
      exec (if part.length = 0 then pure () else do
        setMd (some (P.mdUpdate env.seed c part).2)
        refuseIf (!(P.mdUpdate env.seed c part).1) .functionFailed) { l with mdCtx := some c } := by
    unfold feedDigest
    rw [exec_bind_of_ok (exec_get l)]
    rcases h with ⟨hnone, rfl⟩ | ⟨c, hsome, hc⟩
    · obtain ⟨c, hinit, hc⟩ := H.mdInit env.seed md
      refine ⟨c, hc, ?_⟩
      simp only [hnone, refuseIf, H.fetch, H.ctxNew, hinit, failIf, Bool.not_true, if_true,
        Bool.false_eq_true, if_false, pure_bind]
      rfl
    · refine ⟨c, hc, ?_⟩
      rw [hsome]
      have hl : { l with mdCtx := some c } = l := by rw [← hsome]
      rw [hl]
      rfl
  rw [hget]
  by_cases hlen : part.length = 0
  · rw [if_pos hlen, eq_nil_of_length_eq_zero hlen, append_nil]
    exact ⟨c, rfl, hc⟩
  · obtain ⟨c', hupdate, hc'⟩ := H.mdUpdate env.seed c md fed part hc
    rw [if_neg hlen, hupdate]
    exact ⟨c', rfl, hc'⟩

theorem exec_appendMultipart (halloc : ∀ seed n, P.alloc seed n = true) (l : Running P)
    (part : Bytes) (hlen : l.mpBuf.length + part.length ≤ multipartMax) :
    exec (appendMultipart env part) l = (.ok (), { l with mpBuf := l.mpBuf ++ part }) := by
  unfold appendMultipart
  rw [exec_bind_of_ok (exec_get l)]
  by_cases hzero : part.length = 0
  · rw [if_pos hzero, eq_nil_of_length_eq_zero hzero, append_nil]
    rfl
  · rw [if_neg hzero, if_neg (Nat.not_lt.2 hlen), halloc]
    rfl

/-- The MAC context that a stream finds or builds. -/
theorem Macing.stream (hs : Macing H t s o spec) (htok : env.tok = some t)
    (h : MacHeld H spec o.value fed l.macCtx) :
    ∃ c, exec (macStream env s) l = (.ok c, { l with macCtx := some c }) ∧
      H.Macs c spec o.value fed := by
  unfold macStream
  rw [exec_bind_of_ok (exec_get l)]
  rcases h with ⟨hnone, rfl⟩ | ⟨c, hsome, hc⟩
  · obtain ⟨c, hinit, hc⟩ := H.macInit env.seed spec o.value hs.supported
    refine ⟨c, ?_, hc⟩
    simp only [hnone, htok, hs.get, hs.spec_eq, OpM.ofExcept, pure_bind, refuseIf, H.fetch, H.ctxNew,
      hinit, failIf, Bool.not_true, Bool.false_eq_true, if_false]
    rfl
  · refine ⟨c, ?_, hc⟩
    have hl : { l with macCtx := some c } = l := by rw [← hsome]
    rw [hl]
    simp only [hsome]
    rfl

/-- What the calls leave alone. -/
structure Running.Frame (l l' : Running P) : Prop where
  active : l'.active = l.active
  auth : l'.ctxAuthDone = l.ctxAuthDone

/-- One update moves the operation on by its part. -/
theorem Held.update {cls : UInt32} (h : Held H t s cls opened fed l) (part : Bytes)
    (htok : env.tok = some t) (hlimit : Buffering s → fed.length + part.length ≤ multipartMax) :
    ∃ l', exec (updateWith env s part) l = (.ok .done, l') ∧ Held H t s cls true (fed ++ part) l' ∧
      l.Frame l' := by
  unfold updateWith
  cases h with
  | composite hs h =>
    obtain ⟨c, hfeed, hhash⟩ := h.feed env .mechanismInvalid part
    refine ⟨{ l with mdCtx := some c }, ?_, .composite hs (.inr ⟨c, rfl, hhash⟩), rfl, rfl⟩
    rw [if_pos hs.composite, compositePhUpdate, exec_bind_of_ok hfeed]
    rfl
  | prehash r hs hpre hbuf _ h =>
    obtain ⟨c, hfeed, hhash⟩ := h.feed env .functionFailed part
    refine ⟨{ l with mdCtx := some c }, ?_, .prehash r hs hpre hbuf rfl (.inr ⟨c, rfl, hhash⟩),
      rfl, rfl⟩
    have hupdate : exec (orHmldsaFail (hmldsaPhUpdate env s part)) l =
        (.ok (), { l with mdCtx := some c }) := by
      unfold orHmldsaFail hmldsaPhUpdate
      simp only [refuseIf, hs.generic]
      rw [exec_tryCatch, exec_failIf_bind, if_neg Bool.false_ne_true, exec_bind_of_ok (exec_get l),
        exec_failIf_bind, if_neg (by rw [hpre]; decide), hs.get]
      dsimp only
      rw [hfeed]
    rw [if_neg (by rw [hs.composite]; decide), if_pos hs.row, exec_bind_of_ok hupdate]
    rfl
  | buffer hs hpre hbuf =>
    have happend := exec_appendMultipart env H.alloc l part (by rw [hbuf]; exact hlimit hs)
    refine ⟨{ l with mpBuf := l.mpBuf ++ part }, ?_, .buffer hs hpre (by rw [hbuf]), rfl, rfl⟩
    rw [if_neg (by rw [hs.composite]; decide), if_neg (by rw [hs.row]; simp), if_pos hs.buffered,
      exec_bind_of_ok happend]
    rfl
  | mac o spec hs h =>
    obtain ⟨c, hstream, hmac⟩ := hs.stream env htok h
    obtain ⟨c', hupdate, hmac'⟩ := H.macUpdate env.seed c spec o.value fed part hmac
    refine ⟨{ l with macCtx := some c' }, ?_, .mac o spec hs (.inr ⟨c', rfl, hmac'⟩), rfl, rfl⟩
    rw [if_neg (by rw [hs.composite]; decide), if_neg (by rw [hs.row]; simp),
      if_neg (by rw [hs.buffered]; decide), htok]
    dsimp only
    have hstep : exec (orMacFail do
        let c ← macStream env s
        setMac (some (P.macUpdate env.seed c part).2)
        refuseIf (!(P.macUpdate env.seed c part).1) .functionFailed) l = (.ok (), { l with macCtx := some c' }) := by
      unfold orMacFail
      rw [exec_tryCatch, exec_bind_of_ok hstream, hupdate]
      rfl
    rw [exec_bind_of_ok hstep]
    rfl

/-! ## The ends of the contexts -/

theorem DigestHeld.compositePhFinal (h : DigestHeld H .sha512 fed l.mdCtx) :
    ∃ l', exec (compositePhFinal env) l = (.ok (H.hash .sha512 fed), l') := by
  have hlen : (H.hash .sha512 fed).length = compositePhLen := H.length_hash _ _ rfl
  refine ⟨{ l with mdCtx := none }, ?_⟩
  unfold FreeHsm.compositePhFinal
  rw [exec_bind_of_ok (exec_get l)]
  rcases h with ⟨hnone, rfl⟩ | ⟨c, hsome, hc⟩
  · obtain ⟨c, hfeed, hc⟩ := DigestHeld.feed (H := H) env (l := l) (.inl ⟨hnone, rfl⟩)
      .mechanismInvalid []
    rw [hnone]
    dsimp only
    rw [compositePhUpdate, exec_bind_of_ok hfeed, exec_bind_of_ok (exec_get _)]
    dsimp only
    rw [Option.bind_some, H.mdFinal env.seed c .sha512 _ hc]
    dsimp only
    rw [if_pos (by exact hlen)]
    rfl
  · rw [hsome]
    dsimp only
    rw [exec_bind_of_ok (exec_get _), hsome, Option.bind_some, H.mdFinal env.seed c .sha512 fed hc]
    dsimp only
    rw [if_pos hlen]
    rfl

theorem exec_setMd (c : Option P.Md) (l : Running P) :
    exec (setMd c) l = (.ok (), { l with mdCtx := c }) := rfl

theorem exec_freeMultipart (l : Running P) :
    exec freeMultipart l = (.ok (), { l with mpBuf := [] }) := rfl

/-- A pre-hash variant whose digest has been taken. -/
structure Closed (H : HashModel P) (s : Setup) (fed : Bytes) (l : Running P) : Prop where
  row : ∃ r, Prehashing s r ∧ l.mpBuf = H.prehash r fed
  prehashed : l.hmPrehashed = true
  mdCtx : l.mdCtx = none

theorem exec_hmldsaPhFinish_none (hs : Prehashing s r) (hnone : l.mdCtx = none) :
    exec (orHmldsaFail (hmldsaPhFinish env s)) l = (.ok (), l) := by
  unfold orHmldsaFail hmldsaPhFinish
  simp only [refuseIf, hs.generic]
  rw [exec_tryCatch, exec_failIf_bind, if_neg Bool.false_ne_true, exec_bind_of_ok (exec_get l), hnone]
  rfl

theorem exec_hmldsaPhFinish_some (hs : Prehashing s r) {c : P.Md} (hsome : l.mdCtx = some c)
    (hc : H.Hashes c r.md fed) :
    exec (orHmldsaFail (hmldsaPhFinish env s)) l =
      (.ok (), { l with mdCtx := none, mpBuf := H.prehash r fed, hmPrehashed := true }) := by
  have hmem : r ∈ hmTable := mem_of_getElem? hs.get
  have hlen := H.length_prehash hmem fed
  have hpos := HashModel.hmTable_outLen_pos r hmem
  unfold orHmldsaFail hmldsaPhFinish
  simp only [refuseIf, hs.generic]
  rw [exec_tryCatch, exec_failIf_bind, if_neg Bool.false_ne_true, exec_bind_of_ok (exec_get l), hsome,
    hs.get]
  dsimp only
  rw [H.finish_prehash hmem hc]
  dsimp only
  have happend := exec_appendMultipart env H.alloc { l with mdCtx := none, mpBuf := [] }
    (H.prehash r fed) (by rw [hlen]; simpa using hpos.2)
  rw [exec_bind_of_ok (exec_setMd none l), exec_bind_of_ok (exec_freeMultipart _),
    exec_bind_of_ok happend]
  rfl

theorem signOut_prehashed (hs : Prehashing s r) (d : Bytes) (out : OutArg) :
    signOut env t s true (H.prehash r d) out = signOut env t s false d out := by
  have hsign : ∀ cap, signAsymmetric env t s true (H.prehash r d) cap =
      signAsymmetric env t s false d cap := by
    intro cap
    unfold signAsymmetric
    simp only [hs.row, ne_eq, not_false_eq_true, if_true,
      H.hmldsaMessage_prehashed env hs.row hs.get hs.generic d]
  cases out with
  | noLen => rfl
  | query => rfl
  | room n => simp only [signOut, hsign]

/-! ## `C_SignFinal` -/

/-- What `C_SignFinal` does once its arguments are checked. -/
def finalBody (t : Token) (s : Setup) (out : OutArg) : OpM P Reply :=
  if isComposite s.mechanism then signFinalComposite env s out
  else if isBufferedMultipart s.mechanism then signFinalBuffered env t s out
  else signFinalMac env s out

/-- How a final call ends: it answers as the one call would, keeps the data when it has not
answered yet, and ends the operation otherwise. -/
structure Ends (r : Except Refusal Reply × Running P) (l : Running P) (res : Outcome)
    (K : Running P → Prop) : Prop where
  outcome : Outcome.of r.1 = res
  kept : res = .unanswered → K r.2 ∧ l.Frame r.2
  ended : res ≠ .unanswered → r.2.active = false

theorem isBuffered_cases {mech : UInt32} (h : isBufferedMultipart mech = true) :
    isComposite mech = false ∧ isAesMac mech = false ∧ hmacHashOf mech = none := by
  simp only [isBufferedMultipart, Bool.and_eq_true, Bool.not_eq_true', Option.isNone_iff_eq_none] at h
  exact ⟨h.1.1, h.1.2, h.2⟩

theorem signWith_buffered (h : isBufferedMultipart s.mechanism = true) (prehashed : Bool) (d : Bytes)
    (out : OutArg) : signWith env t s prehashed d out = signOut env t s prehashed d out := by
  obtain ⟨hc, haes, hmac⟩ := isBuffered_cases h
  unfold signWith
  rw [if_neg (by rw [hc]; decide), hmac]
  dsimp only
  rw [if_neg (by rw [haes]; decide)]

theorem signWith_prehashed (hs : Prehashing s r) (d : Bytes) (out : OutArg) :
    signWith env t s true (H.prehash r d) out = signWith env t s false d out := by
  rw [signWith_buffered env hs.buffered, signWith_buffered env hs.buffered, signOut_prehashed env hs]

/-- The end of `C_SignFinal` after the digest of a pre-hash variant was taken. -/
theorem signOut_ends {K : Running P → Prop} (prehashed : Bool) (d : Bytes) (out : OutArg)
    {l₀ : Running P} (hframe : l₀.Frame l) (hK : K l) :
    Ends (exec (freeing (signOut env t s prehashed d out)) l) l₀
      (Outcome.of (exec (signOut env t s prehashed d out) l).1) K := by
  have hstill : (exec (signOut env t s prehashed d out) l).2 = l := steady_signOut.state_eq l
  rw [freeing, exec_tryCatch, exec_bind]
  rcases hx : exec (signOut env t s prehashed d out) l with ⟨(e | n) | (_ | n | b), l'⟩
  all_goals
    rw [hx] at hstill
    obtain rfl : l' = l := hstill
  · exact ⟨rfl, nofun, fun _ => rfl⟩
  · exact ⟨rfl, fun _ => ⟨hK, hframe⟩, fun h => absurd rfl h⟩
  · exact ⟨rfl, nofun, fun _ => rfl⟩
  · exact ⟨rfl, fun _ => ⟨hK, hframe⟩, fun h => absurd rfl h⟩
  · exact ⟨rfl, nofun, fun _ => rfl⟩

theorem macStreamLen_aes (h : hmacHashOf s.mechanism = none) (haes : isAesMac s.mechanism = true)
    (htag : s.gcmTagLen ≤ 16) : macStreamLen s = aesMacLen s ∧ 0 < aesMacLen s ∧ aesMacLen s ≤ 16 := by
  have hne : ckmAesCmac.toUInt32 ≠ ckmAesGmac.toUInt32 := by decide
  simp only [isAesMac, Bool.or_eq_true, beq_iff_eq] at haes
  unfold macStreamLen aesMacLen
  rw [h]
  dsimp only
  rcases haes with hmech | hmech
  · rw [hmech, if_pos rfl, if_neg fun hc => hne hc.1]
    exact ⟨rfl, by decide, by decide⟩
  · rw [hmech, if_neg hne.symm, if_pos rfl]
    by_cases hz : s.gcmTagLen = 0
    · simp [hz]
    · rw [if_pos ⟨hz, htag⟩, if_pos ⟨rfl, hz⟩]
      omega

/-- The HMACs are refused in the error state. -/
def Calm (env : OpEnv P) (s : Setup) : Prop :=
  (hmacHashOf s.mechanism).isSome = true → env.errorState = false

theorem hmac_eq {key : Bytes} (hsup : H.supports (.hmac md) key = true)
    (hcalm : env.errorState = false) (d : Bytes) :
    hmac env md key d = .ok (H.mac (.hmac md) key d) := by
  obtain ⟨c, hinit, hc⟩ := H.macInit env.seed (.hmac md) key hsup
  obtain ⟨c', hupdate, hc'⟩ := H.macUpdate env.seed c _ _ [] d hc
  unfold hmac
  simp only [hcalm, H.fetch, H.ctxNew, hinit, hupdate, H.macFinal env.seed c' _ _ _ hc',
    Bool.not_true, Bool.false_eq_true, if_false, nil_append]
  rfl

theorem aesMac_eq {key : Bytes} (hsup : H.supports spec key = true)
    (hbits : (aesBits? key.length).isNone = false) (hsize : spec.size = 16) (d : Bytes) :
    aesMac env spec key d = .ok (H.mac spec key d) := by
  obtain ⟨c, hinit, hc⟩ := H.macInit env.seed spec key hsup
  obtain ⟨c', hupdate, hc'⟩ := H.macUpdate env.seed c _ _ [] d hc
  have hlen := H.length_mac spec key d
  rw [hsize] at hlen
  unfold aesMac
  simp only [H.fetch, H.ctxNew, hinit, hupdate, H.macFinal env.seed c' _ _ _ hc', hbits,
    Bool.not_true, Bool.false_eq_true, if_false, nil_append]
  rw [if_pos hlen]

/-- The MAC of a stream, and the length it is cut to. -/
theorem Macing.kind (hs : Macing H t s o spec) :
    (∃ md, hmacHashOf s.mechanism = some md ∧ spec = .hmac md ∧ macStreamLen s = md.size) ∨
      hmacHashOf s.mechanism = none ∧ isAesMac s.mechanism = true ∧ o.keyType = ckkAes ∧
        aesMacSpec s o.value = .ok spec ∧ (aesBits? o.value.length).isNone = false ∧
        spec.size = 16 ∧ macStreamLen s = aesMacLen s := by
  have hspec := hs.spec_eq
  unfold macStreamSpec at hspec
  cases hmac : hmacHashOf s.mechanism with
  | some md =>
    rw [hmac] at hspec
    cases hspec
    exact .inl ⟨md, rfl, rfl, by rw [macStreamLen, hmac]⟩
  | none =>
    right
    rw [hmac] at hspec
    dsimp only at hspec
    split at hspec
    · cases hspec
    rename_i haes
    rw [Bool.not_eq_true, Bool.not_eq_false'] at haes
    split at hspec
    · cases hspec
    rename_i htype
    obtain ⟨spec', haesSpec, hspec⟩ := bind_ok hspec
    split at hspec
    · cases hspec
    rename_i hbits
    cases hspec
    refine ⟨rfl, haes, not_not.1 htype, haesSpec, Bool.eq_false_iff.2 hbits, ?_,
      (macStreamLen_aes hmac haes hs.tagLen).1⟩
    unfold aesMacSpec at haesSpec
    split at haesSpec
    · split at haesSpec
      · cases haesSpec
        rfl
      · cases haesSpec
    · cases haesSpec
      rfl

theorem exec_signWith_mac (hs : Macing H t s o spec) (hcalm : Calm env s) (prehashed : Bool)
    (d : Bytes) (out : OutArg) :
    exec (signWith env t s prehashed d out) l = exec (sized out (macStreamLen s)
      (pure (.data ((H.mac spec o.value d).take (macStreamLen s))))) l := by
  have hlen := H.length_mac spec o.value d
  have hsup := hs.supported
  unfold signWith
  rw [if_neg (by rw [hs.composite]; decide)]
  rcases hs.kind with ⟨md, hmac, rfl, hn⟩ | ⟨hmac, haes, htype, haesSpec, hbits, hsize, hn⟩
  · have htake : (H.mac (.hmac md) o.value d).take md.size = H.mac (.hmac md) o.value d :=
      take_of_length_le (Nat.le_of_eq hlen)
    rw [hn, htake, hmac]
    dsimp only
    simp only [hs.get, OpM.ofExcept, pure_bind, hmac_eq env hsup (hcalm (by rw [hmac]; rfl))]
  · rw [hn, hmac]
    dsimp only
    simp only [if_pos haes, hs.get, OpM.ofExcept, pure_bind, haesSpec,
      aesMac_eq env hsup hbits hsize, refuseIf, exec_failIf_bind, htype, bne_self_eq_false,
      Bool.false_eq_true, if_false]

/-- The MAC that a stream ends with, and the part of it that is used. -/
theorem Macing.streamFinal (hs : Macing H t s o spec) (htok : env.tok = some t)
    (h : MacHeld H spec o.value fed l.macCtx) :
    macStreamLen s ≤ (H.mac spec o.value fed).length ∧ 0 < macStreamLen s ∧
      ∃ c, exec (macStreamFinal env s) l = (.ok (H.mac spec o.value fed), { l with macCtx := some c }) := by
  have hlen : macStreamLen s ≤ (H.mac spec o.value fed).length ∧ 0 < macStreamLen s := by
    rw [H.length_mac]
    rcases hs.kind with ⟨md, hmac, rfl, hn⟩ | ⟨hmac, haes, -, -, -, hsize, hn⟩
    · rw [hn]
      exact ⟨Nat.le_refl _, hmacHashOf_size hmac⟩
    · rw [hn, hsize]
      have htag := macStreamLen_aes hmac haes hs.tagLen
      exact ⟨htag.2.2, htag.2.1⟩
  obtain ⟨c, hstream, hmac⟩ := hs.stream env htok h
  refine ⟨hlen.1, hlen.2, c, ?_⟩
  unfold macStreamFinal
  rw [exec_bind_of_ok hstream, H.macFinal env.seed c spec o.value fed hmac]
  rfl

theorem Macing.final (cls : UInt32) (opened : Bool) (hs : Macing H t s o spec)
    (htok : env.tok = some t)
    (hcalm : Calm env s)
    (h : MacHeld H spec o.value fed l.macCtx) (hout : out ≠ .noLen) :
    Ends (exec (signFinalMac env s out) l) l (Outcome.of (exec (signWith env t s false fed out) l).1)
      (Held H t s cls opened fed) := by
  obtain ⟨hlen, hpos, c, hfinal⟩ := hs.streamFinal env htok h
  have hcheck : ∀ k : OpM P Reply, exec (orMacFail (refuseIf (macStreamLen s == 0)
      .mechanismInvalid : OpM P Unit) >>= fun _ => k) l = exec k l := by
    intro k
    refine exec_bind_of_ok (a := ()) ?_
    unfold orMacFail
    rw [exec_tryCatch, refuseIf, exec_failIf, if_neg (by simp; omega)]
  rw [exec_signWith_mac env hs hcalm]
  unfold signFinalMac
  dsimp only
  rw [hcheck]
  cases out with
  | noLen => exact absurd rfl hout
  | query => exact ⟨rfl, fun _ => ⟨.mac o spec hs h, rfl, rfl⟩, fun hne => absurd rfl hne⟩
  | room n =>
    by_cases hn : n < macStreamLen s
    · rw [exec_sized_small hn, exec_sized_small hn]
      exact ⟨rfl, fun _ => ⟨.mac o spec hs h, rfl, rfl⟩, fun hne => absurd rfl hne⟩
    · rw [exec_sized_fits hn, exec_sized_fits hn]
      unfold orMacFail
      rw [exec_tryCatch, exec_bind_of_ok hfinal, refuseIf, exec_failIf_bind,
        if_neg (by simpa using hlen)]
      exact ⟨rfl, (fun h => by cases h), fun _ => rfl⟩

theorem requireCompositeKey_bind {cls : UInt32} (hcls : o.cls = cls)
    (htype : o.keyType = ckkCompositeMldsa65Ed25519) (k : OpM P Reply) :
    (requireCompositeKey o cls >>= fun _ => k) = k := by
  unfold requireCompositeKey refuseIf failIf
  rw [hcls, htype]
  simp

theorem Compositing.final (opened : Bool) (hs : Compositing t s ckoPrivateKey)
    (htok : env.tok = some t) (h : DigestHeld H .sha512 fed l.mdCtx) (hout : out ≠ .noLen) :
    Ends (exec (signFinalComposite env s out) l) l
      (Outcome.of (exec (signWith env t s false fed out) l).1) (Held H t s ckoPrivateKey opened fed) := by
  obtain ⟨o, hget, hcls, htype⟩ := hs.key
  have hkey := requireCompositeKey_bind (P := P) hcls htype
  have hsign : signWith env t s false fed out = sized out compositeSigLen (do
      let sig ← OpM.ofExcept (P.compositeSign env.seed true o.value (H.hash .sha512 fed))
      pure (.data sig)) := by
    unfold signWith
    rw [if_pos hs.composite, hget, ← H.compositeSign]
    exact hkey _
  rw [hsign]
  unfold signFinalComposite
  cases out with
  | noLen => exact absurd rfl hout
  | query => exact ⟨rfl, fun _ => ⟨.composite hs h, rfl, rfl⟩, fun hne => absurd rfl hne⟩
  | room n =>
    by_cases hn : n < compositeSigLen
    · rw [exec_sized_small hn, exec_sized_small hn]
      exact ⟨rfl, fun _ => ⟨.composite hs h, rfl, rfl⟩, fun hne => absurd rfl hne⟩
    · obtain ⟨l', hph⟩ := h.compositePhFinal env
      rw [exec_sized_fits hn, exec_sized_fits hn, htok]
      dsimp only
      rw [hget]
      have hok : (.ofExcept (.ok o) : OpM P Obj) = pure o := rfl
      simp only [hok, pure_bind, hkey]
      obtain ⟨hres, -, hend⟩ := exec_ending (do
        let ph ← FreeHsm.compositePhFinal env
        let sig ← OpM.ofExcept (P.compositeSign env.seed true o.value ph)
        pure (.data sig)) l
      rw [exec_bind_of_ok hph] at hres hend
      cases hsig : P.compositeSign env.seed true o.value (H.hash .sha512 fed) with
      | error e =>
        rw [hsig] at hres hend
        exact ⟨congrArg Outcome.of hres, nofun, fun _ => hend nofun⟩
      | ok sig =>
        rw [hsig] at hres hend
        exact ⟨congrArg Outcome.of hres, nofun, fun _ => hend nofun⟩

/-- What a final call that has not answered leaves: for a pre-hash variant after an update, the
digest. -/
def AfterPeek (H : HashModel P) (t : Token) (s : Setup) (opened : Bool) (fed : Bytes)
    (l : Running P) : Prop :=
  if s.hmRow ≠ 0 ∧ opened = true then Closed H s fed l else Held H t s ckoPrivateKey opened fed l

theorem Held.afterPeek (h : Held H t s ckoPrivateKey opened fed l)
    (hno : s.hmRow = 0 ∨ opened = false) : AfterPeek H t s opened fed l := by
  unfold AfterPeek
  rw [if_neg (by rintro ⟨hrow, hopen⟩; rcases hno with hno | hno <;> simp_all)]
  exact h

/-- `C_SignFinal` for the buffered mechanisms, once the digest of a pre-hash variant is taken. -/
theorem finalBody_buffered {l₁ : Running P} {K : Running P → Prop} (out : OutArg)
    (hbuffered : isBufferedMultipart s.mechanism = true)
    (hfin : s.hmRow ≠ 0 → exec (orHmldsaFail (hmldsaPhFinish env s)) l = (.ok (), l₁))
    (hskip : s.hmRow = 0 → l = l₁) (hframe : l.Frame l₁) (hK : K l₁) :
    Ends (exec (finalBody env t s out) l) l
      (Outcome.of (exec (signWith env t s l₁.hmPrehashed l₁.mpBuf out) l₁).1) K := by
  have hends := signOut_ends (t := t) (s := s) env l₁.hmPrehashed l₁.mpBuf out hframe hK
  unfold finalBody
  rw [if_neg (by rw [(isBuffered_cases hbuffered).1]; decide), if_pos hbuffered,
    signWith_buffered env hbuffered]
  unfold signFinalBuffered
  by_cases hrow : s.hmRow = 0
  · obtain rfl := hskip hrow
    rw [if_neg (not_not.2 hrow)]
    exact hends
  · dsimp only
    rw [if_pos hrow, exec_bind_of_ok (hfin hrow)]
    exact hends

theorem Closed.final (h : Closed H s fed l) (out : OutArg) :
    Ends (exec (finalBody env t s out) l) l (Outcome.of (exec (signWith env t s false fed out) l).1)
      (Closed H s fed) := by
  obtain ⟨r, hs, hbuf⟩ := h.row
  have hfin := exec_hmldsaPhFinish_none env hs h.mdCtx
  have hends := finalBody_buffered (t := t) env out hs.buffered (fun _ => hfin) (fun _ => rfl)
    ⟨rfl, rfl⟩ h
  rw [hbuf, h.prehashed, signWith_prehashed env hs] at hends
  exact hends

/-- `C_SignFinal` answers as `C_Sign` would on all that was passed in. -/
theorem Held.final (h : Held H t s ckoPrivateKey opened fed l) (htok : env.tok = some t)
    (hcalm : Calm env s) (hout : out ≠ .noLen) :
    Ends (exec (finalBody env t s out) l) l (Outcome.of (exec (signWith env t s false fed out) l).1)
      (AfterPeek H t s opened fed) := by
  cases h with
  | composite hs h =>
    rw [finalBody, if_pos hs.composite]
    have hends := Compositing.final env opened hs htok h hout
    exact ⟨hends.outcome, fun hun => (hends.kept hun).imp_left (·.afterPeek (.inl hs.row)), hends.ended⟩
  | prehash r hs hpre hbuf hopen h =>
    rcases h with ⟨hnone, rfl⟩ | ⟨c, hsome, hc⟩
    · have hfin := exec_hmldsaPhFinish_none env hs hnone
      have hheld : Held H t s ckoPrivateKey opened [] l :=
        .prehash r hs hpre hbuf hopen (.inl ⟨hnone, rfl⟩)
      have hclosed : opened = false := by rw [← hopen, hnone]; rfl
      have hends := finalBody_buffered (t := t) env out hs.buffered (fun _ => hfin) (fun _ => rfl)
        ⟨rfl, rfl⟩ (hheld.afterPeek (.inr hclosed))
      rw [hbuf, hpre] at hends
      exact hends
    · have hfin := exec_hmldsaPhFinish_some env hs hsome hc
      have hopened : opened = true := by rw [← hopen, hsome]; rfl
      have hafter : AfterPeek H t s opened fed
          { l with mdCtx := none, mpBuf := H.prehash r fed, hmPrehashed := true } := by
        unfold AfterPeek
        rw [if_pos ⟨hs.row, hopened⟩]
        exact ⟨⟨r, hs, rfl⟩, rfl, rfl⟩
      have hends := finalBody_buffered (t := t) env out hs.buffered (fun _ => hfin)
        (fun hzero => absurd hzero hs.row) ⟨rfl, rfl⟩ hafter
      rw [signWith_prehashed env hs, signWith_buffered env hs.buffered,
        steady_signOut.result_eq _ l, ← signWith_buffered env hs.buffered] at hends
      exact hends
  | buffer hs hpre hbuf =>
    have hheld : Held H t s ckoPrivateKey opened fed l := .buffer hs hpre hbuf
    have hends := finalBody_buffered (t := t) env out hs.buffered
      (fun hrow => absurd hs.row hrow) (fun _ => rfl) ⟨rfl, rfl⟩ (hheld.afterPeek (.inl hs.row))
    rw [hbuf, hpre] at hends
    exact hends
  | mac o spec hs h =>
    rw [finalBody, if_neg (by rw [hs.composite]; decide), if_neg (by rw [hs.buffered]; decide)]
    have hends := Macing.final env ckoPrivateKey opened hs htok hcalm h hout
    exact ⟨hends.outcome, fun hun => (hends.kept hun).imp_left (·.afterPeek (.inl hs.row)), hends.ended⟩

/-- After the digest is taken an update is refused and ends the operation. -/
theorem Closed.update (h : Closed H s fed l) (part : Bytes) :
    (exec (updateWith env s part) l).2.active = false := by
  obtain ⟨r, hs, -⟩ := h.row
  have hupdate : exec (hmldsaPhUpdate env s part) l = (.error (.rv .functionFailed), l) := by
    unfold hmldsaPhUpdate
    simp only [refuseIf, hs.generic]
    rw [exec_failIf_bind, if_neg Bool.false_ne_true, exec_bind_of_ok (exec_get l), exec_failIf_bind,
      if_pos h.prehashed]
  unfold updateWith
  rw [if_neg (by rw [hs.composite]; decide), if_pos hs.row, exec_bind, orHmldsaFail, exec_tryCatch,
    hupdate]
  rfl

/-! ## `C_VerifyFinal` -/

/-- The answer that goes with a verdict. -/
def verdictReply : Except Err Unit → Except Refusal Reply
  | .ok () => .ok .done
  | .error e => .error (.rv e)

theorem exec_ofExcept_done (v : Except Err Unit) (l : Running P) :
    (exec (do OpM.ofExcept v; pure .done : OpM P Reply) l).1 = verdictReply v := by
  cases v <;> rfl

theorem verifyAsymmetric_prehashed (hs : Prehashing s r) (d sig : Bytes) :
    verifyAsymmetric env t s true (H.prehash r d) sig = verifyAsymmetric env t s false d sig := by
  unfold verifyAsymmetric
  simp only [hs.row, ne_eq, not_false_eq_true, if_true,
    H.hmldsaMessage_prehashed env hs.row hs.get hs.generic d]

theorem verifyWith_buffered (h : isBufferedMultipart s.mechanism = true) (prehashed : Bool)
    (d sig : Bytes) : verifyWith env t s prehashed d sig = verifyAsymmetric env t s prehashed d sig := by
  obtain ⟨hc, haes, hmac⟩ := isBuffered_cases h
  unfold verifyWith
  rw [hmac]
  dsimp only
  cases hget : t.objectGet s.keyHandle with
  | error e =>
    unfold verifyAsymmetric
    rw [hget]
    rfl
  | ok o =>
    show (if isComposite s.mechanism = true then _ else _) = _
    rw [if_neg (by rw [hc]; decide), if_neg (by rw [haes]; decide)]

theorem verifyWith_mac (hs : Macing H t s o spec) (hcalm : Calm env s) (prehashed : Bool)
    (d sig : Bytes) :
    verifyWith env t s prehashed d sig = checkMac (H.mac spec o.value d) (macStreamLen s) sig := by
  have hlen := H.length_mac spec o.value d
  have hsup := hs.supported
  unfold verifyWith
  rw [hs.get]
  show (if isComposite s.mechanism = true then _ else _) = _
  rw [if_neg (by rw [hs.composite]; decide)]
  rcases hs.kind with ⟨md, hmac, rfl, hn⟩ | ⟨hmac, haes, htype, haesSpec, hbits, hsize, hn⟩
  · rw [hmac]
    dsimp only
    rw [hmac_eq env hsup (hcalm (by rw [hmac]; rfl)), hn]
    show checkMac (H.mac (.hmac md) o.value d) (H.mac (.hmac md) o.value d).length sig = _
    rw [hlen]
    rfl
  · rw [hmac]
    dsimp only
    rw [if_pos haes, if_neg (not_not.2 htype), haesSpec, hn]
    show (do
      let mac ← aesMac env spec o.value d
      checkMac mac (aesMacLen s) sig) = _
    rw [aesMac_eq env hsup hbits hsize]
    rfl

/-- What `C_VerifyFinal` does once its argument is checked. -/
def verifyBody (t : Token) (s : Setup) (sig : Bytes) : OpM P Reply :=
  if isComposite s.mechanism then ending do
    let o ← OpM.ofExcept (t.objectGet s.keyHandle)
    requireCompositeKey o ckoPublicKey
    let ph ← compositePhFinal env
    OpM.ofExcept (P.compositeVerify env.seed true o.value sig ph)
    pure .done
  else if isBufferedMultipart s.mechanism then do
    if s.hmRow ≠ 0 then orHmldsaFail (hmldsaPhFinish env s) else pure ()
    let l ← get
    freeMultipart
    stop
    OpM.ofExcept (verifyAsymmetric env t s l.hmPrehashed l.mpBuf sig)
    pure .done
  else orMacFail do
    refuseIf (macStreamLen s == 0) .mechanismInvalid
    let mac ← macStreamFinal env s
    setMac none
    stop
    OpM.ofExcept (checkMac mac (macStreamLen s) sig)
    pure .done

/-- `C_VerifyFinal` for the composite mechanism. -/
theorem Compositing.verify (hs : Compositing t s ckoPublicKey)
    (h : DigestHeld H .sha512 fed l.mdCtx) (sig : Bytes) :
    (exec (verifyBody env t s sig) l).1 = verdictReply (verifyWith env t s false fed sig) := by
  obtain ⟨o, hget, hcls, htype⟩ := hs.key
  obtain ⟨l', hph⟩ := h.compositePhFinal env
  have hverify : verifyWith env t s false fed sig =
      P.compositeVerify env.seed true o.value sig (H.hash .sha512 fed) := by
    unfold verifyWith
    rw [hget, ← H.compositeVerify]
    show (if isComposite s.mechanism = true then _ else _) = _
    rw [if_pos hs.composite, if_neg (by rintro (h | h); exacts [h hcls, h htype])]
  rw [hverify]
  unfold verifyBody
  rw [if_pos hs.composite, hget, (exec_ending _ _).1]
  have hok : (.ofExcept (.ok o) : OpM P Obj) = pure o := rfl
  simp only [hok, pure_bind, requireCompositeKey_bind hcls htype]
  rw [exec_bind_of_ok hph]
  exact exec_ofExcept_done _ l'

/-- `C_VerifyFinal` for the buffered mechanisms, once the digest of a pre-hash variant is taken. -/
theorem verifyBody_buffered {l₁ : Running P} (hbuffered : isBufferedMultipart s.mechanism = true)
    (hfin : s.hmRow ≠ 0 → exec (orHmldsaFail (hmldsaPhFinish env s)) l = (.ok (), l₁))
    (hskip : s.hmRow = 0 → l = l₁) (sig : Bytes) :
    (exec (verifyBody env t s sig) l).1 =
      verdictReply (verifyAsymmetric env t s l₁.hmPrehashed l₁.mpBuf sig) := by
  unfold verifyBody
  rw [if_neg (by rw [(isBuffered_cases hbuffered).1]; decide), if_pos hbuffered]
  dsimp only
  by_cases hrow : s.hmRow = 0
  · obtain rfl := hskip hrow
    rw [if_neg (not_not.2 hrow)]
    exact exec_ofExcept_done _ _
  · rw [if_pos hrow, exec_bind_of_ok (hfin hrow)]
    exact exec_ofExcept_done _ _

/-- `C_VerifyFinal` for the MACs. -/
theorem Macing.verify (hs : Macing H t s o spec) (htok : env.tok = some t) (hcalm : Calm env s)
    (h : MacHeld H spec o.value fed l.macCtx) (sig : Bytes) :
    (exec (verifyBody env t s sig) l).1 = verdictReply (verifyWith env t s false fed sig) := by
  obtain ⟨-, hpos, c, hfinal⟩ := hs.streamFinal env htok h
  rw [verifyWith_mac env hs hcalm]
  unfold verifyBody
  rw [if_neg (by rw [hs.composite]; decide), if_neg (by rw [hs.buffered]; decide)]
  unfold orMacFail
  rw [exec_tryCatch, refuseIf, exec_failIf_bind, if_neg (by simp; omega), exec_bind_of_ok hfinal]
  cases checkMac (H.mac spec o.value fed) (macStreamLen s) sig <;> rfl

/-- `C_VerifyFinal` gives the verdict of `C_Verify` on all that was passed in. -/
theorem Held.verify (h : Held H t s ckoPublicKey opened fed l) (htok : env.tok = some t)
    (hcalm : Calm env s) (sig : Bytes) :
    (exec (verifyBody env t s sig) l).1 = verdictReply (verifyWith env t s false fed sig) := by
  cases h with
  | composite hs h => exact hs.verify env h sig
  | prehash r hs hpre hbuf _ h =>
    rw [verifyWith_buffered env hs.buffered]
    rcases h with ⟨hnone, rfl⟩ | ⟨c, hsome, hc⟩
    · have hfin := exec_hmldsaPhFinish_none env hs hnone
      rw [verifyBody_buffered env hs.buffered (fun _ => hfin) (fun _ => rfl), hpre, hbuf]
    · have hfin := exec_hmldsaPhFinish_some env hs hsome hc
      rw [verifyBody_buffered env hs.buffered (fun _ => hfin)
        (fun hzero => absurd hzero hs.row)]
      exact congrArg verdictReply (verifyAsymmetric_prehashed env hs fed sig)
  | buffer hs hpre hbuf =>
    rw [verifyWith_buffered env hs.buffered, verifyBody_buffered env hs.buffered
      (fun hrow => absurd hs.row hrow) (fun _ => rfl), hpre, hbuf]
  | mac o spec hs h => exact hs.verify env htok hcalm h sig

end

end FreeHsm
