import FreeHsm.Pkcs11.Derive
import FreeHsm.Pkcs11.KbkdfCorrect
import FreeHsm.Pkcs11.Refined

/-!
# What the creation functions make

`CreateCall` is a call of one of the seven functions that make objects, and
`CreateCall.plan` says what it sets out to make: for each object its template, what
`fhsm_token_object_add` is given, and the end of the creation. A call that reports
success has made just that, in objects at the end of the store.
-/

namespace FreeHsm

open TokenM StateExcept IteratedPrf List Token

/-! ## Plans -/

/-- An object to be made. -/
structure Making where
  tmpl : Template
  args : AddArgs
  tail : Tail

/-- An object that was made. -/
def Made (c : Caller) (m : Making) (o : Obj) : Prop :=
  ∃ tok : Token, ∃ hvalue hid, (tok.newObject m.args hvalue hid).Refined c m.tmpl m.tail o

/-- What `derive_store_secret` makes. -/
def deriveMaking (tok : Token) (d : DeriveFrom) (t : Template) (secret : Bytes) :
    Except Err Making := do
  rejectMechSupplied t
  let cls ← deriveClass t d.dflt
  return ⟨t, d.addArgs tok t cls secret, { history := d.history tok, usage := computeUsage cls t }⟩

/-- The end of the creation of a pair's public key. -/
def pairPubTail (pub : Template) : Tail :=
  { encap := some ckoPublicKey, edName := some pub, usage := computeUsage ckoPublicKey pub }

/-- The end of the creation of a pair's private key. -/
def pairPrivTail (pub priv : Template) (pair : KeyPair) : Tail :=
  { encap := some ckoPrivateKey, edName := some pub, usage := pairPrivUsage priv pair.keyType }

/-- The public and the private key of a pair. -/
def pairMakings (pub priv : Template) (pair : KeyPair) : List Making :=
  [⟨pub, pairPubArgs pub pair, pairPubTail pub⟩,
    ⟨priv, pairPrivArgs priv pair, pairPrivTail pub priv pair⟩]

/-- A call of a function that makes objects, without what it meets. -/
inductive CreateCall
  | generateKey (mech : UInt64) (param : Option Pbkd2Params) (arg : TemplateArg)
  | generateKeyPair (mech : UInt64) (pub priv : TemplateArg)
  | createObject (arg : TemplateArg)
  | unwrapKey (m : Mech) (hUnwrapping : UInt64) (wrapped : Bytes) (arg : TemplateArg)
  | deriveKey (m : DeriveMech) (hBase : UInt64) (arg : TemplateArg)
  | encapsulateKey (mech hPublic : UInt64) (arg : TemplateArg) (out : OutArg)
  | decapsulateKey (mech hPrivate : UInt64) (ct : Bytes) (arg : TemplateArg)

section

variable {P : Provider} (L : KeyLib P)

/-- The single object of most calls. -/
def oneMaking : Except Err (Template × AddArgs × Tail) → Except Err (List Making)
  | .ok (t, args, tail) => .ok [⟨t, args, tail⟩]
  | .error e => .error e

/-- What `C_DeriveKey` makes. -/
def derivePlan (c : Caller) (tok : Token) (m : DeriveMech) (hBase : UInt64) (arg : TemplateArg) :
    Except Err (List Making) := do
  let t ← deriveGate L c tok m.type hBase arg
  match kbkdfMode m.type with
  | some mode => do
    let keys ← kbkdfPlan L.toKeyEnv c tok mode m.kdf hBase arg
    keys.mapM fun k => deriveMaking tok { dflt := ckoSecretKey, base := hBase } k.1 k.2
  | none => do
    let (secret, d) ← deriveSecret L tok m hBase t
    return [← deriveMaking tok d t secret]

namespace CreateCall

/-- What a call sets out to make. -/
def plan (c : Caller) (tok : Token) : CreateCall → Except Err (List Making)
  | .generateKey mech param arg => oneMaking (generateKeyPlan L c mech param arg)
  | .generateKeyPair mech pubArg privArg => do
    let (pub, priv) ← generatePairGate L c mech pubArg privArg
    let pair ← (pairMaterial L mech pub).mapError PairFail.toErr
    return pairMakings pub priv pair
  | .createObject arg => oneMaking (createPlan L c arg)
  | .unwrapKey m hUnwrapping wrapped arg => oneMaking (unwrapPlan L c tok m hUnwrapping wrapped arg)
  | .deriveKey m hBase arg => derivePlan L c tok m hBase arg
  | .encapsulateKey mech hPublic arg out => do
    match ← encapsulatePlan L c tok mech hPublic arg out with
    | .size _ => return []
    | .secret _ t args tail => return [⟨t, args, tail⟩]
  | .decapsulateKey mech hPrivate ct arg => oneMaking (decapsulatePlan L c tok mech hPrivate ct arg)

/-- The call itself, with the handles of the objects it makes. -/
def run (C : Crypto) (env : Envs) (c : Caller) : CreateCall → TokenM (List UInt32)
  | .generateKey mech param arg => do return [← FreeHsm.generateKey L C env c mech param arg]
  | .generateKeyPair mech pub priv => do
    let (hp, hk) ← FreeHsm.generateKeyPair L C env c mech pub priv
    return [hp, hk]
  | .createObject arg => do return [← FreeHsm.createObject L C env c arg]
  | .unwrapKey m hUnwrapping wrapped arg => do
    return [← FreeHsm.unwrapKey L C env c m hUnwrapping wrapped arg]
  | .deriveKey m hBase arg => FreeHsm.deriveKey L C env c m hBase arg
  | .encapsulateKey mech hPublic arg out => do
    match ← FreeHsm.encapsulateKey L C env c mech hPublic arg out with
    | .size _ => return []
    | .key _ handle => return [handle]
  | .decapsulateKey mech hPrivate ct arg => do
    return [← FreeHsm.decapsulateKey L C env c mech hPrivate ct arg]

end CreateCall

end

/-! ## Handles of new objects -/

/-- The handles of the next `n` objects. -/
def Token.newHandles (tok : Token) (n : Nat) : List UInt32 := List.iterate followHandle tok.newHandle n

/-- No object has one of them. -/
def Token.HandlesFree (tok : Token) (n : Nat) : Prop :=
  ∀ h ∈ tok.newHandles n, tok.objects.find? h = none

/-- What a successful call has made: under the next handles, the objects of a plan at the end of
the store, if the handles were free. -/
structure MadeAll (c : Caller) (makings : List Making) (s s' : Live) (handles : List UInt32) :
    Prop where
  few : makings.length < 2 ^ 32
  handles_eq : handles = s.tok.newHandles makings.length
  objects : s.tok.HandlesFree makings.length → ∃ news,
    s'.tok.objects.objs = s.tok.objects.objs ++ news ∧ List.Forall₂ (Made c) makings news ∧
      handles = news.map (·.handle)

/-! ## One object -/

section

variable {C : Crypto} {env : Envs} {c : Caller} {s s' : Live}

variable {handle : UInt32}

theorem newHandle_of_next {tok : Token} (h : tok.nextHandle = handle + 1) :
    tok.newHandle = followHandle handle := by
  rw [newHandle, followHandle, h]

theorem createWith_madeAll {t : Template} {a : AddArgs} {tail : Tail}
    (h : exec (createWith C env c t a tail) s = (.ok handle, s')) :
    MadeAll c [⟨t, a, tail⟩] s s' [handle] := by
  obtain ⟨handle', s₁, hadd, h⟩ := exec_bind_ok.1 h
  obtain ⟨_, s₂, hrefine, h⟩ := exec_bind_ok.1 h
  cases h
  obtain ⟨_, _, rfl, -⟩ := exec_add_ok hadd
  refine ⟨by simp, rfl, fun hfree => ?_⟩
  obtain ⟨hvalue, hid, hadded⟩ := LastObj.of_add hadd (hfree _ (by simp [newHandles]))
  obtain ⟨o, hlast, hrefined⟩ :=
    hadded.refineObject (s.tok.newObject_settled a hvalue hid) hrefine
  exact ⟨[o], hlast.objs, .cons ⟨s.tok, hvalue, hid, hrefined⟩ .nil, by simp [hlast.handle_eq]⟩

/-- After a creation the next handle follows the one that was given out. -/
theorem createWith_next {t : Template} {a : AddArgs} {tail : Tail}
    (h : exec (createWith C env c t a tail) s = (.ok handle, s')) :
    s'.tok.newHandle = followHandle handle := by
  have hout := createWith_outcome C env c t a tail s
  rw [h] at hout
  dsimp only at hout
  generalize createAddition C env a s = x at hout
  cases hout with
  | created _ _ _ hnext => exact newHandle_of_next hnext

theorem oneMaking_madeAll {plan : Except Err (Template × AddArgs × Tail)}
    {f : Template × AddArgs × Tail → TokenM UInt32}
    (hf : ∀ t a tail, f (t, a, tail) = createWith C env c t a tail)
    (h : exec (check plan >>= f) s = (.ok handle, s')) :
    ∃ makings, oneMaking plan = .ok makings ∧ MadeAll c makings s s' [handle] := by
  obtain ⟨⟨t, a, tail⟩, rfl, hcreate⟩ := exec_check_bind_ok h
  rw [hf] at hcreate
  exact ⟨_, rfl, createWith_madeAll hcreate⟩

end

/-! ## Derived objects -/

section

variable {C : Crypto} {env : Envs} {c : Caller} {d : DeriveFrom} {s s' : Live}

theorem deriveStoreSecret_madeAll {t : Template} {secret : Bytes} {handle : UInt32}
    (h : exec (deriveStoreSecret C env c t secret d) s = (.ok handle, s')) :
    ∃ m, deriveMaking s.tok d t secret = .ok m ∧ MadeAll c [m] s s' [handle] ∧
      s'.tok.newHandle = followHandle handle := by
  obtain ⟨_, hreject, h⟩ := exec_check_bind_ok h
  obtain ⟨cls, hcls, h⟩ := exec_check_bind_ok h
  rw [exec_bind_of_ok (exec_get s)] at h
  refine ⟨_, ?_, createWith_madeAll h, createWith_next h⟩
  rw [deriveMaking, hreject, hcls]
  rfl

/-- The base keys of a derivation are there. -/
def DeriveFrom.Found (d : DeriveFrom) (tok : Token) : Prop :=
  (tok.objects.find? d.base.toUInt32).isSome ∧
    (d.base2 = 0 ∨ (tok.objects.find? d.base2.toUInt32).isSome)

theorem ObjStore.find?_append {store store' : ObjStore} {news : List Obj} {h : UInt32}
    (hobjs : store'.objs = store.objs ++ news) (hsome : (store.find? h).isSome) :
    store'.find? h = store.find? h := by
  unfold find? at hsome ⊢
  rw [hobjs, List.find?_append]
  cases hfind : store.objs.find? (·.handle == h) with
  | none =>
    rw [hfind] at hsome
    cases hsome
  | some o => rfl

variable {tok tok' : Token}

theorem Token.inherit_congr {base : UInt64}
    (h : base = 0 ∨ tok'.objects.find? base.toUInt32 = tok.objects.find? base.toUInt32) :
    (∀ flags, tok'.inheritFlags base flags = tok.inheritFlags base flags) ∧
      tok'.baseHistory base = tok.baseHistory base := by
  rcases h with rfl | h
  · exact ⟨fun _ => rfl, rfl⟩
  · have hsens : tok'.alwaysSensitive base = tok.alwaysSensitive base := by
      rw [alwaysSensitive, alwaysSensitive, h]
    have hext : tok'.neverExtractable base = tok.neverExtractable base := by
      rw [neverExtractable, neverExtractable, h]
    refine ⟨fun flags => ?_, ?_⟩
    · rw [inheritFlags, inheritFlags, h]
    · rw [baseHistory, baseHistory, hsens, hext]

theorem DeriveFrom.Found.append {news : List Obj} (h : d.Found tok)
    (hobjs : tok'.objects.objs = tok.objects.objs ++ news) :
    d.Found tok' ∧ ∀ t secret, deriveMaking tok' d t secret = deriveMaking tok d t secret := by
  have hbase := ObjStore.find?_append hobjs h.1
  have hbase2 : d.base2 = 0 ∨ tok'.objects.find? d.base2.toUInt32 =
      tok.objects.find? d.base2.toUInt32 := h.2.imp_right (ObjStore.find?_append hobjs)
  obtain ⟨hflags, hhist⟩ := inherit_congr (.inr hbase)
  obtain ⟨hflags2, hhist2⟩ := inherit_congr hbase2
  refine ⟨⟨hbase ▸ h.1, ?_⟩, fun t secret => ?_⟩
  · rcases hbase2 with hzero | hbase2
    · exact .inl hzero
    · exact h.2.imp_right fun hsome => hbase2 ▸ hsome
  · simp only [deriveMaking, DeriveFrom.addArgs, DeriveFrom.flags, DeriveFrom.history, hflags,
      hflags2, hhist, hhist2]

/-- Whether derived objects can be made does not depend on the token. -/
theorem mapM_deriveMaking (tok' : Token) {keys : List (Template × Bytes)} {ms : List Making}
    (h : keys.mapM (fun k => deriveMaking tok d k.1 k.2) = .ok ms) :
    ∃ ms', keys.mapM (fun k => deriveMaking tok' d k.1 k.2) = .ok ms' := by
  induction keys generalizing ms with
  | nil => exact ⟨[], rfl⟩
  | cons k keys ih =>
    rw [mapM_cons] at h
    obtain ⟨m, hm, h⟩ := bind_ok h
    obtain ⟨rest, hrest, h⟩ := bind_ok h
    obtain ⟨_, hreject, hm⟩ := bind_ok hm
    obtain ⟨cls, hcls, hm⟩ := bind_ok hm
    obtain ⟨rest', hrest'⟩ := ih hrest
    let m' : Making := ⟨k.1, d.addArgs tok' k.1 cls k.2,
      { history := d.history tok', usage := computeUsage cls k.1 }⟩
    refine ⟨m' :: rest', ?_⟩
    rw [mapM_cons, hrest', deriveMaking, hreject, hcls]
    rfl

theorem Token.newHandle_ne_zero (tok : Token) : tok.newHandle ≠ 0 := by
  unfold newHandle
  split
  · decide
  · assumption

theorem Token.newHandles_succ (h : tok'.newHandle = followHandle tok.newHandle) (n : Nat) :
    tok.newHandles (n + 1) = tok.newHandle :: tok'.newHandles n := by
  rw [newHandles, newHandles, h]
  rfl

/-- The handles that are left stay free. -/
theorem Token.HandlesFree.tail {n : Nat} {o : Obj} (h : tok.HandlesFree (n + 1))
    (hn : n + 1 < 2 ^ 32) (hnext : tok'.newHandle = followHandle tok.newHandle)
    (hobjs : tok'.objects.objs = tok.objects.objs ++ [o]) (ho : o.handle = tok.newHandle) :
    tok'.HandlesFree n := by
  intro x hx
  have hnodup := nodup_iterate_followHandle tok.newHandle_ne_zero hn
  rw [← newHandles, tok.newHandles_succ hnext, nodup_cons] at hnodup
  have hfree := h x (by rw [tok.newHandles_succ hnext]; exact mem_cons_of_mem _ hx)
  have hne : o.handle ≠ x := fun heq => hnodup.1 (by rw [← ho, heq]; exact hx)
  unfold ObjStore.find? at hfree ⊢
  rw [hobjs, find?_append, hfree]
  simp [hne]

theorem kbkdfStore_made {keys : List (Template × Bytes)} {made handles : List UInt32}
    (hkeys : keys.length < 2 ^ 32)
    (h : exec (kbkdfStore C c d env keys made) s = (.ok handles, s')) :
    ∃ makings, keys.mapM (fun k => deriveMaking s.tok d k.1 k.2) = .ok makings ∧
      handles = made ++ s.tok.newHandles keys.length ∧
      (d.Found s.tok → s.tok.HandlesFree keys.length → ∃ news,
        s'.tok.objects.objs = s.tok.objects.objs ++ news ∧ List.Forall₂ (Made c) makings news ∧
          s.tok.newHandles keys.length = news.map (·.handle)) := by
  induction keys generalizing env made s with
  | nil =>
    cases h
    exact ⟨[], rfl, by simp [newHandles], fun _ _ => ⟨[], by simp, .nil, rfl⟩⟩
  | cons k keys ih =>
    obtain ⟨t, secret⟩ := k
    rw [exec_kbkdfStore_cons] at h
    rcases hrun : exec (deriveStoreSecret C env c t secret d) s with ⟨e | handle, s₁⟩
    · rw [hrun] at h
      cases h
    rw [hrun] at h
    obtain ⟨m, hm, hfirst, hnext⟩ := deriveStoreSecret_madeAll hrun
    obtain ⟨ms₁, hms₁, rfl, hrest⟩ := ih (Nat.lt_of_succ_lt hkeys) h
    obtain ⟨ms, hms⟩ := mapM_deriveMaking s.tok hms₁
    obtain rfl : handle = s.tok.newHandle := (cons.inj hfirst.handles_eq).1
    have hhandles := s.tok.newHandles_succ hnext keys.length
    refine ⟨m :: ms, ?_, by simp [hhandles], fun hfound hfree => ?_⟩
    · rw [mapM_cons, hm, hms]
      rfl
    · obtain ⟨news, hobjs, hmade, hnews⟩ := hfirst.objects fun x hx => by
        obtain rfl : x = s.tok.newHandle := by simpa [newHandles] using hx
        exact hfree _ (by rw [length_cons, hhandles]; exact mem_cons_self)
      -- one object, and with it at the end the base keys are still found
      cases hmade with
      | cons ho hnil =>
        cases hnil
        obtain ⟨hfound₁, hsame⟩ := hfound.append hobjs
        obtain ⟨rest, hobjs', hmade', hnews'⟩ :=
          hrest hfound₁ (hfree.tail hkeys hnext hobjs (cons.inj hnews).1.symm)
        have hms' : ms₁ = ms := by
          simp only [hsame] at hms₁
          exact Except.ok.inj (hms₁.symm.trans hms)
        refine ⟨_ :: rest, by rw [hobjs', hobjs, append_assoc]; rfl, .cons ho (hms' ▸ hmade'), ?_⟩
        rw [length_cons, hhandles, hnews', (cons.inj hnews).1]
        rfl

end

/-! ## Key pairs -/

/-- The two objects of a pair at the end of the store. -/
structure PairAt (pre : List Obj) (hp hk : UInt32) (po ko : Obj) (s : Live) : Prop where
  pub : ObjAt pre [ko] hp po s
  priv : ObjAt (pre ++ [po]) [] hk ko s

namespace PairAt

variable {pre : List Obj} {hp hk : UInt32} {po ko o : Obj} {s s' : Live}

theorem onPub (h : PairAt pre hp hk po ko s) (h' : ObjAt pre [ko] hp o s') :
    PairAt pre hp hk o ko s' where
  pub := h'
  priv := {
    objs := by rw [h'.objs, append_assoc]; rfl
    handle_eq := h.priv.handle_eq
    fresh := by
      intro x hx
      rcases mem_append.1 hx with hx | hx
      · exact h.priv.fresh x (mem_append_left _ hx)
      · rw [mem_singleton.1 hx, h'.handle_eq, ← h.pub.handle_eq]
        exact h.priv.fresh po (by simp)
    fresh_post := nofun
    opened := h'.opened }

theorem onPriv (h : PairAt pre hp hk po ko s) (h' : ObjAt (pre ++ [po]) [] hk o s') :
    PairAt pre hp hk po o s' where
  pub := {
    objs := by rw [h'.objs, append_assoc]; rfl
    handle_eq := h.pub.handle_eq
    fresh := h.pub.fresh
    fresh_post := by
      intro x hx
      rw [mem_singleton.1 hx, h'.handle_eq, ← h.priv.handle_eq]
      exact h.pub.fresh_post ko (by simp)
    opened := h'.opened }
  priv := h'

end PairAt

section

variable {C : Crypto} {env : Envs} {c : Caller} {s s' : Live}

theorem exec_add_next {env : Env} {a : AddArgs} {handle : UInt32}
    (h : exec (add C env a) s = (.ok handle, s')) :
    handle = s.tok.newHandle ∧ s'.tok.nextHandle = handle + 1 ∧ s'.tok.storeOpen = true := by
  rw [exec_add] at h
  rcases hadd : s.tok.objectAdd C env a s.disk with ⟨rv, handle?, t', d'⟩
  rw [hadd] at h
  rcases objectAdd_appends hadd with
    ⟨hrv, rfl, rfl, rfl⟩ | ⟨hvalue, hid, hroom, hopen, rfl, rfl, -⟩
  · cases rv with
    | ok => exact absurd rfl hrv
    | err e => cases h
  · cases rv with
    | ok =>
      cases h
      exact ⟨rfl, rfl, hopen⟩
    | err e => cases h

theorem exec_orDestroyPair_ok {hp hk : UInt32} {x : TokenM Unit}
    (h : exec (orDestroyPair C env hp hk x) s = (.ok (), s')) : exec x s = (.ok (), s') :=
  exec_orDestroy_ok (exec_orDestroy_ok h)

theorem Refines.kept {handle : UInt32} {x : TokenM Unit} (h : Refines handle x)
    (hopen : s.tok.storeOpen = true) (hx : exec x s = (.ok (), s')) : Kept s s' := by
  have hs := h s hopen
  rw [hx] at hs
  exact hs

theorem storePair_madeAll {pub priv : Template} {pair : KeyPair} {hp hk : UInt32}
    (h : exec (storePair C env c pub priv pair) s = (.ok (hp, hk), s')) :
    MadeAll c (pairMakings pub priv pair) s s' [hp, hk] := by
  simp only [storePair, exec_bind_ok] at h
  obtain ⟨hp', s₁, h₁, _, s₂, h₂, hk', s₃, h₃, _, s₄, h₄, _, s₅, h₅, _, s₆, h₆, _, s₇, h₇, _, s₈, h₈,
    _, s₉, h₉, _, s₁₀, h₁₀, _, s₁₁, h₁₁, _, s₁₂, h₁₂, _, s₁₃, h₁₃, h⟩ := h
  cases h
  have hadd : exec (add C (env 9) (pairPrivArgs priv pair)) s₂ = (.ok hk, s₃) := by
    rw [exec_tryCatch] at h₃
    rcases hx : exec (add C (env 9) (pairPrivArgs priv pair)) s₂ with ⟨e | _, s₁⟩
    · rw [hx] at h₃
      simp only [exec_bind, exec_ignored, exec_throw] at h₃
      cases h₃
    · rw [hx] at h₃
      exact h₃
  obtain ⟨rfl, hnext, hopen⟩ := exec_add_next h₁
  have hkept : Kept s₁ s₂ := refines_applyPolicy.kept hopen h₂
  have hhk : hk = followHandle s.tok.newHandle := by
    rw [(exec_add_next hadd).1]
    exact newHandle_of_next (hkept.next.trans hnext)
  refine ⟨by simp [pairMakings], by rw [hhk]; rfl, fun hfree => ?_⟩
  subst hhk
  have hne : s.tok.newHandle ≠ followHandle s.tok.newHandle := by
    have hnodup := nodup_iterate_followHandle s.tok.newHandle_ne_zero (n := 2) (by decide)
    simpa [iterate] using hnodup
  have hfirst := hfree s.tok.newHandle (by simp [newHandles, pairMakings, iterate])
  have hsecond := hfree (followHandle s.tok.newHandle)
    (by simp [newHandles, pairMakings, iterate])
  -- the public key alone
  obtain ⟨hvalue, hid, hadd₁⟩ := LastObj.of_add h₁ hfirst
  obtain ⟨po, hpolicy, hpub⟩ := hadd₁.applyPolicy h₂
  -- the private key behind it
  have hfresh : s₂.tok.objects.find? s₂.tok.newHandle = none := by
    rw [← (exec_add_next hadd).1]
    unfold ObjStore.find? at hsecond ⊢
    rw [hpolicy.objs, find?_append, hsecond]
    simp [hpolicy.handle_eq, hne]
  obtain ⟨hvalue', hid', hadd₂⟩ := LastObj.of_add hadd hfresh
  rw [hpolicy.objs] at hadd₂
  have hpair : PairAt s.tok.objects.objs s.tok.newHandle (followHandle s.tok.newHandle) _ _ s₃ := {
    pub := {
      objs := by rw [hadd₂.objs, append_assoc]; rfl
      handle_eq := hpolicy.handle_eq
      fresh := hpolicy.fresh
      fresh_post := by
        intro x hx
        rw [mem_singleton.1 hx, hadd₂.handle_eq]
        exact hne.symm
      opened := hadd₂.opened }
    priv := hadd₂ }
  have hsettled := hpub.toSameKey.settled (s.tok.newObject_settled _ hvalue hid)
  obtain ⟨_, s₇', h₇, h₇'⟩ := exec_bind_ok.1 (exec_orDestroyPair_ok h₇)
  obtain ⟨ko, hpolicy', hpriv⟩ := hpair.priv.applyPolicy (exec_orDestroy_ok h₄)
  have hsettled' := hpriv.toSameKey.settled (s₂.tok.newObject_settled _ hvalue' hid')
  have hpair := hpair.onPriv hpolicy'
  have hpair := hpair.onPub (hpair.pub.applyEncapFlags (exec_orDestroyPair_ok h₅))
  have hpair := hpair.onPriv (hpair.priv.applyEncapFlags (exec_orDestroyPair_ok h₆))
  have hpair := hpair.onPub (hpair.pub.applyEdCurveName h₇)
  have hpair := hpair.onPriv (hpair.priv.applyEdCurveName h₇')
  have hpair := hpair.onPub (hpair.pub.applyTokenScope (hsettled _ _) h₈)
  obtain ⟨po', hpmeta, hpm⟩ := hpair.pub.applyObjMeta (exec_orDestroyPair_ok h₉)
  have hpair := hpair.onPub (hpmeta.applyUsage h₁₀)
  have hpair := hpair.onPriv (hpair.priv.applyTokenScope (hsettled' _ _) h₁₁)
  obtain ⟨ko', hkmeta, hkm⟩ := hpair.priv.applyObjMeta (exec_orDestroyPair_ok h₁₂)
  have hpair := hpair.onPriv (hkmeta.applyUsage h₁₃)
  -- neither tail adds to the history
  have hzero (o : Obj) : o = { o with flags3 := o.flags3 ||| 0 } := by rw [UInt8.or_zero]
  refine ⟨_, hpair.pub.objs, .cons ⟨s.tok, hvalue, hid, .of (hzero _) hpub hpm⟩
    (.cons ⟨s₂.tok, hvalue', hid', .of (hzero _) hpriv hkm⟩ .nil), ?_⟩
  rw [map_cons, map_cons, hpair.pub.handle_eq, hpair.priv.handle_eq]
  rfl

end

/-! ## Finding the objects -/

/-- The new objects are found under their handles. -/
theorem MadeAll.found {c : Caller} {makings : List Making} {s s' : Live} {handles : List UInt32}
    (h : MadeAll c makings s s' handles) (hfree : s.tok.HandlesFree makings.length) :
    List.Forall₂ (fun m handle => ∃ o, s'.tok.objects.find? handle = some o ∧ Made c m o) makings
      handles := by
  obtain ⟨news, hobjs, hmade, hnews⟩ := h.objects hfree
  have hnodup : (news.map (·.handle)).Nodup := by
    rw [← hnews, h.handles_eq]
    exact nodup_iterate_followHandle s.tok.newHandle_ne_zero h.few
  -- no object that was there has one of the handles
  have hfind : ∀ o ∈ news, s'.tok.objects.find? o.handle = some o := by
    intro o ho
    have hnone := hfree o.handle (by
      rw [← h.handles_eq, hnews]
      exact mem_map_of_mem ho)
    unfold ObjStore.find? at hnone ⊢
    rw [hobjs, find?_append, hnone, Option.none_or, find?_of_nodup hnodup ho]
  rw [hnews, forall₂_map_right_iff]
  refine .flip (((forall₂_and_left _ _).2 ⟨hfind, hmade.flip⟩).imp ?_)
  exact fun o m ho => ⟨o, ho⟩

/-! ## Calls -/

section

variable {P : Provider} {L : KeyLib P} {C : Crypto} {env : Envs} {c : Caller} {s s' : Live}

theorem kbkdfPlan_found {mode : Mode} {param : Option KdfParams} {hBase : UInt64}
    {arg : TemplateArg} {tok : Token} {keys : List (Template × Bytes)}
    (h : kbkdfPlan L.toKeyEnv c tok mode param hBase arg = .ok keys) :
    DeriveFrom.Found { dflt := ckoSecretKey, base := hBase } tok ∧ keys.length < 2 ^ 32 := by
  obtain ⟨A, okm, -, rfl⟩ := kbkdfPlan_accepted h
  constructor
  · refine ⟨?_, .inl rfl⟩
    have hbase := A.hbase
    unfold objectGet at hbase
    split at hbase
    · cases hbase
    cases hfind : tok.objects.find? hBase.toUInt32 with
    | none =>
      rw [hfind] at hbase
      cases hbase
    | some o => rfl
  · have hlen := A.length_keys
    rw [length_zip, length_map]
    unfold kbkdfMaxKeys at hlen
    omega

theorem deriveKey_ok {m : DeriveMech} {hBase : UInt64} {arg : TemplateArg} {handles : List UInt32}
    (h : exec (deriveKey L C env c m hBase arg) s = (.ok handles, s')) :
    ∃ makings, derivePlan L c s.tok m hBase arg = .ok makings ∧ MadeAll c makings s s' handles := by
  rw [deriveKey, exec_bind_of_ok (exec_get s)] at h
  obtain ⟨t, hgate, h⟩ := exec_check_bind_ok h
  rw [derivePlan, bind_of_ok hgate]
  cases hmode : kbkdfMode m.type with
  | some mode =>
    rw [hmode] at h
    dsimp only [kbkdfDerive] at h ⊢
    rw [exec_bind_of_ok (exec_get s)] at h
    obtain ⟨keys, hkeys, h⟩ := exec_check_bind_ok h
    obtain ⟨hfound, hlen⟩ := kbkdfPlan_found hkeys
    obtain ⟨makings, hmakings, hhandles, hobjs⟩ := kbkdfStore_made hlen h
    have hcount : makings.length = keys.length := (mapM_ok hmakings).length_eq.symm
    refine ⟨makings, ?_, hcount ▸ hlen, by rw [hhandles, hcount, nil_append], fun hfree => ?_⟩
    · rw [bind_of_ok hkeys]
      exact hmakings
    · rw [hhandles, nil_append]
      exact hobjs hfound (hcount ▸ hfree)
  | none =>
    rw [hmode] at h
    dsimp only at h ⊢
    obtain ⟨⟨secret, d⟩, hsecret, h⟩ := exec_check_bind_ok h
    obtain ⟨handle, s₁, hstore, h⟩ := exec_bind_ok.1 h
    cases h
    obtain ⟨making, hmaking, hmade, -⟩ := deriveStoreSecret_madeAll hstore
    refine ⟨[making], ?_, hmade⟩
    rw [bind_of_ok hsecret]
    exact bind_of_ok hmaking

theorem CreateCall.run_ok {call : CreateCall} {handles : List UInt32}
    (h : exec (call.run L C env c) s = (.ok handles, s')) :
    ∃ makings, call.plan L c s.tok = .ok makings ∧ MadeAll c makings s s' handles := by
  cases call with
  | generateKey mech param arg =>
    obtain ⟨handle, s₁, hrun, h⟩ := exec_bind_ok.1 h
    cases h
    exact oneMaking_madeAll (fun _ _ _ => rfl) hrun
  | generateKeyPair mech pubArg privArg =>
    obtain ⟨⟨hp, hk⟩, s₁, hrun, h⟩ := exec_bind_ok.1 h
    cases h
    obtain ⟨⟨pub, priv⟩, hgate, hrun⟩ := exec_check_bind_ok hrun
    obtain ⟨pair, hpair, hrun⟩ := exec_check_bind_ok hrun
    refine ⟨_, ?_, storePair_madeAll hrun⟩
    rw [plan, bind_of_ok hgate]
    exact bind_of_ok hpair
  | createObject arg =>
    obtain ⟨handle, s₁, hrun, h⟩ := exec_bind_ok.1 h
    cases h
    exact oneMaking_madeAll (fun _ _ _ => rfl) hrun
  | unwrapKey m hUnwrapping wrapped arg =>
    obtain ⟨handle, s₁, hrun, h⟩ := exec_bind_ok.1 h
    cases h
    rw [FreeHsm.unwrapKey, exec_bind_of_ok (exec_get s)] at hrun
    exact oneMaking_madeAll (fun _ _ _ => rfl) hrun
  | deriveKey m hBase arg => exact deriveKey_ok h
  | encapsulateKey mech hPublic arg out =>
    obtain ⟨reply, s₁, hrun, h⟩ := exec_bind_ok.1 h
    rw [FreeHsm.encapsulateKey, exec_bind_of_ok (exec_get s)] at hrun
    obtain ⟨made, hplan, hrun⟩ := exec_check_bind_ok hrun
    rw [plan, bind_of_ok hplan]
    cases made with
    | size n =>
      -- a size query makes no object
      cases hrun
      cases h
      exact ⟨[], rfl, by decide, rfl, fun _ => ⟨[], by simp, .nil, rfl⟩⟩
    | secret ct t args tail =>
      obtain ⟨handle, s₂, hcreate, hrun⟩ := exec_bind_ok.1 hrun
      cases hrun
      cases h
      exact ⟨_, rfl, createWith_madeAll hcreate⟩
  | decapsulateKey mech hPrivate ct arg =>
    obtain ⟨handle, s₁, hrun, h⟩ := exec_bind_ok.1 h
    cases h
    rw [FreeHsm.decapsulateKey, exec_bind_of_ok (exec_get s)] at hrun
    exact oneMaking_madeAll (fun _ _ _ => rfl) hrun

end

end FreeHsm
