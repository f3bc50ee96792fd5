import FreeHsm.ForStd.Transition
import FreeHsm.Pkcs11.MultipartAgrees
import FreeHsm.Service.Serve

/-!
# What a client learns about the keys of others

Two states of the service that differ only in objects that no rule grants to a client
must answer the client alike, request after request: a key that is not there and a
key that is not for the client get the same refusal, and both refusals count against
the same budget.

A request names its key by label and the token by handle. `find_key` compares labels,
so it finds granted objects only; the calls that follow look the handle up again, and
reach the first object that has it. Where an object that is not granted has the
handle of one that is, these two can differ.
-/

namespace FreeHsm

open FindFilter Transition Token
open List hiding Vector

namespace Service

variable {P : Provider}

/-! ## The calls on a key -/

section

variable {t t' : Token} (env : Circumstances P) (seed : P.Seed)

theorem opEnv_alike {key : UInt32} (h : t.AlikeAt key t') :
    (env.opEnv t seed).Alike (some key) (env.opEnv t' seed) :=
  ⟨.some fun _ hkey => Option.mem_some.1 hkey ▸ h, rfl, rfl, rfl, rfl⟩

variable {hKey : UInt64} {op : Op P}

theorem sign_alike (h : t.AlikeAt op.params.keyHandle t') (data : Buf) (out : OutArg) :
    sign (env.opEnv t seed) data out op = sign (env.opEnv t' seed) data out op := by
  have hkey : (env.opEnv t seed).Alike ((SlotCall.sign data out).keyOf op) (env.opEnv t' seed) :=
    opEnv_alike env seed h
  exact SlotCall.run_of_alike hkey

theorem verify_alike (h : t.AlikeAt op.params.keyHandle t') (data sig : Buf) :
    verify (env.opEnv t seed) data sig op = verify (env.opEnv t' seed) data sig op := by
  have hkey : (env.opEnv t seed).Alike ((SlotCall.verify data sig).keyOf op) (env.opEnv t' seed) :=
    opEnv_alike env seed h
  exact SlotCall.run_of_alike hkey

theorem signInit_keyHandle {env : OpEnv P} {m : Mech} {op' : Op P} {r : Reply}
    (h : signInit env (some m) hKey op = (.ok r, op')) : op'.params.keyHandle = hKey.toUInt32 := by
  unfold signInit at h
  rcases hx : keyedInit env (some m) hKey (signMechValid env) .sign op with ⟨e | r₁, op₁⟩
  · rw [hx] at h
    cases h
  · rw [hx] at h
    dsimp only at h
    split at h
    · cases h
    · cases h
      exact (opInit_started (keyedInit_ok hx).1).keyHandle

theorem signWithKey_alike {key : UInt32} (h : t.AlikeAt key t') (body : Bytes) (op : Op P) :
    signWithKey env t key body op = signWithKey env t' key body op := by
  have hkey : t.AlikeAt key.toUInt64.toUInt32 t' := by rwa [UInt32.toUInt32_toUInt64]
  have hstart : signInit (env.opEnv t env.initSeed) (some compositeMech) key.toUInt64 op =
      signInit (env.opEnv t' env.initSeed) (some compositeMech) key.toUInt64 op :=
    SlotCall.run_of_alike (c := .signInit _ _) (opEnv_alike env _ hkey)
  rw [signWithKey, signWithKey, hstart]
  rcases hinit : signInit (env.opEnv t' env.initSeed) (some compositeMech) key.toUInt64 op with
    ⟨e | r, op₁⟩
  · rfl
  · -- the operation that was started is one with this key
    rw [← UInt32.toUInt32_toUInt64 key, ← signInit_keyHandle hinit] at h
    simp only [sign_alike env _ h]

theorem verifyWithKey_alike {key : UInt32} (h : t.AlikeAt key t') (data sig : Bytes) (op : Op P) :
    verifyWithKey env t key data sig op = verifyWithKey env t' key data sig op := by
  have hkey : t.AlikeAt key.toUInt64.toUInt32 t' := by rwa [UInt32.toUInt32_toUInt64]
  have hstart : verifyInit (env.opEnv t env.initSeed) (some compositeMech) key.toUInt64 op =
      verifyInit (env.opEnv t' env.initSeed) _ _ op :=
    SlotCall.run_of_alike (c := .verifyInit _ _) (opEnv_alike env _ hkey)
  rw [verifyWithKey, verifyWithKey, hstart]
  rcases hinit : verifyInit (env.opEnv t' env.initSeed) (some compositeMech) key.toUInt64 op with
    ⟨(e | n) | r, op₁⟩
  · cases e <;> rfl
  · rfl
  · rw [← UInt32.toUInt32_toUInt64 key, ← (opInit_started (keyedInit_ok hinit).1).keyHandle] at h
    simp only [verify_alike env _ h]

end

/-! ## What is granted -/

/-- Some rule grants the label of the object to the client. -/
def granted (policy : List Rule) (subject : Bytes) (o : Obj) : Bool :=
  permits policy subject (cstr o.label.toList)

/-- Tokens that differ only in objects that are not granted, and in the counter that gives out
handles. -/
structure TokensDiffer (policy : List Rule) (subject : Bytes) (t t' : Token) : Prop where
  header : t.header = t'.header
  throttle : t.throttleUntilMs = t'.throttleUntilMs
  dek : t.dek = t'.dek
  loggedIn : t.loggedIn = t'.loggedIn
  loaded : t.objectsLoaded = t'.objectsLoaded
  shown : t.objectsPublic = t'.objectsPublic
  visible : t.objects.objs.filter (granted policy subject) =
    t'.objects.objs.filter (granted policy subject)

/-- No object that is not granted has the handle of one that is. -/
def Separated (policy : List Rule) (subject : Bytes) (t : Token) : Prop :=
  ∀ o ∈ t.objects.objs, ∀ o' ∈ t.objects.objs,
    granted policy subject o = true → o'.handle = o.handle → granted policy subject o' = true

instance (policy : List Rule) (subject : Bytes) (t : Token) :
    Decidable (Separated policy subject t) :=
  inferInstanceAs (Decidable (∀ o ∈ t.objects.objs, ∀ o' ∈ t.objects.objs, _ → _ → _))

section

variable {policy : List Rule} {subject : Bytes} {t t' : Token}

theorem Separated.find? (h : Separated policy subject t) {o : Obj} (ho : o ∈ t.objects.objs)
    (hgranted : granted policy subject o = true) :
    t.objects.find? o.handle =
      (t.objects.objs.filter (granted policy subject)).find? (·.handle == o.handle) := by
  rw [find?_filter, ObjStore.find?, ← head?_filter, ← head?_filter]
  congr 1
  refine filter_congr fun o' ho' => ?_
  by_cases heq : o'.handle = o.handle
  · simp [heq, h o ho o' ho' hgranted heq]
  · simp [heq]

theorem TokensDiffer.alikeAt (h : TokensDiffer policy subject t t')
    (hsep : Separated policy subject t) (hsep' : Separated policy subject t') {o : Obj}
    (ho : o ∈ t.objects.objs) (hgranted : granted policy subject o = true) :
    t.AlikeAt o.handle t' where
  find := by
    have ho' : o ∈ t'.objects.objs := by
      have hmem : o ∈ t.objects.objs.filter (granted policy subject) :=
        mem_filter.2 ⟨ho, hgranted⟩
      rw [h.visible] at hmem
      exact (mem_filter.1 hmem).1
    rw [hsep.find? ho hgranted, hsep'.find? ho' hgranted, h.visible]
  loaded := h.loaded
  shown := h.shown

end

/-! ## The search -/

/-- The handles that a search for a key collects. -/
def keyHandles (tok : Token) (label : Bytes) (cls : UInt32) : List UInt32 :=
  ((tok.objects.objs.filter (FindFilter.ofTemplate (keyTemplate label cls)).admits).map
    (·.handle)).filter (tok.findKeeps (.ofTemplate (keyTemplate label cls)))

theorem findKey_eq (tok : Token) (label : Bytes) (cls : UInt32) (f : FindSlot) :
    findKey tok label cls f =
      if f.active then (none, f)
      else if tok.storeVisible then ((keyHandles tok label cls).head?.filter (· != 0), {})
      else (none, { active := true }) := by
  have hcheck : checkTemplate (.list (keyTemplate label cls)) = .ok (keyTemplate label cls) := rfl
  cases hactive : f.active with
  | true => simp [findKey, FindSlot.init, hactive]
  | false =>
    cases hvisible : tok.storeVisible with
    | false => simp [findKey, FindSlot.init, hactive, hcheck, objectFind, hvisible]
    | true =>
      have hinit : f.init tok (.list (keyTemplate label cls)) =
          (.ok (), { active := true, rest := keyHandles tok label cls }) := by
        simp [FindSlot.init, hactive, hcheck, objectFind, hvisible, keyHandles]
      unfold findKey
      rw [hinit]
      cases keyHandles tok label cls with
      | nil => rfl
      | cons h hs =>
        by_cases hzero : h = 0 <;> simp [FindSlot.next, FindSlot.final, hzero, Option.filter]

/-- A search leaves its slot in a state that does not depend on the objects. -/
theorem findKey_slot {t t' : Token} (h : t.storeVisible = t'.storeVisible) (label : Bytes)
    (cls : UInt32) (f : FindSlot) :
    (findKey t label cls f).2 = (findKey t' label cls f).2 := by
  rw [findKey_eq, findKey_eq, h]
  split
  · rfl
  · split <;> rfl

theorem admits_label {label : Bytes} {cls : UInt32} (hlen : label.length < maxKeyLabel)
    (htext : 0 ∉ label) {o : Obj}
    (h : (ofTemplate (keyTemplate label cls)).admits o = true) :
    cstr o.label.toList = label := by
  have hfilter : (ofTemplate (keyTemplate label cls)).label =
      some (label.take filterLabelMax) := rfl
  have htake : label.take filterLabelMax = label :=
    take_of_length_le (by unfold maxKeyLabel at hlen; unfold filterLabelMax; omega)
  have hcstr : cstr label = label :=
    cstr_eq_self fun c hc => bne_iff_ne.2 fun hzero => htext (hzero ▸ hc)
  unfold admits at h
  rw [hfilter, htake] at h
  simpa [hcstr] using (Bool.and_eq_true_iff.1 h).2

section

variable {policy : List Rule} {subject : Bytes} {t t' : Token} {label : Bytes} {cls : UInt32}
  (h : TokensDiffer policy subject t t') (hsep : Separated policy subject t)
  (hsep' : Separated policy subject t')

include h

theorem TokensDiffer.storeVisible : t.storeVisible = t'.storeVisible := by
  unfold Token.storeVisible
  rw [h.loaded, h.shown]

variable (hlen : label.length < maxKeyLabel) (htext : 0 ∉ label)
  (hpermit : permits policy subject label = true)

include hlen htext hpermit

/-- Searching for a granted label passes over the objects that are not granted. -/
theorem TokensDiffer.filter_admits :
    t.objects.objs.filter (ofTemplate (keyTemplate label cls)).admits =
      t'.objects.objs.filter (ofTemplate (keyTemplate label cls)).admits := by
  have honly : ∀ objs : List Obj,
      objs.filter (ofTemplate (keyTemplate label cls)).admits =
        (objs.filter (granted policy subject)).filter
          (ofTemplate (keyTemplate label cls)).admits := by
    intro objs
    rw [filter_filter]
    refine filter_congr fun o _ => ?_
    cases hadmits : (ofTemplate (keyTemplate label cls)).admits o with
    | false => rfl
    | true =>
      rw [Bool.true_and, granted, admits_label hlen htext hadmits, hpermit]
  rw [honly t.objects.objs, honly t'.objects.objs, h.visible]

include hsep hsep'

/-- The handles found under a granted label mean the same in both tokens. -/
theorem TokensDiffer.alikeAt_of_mem {handle : UInt32}
    (hmem : handle ∈ (t.objects.objs.filter (ofTemplate (keyTemplate label
      cls)).admits).map (·.handle)) : t.AlikeAt handle t' := by
  obtain ⟨o, ho, rfl⟩ := mem_map.1 hmem
  obtain ⟨ho, hadmits⟩ := mem_filter.1 ho
  refine h.alikeAt hsep hsep' ho ?_
  rw [granted, admits_label hlen htext hadmits, hpermit]

theorem TokensDiffer.keyHandles_eq : keyHandles t label cls = keyHandles t' label cls := by
  unfold keyHandles
  rw [← h.filter_admits hlen htext hpermit]
  refine filter_congr fun handle hmem => ?_
  have halike := h.alikeAt_of_mem hsep hsep' hlen htext hpermit hmem
  unfold findKeeps
  rw [h.loggedIn, halike.objectGet, halike.find]

theorem TokensDiffer.findKey_alike (cls : UInt32) (f : FindSlot) :
    findKey t label cls f = findKey t' label cls f ∧
      ∀ handle ∈ (findKey t label cls f).1, t.AlikeAt handle t' := by
  have heq : findKey t label cls f = findKey t' label cls f := by
    rw [findKey_eq, findKey_eq, h.storeVisible, h.keyHandles_eq hsep hsep' hlen htext hpermit]
  refine ⟨heq, fun handle hfound => ?_⟩
  rw [findKey_eq] at hfound
  split at hfound
  · cases hfound
  split at hfound
  · have hhead : handle ∈ keyHandles t label cls :=
      mem_of_mem_head? (Option.mem_filter_iff.1 hfound).1
    exact h.alikeAt_of_mem hsep hsep' hlen htext hpermit (mem_filter.1 hhead).1
  · cases hfound

end

/-! ## The routes -/

section

variable {cfg : Config} {subject : Bytes} {t t' : Token}
  (h : TokensDiffer cfg.policy subject t t') (hsep : Separated cfg.policy subject t)
  (hsep' : Separated cfg.policy subject t')

include h hsep hsep'

theorem doSign_alike (env : Circumstances P) (r : Request) (s : Session P) :
    doSign cfg env t subject r s = doSign cfg env t' subject r s := by
  unfold doSign
  cases hkey : r.key with
  | none => rfl
  | some key =>
    dsimp only
    obtain ⟨-, hlen, htext⟩ := r.key_text key hkey
    split
    · rfl
    split
    · rfl
    cases hpermit : permits cfg.policy subject key with
    | false =>
      -- whatever the search found, the answer is the refusal
      rw [findKey_slot h.storeVisible]
    | true =>
      obtain ⟨heq, halike⟩ := h.findKey_alike hsep hsep' hlen htext hpermit ckoPrivateKey s.find
      rw [← heq]
      cases hfound : (findKey t key ckoPrivateKey s.find).1 with
      | none => rfl
      | some handle => simp only [signWithKey_alike env (halike handle hfound)]

theorem doVerify_alike (env : Circumstances P) (r : Request) (s : Session P) :
    doVerify cfg env t subject r s = doVerify cfg env t' subject r s := by
  unfold doVerify
  cases hkey : r.key with
  | none => rfl
  | some key =>
    dsimp only
    obtain ⟨-, hlen, htext⟩ := r.key_text key hkey
    split
    · rfl
    cases r.siglen with
    | none => rfl
    | some siglen =>
      dsimp only
      split
      · rfl
      split
      · rfl
      split
      · rfl
      cases hpermit : permits cfg.policy subject key with
      | false => rw [findKey_slot h.storeVisible]
      | true =>
        obtain ⟨heq, halike⟩ := h.findKey_alike hsep hsep' hlen htext hpermit ckoPublicKey s.find
        rw [← heq]
        cases hfound : (findKey t key ckoPublicKey s.find).1 with
        | none => rfl
        | some handle => simp only [verifyWithKey_alike env (halike handle hfound)]

theorem route_alike (env : Circumstances P) (r : Request) (s : Session P) :
    route cfg env t subject r s = route cfg env t' subject r s := by
  unfold route tokenInfo
  rw [h.header, doSign_alike h hsep hsep', doVerify_alike h hsep hsep']

end

/-! ## Runs -/

/-- States that differ only in objects of the token that are not granted to the client. -/
structure Differ (policy : List Rule) (subject : Bytes) (s s' : State P) : Prop where
  tok : TokensDiffer policy subject s.tok s'.tok
  sessions : s.sessions = s'.sessions
  budget : s.budget = s'.budget
  idents : s.idents = s'.idents
  pending : s.pending = s'.pending

/-- The event belongs to a request of the client, or to one that could not be read. -/
def Carries (subject : Bytes) (s : State P) : Event P → Prop
  | .arrive _ (.ok r) _ _ => r.subject = some subject
  | .arrive _ (.error _) _ _ => True
  | .answer conn _ => ∀ p ∈ s.pending.find? (·.1 == conn), p.2.subject = some subject

instance (subject : Bytes) (s : State P) : ∀ e : Event P, Decidable (Carries subject s e)
  | .arrive _ (.ok r) _ _ => inferInstanceAs (Decidable (r.subject = some subject))
  | .arrive _ (.error _) _ _ => .isTrue trivial
  | .answer conn _ => inferInstanceAs
      (Decidable (∀ p ∈ s.pending.find? (·.1 == conn), p.2.subject = some subject))

/-- What a run keeps of two states. -/
structure Indistinct (policy : List Rule) (subject : Bytes) (s s' : State P) : Prop where
  differ : Differ policy subject s s'
  separated : Separated policy subject s.tok
  separated' : Separated policy subject s'.tok

section

variable {cfg : Config} {subject : Bytes} {s s' : State P}

/-- Such states share all but the token, and stay so when the rest changes alike. -/
theorem Indistinct.same {policy : List Rule} (h : Indistinct policy subject s s') :
    s' = { s with tok := s'.tok } ∧ ∀ sessions budget idents pending, Indistinct policy subject
      (⟨s.tok, sessions, budget, idents, pending⟩ : State P)
      ⟨s'.tok, sessions, budget, idents, pending⟩ := by
  obtain ⟨⟨htok, hsessions, hbudget, hidents, hpending⟩, hsep, hsep'⟩ := h
  refine ⟨?_, fun _ _ _ _ => ⟨⟨htok, rfl, rfl, rfl, rfl⟩, hsep, hsep'⟩⟩
  rw [hsessions, hbudget, hidents, hpending]

theorem arrive_alike (h : Indistinct cfg.policy subject s s') (conn : Nat)
    (request : Except Nat Request) (budgetNow identNow : Int) :
    (arrive cfg conn request budgetNow identNow s).1 =
        (arrive cfg conn request budgetNow identNow s').1 ∧
      Indistinct cfg.policy subject (arrive cfg conn request budgetNow identNow s).2
        (arrive cfg conn request budgetNow identNow s').2 := by
  obtain ⟨heq, hsame⟩ := h.same
  rw [heq]
  unfold arrive
  cases request with
  | error status => exact ⟨rfl, hsame ..⟩
  | ok r =>
    dsimp only
    split
    · exact ⟨rfl, hsame ..⟩
    cases r.subject with
    | none => exact ⟨rfl, hsame ..⟩
    | some who =>
      dsimp only
      split
      · exact ⟨rfl, hsame ..⟩
      split
      · exact ⟨rfl, hsame ..⟩
      · exact ⟨rfl, hsame ..⟩

theorem answerRequest_alike (h : Indistinct cfg.policy subject s s') (env : Circumstances P)
    {r : Request} (hr : r.subject = some subject) :
    (answerRequest cfg env r s).1 = (answerRequest cfg env r s').1 ∧
      Indistinct cfg.policy subject (answerRequest cfg env r s).2
        (answerRequest cfg env r s').2 := by
  obtain ⟨heq, hsame⟩ := h.same
  rw [heq]
  unfold answerRequest
  rw [hr, Option.getD_some]
  dsimp only
  rw [← route_alike h.differ.tok h.separated h.separated' env r (s.sessions env.session)]
  rcases route cfg env s.tok subject r (s.sessions env.session) with ⟨v | response, session⟩
  · dsimp only
    split
    · exact ⟨rfl, hsame ..⟩
    · exact ⟨rfl, hsame ..⟩
  · exact ⟨rfl, hsame ..⟩

/-- One event is answered alike, and keeps the states apart only where they were. -/
theorem step_alike (h : Indistinct cfg.policy subject s s') {e : Event P}
    (he : Carries subject s e) :
    (step cfg s e).1 = (step cfg s' e).1 ∧
      Indistinct cfg.policy subject (step cfg s e).2 (step cfg s' e).2 := by
  cases e with
  | arrive conn request budgetNow identNow => exact arrive_alike h conn request budgetNow identNow
  | answer conn env =>
    show (answer cfg conn env s).1 = (answer cfg conn env s').1 ∧
      Indistinct cfg.policy subject (answer cfg conn env s).2 (answer cfg conn env s').2
    unfold answer
    rw [← h.differ.pending]
    cases hfind : s.pending.find? (·.1 == conn) with
    | none => exact ⟨rfl, h⟩
    | some p =>
      have hnext : Indistinct cfg.policy subject
          { s with pending := s.pending.eraseP (·.1 == conn) }
          { s' with pending := s.pending.eraseP (·.1 == conn) } :=
        ⟨⟨h.differ.tok, h.differ.sessions, h.differ.budget, h.differ.idents, rfl⟩,
          h.separated, h.separated'⟩
      obtain ⟨hout, hstate⟩ := answerRequest_alike hnext env (he p hfind)
      exact ⟨congrArg some hout, hstate⟩

end

/-- Where no object that is not granted to a client has the handle of one that is, the client gets
the same responses from two states that differ only in objects that are not granted to it, over
every sequence of its requests. -/
theorem responses_eq (cfg : Config) (subject : Bytes) {s s' : State P}
    (hdiffer : Differ cfg.policy subject s s') (hsep : Separated cfg.policy subject s.tok)
    (hsep' : Separated cfg.policy subject s'.tok) {events : List (Event P)}
    (hcarries : Transition.Along (fun s e => (step cfg s e).2) (Carries subject) s events) :
    outputs (step cfg) s events = outputs (step cfg) s' events :=
  outputs_eq_of_related (fun _ _ _ h he => step_alike h he)
    (⟨hdiffer, hsep, hsep'⟩ : Indistinct cfg.policy subject s s') hcarries

/-! ## A client with one key -/

/-- Signatures that show the key and the message. -/
def showing : Provider := { Provider.plain with compositeSign := fun _ _ k b => .ok (k ++ b) }

/-- A composite private key whose label and value are one byte. -/
def compositeKey (handle : UInt32) (b : UInt8) : Obj :=
  { Obj.zero with
    handle := handle, cls := ckoPrivateKey, keyType := ckkCompositeMldsa65Ed25519
    label := overlay (Vector.replicate 64 0) [b], value := [b]
    value_le := Nat.le_of_ble_eq_true rfl }

/-- A service that has answered nothing yet. -/
def idle (tok : Token) : State showing where
  tok := tok
  sessions := fun _ => {}
  budget := List.replicate 256 {}
  idents := List.replicate 128 {}
  pending := []

/-- Client 1 may use the key with label 2. -/
def oneRule : Config := ⟨[⟨[1], [2]⟩], 4, 0⟩

/-- Client 1 asks for a signature with the key of a label. -/
def askSign (label : UInt8) (h : label ≠ 0) : Request where
  method := .post
  target := .sign
  subject := some [1]
  subjectRepeated := false
  key := some [label]
  keyRepeated := false
  siglen := none
  siglenRepeated := false
  body := [5]
  key_text := by simp [maxKeyLabel, Ne.symm h]

def atRest : Circumstances showing := ⟨1, false, false, false, (), (), 0, 0⟩

/-- A request and its answer. -/
def exchange (r : Request) : List (Event showing) := [.arrive 0 (.ok r) 0 0, .answer 0 atRest]

/-- The token of a service whose user is logged in. -/
def keysOf (objs : List Obj) (h : objs.length ≤ maxObjects) : State showing :=
  idle (Token.holding objs h)

theorem granted_compositeKey (handle : UInt32) :
    granted oneRule.policy [1] (compositeKey handle 3) = false := by
  show permits oneRule.policy [1] (cstr (overlay (Vector.replicate 64 0) [3]).toList) = false
  decide +kernel

/-- A token with a key of label 3 before the others, and one without it. -/
theorem differ_hidden (handle : UInt32) {objs : List Obj}
    (h : (compositeKey handle 3 :: objs).length ≤ maxObjects) (h' : objs.length ≤ maxObjects) :
    Differ oneRule.policy [1] (keysOf (compositeKey handle 3 :: objs) h) (keysOf objs h') where
  tok := ⟨rfl, rfl, rfl, rfl, rfl, rfl,
    filter_cons_of_neg (ne_true_of_eq_false (granted_compositeKey handle))⟩
  sessions := rfl
  budget := rfl
  idents := rfl
  pending := rfl

/-- A token with a key of label 3 and handle `handle`, and the key of label 2 under handle 1. -/
def withHidden (handle : UInt32) : State showing :=
  keysOf [compositeKey handle 3, compositeKey 1 2] (Nat.le_of_ble_eq_true rfl)

def withoutHidden : State showing := keysOf [compositeKey 1 2] (Nat.le_of_ble_eq_true rfl)

/-- Client 1 asks for its own key and for one that only the first token has. -/
theorem responses_eq_of_two_labels :
    outputs (step oneRule) (withHidden 2)
        (exchange (askSign 2 (by decide)) ++ exchange (askSign 3 (by decide))) =
      outputs (step oneRule) withoutHidden
        (exchange (askSign 2 (by decide)) ++ exchange (askSign 3 (by decide))) := by
  have hsep : Separated oneRule.policy [1] (withHidden 2).tok := by decide +kernel
  have hsep' : Separated oneRule.policy [1] withoutHidden.tok := by decide +kernel
  have hcarries : Transition.Along (fun s e => (step oneRule s e).2) (Carries [1]) (withHidden 2)
      (exchange (askSign 2 (by decide)) ++ exchange (askSign 3 (by decide))) := by decide +kernel
  exact responses_eq oneRule [1] (differ_hidden 2 _ _) hsep hsep' hcarries

/-- Label 3 is not granted. While its key has the handle of the key that is, the client gets a
signature that the other key made. -/
theorem shared_handle_signs :
    Differ oneRule.policy [1] (withHidden 1) withoutHidden ∧
      Transition.Along (fun s e => (step oneRule s e).2) (Carries [1]) (withHidden 1)
        (exchange (askSign 2 (by decide))) ∧
      outputs (step oneRule) (withHidden 1) (exchange (askSign 2 (by decide))) =
        [none, some { status := 200, body := .signature [3, 5] }] ∧
      outputs (step oneRule) withoutHidden (exchange (askSign 2 (by decide))) =
        [none, some { status := 200, body := .signature [2, 5] }] :=
  ⟨differ_hidden 1 _ _, by decide +kernel, by decide +kernel, by decide +kernel⟩

end Service

end FreeHsm
