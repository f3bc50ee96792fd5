import FreeHsm.ForStd.Transition
import FreeHsm.Token.ObjectStep
import FreeHsm.Pkcs11.Attributes

/-!
# Concurrent changes of one object

`C_SetAttributeValue` holds its lock only against calls that are exclusive, so several of
them may change one object at a time. Each reads the two flag bytes, works out the new
ones and writes them back with one token function after the other; only these are atomic.
Here any number of calls take such steps in any order.
-/

namespace FreeHsm

open TokenM StateExcept List Transition

/-! ## The steps of a call -/

/-- The checks of `C_SetAttributeValue` up to the first flag byte. -/
def readFlags (errorState : Bool) (c : Caller) (tok : Token) (handle : UInt32)
    (arg : TemplateArg) : Except Err (Template × UInt8) :=
  if errorState then .error .functionFailed
  else match arg with
    | .null _ | .list [] => .error .argumentsBad
    | _ =>
      if c.role = .none then .error .userNotLoggedIn
      else do
        let t ← checkTemplate arg
        tok.checkRoObject c handle
        checkTrustedAttr c.role t
        match tok.objects.find? handle with
        | none => .error .objectHandleInvalid
        | some o => if hasBit o.flags objfUnmodifiable then .error .actionProhibited else .ok (t, o.flags)

/-- The second flag byte of an object, zero if there is none. -/
def Token.flags2Of (tok : Token) (handle : UInt32) : UInt8 :=
  (tok.objects.find? handle).elim 0 (·.flags2)

/-- The class of an object, zero if it cannot be read. -/
def Token.classOf (tok : Token) (handle : UInt32) : UInt32 :=
  (tok.objectGet handle).toOption.elim 0 (·.cls)

/-- The writes of labels and identifiers. -/
def nameOps (handle : UInt32) (t : Template) : List ObjectOp :=
  t.flatMap fun a =>
    if a.type = ckaLabel then [.setLabel handle (a.value.data.take 63)]
    else if a.type = ckaId then [.setId handle a.value.data]
    else []

/-- The write of the other attributes of an object. -/
def metaOps (handle : UInt32) (t : Template) : List ObjectOp :=
  let start := t.lastValue ckaStartDate
  let finish := t.lastValue ckaEndDate
  let app := t.lastValue ckaApplication
  if start.isSome || finish.isSome || app.isSome then [.setMeta handle start finish app] else []

/-- What a call writes, in this order. -/
def setOps (handle : UInt32) (t : Template) (old new : FlagEdit) : List ObjectOp :=
  nameOps handle t ++ (if new.flags != old.flags then [.setFlags handle new.flags] else []) ++
    (if new.flags2 != old.flags2 then [.setFlags2 handle new.flags2] else []) ++ metaOps handle t

/-- Token functions one after the other, up to the first that fails. -/
def writeEach (C : Crypto) (env : Envs) : Nat → List ObjectOp → TokenM Unit
  | _, [] => pure ()
  | k, op :: ops => do
    object C (env k) op
    writeEach C env (k + 1) ops

/-- `C_SetAttributeValue`, with no other call at the same time. -/
def setAttributeValue (C : Crypto) (env : Envs) (errorState : Bool) (c : Caller) (handle : UInt32)
    (arg : TemplateArg) : TokenM Unit := do
  let tok := (← get).tok
  let (t, flags) ← check (readFlags errorState c tok handle arg)
  let old : FlagEdit := ⟨flags, tok.flags2Of handle⟩
  let new ← check (t.foldlM (setAttrStep (tok.classOf handle)) old)
  writeEach C env 0 (setOps handle t old new)

/-- How far a call is. -/
inductive SetPhase
  | idle
  /-- It has read the first flag byte. -/
  | read (t : Template) (flags : UInt8)
  /-- It has read both. -/
  | readBoth (t : Template) (old : FlagEdit)
  /-- It knows what to write, and has this left. -/
  | writing (t : Template) (old new : FlagEdit) (todo : List ObjectOp)
  | returned (t : Template) (result : Except Err Unit)

/-- A token and the calls on one of its objects. -/
structure SetWorld where
  live : Live
  phase : Nat → SetPhase

/-- A step of call `i`. -/
inductive SetEvent
  | enter (i : Nat) (errorState : Bool) (c : Caller) (arg : TemplateArg)
  | readFlags2 (i : Nat)
  | validate (i : Nat)
  | write (i : Nat) (env : Env)

namespace SetWorld

def goto (w : SetWorld) (i : Nat) (p : SetPhase) : SetWorld :=
  { w with phase := fun j => if j = i then p else w.phase j }

variable (C : Crypto) (handle : UInt32)

def step (w : SetWorld) : SetEvent → SetWorld
  | .enter i errorState c arg =>
    match w.phase i with
    | .idle =>
      match readFlags errorState c w.live.tok handle arg with
      | .ok (t, flags) => w.goto i (.read t flags)
      | .error e => w.goto i (.returned [] (.error e))
    | _ => w
  | .readFlags2 i =>
    match w.phase i with
    | .read t flags => w.goto i (.readBoth t ⟨flags, w.live.tok.flags2Of handle⟩)
    | _ => w
  | .validate i =>
    match w.phase i with
    | .readBoth t old =>
      match t.foldlM (setAttrStep (w.live.tok.classOf handle)) old with
      | .ok new => w.goto i (.writing t old new (setOps handle t old new))
      | .error e => w.goto i (.returned t (.error e))
    | _ => w
  | .write i env =>
    match w.phase i with
    | .writing t _ _ [] => w.goto i (.returned t (.ok ()))
    | .writing t old new (op :: todo) =>
      match exec (object C env op) w.live with
      | (.ok _, live) => { w.goto i (.writing t old new todo) with live }
      | (.error e, live) => { w.goto i (.returned t (.error e)) with live }
    | _ => w

/-- The flag bytes of the object. -/
def edit? (w : SetWorld) : Option FlagEdit :=
  (w.live.tok.objects.find? handle).map fun o => ⟨o.flags, o.flags2⟩

/-- The byte that a write replaces is as the call has read it. -/
def replaces (old : FlagEdit) (op : ObjectOp) (e : FlagEdit) : Bool :=
  match op with
  | .setFlags _ _ => e.flags == old.flags
  | .setFlags2 _ _ => e.flags2 == old.flags2
  | _ => true

/-- A flag byte is written only while it is as the call has read it. -/
def Unchanged (w : SetWorld) : SetEvent → Prop
  | .write i _ =>
    (match w.phase i with
    | .writing _ old _ (op :: _) => (w.edit? handle).all (replaces old op)
    | _ => true) = true
  | _ => True

instance decidableUnchanged (w : SetWorld) (ev : SetEvent) : Decidable (w.Unchanged handle ev) :=
  match ev with
  | .write _ _ => inferInstanceAs (Decidable (_ = true))
  | .enter .. | .readFlags2 _ | .validate _ => .isTrue trivial

end SetWorld

/-- The changes of rights a template asks for. -/
structure Template.InEffect (t : Template) (e : FlagEdit) : Prop where
  sensitive : ∀ a ∈ t, a.type = ckaSensitive → bboolValue a.value = .ok true →
    hasBit e.flags objfSensitive = true
  extractable : ∀ a ∈ t, a.type = ckaExtractable → bboolValue a.value = .ok false →
    hasBit e.flags objfExtractable = false
  wrapWithTrusted : ∀ a ∈ t, a.type = ckaWrapWithTrusted → bboolValue a.value = .ok true →
    hasBit e.flags2 objf2WrapWithTrusted = true
  copyable : ∀ a ∈ t, a.type = ckaCopyable → bboolValue a.value = .ok false →
    hasBit e.flags2 objf2NotCopyable = true

/-! ## What a template asks for -/

variable {t : Template} {handle : UInt32} {new : FlagEdit} {op : ObjectOp} {r : Except Err Unit}

theorem Template.InEffect.mono {e e' : FlagEdit} (h : t.InEffect e) (hle : e'.AtMost e) :
    t.InEffect e' where
  sensitive := fun a ha htype hv => hle.sensitive (h.sensitive a ha htype hv)
  extractable := fun a ha htype hv => by
    have hno := h.extractable a ha htype hv
    cases hb : hasBit e'.flags objfExtractable with
    | false => rfl
    | true => rw [hle.extractable hb] at hno; cases hno
  wrapWithTrusted := fun a ha htype hv => hle.wrapWithTrusted (h.wrapWithTrusted a ha htype hv)
  copyable := fun a ha htype hv => hle.notCopyable (h.copyable a ha htype hv)

theorem inEffect_of_step {cls : UInt32} {s s₁ : FlagEdit} {a : Attr}
    (h : setAttrStep cls s a = .ok s₁) : Template.InEffect [a] s₁ := by
  constructor
  all_goals
    intro b hb htype hv
    obtain rfl := mem_singleton.1 hb
    unfold setAttrStep at h
    simp +decide only [htype, ↓reduceIte] at h
    obtain ⟨want, hwant, h⟩ := bind_ok h
    obtain ⟨f, hf, h⟩ := bind_ok h
    cases h
    cases hv.symm.trans hwant
  · exact (raiseBit_ok (by decide) hf).1
  · exact (lowerBit_ok hf).1
  · exact (raiseBit_ok (by decide) hf).1
  · exact (raiseBit_ok (by decide) hf).1

/-- The loop adds restrictions only, and all that the template asks for. -/
theorem setAttrLoop_inEffect {cls : UInt32} {s s₁ : FlagEdit}
    (h : t.foldlM (setAttrStep cls) s = .ok s₁) : s₁.AtMost s ∧ t.InEffect s₁ := by
  induction t generalizing s with
  | nil =>
    cases h
    exact ⟨.refl _, nofun, nofun, nofun, nofun⟩
  | cons a t ih =>
    rw [foldlM_cons] at h
    obtain ⟨s₂, hstep, h⟩ := bind_ok h
    obtain ⟨hle, heffect⟩ := ih h
    have hfirst := (inEffect_of_step hstep).mono hle
    refine ⟨hle.trans (setAttrStep_atMost hstep), ?_, ?_, ?_, ?_⟩
    all_goals refine forall_mem_cons.2 ⟨?_, ?_⟩
    · exact hfirst.sensitive a (mem_singleton_self a)
    · exact heffect.sensitive
    · exact hfirst.extractable a (mem_singleton_self a)
    · exact heffect.extractable
    · exact hfirst.wrapWithTrusted a (mem_singleton_self a)
    · exact heffect.wrapWithTrusted
    · exact hfirst.copyable a (mem_singleton_self a)
    · exact heffect.copyable

/-! ## One write -/

/-- An operation of a call: it writes one of the new flag bytes, or no flags at all. -/
inductive SetOp (handle : UInt32) (new : FlagEdit) (op : ObjectOp) : Prop
  | flags (h : op = .setFlags handle new.flags)
  | flags2 (h : op = .setFlags2 handle new.flags2)
  | other (hop : op.setter? = some handle)
      (hkeep : ∀ o, op.newFlags o = o.flags ∧ op.newFlags2 o = o.flags2)
      (hne : ∀ f, op ≠ .setFlags handle f) (hne2 : ∀ f, op ≠ .setFlags2 handle f)

theorem SetOp.setter (h : SetOp handle new op) : op.setter? = some handle := by
  cases h with
  | flags h => rw [h]; rfl
  | flags2 h => rw [h]; rfl
  | other hop => exact hop

theorem setOp_of_mem {old : FlagEdit} (h : op ∈ setOps handle t old new) : SetOp handle new op := by
  unfold setOps at h
  simp only [mem_append, or_assoc] at h
  rcases h with h | h | h | h
  · obtain ⟨a, -, h⟩ := mem_flatMap.1 h
    split at h
    · rw [mem_singleton.1 h]
      exact .other rfl (fun _ => ⟨rfl, rfl⟩) nofun nofun
    · split at h
      · rw [mem_singleton.1 h]
        exact .other rfl (fun _ => ⟨rfl, rfl⟩) nofun nofun
      · cases h
  · split at h
    · exact .flags (mem_singleton.1 h)
    · cases h
  · split at h
    · exact .flags2 (mem_singleton.1 h)
    · cases h
  · unfold metaOps at h
    dsimp only at h
    split at h
    · rw [mem_singleton.1 h]
      exact .other rfl (fun _ => ⟨rfl, rfl⟩) nofun nofun
    · cases h

/-- What a write does to the flag bytes, and that it does it if it succeeds. -/
structure Wrote (handle : UInt32) (new : FlagEdit) (op : ObjectOp) (r : Except Err Unit)
    (o o' : Obj) : Prop where
  flags : o'.flags = o.flags ∨ op = .setFlags handle new.flags ∧ o'.flags = new.flags
  flags2 : o'.flags2 = o.flags2 ∨ op = .setFlags2 handle new.flags2 ∧ o'.flags2 = new.flags2
  done : r = .ok () → op = .setFlags handle new.flags → o'.flags = new.flags
  done2 : r = .ok () → op = .setFlags2 handle new.flags2 → o'.flags2 = new.flags2

theorem SetOp.wrote {C : Crypto} {env : Env} {live live' : Live} {o : Obj}
    (hop : SetOp handle new op) (hrun : exec (object C env op) live = (r, live'))
    (ho : live.tok.objects.find? handle = some o) :
    ∃ o', live'.tok.objects.find? handle = some o' ∧ Wrote handle new op r o o' := by
  rw [exec_object] at hrun
  rcases hobj : live.tok.object C env op live.disk with ⟨rv, tok', d'⟩
  rw [hobj] at hrun
  obtain ⟨hr, rfl⟩ := Prod.mk.inj hrun
  have hrv : r = .ok () → rv = .ok := by
    intro hok
    rw [hok] at hr
    cases rv with
    | ok => rfl
    | err e => cases hr
  have hedits := Token.object_edits hop.setter hobj
  obtain ⟨o', ho', hflags, hflags2⟩ : ∃ o', tok'.objects.find? handle = some o' ∧
      (o'.flags = o.flags ∨ o'.flags = op.newFlags o) ∧
      (o'.flags2 = o.flags2 ∨ o'.flags2 = op.newFlags2 o) := by
    rcases hedits.find? hop.setter ho with ho' | ⟨o', ho', hedit⟩
    · exact ⟨o, ho', .inl rfl, .inl rfl⟩
    · exact ⟨o', ho', .inr hedit.flags, .inr hedit.flags2⟩
  refine ⟨o', ho', ?_, ?_, ?_, ?_⟩
  · refine hflags.elim .inl fun h => ?_
    cases hop with
    | flags hop => rw [hop] at h; exact .inr ⟨hop, h⟩
    | flags2 hop => rw [hop] at h; exact .inl h
    | other _ hkeep => exact .inl (h.trans (hkeep o).1)
  · refine hflags2.elim .inl fun h => ?_
    cases hop with
    | flags hop => rw [hop] at h; exact .inl h
    | flags2 hop => rw [hop] at h; exact .inr ⟨hop, h⟩
    | other _ hkeep => exact .inl (h.trans (hkeep o).2)
  · rintro hok rfl
    rw [hrv hok] at hobj
    obtain ⟨o₁, ho₁, hset⟩ := Token.object_setFlags_ok hobj
    obtain rfl : o₁ = o' := Option.some.inj (ho₁.symm.trans ho')
    exact hset
  · rintro hok rfl
    rw [hrv hok] at hobj
    obtain ⟨o₁, ho₁, hset⟩ := Token.object_setFlags2_ok hobj
    obtain rfl : o₁ = o' := Option.some.inj (ho₁.symm.trans ho')
    exact hset

theorem SetOp.find_none {C : Crypto} {env : Env} {live live' : Live} (hop : SetOp handle new op)
    (hrun : exec (object C env op) live = (r, live')) (ho : live.tok.objects.find? handle = none) :
    live'.tok.objects.find? handle = none := by
  rw [exec_object] at hrun
  rcases hobj : live.tok.object C env op live.disk with ⟨rv, tok', d'⟩
  rw [hobj] at hrun
  obtain ⟨-, rfl⟩ := Prod.mk.inj hrun
  cases Token.object_edits hop.setter hobj with
  | refused h => rw [h]; exact ho
  | edited handle' o o' hop' _ hfind =>
    obtain rfl : handle = handle' := Option.some.inj (hop.setter.symm.trans hop')
    rw [ho] at hfind
    cases hfind

/-- A write whose byte has not changed adds restrictions only. -/
theorem Wrote.atMost {old : FlagEdit} {o o' : Obj} (h : Wrote handle new op r o o')
    (hnew : new.AtMost old) (hflags : ∀ f, op = .setFlags handle f → o.flags = old.flags)
    (hflags2 : ∀ f, op = .setFlags2 handle f → o.flags2 = old.flags2) :
    FlagEdit.AtMost ⟨o'.flags, o'.flags2⟩ ⟨o.flags, o.flags2⟩ := by
  constructor
  · rcases h.flags with hf | ⟨hop, hf⟩
    · dsimp only
      rw [hf]
      exact id
    · dsimp only
      rw [hf, hflags _ hop]
      exact hnew.sensitive
  · rcases h.flags with hf | ⟨hop, hf⟩
    · dsimp only
      rw [hf]
      exact id
    · dsimp only
      rw [hf, hflags _ hop]
      exact hnew.extractable
  · rcases h.flags2 with hf | ⟨hop, hf⟩
    · dsimp only
      rw [hf]
      exact id
    · dsimp only
      rw [hf, hflags2 _ hop]
      exact hnew.wrapWithTrusted
  · rcases h.flags2 with hf | ⟨hop, hf⟩
    · dsimp only
      rw [hf]
      exact id
    · dsimp only
      rw [hf, hflags2 _ hop]
      exact hnew.notCopyable

/-! ## Calls in any order -/

namespace SetWorld

variable {C : Crypto} {handle : UInt32}

/-- What a call has read and what it has still to write, given the flag bytes of the object. -/
def PhaseFits (handle : UInt32) (e : FlagEdit) : SetPhase → Prop
  | .idle => True
  | .read _ flags => e.AtMost ⟨flags, e.flags2⟩
  | .readBoth _ old => e.AtMost old
  | .writing t old new todo => e.AtMost old ∧ new.AtMost old ∧ t.InEffect new ∧
      (.setFlags handle new.flags ∈ todo ∨ e.AtMost ⟨new.flags, old.flags2⟩) ∧
      (.setFlags2 handle new.flags2 ∈ todo ∨ e.AtMost ⟨old.flags, new.flags2⟩)
  | .returned t (.ok _) => t.InEffect e
  | .returned _ (.error _) => True

variable {p : SetPhase} {i : Nat} {w : SetWorld} {t : Template} {old new : FlagEdit} {op : ObjectOp}
  {todo : List ObjectOp}

theorem PhaseFits.mono {e e' : FlagEdit} (h : PhaseFits handle e p) (hle : e'.AtMost e) :
    PhaseFits handle e' p := by
  cases p with
  | idle => trivial
  | read t flags =>
    have h : e.AtMost ⟨flags, e.flags2⟩ := h
    exact ⟨hle.sensitive ∘ h.sensitive, h.extractable ∘ hle.extractable, id, id⟩
  | readBoth t old => exact hle.trans h
  | writing t old new todo =>
    obtain ⟨hold, hnew, heffect, hflags, hflags2⟩ := h
    exact ⟨hle.trans hold, hnew, heffect, hflags.imp id hle.trans, hflags2.imp id hle.trans⟩
  | returned t r =>
    cases r with
    | ok u => exact .mono h hle
    | error err => trivial

/-- What is left to write are writes of the call. -/
def OpsFit (handle : UInt32) : SetPhase → Prop
  | .writing _ _ new todo => ∀ op ∈ todo, SetOp handle new op
  | _ => True

/-- Every call fits the object. -/
structure Inv (handle : UInt32) (w : SetWorld) : Prop where
  fits : ∀ e ∈ w.edit? handle, ∀ i, PhaseFits handle e (w.phase i)
  ops : ∀ i, OpsFit handle (w.phase i)

theorem goto_self (w : SetWorld) (i : Nat) (p : SetPhase) : (w.goto i p).phase i = p := if_pos rfl

theorem goto_other (w : SetWorld) {j : Nat} (h : j ≠ i) (p : SetPhase) :
    (w.goto i p).phase j = w.phase j := if_neg h

theorem goto_live (w : SetWorld) (i : Nat) (p : SetPhase) : (w.goto i p).live = w.live := rfl

theorem Inv.goto (h : w.Inv handle) (live : Live) (hops : OpsFit handle p)
    (hobj : ∀ e' ∈ edit? handle { w.goto i p with live }, PhaseFits handle e' p ∧
      ∃ e ∈ w.edit? handle, e'.AtMost e) : Inv handle { w.goto i p with live } := by
  refine ⟨fun e' he' j => ?_, fun j => ?_⟩
  · obtain ⟨hp, e, he, hle⟩ := hobj e' he'
    show PhaseFits handle e' ((w.goto i p).phase j)
    by_cases hj : j = i
    · rw [hj, goto_self]
      exact hp
    · rw [goto_other w hj]
      exact (h.fits e he j).mono hle
  · show OpsFit handle ((w.goto i p).phase j)
    by_cases hj : j = i
    · rw [hj, goto_self]
      exact hops
    · rw [goto_other w hj]
      exact h.ops j

theorem Inv.goto_read (h : w.Inv handle) (hops : OpsFit handle p)
    (hp : ∀ e ∈ w.edit? handle, PhaseFits handle e p) : Inv handle (w.goto i p) :=
  h.goto w.live hops fun e he => ⟨hp e he, e, he, .refl e⟩

theorem mem_edit? {e : FlagEdit} :
    e ∈ w.edit? handle ↔
      ∃ o, w.live.tok.objects.find? handle = some o ∧ e = ⟨o.flags, o.flags2⟩ := by
  unfold edit?
  rw [Option.mem_def, Option.map_eq_some_iff]
  exact ⟨fun ⟨o, ho, h⟩ => ⟨o, ho, h.symm⟩, fun ⟨o, ho, h⟩ => ⟨o, ho, h.symm⟩⟩

/-- What is left to write after one write that succeeded. -/
theorem PhaseFits.next {o o' : Obj}
    (h : PhaseFits handle ⟨o.flags, o.flags2⟩ (.writing t old new (op :: todo)))
    (hw : Wrote handle new op (.ok ()) o o')
    (hle : FlagEdit.AtMost ⟨o'.flags, o'.flags2⟩ ⟨o.flags, o.flags2⟩) :
    PhaseFits handle ⟨o'.flags, o'.flags2⟩ (.writing t old new todo) := by
  obtain ⟨hold, hnew, heffect, hflags, hflags2⟩ := h
  have hold' := hle.trans hold
  refine ⟨hold', hnew, heffect, ?_, ?_⟩
  · rcases hflags with hmem | heff
    · rcases mem_cons.1 hmem with hop | hmem
      · right
        have hset := hw.done rfl hop.symm
        exact ⟨by rw [hset]; exact id, by rw [hset]; exact id, hold'.wrapWithTrusted,
          hold'.notCopyable⟩
      · exact .inl hmem
    · exact .inr (hle.trans heff)
  · rcases hflags2 with hmem | heff
    · rcases mem_cons.1 hmem with hop | hmem
      · right
        have hset := hw.done2 rfl hop.symm
        exact ⟨hold'.sensitive, hold'.extractable, by rw [hset]; exact id, by rw [hset]; exact id⟩
      · exact .inl hmem
    · exact .inr (hle.trans heff)

theorem write_edit {env : Env} {live : Live} (hinv : w.Inv handle)
    (hphase : w.phase i = .writing t old new (op :: todo))
    (hcond : w.Unchanged handle (.write i env)) (hrun : exec (object C env op) w.live = (r, live))
    {o : Obj} (ho : w.live.tok.objects.find? handle = some o) :
    ∃ o', live.tok.objects.find? handle = some o' ∧ Wrote handle new op r o o' ∧
      FlagEdit.AtMost ⟨o'.flags, o'.flags2⟩ ⟨o.flags, o.flags2⟩ := by
  have hfits := hinv.fits _ (mem_edit?.2 ⟨o, ho, rfl⟩) i
  have hops := hinv.ops i
  rw [hphase] at hfits hops
  obtain ⟨o', ho', hw⟩ := (hops op mem_cons_self).wrote hrun ho
  -- the byte it replaces has not changed
  have hsame : replaces old op ⟨o.flags, o.flags2⟩ = true := by
    unfold Unchanged at hcond
    dsimp only at hcond
    rw [hphase] at hcond
    exact (Option.all_eq_true _ _).1 hcond _ (mem_edit?.2 ⟨o, ho, rfl⟩)
  refine ⟨o', ho', hw, hw.atMost hfits.2.1 ?_ ?_⟩
  · rintro f rfl
    exact beq_iff_eq.1 hsame
  · rintro f rfl
    exact beq_iff_eq.1 hsame

/-- What a write leaves was there before. -/
theorem write_back {env : Env} {live : Live} {o' : Obj} (hinv : w.Inv handle)
    (hphase : w.phase i = .writing t old new (op :: todo))
    (hcond : w.Unchanged handle (.write i env)) (hrun : exec (object C env op) w.live = (r, live))
    (ho' : live.tok.objects.find? handle = some o') :
    ∃ o, w.live.tok.objects.find? handle = some o ∧ Wrote handle new op r o o' ∧
      FlagEdit.AtMost ⟨o'.flags, o'.flags2⟩ ⟨o.flags, o.flags2⟩ := by
  cases ho : w.live.tok.objects.find? handle with
  | none =>
    have hops := hinv.ops i
    rw [hphase] at hops
    rw [(hops op mem_cons_self).find_none hrun ho] at ho'
    cases ho'
  | some o =>
    obtain ⟨o₁, ho₁, hw, hle⟩ := write_edit hinv hphase hcond hrun ho
    obtain rfl : o₁ = o' := Option.some.inj (ho₁.symm.trans ho')
    exact ⟨o, rfl, hw, hle⟩

theorem readFlags_ok {errorState : Bool} {c : Caller} {tok : Token} {arg : TemplateArg}
    {flags : UInt8} (h : readFlags errorState c tok handle arg = .ok (t, flags)) :
    ∃ o, tok.objects.find? handle = some o ∧ flags = o.flags := by
  unfold readFlags at h
  split at h
  · cases h
  split at h
  · cases h
  · cases h
  simp only [ite_error_eq_ok, bind_eq_ok] at h
  obtain ⟨-, t', -, -, -, -, -, h⟩ := h
  split at h
  · cases h
  rename_i o ho
  simp only [ite_error_eq_ok] at h
  cases h.2
  exact ⟨o, ho, rfl⟩

theorem step_inv (w : SetWorld) (ev : SetEvent) (h : w.Inv handle) (hcond : w.Unchanged handle ev) :
    (w.step C handle ev).Inv handle := by
  cases ev with
  | enter i errorState c arg =>
    rw [step]
    split
    · split
      · rename_i t flags hread
        refine h.goto_read trivial fun e he => ?_
        obtain ⟨o, ho, rfl⟩ := mem_edit?.1 he
        obtain ⟨o₁, ho₁, rfl⟩ := readFlags_ok hread
        obtain rfl : o = o₁ := Option.some.inj (ho.symm.trans ho₁)
        exact .refl _
      · exact h.goto_read trivial fun _ _ => trivial
    · exact h
  | readFlags2 i =>
    rw [step]
    split
    · rename_i t flags hphase
      refine h.goto_read trivial fun e he => ?_
      have hfits := h.fits e he i
      rw [hphase] at hfits
      obtain ⟨o, ho, rfl⟩ := mem_edit?.1 he
      rw [Token.flags2Of, ho]
      exact hfits
    · exact h
  | validate i =>
    rw [step]
    split
    · rename_i t old hphase
      split
      · rename_i new hloop
        refine h.goto_read (fun op hop => setOp_of_mem hop) fun e he => ?_
        have hfits : e.AtMost old := by
          have hfits := h.fits e he i
          rw [hphase] at hfits
          exact hfits
        obtain ⟨hnew, heffect⟩ := setAttrLoop_inEffect hloop
        -- a byte that the template does not change is not written
        refine ⟨hfits, hnew, heffect, ?_, ?_⟩
        · by_cases hsame : new.flags = old.flags
          · right
            rw [hsame]
            exact hfits
          · left
            simp [setOps, hsame]
        · by_cases hsame : new.flags2 = old.flags2
          · right
            rw [hsame]
            exact hfits
          · left
            simp [setOps, hsame]
      · exact h.goto_read trivial fun _ _ => trivial
    · exact h
  | write i env =>
    rw [step]
    split
    · rename_i t old new hphase
      refine h.goto_read trivial fun e he => ?_
      have hfits := h.fits e he i
      rw [hphase] at hfits
      obtain ⟨-, -, heffect, hflags, hflags2⟩ := hfits
      have hf := hflags.resolve_left not_mem_nil
      have hf2 := hflags2.resolve_left not_mem_nil
      exact heffect.mono ⟨hf.sensitive, hf.extractable, hf2.wrapWithTrusted, hf2.notCopyable⟩
    · rename_i t old new op todo hphase
      have hops := h.ops i
      rw [hphase] at hops
      split
      · rename_i u live hrun
        refine h.goto live (fun op hop => hops op (mem_cons_of_mem _ hop)) fun e' he' => ?_
        obtain ⟨o', ho', rfl⟩ := mem_edit?.1 he'
        obtain ⟨o, ho, hw, hle⟩ := write_back h hphase hcond hrun ho'
        have hfits := h.fits _ (mem_edit?.2 ⟨o, ho, rfl⟩) i
        rw [hphase] at hfits
        exact ⟨hfits.next hw hle, _, mem_edit?.2 ⟨o, ho, rfl⟩, hle⟩
      · rename_i err live hrun
        refine h.goto live trivial fun e' he' => ?_
        obtain ⟨o', ho', rfl⟩ := mem_edit?.1 he'
        obtain ⟨o, ho, -, hle⟩ := write_back h hphase hcond hrun ho'
        exact ⟨trivial, _, mem_edit?.2 ⟨o, ho, rfl⟩, hle⟩
    · exact h

/-- What a step does to the flag bytes. -/
theorem step_edit (w : SetWorld) (ev : SetEvent) (h : w.Inv handle)
    (hcond : w.Unchanged handle ev) :
    ∀ e ∈ w.edit? handle, ∃ e' ∈ (w.step C handle ev).edit? handle, e'.AtMost e := by
  intro e he
  cases ev with
  | enter i errorState c arg =>
    rw [step]
    split
    · split <;> exact ⟨e, he, .refl e⟩
    · exact ⟨e, he, .refl e⟩
  | readFlags2 i =>
    rw [step]
    split <;> exact ⟨e, he, .refl e⟩
  | validate i =>
    rw [step]
    split
    · split <;> exact ⟨e, he, .refl e⟩
    · exact ⟨e, he, .refl e⟩
  | write i env =>
    rw [step]
    split
    · exact ⟨e, he, .refl e⟩
    · rename_i t old new op todo hphase
      obtain ⟨o, ho, rfl⟩ := mem_edit?.1 he
      split
      · rename_i u live hrun
        obtain ⟨o', ho', -, hle⟩ := write_edit h hphase hcond hrun ho
        exact ⟨_, mem_edit?.2 ⟨o', ho', rfl⟩, hle⟩
      · rename_i err live hrun
        obtain ⟨o', ho', -, hle⟩ := write_edit h hphase hcond hrun ho
        exact ⟨_, mem_edit?.2 ⟨o', ho', rfl⟩, hle⟩
    · exact ⟨e, he, .refl e⟩

/-- No call has begun. -/
def start (live : Live) : SetWorld := { live, phase := fun _ => .idle }

theorem start_inv (live : Live) : (start live).Inv handle := ⟨fun _ _ _ => trivial, fun _ => trivial⟩

/-! ## One call -/

/-- Call `i` goes on writing, with the environments from the `k`th on. -/
def writesFrom (i : Nat) (env : Envs) : Nat → Nat → List SetEvent
  | _, 0 => []
  | k, n + 1 => .write i (env k) :: writesFrom i env (k + 1) n

/-- Call `i` has returned, and the token is as the result of a whole call says. -/
def Ended (i : Nat) (r : Except Err Unit × Live) (w : SetWorld) : Prop :=
  (∃ t, w.phase i = .returned t r.1) ∧ w.live = r.2

theorem Ended.writes {r : Except Err Unit × Live} (h : w.Ended i r) (env : Envs) (k n : Nat) :
    Ended i r (run (step C handle) w (writesFrom i env k n)) := by
  induction n generalizing k with
  | zero => exact h
  | succ n ih =>
    obtain ⟨⟨t, hphase⟩, -⟩ := h
    have hstep : w.step C handle (.write i (env k)) = w := by rw [step, hphase]
    rw [writesFrom, run_cons, hstep]
    exact ih (k + 1)

theorem ended_of_writing (env : Envs) {k n : Nat} (h : w.phase i = .writing t old new todo)
    (hn : todo.length < n) :
    Ended i (exec (writeEach C env k todo) w.live)
      (run (step C handle) w (writesFrom i env k n)) := by
  induction n generalizing todo w k with
  | zero => exact absurd hn (Nat.not_lt_zero _)
  | succ n ih =>
    rw [writesFrom, run_cons, step, h]
    cases todo with
    | nil => exact .writes ⟨⟨t, goto_self ..⟩, rfl⟩ env _ _
    | cons op todo =>
      dsimp only
      rw [writeEach, exec_bind]
      rcases exec (object C (env k) op) w.live with ⟨e | u, live⟩
      · have hend : Ended i (.error e, live) { w.goto i (.returned t (.error e)) with live } :=
          ⟨⟨t, goto_self ..⟩, rfl⟩
        exact hend.writes env _ _
      · exact ih (w := { w.goto i (.writing t old new todo) with live }) (goto_self ..)
          (Nat.lt_of_succ_lt_succ hn)

/-- The steps of a call that no other comes in between are the whole call. -/
theorem run_alone (live : Live) (i : Nat) (env : Envs) (errorState : Bool) (c : Caller)
    (arg : TemplateArg) : ∃ N, ∀ n, N ≤ n →
      Ended i (exec (setAttributeValue C env errorState c handle arg) live)
        (run (step C handle) (start live)
          (.enter i errorState c arg :: .readFlags2 i :: .validate i :: writesFrom i env 0 n)) := by
  unfold setAttributeValue
  rw [exec_bind_of_ok (exec_get live), exec_bind, exec_check]
  simp only [run_cons, step, start]
  cases readFlags errorState c live.tok handle arg with
  | error e =>
    refine ⟨0, fun n _ => ?_⟩
    simp only [goto_self]
    exact .writes ⟨⟨[], goto_self ..⟩, rfl⟩ env _ _
  | ok x =>
    obtain ⟨t, flags⟩ := x
    simp only [goto_self, goto_live]
    rw [exec_bind, exec_check]
    cases t.foldlM (setAttrStep (live.tok.classOf handle)) ⟨flags, live.tok.flags2Of handle⟩ with
    | error e => exact ⟨0, fun n _ => .writes ⟨⟨t, goto_self ..⟩, rfl⟩ env _ _⟩
    | ok new =>
      refine ⟨(setOps handle t ⟨flags, live.tok.flags2Of handle⟩ new).length + 1, fun n hn => ?_⟩
      exact ended_of_writing env (goto_self ..) hn

/-! ## Calls that do not disturb each other -/

/-- If a flag byte is written only while it is as the call has read it, no step takes a restriction
back, and what a call that succeeded asked for is in effect from then on. -/
theorem oneWay_of_unchanged (C : Crypto) (handle : UInt32) (live : Live) (events : List SetEvent)
    (h : Transition.Along (step C handle) (Unchanged handle) (start live) events) :
    Transition.Along (step C handle)
      (fun w ev => ∀ e ∈ w.edit? handle, ∃ e' ∈ (w.step C handle ev).edit? handle, e'.AtMost e)
      (start live) events ∧
    ∀ i t, (run (step C handle) (start live) events).phase i = .returned t (.ok ()) →
      ∀ e ∈ (run (step C handle) (start live) events).edit? handle, t.InEffect e := by
  refine ⟨along_of_invariant step_inv step_edit (start_inv live) h, ?_⟩
  intro i t hreturned e he
  have hinv := run_invariant (step_inv (C := C)) (start_inv live) h
  have hfits := hinv.fits e he i
  rw [hreturned] at hfits
  exact hfits

/-- A template with one truth value. -/
def oneBool (type : UInt64) (v : UInt8) : TemplateArg := .list [⟨type, .bytes [v], []⟩]

/-- A call has returned with success. -/
def succeeded : SetPhase → Bool
  | .returned _ (.ok _) => true
  | _ => false

/-- Two calls that overlap and write different bytes. -/
def interleaved : List SetEvent :=
  [.enter 0 false soCaller (oneBool ckaWrapWithTrusted 1), .readFlags2 0,
    .enter 1 false soCaller (oneBool ckaSensitive 1), .readFlags2 1, .validate 0, .validate 1,
    .write 0 .quiet, .write 1 .quiet, .write 1 .quiet, .write 0 .quiet]

/-- Both succeed, and what they asked for is in effect. -/
theorem oneWay_of_unchanged_interleaved :
    ∃ live, tokenWithKey 0 = some live ∧
      let w := run (step .plain 1) (start live) interleaved
      ∀ i < 2, ∃ t e, w.phase i = .returned t (.ok ()) ∧ w.edit? 1 = some e ∧ t.InEffect e := by
  have hrun : (tokenWithKey 0).any (fun live =>
      let w := run (step .plain 1) (start live) interleaved
      decide (Transition.Along (step .plain 1) (Unchanged 1) (start live) interleaved) &&
        ((w.edit? 1).isSome && succeeded (w.phase 0) && succeeded (w.phase 1))) = true := by
    decide +kernel
  obtain ⟨live, hlive, h⟩ := (Option.any_eq_true _ _).1 hrun
  simp only [Bool.and_eq_true] at h
  obtain ⟨halong, ⟨hedit, h₀⟩, h₁⟩ := h
  refine ⟨live, hlive, fun i hi => ?_⟩
  obtain ⟨e, he⟩ := Option.isSome_iff_exists.1 hedit
  have hdone : succeeded ((run (step .plain 1) (start live) interleaved).phase i) = true := by
    obtain rfl | rfl : i = 0 ∨ i = 1 := by omega
    · exact h₀
    · exact h₁
  cases hphase : (run (step .plain 1) (start live) interleaved).phase i with
  | returned t r =>
    rw [hphase] at hdone
    cases r with
    | ok u =>
      exact ⟨t, e, rfl, he, (oneWay_of_unchanged .plain 1 live _ (of_decide_eq_true halong)).2 i t
        hphase e he⟩
    | error err => cases hdone
  | _ => rw [hphase] at hdone; cases hdone

/-- Two calls that both look at the flags before either writes: the first asks that the key be
wrapped by trusted keys only, the second that it not be copied. -/
def overlapping : List SetEvent :=
  [.enter 0 false soCaller (oneBool ckaWrapWithTrusted 1), .readFlags2 0, .validate 0,
    .enter 1 false soCaller (oneBool ckaCopyable 0), .readFlags2 1, .validate 1,
    .write 0 .quiet, .write 0 .quiet]

/-- The second write clears the bit of the first, whose call has returned with success. -/
theorem overlapping_clears_wrapWithTrusted :
    ∃ live, tokenWithKey 0 = some live ∧
      ¬Transition.Along (step .plain 1)
        (fun w ev => ∀ e ∈ w.edit? 1, ∃ e' ∈ (step .plain 1 w ev).edit? 1, e'.AtMost e)
        (start live) (overlapping ++ [.write 1 .quiet]) := by
  have hrun : (tokenWithKey 0).any (fun live =>
      let w := run (step .plain 1) (start live) overlapping
      (w.edit? 1).any (fun e => hasBit e.flags2 objf2WrapWithTrusted) &&
        ((step .plain 1 w (.write 1 .quiet)).edit? 1).all
          (fun e => !hasBit e.flags2 objf2WrapWithTrusted)) = true := by
    decide +kernel
  obtain ⟨live, hlive, h⟩ := (Option.any_eq_true _ _).1 hrun
  rw [Bool.and_eq_true, Option.any_eq_true, Option.all_eq_true] at h
  obtain ⟨⟨e, he, hset⟩, hclear⟩ := h
  refine ⟨live, hlive, fun hkept => ?_⟩
  rw [along_append] at hkept
  obtain ⟨e', he', hle⟩ := hkept.2.1 e he
  -- the bit was set before the last write, so it would still be
  have hstill := hle.wrapWithTrusted hset
  have hgone := hclear e' he'
  rw [hstill] at hgone
  cases hgone

end SetWorld

end FreeHsm
