import FreeHsm.ForStd.PowerLoss
import FreeHsm.ForStd.Transition
import FreeHsm.Token.Run

/-!
# Power failures

`write_atomic` writes the new token file beside the old one, calls `fsync` on it without
looking at the result, and renames it. Nothing syncs the directory. So a power failure can
take back a rename, or leave a file whose content never reached the disk, after the call has
been answered. The functions that try a PIN do not look at the result of `write_atomic`
either.

A run is over the system calls of `PowerLoss`. A call reports a change when its answer says
so and the token in memory has changed, written or not. `headers` and `stores` are what the
token in memory was from the last report on: the file after a restart has to be made of them.
-/

namespace FreeHsm

open PowerLoss Token Transition List

/-! ## Writes -/

def Event.written : Event → Option Rv
  | .wrote rv => some rv
  | _ => none

/-- The results of the writes from one disk to another. -/
def Disk.writes (d d' : Disk) : List Rv := (d'.log.drop d.log.length).filterMap Event.written

/-- The environment of a function whose write gets as far as the rename, or not. -/
def Env.writing (env : Env) (r : Option Bool) : Env := { env with writeOk := r.isSome }

namespace TokenOp

/-- A call, with what becomes of its writes: `none` is one that is not renamed, `some synced` one that
is, after an `fsync` that succeeded or not. `r₀` is for the login in `fhsm_token_set_pin`. -/
def writing (r r₀ : Option Bool) : TokenOp → TokenOp
  | .init env soPin label => .init (env.writing r) soPin label
  | .load env => .load env
  | .close => .close
  | .login env role pin => .login (env.writing r) role pin
  | .verifyPin env role pin => .verifyPin (env.writing r) role pin
  | .logout => .logout
  | .initUserPin env pin => .initUserPin (env.writing r) pin
  | .setPin loginEnv env role oldPin newPin =>
    .setPin (loginEnv.writing r₀) (env.writing r) role oldPin newPin
  | .reinit env newSoPin label => .reinit (env.writing r) newSoPin label
  | .object env op => .object (env.writing r) op

/-- The answer says that a change has been made, or that a PIN was wrong. -/
def tells : TokenOp → Rv → Bool
  | .init .., rv | .initUserPin .., rv | .setPin .., rv | .reinit .., rv | .object .., rv => rv == .ok
  | .login .., rv | .verifyPin .., rv => rv == .err .pinIncorrect || rv == .err .pinLocked
  | .load _, _ | .close, _ | .logout, _ => false

end TokenOp

/-- The file system after the part of a call that took the disk from `d` to `d'`. -/
def saved (fs : Fs UInt8) (r : Option Bool) (d d' : Disk) : Fs UInt8 :=
  match r, d'.file with
  | some synced, some f => if .ok ∈ d.writes d' then fs.replace synced f else fs
  | _, _ => fs

/-! ## What a file holds -/

/-- The objects of a token, and the DEK they are encrypted under. -/
structure Stored where
  dek : Key
  objects : ObjStore
  nextHandle : UInt32

namespace Token

/-- The objects in memory, if they are those of the token; otherwise only the file has them. -/
def stored (t : Token) : List Stored :=
  match t.liveDek with
  | some dek => if t.objectsLoaded then [⟨dek, t.objects, t.nextHandle⟩] else []
  | none => []

/-- What `write_atomic` writes of the token in memory. -/
def content (t : Token) : Header × List Obj × UInt32 := (t.header, t.objects.objs, t.nextHandle)

end Token

def headersOf (tok : Option Token) : List (Option Header) := tok.toList.map (some ·.header)

def storesOf (tok : Option Token) : List Stored := tok.toList.flatMap Token.stored

/-- What follows the header in a file with these objects. -/
def Stored.Tail (C : Crypto) (s : Stored) (tail : Bytes) : Prop :=
  s.objects.objs = [] ∧ tail = [] ∨ s.objects.objs ≠ [] ∧ ∃ nonce aad ct tag,
    C.encrypt s.dek nonce aad (serializeObjects s.objects s.nextHandle false) = (ct, tag) ∧
      tail = blobBytes nonce ct tag ++ pubSection s.objects s.nextHandle

/-- The file, or its absence, is complete: one of the headers, followed by the objects of one of
the stores. -/
def Holds (C : Crypto) (headers : List (Option Header)) (stores : List Stored) (f : Option Bytes) :
    Prop :=
  ∃ h ∈ headers, ∃ s ∈ stores, ∃ tail, s.Tail C tail ∧ (h = none → tail = []) ∧
    f = h.map (·.encode ++ tail)

/-- A part of a call wrote the token that is in memory afterwards. -/
def Saves (C : Crypto) (tok : Option Token) (d d' : Disk) : Prop :=
  ∃ t tail, tok = some t ∧ d'.file = some (t.header.encode ++ tail) ∧
    ((∃ s ∈ t.stored, s.Tail C tail) ∨ t.stored = [] ∧ tail = fileTail d.file)

section

variable {C : Crypto} {headers headers' : List (Option Header)} {stores stores' : List Stored}
  {f : Option Bytes} {tok : Option Token} {d d' : Disk}

theorem Holds.mono (h : Holds C headers stores f) (hheaders : headers ⊆ headers')
    (hstores : stores ⊆ stores') : Holds C headers' stores' f := by
  obtain ⟨header, hheader, s, hs, h⟩ := h
  exact ⟨header, hheaders hheader, s, hstores hs, h⟩

theorem Holds.fileTail (h : Holds C headers stores f) : ∃ s ∈ stores, s.Tail C (fileTail f) := by
  obtain ⟨header, -, s, hs, tail, htail, hnone, rfl⟩ := h
  refine ⟨s, hs, ?_⟩
  cases header with
  | none => exact hnone rfl ▸ htail
  | some header =>
    simp only [Option.map_some, FreeHsm.fileTail, header.drop_encode_append]
    exact htail

/-- A write of the token in memory; a closed store keeps what the file had. -/
theorem Holds.saves (hd : Holds C headers stores d.file) (h : Saves C tok d d')
    (hheaders : headersOf tok ⊆ headers') (hstores : storesOf tok ⊆ stores')
    (hkept : storesOf tok = [] → stores ⊆ stores') : Holds C headers' stores' d'.file := by
  obtain ⟨t, tail, rfl, hfile, hnew⟩ := h
  have hstored : storesOf (some t) = t.stored := append_nil _
  rw [hstored] at hstores hkept
  obtain ⟨s, hs, htail⟩ : ∃ s ∈ stores', s.Tail C tail := by
    rcases hnew with ⟨s, hs, htail⟩ | ⟨hclosed, rfl⟩
    · exact ⟨s, hstores hs, htail⟩
    · obtain ⟨s, hs, htail⟩ := hd.fileTail
      exact ⟨s, hkept hclosed hs, htail⟩
  exact ⟨some t.header, hheaders (mem_singleton_self _), s, hs, tail, htail, nofun, hfile⟩

theorem saves_writeAtomic {env : Env} {t : Token} {es : List Event}
    (h : writeAtomic C env t (d.record es) = (.ok, d')) (hopen : env.openFails = false) :
    Saves C (some t) d d' := by
  have hcase := writeAtomic_cases h
  generalize hrv : Rv.ok = rv at hcase
  cases hcase with
  | failed | lost => cases hrv
  | kept tail hclosed htail =>
    refine ⟨t, tail, rfl, rfl, .inr ⟨?_, htail hopen⟩⟩
    unfold Token.stored
    split
    · rename_i dek hdek
      exact if_neg fun hloaded => absurd (storeOpen_eq_true.2 ⟨⟨dek, hdek⟩, hloaded⟩) (by simp [hclosed])
    · rfl
  | emptied hstore hobjs =>
    obtain ⟨⟨dek, hdek⟩, hloaded⟩ := storeOpen_eq_true.1 hstore
    refine ⟨t, [], rfl, rfl, .inl ⟨⟨dek, t.objects, t.nextHandle⟩, ?_, .inl ⟨hobjs, rfl⟩⟩⟩
    simp [Token.stored, hdek, hloaded]
  | stored dek hdek hloaded ct tag hseal hobjs =>
    refine ⟨t, _, rfl, rfl, .inl ⟨⟨dek, t.objects, t.nextHandle⟩, ?_,
      .inr ⟨hobjs, _, _, ct, tag, hseal, rfl⟩⟩⟩
    simp [Token.stored, hdek, hloaded]

end

/-! ## Runs -/

/-- A system call on the temporary file, of a write that does not get to the rename. -/
inductive TmpOp
  | create
  | write (b : Bytes)
  | fsync
  | unlink

def TmpOp.apply (fs : Fs UInt8) : TmpOp → Fs UInt8
  | .create => fs.create
  | .write b => fs.write b
  | .fsync => fs.fsync
  | .unlink => fs.unlink

theorem TmpOp.tmpOnly (fs : Fs UInt8) (x : TmpOp) : Fs.TmpOnly fs (x.apply fs) := by
  cases x with
  | create => exact Fs.tmpOnly_create fs
  | write | fsync => exact Fs.tmpOnly_onTmp fs _
  | unlink => exact Fs.tmpOnly_unlink fs

/-- `headers` and `stores` are those of the token in memory from the last report on, and `settled` says
that the directory was synced after it. -/
structure PowerWorld where
  world : World
  fs : Fs UInt8
  headers : List (Option Header)
  stores : List Stored
  settled : Bool

inductive PowerEvent
  | call (op : TokenOp) (r r₀ : Option Bool)
  | tmp (x : TmpOp)
  /-- Something makes the system sync the directory. -/
  | syncDir
  | fail
  /-- A power failure in a call, between its last rename and its answer. -/
  | cut (op : TokenOp) (r r₀ : Option Bool)

namespace PowerWorld

variable (C : Crypto) (w : PowerWorld)

/-- The file system after a call. -/
def fsAfter (op : TokenOp) (r r₀ : Option Bool) : Fs UInt8 :=
  saved (saved w.fs r₀ w.world.disk (w.world.mid C op).disk) r (w.world.mid C op).disk (w.world.step C op).disk

/-- The answer of a call tells of a change. `fhsm_token_set_pin` tells of a wrong PIN when its login
does. -/
def told (op : TokenOp) : Bool :=
  match op.first with
  | none => op.tells (w.world.call C op).1
  | some first =>
    if (w.world.call C first).1 = .ok then op.tells (w.world.call C op).1
    else first.tells (w.world.call C first).1

/-- It does so, and the token in memory has changed. -/
def reports (op : TokenOp) : Bool :=
  w.told C op &&
    decide ((w.world.step C op).tok.map Token.content ≠ w.world.tok.map Token.content)

/-- What was in memory from the last report on. -/
def since {α : Type} (report : Bool) (before now : List α) : List α :=
  if report && !now.isEmpty then now else before ++ now

def lose (fs : Fs UInt8) : PowerWorld :=
  { w with
    world := ⟨none, ⟨fs.powerFail.read, w.world.disk.log⟩⟩
    fs := fs.powerFail }

def step : PowerEvent → PowerWorld
  | .call op r r₀ =>
    let op := op.writing r r₀
    let world := w.world.step C op
    let report := w.reports C op
    { world := world
      fs := w.fsAfter C op r r₀
      headers := since report (w.headers ++ headersOf (w.world.mid C op).tok) (headersOf world.tok)
      stores := since report (w.stores ++ storesOf (w.world.mid C op).tok) (storesOf world.tok)
      settled := !report && w.settled }
  | .tmp x => { w with fs := x.apply w.fs }
  | .syncDir => { w with fs := w.fs.syncDir, settled := true }
  | .fail => w.lose w.fs
  | .cut op r r₀ => w.lose (w.fsAfter C (op.writing r r₀) r r₀)

/-- No token, and so no objects. -/
def start : PowerWorld := ⟨⟨none, ⟨none, []⟩⟩, .empty, [none], [⟨zeroKey, .empty, 0⟩], true⟩

end PowerWorld

/-- Memory, the encryption and the old file are there for a write. -/
def Env.saves (env : Env) (file : Option Bytes) : Bool :=
  env.heapAlloc && !env.moduleError && env.blobErr.isNone && env.readErr.isNone &&
    decide ((fileTail file).length ≤ 2 * (objBlobMax + 32))

/-- The token file can be opened. -/
def TokenOp.opens : TokenOp → Bool
  | .init env .. | .login env .. | .verifyPin env .. | .initUserPin env .. | .reinit env ..
  | .object env .. => !env.openFails
  | .setPin loginEnv env .. => !loginEnv.openFails && !env.openFails
  | .load _ | .close | .logout => true

namespace PowerWorld

end PowerWorld

/-! ## The parts of a call -/

/-- One part of a call: nothing is written, or the token that is in memory afterwards. If the answer
tells of a change, there is none in the first case, and the write succeeds in the second. -/
inductive CallPart (C : Crypto) (r : Option Bool) (told : Prop) (old : Option Token) (d : Disk) :
    Option Token → Disk → Prop
  | quiet (es : List Event) (hes : es.filterMap Event.written = []) (tok : Option Token)
      (hsame : told → tok.map Token.content = old.map Token.content) :
    CallPart C r told old d tok (d.record es)
  | write (es : List Event) (hes : es.filterMap Event.written = []) (env : Env) (t : Token)
      (tok : Option Token) (rv : Rv) (d' : Disk) (hok : env.writeOk = r.isSome)
      (hopen : env.openFails = false) (htok : rv = .ok → tok = some t) (htold : told → rv = .ok)
      (h : writeAtomic C env t (d.record es) = (rv, d')) : CallPart C r told old d tok d'

section

variable {C : Crypto} {env : Env} {t t' : Token} {d d' : Disk} {rv : Rv} {r : Option Bool}
  {told : Prop} {old tok : Option Token} {fs : Fs UInt8}

theorem writeAtomic_saved (h : writeAtomic C env t d = (rv, d')) :
    (∃ es, d'.log = d.log ++ es ∧ es.filterMap Event.written = [rv]) ∧
      (rv = .ok → env.writeOk = true ∧ ∃ f, d'.file = some f) ∧ (rv ≠ .ok → d'.file = d.file) := by
  have hok : rv = .ok → env.writeOk = true := by
    rintro rfl
    unfold writeAtomic at h
    split at h
    · cases h
    split at h
    · assumption
    · cases h
  cases writeAtomic_cases h with
  | failed | lost => exact ⟨⟨_, rfl, rfl⟩, nofun, fun _ => rfl⟩
  | kept | emptied | stored => exact ⟨⟨_, rfl, rfl⟩, fun _ => ⟨hok rfl, _, rfl⟩, fun hne => absurd rfl hne⟩

variable {es : List Event} {role : Role} {pin : Bytes}

theorem writes_of_log (h : d'.log = d.log ++ es) : d.writes d' = es.filterMap Event.written := by
  rw [Disk.writes, h, drop_left]

/-- A write that has to succeed does, if the system lets it. -/
theorem storeBytes_saves (h : env.saves d.file = true) (t : Token) :
    ∃ p, storeBytes C env t d.file = .ok p := by
  simp only [Env.saves, Bool.and_eq_true, Bool.not_eq_true', Option.isNone_iff_eq_none,
    decide_eq_true_eq] at h
  obtain ⟨⟨⟨⟨hheap, hrun⟩, hblob⟩, hread⟩, htail⟩ := h
  unfold storeBytes
  split
  · split
    · exact ⟨_, rfl⟩
    · simp [hheap, Env.sealBlob, hrun, hblob]
  · unfold readExistingBlob
    split
    · exact ⟨_, rfl⟩
    split
    · exact ⟨_, rfl⟩
    rename_i f hf
    rw [hf, fileTail, length_drop] at htail
    split
    · exact ⟨_, rfl⟩
    · rw [if_neg (by omega), hread]
      exact ⟨_, rfl⟩

theorem writeAtomic_saves (h : env.saves d.file = true) (hok : env.writeOk = true) (t : Token) :
    (writeAtomic C env t d).1 = .ok := by
  obtain ⟨⟨tail, es⟩, hstore⟩ := storeBytes_saves (C := C) h t
  rw [writeAtomic, hstore]
  simp [hok]

/-- The file system follows the disk. -/
theorem CallPart.follows (h : CallPart C r told old d tok d') (hr : r ≠ some false) (hfs : fs.Sound)
    (hread : fs.read = d.file) :
    (saved fs r d d').Sound ∧ (saved fs r d d').read = d'.file ∧
      (d'.file = d.file ∨ Saves C tok d d') ∧
      (told → tok.map Token.content ≠ old.map Token.content → Saves C tok d d') := by
  have hidle : .ok ∉ d.writes d' → d'.file = d.file →
      (saved fs r d d').Sound ∧ (saved fs r d d').read = d'.file := by
    intro hnot hfile
    have hsame : saved fs r d d' = fs := by
      unfold saved
      split
      · rw [if_neg hnot]
      · rfl
    rw [hsame, hread, hfile]
    exact ⟨hfs, rfl⟩
  cases h with
  | quiet es hes tok hsame =>
    have hwrites : d.writes (d.record es) = [] := (writes_of_log rfl).trans hes
    obtain ⟨hsound, hread'⟩ := hidle (by simp [hwrites]) rfl
    exact ⟨hsound, hread', .inl rfl, fun htold hne => absurd (hsame htold) hne⟩
  | write es hes env t tok rv d' hok hopen htok htold h =>
    obtain ⟨⟨es', hlog, hes'⟩, hsaved, hkept⟩ := writeAtomic_saved h
    have hwrites : d.writes d' = [rv] := by
      rw [writes_of_log (hlog.trans (append_assoc ..)), filterMap_append, hes, hes']
      rfl
    by_cases hrv : rv = .ok
    · subst hrv
      obtain ⟨hwriteOk, f, hf⟩ := hsaved rfl
      have hsaves : Saves C tok d d' := by
        rw [htok rfl]
        exact saves_writeAtomic h hopen
      have hr : r = some true := by
        rw [hok] at hwriteOk
        cases r with
        | none => cases hwriteOk
        | some synced =>
          cases synced with
          | true => rfl
          | false => exact absurd rfl hr
      have hreplace : saved fs r d d' = fs.replace true f := by
        simp [saved, hr, hf, hwrites]
      obtain ⟨hsound, hread'⟩ := hfs.replace f
      rw [hreplace]
      exact ⟨hsound, by rw [hread', hf], .inr hsaves, fun _ _ => hsaves⟩
    · obtain ⟨hsound, hread'⟩ := hidle (by simpa [hwrites] using Ne.symm hrv) (hkept hrv)
      exact ⟨hsound, hread', .inl (hkept hrv), fun ht => absurd (htold ht) hrv⟩

/-! ## Which parts a call has -/

theorem Token.Tried.quiet {x : Option Key} (h : Tried C t role pin x es) :
    es.filterMap Event.written = [] := by
  rcases h.events with ⟨-, rfl⟩ | ⟨pt, -, rfl⟩
  · rfl
  · rfl

theorem CallPart.same (hsame : told → tok.map Token.content = old.map Token.content) :
    CallPart C r told old d tok d := by
  have h : CallPart C r told old d tok (d.record []) := .quiet [] rfl tok hsame
  rwa [Disk.record_nil] at h

section

variable (hopen : env.openFails = false) (hr : env.writeOk = r.isSome)

include hopen hr

/-- The functions that try a PIN have to write what they count. -/
theorem wrong_part (hes : es.filterMap Event.written = [])
    (hsaves : told → r.isSome = true ∧ env.saves d.file = true) (htok : tok = some t) :
    CallPart C r told old d tok (writeAtomic C env t (d.record es)).2 :=
  .write es hes env t tok (writeAtomic C env t (d.record es)).1 _ hr hopen (fun _ => htok)
    (fun hm => writeAtomic_saves (d := d.record es) (hsaves hm).2 (hr.trans (hsaves hm).1) t) rfl

theorem login_part (h : LoginOutcome C env t role pin d rv t' d')
    (hsaves : told → r.isSome = true ∧ env.saves d.file = true) :
    CallPart C r told (some t) d (some t') d' := by
  cases h with
  | refused => exact .same fun _ => rfl
  | wrong es htried => exact wrong_part hopen hr htried.quiet hsaves rfl
  | tpmRefused dek es htried => exact .quiet es htried.quiet _ fun _ => rfl
  | accepted dek es es' htried hrole hfree htpm t₁ t' ht₁ hload =>
    refine wrong_part hopen hr ?_ hsaves rfl
    obtain ⟨-, hes' | ⟨key, nonce, aad, ct, tag, pt, hes'⟩⟩ := loadIfNeeded_frame hload
    · rw [hes', filterMap_append, htried.quiet]
      rfl
    · rw [hes', filterMap_append, htried.quiet]
      rfl

end

theorem CallPart.imp {told' : Prop} (h : CallPart C r told old d tok d') (himp : told' → told) :
    CallPart C r told' old d tok d' := by
  cases h with
  | quiet es hes tok hsame => exact .quiet es hes tok fun ht => hsame (himp ht)
  | write es hes env t tok rv d' hok hopen htok htold h =>
    exact .write es hes env t tok rv d' hok hopen htok (fun ht => htold (himp ht)) h

/-- The rest of `fhsm_token_set_pin` after its login. -/
theorem setPin_part {loginEnv : Env} {oldPin newPin : Bytes} {rv₁ : Rv} {t₁ : Token} {d₁ : Disk}
    (hlong : ¬ (cstr newPin).length < 4)
    (hlogin : t.login C loginEnv role (cstr oldPin) d = (rv₁, t₁, d₁))
    (h : t.setPin C loginEnv env role oldPin newPin d = (rv, t', d'))
    (hopen : env.openFails = false) (hr : env.writeOk = r.isSome) :
    rv₁ ≠ .ok ∧ t' = t₁ ∧ d' = d₁ ∨
      rv₁ = .ok ∧ CallPart C r (rv = .ok) (some t₁) d₁ (some t') d' ∧
        (rv = .ok → Saves C (some t') d₁ d') := by
  unfold setPin at h
  rw [if_neg hlong, hlogin] at h
  cases rv₁ with
  | err e =>
    cases h
    exact .inl ⟨nofun, rfl, rfl⟩
  | ok =>
    refine .inr ⟨rfl, ?_⟩
    dsimp only at h
    split at h
    · rename_i e t₂ es hre
      have hcase := rewrapDek_cases hre
      cases h
      cases hcase
      rw [Disk.record_nil]
      exact ⟨.same nofun, nofun⟩
    · rename_i t₂ es hre
      have hcase := rewrapDek_cases hre
      rcases hwrite : writeAtomic C env t₂ (d₁.record es) with ⟨rv', d₂⟩
      rw [hwrite] at h
      cases h
      cases hcase
      refine ⟨.write _ rfl env _ _ _ _ hr hopen (fun _ => rfl) id hwrite, ?_⟩
      rintro rfl
      exact saves_writeAtomic hwrite hopen

end

theorem writes_self (d : Disk) : d.writes d = [] := by
  rw [Disk.writes, drop_length]
  rfl

theorem saved_self (fs : Fs UInt8) (r : Option Bool) (d : Disk) : saved fs r d d = fs := by
  unfold saved
  split
  · simp [writes_self]
  · rfl

namespace PowerWorld

variable {C : Crypto} {w : PowerWorld} {op : TokenOp} {r r₀ : Option Bool}

/-- What a call does to the file system, and to the token file. -/
structure Followed (C : Crypto) (w : PowerWorld) (op : TokenOp) (r r₀ : Option Bool) : Prop where
  sound : (w.fsAfter C op r r₀).Sound
  read : (w.fsAfter C op r r₀).read = (w.world.step C op).disk.file
  first : (w.world.mid C op).disk.file = w.world.disk.file ∨
    Saves C (w.world.mid C op).tok w.world.disk (w.world.mid C op).disk
  last : (w.world.step C op).disk.file = (w.world.mid C op).disk.file ∨
    Saves C (w.world.step C op).tok (w.world.mid C op).disk (w.world.step C op).disk
  report : w.reports C op = true →
    Saves C (w.world.step C op).tok w.world.disk (w.world.step C op).disk ∨
      Saves C (w.world.step C op).tok (w.world.mid C op).disk (w.world.step C op).disk

/-- A call that leaves everything as it is. -/
theorem Followed.idle (hfs : w.fs.Sound) (hread : w.fs.read = w.world.disk.file)
    (hmid : w.world.mid C op = w.world) (hstep : w.world.step C op = w.world) : Followed C w op r r₀ := by
  have hfsAfter : w.fsAfter C op r r₀ = w.fs := by
    rw [fsAfter, hmid, hstep, saved_self, saved_self]
  constructor
  case sound => rwa [hfsAfter]
  case read => rw [hfsAfter, hread, hstep]
  case first => exact .inl (by rw [hmid])
  case last => exact .inl (by rw [hmid, hstep])
  case report =>
    intro h
    simp [reports, hstep] at h

theorem Followed.setPin {loginEnv env : Env} {role : Role} {oldPin newPin : Bytes}
    (hfs : w.fs.Sound) (hread : w.fs.read = w.world.disk.file) (hr : r ≠ some false)
    (hopen₀ : loginEnv.openFails = false) (hopen : env.openFails = false)
    (hsaves : loginEnv.saves w.world.disk.file = true) :
    Followed C w ((TokenOp.setPin loginEnv env role oldPin newPin).writing r (some true)) r
      (some true) := by
  obtain ⟨⟨tok, d⟩, fs, headers, stores, settled⟩ := w
  by_cases hlong : (cstr newPin).length < 4
  · -- too short for a PIN: not even a login
    refine .idle hfs hread ?_ ?_
    · simp [World.mid, TokenOp.writing, TokenOp.first, hlong]
    · cases tok with
      | none => rfl
      | some t => simp [World.step, World.call, TokenOp.writing, Token.setPin, hlong]
  cases tok with
  | none =>
    refine .idle hfs hread ?_ rfl
    simp [World.mid, TokenOp.writing, TokenOp.first, hlong, World.step, World.call]
  | some t =>
    rcases hlogin : t.login C (loginEnv.writing (some true)) role (cstr oldPin) d with ⟨rv₁, t₁, d₁⟩
    rcases hset : t.setPin C (loginEnv.writing (some true)) (env.writing r) role oldPin newPin d with
      ⟨rv, t', d'⟩
    have hopen₁ : (loginEnv.writing (some true)).openFails = false := hopen₀
    have hpart₁ : CallPart C (some true) True (some t) d (some t₁) d₁ :=
      login_part hopen₁ rfl (login_cases hlogin) fun _ => ⟨rfl, hsaves⟩
    obtain ⟨hsound₁, hread₁, hfirst, hreport₁⟩ := hpart₁.follows (by decide) hfs hread
    set op := (TokenOp.setPin loginEnv env role oldPin newPin).writing r (some true) with hop
    set w : PowerWorld := ⟨⟨some t, d⟩, fs, headers, stores, settled⟩ with hw
    have hcall : w.world.call C op = (rv, ⟨some t', d'⟩) := by
      simp only [hw, hop, World.call, TokenOp.writing, hset]
    have hstep : w.world.step C op = ⟨some t', d'⟩ := by rw [World.step, hcall]
    have hrv : (w.world.call C op).1 = rv := by rw [hcall]
    have hopFirst : op.first = some (.login (loginEnv.writing (some true)) role (cstr oldPin)) :=
      if_neg hlong
    have hcall₁ : w.world.call C (.login (loginEnv.writing (some true)) role (cstr oldPin)) =
        (rv₁, ⟨some t₁, d₁⟩) := by
      simp only [hw, World.call, hlogin]
    have hrv₁ : (w.world.call C (.login (loginEnv.writing (some true)) role (cstr oldPin))).1 = rv₁ := by
      rw [hcall₁]
    have hmid : w.world.mid C op = ⟨some t₁, d₁⟩ := World.mid_setPin rfl ⟨hlong, hlogin⟩
    have hfsAfter : w.fsAfter C op r (some true) = saved (saved fs (some true) d d₁) r d₁ d' := by
      rw [fsAfter, hmid, hstep]
    have hreports : w.reports C op = true → (rv₁ = .ok → rv = .ok) ∧
        (some t').map Token.content ≠ (some t).map Token.content := by
      intro h
      simp only [reports, told, hopFirst, hrv, hrv₁, hstep, Bool.and_eq_true, decide_eq_true_eq] at h
      refine ⟨fun hok => ?_, h.2⟩
      simpa [hok, hop, TokenOp.writing, TokenOp.tells] using h.1
    rcases setPin_part hlong hlogin hset hopen rfl with
      ⟨hne, rfl, rfl⟩ | ⟨hok, hpart, hwrote⟩
    · -- the old PIN was not accepted
      rw [saved_self] at hfsAfter
      constructor
      case sound => rwa [hfsAfter]
      case read => rwa [hfsAfter, hstep]
      case first => rwa [hmid]
      case last => exact .inl (by rw [hmid, hstep])
      case report =>
        intro h
        rw [hstep]
        exact .inl (hreport₁ trivial (hreports h).2)
    · obtain ⟨hsound, hread, hlast, -⟩ := hpart.follows hr hsound₁ hread₁
      constructor
      case sound => rwa [hfsAfter]
      case read => rwa [hfsAfter, hstep]
      case first => rwa [hmid]
      case last => rwa [hmid, hstep]
      case report =>
        intro h
        rw [hmid, hstep]
        exact .inr (hwrote ((hreports h).1 hok))

/-- What every event keeps. -/
structure Inv (C : Crypto) (w : PowerWorld) : Prop where
  sound : w.fs.Sound
  read : w.fs.read = w.world.disk.file
  file : Holds C w.headers w.stores w.world.disk.file
  survivor : w.settled = true → Holds C w.headers w.stores w.fs.survivor

/-- A power failure leaves what survives. -/
theorem Inv.lose (hw : w.Inv C) {fs : Fs UInt8} (hguarded : fs.Guarded)
    (hsame : fs.survivor = w.fs.survivor) (hsettled : w.settled = true) : (w.lose fs).Inv C := by
  obtain ⟨hsound, hread, hsurvivor⟩ := hguarded.powerFail
  have hfile : Holds C w.headers w.stores fs.survivor := hsame ▸ hw.survivor hsettled
  exact ⟨hsound, rfl, by rw [PowerWorld.lose, hread]; exact hfile,
    fun _ => by rw [PowerWorld.lose, hsurvivor]; exact hfile⟩

theorem inv_start : Inv C start := by
  have hnone : Holds C start.headers start.stores none :=
    ⟨none, mem_singleton_self _, _, mem_singleton_self _, [], .inl ⟨rfl, rfl⟩, fun _ => rfl, rfl⟩
  exact ⟨Fs.sound_empty, rfl, hnone, fun _ => hnone⟩

/-- A call in which nothing fails. -/
def good (op : TokenOp) : PowerEvent := .call op (some true) (some true)

/-- A new token, on the disk. -/
def newToken : List PowerEvent := [good (.init .quiet (List.replicate 8 0x31) []), .syncDir]

end PowerWorld

end FreeHsm
