import FreeHsm.ForStd.Transition
import FreeHsm.Revocation.DbRoundTrip

/-!
# The commands of the authority

`fhsm-ca revoke` and `fhsm-ca crl` load the database, change their copy and replace the
file. Nothing locks it: two commands that overlap both start from the same file, and the
second to replace it undoes what the first has recorded. Here any number of commands take
their steps in any order.
-/

namespace FreeHsm.Revocation

open Transition List

open LineReader (Source)

/-! ## Commands -/

/-- Leading zeros are skipped, but not the last byte. -/
def stripZeros : Bytes → Bytes
  | 0 :: b :: rest => stripZeros (b :: rest)
  | bs => bs

/-- `fhsm_rev_serial_eq`. -/
def serialEq (a b : Bytes) : Bool := stripZeros a == stripZeros b

/-- `fhsm_rev_db_find`. -/
def Db.find (d : Db) (serial : Bytes) : Option Entry :=
  d.entries.find? fun e => serialEq serial e.serial.1

/-- `fhsm_rev_db_add`. -/
def Db.add (grows : Nat → Bool) (d : Db) (e : Entry) : Option Db :=
  if h : d.entries.length < maxEntries then
    if grows d.entries.length then some (d.push e h) else none
  else none

/-- How far a command is. A copy is what it will write. -/
inductive Stage
  | idle
  | revoking (copy : Db) (e : Entry)
  | listing (copy : Db)
  | listed (copy : Db)
  | saved (copy : Db)

/-- What a command finds when it reads: whether the file opens, where reading fails, and what
memory there is. -/
structure Access where
  opens : Bool := true
  failsAt : Option Nat := none
  grows : Nat → Bool := fun _ => true

/-- A list that was signed, and the revocations that were recorded then. -/
structure SignedList where
  list : Db
  recorded : List Entry

/-- The database on disk, the commands, the revocations whose command reported success, and the
lists in the order they were signed and published in. -/
structure Authority where
  disk : Option Bytes
  stage : Nat → Stage
  recorded : List Entry
  signed : List SignedList
  published : List Db

/-- The file as a command finds it. -/
def fileOf (disk : Option Bytes) (a : Access) : DbFile :=
  match disk with
  | none => .missing
  | some text => if a.opens then .file { text, failsAt := a.failsAt } else .unreadable

inductive Event
  /-- `cmd_revoke` up to the copy it will save. -/
  | revoke (i : Nat) (e : Entry) (a : Access)
  /-- `cmd_crl` up to the copy it will sign. -/
  | crl (i : Nat) (a : Access)
  | sign (i : Nat) (ok : Bool)
  | replace (i : Nat) (ok : Bool)
  | publish (i : Nat) (ok : Bool)

namespace Authority

def goto (s : Authority) (i : Nat) (st : Stage) : Authority :=
  { s with stage := fun j => if j = i then st else s.stage j }

def step (s : Authority) : Event → Authority
  | .revoke i e a =>
    match s.stage i, load a.grows (fileOf s.disk a) with
    | .idle, (none, d) =>
      match d.find e.serial.1 with
      | some _ => s
      | none =>
        match d.add a.grows e with
        | some d' => s.goto i (.revoking d' e)
        | none => s
    | _, _ => s
  | .crl i a =>
    match s.stage i, load a.grows (fileOf s.disk a) with
    | .idle, (none, d) => s.goto i (.listing { d with crlNumber := d.crlNumber + 1 })
    | _, _ => s
  | .sign i ok =>
    match s.stage i with
    | .listing d =>
      if ok then { s.goto i (.listed d) with signed := s.signed ++ [⟨d, s.recorded⟩] }
      else s.goto i .idle
    | _ => s
  | .replace i ok =>
    match s.stage i with
    | .revoking d e =>
      if ok then
        { s.goto i .idle with disk := some d.written, recorded := s.recorded ++ [e] }
      else s.goto i .idle
    | .listed d =>
      if ok then { s.goto i (.saved d) with disk := some d.written } else s.goto i .idle
    | _ => s
  | .publish i ok =>
    match s.stage i with
    | .saved d =>
      if ok then { s.goto i .idle with published := s.published ++ [d] } else s.goto i .idle
    | _ => s

/-- What the commands promise: a revocation that was reported stays in the database, a list has all
revocations recorded before it was signed, and the numbers of the lists increase. -/
structure Safe (s : Authority) : Prop where
  recorded : ∀ e ∈ s.recorded, ∃ d : Db, s.disk = some d.written ∧ e ∈ d.entries
  signed : ∀ l ∈ s.signed, ∀ e ∈ l.recorded, e ∈ l.list.entries
  numbers : s.published.Pairwise fun l l' => l.crlNumber < l'.crlNumber

/-- A command that can replace the file does so only while no other is under way. Loading meets no
read error, and the number of a list can be counted up. -/
def Alone (s : Authority) : Event → Prop
  | .revoke _ _ a => a.failsAt = none
  | .crl _ a => a.failsAt = none ∧
      ∀ d, load a.grows (fileOf s.disk a) = (none, d) → d.crlNumber ≠ 0xFFFFFFFFFFFFFFFF
  | .replace i ok => ok = true → ∀ j, j ≠ i → s.stage j = .idle
  | .sign _ _ => True
  | .publish _ _ => True

end Authority

/-! ## Loading -/

variable {d : Db}

/-- What is loaded does not depend on the memory there is. -/
theorem loadPieces_grows {grows : Nat → Bool} {line : Nat} {d' : Db} {seen : Bool}
    {pieces : List Bytes} (h : loadPieces grows line d seen pieces = .ok d') :
    loadPieces (fun _ => true) line d seen pieces = .ok d' := by
  fun_induction loadPieces grows line d seen pieces with
  | case1 => exact h
  | case2 line d seen piece pieces p hskip ih => rw [loadPieces, if_pos hskip, ih h]
  | case5 line d seen piece pieces p hskip operand hop hseen v hv ih =>
    simp only [loadPieces, p, hskip, if_false, hop, hv, ih h]
    exact if_neg hseen
  | case7 line d seen piece pieces p hskip hop hmax hgrows e he ih =>
    simp only [loadPieces, p, hskip, if_false, hop, dif_pos hmax, if_true, he, ih h]
  | case3 | case4 | case6 | case8 | case9 => cases h

theorem load_grows {grows : Nat → Bool} {file : DbFile} (h : load grows file = (none, d)) :
    load (fun _ => true) file = (none, d) := by
  cases file with
  | missing => exact h
  | unreadable => cases h
  | file f =>
    unfold load at h ⊢
    dsimp only at h ⊢
    split at h
    · rename_i d' hload
      rw [loadPieces_grows hload]
      exact h
    · cases h

/-- The database that is on disk. -/
def OnDisk (disk : Option Bytes) (d : Db) : Prop :=
  load (fun _ => true) (fileOf disk {}) = (none, d)

theorem OnDisk.unique {disk : Option Bytes} {d' : Db} (h : OnDisk disk d) (h' : OnDisk disk d') :
    d = d' :=
  (Prod.mk.inj (h.symm.trans h')).2

theorem onDisk_written (d : Db) : OnDisk (some d.written) d := load_written (fun _ => rfl) d

theorem onDisk_of_load {disk : Option Bytes} {a : Access} (hfails : a.failsAt = none)
    (h : load a.grows (fileOf disk a) = (none, d)) : OnDisk disk d := by
  have hload := load_grows h
  unfold OnDisk
  unfold fileOf at hload ⊢
  cases disk with
  | none => exact hload
  | some text =>
    dsimp only at hload ⊢
    split at hload
    · rw [hfails] at hload
      exact hload
    · cases hload

/-! ## What every step keeps -/

/-- What the copy of a command has to do with the file. -/
def StageFits (disk : Option Bytes) (published : List Db) : Stage → Prop
  | .idle => True
  | .revoking d e => ∃ d0, OnDisk disk d0 ∧ d.crlNumber = d0.crlNumber ∧
      d.entries = d0.entries ++ [e]
  | .listing d => ∃ d0, OnDisk disk d0 ∧ d0.crlNumber < d.crlNumber ∧ d.entries = d0.entries
  | .listed d => ∃ d0, OnDisk disk d0 ∧ d0.crlNumber < d.crlNumber ∧ d.entries = d0.entries
  | .saved d => disk = some d.written ∧ ∀ l ∈ published, l.crlNumber < d.crlNumber

namespace Authority

structure Inv (s : Authority) : Prop where
  kept : ∀ e ∈ s.recorded, ∀ d, OnDisk s.disk d → e ∈ d.entries
  written : s.recorded ≠ [] → ∃ d : Db, s.disk = some d.written
  signed : ∀ l ∈ s.signed, ∀ e ∈ l.recorded, e ∈ l.list.entries
  numbers : s.published.Pairwise fun l l' => l.crlNumber < l'.crlNumber
  le_disk : ∀ l ∈ s.published, ∀ d, OnDisk s.disk d → l.crlNumber ≤ d.crlNumber
  stages : ∀ i, StageFits s.disk s.published (s.stage i)
  /-- Only one command has saved its list and not yet published it. -/
  one : ∀ i j d d', s.stage i = .saved d → s.stage j = .saved d' → i = j

variable {s : Authority}

@[simp] theorem goto_self (s : Authority) (i : Nat) (st : Stage) : (s.goto i st).stage i = st :=
  if_pos rfl

variable {i : Nat} {st : Stage} {d : Db}

theorem goto_other {j : Nat} (h : j ≠ i) (st : Stage) : (s.goto i st).stage j = s.stage j :=
  if_neg h

theorem Inv.goto (h : s.Inv) (hst : StageFits s.disk s.published st) (hsaved : ∀ d, st ≠ .saved d) :
    (s.goto i st).Inv := by
  refine { h with stages := fun j => ?_, one := fun j k d d' hj hk => ?_ }
  · by_cases hj : j = i
    · rw [hj, goto_self]
      exact hst
    · rw [goto_other hj]
      exact h.stages j
  · -- the command itself has not saved
    have hne : ∀ k d, (s.goto i st).stage k = .saved d → s.stage k = .saved d := by
      intro k d hk
      by_cases hki : k = i
      · rw [hki, goto_self] at hk
        exact absurd hk (hsaved d)
      · rw [goto_other hki] at hk
        exact hk
    exact h.one j k d d' (hne j d hj) (hne k d' hk)

theorem Inv.goto_idle (h : s.Inv) (i : Nat) : (s.goto i .idle).Inv :=
  h.goto trivial nofun

/-- The file is replaced while all others are idle. -/
theorem stages_of_alone (h : ∀ j, j ≠ i → s.stage j = .idle) {disk : Option Bytes}
    {published : List Db} (hst : StageFits disk published st) (j : Nat) :
    StageFits disk published ((s.goto i st).stage j) := by
  by_cases hj : j = i
  · rw [hj, goto_self]
    exact hst
  · rw [goto_other hj, h j hj]
    trivial

theorem eq_of_saved (h : ∀ j, j ≠ i → s.stage j = .idle) {j : Nat}
    (hj : (s.goto i st).stage j = .saved d) : j = i := by
  by_contra hne
  rw [goto_other hne, h j hne] at hj
  cases hj

/-- A revocation is recorded. -/
theorem Inv.record (h : s.Inv) {e : Entry} (hst : s.stage i = .revoking d e)
    (halone : ∀ j, j ≠ i → s.stage j = .idle) :
    Inv { s.goto i .idle with disk := some d.written, recorded := s.recorded ++ [e] } := by
  obtain ⟨d0, hd0, hnumber, hentries⟩ : StageFits s.disk s.published (.revoking d e) :=
    hst ▸ h.stages i
  have hdisk : ∀ d', OnDisk (some d.written) d' → d' = d := fun d' hd' =>
    hd'.unique (onDisk_written d)
  refine ⟨?_, fun _ => ⟨d, rfl⟩, h.signed, h.numbers, ?_, fun j => ?_, ?_⟩
  · intro e' he' d' hd'
    rw [hdisk d' hd', hentries]
    rcases mem_append.1 he' with he' | he'
    · exact mem_append_left _ (h.kept e' he' d0 hd0)
    · exact mem_append_right _ he'
  · intro l hl d' hd'
    rw [hdisk d' hd', hnumber]
    exact h.le_disk l hl d0 hd0
  · have hidle : StageFits (some d.written) s.published .idle := trivial
    exact stages_of_alone halone hidle j
  · intro j k d' d'' hj hk
    rw [eq_of_saved halone hj, eq_of_saved halone hk]

/-- A list is saved. -/
theorem Inv.save (h : s.Inv) (hst : s.stage i = .listed d) (halone : ∀ j, j ≠ i → s.stage j = .idle) :
    Inv { s.goto i (.saved d) with disk := some d.written } := by
  obtain ⟨d0, hd0, hnumber, hentries⟩ : StageFits s.disk s.published (.listed d) :=
    hst ▸ h.stages i
  have hdisk : ∀ d', OnDisk (some d.written) d' → d' = d := fun d' hd' =>
    hd'.unique (onDisk_written d)
  have hlt : ∀ l ∈ s.published, l.crlNumber < d.crlNumber := fun l hl =>
    UInt64.lt_of_le_of_lt (h.le_disk l hl d0 hd0) hnumber
  refine ⟨?_, fun _ => ⟨d, rfl⟩, h.signed, h.numbers, ?_, fun j => ?_, ?_⟩
  · intro e he d' hd'
    rw [hdisk d' hd', hentries]
    exact h.kept e he d0 hd0
  · intro l hl d' hd'
    rw [hdisk d' hd']
    exact UInt64.le_of_lt (hlt l hl)
  · have hsaved : StageFits (some d.written) s.published (.saved d) := ⟨rfl, hlt⟩
    exact stages_of_alone halone hsaved j
  · intro j k d' d'' hj hk
    rw [eq_of_saved halone hj, eq_of_saved halone hk]

/-- A list is published. -/
theorem Inv.publish (h : s.Inv) (hst : s.stage i = .saved d) :
    Inv { s.goto i .idle with published := s.published ++ [d] } := by
  obtain ⟨hdisk, hlt⟩ : StageFits s.disk s.published (.saved d) := hst ▸ h.stages i
  refine { h.goto_idle i with numbers := ?_, le_disk := ?_, stages := fun j => ?_ }
  · rw [pairwise_append]
    refine ⟨h.numbers, pairwise_singleton _ _, fun l hl l' hl' => ?_⟩
    rw [mem_singleton.1 hl']
    exact hlt l hl
  · intro l hl d' hd'
    rcases mem_append.1 hl with hl | hl
    · exact h.le_disk l hl d' hd'
    · have hd : OnDisk s.disk d := hdisk ▸ onDisk_written d
      rw [mem_singleton.1 hl, OnDisk.unique hd' hd]
      exact UInt64.le_refl _
  · by_cases hj : j = i
    · show StageFits s.disk (s.published ++ [d]) ((s.goto i .idle).stage j)
      rw [hj, goto_self]
      trivial
    · show StageFits s.disk (s.published ++ [d]) ((s.goto i .idle).stage j)
      rw [goto_other hj]
      have hfits := h.stages j
      -- no other command waits to publish
      cases hstage : s.stage j with
      | saved d' => exact absurd (h.one j i d' d hstage hst) hj
      | _ =>
        rw [hstage] at hfits
        exact hfits

theorem step_inv (s : Authority) (ev : Event) (h : s.Inv) (halone : s.Alone ev) : (s.step ev).Inv := by
  cases ev with
  | revoke i e a =>
    rw [step]
    split
    · rename_i d _ hload
      have hd := onDisk_of_load halone hload
      split
      · exact h
      split
      · rename_i d' hadd
        refine h.goto ⟨d, hd, ?_⟩ fun _ h => by cases h
        unfold Db.add at hadd
        split at hadd
        · split at hadd
          · rw [← Option.some.inj hadd]
            exact ⟨rfl, rfl⟩
          · cases hadd
        · cases hadd
      · exact h
    · exact h
  | crl i a =>
    rw [step]
    split
    · rename_i d _ hload
      have hd := onDisk_of_load halone.1 hload
      have hmax := halone.2 d hload
      refine h.goto ⟨d, hd, ?_, rfl⟩ fun _ h => by cases h
      have hlt := d.crlNumber.toNat_lt
      have hne : d.crlNumber.toNat ≠ 0xFFFFFFFFFFFFFFFF := fun heq =>
        hmax (UInt64.toNat_inj.1 heq)
      rw [UInt64.lt_iff_toNat_lt, UInt64.toNat_add]
      simp only [UInt64.toNat_one]
      omega
    · exact h
  | sign i ok =>
    rw [step]
    split
    · rename_i d hst
      obtain ⟨d0, hd0, hnumber, hentries⟩ : StageFits s.disk s.published (.listing d) :=
        hst ▸ h.stages i
      split
      · have hnext : (s.goto i (.listed d)).Inv := h.goto ⟨d0, hd0, hnumber, hentries⟩ fun _ h => by cases h
        refine { hnext with signed := fun l hl e he => ?_ }
        rcases mem_append.1 hl with hl | hl
        · exact h.signed l hl e he
        · rw [mem_singleton.1 hl] at he ⊢
          show e ∈ d.entries
          rw [hentries]
          exact h.kept e he d0 hd0
      · exact h.goto_idle i
    · exact h
  | replace i ok =>
    rw [step]
    split
    · rename_i d e hst
      split
      · rename_i hok
        exact h.record hst (halone hok)
      · exact h.goto_idle i
    · rename_i d hst
      split
      · rename_i hok
        exact h.save hst (halone hok)
      · exact h.goto_idle i
    · exact h
  | publish i ok =>
    rw [step]
    split
    · rename_i d hst
      split
      · exact h.publish hst
      · exact h.goto_idle i
    · exact h

/-- Nothing has been done yet. -/
def start (disk : Option Bytes) : Authority :=
  { disk, stage := fun _ => .idle, recorded := [], signed := [], published := [] }

theorem start_inv (disk : Option Bytes) : (start disk).Inv where
  kept := nofun
  written := fun h => absurd rfl h
  signed := nofun
  numbers := .nil
  le_disk := nofun
  stages := fun _ => trivial
  one := nofun

/-- If no other command is under way whenever one replaces the file, every revocation that was
reported is in the database and in the lists signed after it, and the numbers of the lists
increase. -/
theorem safe_of_alone (disk : Option Bytes) (events : List Event)
    (h : Transition.Along step Alone (start disk) events) :
    (run step (start disk) events).Safe := by
  have hinv := run_invariant step_inv (start_inv disk) h
  refine ⟨fun e he => ?_, hinv.signed, hinv.numbers⟩
  obtain ⟨d, hd⟩ := hinv.written (ne_nil_of_mem he)
  exact ⟨d, hd, hinv.kept e he d (hd ▸ onDisk_written d)⟩

/-- The serial with one byte, revoked at the start of 2026. -/
def entryOf (b : UInt8) : Entry where
  serial := ⟨[b], Nat.one_pos, (by decide : 1 ≤ serialMax)⟩
  date := ⟨text "20260101000000Z", by decide +kernel⟩
  reason := none

/-! ### Commands that do not disturb each other -/

def Event.command : Event → Nat
  | .revoke i _ _ => i
  | .crl i _ => i
  | .sign i _ => i
  | .replace i _ => i
  | .publish i _ => i

theorem stage_step (s : Authority) (ev : Event) {j : Nat} (hj : j ≠ Event.command ev) :
    (s.step ev).stage j = s.stage j := by
  unfold step
  cases ev with
  | revoke i e a =>
    dsimp only
    split
    · split
      · rfl
      · split
        · exact goto_other hj _
        · rfl
    · rfl
  | crl i a =>
    dsimp only
    split
    · exact goto_other hj _
    · rfl
  | sign i ok | publish i ok =>
    dsimp only
    split
    · split <;> exact goto_other hj _
    · rfl
  | replace i ok =>
    dsimp only
    split
    · split <;> exact goto_other hj _
    · split <;> exact goto_other hj _
    · rfl

def Stage.isIdle : Stage → Bool
  | .idle => true
  | _ => false

/-- The condition on a step, when only the first `n` commands are used. -/
def aloneBelow (n : Nat) (s : Authority) (ev : Event) : Bool :=
  Event.command ev < n && match ev with
    | .revoke _ _ a => a.failsAt.isNone
    | .crl _ a => a.failsAt.isNone &&
        (load a.grows (fileOf s.disk a)).2.crlNumber != 0xFFFFFFFFFFFFFFFF
    | .replace i ok => !ok || (range n).all fun j => j == i || Stage.isIdle (s.stage j)
    | _ => true

theorem alone_of_below {n : Nat} {ev : Event} (hidle : ∀ j, n ≤ j → s.stage j = .idle)
    (h : aloneBelow n s ev = true) : s.Alone ev := by
  obtain ⟨-, h⟩ := Bool.and_eq_true_iff.1 h
  cases ev with
  | revoke i e a => exact Option.isNone_iff_eq_none.1 h
  | crl i a =>
    simp only [Bool.and_eq_true, Option.isNone_iff_eq_none, bne_iff_ne] at h
    refine ⟨h.1, fun d hload => ?_⟩
    rw [hload] at h
    exact h.2
  | replace i ok =>
    rintro rfl j hj
    rcases Nat.lt_or_ge j n with hlt | hge
    · have hstage := all_eq_true.1 h j (mem_range.2 hlt)
      rw [beq_false_of_ne hj, Bool.false_or] at hstage
      cases hst : s.stage j with
      | idle => rfl
      | _ => rw [hst] at hstage; cases hstage
    · exact hidle j hge
  | sign i ok | publish i ok => trivial

theorem along_of_below {n : Nat} {disk : Option Bytes} {events : List Event}
    (h : Transition.Along step (fun s ev => aloneBelow n s ev = true) (start disk) events) :
    Transition.Along step Alone (start disk) events := by
  refine along_of_invariant (P := fun s => ∀ j, n ≤ j → s.stage j = .idle) ?_
    (fun _ _ => alone_of_below) (fun _ _ => rfl) h
  intro s ev hidle hev j hj
  have hlt := of_decide_eq_true (Bool.and_eq_true_iff.1 hev).1
  rw [stage_step s ev (by omega)]
  exact hidle j hj

/-- Two revocations, each with a list after it. A third one meets an error while the first is under
way. -/
def twoLists : List Event :=
  [.revoke 0 (entryOf 0xAA) {}, .revoke 1 (entryOf 0xCC) {}, .replace 1 false, .replace 0 true,
    .crl 1 {}, .sign 1 true, .replace 1 true, .publish 1 true,
    .revoke 0 (entryOf 0xBB) {}, .replace 0 true, .crl 1 {}, .sign 1 true, .replace 1 true,
    .publish 1 true]

/-- Both revocations are recorded, and both lists are published. -/
theorem safe_of_alone_twoLists :
    let s := run step (start none) twoLists
    (s.recorded = [entryOf 0xAA, entryOf 0xBB] ∧
      s.published.map (fun d => (d.crlNumber, d.entries)) =
        [(1, [entryOf 0xAA]), (2, [entryOf 0xAA, entryOf 0xBB])]) ∧ s.Safe :=
  ⟨by decide +kernel, safe_of_alone none twoLists (along_of_below (n := 2) (by decide +kernel))⟩

/-- Two revocations that overlap: both commands load before either replaces the file. -/
def overlapping : List Event :=
  [.revoke 0 (entryOf 0xAA) {}, .revoke 1 (entryOf 0xBB) {}, .replace 0 true, .replace 1 true]

/-- Both report success, and the first is lost. -/
theorem overlapping_loses_revocation :
    (run step (start none) overlapping).recorded = [entryOf 0xAA, entryOf 0xBB] ∧
      ¬ (run step (start none) overlapping).Safe := by
  refine ⟨by decide +kernel, fun hsafe => ?_⟩
  have hrecorded : entryOf 0xAA ∈ (run step (start none) overlapping).recorded := by
    decide +kernel
  obtain ⟨d, hdisk, hd⟩ := hsafe.recorded _ hrecorded
  have hlast : (run step (start none) overlapping).disk =
      some ({ entries := [entryOf 0xBB] } : Db).written := by decide +kernel
  have hsame : d = { entries := [entryOf 0xBB] } :=
    OnDisk.unique (onDisk_written d) (by
      rw [← hdisk, hlast]
      exact onDisk_written _)
  rw [hsame] at hd
  exact absurd hd (by decide +kernel)

end Authority

end FreeHsm.Revocation
