import FreeHsm.Pkcs11.OpSlot

/-!
# Calls with an output buffer

A caller of `C_Encrypt`, `C_SignFinal` and the like asks for the size of the output,
tries buffers that turn out to be too small, and in the end passes one that is large
enough. `complete` is such a sequence of calls. What comes out of it is known from the
single call: it `Settles` on an answer, or `Refuses`, or `Waits` with the slot as it was.
-/

namespace FreeHsm

open StateExcept OpM

variable {P : Provider}

/-- How a call ends: with output, with an error, or with a size only. -/
inductive Outcome
  | bytes (b : Bytes)
  | refused (e : Err)
  | unanswered
  deriving DecidableEq, Repr

def Outcome.of : Except Refusal Reply → Outcome
  | .ok .done => .bytes []
  | .ok (.data b) => .bytes b
  | .error (.rv e) => .refused e
  | _ => .unanswered

/-- The size that a query reports. -/
def reportedSize : Except Refusal Reply → Nat
  | .ok (.size n) => n
  | _ => 0

/-- A call on a slot, but for its output buffer. -/
abbrev SlotStep (P : Provider) := P.Seed → OutArg → Op P → Except Refusal Reply × Op P

/-- How a caller gets the output of a call: by size queries (`none`) and buffers of any length
(`some n`), and if no output came by then, by a query and a buffer of the size it reports. -/
structure Tries (P : Provider) where
  earlier : List (P.Seed × Option Nat)
  query : P.Seed
  last : P.Seed

def outArg : Option Nat → OutArg
  | none => .query
  | some n => .room n

/-- Repeat a call until it is answered. -/
def tryEach (call : SlotStep P) : List (P.Seed × Option Nat) → Op P → Outcome × Op P
  | [], op => (.unanswered, op)
  | (seed, n) :: rest, op =>
    let r := call seed (outArg n) op
    if Outcome.of r.1 = .unanswered then tryEach call rest r.2 else (Outcome.of r.1, r.2)

/-- All the tries of a call. -/
def complete (call : SlotStep P) (tr : Tries P) (op : Op P) : Outcome × Op P :=
  let r := tryEach call tr.earlier op
  if r.1 = .unanswered then
    let q := call tr.query .query r.2
    if Outcome.of q.1 = .unanswered then
      let a := call tr.last (.room (reportedSize q.1)) q.2
      (Outcome.of a.1, a.2)
    else (Outcome.of q.1, q.2)
  else r

/-- A call that answers `res` and leaves `J` when it is given the room it asks for, and before
that leaves `I` as it was. -/
def Settles (call : SlotStep P) (I : Op P → Prop) (res : Outcome) (J : Op P → Prop) : Prop :=
  res ≠ .unanswered ∧ ∃ size, ∀ op, I op → ∀ seed,
    ((call seed .query op).1 = .ok (.size size) ∧ I (call seed .query op).2) ∧
    ∀ n, (n < size ∧ Outcome.of (call seed (.room n) op).1 = .unanswered ∧
        I (call seed (.room n) op).2) ∨
      (Outcome.of (call seed (.room n) op).1 = res ∧ J (call seed (.room n) op).2)

variable {call : SlotStep P} {op : Op P}

section Settles

variable {I J : Op P → Prop} {res : Outcome}

/-- One try: not answered yet, or answered. -/
theorem Settles.once (h : Settles call I res J) (hI : I op) (seed : P.Seed) (n : Option Nat) :
    (Outcome.of (call seed (outArg n) op).1 = .unanswered ∧ I (call seed (outArg n) op).2) ∨
      (Outcome.of (call seed (outArg n) op).1 = res ∧ J (call seed (outArg n) op).2) := by
  obtain ⟨-, size, hsize⟩ := h
  obtain ⟨hquery, hroom⟩ := hsize op hI seed
  cases n with
  | none =>
    refine .inl ⟨?_, hquery.2⟩
    show Outcome.of (call seed .query op).1 = _
    rw [hquery.1]
    rfl
  | some n =>
    rcases hroom n with ⟨-, hwait⟩ | hdone
    · exact .inl hwait
    · exact .inr hdone

theorem Settles.tryEach (h : Settles call I res J) (tries : List (P.Seed × Option Nat)) (hI : I op) :
    ((tryEach call tries op).1 = .unanswered ∧ I (tryEach call tries op).2) ∨
      ((tryEach call tries op).1 = res ∧ J (tryEach call tries op).2) := by
  induction tries generalizing op with
  | nil => exact .inl ⟨rfl, hI⟩
  | cons t rest ih =>
    obtain ⟨seed, n⟩ := t
    unfold FreeHsm.tryEach
    rcases h.once hI seed n with ⟨hout, hI'⟩ | ⟨hout, hJ⟩
    · simp only [hout, if_true]
      exact ih hI'
    · simp only [hout, h.1, if_false, true_and]
      exact .inr hJ

/-- The room that was asked for is enough. -/
theorem Settles.complete (h : Settles call I res J) (tr : Tries P) (hI : I op) :
    ∃ op', complete call tr op = (res, op') ∧ J op' := by
  have hne := h.1
  unfold FreeHsm.complete
  rcases h.tryEach tr.earlier hI with ⟨hout, hI'⟩ | ⟨hout, hJ⟩
  · simp only [hout, if_true]
    obtain ⟨-, size, hsize⟩ := h
    obtain ⟨hq, hI''⟩ := (hsize _ hI' tr.query).1
    rw [hq]
    rcases (hsize _ hI'' tr.last).2 size with ⟨hlt, -⟩ | ⟨hlast, hJ⟩
    · exact absurd hlt (Nat.lt_irrefl _)
    · exact ⟨_, Prod.ext hlast rfl, hJ⟩
  · simp only [hout, hne, if_false]
    exact ⟨_, Prod.ext hout rfl, hJ⟩

end Settles

/-! ## Calls that leave the slot alone -/

/-- A call that leaves the slot as it was unless it answers. -/
def Waits (call : SlotStep P) (op : Op P) : Prop := ∀ seed out,
  Outcome.of (call seed out op).1 = .unanswered → (call seed out op).2 = op

theorem tryEach_answer (hwaits : Waits call op) (tries : List (P.Seed × Option Nat)) :
    ((tryEach call tries op).1 = .unanswered ∧ (tryEach call tries op).2 = op) ∨
      (tryEach call tries op).1 ≠ .unanswered ∧
        ∃ seed n, (tryEach call tries op).1 = Outcome.of (call seed (outArg n) op).1 := by
  induction tries with
  | nil => exact .inl ⟨rfl, rfl⟩
  | cons t rest ih =>
    obtain ⟨seed, n⟩ := t
    unfold tryEach
    by_cases hout : Outcome.of (call seed (outArg n) op).1 = .unanswered
    · simp only [hout, if_true, hwaits _ _ hout]
      exact ih
    · simp only [hout, if_false]
      exact .inr ⟨hout, seed, n, rfl⟩

theorem complete_answer (hwaits : Waits call op) {tr : Tries P} {r : Outcome}
    (h : (complete call tr op).1 = r) : ∃ seed n, Outcome.of (call seed (outArg n) op).1 = r := by
  unfold complete at h
  rcases tryEach_answer hwaits tr.earlier with ⟨hout, hop⟩ | ⟨hans, seed, n, hout⟩
  · simp only [hout, hop, if_true] at h
    split at h
    · rename_i hq
      rw [hwaits _ _ hq] at h
      exact ⟨tr.last, some _, h⟩
    · exact ⟨tr.query, none, h⟩
  · simp only [hans, if_false] at h
    exact ⟨seed, n, hout ▸ h⟩

/-! ## Calls that are refused -/

/-- A call that is refused however often it is made. -/
def Refuses (call : SlotStep P) (I : Op P → Prop) : Prop := ∀ op, I op → ∀ seed n,
  (∃ e, Outcome.of (call seed (outArg n) op).1 = .refused e) ∧ I (call seed (outArg n) op).2

theorem Refuses.complete {I : Op P → Prop} (h : Refuses call I) (tr : Tries P) (hI : I op) :
    ∃ e, (complete call tr op).1 = .refused e := by
  unfold FreeHsm.complete
  cases tr.earlier with
  | nil =>
    obtain ⟨⟨e, he⟩, -⟩ := h op hI tr.query none
    refine ⟨e, ?_⟩
    have he' : Outcome.of (call tr.query .query op).1 = .refused e := he
    simp [tryEach, he']
  | cons first rest =>
    obtain ⟨⟨e, he⟩, -⟩ := h op hI first.1 first.2
    refine ⟨e, ?_⟩
    simp [tryEach, he]

end FreeHsm
