import Mathlib.Data.List.Basic

/-!
# Lockout counters

A counter of failed attempts that a limit guards: a failure is possible only
below the limit, and some events reset the counter. `replay` runs a history of
such events; a history it accepts has at most `limit` failures between two
resets, wherever it starts.
-/

namespace Lockout

/-- What can happen to the counter. -/
inductive Ev
  | wrong
  | clear
  deriving DecidableEq

/-- The counter after a history, or `none` when a failure happens at the limit. -/
def replay (limit : Nat) : (count : Nat) → List Ev → Option Nat
  | count, [] => some count
  | count, .wrong :: es => if count < limit then replay limit (count + 1) es else none
  | _, .clear :: es => replay limit 0 es

theorem replay_append (limit : Nat) {count mid : Nat} {es : List Ev} (fs : List Ev)
    (h : replay limit count es = some mid) :
    replay limit count (es ++ fs) = replay limit mid fs := by
  induction es generalizing count with
  | nil =>
    cases h
    rfl
  | cons e es ih =>
    cases e with
    | wrong =>
      by_cases hlt : count < limit
      · simp only [replay, hlt, ↓reduceIte] at h
        simp only [List.cons_append, replay, hlt, ↓reduceIte]
        exact ih h
      · simp [replay, hlt] at h
    | clear => exact ih h

/-- Without a reset the counter counts the failures, and they stop at the limit. -/
theorem count_wrong {limit count last : Nat} {es : List Ev} (h : replay limit count es = some last)
    (hclear : Ev.clear ∉ es) :
    last = count + es.count .wrong ∧ (0 < es.count .wrong → last ≤ limit) := by
  induction es generalizing count with
  | nil =>
    cases h
    simp
  | cons e es ih =>
    have htail : .clear ∉ es := fun hmem => hclear (List.mem_cons_of_mem _ hmem)
    cases e with
    | clear => exact absurd List.mem_cons_self hclear
    | wrong =>
      by_cases hlt : count < limit
      · simp only [replay, hlt, ↓reduceIte] at h
        obtain ⟨hlast, hbound⟩ := ih h htail
        rw [List.count_cons_self]
        refine ⟨by omega, fun _ => ?_⟩
        by_cases hmore : 0 < es.count .wrong
        · exact hbound hmore
        · omega
      · simp [replay, hlt] at h

theorem count_wrong_le {limit count last : Nat} {es : List Ev}
    (h : replay limit count es = some last) (hclear : Ev.clear ∉ es) :
    es.count .wrong ≤ limit := by
  obtain ⟨hlast, hbound⟩ := count_wrong h hclear
  by_cases hmore : 0 < es.count .wrong
  · have := hbound hmore
    omega
  · omega

end Lockout
