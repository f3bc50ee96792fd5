import Mathlib.Data.List.Basic

/-!
# Key material from an iterated pseudorandom function

Output longer than one block of a pseudorandom function is made by calling it again
and again. Three ways to do so: the calls are numbered (counter), each call takes
the block before it (feedback), or each call takes a block of a second sequence that
feeds back on itself (double pipeline).

What a call is given is `input i x`, where `i` is its number and `x` the block it
takes, if any.
-/

namespace IteratedPrf

variable {α : Type}

/-- How the calls depend on each other. -/
inductive Mode
  | counter
  | feedback
  | doublePipeline
  deriving DecidableEq, Repr

/-- A function, what its calls are given, and what the two sequences start from. -/
structure Scheme (α : Type) where
  prf : α → α
  input : Nat → α → α
  /-- What stands for a block in counter mode. -/
  noBlock : α
  /-- `K(0)` in feedback mode. -/
  iv : α
  /-- `A(0)` in double-pipeline mode. -/
  start : α

namespace Scheme

variable (S : Scheme α)

/-- `K(i)` in feedback mode. -/
def fed : Nat → α
  | 0 => S.iv
  | i + 1 => S.prf (S.input (i + 1) (fed i))

/-- `A(i)` in double-pipeline mode. -/
def pipe : Nat → α
  | 0 => S.start
  | i + 1 => S.prf (pipe i)

/-- `K(i)`, for `i` from one on. -/
def block : Mode → Nat → α
  | .counter, i => S.prf (S.input i S.noBlock)
  | .feedback, i => S.fed i
  | .doublePipeline, i => S.prf (S.input i (S.pipe i))

/-- `K(i), ..., K(i + n - 1)`. -/
def blocks (mode : Mode) (i : Nat) : (n : Nat) → List α
  | 0 => []
  | n + 1 => S.block mode i :: blocks mode (i + 1) n

@[simp] theorem length_blocks (mode : Mode) (i n : Nat) : (S.blocks mode i n).length = n := by
  induction n generalizing i with
  | zero => rfl
  | succ n ih => simp [blocks, ih]

theorem forall_blocks {Q : α → Prop} (hprf : ∀ x, Q (S.prf x)) (mode : Mode) (i n : Nat) :
    ∀ b ∈ S.blocks mode (i + 1) n, Q b := by
  induction n generalizing i with
  | zero => exact fun b hb => absurd hb List.not_mem_nil
  | succ n ih =>
    intro b hb
    rcases List.mem_cons.1 hb with rfl | hb
    · cases mode <;> exact hprf _
    · exact ih (i + 1) b hb

end Scheme

end IteratedPrf
