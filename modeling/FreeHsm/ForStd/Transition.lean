/-!
# Runs of a transition function

A deterministic system is a function `step : σ → ι → σ`, where an input carries
everything the environment decides for that step. `run` folds a list of inputs,
and `Along` says that every step of a run satisfies a relation between the state
it is taken from and its input. The induction over a run is packaged here once:
an invariant that every admissible step preserves holds at the end of a run
(`run_invariant`), and what it implies of a step holds of each step
(`along_of_invariant`). A system that also answers is compared with itself from two
states: a relation that every admissible step keeps, and under which it answers
alike, makes the answers of whole runs equal (`outputs_eq_of_related`).
-/

namespace Transition

variable {σ ι : Type}

/-- The state reached from `s` by the inputs `is`. -/
def run (step : σ → ι → σ) (s : σ) (is : List ι) : σ := is.foldl step s

/-- Every step of the run from `s` satisfies `C` in the state it is taken from. -/
def Along (step : σ → ι → σ) (C : σ → ι → Prop) : σ → List ι → Prop
  | _, [] => True
  | s, i :: is => C s i ∧ Along step C (step s i) is

variable {step : σ → ι → σ} {C D : σ → ι → Prop} {P : σ → Prop}

@[simp] theorem run_nil (s : σ) : run step s [] = s := rfl

@[simp] theorem run_cons (s : σ) (i : ι) (is : List ι) :
    run step s (i :: is) = run step (step s i) is := rfl

theorem run_append (s : σ) (is js : List ι) :
    run step s (is ++ js) = run step (run step s is) js :=
  List.foldl_append

@[simp] theorem along_nil (s : σ) : Along step C s [] := trivial

@[simp] theorem along_cons (s : σ) (i : ι) (is : List ι) :
    Along step C s (i :: is) ↔ C s i ∧ Along step C (step s i) is := Iff.rfl

instance decidableAlong [∀ s i, Decidable (C s i)] : ∀ s is, Decidable (Along step C s is)
  | _, [] => .isTrue trivial
  | s, i :: is =>
    haveI := decidableAlong (step s i) is
    inferInstanceAs (Decidable (C s i ∧ Along step C (step s i) is))

theorem along_append (s : σ) (is js : List ι) :
    Along step C s (is ++ js) ↔ Along step C s is ∧ Along step C (run step s is) js := by
  induction is generalizing s with
  | nil => simp
  | cons i is ih => simp [ih, and_assoc]

/-- A relation that holds of every step of the system holds along every run. -/
theorem along_of_forall (h : ∀ s i, C s i) (s : σ) (is : List ι) : Along step C s is := by
  induction is generalizing s with
  | nil => trivial
  | cons i is ih => exact ⟨h s i, ih (step s i)⟩

theorem along_and {s : σ} {is : List ι} (hC : Along step C s is) (hD : Along step D s is) :
    Along step (fun s i => C s i ∧ D s i) s is := by
  induction is generalizing s with
  | nil => trivial
  | cons i is ih => exact ⟨⟨hC.1, hD.1⟩, ih hC.2 hD.2⟩

/-- A property that a state can only have if the states before it have it: when it holds at the
    end of a run, it holds all along. -/
theorem along_of_run (hback : ∀ s i, P (step s i) → P s) {s : σ} {is : List ι}
    (h : P (run step s is)) : P s ∧ Along step (fun s i => P (step s i)) s is := by
  induction is generalizing s with
  | nil => exact ⟨h, trivial⟩
  | cons i is ih =>
    obtain ⟨hnext, halong⟩ := ih h
    exact ⟨hback s i hnext, hnext, halong⟩

/-- An invariant that admissible steps preserve holds at the end of an admissible run. -/
theorem run_invariant (hstep : ∀ s i, P s → C s i → P (step s i)) {s : σ} {is : List ι}
    (hs : P s) (h : Along step C s is) : P (run step s is) := by
  induction is generalizing s with
  | nil => exact hs
  | cons i is ih => exact ih (hstep s i hs h.1) h.2

/-- What an invariant implies of an admissible step holds of each step of an admissible run. -/
theorem along_of_invariant (hstep : ∀ s i, P s → C s i → P (step s i))
    (hD : ∀ s i, P s → C s i → D s i) {s : σ} {is : List ι}
    (hs : P s) (h : Along step C s is) : Along step D s is := by
  induction is generalizing s with
  | nil => trivial
  | cons i is ih => exact ⟨hD s i hs h.1, ih (hstep s i hs h.1) h.2⟩

/-! ## Answers -/

variable {ω : Type}

/-- The answers of a system to the inputs `is`, from `s` on. -/
def outputs (step : σ → ι → ω × σ) : σ → List ι → List ω
  | _, [] => []
  | s, i :: is => (step s i).1 :: outputs step (step s i).2 is

/-- Two related states answer every admissible run alike when each admissible step does and
    keeps them related. -/
theorem outputs_eq_of_related {step : σ → ι → ω × σ} {R : σ → σ → Prop}
    (hstep : ∀ s t i, R s t → C s i → (step s i).1 = (step t i).1 ∧ R (step s i).2 (step t i).2)
    {s t : σ} {is : List ι} (hst : R s t) (h : Along (fun s i => (step s i).2) C s is) :
    outputs step s is = outputs step t is := by
  induction is generalizing s t with
  | nil => rfl
  | cons i is ih =>
    obtain ⟨hout, hnext⟩ := hstep s t i hst h.1
    rw [outputs, outputs, hout, ih hnext h.2]

end Transition
