import Mathlib.Data.List.Forall2
import Mathlib.Order.Defs.Unbundled

/-!
# Stateful code that may fail

`ExceptT ε (StateM σ)` is code over a state `σ` that returns a value or an error
and keeps its state changes either way, the way C code with error returns does.
-/

namespace FreeHsm.StateExcept

variable {ε σ α β : Type}

variable {x : Except ε α} {f : α → Except ε β} {a : α} {s : σ}

/-- Code that only may fail: a successful sequence is two successful parts. -/
theorem bind_ok {b : β} (h : (x >>= f) = .ok b) : ∃ a, x = .ok a ∧ f a = .ok b := by
  cases x with
  | error e => cases h
  | ok a => exact ⟨a, rfl, h⟩

theorem bind_of_ok (h : x = .ok a) : (x >>= f) = f a := by
  rw [h]
  rfl

theorem map_ok {g : α → β} {b : β} (h : x.map g = .ok b) : ∃ a, x = .ok a ∧ b = g a := by
  cases x with
  | error e => cases h
  | ok a => exact ⟨a, rfl, (Except.ok.inj h).symm⟩

theorem bind_eq_ok {b : β} : (x >>= f) = .ok b ↔ ∃ a, x = .ok a ∧ f a = .ok b :=
  ⟨bind_ok, fun ⟨_, hx, hf⟩ => (bind_of_ok hx).trans hf⟩

theorem pure_eq_ok {b : α} : (pure a : Except ε α) = .ok b ↔ a = b :=
  ⟨fun h => Except.ok.inj h, congrArg _⟩

theorem ite_error_eq_ok {c : Prop} [Decidable c] {e : ε} :
    (if c then .error e else x) = .ok a ↔ ¬c ∧ x = .ok a := by
  split
  · simp_all
  · simp_all

theorem mapError_ok {ε' : Type} {f : ε → ε'} (h : x.mapError f = .ok a) : x = .ok a := by
  cases x with
  | error e => cases h
  | ok a' =>
    cases h
    rfl

theorem mapM_ok {l : List α} {l' : List β} (h : l.mapM f = .ok l') :
    List.Forall₂ (fun a b => f a = .ok b) l l' := by
  induction l generalizing l' with
  | nil =>
    cases h
    exact .nil
  | cons a l ih =>
    rw [List.mapM_cons] at h
    obtain ⟨b, hb, h⟩ := bind_ok h
    obtain ⟨bs, hbs, h⟩ := bind_ok h
    cases h
    exact .cons hb (ih hbs)

theorem mapM_mem {l : List α} {l' : List β} (h : l.mapM f = .ok l') (ha : a ∈ l) :
    ∃ b ∈ l', f a = .ok b := by
  have hall := mapM_ok h
  clear h
  induction hall with
  | nil => cases ha
  | cons hb _ ih =>
    rcases List.mem_cons.1 ha with rfl | ha
    · exact ⟨_, List.mem_cons_self, hb⟩
    · obtain ⟨b, hmem, hb⟩ := ih ha
      exact ⟨b, List.mem_cons_of_mem _ hmem, hb⟩

/-- Run code from a state: its result and the state it leaves. -/
def exec (x : ExceptT ε (StateM σ) α) (s : σ) : Except ε α × σ := x.run.run s

/-- Stop with an error when a condition holds. -/
def failIf (c : Bool) (e : ε) : ExceptT ε (StateM σ) Unit := if c then throw e else pure ()

/-! ## Running -/

@[simp]
theorem exec_pure (a : α) (s : σ) : exec (pure a : ExceptT ε (StateM σ) α) s = (.ok a, s) := rfl

@[simp]
theorem exec_throw (e : ε) (s : σ) :
    exec (throw e : ExceptT ε (StateM σ) α) s = (.error e, s) := rfl

@[simp]
theorem exec_get (s : σ) : exec (get : ExceptT ε (StateM σ) σ) s = (.ok s, s) := rfl

@[simp]
theorem exec_modify (f : σ → σ) (s : σ) :
    exec (modify f : ExceptT ε (StateM σ) PUnit) s = (.ok (), f s) := rfl

@[simp]
theorem exec_gets (f : σ → α) (s : σ) :
    exec (f <$> get : ExceptT ε (StateM σ) α) s = (.ok (f s), s) := rfl

theorem exec_failIf (c : Bool) (e : ε) (s : σ) :
    exec (failIf c e : ExceptT ε (StateM σ) Unit) s = (if c then .error e else .ok (), s) := by
  cases c <;> rfl

theorem exec_bind (x : ExceptT ε (StateM σ) α) (f : α → ExceptT ε (StateM σ) β) (s : σ) :
    exec (x >>= f) s = match exec x s with
      | (.ok a, s₁) => exec (f a) s₁
      | (.error e, s₁) => (.error e, s₁) := by
  show ExceptT.run (x >>= f) s = _
  rw [ExceptT.run_bind]
  show (match (x.run s).1 with | .ok a => (f a).run | .error e => _) (x.run s).2 = _
  unfold exec StateT.run
  rcases x.run s with ⟨_ | _, _⟩ <;> rfl

theorem exec_get_bind (f : σ → ExceptT ε (StateM σ) β) (s : σ) :
    exec (get >>= f) s = exec (f s) s := rfl

theorem exec_modify_bind (g : σ → σ) (f : PUnit → ExceptT ε (StateM σ) β) (s : σ) :
    exec (modify g >>= f) s = exec (f ()) (g s) := rfl

theorem exec_failIf_bind (c : Bool) (e : ε) (f : Unit → ExceptT ε (StateM σ) β) (s : σ) :
    exec (failIf c e >>= f) s = if c then (.error e, s) else exec (f ()) s := by
  rw [exec_bind, exec_failIf]
  cases c <;> rfl

theorem exec_tryCatch (x : ExceptT ε (StateM σ) α) (f : ε → ExceptT ε (StateM σ) α) (s : σ) :
    exec (tryCatch x f) s = match exec x s with
      | (.ok a, s₁) => (.ok a, s₁)
      | (.error e, s₁) => exec (f e) s₁ := by
  unfold exec
  show (match (x.run s).1 with | .ok a => _ | .error e => f e) (x.run s).2 = _
  unfold StateT.run
  rcases x.run s with ⟨_ | _, _⟩ <;> rfl

theorem exec_bind_of_ok {x : ExceptT ε (StateM σ) α} {f : α → ExceptT ε (StateM σ) β} {s₁ : σ}
    (h : exec x s = (.ok a, s₁)) : exec (x >>= f) s = exec (f a) s₁ := by
  rw [exec_bind, h]

/-- A successful sequence is a successful first part and a successful rest. -/
theorem exec_bind_ok {x : ExceptT ε (StateM σ) α} {f : α → ExceptT ε (StateM σ) β} {s' : σ} {b : β}
    : exec (x >>= f) s = (.ok b, s') ↔
      ∃ a s₁, exec x s = (.ok a, s₁) ∧ exec (f a) s₁ = (.ok b, s') := by
  rw [exec_bind]
  rcases exec x s with ⟨_ | a, s₁⟩
  · simp
  · constructor
    · intro h
      exact ⟨a, s₁, rfl, h⟩
    · rintro ⟨a', s₂, heq, h⟩
      cases heq
      exact h

theorem exec_failIf_bind_ok {c : Bool} {e : ε} {f : Unit → ExceptT ε (StateM σ) β} {s' : σ} {b : β} :
    exec (failIf c e >>= f) s = (.ok b, s') ↔ c = false ∧ exec (f ()) s = (.ok b, s') := by
  rw [exec_failIf_bind]
  cases c <;> simp

theorem exec_bind_error {x : ExceptT ε (StateM σ) α} {f : α → ExceptT ε (StateM σ) β} {s' : σ}
    {e : ε} : exec (x >>= f) s = (.error e, s') ↔
      exec x s = (.error e, s') ∨ ∃ a s₁, exec x s = (.ok a, s₁) ∧ exec (f a) s₁ = (.error e, s') := by
  rw [exec_bind]
  rcases exec x s with ⟨e' | a, s₁⟩
  · simp
  · simp

/-! ## Moving along a preorder -/

/-- Whatever the code returns, its state moves along `R`. -/
def Within (R : σ → σ → Prop) (x : ExceptT ε (StateM σ) α) : Prop := ∀ s, R s (exec x s).2

namespace Within

variable {R : σ → σ → Prop} [IsPreorder σ R]

theorem pure (a : α) : Within R (Pure.pure a : ExceptT ε (StateM σ) α) := fun s => refl_of R s

theorem throw (e : ε) : Within R (MonadExcept.throw e : ExceptT ε (StateM σ) α) :=
  fun s => refl_of R s

theorem get : Within R (MonadState.get : ExceptT ε (StateM σ) σ) := fun s => refl_of R s

omit [IsPreorder σ R] in
theorem update {f : σ → σ} (h : ∀ s, R s (f s)) :
    Within R (modify f : ExceptT ε (StateM σ) PUnit) := h

theorem failIf (c : Bool) (e : ε) :
    Within R (StateExcept.failIf c e : ExceptT ε (StateM σ) Unit) := by
  cases c with
  | true => exact throw e
  | false => exact pure ()

/-- What follows a check may use that it passed. -/
theorem check {c : Bool} {e : ε} {f : Unit → ExceptT ε (StateM σ) β}
    (hf : c = false → Within R (f ())) : Within R (StateExcept.failIf c e >>= f) := by
  cases c with
  | true => exact fun s => refl_of R s
  | false => exact hf rfl

variable {x : ExceptT ε (StateM σ) α}

omit [IsPreorder σ R] in
theorem ite {c : Prop} [Decidable c] {y : ExceptT ε (StateM σ) α} (hx : Within R x)
    (hy : Within R y) : Within R (if c then x else y) := by
  split
  · exact hx
  · exact hy

theorem bind {f : α → ExceptT ε (StateM σ) β} (hx : Within R x) (hf : ∀ a, Within R (f a)) :
    Within R (x >>= f) := by
  intro s
  have hs := hx s
  rw [exec_bind]
  rcases hrun : exec x s with ⟨e | a, s₁⟩
  · rw [hrun] at hs
    exact hs
  · rw [hrun] at hs
    exact trans_of R hs (hf a s₁)

theorem tryCatch {f : ε → ExceptT ε (StateM σ) α} (hx : Within R x) (hf : ∀ e, Within R (f e)) :
    Within R (MonadExcept.tryCatch x f) := by
  intro s
  have hs := hx s
  rw [exec_tryCatch]
  rcases hrun : exec x s with ⟨e | a, s₁⟩
  · rw [hrun] at hs
    exact trans_of R hs (hf e s₁)
  · rw [hrun] at hs
    exact hs

end Within

/-! ## Code without a state -/

/-- The code neither reads nor changes the state. -/
def Steady (x : ExceptT ε (StateM σ) α) : Prop := ∃ r, ∀ s, exec x s = (r, s)

namespace Steady

theorem pure (a : α) : Steady (Pure.pure a : ExceptT ε (StateM σ) α) := ⟨_, fun _ => rfl⟩

theorem throw (e : ε) : Steady (MonadExcept.throw e : ExceptT ε (StateM σ) α) := ⟨_, fun _ => rfl⟩

variable {x : ExceptT ε (StateM σ) α}

theorem ite {c : Prop} [Decidable c] {y : ExceptT ε (StateM σ) α} (hx : Steady x) (hy : Steady y) :
    Steady (if c then x else y) := by
  split
  · exact hx
  · exact hy

theorem check {c : Bool} {e : ε} {f : Unit → ExceptT ε (StateM σ) β} (hf : Steady (f ())) :
    Steady (StateExcept.failIf c e >>= f) := by
  cases c with
  | true => exact throw e
  | false => exact hf

theorem bind {f : α → ExceptT ε (StateM σ) β} (hx : Steady x) (hf : ∀ a, Steady (f a)) :
    Steady (x >>= f) := by
  obtain ⟨_ | a, hx⟩ := hx
  · exact ⟨_, fun s => by rw [exec_bind, hx s]⟩
  · obtain ⟨r, hr⟩ := hf a
    exact ⟨r, fun s => by rw [exec_bind_of_ok (hx s), hr s]⟩

theorem state_eq (hx : Steady x) (s : σ) : (exec x s).2 = s := by
  obtain ⟨r, hr⟩ := hx
  rw [hr s]

/-- It moves the state along every preorder. -/
theorem within {R : σ → σ → Prop} [IsPreorder σ R] (hx : Steady x) : Within R x := by
  intro s
  rw [hx.state_eq s]
  exact refl_of R s

theorem result_eq (hx : Steady x) (s s' : σ) : (exec x s).1 = (exec x s').1 := by
  obtain ⟨r, hr⟩ := hx
  rw [hr s, hr s']

end Steady

/-! ## Code that fails for a cause only -/

variable {cause : Prop}

/-- The computation gives a value, or fails and has cause to. -/
def Gives (cause : Prop) (x : Except ε α) (a : α) : Prop := x = .ok a ∨ cause ∧ ∃ e, x = .error e

namespace Gives

theorem ok (a : α) : Gives cause (.ok a : Except ε α) a := .inl rfl

theorem bind {x : Except ε α} {f : α → Except ε β} {a : α} {b : β} (hx : Gives cause x a)
    (hf : Gives cause (f a) b) : Gives cause (x >>= f) b := by
  rcases hx with rfl | ⟨hcause, e, rfl⟩
  · exact hf
  · exact .inr ⟨hcause, e, rfl⟩

theorem mono {x : Except ε α} {a : α} {cause' : Prop} (h : Gives cause x a) (hc : cause → cause') :
    Gives cause' x a :=
  h.imp_right (And.imp_left hc)

theorem eq_of_ok {x : Except ε α} {a b : α} (h : Gives cause x a) (hx : x = .ok b) : b = a := by
  rcases h with rfl | ⟨-, e, rfl⟩
  · exact (Except.ok.inj hx).symm
  · cases hx

end Gives

theorem mapM_of_ok {f : α → Except ε β} {g : α → β} {as : List α} (h : ∀ a ∈ as, f a = .ok (g a)) :
    as.mapM f = .ok (as.map g) := by
  induction as with
  | nil => rfl
  | cons a as ih =>
    rw [List.mapM_cons, h a List.mem_cons_self, ih fun a' ha' => h a' (List.mem_cons_of_mem _ ha')]
    rfl

end FreeHsm.StateExcept
