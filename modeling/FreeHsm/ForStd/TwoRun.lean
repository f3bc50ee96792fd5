import FreeHsm.ForStd.StateExcept

/-!
# Two runs of the same code

Code over a state `σ` that may hold leftovers from earlier work: when does it
depend on them? `Agree R x S E` says that from two states related by `R` the code
`x` returns the same result, and leaves states related by `S` if it succeeds and by
`E` if it fails. The rules follow the structure of the code.
-/

namespace FreeHsm.StateExcept

variable {ε σ α β : Type} {R S T E : σ → σ → Prop}

/-- The same result from two related states, and related states afterwards. -/
def Agree (R : σ → σ → Prop) (x : ExceptT ε (StateM σ) α) (S E : σ → σ → Prop) : Prop :=
  ∀ a b, R a b → ∃ r, (exec x a).1 = r ∧ (exec x b).1 = r ∧
    match r with
    | .ok _ => S (exec x a).2 (exec x b).2
    | .error _ => E (exec x a).2 (exec x b).2

namespace Agree

theorem pure (v : α) (h : ∀ a b, R a b → S a b) :
    Agree R (Pure.pure v : ExceptT ε (StateM σ) α) S E :=
  fun a b hab => ⟨.ok v, rfl, rfl, h a b hab⟩

theorem throw (e : ε) (h : ∀ a b, R a b → E a b) :
    Agree R (MonadExcept.throw e : ExceptT ε (StateM σ) α) S E :=
  fun a b hab => ⟨.error e, rfl, rfl, h a b hab⟩

theorem update {f : σ → σ} (h : ∀ a b, R a b → S (f a) (f b)) :
    Agree R (modify f : ExceptT ε (StateM σ) PUnit) S E :=
  fun a b hab => ⟨.ok (), rfl, rfl, h a b hab⟩

theorem failIf {c : Bool} {e : ε} (h : ∀ a b, R a b → E a b) :
    Agree R (StateExcept.failIf c e : ExceptT ε (StateM σ) Unit) R E := by
  cases c with
  | true => exact throw e h
  | false => exact pure () fun _ _ hab => hab

theorem bind {x : ExceptT ε (StateM σ) α} {f : α → ExceptT ε (StateM σ) β}
    (hx : Agree R x S E) (hf : ∀ v, Agree S (f v) T E) : Agree R (x >>= f) T E := by
  intro a b hab
  obtain ⟨r, ha, hb, hrel⟩ := hx a b hab
  rw [exec_bind, exec_bind]
  rcases hxa : exec x a with ⟨ra, a₁⟩
  rcases hxb : exec x b with ⟨rb, b₁⟩
  rw [hxa] at ha hrel
  rw [hxb] at hb hrel
  subst ha
  cases hb
  cases ra with
  | error e => exact ⟨.error e, rfl, rfl, hrel⟩
  | ok v => exact hf v a₁ b₁ hrel

/-- What follows a check may use that it passed. -/
theorem check {c : Bool} {e : ε} {f : Unit → ExceptT ε (StateM σ) β} (h : ∀ a b, R a b → E a b)
    (hf : c = false → Agree R (f ()) T E) : Agree R (StateExcept.failIf c e >>= f) T E := by
  cases c with
  | true => exact fun a b hab => ⟨.error e, rfl, rfl, h a b hab⟩
  | false => exact hf rfl

/-- Reading a part of the state on which the two runs agree. -/
theorem gets {g : σ → α} {f : α → ExceptT ε (StateM σ) β} (hg : ∀ a b, R a b → g a = g b)
    (hf : ∀ v, Agree R (f v) T E) : Agree R ((g <$> get) >>= f) T E := by
  refine bind (S := R) ?_ hf
  intro a b hab
  exact ⟨.ok (g a), rfl, congrArg Except.ok (hg a b hab).symm, hab⟩

end Agree

end FreeHsm.StateExcept
