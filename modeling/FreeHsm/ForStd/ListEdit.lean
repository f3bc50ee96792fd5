import Mathlib.Data.List.Perm.Subperm

/-!
# Editing arrays in place

List counterparts of three edits that C code makes on an array with a separate
count: update the first match, remove an entry by moving the last one into its
slot, and sweep out every match that way.
-/

namespace ListEdit

open List

variable {α : Type}

/-- Apply `f` to the first entry that satisfies `p`. -/
def modifyFirst (p : α → Bool) (f : α → α) : List α → List α
  | [] => []
  | a :: as => if p a then f a :: as else a :: modifyFirst p f as

@[simp] theorem length_modifyFirst (p : α → Bool) (f : α → α) (l : List α) :
    (modifyFirst p f l).length = l.length := by
  induction l with
  | nil => rfl
  | cons a as ih =>
    unfold modifyFirst
    split
    · rfl
    · simp [ih]

variable {p : α → Bool} {f : α → α} {l : List α} {i : Nat}

/-- An entry of the edited list is an old one, or the image of the first match. -/
theorem mem_modifyFirst {x : α} (hx : x ∈ modifyFirst p f l) :
    x ∈ l ∨ ∃ a, l.find? p = some a ∧ x = f a := by
  induction l with
  | nil => exact .inl hx
  | cons a as ih =>
    unfold modifyFirst at hx
    cases hp : p a with
    | true =>
      simp only [hp, ↓reduceIte, mem_cons] at hx
      rcases hx with rfl | hx
      · exact .inr ⟨a, by simp [hp], rfl⟩
      · exact .inl (mem_cons_of_mem _ hx)
    | false =>
      simp only [hp, Bool.false_eq_true, ↓reduceIte, mem_cons] at hx
      rcases hx with rfl | hx
      · exact .inl mem_cons_self
      · rcases ih hx with hx | ⟨b, hb, rfl⟩
        · exact .inl (mem_cons_of_mem _ hx)
        · exact .inr ⟨b, by simp [hp, hb], rfl⟩

theorem map_modifyFirst {β : Type} {g : α → β} (h : ∀ a, l.find? p = some a → g (f a) = g a) :
    (modifyFirst p f l).map g = l.map g := by
  induction l with
  | nil => rfl
  | cons a as ih =>
    unfold modifyFirst
    cases hp : p a with
    | true => simp [h a (by simp [hp])]
    | false => simpa using ih fun b hb => h b (by simpa [hp] using hb)

theorem find?_modifyFirst {a : α} (ha : l.find? p = some a) (hf : p (f a) = true) :
    (modifyFirst p f l).find? p = some (f a) := by
  induction l with
  | nil => cases ha
  | cons b bs ih =>
    unfold modifyFirst
    cases hp : p b with
    | true =>
      rw [find?_cons_of_pos hp] at ha
      obtain rfl : b = a := Option.some.inj ha
      rw [if_pos rfl, find?_cons_of_pos hf]
    | false =>
      rw [find?_cons_of_neg (by rw [hp]; decide)] at ha
      rw [if_neg (by decide), find?_cons_of_neg (by rw [hp]; decide)]
      exact ih ha

theorem modifyFirst_append_of_not {a : α} {r : List α} (hl : ∀ x ∈ l, ¬ p x = true)
    (ha : p a = true) : modifyFirst p f (l ++ a :: r) = l ++ f a :: r := by
  induction l with
  | nil => simp [modifyFirst, ha]
  | cons b bs ih =>
    have hb := hl b mem_cons_self
    have hbs := ih fun x hx => hl x (mem_cons_of_mem _ hx)
    simp [modifyFirst, hb, hbs]

/-- Remove entry `i`: the last entry moves into its slot. -/
def swapRemove (l : List α) (i : Nat) : List α :=
  match l.getLast? with
  | none => []
  | some a => (l.set i a).dropLast

theorem length_swapRemove (l : List α) (i : Nat) : (swapRemove l i).length = l.length - 1 := by
  unfold swapRemove
  split
  · rename_i h
    rw [getLast?_eq_none_iff.mp h]
    rfl
  · rw [length_dropLast, length_set]

theorem swapRemove_perm (hi : i < l.length) : List.Perm (swapRemove l i) (l.eraseIdx i) := by
  rcases eq_nil_or_concat l with rfl | ⟨l, a, rfl⟩
  · cases hi
  · rw [concat_eq_append] at hi ⊢
    rw [swapRemove, getLast?_concat]
    by_cases hlast : i < l.length
    · -- an earlier entry goes and `a` takes its slot
      obtain ⟨x, b, y, rfl, rfl⟩ : ∃ x b y, l = x ++ b :: y ∧ x.length = i :=
        ⟨l.take i, l[i], l.drop (i + 1), by simp, by simp; omega⟩
      have hset : ((x ++ b :: y ++ [a]).set x.length a).dropLast = x ++ a :: y := by
        rw [set_append_left _ _ hlast, dropLast_concat, set_append_right _ _ (Nat.le_refl _)]
        simp
      have herase : (x ++ b :: y ++ [a]).eraseIdx x.length = x ++ (y ++ [a]) := by
        rw [append_assoc, eraseIdx_append_of_length_le (Nat.le_refl _)]
        simp
      show List.Perm ((x ++ b :: y ++ [a]).set x.length a).dropLast _
      rw [hset, herase]
      have hmove : List.Perm (a :: y) (y ++ [a]) := (perm_append_singleton a y).symm
      exact hmove.append_left x
    · -- the last entry itself goes
      obtain rfl : i = l.length := by
        rw [length_append, length_singleton] at hi
        omega
      show List.Perm ((l ++ [a]).set l.length a).dropLast _
      rw [set_append_right _ _ (Nat.le_refl _), eraseIdx_append_of_length_le (Nat.le_refl _)]
      simp

theorem swapRemove_subperm (l : List α) (i : Nat) : List.Subperm (swapRemove l i) l := by
  by_cases hi : i < l.length
  · exact (swapRemove_perm hi).subperm.trans (eraseIdx_sublist l i).subperm
  · unfold swapRemove
    split
    · exact nil_subperm
    · rw [set_eq_of_length_le (Nat.le_of_not_lt hi)]
      exact (dropLast_sublist l).subperm

/-- Swap-remove every entry from index `i` on that satisfies `p`. Each round drops an entry or
    advances the index, so `fuel = l.length` rounds reach the end. -/
def sweep (p : α → Bool) : (fuel : Nat) → (i : Nat) → List α → List α
  | 0, _, l => l
  | fuel + 1, i, l =>
    match l[i]? with
    | none => l
    | some a => if p a then sweep p fuel i (swapRemove l i) else sweep p fuel (i + 1) l

theorem sweep_subperm (p : α → Bool) (fuel i : Nat) (l : List α) :
    List.Subperm (sweep p fuel i l) l := by
  induction fuel generalizing i l with
  | zero => exact .refl _
  | succ fuel ih =>
    unfold sweep
    split
    · exact .refl _
    split
    · exact (ih i (swapRemove l i)).trans (swapRemove_subperm l i)
    · exact ih (i + 1) l

theorem take_swapRemove (hi : i < l.length) : (swapRemove l i).take i = l.take i := by
  unfold swapRemove
  split
  · rename_i h
    rw [getLast?_eq_none_iff.mp h]
  · rw [dropLast_eq_take, take_take, length_set, Nat.min_eq_left (by omega),
      take_set_of_le (Nat.le_refl i)]

theorem sweep_perm_filter (p : α → Bool) {fuel : Nat} (hfuel : l.length ≤ i + fuel)
    (hbefore : ∀ a ∈ l.take i, p a = false) :
    List.Perm (sweep p fuel i l) (l.filter fun a => !p a) := by
  have hdone : ∀ l : List α, (∀ a ∈ l, p a = false) → l.filter (fun a => !p a) = l := by
    intro l hl
    exact filter_eq_self.2 fun a ha => by rw [hl a ha]; rfl
  induction fuel generalizing i l with
  | zero =>
    rw [take_of_length_le (by omega)] at hbefore
    rw [sweep, hdone l hbefore]
  | succ fuel ih =>
    unfold sweep
    split
    · rename_i hnone
      rw [take_of_length_le (getElem?_eq_none_iff.1 hnone)] at hbefore
      rw [hdone l hbefore]
    · rename_i a ha
      obtain ⟨hi, hget⟩ := List.getElem?_eq_some_iff.1 ha
      split
      · rename_i hpa
        -- the entry goes, and is not one that stays
        have hlen := length_swapRemove l i
        refine (ih (by omega) (by rwa [take_swapRemove hi])).trans ?_
        refine ((swapRemove_perm hi).filter _).trans ?_
        have hsplit : l = l.take i ++ a :: l.drop (i + 1) := by
          rw [← hget, getElem_cons_drop, take_append_drop]
        rw [eraseIdx_eq_take_drop_succ]
        nth_rewrite 3 [hsplit]
        rw [filter_append, filter_append, filter_cons_of_neg (by simp [hpa])]
      · rename_i hpa
        refine ih (by omega) fun b hb => ?_
        rw [take_add_one, ha] at hb
        rcases mem_append.1 hb with hb | hb
        · exact hbefore b hb
        · cases mem_singleton.1 hb
          simpa using hpa

theorem length_sweep_le (p : α → Bool) (fuel i : Nat) (l : List α) :
    (sweep p fuel i l).length ≤ l.length :=
  (sweep_subperm p fuel i l).length_le

theorem subperm_map {β : Type} {l' : List α} (f : α → β) (h : List.Subperm l l') :
    List.Subperm (l.map f) (l'.map f) := by
  obtain ⟨m, hperm, hsub⟩ := h
  exact ⟨m.map f, hperm.map f, hsub.map f⟩

theorem nodup_of_subperm {l' : List α} (h : List.Subperm l l') (hl' : l'.Nodup) : l.Nodup := by
  obtain ⟨m, hperm, hsub⟩ := h
  exact hperm.nodup_iff.1 (hsub.nodup hl')

end ListEdit
