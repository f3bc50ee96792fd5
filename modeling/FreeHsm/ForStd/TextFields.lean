import Mathlib.Algebra.Group.Nat.Defs
import Mathlib.Data.List.Basic
import Mathlib.Data.List.DropRight

/-!
# Fields and numbers in a line of text

`words` are the runs of a text that are not white space. A reader takes them one after
the other: it skips white space and reads up to the next. `decimal` prints a number in
decimal digits, and `decimalValue` is the number a row of digits says.
-/

namespace FreeHsm.TextFields

open List

variable {α : Type}

/-! ## Words -/

/-- The runs of characters that are not white space. -/
def words (space : α → Bool) (text : List α) : List (List α) :=
  (text.splitOnP space).filter fun w => !w.isEmpty

variable {space : α → Bool} {w text : List α} {n : Nat}

@[simp]
theorem words_nil : words space [] = [] := by
  rw [words, splitOnP_nil]
  rfl

theorem words_cons_space {a : α} (ha : space a = true) (text : List α) :
    words space (a :: text) = words space text := by
  rw [words, splitOnP_cons_eq_if_modifyHead, if_pos ha, filter_cons_of_neg (by simp)]
  rfl

theorem words_append_space (hw : ∀ a ∈ w, space a = true) (text : List α) :
    words space (w ++ text) = words space text := by
  induction w with
  | nil => rfl
  | cons a w ih =>
    rw [cons_append, words_cons_space (hw a mem_cons_self)]
    exact ih fun b hb => hw b (mem_cons_of_mem _ hb)

theorem words_word (hw : ∀ a ∈ w, space a = false) (hne : w ≠ []) {rest : List α}
    (hrest : ∀ a ∈ rest.head?, space a = true) :
    words space (w ++ rest) = w :: words space rest := by
  cases rest with
  | nil =>
    rw [append_nil, words, splitOnP_eq_singleton hw, words_nil]
    cases w with
    | nil => exact absurd rfl hne
    | cons a w => rfl
  | cons a rest =>
    have ha : space a = true := hrest a rfl
    rw [words_cons_space ha, words, splitOnP_append_cons_of_forall_mem hw a ha]
    cases w with
    | nil => exact absurd rfl hne
    | cons b w => rfl

theorem space_of_head? (text : List α) :
    ∀ a ∈ (text.dropWhile fun a => !space a).head?, space a = true := by
  intro a ha
  have hhead := head?_dropWhile_not (fun a => !space a) text
  rw [Option.mem_def.1 ha] at hhead
  simpa using hhead

theorem not_space_of_mem (text : List α) :
    ∀ a ∈ text.takeWhile fun a => !space a, space a = false := by
  intro a ha
  simpa using all_eq_true.1 all_takeWhile a ha

theorem words_skip (text : List α) :
    words space text =
      if text.dropWhile space = [] then []
      else (text.dropWhile space).takeWhile (fun a => !space a) ::
        words space ((text.dropWhile space).dropWhile fun a => !space a) := by
  have hskip : words space text = words space (text.dropWhile space) := by
    have hjoin : text.takeWhile space ++ text.dropWhile space = text :=
      takeWhile_append_dropWhile
    conv => lhs; rw [← hjoin]
    exact words_append_space (all_eq_true.1 all_takeWhile) _
  split
  · rename_i hnil
    rw [hskip, hnil, words_nil]
  · rename_i hne
    have hjoin : (text.dropWhile space).takeWhile (fun a => !space a) ++
        (text.dropWhile space).dropWhile (fun a => !space a) = text.dropWhile space :=
      takeWhile_append_dropWhile
    rw [hskip]
    conv => lhs; rw [← hjoin]
    refine words_word (not_space_of_mem _) ?_ (space_of_head? _)
    -- what is left after the white space starts with something else
    obtain ⟨a, rest, hcons⟩ := exists_cons_of_ne_nil hne
    have ha := head?_dropWhile_not space text
    rw [hcons] at ha ⊢
    rw [takeWhile_cons_of_pos (by simpa using ha)]
    exact cons_ne_nil _ _

/-- Which characters are white space matters only for those of the text. -/
theorem words_congr {space' : α → Bool} (h : ∀ a ∈ text, space a = space' a) :
    words space text = words space' text := by
  have hsplit : text.splitOnP space = text.splitOnP space' := by
    induction text with
    | nil => rfl
    | cons a text ih =>
      rw [splitOnP_cons_eq_if_modifyHead, splitOnP_cons_eq_if_modifyHead,
        h a mem_cons_self, ih fun b hb => h b (mem_cons_of_mem _ hb)]
  rw [words, words, hsplit]

theorem ne_nil_of_mem_words (hw : w ∈ words space text) : w ≠ [] := by
  have hne := (mem_filter.1 hw).2
  rintro rfl
  cases hne

theorem words_append_of_last {a : List α} (ha : ∀ x ∈ a.getLast?, space x = true) (b : List α) :
    words space (a ++ b) = words space a ++ words space b := by
  rcases eq_nil_or_concat a with rfl | ⟨a, x, rfl⟩
  · rw [words_nil]
    rfl
  · have hx : space x = true := ha x (by simp)
    have hjoin : ∀ c, words space (a ++ x :: c) = words space a ++ words space c := by
      intro c
      rw [words, splitOnP_append_cons a c hx, filter_append]
      rfl
    rw [concat_eq_append, append_assoc, singleton_append, hjoin b, hjoin [], words_nil, append_nil]

/-- The words of two texts in a row are the words of each, except that a word may go on from the
first into the second. -/
theorem words_append (a b : List α) :
    words space (a ++ b) = words space a ++ words space b ∨
      ∃ xs u v ys, u ≠ [] ∧ v ≠ [] ∧ words space a = xs ++ [u] ∧ words space b = v :: ys ∧
        words space (a ++ b) = xs ++ (u ++ v) :: ys := by
  -- the word at the end of the first text and the one at the start of the second
  have ha : a.rdropWhile (fun c => !space c) ++ a.rtakeWhile (fun c => !space c) = a :=
    rdropWhile_append_rtakeWhile
  have hb : b.takeWhile (fun c => !space c) ++ b.dropWhile (fun c => !space c) = b :=
    takeWhile_append_dropWhile
  have hlast : ∀ x ∈ (a.rdropWhile fun c => !space c).getLast?, space x = true := by
    intro x hx
    by_cases hnil : a.rdropWhile (fun c => !space c) = []
    · rw [hnil] at hx
      cases hx
    · have hnot := rdropWhile_last_not (fun c => !space c) a hnil
      rw [getLast?_eq_some_getLast hnil, Option.mem_def, Option.some.injEq] at hx
      rw [hx] at hnot
      simpa using hnot
  have hfirst := @space_of_head? _ space b
  have hu : ∀ c ∈ a.rtakeWhile (fun c => !space c), space c = false := by
    intro c hc
    simpa using mem_rtakeWhile_imp hc
  have hv := @not_space_of_mem _ space b
  generalize a.rdropWhile (fun c => !space c) = a1 at ha hlast
  generalize a.rtakeWhile (fun c => !space c) = u at ha hu
  generalize b.takeWhile (fun c => !space c) = v at hb hv
  generalize b.dropWhile (fun c => !space c) = b1 at hb hfirst
  subst ha hb
  by_cases hunil : u = []
  · left
    rw [hunil, append_nil]
    exact words_append_of_last hlast _
  have hwordu : words space u = [u] := by
    have h := @words_word _ space u hu hunil [] nofun
    rw [append_nil, words_nil] at h
    exact h
  rw [words_append_of_last hlast u, hwordu]
  by_cases hvnil : v = []
  · left
    rw [hvnil, nil_append, append_assoc, words_append_of_last hlast,
      words_word hu hunil hfirst, append_assoc]
    rfl
  · right
    refine ⟨words space a1, u, v, words space b1, hunil, hvnil, rfl, words_word hv hvnil hfirst, ?_⟩
    have huv : ∀ c ∈ u ++ v, space c = false := by
      intro c hc
      rcases mem_append.1 hc with hc | hc
      · exact hu c hc
      · exact hv c hc
    rw [append_assoc, words_append_of_last hlast, ← append_assoc u,
      words_word huv (by simp [hunil]) hfirst]

theorem words_append_of_nil_left {a b : List α} (h : words space a = []) :
    words space (a ++ b) = words space b := by
  rcases @words_append _ space a b with happ | ⟨xs, u, v, ys, -, -, ha, -⟩
  · rw [happ, h, nil_append]
  · rw [h] at ha
    exact absurd ha.symm (append_ne_nil_of_right_ne_nil xs (cons_ne_nil _ _))

theorem words_append_of_nil_right {a b : List α} (h : words space b = []) :
    words space (a ++ b) = words space a := by
  rcases @words_append _ space a b with happ | ⟨_, _, _, _, -, -, -, hb, -⟩
  · rw [happ, h, append_nil]
  · rw [h] at hb
    cases hb

variable (space) in
theorem exists_word_of_mem {a : α} (ha : a ∈ text) (hspace : space a = false) :
    ∃ w ∈ words space text, a ∈ w := by
  obtain ⟨l, r, rfl⟩ := append_of_mem ha
  have hfirst := @words_skip _ space (a :: r)
  simp only [dropWhile_cons, takeWhile_cons, hspace, Bool.not_false, if_true, Bool.false_eq_true,
    if_false, cons_ne_nil] at hfirst
  rcases @words_append _ space l (a :: r) with happ | ⟨xs, u, v, ys, -, -, -, hr, happ⟩
  · rw [happ, hfirst]
    exact ⟨_, mem_append_right _ mem_cons_self, mem_cons_self⟩
  · rw [hfirst] at hr
    rw [happ, ← (cons.inj hr).1]
    exact ⟨_, mem_append_right _ mem_cons_self, mem_append_right u mem_cons_self⟩

/-! ## Decimal numbers -/

/-- The digits of a number, in characters. -/
def decimal (n : Nat) : List UInt8 := (Nat.toDigits 10 n).map fun c => UInt8.ofNat c.toNat

def isDigit (b : UInt8) : Bool := 0x30 ≤ b && b ≤ 0x39

/-- The number a row of digits says. -/
def decimalValue (digits : List UInt8) : Nat :=
  digits.foldl (fun v b => 10 * v + (b.toNat - 48)) 0

theorem toNat_of_mem_toDigits {c : Char} (hc : c ∈ Nat.toDigits 10 n) :
    48 ≤ c.toNat ∧ c.toNat ≤ 57 :=
  Char.isDigit_iff_toNat.1 (Nat.isDigit_of_mem_toDigits (by decide) (by decide) hc)

theorem isDigit_of_mem_decimal {b : UInt8} (hb : b ∈ decimal n) : isDigit b = true := by
  obtain ⟨c, hc, rfl⟩ := mem_map.1 hb
  obtain ⟨hle, hge⟩ := toNat_of_mem_toDigits hc
  have hnat : (UInt8.ofNat c.toNat).toNat = c.toNat := by
    rw [UInt8.toNat_ofNat']
    omega
  rw [isDigit, Bool.and_eq_true, decide_eq_true_eq, decide_eq_true_eq, UInt8.le_iff_toNat_le,
    UInt8.le_iff_toNat_le, hnat]
  exact ⟨hle, hge⟩

theorem decimalValue_decimal (n : Nat) : decimalValue (decimal n) = n := by
  have hsame : ∀ (cs : List Char) (v : Nat), (∀ c ∈ cs, c.toNat ≤ 57) →
      (cs.map fun c => UInt8.ofNat c.toNat).foldl (fun v b => 10 * v + (b.toNat - 48)) v =
        Nat.ofDigitChars 10 cs v := by
    intro cs
    induction cs with
    | nil => exact fun v _ => Nat.ofDigitChars_nil.symm
    | cons c cs ih =>
      intro v hcs
      have hc : (UInt8.ofNat c.toNat).toNat = c.toNat := by
        have := hcs c mem_cons_self
        rw [UInt8.toNat_ofNat']
        omega
      rw [map_cons, foldl_cons, Nat.ofDigitChars_cons, hc]
      exact ih _ fun c' hc' => hcs c' (mem_cons_of_mem _ hc')
  rw [decimalValue, decimal, hsame _ 0 fun c hc => (toNat_of_mem_toDigits hc).2]
  exact Nat.ofDigitChars_toDigits (by decide) (by decide)

theorem decimal_ne_nil (n : Nat) : decimal n ≠ [] := by
  rw [decimal, ne_eq, map_eq_nil_iff]
  exact Nat.toDigits_ne_nil

theorem length_decimal_le {k : Nat} (hk : 0 < k) (hn : n < 10 ^ k) : (decimal n).length ≤ k := by
  rw [decimal, length_map]
  exact (Nat.length_toDigits_le_iff (by decide) hk).2 hn

end FreeHsm.TextFields
