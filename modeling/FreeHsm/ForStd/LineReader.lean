import Mathlib.Data.List.Basic

/-!
# Reading a text with a line buffer

`fgets` stores what it reads until a newline has come or the buffer is full, so a line
that is longer than the buffer arrives in pieces. `cut` splits a text in this way;
`List.splitOn` has its lines.
-/

namespace FreeHsm.LineReader

open List

variable {α : Type} [DecidableEq α] (nl : α) (cap : Nat)

/-- The pieces of a text that are ended, by a newline or by the end of the buffer, and what has been
read of the next one. `cur` is what is in the buffer already. -/
def cut : (cur text : List α) → List (List α) × List α
  | cur, [] => ([], cur)
  | cur, a :: text =>
    if a = nl ∨ cap ≤ (cur ++ [a]).length then
      ((cur ++ [a]) :: (cut [] text).1, (cut [] text).2)
    else cut (cur ++ [a]) text

/-- The pieces that come before the end of the text. -/
def ended (text : List α) : List (List α) := (cut nl cap [] text).1

/-- All pieces of a text: at its end the last one need not be ended. -/
def pieces (text : List α) : List (List α) :=
  ended nl cap text ++ if (cut nl cap [] text).2 = [] then [] else [(cut nl cap [] text).2]

variable {nl}

variable {a text l : List α}

theorem cut_line (ha : nl ∉ a) (cur rest : List α) :
    ∃ ps, cut nl cap cur (a ++ nl :: rest) =
        (ps ++ (cut nl cap [] rest).1, (cut nl cap [] rest).2) ∧
      ((cur ++ a).length ≤ cap → cur ++ a ∈ ps ∨ cur ++ a ++ [nl] ∈ ps) := by
  induction a generalizing cur with
  | nil =>
    refine ⟨[cur ++ [nl]], ?_, fun _ => .inr (by simp)⟩
    rw [nil_append, cut, if_pos (.inl rfl)]
    rfl
  | cons x a ih =>
    have hx : x ≠ nl := fun h => ha (h ▸ mem_cons_self)
    have ha' : nl ∉ a := fun h => ha (mem_cons_of_mem _ h)
    rw [cons_append, cut]
    by_cases hfull : cap ≤ (cur ++ [x]).length
    · -- the buffer is full; what fits ends here
      obtain ⟨ps, hps, -⟩ := ih ha' []
      rw [if_pos (.inr hfull), hps]
      refine ⟨(cur ++ [x]) :: ps, rfl, fun hfits => .inl ?_⟩
      have hnil : a = [] := by
        simp only [length_append, length_cons, length_nil] at hfull hfits
        exact length_eq_zero_iff.1 (by omega)
      rw [hnil]
      exact mem_cons_self
    · rw [if_neg (by simp only [hx, false_or]; exact hfull)]
      obtain ⟨ps, hps, hmem⟩ := ih ha' (cur ++ [x])
      refine ⟨ps, hps, fun hfits => ?_⟩
      rw [append_assoc, singleton_append] at hmem
      exact hmem hfits

theorem cut_last (ha : nl ∉ a) (cur : List α) (hne : cur ++ a ≠ [])
    (hfits : (cur ++ a).length ≤ cap) :
    cur ++ a ∈ (cut nl cap cur a).1 ∨ (cut nl cap cur a).2 = cur ++ a := by
  induction a generalizing cur with
  | nil => exact .inr (by rw [cut, append_nil])
  | cons x a ih =>
    have hx : x ≠ nl := fun h => ha (h ▸ mem_cons_self)
    have ha' : nl ∉ a := fun h => ha (mem_cons_of_mem _ h)
    rw [cut]
    by_cases hfull : cap ≤ (cur ++ [x]).length
    · rw [if_pos (.inr hfull)]
      have hnil : a = [] := by
        simp only [length_append, length_cons, length_nil] at hfull hfits
        exact length_eq_zero_iff.1 (by omega)
      rw [hnil]
      exact .inl mem_cons_self
    · rw [if_neg (by simp only [hx, false_or]; exact hfull)]
      have happend : cur ++ x :: a = (cur ++ [x]) ++ a := by simp
      rw [happend] at hne hfits ⊢
      exact ih ha' _ hne hfits

@[elab_as_elim]
theorem line_induction (nl : α) {motive : List α → Prop}
    (line : ∀ a rest, nl ∉ a → motive rest → motive (a ++ nl :: rest))
    (last : ∀ a, nl ∉ a → motive a) (text : List α) : motive text := by
  induction hn : text.length using Nat.strongRecOn generalizing text with
  | ind n ih =>
    by_cases hmem : nl ∈ text
    · obtain ⟨a, rest, rfl, ha⟩ := eq_append_cons_of_mem hmem
      exact line a rest ha (ih rest.length (by simp at hn; omega) rest rfl)
    · exact last text hmem

theorem mem_ended_of_line (hl : l ∈ (text.splitOn nl).dropLast) (hfits : l.length ≤ cap) :
    l ∈ ended nl cap text ∨ l ++ [nl] ∈ ended nl cap text := by
  induction text using line_induction nl with
  | line a rest ha ih =>
    rw [splitOn_append_cons_self_of_not_mem ha,
      dropLast_cons_of_ne_nil (splitOn_ne_nil nl rest)] at hl
    obtain ⟨ps, hps, hfirst⟩ := cut_line cap ha [] rest
    rw [ended, hps]
    simp only [mem_append]
    rcases mem_cons.1 hl with rfl | hl
    · exact (hfirst hfits).imp .inl .inl
    · exact (ih hl).imp .inr .inr
  | last a ha =>
    rw [splitOn_eq_singleton ha] at hl
    cases hl

theorem mem_pieces_of_line (hl : l ∈ text.splitOn nl) (hne : l ≠ []) (hfits : l.length ≤ cap) :
    l ∈ pieces nl cap text ∨ l ++ [nl] ∈ pieces nl cap text := by
  induction text using line_induction nl with
  | line a rest ha ih =>
    rw [splitOn_append_cons_self_of_not_mem ha] at hl
    obtain ⟨ps, hps, hfirst⟩ := cut_line cap ha [] rest
    have hpieces : pieces nl cap (a ++ nl :: rest) = ps ++ pieces nl cap rest := by
      rw [pieces, ended, hps, append_assoc]
      rfl
    rw [hpieces]
    simp only [mem_append]
    rcases mem_cons.1 hl with rfl | hl
    · exact (hfirst hfits).imp .inl .inl
    · exact (ih hl).imp .inr .inr
  | last a ha =>
    rw [splitOn_eq_singleton ha, mem_singleton] at hl
    subst hl
    left
    rcases cut_last cap ha [] hne hfits with hend | hlast
    · exact mem_append_left _ hend
    · refine mem_append_right _ ?_
      rw [nil_append] at hlast
      rw [hlast, if_neg hne]
      exact mem_singleton_self _

theorem newline_not_mem_line (hl : l ∈ text.splitOn nl) : nl ∉ l := by
  induction text using line_induction nl with
  | line a rest ha ih =>
    rw [splitOn_append_cons_self_of_not_mem ha] at hl
    rcases mem_cons.1 hl with rfl | hl
    · exact ha
    · exact ih hl
  | last a ha =>
    rw [splitOn_eq_singleton ha, mem_singleton] at hl
    rw [hl]
    exact ha

/-! ## Lines and their pieces -/

variable (nl) in
theorem cut_flatten (cur text : List α) :
    (cut nl cap cur text).1.flatten ++ (cut nl cap cur text).2 = cur ++ text := by
  induction text generalizing cur with
  | nil => simp [cut]
  | cons a text ih =>
    rw [cut]
    split
    · rw [flatten_cons, append_assoc, ih [], nil_append, append_assoc]
      rfl
    · rw [ih, append_assoc]
      rfl

theorem flatten_pieces (text : List α) : (pieces nl cap text).flatten = text := by
  have h := cut_flatten nl cap [] text
  rw [pieces, ended, flatten_append]
  split
  · rename_i hnil
    rw [hnil] at h
    exact h
  · rw [flatten_singleton]
    exact h

theorem cut_newline (ha : nl ∉ a) (cur rest : List α) :
    cut nl cap cur (a ++ nl :: rest) =
      ((cut nl cap cur (a ++ [nl])).1 ++ (cut nl cap [] rest).1, (cut nl cap [] rest).2) := by
  induction a generalizing cur with
  | nil =>
    rw [nil_append, nil_append, cut, cut, if_pos (.inl rfl), if_pos (.inl rfl)]
    rfl
  | cons x a ih =>
    have ha' : nl ∉ a := fun h => ha (mem_cons_of_mem _ h)
    rw [cons_append, cons_append, cut, cut]
    by_cases hend : x = nl ∨ cap ≤ (cur ++ [x]).length
    · rw [if_pos hend, if_pos hend, ih ha' []]
      rfl
    · rw [if_neg hend, if_neg hend, ih ha' (cur ++ [x])]

theorem cut_newline_rest (ha : nl ∉ a) (cur : List α) : (cut nl cap cur (a ++ [nl])).2 = [] := by
  rw [cut_newline cap ha cur []]
  rfl

theorem pieces_newline (ha : nl ∉ a) (rest : List α) :
    pieces nl cap (a ++ nl :: rest) = pieces nl cap (a ++ [nl]) ++ pieces nl cap rest := by
  rw [pieces, pieces, pieces, ended, ended, ended, cut_newline_rest cap ha, if_pos rfl,
    cut_newline cap ha [] rest, append_nil, append_assoc]

variable (nl) in
/-- The lines of a text with their newlines; the last line has none. -/
def terminated (text : List α) : List (List α) :=
  (text.splitOn nl).dropLast.map (· ++ [nl]) ++
    [(text.splitOn nl).getLast (List.splitOn_ne_nil nl text)]

theorem terminated_newline (ha : nl ∉ a) (rest : List α) :
    terminated nl (a ++ nl :: rest) = (a ++ [nl]) :: terminated nl rest := by
  have hsplit := splitOn_append_cons_self_of_not_mem ha rest
  have hne := splitOn_ne_nil nl rest
  unfold terminated
  simp only [hsplit, dropLast_cons_of_ne_nil hne, getLast_cons hne, map_cons, cons_append]

theorem terminated_last (ha : nl ∉ a) : terminated nl a = [a] := by
  have hsplit := splitOn_eq_singleton ha
  unfold terminated
  simp only [hsplit, dropLast_singleton, map_nil, getLast_singleton, nil_append]

theorem pieces_eq_flatMap (text : List α) :
    pieces nl cap text = (terminated nl text).flatMap (pieces nl cap) := by
  induction text using line_induction nl with
  | line a rest ha ih =>
    rw [pieces_newline cap ha, terminated_newline ha, flatMap_cons, ih]
  | last a ha => rw [terminated_last ha, flatMap_singleton]

theorem mem_terminated {t : List α} (ht : t ∈ terminated nl text) :
    ∃ l, nl ∉ l ∧ (t = l ++ [nl] ∨ t = l) := by
  rcases mem_append.1 ht with ht | ht
  · obtain ⟨l, hl, rfl⟩ := mem_map.1 ht
    exact ⟨l, newline_not_mem_line ((dropLast_subset _) hl), .inl rfl⟩
  · rw [mem_singleton] at ht
    exact ⟨t, newline_not_mem_line (ht ▸ getLast_mem _), .inr rfl⟩

theorem cut_fits (ha : nl ∉ a) (cur rest : List α) (hfits : (cur ++ a).length < cap) :
    cut nl cap cur (a ++ rest) = cut nl cap (cur ++ a) rest := by
  induction a generalizing cur with
  | nil => rw [nil_append, append_nil]
  | cons x a ih =>
    have hx : x ≠ nl := fun h => ha (h ▸ mem_cons_self)
    have ha' : nl ∉ a := fun h => ha (mem_cons_of_mem _ h)
    have happend : cur ++ x :: a = (cur ++ [x]) ++ a := by simp
    have hroom : ¬ cap ≤ (cur ++ [x]).length := by
      simp only [length_append, length_cons, length_nil] at hfits ⊢
      omega
    rw [happend] at hfits ⊢
    rw [cons_append, cut, if_neg (by simp only [hx, false_or]; exact hroom)]
    exact ih ha' _ hfits

theorem pieces_line (ha : nl ∉ a) (hfits : a.length < cap) :
    pieces nl cap (a ++ [nl]) = [a ++ [nl]] := by
  rw [pieces, ended, cut_fits cap ha [] [nl] hfits, nil_append, cut, if_pos (.inl rfl)]
  rfl

/-- The pieces of a line that fits: the line, and its newline in the same piece or by itself. -/
theorem pieces_of_fits (ha : nl ∉ a) (hne : a ≠ []) (hfits : a.length ≤ cap) :
    pieces nl cap a = [a] ∧
      (pieces nl cap (a ++ [nl]) = [a ++ [nl]] ∨ pieces nl cap (a ++ [nl]) = [a, [nl]]) := by
  -- the last character may fill the buffer
  obtain ⟨b, x, rfl⟩ : ∃ b x, a = b ++ [x] := ⟨_, _, (dropLast_append_getLast hne).symm⟩
  have hb : nl ∉ b := fun h => ha (mem_append_left _ h)
  have hx : x ≠ nl := fun h => ha (h ▸ mem_append_right _ (mem_singleton_self x))
  have hlen : (b ++ [x]).length = b.length + 1 := by simp
  have hbfits : ([] ++ b).length < cap := by
    rw [nil_append]
    omega
  rw [append_assoc]
  by_cases hfull : cap ≤ (b ++ [x]).length
  · have hcut : ∀ rest, cut nl cap [] (b ++ x :: rest) =
        ((b ++ [x]) :: (cut nl cap [] rest).1, (cut nl cap [] rest).2) := by
      intro rest
      rw [cut_fits cap hb [] _ hbfits, nil_append, cut, if_pos (.inr hfull)]
    have hnl : (cut nl cap [] [nl]) = ([[nl]], []) := by
      rw [cut, if_pos (.inl rfl)]
      rfl
    refine ⟨?_, .inr ?_⟩
    · rw [pieces, ended, hcut []]
      rfl
    · rw [pieces, ended, singleton_append, hcut [nl], hnl]
      rfl
  · refine ⟨?_, .inl ?_⟩
    · rw [pieces, ended, cut_fits cap hb [] _ hbfits, nil_append, cut,
        if_neg (by simp only [hx, false_or]; exact hfull), cut, if_neg hne]
      rfl
    · rw [← append_assoc]
      exact pieces_line cap ha (Nat.not_le.1 hfull)

/-! ## Reading that may fail -/

/-- A text that is read, and after how much of it reading fails, if it does. -/
structure Source (α : Type) where
  text : List α
  failsAt : Option Nat := none
  deriving DecidableEq

namespace Source

variable (f : Source α)

variable (nl) in
/-- The pieces a reader gets. What a failing call has stored is lost. -/
def pieces : List (List α) :=
  match f.failsAt with
  | none => LineReader.pieces nl cap f.text
  | some n => ended nl cap (f.text.take n)

variable (nl) in
/-- The lines that have been read to their end. -/
def linesRead : List (List α) :=
  match f.failsAt with
  | none => f.text.splitOn nl
  | some n => ((f.text.take n).splitOn nl).dropLast

/-- A line that has been read is a piece if it is not empty and fits. -/
theorem mem_pieces {l : List α} (hl : l ∈ f.linesRead nl) (hne : l ≠ []) (hfits : l.length ≤ cap) :
    l ∈ f.pieces nl cap ∨ l ++ [nl] ∈ f.pieces nl cap := by
  unfold linesRead at hl
  unfold pieces
  split at hl
  · exact mem_pieces_of_line cap hl hne hfits
  · exact mem_ended_of_line cap hl hfits

variable (nl) in
/-- The whole text has been delivered. -/
def Whole : Prop := (f.pieces nl cap).flatten = f.text

theorem Whole.pieces_eq (h : f.Whole nl cap) :
    f.pieces nl cap = LineReader.pieces nl cap f.text := by
  unfold Whole at h
  unfold pieces at h ⊢
  split at h
  · rfl
  rename_i n _
  -- reading failed, but after the end of the last piece
  have hcut := cut_flatten nl cap [] (f.text.take n)
  rw [ended] at h ⊢
  rw [h, nil_append] at hcut
  have hlen := congrArg length hcut
  simp only [length_append, length_take] at hlen
  have hnil : (cut nl cap [] (f.text.take n)).2 = [] :=
    length_eq_zero_iff.1 (by omega)
  rw [hnil, append_nil] at hcut
  rw [← hcut] at hnil ⊢
  rw [LineReader.pieces, hnil, if_pos rfl, append_nil]
  rfl

end Source

end FreeHsm.LineReader
