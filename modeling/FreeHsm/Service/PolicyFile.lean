import Mathlib.Data.List.DropRight
import Mathlib.Data.List.TakeDrop
import FreeHsm.ForStd.LineReader
import FreeHsm.Token.Store
import FreeHsm.Service.Serve

/-!
# The authorisation policy file

`policy_load` reads the rules of the service from a text file, one rule a line, with a
buffer of 512 bytes. What is in the buffer is a C string. A line that is longer than the
buffer comes in pieces, and every piece is taken for a line of its own.
-/

namespace FreeHsm.Service

open List

open LineReader (Source)

/-! ## The model -/

/-- `FHSM_AUDIT_ACTOR_MAX`. -/
def auditActorMax : Nat := 128

/-- `POLICY_MAX`. -/
def policyMax : Nat := 512

/-- The characters of one call of `fgets` with the line buffer, at most. -/
def policyLineMax : Nat := 511

/-- The text of a piece: what stands before a NUL, without the line end. -/
def lineText (piece : Bytes) : Bytes :=
  (cstr piece).rdropWhile fun b => b == 10 || b == 13

/-- What `policy_load` does with a piece. -/
inductive LineRule
  | skip
  | bad
  | rule (r : Rule)
  deriving DecidableEq

/-- One round of the loop in `policy_load`, up to the check that there is room. -/
def policyLine (piece : Bytes) : LineRule :=
  let text := lineText piece
  if text = [] ∨ text.head? = some 0x23 then .skip
  else
    match text.span (· != 9) with
    | (_, []) => .bad
    | (subject, _ :: key) =>
      if subject = [] ∨ key = [] ∨ 9 ∈ key then .bad
      else if auditActorMax ≤ subject.length ∨ maxKeyLabel ≤ key.length then .bad
      else .rule ⟨subject, key⟩

/-- The loop of `policy_load`: one bad line refuses the whole file. -/
def loadRules : (staging : List Rule) → (pieces : List Bytes) → Option (List Rule)
  | staging, [] => some staging
  | staging, piece :: pieces =>
    match policyLine piece with
    | .skip => loadRules staging pieces
    | .bad => none
    | .rule r =>
      if policyMax ≤ staging.length then none
      else loadRules (staging ++ [r]) pieces

/-- `policy_load`: the number of rules, or nothing for -1, and the rules in force afterwards. The
file is missing if it cannot be opened. -/
def policyLoad (inForce : List Rule) (file : Option (Source UInt8)) : Option Nat × List Rule :=
  match file with
  | none => (none, inForce)
  | some f =>
    match loadRules [] (f.pieces 10 policyLineMax) with
    | none => (none, inForce)
    | some rules => (some rules.length, rules)

/-! ## Lines and texts -/

/-- A text is a rule if it has a tab and is not a comment. -/
def IsRuleLine (l : Bytes) : Prop := 0 ∉ l ∧ 9 ∈ l ∧ l.head? ≠ some 0x23

/-- A line of the file that arrives as it is: no NUL in it, and no carriage return before its
end. -/
def Plain (l : Bytes) : Prop := 0 ∉ l ∧ l.getLast? ≠ some 13

theorem lineText_getLast (piece : Bytes) : (lineText piece).getLast? ≠ some 13 := by
  intro h
  have hne : lineText piece ≠ [] := by
    intro hnil
    rw [hnil] at h
    cases h
  have hlast := rdropWhile_last_not (fun b : UInt8 => b == 10 || b == 13) (cstr piece) hne
  rw [getLast?_eq_some_getLast hne] at h
  apply hlast
  have h13 : (lineText piece).getLast hne = 13 := Option.some.inj h
  unfold lineText at h13
  rw [h13]
  rfl

variable {l piece : Bytes} {rules : List Rule}

theorem lineText_of_plain (hl : Plain l) (hnl : 10 ∉ l) : lineText l = l := by
  rw [lineText, cstr_of_no_nul hl.1, rdropWhile_eq_self_iff]
  intro hne hlast
  rw [Bool.or_eq_true, beq_iff_eq, beq_iff_eq] at hlast
  rcases hlast with h10 | h13
  · exact hnl (h10 ▸ getLast_mem hne)
  · exact hl.2 (by rw [getLast?_eq_some_getLast hne, h13])

theorem lineText_of_plain_newline (hl : Plain l) (hnl : 10 ∉ l) : lineText (l ++ [10]) = l := by
  have hnul : 0 ∉ l ++ [10] := by
    intro h
    rcases mem_append.1 h with h | h
    · exact hl.1 h
    · exact absurd h (by decide)
  have htext := lineText_of_plain hl hnl
  rw [lineText, cstr_of_no_nul hl.1] at htext
  rw [lineText, cstr_of_no_nul hnul, rdropWhile_concat_pos _ _ _ rfl]
  exact htext

/-! ## Rules and texts -/

theorem policyLine_rule {r : Rule} (h : policyLine piece = .rule r) :
    lineText piece = r.subject ++ 9 :: r.key ∧ (lineText piece).head? ≠ some 0x23 ∧
      9 ∉ r.subject ∧ 9 ∉ r.key ∧ r.subject.length < auditActorMax ∧ r.key.length < maxKeyLabel := by
  unfold policyLine at h
  dsimp only at h
  by_cases hskip : lineText piece = [] ∨ (lineText piece).head? = some 0x23
  · rw [if_pos hskip] at h
    cases h
  rw [if_neg hskip, span_eq_takeWhile_dropWhile] at h
  have hjoin := takeWhile_append_dropWhile (p := (· != 9)) (l := lineText piece)
  have hsubject : 9 ∉ (lineText piece).takeWhile (· != 9) := by
    intro h9
    exact absurd (all_eq_true.1 all_takeWhile 9 h9) (by decide)
  rcases hkey : (lineText piece).dropWhile (· != 9) with _ | ⟨tab, key⟩
  · rw [hkey] at h
    cases h
  · have htab : tab = 9 := by
      have := head?_dropWhile_not (p := (· != 9)) (lineText piece)
      rw [hkey] at this
      simpa using this
    rw [hkey] at h hjoin
    dsimp only at h
    split at h
    · cases h
    rename_i hform
    split at h
    · cases h
    rename_i hlong
    cases h
    rw [htab] at hjoin
    rw [not_or, not_or] at hform
    rw [not_or, Nat.not_le, Nat.not_le] at hlong
    exact ⟨hjoin.symm, fun hc => hskip (.inr hc), hsubject, hform.2.2, hlong.1, hlong.2⟩

theorem policyLine_of_text (hbad : policyLine piece ≠ .bad) (hne : lineText piece ≠ [])
    (hcomment : (lineText piece).head? ≠ some 0x23) : ∃ r, policyLine piece = .rule r := by
  cases hline : policyLine piece with
  | rule r => exact ⟨r, rfl⟩
  | bad => exact absurd hline hbad
  | skip =>
    unfold policyLine at hline
    dsimp only at hline
    rw [if_neg (not_or.2 ⟨hne, hcomment⟩)] at hline
    split at hline
    · cases hline
    split at hline
    · cases hline
    · split at hline <;> cases hline

theorem loadRules_some {staging : List Rule} {pieces : List Bytes}
    (h : loadRules staging pieces = some rules) :
    (∀ r, r ∈ rules ↔ r ∈ staging ∨ ∃ piece ∈ pieces, policyLine piece = .rule r) ∧
      ∀ piece ∈ pieces, policyLine piece ≠ .bad := by
  induction pieces generalizing staging with
  | nil =>
    cases h
    exact ⟨fun r => by simp, nofun⟩
  | cons piece pieces ih =>
    rw [loadRules] at h
    cases hline : policyLine piece with
    | skip =>
      rw [hline] at h
      obtain ⟨hmem, hbad⟩ := ih h
      refine ⟨fun r => by simp [hmem, hline], ?_⟩
      simpa [hline] using hbad
    | bad =>
      rw [hline] at h
      cases h
    | rule r =>
      rw [hline] at h
      dsimp only at h
      split at h
      · cases h
      obtain ⟨hmem, hbad⟩ := ih h
      refine ⟨fun r' => ?_, by simpa [hline] using hbad⟩
      rw [hmem, mem_append, mem_singleton, or_assoc]
      simp [hline, eq_comm]

/-- In a file that is not refused, the pairs that are permitted are the texts of the pieces. -/
theorem permits_iff_text {pieces : List Bytes} (h : loadRules [] pieces = some rules) (s k : Bytes) :
    permits rules s k = true ↔
      (∃ piece ∈ pieces, lineText piece = s ++ 9 :: k) ∧ (s ++ 9 :: k).head? ≠ some 0x23 := by
  obtain ⟨hmem, hbad⟩ := loadRules_some h
  rw [permits, any_eq_true]
  constructor
  · rintro ⟨r, hr, heq⟩
    rw [Bool.and_eq_true, beq_iff_eq, beq_iff_eq] at heq
    obtain ⟨piece, hpiece, hline⟩ := ((hmem r).1 hr).resolve_left not_mem_nil
    obtain ⟨htext, hcomment, -⟩ := policyLine_rule hline
    rw [heq.1, heq.2] at htext
    exact ⟨⟨piece, hpiece, htext⟩, htext ▸ hcomment⟩
  · rintro ⟨⟨piece, hpiece, htext⟩, hcomment⟩
    obtain ⟨r, hline⟩ := policyLine_of_text (hbad piece hpiece) (by simp [htext])
      (htext ▸ hcomment)
    obtain ⟨hrule, -, hsubject, hkey, -⟩ := policyLine_rule hline
    -- the text has one tab, so it is cut in one way only
    obtain ⟨hs, -, hk⟩ :=
      (append_cons_inj_of_notMem hsubject hkey).1 (hrule.symm.trans htext)
    exact ⟨r, (hmem r).2 (.inr ⟨piece, hpiece, hline⟩), by simp [hs, hk]⟩

/-! ## When the rules are the lines of the file -/

/-- The rules of a file are its lines that are no comments. -/
def RulesAreLines (text : Bytes) (rules : List Rule) : Prop :=
  ∀ s k, 0 ∉ s → 0 ∉ k →
    (permits rules s k = true ↔
      s ++ 9 :: k ∈ text.splitOn 10 ∧ (s ++ 9 :: k).head? ≠ some 0x23)

/-- A piece that is one plain line of the file, with or without its newline. -/
def IsWholeLine (text piece : Bytes) : Prop :=
  ∃ l ∈ text.splitOn 10, Plain l ∧ (piece = l ∨ piece = l ++ [10])

/-- The file reads as it is written. -/
structure ReadsAsWritten (f : Source UInt8) : Prop where
  /-- A rule fits into the buffer and has no carriage return at its end. -/
  whole : ∀ l ∈ f.text.splitOn 10, IsRuleLine l → l.length ≤ policyLineMax ∧ Plain l
  /-- A rule that reading did not reach has been read before. -/
  reached : ∀ l ∈ f.text.splitOn 10, IsRuleLine l → l ∉ f.linesRead 10 →
    ∃ piece ∈ f.pieces 10 policyLineMax, lineText piece = l
  /-- A piece that is not a line of the file, because the line is longer than the buffer, has a NUL
  in it or a carriage return at its end, reads as nothing, as a comment or as a line of the file. -/
  odd : ∀ piece ∈ f.pieces 10 policyLineMax, ¬ IsWholeLine f.text piece →
    lineText piece = [] ∨ (lineText piece).head? = some 0x23 ∨ lineText piece ∈ f.text.splitOn 10

/-- The text of a whole line is the line. -/
theorem IsWholeLine.mem {text : Bytes} (h : IsWholeLine text piece) :
    lineText piece ∈ text.splitOn 10 := by
  obtain ⟨l, hl, hplain, hpiece⟩ := h
  have hnl : 10 ∉ l := LineReader.newline_not_mem_line hl
  rcases hpiece with rfl | rfl
  · rw [lineText_of_plain hplain hnl]
    exact hl
  · rw [lineText_of_plain_newline hplain hnl]
    exact hl

theorem isRuleLine_of_pair {s k : Bytes} (hs : 0 ∉ s) (hk : 0 ∉ k)
    (hcomment : (s ++ 9 :: k).head? ≠ some 0x23) : IsRuleLine (s ++ 9 :: k) := by
  refine ⟨?_, by simp, hcomment⟩
  intro h0
  rcases mem_append.1 h0 with h0 | h0
  · exact hs h0
  · rcases mem_cons.1 h0 with h0 | h0
    · exact absurd h0 (by decide)
    · exact hk h0

theorem rulesAreLines_of_reads {f : Source UInt8}
    (h : loadRules [] (f.pieces 10 policyLineMax) = some rules) (hreads : ReadsAsWritten f) :
    RulesAreLines f.text rules := by
  intro s k hs hk
  rw [permits_iff_text h]
  refine and_congr_left fun hcomment => ?_
  constructor
  · rintro ⟨piece, hpiece, htext⟩
    by_cases hwhole : IsWholeLine f.text piece
    · exact htext ▸ hwhole.mem
    · have hne : lineText piece ≠ [] := by simp [htext]
      rcases hreads.odd piece hpiece hwhole with hnil | hc | hl
      · exact absurd hnil hne
      · exact absurd (htext ▸ hc) hcomment
      · exact htext ▸ hl
  · intro hl
    have hrule := isRuleLine_of_pair hs hk hcomment
    obtain ⟨hlen, hplain⟩ := hreads.whole _ hl hrule
    have hnl := LineReader.newline_not_mem_line hl
    by_cases hread : s ++ 9 :: k ∈ f.linesRead 10
    · rcases f.mem_pieces policyLineMax hread (by simp) hlen with hp | hp
      · exact ⟨_, hp, lineText_of_plain hplain hnl⟩
      · exact ⟨_, hp, lineText_of_plain_newline hplain hnl⟩
    · exact hreads.reached _ hl hrule hread

theorem reads_of_rulesAreLines {f : Source UInt8}
    (h : loadRules [] (f.pieces 10 policyLineMax) = some rules)
    (hlines : RulesAreLines f.text rules) : ReadsAsWritten f := by
  obtain ⟨-, hbad⟩ := loadRules_some h
  -- a rule line is the text of a piece
  have hpiece : ∀ l ∈ f.text.splitOn 10, IsRuleLine l →
      ∃ piece ∈ f.pieces 10 policyLineMax, lineText piece = l := by
    intro l hl hrule
    obtain ⟨s, k, rfl⟩ := append_of_mem hrule.2.1
    have hs : 0 ∉ s := fun h0 => hrule.1 (mem_append_left _ h0)
    have hk : 0 ∉ k := fun h0 => hrule.1 (mem_append_right _ (mem_cons_of_mem _ h0))
    exact ((permits_iff_text h s k).1 ((hlines s k hs hk).2 ⟨hl, hrule.2.2⟩)).1
  refine ⟨?_, fun l hl hrule _ => hpiece l hl hrule, ?_⟩
  · intro l hl hrule
    obtain ⟨piece, hmem, htext⟩ := hpiece l hl hrule
    have hne : lineText piece ≠ [] := by
      rw [htext]
      exact ne_nil_of_mem hrule.2.1
    obtain ⟨r, hline⟩ := policyLine_of_text (hbad piece hmem) hne (htext ▸ hrule.2.2)
    obtain ⟨hjoin, -, -, -, hslen, hklen⟩ := policyLine_rule hline
    refine ⟨?_, hrule.1, htext ▸ lineText_getLast piece⟩
    rw [← htext, hjoin, length_append, length_cons]
    unfold auditActorMax at hslen
    unfold maxKeyLabel at hklen
    unfold policyLineMax
    omega
  · intro piece hmem _
    by_cases hne : lineText piece = []
    · exact .inl hne
    by_cases hcomment : (lineText piece).head? = some 0x23
    · exact .inr (.inl hcomment)
    right; right
    obtain ⟨r, hline⟩ := policyLine_of_text (hbad piece hmem) hne hcomment
    obtain ⟨hjoin, -⟩ := policyLine_rule hline
    have hnul : 0 ∉ lineText piece := by
      intro h
      have hmem : 0 ∈ cstr piece := (List.rdropWhile_prefix _ _).subset h
      exact absurd (ne_zero_of_mem_cstr hmem) (by decide)
    rw [hjoin] at hnul hcomment ⊢
    refine ((hlines r.subject r.key ?_ ?_).1 ?_).1
    · exact fun h0 => hnul (mem_append_left _ h0)
    · exact fun h0 => hnul (mem_append_right _ (mem_cons_of_mem _ h0))
    · exact (permits_iff_text h _ _).2 ⟨⟨piece, hmem, hjoin⟩, hcomment⟩

/-! ## The load -/

/-- A file that is refused leaves the rules in force as they were; the rules of any other file are
its lines exactly if it reads as it is written. -/
theorem policyLoad_permits_iff (inForce : List Rule) (file : Option (Source UInt8)) :
    ((policyLoad inForce file).1 = none → (policyLoad inForce file).2 = inForce) ∧
    ∀ f n, file = some f → (policyLoad inForce file).1 = some n →
      (RulesAreLines f.text (policyLoad inForce file).2 ↔ ReadsAsWritten f) := by
  unfold policyLoad
  cases file with
  | none => exact ⟨fun _ => rfl, nofun⟩
  | some f =>
    cases hload : loadRules [] (f.pieces 10 policyLineMax) with
    | none => exact ⟨fun _ => by simp only [hload], fun f' n _ h => by simp [hload] at h⟩
    | some rules =>
      simp only [hload]
      refine ⟨nofun, fun f' n hf _ => ?_⟩
      cases hf
      exact ⟨reads_of_rulesAreLines hload, rulesAreLines_of_reads hload⟩

/-- A comment, `CN=a` with the key `k`, and `CN=b` with the key `l`. -/
def twoRules : Source UInt8 :=
  { text := [0x23, 9, 10, 0x43, 0x4E, 0x3D, 0x61, 9, 0x6B, 10, 0x43, 0x4E, 0x3D, 0x62, 9, 0x6C, 10] }

/-- The rules are the two lines. -/
theorem policyLoad_permits_iff_twoRules : (policyLoad [] (some twoRules)).1 = some 2 ∧
      ReadsAsWritten twoRules ∧ RulesAreLines twoRules.text (policyLoad [] (some twoRules)).2 := by
  have hload : (policyLoad [] (some twoRules)).1 = some 2 := by decide
  have hreads : ReadsAsWritten twoRules := by
    refine ⟨?_, ?_, ?_⟩
    · unfold IsRuleLine Plain
      decide +kernel
    · unfold IsRuleLine
      decide +kernel
    · unfold IsWholeLine Plain
      decide +kernel
  exact ⟨hload, hreads,
    ((policyLoad_permits_iff [] (some twoRules)).2 twoRules 2 rfl hload).2 hreads⟩

/-- A comment of 519 characters. The buffer is full after 511 of them, and what follows reads
`evil`, a tab and `key`. -/
def longComment : Source UInt8 :=
  { text := 0x23 :: List.replicate 510 0x78 ++ [0x65, 0x76, 0x69, 0x6C, 9, 0x6B, 0x65, 0x79, 10] }

/-- The end of a long comment becomes a rule. -/
theorem comment_becomes_rule : (policyLoad [] (some longComment)).1 = some 1 ∧
      ¬ RulesAreLines longComment.text (policyLoad [] (some longComment)).2 := by
  refine ⟨by decide +kernel, fun hlines => ?_⟩
  have hpermits : permits (policyLoad [] (some longComment)).2 [0x65, 0x76, 0x69, 0x6C]
      [0x6B, 0x65, 0x79] = true := by decide +kernel
  have hline := ((hlines _ _ (by decide) (by decide)).1 hpermits).1
  exact absurd hline (by decide +kernel)

end FreeHsm.Service
