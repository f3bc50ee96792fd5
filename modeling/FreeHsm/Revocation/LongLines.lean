import Mathlib.Data.List.Infix
import FreeHsm.Revocation.DbRead

/-!
# Lines that do not fit into the buffer

A line that is longer than the buffer is read in pieces, each as if it were a line. If the
line is of the format and every piece reads, the fields of the line are in one piece and
the others are blank: a field that is cut, or a piece with one field only, would be
refused. A comment is different, for its pieces need not be comments.
-/

namespace FreeHsm.Revocation

open LineReader (Source terminated)
open TextFields List LineReader

/-! ## Parts of a line -/

theorem content_append (a b : Bytes) :
    content (a ++ b) = if content b = [] then content a else a ++ content b := by
  simp only [content, List.rdropWhile, List.reverse_append, List.dropWhile_append,
    List.isEmpty_iff, List.reverse_eq_nil_iff]
  split <;> simp

theorem Clean.of_append {a b : Bytes} (h : Clean (a ++ b)) : Clean a ∧ Clean b := by
  unfold Clean at h ⊢
  rw [content_append] at h
  by_cases hb : content b = []
  · rw [if_pos hb] at h
    rw [hb]
    exact ⟨h, by decide⟩
  · rw [if_neg hb] at h
    have ha : ∀ c, c ∉ a ++ content b → c ∉ content a := by
      intro c hc hmem
      exact hc (mem_append_left _ ((List.rdropWhile_prefix _ _).subset hmem))
    have hb' : ∀ c, c ∉ a ++ content b → c ∉ content b :=
      fun c hc hmem => hc (mem_append_right _ hmem)
    exact ⟨⟨ha _ h.1, ha _ h.2.1, ha _ h.2.2⟩, ⟨hb' _ h.1, hb' _ h.2.1, hb' _ h.2.2⟩⟩

variable {o : Option Item} {item : Item} {ps : List Bytes} {v : Bytes}

/-! ## A line of the format in pieces -/

/-- How the only word of a piece that reads starts. -/
def Starts (w : Bytes) : Prop := w.head? = some 0x23 ∨ text "crlNumber" <+: w

theorem Starts.append {u : Bytes} (h : Starts u) (v : Bytes) : Starts (u ++ v) := by
  rcases h with h | h
  · left
    cases u with
    | nil => cases h
    | cons b u => exact h
  · exact .inr (h.trans (prefix_append u v))

theorem starts_of_reads {w : Bytes} (h : Reads [w] o) : Starts w := by
  cases h with
  | blank h => cases h
  | comment w' rest h =>
    rw [(cons.inj h).1]
    exact .inl rfl
  | number operand v h hv =>
    rw [(cons.inj h).1]
    exact .inr (prefix_refl _)
  | entry e sr dt rs h => cases h

/-- If the pieces of a text read and it has one word, it starts as such a piece does. -/
theorem starts_of_pieces (hread : ∀ p ∈ ps, ∃ o, Reads (words isSpace p) o)
    (hv : words isSpace ps.flatten = [v]) : Starts v := by
  induction ps with
  | nil =>
    rw [flatten_nil, words_nil] at hv
    cases hv
  | cons p ps ih =>
    obtain ⟨o, ho⟩ := hread p mem_cons_self
    rw [flatten_cons] at hv
    rcases @words_append _ isSpace p ps.flatten with happ | ⟨xs, u, v', ys, -, -, hp, -, hjoin⟩
    · rw [happ, append_eq_singleton_iff] at hv
      rcases hv with ⟨-, hrest⟩ | ⟨hp, -⟩
      · exact ih (fun q hq => hread q (mem_cons_of_mem _ hq)) hrest
      · rw [hp] at ho
        exact starts_of_reads ho
    · rw [hjoin, append_eq_singleton_iff] at hv
      rcases hv with ⟨rfl, hv⟩ | ⟨-, hv⟩
      · rw [hp] at ho
        rw [← (cons.inj hv).1]
        exact (starts_of_reads ho).append v'
      · cases hv

theorem not_starts_number {n : Bytes} (hn : IsNumber n) (hv : v ≠ []) (hsuffix : v <:+ n) :
    ¬ Starts v := by
  obtain ⟨b, v, rfl⟩ := exists_cons_of_ne_nil hv
  have hb : isDigit b = true :=
    all_eq_true.1 hn.1 b (hsuffix.subset mem_cons_self)
  rintro (h | ⟨t, h⟩)
  · rw [Option.some.inj h] at hb
    cases hb
  · have h63 : (0x63 : UInt8) = b := (cons.inj h).1
    rw [← h63] at hb
    cases hb

theorem not_starts_reason {rs : Bytes} {reason : Option Reason}
    (hr : readReason (some rs) = .ok reason) (hsuffix : v <:+ rs) : ¬ Starts v := by
  have hall : ∀ rs ∈ text "-" :: Reason.all.map Reason.name, ∀ v ∈ rs.tails,
      ¬ (v.head? = some 0x23 ∨ text "crlNumber" <+: v) := by decide +kernel
  exact hall rs (readReason_some hr) v ((mem_tails v rs).2 hsuffix)

theorem not_starts_serial {sr : Bytes} {serial : Serial} (h : Serial.read sr = some serial) :
    ¬ Starts sr := by
  obtain ⟨hpairs, -⟩ := hexPairs_of_hexToBytes (Serial.read_some h)
  rintro (hmark | ⟨t, rfl⟩)
  · cases sr with
    | nil => cases hmark
    | cons b sr =>
      obtain rfl : b = 0x23 := Option.some.inj hmark
      cases sr with
      | nil => cases hpairs
      | cons lo sr =>
        obtain ⟨x, _, _, hx, -⟩ := hexPairs_cons hpairs
        cases hx
  · obtain ⟨_, y, _, -, hy, -⟩ := hexPairs_cons hpairs
    cases hy

/-- The first word of a line of the format is a serial or the word `crlNumber`. -/
theorem Said.head_not_starts {w : Bytes} {ws : List Bytes} (h : Said (w :: ws) item)
    (hw : w ≠ text "crlNumber") : ¬ Starts w := by
  cases h with
  | number n h => exact absurd (cons.inj h).1 hw
  | entry e sr dt rs h hrs hs =>
    rw [(cons.inj h).1]
    exact not_starts_serial hs

/-- A third word that follows a serial and a date is a reason. -/
theorem Said.reason {sr dt : Bytes} {more : List Bytes} {serial : Serial}
    (h : Said (sr :: dt :: more) item) (hs : Serial.read sr = some serial) :
    more = [] ∨ ∃ rs reason, more = [rs] ∧ readReason (some rs) = .ok reason := by
  cases h with
  | number n h => exact absurd (cons.inj h).1 (serial_ne_crlNumber hs)
  | entry e sr' dt' rs h hrs _ _ hr =>
    obtain ⟨-, h⟩ := cons.inj h
    rw [(cons.inj h).2]
    cases rs with
    | nil => exact .inl rfl
    | cons r rs =>
      obtain rfl : rs = [] := length_eq_zero_iff.1 (Nat.le_zero.1 (Nat.le_of_succ_le_succ hrs))
      exact .inr ⟨r, e.reason, rfl, hr⟩

theorem Said.operand {more : List Bytes} (h : Said (text "crlNumber" :: more) item) :
    ∃ n, more = [n] ∧ IsNumber n := by
  cases h with
  | number n h hn => exact ⟨n, (cons.inj h).2, hn⟩
  | entry e sr dt rs h hrs hs => exact absurd (cons.inj h).1.symm (serial_ne_crlNumber hs)

/-- Words that follow a piece with words, in a line of the format, if no word is cut. -/
theorem not_said_append {rest : List Bytes} (hp : Reads ps o) (hne : ps ≠ []) (hnil : rest ≠ [])
    (hrest : ∀ v, rest = [v] → Starts v ∧ v ≠ []) : ¬ Said (ps ++ rest) item := by
  intro hsaid
  cases hp with
  | blank h => exact hne h
  | comment w more h =>
    rw [h] at hsaid
    exact hsaid.head_not_starts (by intro h; cases (cons.inj h).1) (.inl rfl)
  | number operand v h hv =>
    rw [h] at hsaid
    obtain ⟨n, hn, hnumber⟩ := hsaid.operand
    rcases append_eq_singleton_iff.1 hn with ⟨-, hn⟩ | ⟨-, hn⟩
    · obtain ⟨hstarts, hne'⟩ := hrest n hn
      exact not_starts_number hnumber hne' (suffix_refl n) hstarts
    · exact hnil hn
  | entry e sr dt rs h hs =>
    rw [h] at hsaid
    rcases hsaid.reason hs with hmore | ⟨r, reason, hmore, hr⟩
    · exact hnil (append_eq_nil_iff.1 hmore).2
    · rcases append_eq_singleton_iff.1 hmore with ⟨-, hr'⟩ | ⟨-, hr'⟩
      · exact not_starts_reason hr (suffix_refl r) (hrest r hr').1
      · exact hnil hr'

theorem not_said_cut {xs ys : List Bytes} {u : Bytes} (hp : Reads (xs ++ [u]) o) (hv : v ≠ [])
    (hrest : ys = [] → Starts v) : ¬ Said (xs ++ (u ++ v) :: ys) item := by
  intro hsaid
  generalize hps : xs ++ [u] = ps at hp
  cases hp with
  | blank h =>
    rw [h] at hps
    exact append_ne_nil_of_right_ne_nil xs (cons_ne_nil u []) hps
  | comment w more h =>
    rw [h] at hps
    cases xs with
    | nil =>
      rw [(cons.inj hps).1] at hsaid
      exact hsaid.head_not_starts (by intro h; cases (cons.inj h).1) (.inl rfl)
    | cons x xs =>
      rw [(cons.inj hps).1] at hsaid
      exact hsaid.head_not_starts (by intro h; cases (cons.inj h).1) (.inl rfl)
  | number operand n h _ =>
    rw [h] at hps
    cases xs with
    | nil =>
      -- the word `crlNumber` would go on
      rw [(cons.inj hps).1] at hsaid
      refine hsaid.head_not_starts ?_ (.inr (prefix_append _ v))
      intro hkw
      exact hv (append_right_eq_self.1 hkw)
    | cons x xs =>
      rw [(cons.inj hps).1] at hsaid
      obtain ⟨n, hn, hnumber⟩ := hsaid.operand
      rcases append_eq_singleton_iff.1 hn with ⟨-, hn⟩ | ⟨-, hn⟩
      · obtain ⟨hword, hys⟩ := cons.inj hn
        exact not_starts_number hnumber hv ⟨u, hword⟩ (hrest hys)
      · cases hn
  | entry e sr dt rs h hs hd =>
    rw [h] at hps
    cases xs with
    | nil => cases (cons.inj hps).2
    | cons x xs =>
      obtain ⟨rfl, htail⟩ := cons.inj hps
      cases xs with
      | nil =>
        -- the date would go on
        obtain ⟨rfl, -⟩ := cons.inj htail
        cases hsaid with
        | number n h => exact serial_ne_crlNumber hs (cons.inj h).1
        | entry e' sr' dt' rs' h _ _ hd' =>
          obtain ⟨-, h⟩ := cons.inj h
          obtain ⟨-, hlen, -⟩ := Date.read_some hd
          obtain ⟨-, hlen', -⟩ := Date.read_some hd'
          rw [← (cons.inj h).1, length_append, hlen] at hlen'
          exact hv (length_eq_zero_iff.1 (by omega))
      | cons y xs =>
        rcases hsaid.reason hs with hmore | ⟨r, reason, hmore, hr⟩
        · exact append_ne_nil_of_right_ne_nil xs (cons_ne_nil _ _) hmore
        · rcases append_eq_singleton_iff.1 hmore with ⟨-, hr'⟩ | ⟨-, hr'⟩
          · obtain ⟨hword, hys⟩ := cons.inj hr'
            exact not_starts_reason hr ⟨u, hword⟩ (hrest hys)
          · cases hr'

/-- What a piece reads as if it has all words of a line of the format. -/
theorem item_of_reads {ws : List Bytes} (h : Reads ws o) (hsaid : Said ws item) :
    o = some item := by
  cases h with
  | blank h =>
    rw [h] at hsaid
    cases hsaid with
    | number n h => cases h
    | entry e sr dt rs h => cases h
  | comment w rest h =>
    rw [h] at hsaid
    exact absurd (.inl rfl) (hsaid.head_not_starts (by intro h; cases (cons.inj h).1))
  | number operand v h hv =>
    rw [h] at hsaid
    cases hsaid with
    | number n h hn => rw [readNumber_of_words hn (cons.inj h).2 hv]
    | entry e sr dt rs h hrs hs => exact absurd (cons.inj h).1.symm (serial_ne_crlNumber hs)
  | entry e sr dt rs h hs hd hr =>
    rw [h] at hsaid
    cases hsaid with
    | number n h => exact absurd (cons.inj h).1 (serial_ne_crlNumber hs)
    | entry e' sr' dt' rs' h _ hs' hd' hr' =>
      obtain ⟨rfl, htail⟩ := cons.inj h
      obtain ⟨rfl, rfl⟩ := cons.inj htail
      have hserial : e.serial = e'.serial := Option.some.inj (hs.symm.trans hs')
      have hdate : e.date = e'.date := Option.some.inj (hd.symm.trans hd')
      have hreason : e.reason = e'.reason := Except.ok.inj (hr.symm.trans hr')
      cases e
      cases e'
      simp only at hserial hdate hreason
      rw [hserial, hdate, hreason]

theorem item_of_blank (h : Reads [] o) : o = none := by
  cases h with
  | blank => rfl
  | comment w rest h => rfl
  | number operand v h => cases h
  | entry e sr dt rs h => cases h

theorem words_eq_nil_of_mem (h : words isSpace ps.flatten = []) :
    ∀ p ∈ ps, words isSpace p = [] := by
  induction ps with
  | nil => nofun
  | cons p ps ih =>
    rw [flatten_cons] at h
    rcases @words_append _ isSpace p ps.flatten with happ | ⟨xs, u, v, ys, -, -, -, -, hjoin⟩
    · rw [happ, append_eq_nil_iff] at h
      intro q hq
      rcases mem_cons.1 hq with rfl | hq
      · exact h.1
      · exact ih h.2 q hq
    · rw [hjoin] at h
      exact absurd h (append_ne_nil_of_right_ne_nil xs (cons_ne_nil _ _))

theorem items_of_blank (hclean : ∀ p ∈ ps, Clean p) (hread : ∀ p ∈ ps, ∃ o, readPiece p = .ok o)
    (h : words isSpace ps.flatten = []) : ps.flatMap pieceItems = [] := by
  rw [flatMap_eq_nil_iff]
  intro p hp
  obtain ⟨o, ho⟩ := hread p hp
  have hreads := reads_of_readPiece (hclean p hp) ho
  rw [words_eq_nil_of_mem h p hp] at hreads
  rw [pieceItems_of_ok ho, item_of_blank hreads]
  rfl

theorem items_of_said (hclean : ∀ p ∈ ps, Clean p) (hread : ∀ p ∈ ps, ∃ o, readPiece p = .ok o)
    (hsaid : Said (words isSpace ps.flatten) item) : ps.flatMap pieceItems = [item] := by
  induction ps with
  | nil =>
    rw [flatten_nil, words_nil] at hsaid
    cases hsaid with
    | number n h => cases h
    | entry e sr dt rs h => cases h
  | cons p ps ih =>
    obtain ⟨o, ho⟩ := hread p mem_cons_self
    have hp := reads_of_readPiece (hclean p mem_cons_self) ho
    have hclean' : ∀ q ∈ ps, Clean q := fun q hq => hclean q (mem_cons_of_mem _ hq)
    have hread' : ∀ q ∈ ps, ∃ o, readPiece q = .ok o :=
      fun q hq => hread q (mem_cons_of_mem _ hq)
    have hreads : ∀ q ∈ ps, ∃ o, Reads (words isSpace q) o := by
      intro q hq
      obtain ⟨o, ho⟩ := hread' q hq
      exact ⟨o, reads_of_readPiece (hclean' q hq) ho⟩
    rw [flatMap_cons, pieceItems_of_ok ho]
    rw [flatten_cons] at hsaid
    by_cases hblank : words isSpace p = []
    · -- the words are in what follows
      rw [hblank] at hp
      rw [item_of_blank hp]
      rw [words_append_of_nil_left hblank] at hsaid
      exact ih hclean' hread' hsaid
    · have hrest : words isSpace ps.flatten = [] := by
        by_contra hnil
        rcases @words_append _ isSpace p ps.flatten with happ | ⟨xs, u, v, ys, -, hv, hpw, hrw, hjoin⟩
        · rw [happ] at hsaid
          refine not_said_append hp hblank hnil (fun w hw => ?_) hsaid
          exact ⟨starts_of_pieces hreads hw, ne_nil_of_mem_words (hw ▸ mem_singleton_self w)⟩
        · rw [hjoin] at hsaid
          rw [hpw] at hp
          refine not_said_cut hp hv (fun hys => ?_) hsaid
          rw [hys] at hrw
          exact starts_of_pieces hreads hrw
      rw [words_append_of_nil_right hrest] at hsaid
      rw [items_of_blank hclean' hread' hrest, item_of_reads hp hsaid]
      rfl

theorem Clean.of_mem (h : Clean ps.flatten) : ∀ p ∈ ps, Clean p := by
  induction ps with
  | nil => nofun
  | cons p ps ih =>
    rw [flatten_cons] at h
    obtain ⟨hp, hps⟩ := h.of_append
    intro q hq
    rcases mem_cons.1 hq with rfl | hq
    · exact hp
    · exact ih hps q hq

/-- A line of the format that is no comment contributes what it says, however long it is. -/
theorem contribution_of_item {text line : Bytes} (hline : line ∈ terminated 10 text)
    (hc : ¬ IsComment line) (ho : lineItem line = some o)
    (hread : ∀ piece ∈ pieces 10 lineMax line, ∃ o, readPiece piece = .ok o) :
    contribution line = o.toList := by
  obtain ⟨h0, h13, -⟩ := (lineSound_of_lineItem ho).resolve_left hc
  have hclean : Clean line := ⟨h0, newline_not_mem_content hline, h13⟩
  have hflat : (pieces 10 lineMax line).flatten = line := flatten_pieces _ _
  have hwords : words isSpace (pieces 10 lineMax line).flatten = fields line := by
    rw [hflat, hclean.words_eq]
  have hpieces : ∀ p ∈ pieces 10 lineMax line, Clean p := by
    apply Clean.of_mem
    rw [hflat]
    exact hclean
  unfold contribution
  rcases said_of_lineItem hc ho with ⟨hblank, rfl⟩ | ⟨item, rfl, hsaid⟩
  · exact items_of_blank hpieces hread (hwords.trans hblank)
  · exact items_of_said hpieces hread (hwords ▸ hsaid)

/-! ## When every line counts -/

/-- The whole file was read, and every line contributed exactly what it says. -/
structure EveryLineCounts (f : Source UInt8) : Prop where
  whole : f.Whole 10 lineMax
  lines : ∀ line ∈ terminated 10 f.text,
    ∃ item, lineItem line = some item ∧ contribution line = item.toList

/-- Reading does not fail before the end of the file, and no line is of a kind that the reader takes
for something else. -/
structure ReadsAsWritten (f : Source UInt8) : Prop where
  whole : f.Whole 10 lineMax
  sound : ∀ line ∈ terminated 10 f.text, LineFits line → LineSound line
  /-- A comment that is longer than the buffer is blank or a comment again where the buffer ends. -/
  longComment : ∀ line ∈ terminated 10 f.text, ¬ LineFits line → IsComment line →
    ∀ piece ∈ LineReader.pieces 10 lineMax line,
      lineText piece = [] ∨ (lineText piece).head? = some 0x23
  /-- Any other line that is longer than the buffer is of the format. -/
  longLine : ∀ line ∈ terminated 10 f.text, ¬ LineFits line → ¬ IsComment line →
    (lineItem line).isSome = true

theorem skip_of_readPiece {piece : Bytes} (h : readPiece piece = .ok none) :
    lineText piece = [] ∨ (lineText piece).head? = some 0x23 := by
  by_contra hskip
  cases hop : numberOperand (lineText piece) with
  | some operand =>
    obtain ⟨v, -, hv⟩ := readPiece_of_operand hskip hop h
    cases hv
  | none =>
    obtain ⟨e, -, he⟩ := readPiece_of_entry hskip hop h
    cases he

theorem everyLineCounts_iff {grows : Nat → Bool} {f : Source UInt8} {d : Db}
    (h : loadPieces grows 0 {} false (f.pieces 10 lineMax) = .ok d) :
    EveryLineCounts f ↔ ReadsAsWritten f := by
  obtain ⟨hread, -⟩ := loadPieces_ok h
  -- every piece of every line has been read
  have hlines : f.Whole 10 lineMax → ∀ line ∈ terminated 10 f.text,
      ∀ piece ∈ pieces 10 lineMax line, ∃ o, readPiece piece = .ok o := by
    intro hwhole line hline piece hpiece
    apply hread
    rw [hwhole.pieces_eq, pieces_eq_flatMap]
    exact mem_flatMap.2 ⟨line, hline, hpiece⟩
  constructor
  · intro hcounts
    refine ⟨hcounts.whole, fun line hline _ => ?_, fun line hline _ hc piece hpiece => ?_,
      fun line hline _ _ => ?_⟩
    · obtain ⟨item, hitem, -⟩ := hcounts.lines line hline
      exact lineSound_of_lineItem hitem
    · obtain ⟨item, hitem, hnone⟩ := hcounts.lines line hline
      obtain rfl : none = item := by
        rw [lineItem, if_pos hc] at hitem
        exact Option.some.inj hitem
      obtain ⟨o, ho⟩ := hlines hcounts.whole line hline piece hpiece
      have hempty : pieceItems piece = [] := flatMap_eq_nil_iff.1 hnone piece hpiece
      rw [pieceItems_of_ok ho, Option.toList_eq_nil_iff] at hempty
      rw [hempty] at ho
      exact skip_of_readPiece ho
    · obtain ⟨item, hitem, -⟩ := hcounts.lines line hline
      rw [hitem]
      rfl
  · intro hreads
    refine ⟨hreads.whole, fun line hline => ?_⟩
    have hpieces := hlines hreads.whole line hline
    by_cases hfits : LineFits line
    · obtain ⟨o, ho, hcontribution⟩ := contribution_of_fits hline hfits hpieces
      have hsound := hreads.sound line hline hfits
      exact ⟨o, lineItem_of_sound (newline_not_mem_content hline) hsound ho, hcontribution⟩
    by_cases hc : IsComment line
    · refine ⟨none, by rw [lineItem, if_pos hc], ?_⟩
      show (pieces 10 lineMax line).flatMap pieceItems = []
      rw [flatMap_eq_nil_iff]
      intro piece hpiece
      rw [pieceItems_of_ok (readPiece_of_skip (hreads.longComment line hline hfits hc piece hpiece))]
      rfl
    · obtain ⟨o, ho⟩ := Option.isSome_iff_exists.1 (hreads.longLine line hline hfits hc)
      exact ⟨o, ho, contribution_of_item hline hc ho hpieces⟩

end FreeHsm.Revocation
