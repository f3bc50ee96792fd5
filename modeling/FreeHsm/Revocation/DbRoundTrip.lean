import FreeHsm.Revocation.LongLines

/-!
# Saving and loading the database

Loading what `fhsm_rev_db_save` wrote gives the database back: every line it writes fits
into the buffer and is of the format.
-/

namespace FreeHsm.Revocation

open LineReader (Source terminated)
open TextFields List

/-! ## One round of the loop -/

variable {grows : Nat → Bool} {line : Nat} {d : Db} {piece : Bytes} {pieces : List Bytes}
  {b : UInt8}

theorem loadPieces_skip {seen : Bool} (h : lineText piece = [] ∨ (lineText piece).head? = some 0x23) :
    loadPieces grows line d seen (piece :: pieces) = loadPieces grows (line + 1) d seen pieces := by
  rw [loadPieces]
  exact if_pos h

/-! ## The characters of a line -/

theorem plainChar_hexByte {c : UInt8} (hc : c ∈ hexByte b) : PlainChar c ∧ c ≠ 0x23 ∧ c ≠ 0x63 := by
  have hall : ∀ b : UInt8, ∀ c ∈ hexByte b, PlainChar c ∧ c ≠ 0x23 ∧ c ≠ 0x63 := by
    apply forall_byte
    unfold PlainChar
    intro i
    refine all_iff_forall_prop.1 ?_
    revert i
    decide +kernel
  exact hall b c hc

theorem plainChar_date (date : Date) : ∀ b ∈ date.1, PlainChar b :=
  plainChar_of_date (dif_pos date.2 : Date.read date.1 = some date)

/-- The third field of a line. -/
def reasonText : Option Reason → Bytes
  | none => text "-"
  | some r => r.name

theorem readReason_reasonText (reason : Option Reason) :
    readReason (some (reasonText reason)) = .ok reason := by
  cases reason with
  | none => rfl
  | some r => cases r <;> rfl

theorem reasonText_plain (reason : Option Reason) :
    (∀ b ∈ reasonText reason, PlainChar b) ∧ reasonText reason ≠ [] ∧
      (reasonText reason).length ≤ 63 := by
  have hread := readReason_reasonText reason
  refine ⟨plainChar_of_reason hread, fun hnil => ?_, (length_reason hread).le⟩
  rw [hnil] at hread
  cases hread

theorem Entry.line_eq (e : Entry) :
    e.line = e.serial.1.flatMap hexByte ++ 0x20 :: (e.date.1 ++ 0x20 :: reasonText e.reason) := by
  unfold Entry.line reasonText
  rw [append_assoc]
  rfl

/-! ## Fields are read back -/

theorem hexPairs_hexByte (bs : Bytes) : hexPairs (bs.flatMap hexByte) = some bs := by
  have hbyte : ∀ b : UInt8, hexPairs (hexByte b) = some [b] := by
    apply forall_byte
    decide +kernel
  induction bs with
  | nil => rfl
  | cons b bs ih =>
    obtain ⟨x, y, bs', hx, hy, hnil, hb⟩ := hexPairs_cons (hbyte b)
    obtain rfl : [] = bs' := Option.some.inj hnil
    obtain ⟨hb, -⟩ := cons.inj hb
    rw [flatMap_cons]
    show hexPairs (_ :: _ :: bs.flatMap hexByte) = _
    rw [hexPairs, hx, hy, ih, hb]
    rfl

theorem length_hexByte (bs : Bytes) : (bs.flatMap hexByte).length = 2 * bs.length :=
  length_hexPairs (hexPairs_hexByte bs)

theorem Serial.read_hex (serial : Serial) :
    Serial.read (serial.1.flatMap hexByte) = some serial := by
  have hlen := length_hexByte serial.1
  have hpos := serial.2.1
  have hmax := serial.2.2
  have hhex : hexToBytes serialMax (serial.1.flatMap hexByte) = some serial.1 := by
    unfold hexToBytes
    rw [if_neg (by omega)]
    exact hexPairs_hexByte serial.1
  unfold Serial.read
  split
  · rename_i hnone
    rw [hhex] at hnone
    cases hnone
  · rename_i bs hbs
    obtain rfl : serial.1 = bs := Option.some.inj (hhex.symm.trans hbs)
    rfl

theorem scanWord_word (max : Nat) {w rest : Bytes} (hw : ∀ b ∈ w, isSpace b = false) (hne : w ≠ [])
    (hlen : w.length ≤ max) (hrest : ∀ b ∈ rest.head?, isSpace b = true) :
    scanWord max (w ++ rest) = some (w, rest) := by
  have hdrop : (w ++ rest).dropWhile isSpace = w ++ rest := by
    cases w with
    | nil => exact absurd rfl hne
    | cons b w =>
      rw [cons_append, dropWhile_cons_of_neg (by rw [hw b mem_cons_self]; decide)]
  have htake : (w ++ rest).takeWhile (fun b => !isSpace b) = w := by
    rw [takeWhile_append_of_pos fun b hb => by rw [hw b hb]; rfl]
    cases rest with
    | nil => exact append_nil w
    | cons b rest =>
      rw [takeWhile_cons_of_neg (by rw [hrest b rfl]; decide), append_nil]
  unfold scanWord
  dsimp only
  rw [hdrop, htake, if_neg (by simp [hne]), take_of_length_le hlen, drop_left]

theorem scanWord_space (max : Nat) (s : Bytes) : scanWord max (0x20 :: s) = scanWord max s := by
  unfold scanWord
  rw [dropWhile_cons_of_pos rfl]

theorem readEntry_line (e : Entry) : readEntry e.line = .ok e := by
  have hspace : ∀ s : Bytes, ∀ b ∈ (0x20 :: s).head?, isSpace b = true := by
    intro s b hb
    rw [← Option.some.inj hb]
    rfl
  have hserial : ∀ b ∈ e.serial.1.flatMap hexByte, isSpace b = false := by
    intro b hb
    obtain ⟨_, -, hb⟩ := mem_flatMap.1 hb
    exact (plainChar_hexByte hb).1.2
  have hslen := length_hexByte e.serial.1
  have hspos := e.serial.2.1
  have hsmax : e.serial.1.length ≤ 64 := e.serial.2.2
  have hdate : Date.read e.date.1 = some e.date := dif_pos e.date.2
  obtain ⟨-, hdlen, -⟩ := Date.read_some hdate
  obtain ⟨hrplain, hrne, hrlen⟩ := reasonText_plain e.reason
  have h1 := scanWord_word 159 hserial (ne_nil_of_length_pos (by omega)) (by omega)
    (hspace (e.date.1 ++ 0x20 :: reasonText e.reason))
  have h2 := scanWord_word 63 (fun b hb => (plainChar_date e.date b hb).2)
    (ne_nil_of_length_pos (by omega)) (by omega) (hspace (reasonText e.reason))
  have h3 : scanWord 63 (reasonText e.reason ++ []) = some (reasonText e.reason, []) :=
    scanWord_word 63 (fun b hb => (hrplain b hb).2) hrne hrlen nofun
  rw [append_nil] at h3
  rw [Entry.line_eq, readEntry, h1]
  simp only [scanWord_space, h2, Serial.read_hex, hdate, h3, Option.map_some]
  rw [readReason_reasonText]
  rfl

theorem readNumber_decimal (v : UInt64) : readNumber (decimal v.toNat) = .ok v := by
  have hdigits : ∀ b ∈ decimal v.toNat, isDigit b = true := fun b hb => isDigit_of_mem_decimal hb
  have hvalue := decimalValue_decimal v.toNat
  have hskip : (decimal v.toNat).dropWhile isSpace = decimal v.toNat ++ [] := by
    obtain ⟨d, ds, hds⟩ := exists_cons_of_ne_nil (decimal_ne_nil v.toNat)
    rw [hds] at hdigits ⊢
    have hd := (plainChar_of_isDigit (hdigits d mem_cons_self)).2
    rw [append_nil, dropWhile_cons_of_neg (by rw [hd]; decide)]
  have hnumber : IsNumber (decimal v.toNat) := ⟨all_eq_true.2 hdigits, by rw [hvalue]; exact v.toNat_lt⟩
  rw [readNumber, strtoull_digits hnumber (decimal_ne_nil _) hskip nofun, hvalue, UInt64.ofNat_toNat]
  rfl

/-! ## The lines that are written -/

/-- A line of plain text that does not start with a blank is read as it is. -/
theorem lineText_self {l : Bytes} (h : ∀ b ∈ l, b ≠ 0 ∧ b ≠ 10 ∧ b ≠ 13)
    (hhead : ∀ b ∈ l.head?, b ≠ 0x20 ∧ b ≠ 9) : lineText l = l := by
  have hstart : l.dropWhile (fun b => b == 0x20 || b == 9) = l := by
    cases l with
    | nil => rfl
    | cons b l =>
      obtain ⟨h20, h9⟩ := hhead b rfl
      exact dropWhile_cons_of_neg (by simp [h20, h9])
  rw [lineText, cstr_of_no_nul fun h0 => (h 0 h0).1 rfl, hstart]
  apply takeWhile_eq_self_iff.2
  intro b hb
  rw [Bool.and_eq_true, bne_iff_ne, bne_iff_ne]
  exact ⟨(h b hb).2.2, (h b hb).2.1⟩

theorem Entry.line_chars (e : Entry) : ∀ b ∈ e.line, b ≠ 0 ∧ b ≠ 10 ∧ b ≠ 13 := by
  rw [Entry.line_eq]
  intro b hb
  rcases mem_append.1 hb with hb | hb
  · obtain ⟨_, -, hb⟩ := mem_flatMap.1 hb
    exact (plainChar_hexByte hb).1.ne
  rcases mem_cons.1 hb with rfl | hb
  · decide
  rcases mem_append.1 hb with hb | hb
  · exact (plainChar_date e.date b hb).ne
  rcases mem_cons.1 hb with rfl | hb
  · decide
  · exact ((reasonText_plain e.reason).1 b hb).ne

theorem Entry.line_head (e : Entry) : ∃ b rest, e.line = b :: rest ∧ ∃ x, b ∈ hexByte x := by
  have hpos := e.serial.2.1
  obtain ⟨x, xs, hxs⟩ := exists_cons_of_ne_nil (ne_nil_of_length_pos hpos)
  rw [Entry.line_eq, hxs, flatMap_cons]
  exact ⟨_, _, rfl, x, mem_cons_self⟩

theorem lineText_entry (e : Entry) : lineText (e.line ++ [10]) = e.line := by
  rw [lineText_newline]
  apply lineText_self e.line_chars
  obtain ⟨b, rest, hline, x, hx⟩ := e.line_head
  obtain ⟨⟨-, hspace⟩, -⟩ := plainChar_hexByte hx
  rw [hline]
  rintro c hc
  obtain rfl : b = c := Option.some.inj hc
  constructor <;> rintro rfl <;> cases hspace

theorem Entry.line_length (e : Entry) : e.line.length < lineMax := by
  have hdate : Date.read e.date.1 = some e.date := dif_pos e.date.2
  obtain ⟨-, hdlen, -⟩ := Date.read_some hdate
  obtain ⟨-, -, hrlen⟩ := reasonText_plain e.reason
  have hsmax : e.serial.1.length ≤ 64 := e.serial.2.2
  have hslen := length_hexByte e.serial.1
  rw [Entry.line_eq, length_append, length_cons, length_append, length_cons, hslen, hdlen]
  unfold lineMax
  omega

theorem pieces_lines {lines : List Bytes} (h : ∀ l ∈ lines, 10 ∉ l ∧ l.length < lineMax) :
    LineReader.pieces 10 lineMax (lines.flatMap (· ++ [10])) = lines.map (· ++ [10]) := by
  induction lines with
  | nil => rfl
  | cons l lines ih =>
    obtain ⟨h10, hlen⟩ := h l mem_cons_self
    rw [flatMap_cons, append_assoc, singleton_append,
      LineReader.pieces_newline lineMax h10, LineReader.pieces_line lineMax h10 hlen,
      ih fun l hl => h l (mem_cons_of_mem _ hl)]
    rfl

theorem loadPieces_entries (hgrows : ∀ n, grows n = true) {es : List Entry} {d' : Db}
    (hnumber : d'.crlNumber = d.crlNumber) (hentries : d'.entries = d.entries ++ es) :
    loadPieces grows line d true (es.map fun e => e.line ++ [10]) = .ok d' := by
  induction es generalizing line d with
  | nil =>
    rw [append_nil] at hentries
    rw [map_nil, loadPieces]
    cases d
    cases d'
    simp only at hnumber hentries
    subst hnumber hentries
    rfl
  | cons e es ih =>
    have hroom : d.entries.length < maxEntries := by
      have hle := d'.room
      rw [hentries, length_append, length_cons] at hle
      omega
    obtain ⟨b, rest, hline, x, hx⟩ := e.line_head
    obtain ⟨-, h23, h63⟩ := plainChar_hexByte hx
    have hskip : ¬ (lineText (e.line ++ [10]) = [] ∨
        (lineText (e.line ++ [10])).head? = some 0x23) := by
      rw [lineText_entry, hline]
      rintro (h | h)
      · cases h
      · exact h23 (Option.some.inj h)
    have hop : numberOperand (lineText (e.line ++ [10])) = none := by
      cases hop : numberOperand (lineText (e.line ++ [10])) with
      | none => rfl
      | some operand =>
        obtain ⟨_, -, hkw⟩ := numberOperand_some hop
        rw [lineText_entry, hline] at hkw
        exact absurd (cons.inj hkw).1 h63
    have hread : readEntry (lineText (e.line ++ [10])) = .ok e := by
      rw [lineText_entry, readEntry_line]
    rw [map_cons, loadPieces]
    simp only [if_neg hskip, hop, dif_pos hroom, if_pos (hgrows _), hread]
    apply ih
    · exact hnumber
    · rw [hentries, Db.push, append_assoc]
      rfl

theorem numberLine_chars (n : Nat) :
    ∀ b ∈ text "crlNumber " ++ decimal n, b ≠ 0 ∧ b ≠ 10 ∧ b ≠ 13 := by
  intro b hb
  rcases mem_append.1 hb with hb | hb
  · have hall : ∀ b ∈ text "crlNumber ", b ≠ 0 ∧ b ≠ 10 ∧ b ≠ 13 :=
      all_iff_forall_prop.1 rfl
    exact hall b hb
  · exact (plainChar_of_isDigit (isDigit_of_mem_decimal hb)).ne

theorem numberLine_length (v : UInt64) :
    (text "crlNumber " ++ decimal v.toNat).length < lineMax := by
  have hlen : (decimal v.toNat).length ≤ 20 := by
    apply length_decimal_le (by decide)
    have hv := v.toNat_lt
    omega
  have htext : (text "crlNumber ").length = 10 := rfl
  rw [length_append, htext]
  unfold lineMax
  omega

theorem loadPieces_numberLine (v : UInt64) :
    loadPieces grows line d false ((text "crlNumber " ++ decimal v.toNat ++ [10]) :: pieces) =
      loadPieces grows (line + 1) { d with crlNumber := v } true pieces := by
  have htext : lineText (text "crlNumber " ++ decimal v.toNat ++ [10]) =
      text "crlNumber " ++ decimal v.toNat := by
    rw [lineText_newline]
    apply lineText_self (numberLine_chars _)
    rintro b hb
    obtain rfl : 0x63 = b := Option.some.inj hb
    decide
  have hskip : ¬ (text "crlNumber " ++ decimal v.toNat = [] ∨
      (text "crlNumber " ++ decimal v.toNat).head? = some 0x23) := by
    rintro (h | h)
    · cases h
    · cases h
  have hop : numberOperand (text "crlNumber " ++ decimal v.toNat) = some (decimal v.toNat) := rfl
  rw [loadPieces]
  simp only [htext, if_neg hskip, hop, readNumber_decimal v]
  rfl

theorem load_written (hgrows : ∀ n, grows n = true) (d : Db) :
    load grows (.file { text := d.written }) = (none, d) := by
  have hlines : ∀ l ∈ d.lines, 10 ∉ l ∧ l.length < lineMax := by
    unfold Db.lines
    simp only [forall_mem_cons, forall_mem_map]
    refine ⟨by decide +kernel, by decide +kernel, ⟨?_, numberLine_length _⟩,
      fun e _ => ⟨?_, e.line_length⟩⟩
    · exact fun h => (numberLine_chars _ 10 h).2.1 rfl
    · exact fun h => (e.line_chars 10 h).2.1 rfl
  have hpieces : (Source.pieces 10 lineMax { text := d.written } : List Bytes) =
      d.lines.map (· ++ [10]) := pieces_lines hlines
  unfold load
  dsimp only
  rw [hpieces, Db.lines]
  simp only [map_cons, map_map]
  rw [loadPieces_skip (by decide +kernel), loadPieces_skip (by decide +kernel),
    loadPieces_numberLine]
  have hentries : loadPieces grows (0 + 1 + 1 + 1)
      { crlNumber := d.crlNumber, entries := [] } true
      (d.entries.map fun e => e.line ++ [10]) = .ok d :=
    loadPieces_entries hgrows rfl rfl
  have hmap : d.entries.map ((fun l => l ++ [10]) ∘ Entry.line) =
      d.entries.map fun e => e.line ++ [10] := rfl
  rw [hmap]
  simp only [hentries]

/-! ## What a load says about the file -/

/-- The whole file was read, every line contributed exactly what it says, and the database holds
this, in the order of the file. -/
def FaithfullyLoaded (f : Source UInt8) (d : Db) : Prop :=
  EveryLineCounts f ∧ d.Holds ((terminated 10 f.text).flatMap contribution)

/-- A load that fails leaves an empty database; one that succeeds took everything from the file
exactly if it reads as it is written; and what was saved is loaded as it was. -/
theorem load_faithful_iff (grows : Nat → Bool) (file : DbFile) :
    ((load grows file).1 ≠ none → (load grows file).2 = {}) ∧
    (∀ f, file = .file f → (load grows file).1 = none →
      (FaithfullyLoaded f (load grows file).2 ↔ ReadsAsWritten f)) ∧
    ((∀ n, grows n = true) → ∀ d : Db, load grows (.file { text := d.written }) = (none, d)) := by
  refine ⟨?_, ?_, fun hgrows d => load_written hgrows d⟩
  · intro herr
    cases file with
    | missing => exact absurd rfl herr
    | unreadable => rfl
    | file f =>
      unfold load at herr ⊢
      dsimp only at herr ⊢
      split
      · rename_i d hload
        rw [hload] at herr
        exact absurd rfl herr
      · rfl
  · rintro f rfl hok
    unfold load at hok ⊢
    dsimp only at hok ⊢
    split
    · rename_i d hload
      constructor
      · intro h
        exact (everyLineCounts_iff hload).1 h.1
      · intro h
        refine ⟨(everyLineCounts_iff hload).2 h, ?_⟩
        obtain ⟨-, hentries, hone, hnumber⟩ := loadPieces_ok hload
        have hitems : (f.pieces 10 lineMax).flatMap pieceItems =
            (terminated 10 f.text).flatMap contribution := by
          rw [h.whole.pieces_eq, LineReader.pieces_eq_flatMap, flatMap_assoc]
          rfl
        rw [hitems] at hentries hone hnumber
        exact ⟨hentries, hone, hnumber⟩
    · rename_i e hload
      rw [hload] at hok
      cases hok

/-- The serials `AA` and `BB`, revoked at the start of 2026. -/
def twoLines : Bytes := text "AA 20260101000000Z -\nBB 20260101000000Z -\n"

/-- The same after a comment and the number of the last list. -/
def wholeFile : Source UInt8 := { text := text "# revoked\n\ncrlNumber 7\n" ++ twoLines }

/-- The file is read as it is written. -/
theorem load_faithful_iff_wholeFile :
    let r := load (fun _ => true) (.file wholeFile)
    r.1 = none ∧ r.2.crlNumber = 7 ∧ r.2.entries.map (·.serial.1) = [[0xAA], [0xBB]] ∧
      ReadsAsWritten wholeFile ∧ FaithfullyLoaded wholeFile r.2 := by
  intro r
  have hok : r.1 = none := by decide +kernel
  have hitems : ∀ line ∈ terminated 10 wholeFile.text, (lineItem line).isSome = true :=
    all_iff_forall_prop.1 (by decide +kernel)
  have hfits : ∀ line ∈ terminated 10 wholeFile.text, LineFits line := by
    unfold LineFits
    exact all_iff_forall_prop.1 (by decide +kernel)
  have hreads : ReadsAsWritten wholeFile := by
    refine ⟨?_, fun line hline _ => ?_, fun line hline hlong => ?_, fun line hline hlong => ?_⟩
    · unfold LineReader.Source.Whole
      decide +kernel
    · obtain ⟨o, ho⟩ := Option.isSome_iff_exists.1 (hitems line hline)
      exact lineSound_of_lineItem ho
    · exact absurd (hfits line hline) hlong
    · exact absurd (hfits line hline) hlong
  refine ⟨hok, by decide +kernel, by decide +kernel, hreads, ?_⟩
  exact ((load_faithful_iff (fun _ => true) (.file wholeFile)).2.1 _ rfl hok).2 hreads

/-- Reading fails after the first line of two, and the database with one entry is taken for the
whole. -/
theorem load_after_read_error :
    (load (fun _ => true) (.file { text := twoLines, failsAt := some 21 })).1 = none ∧
      ¬ FaithfullyLoaded { text := twoLines, failsAt := some 21 }
        (load (fun _ => true) (.file { text := twoLines, failsAt := some 21 })).2 := by
  refine ⟨by decide +kernel, fun h => ?_⟩
  have hwhole : ({ text := twoLines, failsAt := some 21 } : Source UInt8).Whole 10 lineMax :=
    h.1.whole
  unfold LineReader.Source.Whole at hwhole
  exact absurd hwhole (by decide +kernel)

end FreeHsm.Revocation
