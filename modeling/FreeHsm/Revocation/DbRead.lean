import Mathlib.Data.List.DropRight
import FreeHsm.ForStd.StateExcept
import FreeHsm.Revocation.Db
import Mathlib.Data.Bool.AllAny

/-!
# What the database file says and what is read

`lineItem` is the format of a line of the revocation database: a comment, nothing, a
`crlNumber` with a decimal number, or a serial, a date and possibly a reason. What
`fhsm_rev_db_load` takes from a line is what it takes from its pieces.
-/

namespace FreeHsm.Revocation

open LineReader (Source terminated)
open TextFields List LineReader

/-! ## The format -/

/-- What a line can say. -/
inductive Item
  | number (v : UInt64)
  | entry (e : Entry)
  deriving DecidableEq

/-- White space within a line. -/
def isGap (b : UInt8) : Bool := b == 0x20 || b == 9 || b == 11 || b == 12

/-- A line without its end. -/
def content (line : Bytes) : Bytes := line.rdropWhile fun b => b == 10 || b == 13

/-- The fields of a line. -/
def fields (line : Bytes) : List Bytes := words isGap (content line)

def IsComment (line : Bytes) : Prop := ((content line).dropWhile isGap).head? = some 0x23

instance (line : Bytes) : Decidable (IsComment line) := inferInstanceAs (Decidable (_ = _))

/-- A decimal number that fits `unsigned long long`. -/
def IsNumber (n : Bytes) : Prop := n.all isDigit = true ∧ decimalValue n < 2 ^ 64

instance (n : Bytes) : Decidable (IsNumber n) := inferInstanceAs (Decidable (_ ∧ _))

def entryItem (sr dt : Bytes) (rs : Option Bytes) : Option (Option Item) :=
  match Serial.read sr, Date.read dt, readReason rs with
  | some serial, some date, .ok reason => some (some (.entry { serial, date, reason }))
  | _, _, _ => none

/-- What a line says: nothing if it is blank or a comment. A line that is not of the format has no
meaning. -/
def lineItem (line : Bytes) : Option (Option Item) :=
  if IsComment line then some none
  else
    match fields line with
    | [] => some none
    | [sr, dt] =>
      if sr = text "crlNumber" then
        if IsNumber dt then some (some (.number (UInt64.ofNat (decimalValue dt)))) else none
      else entryItem sr dt none
    | [sr, dt, rs] => entryItem sr dt (some rs)
    | _ => none

/-! ## What is read -/

/-- One round of the loop in `fhsm_rev_db_load`, without the checks on what came before. -/
def readPiece (piece : Bytes) : Except Why (Option Item) :=
  let p := lineText piece
  if p = [] ∨ p.head? = some 0x23 then .ok none
  else
    match numberOperand p with
    | some operand => (readNumber operand).map fun v => some (.number v)
    | none => (readEntry p).map fun e => some (.entry e)

/-- What a piece contributes. -/
def pieceItems (piece : Bytes) : List Item :=
  match readPiece piece with
  | .ok (some item) => [item]
  | _ => []

/-- What a line contributes. -/
def contribution (line : Bytes) : List Item :=
  (LineReader.pieces 10 lineMax line).flatMap pieceItems

def Item.entry? : Item → Option Entry
  | .entry e => some e
  | .number _ => none

def Item.number? : Item → Option UInt64
  | .number v => some v
  | .entry _ => none

/-- A database holds these items: the entries in their order, and one number at most. -/
structure Db.Holds (d : Db) (items : List Item) : Prop where
  entries : d.entries = items.filterMap Item.entry?
  one : (items.filterMap Item.number?).length ≤ 1
  number : d.crlNumber = (items.filterMap Item.number?).head?.getD 0

/-- The loop: every piece reads, and the database grows by what the pieces contribute. -/
theorem loadPieces_ok {grows : Nat → Bool} {line : Nat} {d d' : Db} {seen : Bool}
    {pieces : List Bytes} (h : loadPieces grows line d seen pieces = .ok d') :
    (∀ piece ∈ pieces, ∃ o, readPiece piece = .ok o) ∧
      d'.entries = d.entries ++ (pieces.flatMap pieceItems).filterMap Item.entry? ∧
      ((pieces.flatMap pieceItems).filterMap Item.number?).length ≤ (if seen then 0 else 1) ∧
      d'.crlNumber = ((pieces.flatMap pieceItems).filterMap Item.number?).head?.getD d.crlNumber := by
  fun_induction loadPieces grows line d seen pieces with
  | case1 =>
    cases h
    refine ⟨nofun, by simp, by simp, by simp⟩
  | case2 line d seen piece pieces p hskip ih =>
    have hpiece : readPiece piece = .ok none := if_pos hskip
    have hitems : pieceItems piece = [] := by rw [pieceItems, hpiece]
    obtain ⟨hall, hrest⟩ := ih h
    simp only [flatMap_cons, hitems, nil_append, forall_mem_cons]
    exact ⟨⟨⟨none, hpiece⟩, hall⟩, hrest⟩
  | case5 line d seen piece pieces p hskip operand hop hseen v hv ih =>
    obtain ⟨hall, hentries, hone, hnumber⟩ := ih h
    have hpiece : readPiece piece = .ok (some (.number v)) := by
      unfold readPiece
      simp only [p, hskip, if_false, hop, hv]
      rfl
    have hitems : pieceItems piece = [.number v] := by rw [pieceItems, hpiece]
    -- there is no second number
    have hnone : (pieces.flatMap pieceItems).filterMap Item.number? = [] :=
      length_eq_zero_iff.1 (Nat.le_zero.1 hone)
    rw [hnone] at hnumber
    simp only [flatMap_cons, hitems, forall_mem_cons, filterMap_append]
    rw [hnone, if_neg hseen]
    exact ⟨⟨⟨_, hpiece⟩, hall⟩, hentries, le_refl 1, hnumber⟩
  | case7 line d seen piece pieces p hskip hop hmax hgrows e he ih =>
    obtain ⟨hall, hentries, hrest⟩ := ih h
    have hpiece : readPiece piece = .ok (some (.entry e)) := by
      unfold readPiece
      simp only [p, hskip, if_false, hop, he]
      rfl
    have hitems : pieceItems piece = [.entry e] := by rw [pieceItems, hpiece]
    simp only [flatMap_cons, hitems, forall_mem_cons, filterMap_append]
    refine ⟨⟨⟨_, hpiece⟩, hall⟩, ?_, hrest⟩
    rw [hentries]
    exact append_assoc _ _ _
  | case3 | case4 | case6 | case8 | case9 => cases h

/-! ## Characters of a field -/

theorem forall_byte {p : UInt8 → Prop} (h : ∀ i : Fin 256, p (UInt8.ofNat i)) (b : UInt8) : p b := by
  have hb : UInt8.ofNat (⟨b.toNat, b.toNat_lt⟩ : Fin 256) = b := by simp
  rw [← hb]
  exact h _

variable {b : UInt8} {sr dt rs s p line piece operand : Bytes} {serial : Serial}
  {reason : Option Reason} {max : Nat} {o : Option Item}

theorem isSpace_eq_isGap : b ≠ 10 → b ≠ 13 → isSpace b = isGap b :=
  forall_byte (p := fun b => b ≠ 10 → b ≠ 13 → isSpace b = isGap b) (by decide +kernel) b

theorem not_isDigit_of_isSpace : isSpace b = true → ¬ isDigit b = true :=
  forall_byte (p := fun b => isSpace b = true → ¬ isDigit b = true) (by decide +kernel) b

/-- A character that stands in a field. -/
def PlainChar (b : UInt8) : Prop := b ≠ 0 ∧ isSpace b = false

theorem PlainChar.ne (h : PlainChar b) : b ≠ 0 ∧ b ≠ 10 ∧ b ≠ 13 := by
  obtain ⟨h0, hspace⟩ := h
  refine ⟨h0, ?_, ?_⟩ <;> rintro rfl <;> cases hspace

theorem plainChar_of_isDigit : isDigit b = true → PlainChar b :=
  forall_byte (p := fun b => isDigit b = true → PlainChar b) (by unfold PlainChar; decide +kernel) b

theorem plainChar_of_hexValue : (hexValue b).isSome = true → PlainChar b :=
  forall_byte (p := fun b => (hexValue b).isSome = true → PlainChar b)
    (by unfold PlainChar; decide +kernel) b

theorem plainChar_of_hexPairs {h bs : Bytes} (hbs : hexPairs h = some bs) :
    ∀ b ∈ h, PlainChar b := by
  induction h using hexPairs.induct generalizing bs with
  | case1 =>
    intro b hb
    cases hb
  | case2 => cases hbs
  | case3 hi lo rest ih =>
    obtain ⟨x, y, bs', hx, hy, hrest, -⟩ := hexPairs_cons hbs
    intro b hb
    rcases mem_cons.1 hb with rfl | hb
    · exact plainChar_of_hexValue (hx ▸ rfl)
    · rcases mem_cons.1 hb with rfl | hb
      · exact plainChar_of_hexValue (hy ▸ rfl)
      · exact ih hrest b hb

theorem Serial.read_some (h : Serial.read sr = some serial) :
    hexToBytes serialMax sr = some serial.1 := by
  unfold Serial.read at h
  split at h
  · cases h
  · rename_i bs hbs
    rw [hbs, ← Option.some.inj h]

theorem hexPairs_of_hexToBytes {cap : Nat} {h bs : Bytes} (hbs : hexToBytes cap h = some bs) :
    hexPairs h = some bs ∧ h.length % 2 = 0 := by
  unfold hexToBytes at hbs
  split at hbs
  · cases hbs
  · rename_i hok
    exact ⟨hbs, by omega⟩

theorem Date.read_some {date : Date} (h : Date.read dt = some date) :
    dt = date.1 ∧ dt.length = 15 ∧ dt[14]? = some 0x5A ∧ (dt.take 14).all isDigit = true := by
  unfold Date.read at h
  split at h
  · rename_i hsome
    cases h
    refine ⟨rfl, ?_⟩
    unfold dateToTime at hsome
    dsimp only at hsome
    split at hsome
    · cases hsome
    rename_i hform
    rw [not_or, Classical.not_not, Classical.not_not] at hform
    split at hsome
    · cases hsome
    · rename_i hdigits
      exact ⟨hform.1, hform.2, by simpa using hdigits⟩
  · cases h

theorem plainChar_of_date {date : Date} (h : Date.read dt = some date) : ∀ b ∈ dt, PlainChar b := by
  obtain ⟨-, hlen, hz, hdigits⟩ := Date.read_some h
  have hsplit : dt = dt.take 14 ++ [0x5A] := by
    have htake := take_add_one (l := dt) (i := 14)
    rw [hz, take_of_length_le (by omega)] at htake
    exact htake
  rw [hsplit]
  intro b hb
  rcases mem_append.1 hb with hb | hb
  · exact plainChar_of_isDigit (all_eq_true.1 hdigits b hb)
  · rw [mem_singleton.1 hb]
    exact ⟨by decide, by decide⟩

theorem readReason_some (h : readReason (some rs) = .ok reason) :
    rs ∈ text "-" :: Reason.all.map Reason.name := by
  unfold readReason at h
  dsimp only at h
  split at h
  · rename_i hdash
    rw [hdash]
    exact mem_cons_self
  · split at h
    · cases h
    · rename_i r hr
      apply mem_cons_of_mem
      have hmem := mem_of_find?_eq_some hr
      have heq := find?_some hr
      rw [beq_iff_eq] at heq
      rw [← heq]
      exact mem_map_of_mem hmem

theorem plainChar_of_reason (h : readReason (some rs) = .ok reason) : ∀ b ∈ rs, PlainChar b := by
  have hall : ∀ rs ∈ text "-" :: Reason.all.map Reason.name, rs.all fun b => b ≠ 0 ∧ isSpace b = false :=
    all_iff_forall_prop.1 rfl
  unfold PlainChar
  exact all_iff_forall_prop.1 (hall rs (readReason_some h))

theorem length_reason (h : readReason (some rs) = .ok reason) : rs.length < 63 := by
  have hall : ∀ rs ∈ text "-" :: Reason.all.map Reason.name, rs.length < 63 :=
    all_iff_forall_prop.1 rfl
  exact hall rs (readReason_some h)

/-! ## Scanning a field -/

theorem words_of_scanWord {w rest : Bytes} (h : scanWord max s = some (w, rest))
    (hlen : w.length < max) : words isSpace s = w :: words isSpace rest := by
  unfold scanWord at h
  dsimp only at h
  split at h
  · cases h
  rename_i hne
  rw [words_skip, if_neg hne]
  simp only [Option.some.injEq, Prod.mk.injEq] at h
  obtain ⟨hw, hrest⟩ := h
  -- the word is shorter than the limit, so it is the whole word
  have hwhole : (s.dropWhile isSpace).takeWhile (fun b => !isSpace b) = w := by
    rw [← hw, take_of_length_le]
    rw [← hw, length_take] at hlen
    omega
  rw [hw, ← takeWhile_append_dropWhile (p := fun b => !isSpace b) (l := s.dropWhile isSpace), hwhole,
    drop_left] at hrest
  rw [hwhole, hrest]

theorem words_of_scanWord_none (h : scanWord max s = none) : words isSpace s = [] := by
  unfold scanWord at h
  dsimp only at h
  split at h
  · rename_i hnil
    rw [words_skip, if_pos hnil]
  · cases h

theorem length_of_scanWord {w rest : Bytes} (h : scanWord max s = some (w, rest)) :
    w.length ≤ max := by
  unfold scanWord at h
  dsimp only at h
  split at h
  · cases h
  simp only [Option.some.injEq, Prod.mk.injEq] at h
  rw [← h.1, length_take]
  exact min_le_left _ _

theorem readEntry_ok {e : Entry} (h : readEntry p = .ok e) :
    ∃ sr dt rs, (words isSpace p = sr :: dt :: rs) ∧
      Serial.read sr = some e.serial ∧ Date.read dt = some e.date ∧
      readReason rs.head? = .ok e.reason := by
  unfold readEntry at h
  split at h
  case h_2 => cases h
  rename_i sr p1 h1
  split at h
  case h_2 => cases h
  rename_i dt p2 h2
  split at h
  case h_2 => cases h
  rename_i serial hserial
  split at h
  case h_2 => cases h
  rename_i date hdate
  obtain ⟨reason, hreason, h⟩ := StateExcept.bind_ok h
  cases h
  have hsr : sr.length < 159 := by
    have heven := (hexPairs_of_hexToBytes (Serial.read_some hserial)).2
    have := length_of_scanWord h1
    omega
  have hdt : dt.length < 63 := by
    rw [(Date.read_some hdate).2.1]
    decide
  rw [words_of_scanWord h1 hsr, words_of_scanWord h2 hdt]
  refine ⟨sr, dt, words isSpace p2, rfl, hserial, hdate, ?_⟩
  cases h3 : scanWord 63 p2 with
  | none =>
    rw [h3] at hreason
    rw [words_of_scanWord_none h3]
    exact hreason
  | some rp =>
    rw [h3] at hreason
    rw [words_of_scanWord h3 (length_reason hreason)]
    exact hreason

/-! ## Lines that are read as they are written -/

/-- What the reader of a line relies on without a check: no NUL in it and no carriage return but at
its end, three fields at most, and a plain number after `crlNumber`. A comment may hold anything. -/
def LineSound (line : Bytes) : Prop :=
  IsComment line ∨
    (0 ∉ content line ∧ 13 ∉ content line ∧ (fields line).length ≤ 3 ∧
      ((fields line).head? = some (text "crlNumber") →
        ∃ n, fields line = [text "crlNumber", n] ∧ IsNumber n))

/-- If every field is well formed, the line has neither a NUL nor a carriage return in it. -/
theorem not_mem_content (h : ∀ w ∈ fields line, ∀ b ∈ w, PlainChar b) :
    0 ∉ content line ∧ 13 ∉ content line := by
  constructor
  · intro h0
    obtain ⟨w, hw, hmem⟩ := exists_word_of_mem isGap h0 rfl
    exact (h w hw 0 hmem).1 rfl
  · intro h13
    obtain ⟨w, hw, hmem⟩ := exists_word_of_mem isGap h13 rfl
    cases (h w hw 13 hmem).2

theorem entryItem_some {rs : Option Bytes} (h : entryItem sr dt rs = some o) :
    ∃ e : Entry, o = some (.entry e) ∧ Serial.read sr = some e.serial ∧
      Date.read dt = some e.date ∧ readReason rs = .ok e.reason := by
  unfold entryItem at h
  split at h
  · rename_i serial date reason hs hd hr
    cases h
    exact ⟨_, rfl, hs, hd, hr⟩
  · cases h

theorem plainChar_of_serial (h : Serial.read sr = some serial) : ∀ b ∈ sr, PlainChar b :=
  plainChar_of_hexPairs (hexPairs_of_hexToBytes (Serial.read_some h)).1

theorem serial_ne_crlNumber (h : Serial.read sr = some serial) : sr ≠ text "crlNumber" := by
  rintro rfl
  have hnone : hexToBytes serialMax (text "crlNumber") = none := rfl
  rw [Serial.read_some h] at hnone
  cases hnone

/-- The words of a line of the format that says something. -/
inductive Said (ws : List Bytes) : Item → Prop
  | number (n : Bytes) (h : ws = [text "crlNumber", n]) (hn : IsNumber n) :
      Said ws (.number (UInt64.ofNat (decimalValue n)))
  | entry (e : Entry) (sr dt : Bytes) (rs : List Bytes) (h : ws = sr :: dt :: rs)
      (hrs : rs.length ≤ 1) (hs : Serial.read sr = some e.serial)
      (hd : Date.read dt = some e.date) (hr : readReason rs.head? = .ok e.reason) :
      Said ws (.entry e)

theorem said_of_lineItem (hc : ¬ IsComment line) (h : lineItem line = some o) :
    (fields line = [] ∧ o = none) ∨ ∃ item, o = some item ∧ Said (fields line) item := by
  unfold lineItem at h
  rw [if_neg hc] at h
  split at h
  case h_4 => cases h
  all_goals
    rename_i hfields
    rw [hfields]
  · exact .inl ⟨rfl, (Option.some.inj h).symm⟩
  · rename_i sr dt
    split at h
    · rename_i hkw
      split at h
      · rename_i hn
        exact .inr ⟨_, (Option.some.inj h).symm, .number dt (by rw [hkw]) hn⟩
      · cases h
    · obtain ⟨e, rfl, hs, hd, hr⟩ := entryItem_some h
      exact .inr ⟨_, rfl, .entry e sr dt [] rfl (by decide) hs hd hr⟩
  · rename_i sr dt rs
    obtain ⟨e, rfl, hs, hd, hr⟩ := entryItem_some h
    exact .inr ⟨_, rfl, .entry e sr dt [rs] rfl (by simp) hs hd hr⟩

theorem lineSound_of_lineItem (h : lineItem line = some o) : LineSound line := by
  by_cases hcomment : IsComment line
  · exact .inl hcomment
  right
  -- all fields are of their form
  suffices hform : (∀ w ∈ fields line, ∀ b ∈ w, PlainChar b) ∧ (fields line).length ≤ 3 ∧
      ((fields line).head? = some (text "crlNumber") →
        ∃ n, fields line = [text "crlNumber", n] ∧ IsNumber n) from
    ⟨(not_mem_content hform.1).1, (not_mem_content hform.1).2, hform.2⟩
  rcases said_of_lineItem hcomment h with ⟨hnil, -⟩ | ⟨item, -, hsaid⟩
  · rw [hnil]
    exact ⟨nofun, by decide, nofun⟩
  cases hsaid with
  | number n hfields hn =>
    rw [hfields]
    simp only [forall_mem_cons]
    refine ⟨⟨?_, ?_, nofun⟩, by simp, fun _ => ⟨n, rfl, hn⟩⟩
    · unfold PlainChar
      exact all_iff_forall_prop.1 rfl
    · exact fun b hb => plainChar_of_isDigit (all_eq_true.1 hn.1 b hb)
  | entry e sr dt rs hfields hrs hs hd hr =>
    rw [hfields]
    simp only [forall_mem_cons, length_cons]
    refine ⟨⟨plainChar_of_serial hs, plainChar_of_date hd, fun w hw => ?_⟩, by omega,
      fun hhead => absurd (Option.some.inj hhead) (serial_ne_crlNumber hs)⟩
    cases hw with
    | head more => exact plainChar_of_reason hr
    | tail r hmore =>
      rw [length_eq_zero_iff.1 (Nat.le_zero.1 (Nat.le_of_succ_le_succ hrs))] at hmore
      cases hmore

theorem content_append_end (line : Bytes) :
    ∃ e : Bytes, line = content line ++ e ∧ ∀ b ∈ e, b = 10 ∨ b = 13 := by
  refine ⟨line.rtakeWhile fun b => b == 10 || b == 13, ?_, ?_⟩
  · exact rdropWhile_append_rtakeWhile.symm
  · intro b hb
    have h := mem_rtakeWhile_imp hb
    simpa using h

/-- The text of a line is its content, without the blanks before it. -/
theorem lineText_eq (h10 : 10 ∉ content line) (h0 : 0 ∉ content line) (h13 : 13 ∉ content line) :
    lineText line = (content line).dropWhile fun b => b == 0x20 || b == 9 := by
  obtain ⟨e, hline, he⟩ := content_append_end line
  have hnul : 0 ∉ line := by
    rw [hline]
    intro h
    rcases mem_append.1 h with h | h
    · exact h0 h
    · rcases he 0 h with h | h <;> cases h
  -- nothing of the line end is text
  have hend : e.takeWhile (fun b => b != 13 && b != 10) = [] := by
    cases e with
    | nil => rfl
    | cons b e =>
      rcases he b mem_cons_self with rfl | rfl <;> rfl
  have hstart : e.dropWhile (fun b => b == 0x20 || b == 9) = e := by
    cases e with
    | nil => rfl
    | cons b e =>
      rcases he b mem_cons_self with rfl | rfl <;> rfl
  rw [lineText, cstr_of_no_nul hnul]
  conv => lhs; rw [hline]
  rw [dropWhile_append]
  split
  · rename_i hempty
    rw [hstart, hend, isEmpty_iff.1 hempty]
  · rw [takeWhile_append_of_pos, hend, append_nil]
    intro b hb
    have hmem : b ∈ content line := (dropWhile_sublist _).subset hb
    rw [Bool.and_eq_true, bne_iff_ne, bne_iff_ne]
    exact ⟨fun h => h13 (h ▸ hmem), fun h => h10 (h ▸ hmem)⟩

theorem content_eq_lineText (h10 : 10 ∉ content line) (h0 : 0 ∉ content line)
    (h13 : 13 ∉ content line) :
    ∃ g, (∀ b ∈ g, isGap b = true) ∧ content line = g ++ lineText line := by
  refine ⟨_, fun b hb => ?_, by rw [lineText_eq h10 h0 h13]; exact takeWhile_append_dropWhile.symm⟩
  rw [isGap, all_eq_true.1 all_takeWhile b hb]
  rfl

theorem words_lineText (h10 : 10 ∉ content line) (h0 : 0 ∉ content line) (h13 : 13 ∉ content line) :
    words isSpace (lineText line) = fields line := by
  obtain ⟨g, hg, hjoin⟩ := content_eq_lineText h10 h0 h13
  rw [fields, hjoin, words_append_space hg]
  apply words_congr
  intro b hb
  have hmem : b ∈ content line := hjoin ▸ mem_append_right g hb
  exact isSpace_eq_isGap (fun h => h10 (h ▸ hmem)) (fun h => h13 (h ▸ hmem))

theorem readPiece_of_operand (hp : ¬ (lineText piece = [] ∨ (lineText piece).head? = some 0x23))
    (hop : numberOperand (lineText piece) = some operand) (h : readPiece piece = .ok o) :
    ∃ v, readNumber operand = .ok v ∧ o = some (.number v) := by
  unfold readPiece at h
  simp only [if_neg hp, hop] at h
  exact StateExcept.map_ok h

theorem readPiece_of_entry (hp : ¬ (lineText piece = [] ∨ (lineText piece).head? = some 0x23))
    (hop : numberOperand (lineText piece) = none) (h : readPiece piece = .ok o) :
    ∃ e, readEntry (lineText piece) = .ok e ∧ o = some (.entry e) := by
  unfold readPiece at h
  simp only [if_neg hp, hop] at h
  exact StateExcept.map_ok h

theorem readPiece_of_skip (hp : lineText piece = [] ∨ (lineText piece).head? = some 0x23) :
    readPiece piece = .ok none := by
  unfold readPiece
  exact if_pos hp

theorem isSpace_of_isGap (h : isGap b = true) : isSpace b = true := by
  rw [isSpace_eq_isGap (by rintro rfl; cases h) (by rintro rfl; cases h)]
  exact h

theorem lineText_gaps {g : Bytes} (hg : ∀ b ∈ g, isGap b = true) (x : Bytes) :
    ∃ g' y, (∀ b ∈ g', isGap b = true) ∧ lineText (g ++ 0x23 :: x) = g' ++ 0x23 :: y := by
  have hcstr : cstr (g ++ 0x23 :: x) = g ++ 0x23 :: cstr x := by
    rw [cstr, takeWhile_append_of_pos, takeWhile_cons_of_pos rfl]
    · rfl
    · intro b hb
      rw [bne_iff_ne]
      rintro rfl
      exact absurd (hg 0 hb) (by decide)
  rw [lineText, hcstr, dropWhile_append]
  split
  · exact ⟨[], _, (fun b hb => by cases hb), takeWhile_cons_of_pos rfl⟩
  have hsub : ∀ b ∈ g.dropWhile fun b => b == 0x20 || b == 9, isGap b = true :=
    fun b hb => hg b ((dropWhile_sublist _).subset hb)
  refine ⟨_, (cstr x).takeWhile fun b => b != 13 && b != 10, hsub, ?_⟩
  rw [takeWhile_append_of_pos, takeWhile_cons_of_pos rfl]
  intro b hb
  rw [Bool.and_eq_true, bne_iff_ne, bne_iff_ne]
  constructor <;> rintro rfl <;> exact absurd (hsub _ hb) (by decide)

theorem numberOperand_some (h : numberOperand p = some operand) :
    ∃ b, (b = 0x20 ∨ b = 9) ∧ p = text "crlNumber" ++ b :: operand := by
  unfold numberOperand at h
  split at h
  · rename_i hkw
    have hoperand : p.drop 10 = operand := Option.some.inj h
    have hsplit : ∀ b, p[9]? = some b → p = text "crlNumber" ++ b :: operand := by
      intro b hb
      have htake := take_add_one (l := p) (i := 9)
      rw [hb, hkw.1] at htake
      rw [← take_append_drop 10 p, htake, hoperand, append_assoc]
      rfl
    rcases hkw.2 with hb | hb
    · exact ⟨0x20, .inl rfl, hsplit _ hb⟩
    · exact ⟨9, .inr rfl, hsplit _ hb⟩
  · cases h

theorem words_operand (h : numberOperand p = some operand) :
    words isSpace p = text "crlNumber" :: words isSpace operand := by
  obtain ⟨b, hb, hp⟩ := numberOperand_some h
  have hblank : isSpace b = true := by rcases hb with rfl | rfl <;> rfl
  have hword : ∀ a ∈ text "crlNumber", isSpace a = false := all_iff_forall_prop.1 rfl
  rw [hp, words_word hword nofun (by rintro a ⟨⟩; exact hblank), words_cons_space hblank]

theorem readPiece_comment (hc : IsComment line) (h : readPiece line = .ok o) : o = none := by
  obtain ⟨e, hline, -⟩ := content_append_end line
  -- white space, then the mark
  obtain ⟨r, hr⟩ : ∃ r, (content line).dropWhile isGap = 0x23 :: r := by
    unfold IsComment at hc
    cases hdrop : (content line).dropWhile isGap with
    | nil => rw [hdrop] at hc; cases hc
    | cons b r =>
      rw [hdrop] at hc
      exact ⟨r, by rw [Option.some.inj hc]⟩
  have hjoin : (content line).takeWhile isGap ++ (content line).dropWhile isGap = content line :=
    takeWhile_append_dropWhile
  obtain ⟨g, y, hg, hp⟩ : ∃ g y, (∀ b ∈ g, isGap b = true) ∧ lineText line = g ++ 0x23 :: y := by
    have hgaps := lineText_gaps (all_eq_true.1 (all_takeWhile (p := isGap)
      (l := content line))) (r ++ e)
    rw [← cons_append, ← hr, ← append_assoc, hjoin, ← hline] at hgaps
    exact hgaps
  cases g with
  | nil =>
    rw [readPiece_of_skip (.inr (by rw [hp]; rfl))] at h
    cases h
    rfl
  | cons b g =>
    have hb : isGap b = true := hg b mem_cons_self
    have hskip : ¬ (lineText line = [] ∨ (lineText line).head? = some 0x23) := by
      rw [hp]
      rintro (h | h)
      · cases h
      · rw [Option.some.inj h] at hb
        cases hb
    have hop : numberOperand (lineText line) = none := by
      cases hop : numberOperand (lineText line) with
      | none => rfl
      | some operand =>
        obtain ⟨b', -, hkw⟩ := numberOperand_some hop
        have hhead := congrArg head? (hp.symm.trans hkw)
        rw [show b = 0x63 from Option.some.inj hhead] at hb
        cases hb
    -- the first word starts with the mark, so it is not a serial
    obtain ⟨e, hentry, -⟩ := readPiece_of_entry hskip hop h
    obtain ⟨sr, dt, rs, hwords, hserial, -⟩ := readEntry_ok hentry
    rw [hp, words_append_space fun b hb => isSpace_of_isGap (hg b hb), words_skip] at hwords
    have hsr : sr = 0x23 :: y.takeWhile fun b => !isSpace b := (cons.inj hwords).1.symm
    obtain ⟨hpairs, -⟩ := hexPairs_of_hexToBytes (Serial.read_some hserial)
    rw [hsr] at hpairs
    cases hy : y.takeWhile fun b => !isSpace b with
    | nil => rw [hy] at hpairs; cases hpairs
    | cons lo rest =>
      rw [hy] at hpairs
      obtain ⟨x, _, _, hx, -⟩ := hexPairs_cons hpairs
      cases hx

theorem strtoull_digits {n rest : Bytes} (hn : IsNumber n) (hnil : n ≠ [])
    (hs : s.dropWhile isSpace = n ++ rest) (hrest : ∀ b ∈ rest.head?, isSpace b = true) :
    strtoull s = (UInt64.ofNat (decimalValue n), rest) := by
  have hdigits : (n ++ rest).takeWhile isDigit = n := by
    rw [takeWhile_append_of_pos (all_eq_true.1 hn.1)]
    cases rest with
    | nil => exact append_nil n
    | cons b rest =>
      have hb : ¬ isDigit b = true := not_isDigit_of_isSpace (hrest b rfl)
      rw [takeWhile_cons_of_neg hb, append_nil]
  have hsign : takeSign (n ++ rest) = (false, n ++ rest) := by
    cases n with
    | nil => exact absurd rfl hnil
    | cons d n =>
      have hd : isDigit d = true := all_eq_true.1 hn.1 d mem_cons_self
      rw [cons_append, takeSign] <;>
      · rintro s hs
        rw [(cons.inj hs).1] at hd
        cases hd
  unfold strtoull
  rw [hs, hsign]
  simp only [hdigits, if_neg hnil, if_neg (not_le.2 hn.2), drop_left]
  rfl

theorem readNumber_of_words {n : Bytes} {v : UInt64} (hn : IsNumber n)
    (hwords : words isSpace operand = [n]) (h : readNumber operand = .ok v) :
    v = UInt64.ofNat (decimalValue n) := by
  have hnil : n ≠ [] := ne_nil_of_mem_words (hwords ▸ mem_singleton_self n)
  rw [words_skip] at hwords
  split at hwords
  · cases hwords
  have hjoin := takeWhile_append_dropWhile (p := fun b => !isSpace b) (l := operand.dropWhile isSpace)
  rw [(cons.inj hwords).1] at hjoin
  unfold readNumber at h
  rw [strtoull_digits hn hnil hjoin.symm (space_of_head? _)] at h
  split at h <;> cases h
  rfl

/-- No NUL, and no part of a line end but at the end. -/
def Clean (s : Bytes) : Prop := 0 ∉ content s ∧ 10 ∉ content s ∧ 13 ∉ content s

theorem words_end {e : Bytes} (he : ∀ b ∈ e, b = 10 ∨ b = 13) : words isSpace e = [] := by
  have h := @words_append_space _ isSpace e ?_ []
  · rw [append_nil, words_nil] at h
    exact h
  · intro b hb
    rcases he b hb with rfl | rfl <;> rfl

theorem Clean.words_eq {s : Bytes} (h : Clean s) : words isSpace s = fields s := by
  obtain ⟨e, hs, he⟩ := content_append_end s
  have hcontent : words isSpace (content s) = fields s := by
    apply words_congr
    intro b hb
    exact isSpace_eq_isGap (fun h10 => h.2.1 (h10 ▸ hb)) (fun h13 => h.2.2 (h13 ▸ hb))
  conv => lhs; rw [hs]
  rw [words_append_of_nil_right (words_end he), hcontent]

/-- What a piece of a line reads as, by its words. -/
inductive Reads (ws : List Bytes) : Option Item → Prop
  | blank (h : ws = []) : Reads ws none
  | comment (w : Bytes) (rest : List Bytes) (h : ws = (0x23 :: w) :: rest) : Reads ws none
  | number (operand : Bytes) (v : UInt64) (h : ws = text "crlNumber" :: words isSpace operand)
      (hv : readNumber operand = .ok v) : Reads ws (some (.number v))
  | entry (e : Entry) (sr dt : Bytes) (rs : List Bytes) (h : ws = sr :: dt :: rs)
      (hs : Serial.read sr = some e.serial) (hd : Date.read dt = some e.date)
      (hr : readReason rs.head? = .ok e.reason) : Reads ws (some (.entry e))

theorem reads_of_readPiece {p : Bytes} (hp : Clean p) (h : readPiece p = .ok o) :
    Reads (words isSpace p) o := by
  have hwords : words isSpace (lineText p) = words isSpace p := by
    rw [words_lineText hp.2.1 hp.1 hp.2.2, hp.words_eq]
  rw [← hwords]
  by_cases hskip : lineText p = [] ∨ (lineText p).head? = some 0x23
  · rw [readPiece_of_skip hskip] at h
    cases h
    rcases hskip with hnil | hmark
    · exact .blank (by rw [hnil, words_nil])
    · cases htext : lineText p with
      | nil => rw [htext] at hmark; cases hmark
      | cons b q =>
        rw [htext] at hmark
        obtain rfl : b = 0x23 := Option.some.inj hmark
        exact .comment _ _ (by rw [words_skip]; rfl)
  · cases hop : numberOperand (lineText p) with
    | some operand =>
      obtain ⟨v, hv, rfl⟩ := readPiece_of_operand hskip hop h
      exact .number operand v (words_operand hop) hv
    | none =>
      obtain ⟨e, he, rfl⟩ := readPiece_of_entry hskip hop h
      obtain ⟨sr, dt, rs, hws, hs, hd, hr⟩ := readEntry_ok he
      exact .entry e sr dt rs hws hs hd hr

theorem lineItem_of_sound (h10 : 10 ∉ content line) (hsound : LineSound line)
    (h : readPiece line = .ok o) : lineItem line = some o := by
  by_cases hc : IsComment line
  · rw [readPiece_comment hc h, lineItem, if_pos hc]
  obtain ⟨h0, h13, hlen, hnumber⟩ := hsound.resolve_left hc
  have hclean : Clean line := ⟨h0, h10, h13⟩
  have hreads := reads_of_readPiece hclean h
  rw [hclean.words_eq] at hreads
  rw [lineItem, if_neg hc]
  cases hreads with
  | blank hfields => rw [hfields]
  | comment w rest hfields =>
    -- the first field starts with the mark
    rw [fields, words_skip] at hfields
    split at hfields
    · cases hfields
    · cases hdrop : (content line).dropWhile isGap with
      | nil => contradiction
      | cons b p =>
        rw [hdrop, takeWhile_cons] at hfields
        exact absurd (by rw [IsComment, hdrop]; split at hfields <;> cases hfields; rfl) hc
  | number operand v hfields hv =>
    obtain ⟨n, hn, hplain⟩ := hnumber (by rw [hfields]; rfl)
    have hrest : words isSpace operand = [n] := (cons.inj (hfields.symm.trans hn)).2
    rw [hn]
    simp only [if_pos hplain, if_true]
    rw [readNumber_of_words hplain hrest hv]
  | entry e sr dt rs hfields hserial hdate hreason =>
    rw [hfields] at hlen ⊢
    cases rs with
    | nil =>
      rw [head?_nil] at hreason
      simp only [if_neg (serial_ne_crlNumber hserial), entryItem, hserial, hdate, hreason]
    | cons rs more =>
      obtain rfl : more = [] := by
        simp only [length_cons] at hlen
        exact length_eq_zero_iff.1 (by omega)
      rw [head?_cons] at hreason
      simp only [entryItem, hserial, hdate, hreason]

/-! ## Lines and pieces -/

theorem lineText_newline (l : Bytes) : lineText (l ++ [10]) = lineText l := by
  by_cases h0 : 0 ∈ l
  · obtain ⟨a, rest, rfl, ha⟩ := eq_append_cons_of_mem h0
    have hcstr : ∀ rest, cstr (a ++ 0 :: rest) = a := by
      intro rest
      rw [cstr, takeWhile_append_of_pos, takeWhile_cons_of_neg (by decide), append_nil]
      intro b hb
      rw [bne_iff_ne]
      exact fun h => ha (h ▸ hb)
    rw [lineText, lineText, append_assoc, cons_append, hcstr, hcstr]
  · have hnul : 0 ∉ l ++ [10] := by
      intro h
      rcases mem_append.1 h with h | h
      · exact h0 h
      · exact absurd h (by decide)
    rw [lineText, lineText, cstr_of_no_nul h0, cstr_of_no_nul hnul, dropWhile_append]
    split
    · rename_i hempty
      rw [isEmpty_iff.1 hempty]
      rfl
    · rw [takeWhile_append]
      split
      · rename_i hall
        rw [(List.takeWhile_prefix _).eq_of_length hall]
        exact append_nil _
      · rfl

theorem readPiece_newline (l : Bytes) : readPiece (l ++ [10]) = readPiece l := by
  rw [readPiece, readPiece, lineText_newline]

theorem pieceItems_of_ok (h : readPiece piece = .ok o) : pieceItems piece = o.toList := by
  rw [pieceItems, h]
  cases o <;> rfl

/-- A line fits into the buffer. -/
def LineFits (line : Bytes) : Prop := (line.takeWhile (· != 10)).length ≤ lineMax

theorem contribution_of_fits {text : Bytes} (hline : line ∈ terminated 10 text)
    (hfits : LineFits line)
    (hread : ∀ piece ∈ pieces 10 lineMax line, ∃ o, readPiece piece = .ok o) :
    ∃ o, readPiece line = .ok o ∧ contribution line = o.toList := by
  obtain ⟨l, h10, hl⟩ := mem_terminated hline
  have hself : ∀ b ∈ l, (b != 10) = true := by
    intro b hb
    rw [bne_iff_ne]
    exact fun h => h10 (h ▸ hb)
  have hlen : l.length ≤ lineMax := by
    rcases hl with rfl | rfl
    · unfold LineFits at hfits
      rw [takeWhile_append_of_pos hself, takeWhile_cons_of_neg (by decide), append_nil] at hfits
      exact hfits
    · unfold LineFits at hfits
      rw [takeWhile_eq_self_iff.2 hself] at hfits
      exact hfits
  have hend : readPiece [10] = .ok none := rfl
  by_cases hne : l = []
  · subst hne
    rcases hl with rfl | rfl
    · exact ⟨none, hend, rfl⟩
    · exact ⟨none, rfl, rfl⟩
  obtain ⟨hlast, hnewline⟩ := pieces_of_fits lineMax h10 hne hlen
  -- the line in one piece, or its newline in a piece of its own
  have hpieces : pieces 10 lineMax line = [line] ∨
      line = l ++ [10] ∧ pieces 10 lineMax line = [l, [10]] := by
    rcases hl with rfl | rfl
    · exact hnewline.imp_right fun h => ⟨rfl, h⟩
    · exact .inl hlast
  rw [contribution]
  rcases hpieces with hps | ⟨rfl, hps⟩
  · rw [hps] at hread ⊢
    obtain ⟨o, ho⟩ := hread _ (mem_singleton_self _)
    exact ⟨o, ho, by rw [flatMap_singleton, pieceItems_of_ok ho]⟩
  · rw [hps] at hread ⊢
    obtain ⟨o, ho⟩ := hread l mem_cons_self
    refine ⟨o, by rw [readPiece_newline, ho], ?_⟩
    rw [flatMap_cons, flatMap_singleton, pieceItems_of_ok ho, pieceItems_of_ok hend]
    exact append_nil _

theorem newline_not_mem_content {text : Bytes} (hline : line ∈ terminated 10 text) :
    10 ∉ content line := by
  obtain ⟨l, h10, hl⟩ := mem_terminated hline
  have hcontent : content line = content l := by
    rcases hl with rfl | rfl
    · exact rdropWhile_concat_pos _ _ _ rfl
    · rfl
  rw [hcontent]
  exact fun h => h10 ((List.rdropWhile_prefix _ _).subset h)

end FreeHsm.Revocation
