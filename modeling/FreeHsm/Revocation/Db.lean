import FreeHsm.ForStd.LineReader
import FreeHsm.ForStd.TextFields
import FreeHsm.Token.Store

/-!
# The revocation database

`fhsm-ca` keeps the revocations of an authority in a text file, one a line, together with
the number of the last list it signed. `fhsm_rev_db_load` reads the file with a buffer of
512 bytes and refuses it as a whole if a line does not parse; `fhsm_rev_db_save` writes it
anew. The functions of the C library it reads with (`strtoull`, `sscanf`, `timegm`) are
modelled here as far as they are used.
-/

namespace FreeHsm.Revocation

open LineReader (Source)
open TextFields (decimal decimalValue isDigit)

/-- The bytes of a string constant. -/
def text (s : String) : Bytes := s.toUTF8.data.toList

/-! ## Reasons -/

/-- The rows of `REASONS`. -/
inductive Reason
  | unspecified
  | keyCompromise
  | caCompromise
  | affiliationChanged
  | superseded
  | cessationOfOperation
  | certificateHold
  | privilegeWithdrawn
  | aaCompromise
  deriving DecidableEq

/-- `fhsm_rev_reason_name`. -/
def Reason.name : Reason → Bytes
  | .unspecified => text "unspecified"
  | .keyCompromise => text "keyCompromise"
  | .caCompromise => text "cACompromise"
  | .affiliationChanged => text "affiliationChanged"
  | .superseded => text "superseded"
  | .cessationOfOperation => text "cessationOfOperation"
  | .certificateHold => text "certificateHold"
  | .privilegeWithdrawn => text "privilegeWithdrawn"
  | .aaCompromise => text "aACompromise"

def Reason.all : List Reason :=
  [.unspecified, .keyCompromise, .caCompromise, .affiliationChanged, .superseded,
    .cessationOfOperation, .certificateHold, .privilegeWithdrawn, .aaCompromise]

/-- `fhsm_rev_reason_code`; nothing stands for -2. -/
def reasonCode (name : Bytes) : Option Reason := Reason.all.find? fun r => r.name == name

/-! ## Serials and dates -/

/-- The value of a hexadecimal digit of either case. -/
def hexValue (c : UInt8) : Option UInt8 :=
  if 0x30 ≤ c ∧ c ≤ 0x39 then some (c - 0x30)
  else if 0x61 ≤ c ∧ c ≤ 0x66 then some (c - 0x57)
  else if 0x41 ≤ c ∧ c ≤ 0x46 then some (c - 0x37)
  else none

/-- The loop of `fhsm_rev_hex_to_bytes`. -/
def hexPairs : Bytes → Option Bytes
  | [] => some []
  | [_] => none
  | hi :: lo :: rest => do
    let h ← hexValue hi
    let l ← hexValue lo
    let bs ← hexPairs rest
    return (h <<< 4 ||| l) :: bs

/-- `fhsm_rev_hex_to_bytes`. -/
def hexToBytes (cap : Nat) (h : Bytes) : Option Bytes :=
  if h.length = 0 ∨ h.length % 2 ≠ 0 ∨ cap < h.length / 2 then none else hexPairs h

/-- The leap years up to a year. -/
def leapYears (y : Int) : Int := y / 4 - y / 100 + y / 400

/-- The days of a year before a month, counted from 0. -/
def daysBeforeMonth (leap : Bool) (month : Nat) : Int :=
  [0, 31, 59, 90, 120, 151, 181, 212, 243, 273, 304, 334].getD month 0 +
    if leap && 2 ≤ month then 1 else 0

/-- `timegm`: fields out of their range carry over into the next. -/
def timegm (year mon mday hour min sec : Int) : Int :=
  let y := year + mon / 12
  let leap := leapYears y - leapYears (y - 1) == 1
  let days := 365 * (y - 1970) + (leapYears (y - 1) - leapYears 1969) +
    daysBeforeMonth leap (mon % 12).toNat + (mday - 1)
  ((days * 24 + hour) * 60 + min) * 60 + sec

/-- `fhsm_rev_date_to_time`. A time of -1 is what `timegm` answers when it fails. -/
def dateToTime (s : Bytes) : Option Int :=
  let field (at_ n : Nat) : Int := decimalValue ((s.drop at_).take n)
  if s.length ≠ 15 ∨ s[14]? ≠ some 0x5A then none
  else if !(s.take 14).all isDigit then none
  else
    let t := timegm (field 0 4) (field 4 2 - 1) (field 6 2) (field 8 2) (field 10 2) (field 12 2)
    if t = -1 then none else some t

/-! ## The database -/

/-- `sizeof e->serial`. -/
def serialMax : Nat := 64

/-- `FHSM_REV_MAX_ENTRIES`. -/
def maxEntries : Nat := 100000

/-- A serial as an entry holds it. -/
def Serial : Type := { bs : Bytes // 0 < bs.length ∧ bs.length ≤ serialMax }
  deriving DecidableEq

/-- A date as an entry holds it. -/
def Date : Type := { s : Bytes // (dateToTime s).isSome = true }
  deriving DecidableEq

/-- `fhsm_rev_entry_t`; no reason stands for -1. -/
structure Entry where
  serial : Serial
  date : Date
  reason : Option Reason
  deriving DecidableEq

/-- `fhsm_rev_db_t`. -/
structure Db where
  crlNumber : UInt64 := 0
  entries : List Entry := []
  room : entries.length ≤ maxEntries := by decide
  deriving DecidableEq

/-- An entry at the end. -/
def Db.push (d : Db) (e : Entry) (h : d.entries.length < maxEntries) : Db :=
  { d with entries := d.entries ++ [e], room := by rw [List.length_append]; exact h }

/-! ## The C library -/

/-- `isspace`. -/
def isSpace (b : UInt8) : Bool := b == 0x20 || (9 ≤ b && b ≤ 13)

/-- `%Ns` of `sscanf`: the word, and what is left of the text. -/
def scanWord (max : Nat) (s : Bytes) : Option (Bytes × Bytes) :=
  let t := s.dropWhile isSpace
  if t = [] then none
  else
    let w := (t.takeWhile fun b => !isSpace b).take max
    some (w, t.drop w.length)

/-- The sign that may stand before a number. -/
def takeSign : Bytes → Bool × Bytes
  | 0x2D :: s => (true, s)
  | 0x2B :: s => (false, s)
  | s => (false, s)

/-- `strtoull` with base 10: the value, and the text after the number. -/
def strtoull (s : Bytes) : UInt64 × Bytes :=
  let (negative, t) := takeSign (s.dropWhile isSpace)
  let digits := t.takeWhile isDigit
  let v := decimalValue digits
  if digits = [] then (0, s)
  else if 2 ^ 64 ≤ v then (0xFFFFFFFFFFFFFFFF, t.drop digits.length)
  else (if negative then -UInt64.ofNat v else UInt64.ofNat v, t.drop digits.length)

/-! ## Reading a line -/

/-- Why a line is refused. -/
inductive Why
  | crlNumberTwice
  | crlNumberNotNumber
  | tooManyEntries
  | fields
  | serial
  | date
  | reason
  deriving DecidableEq

theorem hexPairs_cons {hi lo : UInt8} {rest bs : Bytes}
    (h : hexPairs (hi :: lo :: rest) = some bs) :
    ∃ x y bs', hexValue hi = some x ∧ hexValue lo = some y ∧ hexPairs rest = some bs' ∧
      bs = (x <<< 4 ||| y) :: bs' := by
  rw [hexPairs] at h
  obtain ⟨x, hx, h⟩ := Option.bind_eq_some_iff.1 h
  obtain ⟨y, hy, h⟩ := Option.bind_eq_some_iff.1 h
  obtain ⟨bs', hbs', h⟩ := Option.bind_eq_some_iff.1 h
  exact ⟨x, y, bs', hx, hy, hbs', (Option.some.inj h).symm⟩

theorem length_hexPairs {h bs : Bytes} (hbs : hexPairs h = some bs) : h.length = 2 * bs.length := by
  induction h using hexPairs.induct generalizing bs with
  | case1 =>
    cases hbs
    rfl
  | case2 => cases hbs
  | case3 hi lo rest ih =>
    obtain ⟨x, y, bs', -, -, hrest, rfl⟩ := hexPairs_cons hbs
    rw [List.length_cons, List.length_cons, List.length_cons, ih hrest]
    omega

theorem length_hexToBytes {cap : Nat} {h bs : Bytes} (hbs : hexToBytes cap h = some bs) :
    0 < bs.length ∧ bs.length ≤ cap := by
  unfold hexToBytes at hbs
  split at hbs
  · cases hbs
  rename_i hok
  have hlen := length_hexPairs hbs
  omega

/-- The serial of an entry. -/
def Serial.read (sr : Bytes) : Option Serial :=
  match h : hexToBytes serialMax sr with
  | none => none
  | some bs => some ⟨bs, length_hexToBytes h⟩

/-- The date of an entry. -/
def Date.read (dt : Bytes) : Option Date :=
  if h : (dateToTime dt).isSome = true then some ⟨dt, h⟩ else none

/-- The reason of an entry, if the third field is there. -/
def readReason (rs : Option Bytes) : Except Why (Option Reason) :=
  match rs with
  | none => .ok none
  | some rs =>
    if rs = text "-" then .ok none
    else
      match reasonCode rs with
      | none => .error .reason
      | some r => .ok (some r)

/-- `SERIAL DATE [REASON]`. -/
def readEntry (p : Bytes) : Except Why Entry := do
  let some (sr, p1) := scanWord 159 p | .error .fields
  let some (dt, p2) := scanWord 63 p1 | .error .fields
  let some serial := Serial.read sr | .error .serial
  let some date := Date.read dt | .error .date
  let reason ← readReason ((scanWord 63 p2).map Prod.fst)
  return { serial, date, reason }

/-- The text of a piece: from the first character that is not blank to the line end. -/
def lineText (piece : Bytes) : Bytes :=
  ((cstr piece).dropWhile fun b => b == 0x20 || b == 9).takeWhile fun b => b != 13 && b != 10

/-- What stands after `crlNumber` and a blank. -/
def numberOperand (p : Bytes) : Option Bytes :=
  if p.take 9 = text "crlNumber" ∧ (p[9]? = some 0x20 ∨ p[9]? = some 9) then some (p.drop 10)
  else none

/-- The number of the `crlNumber` line. -/
def readNumber (operand : Bytes) : Except Why UInt64 :=
  if (strtoull operand).2 = [] then .ok (strtoull operand).1 else .error .crlNumberNotNumber

/-! ## Loading and saving -/

/-- How `fhsm_rev_db_load` fails. -/
inductive LoadError
  | cannotRead
  | outOfMemory
  | parse (line : Nat) (why : Why)
  deriving DecidableEq

/-- The loop of `fhsm_rev_db_load`. `grows n` says whether `db_grow` gets memory for one more entry
when there are `n`. -/
def loadPieces (grows : Nat → Bool) :
    (line : Nat) → (d : Db) → (seenNumber : Bool) → List Bytes → Except LoadError Db
  | _, d, _, [] => .ok d
  | line, d, seenNumber, piece :: pieces =>
    let p := lineText piece
    let bad (why : Why) : Except LoadError Db := .error (.parse (line + 1) why)
    if p = [] ∨ p.head? = some 0x23 then loadPieces grows (line + 1) d seenNumber pieces
    else
      match numberOperand p with
      | some operand =>
        if seenNumber then bad .crlNumberTwice
        else
          match readNumber operand with
          | .error why => bad why
          | .ok v => loadPieces grows (line + 1) { d with crlNumber := v } true pieces
      | none =>
        if h : d.entries.length < maxEntries then
          if grows d.entries.length then
            match readEntry p with
            | .error why => bad why
            | .ok e => loadPieces grows (line + 1) (d.push e h) seenNumber pieces
          else .error .outOfMemory
        else bad .tooManyEntries

/-- What is at the path of the database. -/
inductive DbFile
  | missing
  | unreadable
  | file (f : Source UInt8)

/-- The characters of one call of `fgets`, at most. -/
def lineMax : Nat := 511

/-- `fhsm_rev_db_load`: the error, if there is one, and the database. -/
def load (grows : Nat → Bool) : DbFile → Option LoadError × Db
  | .missing => (none, {})
  | .unreadable => (some .cannotRead, {})
  | .file f =>
    match loadPieces grows 0 {} false (f.pieces 10 lineMax) with
    | .ok d => (none, d)
    | .error e => (some e, {})

/-- `%02X`. -/
def hexByte (b : UInt8) : Bytes :=
  let digit (n : UInt8) : UInt8 := if n < 10 then 0x30 + n else 0x37 + n
  [digit (b >>> 4), digit (b &&& 15)]

/-- The line of an entry, without its newline. -/
def Entry.line (e : Entry) : Bytes :=
  e.serial.1.flatMap hexByte ++ 0x20 :: e.date.1 ++
    0x20 :: (match e.reason with | none => text "-" | some r => r.name)

/-- What `fhsm_rev_db_save` writes. -/
def Db.lines (d : Db) : List Bytes :=
  text "# fhsm-ca revocation database v1" ::
    text "# SERIAL(hex)  DATE(YYYYMMDDHHMMSSZ)  REASON  ('-' for none)" ::
    (text "crlNumber " ++ decimal d.crlNumber.toNat) ::
    d.entries.map Entry.line

def Db.written (d : Db) : Bytes := d.lines.flatMap (· ++ [10])

end FreeHsm.Revocation
