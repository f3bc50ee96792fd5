import FreeHsm.ForStd.Der
import FreeHsm.Pkcs11.Import

/-!
# The OCTET STRING around a point

`CKA_EC_POINT` holds a point inside a DER OCTET STRING, whose length has one of three forms.
`fhsm_strip_octet_string_inline` tells them apart by tests that overlap: the first takes any
second byte but 4 for a length, the marks of the two long forms included.
-/

namespace FreeHsm

open Der List

/-- The payload of an OCTET STRING of up to 65535 bytes. -/
def octetString (b : Bytes) : Option Bytes :=
  let at' (i : Nat) : Nat := (byteAt b i).toNat
  if at' 0 ≠ 4 then none
  else if at' 1 < 128 ∧ at' 1 + 2 = b.length then some (b.drop 2)
  else if at' 1 = 0x81 ∧ 128 ≤ at' 2 ∧ at' 2 + 3 = b.length then some (b.drop 3)
  else if at' 1 = 0x82 ∧ 0 < at' 2 ∧ at' 2 * 256 + at' 3 + 4 = b.length then some (b.drop 4)
  else none

theorem octetString_tlv {p : Bytes} (h : p.length ≤ 0xFFFF) : octetString (tlv 4 p) = some p := by
  by_cases hshort : p.length < 128
  · simp [octetString, tlv, byteAt, lengthOctets_of_lt hshort]
    omega
  by_cases hone : p.length ≤ 0xFF
  · simp [octetString, tlv, byteAt, lengthOctets_one (by omega) hone]
    omega
  · simp [octetString, tlv, byteAt, lengthOctets_two (by omega) h]
    omega

theorem eq_tlv_of_octetString {b p : Bytes} (h : octetString b = some p) :
    b = tlv 4 p ∧ p.length ≤ 0xFFFF := by
  have hbyte : ∀ {x : UInt8} (y : UInt8), x.toNat = y.toNat → x = y := fun _ => UInt8.toNat_inj.1
  obtain _ | ⟨x, _ | ⟨y, r⟩⟩ := b
  · cases h
  · simp [octetString, byteAt] at h
  simp only [octetString, byteAt, getD_cons_zero, getD_cons_succ, length_cons,
    drop_succ_cons, drop_zero] at h
  split at h
  · cases h
  rename_i hx
  obtain rfl := hbyte 4 (not_not.1 hx)
  split at h
  · rename_i hc
    obtain rfl := Option.some.inj h
    have hy : UInt8.ofNat r.length = y := hbyte _ (by simp; omega)
    rw [tlv, lengthOctets_of_lt (by omega), hy]
    exact ⟨rfl, by omega⟩
  split at h
  · rename_i hc
    obtain rfl := hbyte 0x81 hc.1
    obtain _ | ⟨z, r⟩ := r
    · simp at hc
    simp at hc h
    subst h
    have := z.toNat_lt
    have hz : UInt8.ofNat r.length = z := hbyte _ (by simp; omega)
    rw [tlv, lengthOctets_one (by omega) (by omega), hz]
    exact ⟨rfl, by omega⟩
  split at h
  · rename_i hc
    obtain rfl := hbyte 0x82 hc.1
    obtain _ | ⟨z, _ | ⟨w, r⟩⟩ := r
    · simp at hc
    · simp at hc
    simp at hc h
    subst h
    have := z.toNat_lt
    have := w.toNat_lt
    have hz : UInt8.ofNat (r.length / 256) = z := hbyte _ (by simp; omega)
    have hw : UInt8.ofNat r.length = w := hbyte _ (by simp; omega)
    rw [tlv, lengthOctets_two (by omega) (by omega), hz, hw]
    exact ⟨rfl, by omega⟩
  · cases h

/-- What the function is for. -/
structure StripSound (b : Bytes) : Prop where
  /-- It undoes the encoding. -/
  returns : ∀ p, 0 < p.length → p.length ≤ 0xFFFF → b = tlv 4 p → stripOctetString b = some p
  /-- It accepts nothing else. -/
  refuses : (∀ p, b ≠ tlv 4 p) → stripOctetString b = none
  /-- What it returns lies in the input. -/
  within : ∀ q, stripOctetString b = some q → ∃ before, b = before ++ q

/-- What the tests take for something it is not: the encoding of four bytes, whose length the first
test leaves out; a second byte of 128 or more that fits as a length; and a length in a longer form than
it needs. -/
def Misread (b : Bytes) : Prop :=
  let at' (i : Nat) : Nat := (byteAt b i).toNat
  at' 0 = 4 ∧ (at' 1 = 4 ∧ b.length = 6 ∨ 128 ≤ at' 1 ∧ at' 1 + 2 = b.length ∨
    at' 1 = 0x81 ∧ 0 < at' 2 ∧ at' 2 < 128 ∧ at' 2 + 3 = b.length ∨
    at' 1 = 0x82 ∧ at' 2 = 0 ∧ 0 < at' 3 ∧ at' 3 + 4 = b.length)

theorem strip_eq_octetString_iff {b : Bytes} (hlen : 2 < b.length) :
    stripOctetString b = octetString b ↔ ¬Misread b := by
  simp only [Misread, stripOctetString, octetString]
  constructor
  · intro heq hmis
    have hsize := congrArg (Option.map length) heq
    repeat' split at hsize
    all_goals simp at hsize
    all_goals omega
  · intro hno
    repeat' split
    all_goals first | rfl | omega

theorem length_of_strip {b q : Bytes} (h : stripOctetString b = some q) :
    2 < b.length ∧ ∃ before, b = before ++ q := by
  simp only [stripOctetString] at h
  repeat' split at h
  all_goals cases h
  all_goals exact ⟨by omega, _, (take_append_drop _ b).symm⟩

/-- The function does on an input what it is for exactly when the input is none of these. -/
theorem strip_sound_iff (b : Bytes) : StripSound b ↔ ¬Misread b := by
  constructor
  · intro hsound hmis
    have hlen : 2 < b.length ∧ b.length ≤ 0xFFFF := by
      simp only [Misread] at hmis
      have := (byteAt b 1).toNat_lt
      have := (byteAt b 3).toNat_lt
      omega
    refine (strip_eq_octetString_iff hlen.1).1 ?_ hmis
    cases hread : octetString b with
    | none =>
      refine hsound.refuses fun p hb => ?_
      have hp := length_content_lt 4 p
      rw [hb, octetString_tlv (by rw [← hb] at hp; omega)] at hread
      cases hread
    | some p =>
      obtain ⟨hb, hmax⟩ := eq_tlv_of_octetString hread
      refine hsound.returns p ?_ hmax hb
      by_contra hnil
      rw [length_eq_zero_iff.1 (Nat.eq_zero_of_not_pos hnil)] at hb
      rw [hb] at hlen
      exact absurd hlen.1 (by decide)
  · intro hno
    refine ⟨fun p hpos hmax hb => ?_, fun hnot => ?_, fun q hq => (length_of_strip hq).2⟩
    · have hread := octetString_tlv hmax
      rw [← hb] at hread
      rw [(strip_eq_octetString_iff ?_).2 hno, hread]
      rw [hb, length_tlv, lengthOctets]
      split
      all_goals simp only [length_cons, length_nil]
      all_goals omega
    · by_contra hsome
      obtain ⟨q, hq⟩ := Option.ne_none_iff_exists'.1 hsome
      rw [(strip_eq_octetString_iff (length_of_strip hq).1).2 hno] at hq
      exact hnot q (eq_tlv_of_octetString hq).1

/-- A payload of four bytes is refused, one of 128 bytes comes with the byte before it, and a length in a
form that is too long is accepted. -/
theorem strip_misreads :
    stripOctetString (tlv 4 [1, 2, 3, 4]) = none ∧ ¬StripSound (tlv 4 [1, 2, 3, 4]) ∧
    stripOctetString (tlv 4 (replicate 128 7)) = some (0x80 :: replicate 128 7) ∧
    stripOctetString [4, 0x81, 1, 7] = some [7] := by
  have hnone : stripOctetString (tlv 4 [1, 2, 3, 4]) = none := by decide
  refine ⟨hnone, fun hsound => ?_, by decide +kernel, by decide⟩
  cases hnone.symm.trans (hsound.returns [1, 2, 3, 4] (by decide) (by decide) rfl)

/-! ## Points of Edwards curves -/

/-- What `parse_ed_pub` is to make of a value of `CKA_EC_POINT`. -/
structure EdPointSound (curve : EdCurve) (t : Template) (raw : Bytes) : Prop where
  /-- A key is accepted bare and wrapped, and is what comes out. -/
  accepts : ∀ key, key.length = curve.pubLen → raw = key ∨ raw = tlv 4 key →
    parseEdPub t = .ok (.edPub curve key)
  /-- Nothing else is accepted. -/
  refuses : raw.length ≠ curve.pubLen → (∀ key, key.length = curve.pubLen → raw ≠ tlv 4 key) →
    parseEdPub t = .error .valueInvalid

/-- A bare key that starts as an OCTET STRING of its own length does, or a key behind a length in a form
that is too long. -/
def EdMisread (n : Nat) (raw : Bytes) : Prop :=
  let at' (i : Nat) : Nat := (byteAt raw i).toNat
  at' 0 = 4 ∧ (raw.length = n ∧ at' 1 + 2 = n ∨
    (raw.length = n ∨ raw.length = n + 3) ∧ at' 1 = 0x81 ∧ at' 2 + 3 = raw.length ∨
    (raw.length = n ∨ raw.length = n + 4) ∧ at' 1 = 0x82 ∧ at' 2 * 256 + at' 3 + 4 = raw.length)

theorem pubLen_cases (curve : EdCurve) : curve.pubLen = 32 ∨ curve.pubLen = 57 := by
  cases curve
  · exact .inl rfl
  · exact .inr rfl

/-- `parse_ed_pub` reads a value as it should exactly when it is none of these. -/
theorem parseEdPub_sound_iff {t : Template} {der raw : Bytes} {curve : EdCurve}
    (hparams : t.bytes? ckaEcParams = some der) (hcurve : matchTable edCurveOids der = some curve)
    (hpoint : t.bytes? ckaEcPoint = some raw) :
    EdPointSound curve t raw ↔ ¬EdMisread curve.pubLen raw := by
  have hn := pubLen_cases curve
  have hparse : parseEdPub t = (stripOctetString raw).elim
      (if raw.length = curve.pubLen then .ok (.edPub curve raw) else .error .valueInvalid)
      fun point => if point.length ≠ curve.pubLen then .error .valueInvalid else .ok (.edPub curve point) := by
    simp only [parseEdPub, hparams, hpoint, hcurve]
    cases stripOctetString raw <;> rfl
  constructor
  · intro hsound hmis
    simp only [EdMisread] at hmis
    -- what is left of a bare key is too short, and what is behind a long length is a key
    obtain ⟨q, hq, hsize⟩ : ∃ q, stripOctetString raw = some q ∧
        (q.length = curve.pubLen ↔ raw.length ≠ curve.pubLen) := by
      simp only [stripOctetString]
      repeat' split
      all_goals first | omega | exact ⟨_, rfl, by rw [length_drop]; omega⟩
    rw [hq] at hparse
    by_cases hlen : raw.length = curve.pubLen
    · have hok := hsound.accepts raw hlen (.inl rfl)
      rw [hparse] at hok
      simp [hsize, hlen] at hok
    · have herr := hsound.refuses hlen fun key hkey hraw => ?_
      · rw [hparse] at herr
        simp [hsize.2 hlen] at herr
      · have htlv := length_tlv 4 key
        rw [lengthOctets_of_lt (by omega), ← hraw, length_singleton] at htlv
        omega
  · intro hno
    refine ⟨fun key hkey hraw => ?_, fun hlen hnot => ?_⟩
    · rcases hraw with rfl | rfl
      · have hnone : stripOctetString raw = none := by
          simp only [EdMisread] at hno
          simp only [stripOctetString]
          repeat' split
          all_goals first | rfl | omega
        rw [hparse, hnone]
        simp [hkey]
      · have hstrip : stripOctetString (tlv 4 key) = some key := by
          simp [stripOctetString, tlv, byteAt, lengthOctets_of_lt (show key.length < 128 by omega)]
          omega
        rw [hparse, hstrip]
        simp [hkey]
    · rw [hparse]
      cases hq : stripOctetString raw with
      | none => simp [hlen]
      | some q =>
        by_cases hlong : q.length = curve.pubLen
        · refine absurd (eq_tlv_of_octetString ?_).1 (hnot q hlong)
          simp only [EdMisread] at hno
          simp only [stripOctetString] at hq
          repeat' split at hq
          all_goals cases hq
          all_goals rw [length_drop] at hlong
          · simp only [octetString]
            rw [if_neg (by omega), if_pos (by omega)]
          all_goals omega
        · simp [hlong]

/-- The template of a public key of Ed25519. -/
def ed25519Template (point : Bytes) : Template :=
  [⟨ckaEcParams, .bytes [0x06, 0x03, 0x2B, 0x65, 0x70], []⟩, ⟨ckaEcPoint, .bytes point, []⟩]

theorem parseEdPub_sound_sevens :
    EdPointSound .ed25519 (ed25519Template (replicate 32 7)) (replicate 32 7) :=
  (parseEdPub_sound_iff rfl rfl rfl).2 (by unfold EdMisread; decide)

/-- A bare key that starts with 4 and 30 is refused. -/
theorem parseEdPub_bare_refused :
    let key : Bytes := 4 :: 30 :: replicate 30 7
    key.length = EdCurve.ed25519.pubLen ∧ parseEdPub (ed25519Template key) = .error .valueInvalid ∧
      ¬EdPointSound .ed25519 (ed25519Template key) key := by
  intro key
  have herr : parseEdPub (ed25519Template key) = .error .valueInvalid := by decide
  refine ⟨rfl, herr, fun hsound => ?_⟩
  cases herr.symm.trans (hsound.accepts key rfl (.inl rfl))

end FreeHsm
