import FreeHsm.ForStd.StateExcept
import FreeHsm.Revocation.Ocsp

/-!
# What an OCSP answer says

The answer is compared with the response that the standard asks for, written with the
encoding rules alone: one single response for each question, in order and with the
question's own octets, and the status that the database gives.
-/

namespace FreeHsm.Revocation

open List Der

open Der (tlv lengthOctets)
open StateExcept (Gives bind_ok bind_eq_ok)

/-! ## Encoders -/

/-- The greatest length the encoders can write. -/
def lenMax : Nat := 0xFFFFFF

variable {cap n : Nat} {content basic : Bytes}

theorem derLen_eq (hcap : 4 ≤ cap) (n : Nat) :
    derLen n cap = if n ≤ lenMax then some (lengthOctets n) else none := by
  unfold derLen lenMax
  by_cases h1 : n < 0x80
  · rw [if_pos h1, if_neg (by omega), if_pos (by omega), lengthOctets_of_lt h1]
  by_cases h2 : n ≤ 0xFF
  · rw [if_neg h1, if_pos h2, if_neg (by omega), if_pos (by omega), lengthOctets_one (by omega) h2]
  by_cases h3 : n ≤ 0xFFFF
  · rw [if_neg h1, if_neg h2, if_pos h3, if_neg (by omega), if_pos (by omega),
      lengthOctets_two (by omega) h3]
  by_cases h4 : n ≤ 0xFFFFFF
  · rw [if_neg h1, if_neg h2, if_neg h3, if_pos h4, if_neg (by omega), if_pos h4,
      lengthOctets_three (by omega) h4]
  · rw [if_neg h1, if_neg h2, if_neg h3, if_neg h4, if_neg h4]

theorem responseLen_eq (h : n ≤ lenMax) : responseLen n = lengthOctets n := by
  unfold responseLen
  unfold lenMax at h
  by_cases h1 : n < 0x80
  · rw [if_pos h1, lengthOctets_of_lt h1]
  by_cases h2 : n ≤ 0xFF
  · rw [if_neg h1, if_pos h2, lengthOctets_one (by omega) h2]
  by_cases h3 : n ≤ 0xFFFF
  · rw [if_neg h1, if_neg h2, if_pos h3, lengthOctets_two (by omega) h3]
  · rw [if_neg h1, if_neg h2, if_neg h3, lengthOctets_three (by omega) h]

theorem length_responseLen_le (n : Nat) : (responseLen n).length ≤ 4 := by
  unfold responseLen
  split
  · simp
  split
  · simp
  split <;> simp

theorem length_lengthOctets_le (h : n ≤ lenMax) : (lengthOctets n).length ≤ 4 := by
  rw [← responseLen_eq h]
  exact length_responseLen_le n

theorem tagWrap_eq (tag : UInt8) (hcap : content.length ≤ lenMax → (tlv tag content).length ≤ cap) :
    tagWrap tag content cap = if content.length ≤ lenMax then some (tlv tag content) else none := by
  unfold tagWrap
  rw [derLen_eq (le_refl 4)]
  by_cases h : content.length ≤ lenMax
  · have := hcap h
    rw [length_tlv] at this
    rw [if_pos h, if_pos h]
    dsimp only
    rw [if_neg (by omega), tlv]
  · rw [if_neg h, if_neg h]

theorem length_tlv_le (tag : UInt8) (h : content.length ≤ lenMax) :
    (tlv tag content).length ≤ content.length + 5 := by
  have := length_lengthOctets_le h
  rw [length_tlv]
  omega

theorem orRefuse_derLen (hcap : 4 ≤ cap) (n : Nat) (e : Err) :
    orRefuse (derLen n cap) e = if n ≤ lenMax then .ok (lengthOctets n) else .error (.err e) := by
  rw [derLen_eq hcap]
  split <;> rfl

theorem putSequence_eq (content : Bytes) (outLen : Nat) :
    putSequence content outLen =
      if content.length ≤ lenMax then
        if outLen < (tlv 0x30 content).length then .error (.tooSmall (tlv 0x30 content).length)
        else .ok (tlv 0x30 content)
      else .error (.err .functionFailed) := by
  unfold putSequence
  rw [orRefuse_derLen (by decide)]
  by_cases h : content.length ≤ lenMax
  · rw [if_pos h, if_pos h, length_tlv]
    rfl
  · rw [if_neg h, if_neg h]
    rfl

/-! ## The response the standard asks for -/

/-- What is said about a certificate. -/
inductive Verdict
  | good
  | unknown
  | revoked (time : Bytes) (reason : Option Nat)
  deriving DecidableEq

/-- `CertStatus`. -/
def Verdict.der : Verdict → Bytes
  | good => tlv 0x80 []
  | unknown => tlv 0x82 []
  | revoked time reason =>
    tlv 0xA1 (time ++ reason.elim [] fun r => tlv 0xA0 (tlv 0x0A [UInt8.ofNat r]))

/-- The content of a `SingleResponse`. -/
def singleContent (certId : Bytes) (v : Verdict) (thisUpd nextUpd : Bytes) : Bytes :=
  certId ++ v.der ++ thisUpd ++ tlv 0xA0 nextUpd

/-- Single responses one after the other, given by their contents. -/
def singlesDer (singles : List Bytes) : Bytes := Der.elements (singles.map fun c => (0x30, c))

/-- The content of `ResponseData`, for a responder given by name. -/
def tbsContent (subject producedAt : Bytes) (singles : List Bytes) (exts : Option Bytes) : Bytes :=
  tlv 0xA1 subject ++ producedAt ++ tlv 0x30 (singlesDer singles) ++ exts.elim [] (tlv 0xA1)

/-- The content of a `BasicOCSPResponse`. -/
def basicContent (tbs algid sig cert : Bytes) : Bytes :=
  tlv 0x30 tbs ++ algid ++ tlv 0x03 (0x00 :: sig) ++ tlv 0xA0 (tlv 0x30 cert)

/-- The content of an `OCSPResponse`. -/
def responseContent (basic : Bytes) : Bytes :=
  tlv 0x0A [0] ++ tlv 0xA0 (tlv 0x30 (oidBasic ++ tlv 0x04 basic))

theorem singlesDer_nil : singlesDer [] = [] := rfl

theorem singlesDer_cons (c : Bytes) (cs : List Bytes) : singlesDer (c :: cs) = tlv 0x30 c ++ singlesDer cs :=
  rfl

theorem length_le_singlesDer {c : Bytes} {cs : List Bytes} (h : c ∈ cs) :
    c.length ≤ (singlesDer cs).length :=
  length_le_elements (e := (0x30, c)) (mem_map.2 ⟨c, h, rfl⟩)

/-! ## Single responses -/

/-- What the encoder is handed for a verdict. -/
def Verdict.single (v : Verdict) (certId thisUpd nextUpd : Bytes) : Single :=
  match v with
  | good => ⟨certId, .good, none, none, thisUpd, some nextUpd⟩
  | unknown => ⟨certId, .unknown, none, none, thisUpd, some nextUpd⟩
  | revoked time reason => ⟨certId, .revoked, some time, reason, thisUpd, some nextUpd⟩

/-- An encoded time: a `GeneralizedTime` that fits the buffers. -/
def IsTime (b : Bytes) : Prop := startsWith 0x18 b = true ∧ b.length ≤ 24

/-- A verdict that the encoder takes. -/
def Verdict.Encodable : Verdict → Prop
  | good | unknown => True
  | revoked time reason => IsTime time ∧ ∀ r ∈ reason, r ≤ 10

theorem certStatus_single {v : Verdict} (hv : v.Encodable) (certId thisUpd nextUpd : Bytes) :
    (v.single certId thisUpd nextUpd).certStatus = .ok v.der := by
  cases v with
  | good => rfl
  | unknown => rfl
  | revoked time reason =>
    obtain ⟨⟨-, hlen⟩, hreason⟩ := hv
    have hr : (reason.any fun r => decide (10 < r)) = false := by
      cases reason with
      | none => rfl
      | some r => simpa using hreason r rfl
    have hbytes : (reason.elim [] fun r => [0xA0, 0x03, 0x0A, 0x01, UInt8.ofNat r]) =
        reason.elim [] fun r => tlv 0xA0 (tlv 0x0A [UInt8.ofNat r]) := by
      cases reason <;> rfl
    have hcontent : (time ++ reason.elim [] fun r => tlv 0xA0 (tlv 0x0A [UInt8.ofNat r])).length ≤ 29 := by
      cases reason with
      | none => simpa using by omega
      | some r =>
        simp only [Option.elim_some, length_append]
        show time.length + 5 ≤ 29
        omega
    show (do
      refuseIf (decide (24 < time.length)) .argumentsBad
      refuseIf (reason.any fun r => decide (10 < r)) .argumentsBad
      orRefuse (tagWrap 0xA1 (time ++ reason.elim [] fun r => [0xA0, 0x03, 0x0A, 0x01, UInt8.ofNat r]) 32)
        .functionFailed) = _
    have hroom : (tlv 0xA1 (time ++ reason.elim [] fun r => tlv 0xA0 (tlv 0x0A [UInt8.ofNat r]))).length ≤
        32 := by
      rw [length_tlv, lengthOctets_of_lt (by omega), length_singleton]
      omega
    rw [decide_eq_false (by omega), hr, hbytes, tagWrap_eq 0xA1 fun _ => hroom,
      if_pos (by unfold lenMax; omega)]
    rfl

theorem ocspSingle_eq {v : Verdict} (hv : v.Encodable) {certId thisUpd nextUpd : Bytes}
    (hid : startsWith 0x30 certId = true) (hthis : IsTime thisUpd) (hnext : IsTime nextUpd)
    (outLen : Nat) :
    ocspSingle (v.single certId thisUpd nextUpd) outLen =
      putSequence (singleContent certId v thisUpd nextUpd) outLen := by
  have hcons : (v.single certId thisUpd nextUpd).consistent = true := by
    cases v with
    | good => rfl
    | unknown => rfl
    | revoked time reason => exact hv.1.1
  have hcertId : (v.single certId thisUpd nextUpd).certId = certId := by cases v <;> rfl
  have hthisUpd : (v.single certId thisUpd nextUpd).thisUpd = thisUpd := by cases v <;> rfl
  have hnextUpd : (v.single certId thisUpd nextUpd).nextUpd = some nextUpd := by cases v <;> rfl
  have htime : explicitTime (some nextUpd) = .ok (tlv 0xA0 nextUpd) := by
    rw [explicitTime, orRefuse_derLen (le_refl 4), if_pos (by have := hnext.2; unfold lenMax; omega)]
    rfl
  unfold ocspSingle
  rw [hcertId, hthisUpd, hnextUpd, hid, hthis.1, hcons, certStatus_single hv, htime]
  have hall : (some nextUpd).all (startsWith 0x18) = true := hnext.1
  rw [hall]
  rfl

section

variable {mem : Site → Bool}

/-- Some allocation fails. -/
def Lacks (mem : Site → Bool) : Prop := ∃ site, mem site = false

theorem probe_putSequence {f : Nat → Except EncodeError Bytes} {c : Bytes}
    (hf : ∀ n, f n = putSequence c n) :
    probe f = if c.length ≤ lenMax then .ok (tlv 0x30 c).length else .error .functionFailed := by
  have hpos := length_content_lt 0x30 c
  rw [probe, hf, putSequence_eq]
  by_cases hlen : c.length ≤ lenMax
  · rw [if_pos hlen, if_pos hlen, if_pos (by omega)]
  · rw [if_neg hlen, if_neg hlen]

theorem encoded_putSequence (c : Bytes) (n : Nat) :
    encoded (putSequence c n) =
      if c.length ≤ lenMax then
        if n < (tlv 0x30 c).length then .error .bufferTooSmall else .ok (tlv 0x30 c)
      else .error .functionFailed := by
  rw [putSequence_eq]
  split
  · split <;> rfl
  · rfl

theorem singlesLoop_cons {s : Single} {c : Bytes} (hs : ∀ n, ocspSingle s n = putSequence c n)
    (hlen : c.length ≤ lenMax) (i : Nat) (ss : List Single) (sr : Bytes) (cap : Nat) :
    (mem (.single i) = false ∧ ∃ e, singlesLoop mem i (s :: ss) sr cap = .error e) ∨
      ∃ cap', singlesLoop mem i (s :: ss) sr cap = singlesLoop mem (i + 1) ss (sr ++ tlv 0x30 c) cap' := by
  have hneed : probe (ocspSingle s) = .ok (tlv 0x30 c).length := by
    rw [probe_putSequence hs, if_pos hlen]
  have hput : ∀ n, (tlv 0x30 c).length ≤ n → encoded (ocspSingle s n) = .ok (tlv 0x30 c) := by
    intro n hn
    rw [hs, encoded_putSequence, if_pos hlen, if_neg (by omega)]
  rw [singlesLoop, hneed]
  by_cases hgrows : cap < sr.length + (tlv 0x30 c).length
  · cases hmem : mem (.single i) with
    | false =>
      refine .inl ⟨rfl, .hostMemory, ?_⟩
      simp [hgrows, bind, Except.bind, throw, throwThe, MonadExceptOf.throw]
    | true =>
      refine .inr ⟨(sr.length + (tlv 0x30 c).length) * 2 + 256, ?_⟩
      have hput' := hput ((sr.length + (tlv 0x30 c).length) * 2 + 256 - sr.length) (by omega)
      simp [hgrows, bind, Except.bind, hput']
  · refine .inr ⟨cap, ?_⟩
    have hput' := hput (cap - sr.length) (by omega)
    simp [hgrows, bind, Except.bind, hput']

/-- The loop writes the single responses one after the other, unless one is too long. -/
theorem singlesLoop_gives {content : Single → Bytes} {ss : List Single}
    (hss : ∀ s ∈ ss, ∀ n, ocspSingle s n = putSequence (content s) n) (i : Nat) (sr : Bytes)
    (cap : Nat) :
    Gives (Lacks mem ∨ ∃ s ∈ ss, lenMax < (content s).length) (singlesLoop mem i ss sr cap)
      (sr ++ singlesDer (ss.map content)) := by
  induction ss generalizing i sr cap with
  | nil =>
    rw [map_nil, singlesDer_nil, append_nil]
    exact .ok sr
  | cons s ss ih =>
    have hs := hss s mem_cons_self
    by_cases hlen : (content s).length ≤ lenMax
    · rcases singlesLoop_cons hs hlen i ss sr cap with ⟨hmem, herror⟩ | ⟨cap', heq⟩
      · exact .inr ⟨.inl ⟨_, hmem⟩, herror⟩
      · rw [heq, map_cons, singlesDer_cons, ← append_assoc]
        refine (ih (fun s' hs' => hss s' (mem_cons_of_mem _ hs')) _ _ _).mono (Or.imp_right ?_)
        rintro ⟨s', hs', hlong⟩
        exact ⟨s', mem_cons_of_mem _ hs', hlong⟩
    · refine .inr ⟨.inr ⟨s, mem_cons_self, not_le.1 hlen⟩, .functionFailed, ?_⟩
      rw [singlesLoop, probe_putSequence hs, if_neg hlen]
      rfl

/-! ## The signed response -/

theorem orFailed_derLen (n : Nat) :
    orFailed (derLen n 5) = if n ≤ lenMax then .ok (lengthOctets n) else .error .functionFailed := by
  rw [derLen_eq (by decide)]
  split <;> rfl

theorem orFailed_tagWrap {cause : Prop} (tag : UInt8) (h : lenMax < content.length → cause) :
    Gives cause (orFailed (tagWrap tag content (content.length + 8))) (tlv tag content) := by
  rw [tagWrap_eq tag fun h => le_trans (length_tlv_le tag h) (by omega)]
  split
  · exact .inl rfl
  · rename_i hlong
    exact .inr ⟨h (not_le.1 hlong), _, rfl⟩

theorem allocated_gives (site : Site) : Gives (Lacks mem) (allocated mem site) () := by
  unfold allocated
  split
  · exact .inl rfl
  · rename_i hmem
    exact .inr ⟨⟨site, by simpa using hmem⟩, _, rfl⟩

/-- The lengths inside a `ResponseData` are bounded by that of its content. -/
theorem length_tbsContent (subject producedAt : Bytes) (singles : List Bytes) (exts : Option Bytes) :
    subject.length ≤ (tbsContent subject producedAt singles exts).length ∧
      (singlesDer singles).length ≤ (tbsContent subject producedAt singles exts).length ∧
      ∀ e ∈ exts, e.length ≤ (tbsContent subject producedAt singles exts).length := by
  have hsubject := length_content_lt 0xA1 subject
  have hsingles := length_content_lt 0x30 (singlesDer singles)
  simp only [tbsContent, length_append]
  refine ⟨by omega, by omega, fun e he => ?_⟩
  have he' := length_content_lt 0xA1 e
  rw [Option.mem_def.1 he, Option.elim_some]
  omega

theorem ocspTbs_eq {subject producedAt : Bytes} {singles : List Bytes} {exts : Option Bytes}
    (hproduced : IsTime producedAt) (hexts : ∀ e ∈ exts, startsWith 0x30 e = true) (outLen : Nat) :
    ocspTbs (tlv 0xA1 subject) producedAt (tlv 0x30 (singlesDer singles)) exts outLen =
      putSequence (tbsContent subject producedAt singles exts) outLen := by
  obtain ⟨-, -, hext⟩ := length_tbsContent subject producedAt singles exts
  have hall : exts.all (startsWith 0x30) = true := by
    cases exts with
    | none => rfl
    | some e => exact hexts e rfl
  unfold ocspTbs
  rw [show startsWith 0xA1 (tlv 0xA1 subject) = true from rfl, hproduced.1,
    show startsWith 0x30 (tlv 0x30 (singlesDer singles)) = true from rfl, hall]
  cases exts with
  | none => rfl
  | some e =>
    show (explicitExts (some e) >>= fun ext => putSequence (_ ++ ext) outLen) = _
    rw [explicitExts, orRefuse_derLen (by decide)]
    by_cases hlen : e.length ≤ lenMax
    · rw [if_pos hlen]
      rfl
    · -- then the whole is too long as well
      have hbig := lt_of_lt_of_le (not_le.1 hlen) (hext e rfl)
      rw [if_neg hlen, putSequence_eq, if_neg (not_le.2 hbig)]
      rfl

section

variable {L : OcspLib} {s : Signer} {cert producedAt : Bytes} {rc : X509} {ss : List Single}
  {content : Single → Bytes} {exts : Option Bytes} {outLen : Nat}

theorem responseData_gives (hproduced : IsTime producedAt)
    (hss : ∀ s ∈ ss, ∀ n, ocspSingle s n = putSequence (content s) n)
    (hexts : ∀ e ∈ exts, startsWith 0x30 e = true) :
    Gives (Lacks mem ∨ lenMax < (tbsContent rc.subject producedAt (ss.map content) exts).length)
      (responseData mem rc producedAt ss exts)
      (tlv 0x30 (tbsContent rc.subject producedAt (ss.map content) exts)) := by
  obtain ⟨hsubject, hsingles, -⟩ := length_tbsContent rc.subject producedAt (ss.map content) exts
  have htbs (n : Nat) := @ocspTbs_eq rc.subject _ (ss.map content) _ hproduced hexts n
  have hmem (site : Site) : Gives (Lacks mem ∨ lenMax <
      (tbsContent rc.subject producedAt (ss.map content) exts).length) (allocated mem site) () :=
    (allocated_gives site).mono .inl
  -- the calls in their order
  apply (hmem .responderId).bind
  apply (orFailed_tagWrap 0xA1 fun h => .inr (by omega)).bind
  apply ((singlesLoop_gives hss 0 [] 0).mono (Or.imp_right ?_)).bind
  · apply (hmem .singles).bind
    apply (orFailed_tagWrap 0x30 fun h => .inr (by rw [nil_append] at h; omega)).bind
    rw [nil_append]
    have hprobe := probe_putSequence htbs
    by_cases hlen : (tbsContent rc.subject producedAt (ss.map content) exts).length ≤ lenMax
    · rw [if_pos hlen] at hprobe
      apply Gives.bind (.inl hprobe)
      apply (hmem .tbs).bind
      rw [htbs, encoded_putSequence, if_pos hlen, if_neg (lt_irrefl _)]
      exact .inl rfl
    · rw [hprobe, if_neg hlen]
      exact .inr ⟨.inr (not_le.1 hlen), _, rfl⟩
  · rintro ⟨s, hs, hlong⟩
    have := length_le_singlesDer (mem_map_of_mem (f := content) hs)
    omega

theorem basicResponse_eq (algid tbs sig : Bytes) :
    basicResponse algid cert (tlv 0x30 tbs) sig outLen =
      encoded (putSequence (basicContent tbs algid sig cert) outLen) := by
  have hbasic : (basicContent tbs algid sig cert).length = (tlv 0x30 tbs).length + algid.length +
      (tlv 0x03 (0x00 :: sig)).length + (tlv 0xA0 (tlv 0x30 cert)).length := by
    simp only [basicContent, length_append]
  have hsig := length_content_lt 0x03 (0x00 :: sig)
  have hinner := length_content_lt 0x30 cert
  have houter := length_content_lt 0xA0 (tlv 0x30 cert)
  -- a part that is too long makes the whole too long
  have hlong (h : lenMax < (basicContent tbs algid sig cert).length) :
      encoded (putSequence (basicContent tbs algid sig cert) outLen) = .error .functionFailed := by
    rw [encoded_putSequence, if_neg (not_le.2 h)]
  unfold basicResponse
  rw [orFailed_derLen, orFailed_derLen]
  split
  · split
    · show (orFailed (derLen (tlv 0x30 cert).length 5) >>= fun outerHdr => encoded (putSequence
        (tlv 0x30 tbs ++ algid ++ tlv 0x03 (0x00 :: sig) ++ 0xA0 :: (outerHdr ++ tlv 0x30 cert))
        outLen)) = _
      rw [orFailed_derLen]
      split
      · rfl
      · rw [hlong (by omega)]
        rfl
    · rw [hlong (by omega)]
      rfl
  · rw [hlong (by omega)]
    rfl

end

end

/-! ## The outer layers -/

theorem responseTlv_eq (tag : UInt8) (h : content.length ≤ lenMax) :
    responseTlv tag content = tlv tag content := by
  rw [responseTlv, responseLen_eq h, tlv]

theorem length_responseTlv (tag : UInt8) (content : Bytes) :
    content.length < (responseTlv tag content).length ∧
      (responseTlv tag content).length ≤ content.length + 5 := by
  have := length_responseLen_le content.length
  simp only [responseTlv, length_cons, length_append]
  omega

theorem length_wrapContent (basic : Bytes) :
    basic.length < (wrapContent basic).length ∧ (wrapContent basic).length ≤ basic.length + 29 := by
  have h1 := length_responseTlv 0x04 basic
  have h2 := length_responseTlv 0x30 (oidBasic ++ responseTlv 0x04 basic)
  have h3 := length_responseTlv 0xA0 (responseTlv 0x30 (oidBasic ++ responseTlv 0x04 basic))
  have hoid : oidBasic.length = 11 := rfl
  rw [length_append] at h2
  simp only [wrapContent, length_append, length_cons, length_nil]
  omega

/-- While no length is too great, the content is that of the standard. -/
theorem wrapContent_eq (h : (wrapContent basic).length ≤ lenMax) :
    wrapContent basic = responseContent basic := by
  have h1 := length_responseTlv 0x04 basic
  have h2 := length_responseTlv 0x30 (oidBasic ++ responseTlv 0x04 basic)
  have h3 := length_responseTlv 0xA0 (responseTlv 0x30 (oidBasic ++ responseTlv 0x04 basic))
  have happend : (oidBasic ++ responseTlv 0x04 basic).length = _ := length_append
  have hwrap : (wrapContent basic).length =
      3 + (responseTlv 0xA0 (responseTlv 0x30 (oidBasic ++ responseTlv 0x04 basic))).length := by
    rw [wrapContent, length_append]
    rfl
  rw [wrapContent, responseTlv_eq 0xA0 (by omega), responseTlv_eq 0x30 (by omega),
    responseTlv_eq 0x04 (by omega)]
  rfl

theorem responseContent_bounds (h : (responseContent basic).length ≤ lenMax) :
    (tlv 0x30 (oidBasic ++ tlv 0x04 basic)).length ≤ lenMax ∧
      (oidBasic ++ tlv 0x04 basic).length ≤ lenMax ∧ basic.length ≤ lenMax := by
  have h1 := length_content_lt 0x04 basic
  have h2 := length_content_lt 0x30 (oidBasic ++ tlv 0x04 basic)
  have h3 := length_content_lt 0xA0 (tlv 0x30 (oidBasic ++ tlv 0x04 basic))
  have h4 : (oidBasic ++ tlv 0x04 basic).length = _ := length_append
  rw [responseContent, length_append] at h
  omega

theorem responseContent_wrapContent (h : (responseContent basic).length ≤ lenMax) :
    wrapContent basic = responseContent basic := by
  obtain ⟨h1, h2, h3⟩ := responseContent_bounds h
  rw [wrapContent, responseTlv_eq 0x04 h3, responseTlv_eq 0x30 h2, responseTlv_eq 0xA0 h1]
  rfl

theorem wrapResponse_eq (basic : Bytes) :
    wrapResponse basic (basic.length + 64) = some (responseTlv 0x30 (wrapContent basic)) := by
  have h1 := length_wrapContent basic
  have h2 := length_responseTlv 0x30 (wrapContent basic)
  unfold wrapResponse
  dsimp only
  rw [if_neg (by omega)]

theorem responseLen_head (n : Nat) : ∃ b rest, responseLen n = b :: rest ∧ b.toNat ≤ 0x83 := by
  unfold responseLen
  split
  · rename_i h
    refine ⟨_, _, rfl, ?_⟩
    rw [UInt8.toNat_ofNat', Nat.mod_eq_of_lt (by omega)]
    omega
  split
  · exact ⟨_, _, rfl, by decide⟩
  split <;> exact ⟨_, _, rfl, by decide⟩

/-- If what is written is an element by the rules, no length was too great. -/
theorem responseTlv_inj {tag : UInt8} {c c' : Bytes} (hc : c.length < 2 ^ 32)
    (h : responseTlv tag c = tlv tag c') : c.length ≤ lenMax ∧ c = c' := by
  have hle := length_responseTlv tag c
  have hlt' := length_content_lt tag c'
  rw [← h] at hlt'
  have hbound' : c'.length < 256 ^ 127 := Nat.lt_of_lt_of_le (m := 2 ^ 33) (by omega) (by decide)
  have hbound : c.length < 256 ^ 127 := Nat.lt_of_lt_of_le (m := 2 ^ 33) (by omega) (by decide)
  -- the first octet of the length
  have hsmall' : c'.length ≤ lenMax := by
    by_contra hbig
    have hlow : 256 ^ 3 ≤ c'.length := not_le.1 hbig
    obtain ⟨b, rest, hhead, hb⟩ := lengthOctets_head (by decide) hlow hbound'
    obtain ⟨b', rest', hhead', hb'⟩ := responseLen_head c.length
    rw [responseTlv, tlv, hhead, hhead'] at h
    simp only [cons_append, cons.injEq] at h
    rw [h.2.1] at hb'
    omega
  have hsmall : c.length ≤ lenMax := by
    by_contra hbig
    have hlen := congrArg length h
    have h4 : (responseLen c.length).length = 4 := by
      unfold lenMax at hbig
      rw [responseLen, if_neg (by omega), if_neg (by omega), if_neg (by omega)]
      rfl
    have h4' := length_lengthOctets_le hsmall'
    simp only [responseTlv, length_tlv, length_cons, length_append, h4] at hlen
    omega
  rw [responseTlv_eq tag hsmall] at h
  exact ⟨hsmall, tlv_inj hbound hbound' h⟩

theorem lt_of_le_lenMax (h : n ≤ lenMax) : n < 256 ^ 127 :=
  lt_of_le_of_lt h (by decide)

theorem responseContent_inj {basic' : Bytes} (hlen : (responseContent basic).length ≤ lenMax)
    (h : responseContent basic = responseContent basic') : basic = basic' := by
  obtain ⟨hb1, hb2, hb3⟩ := responseContent_bounds hlen
  obtain ⟨hb1', hb2', hb3'⟩ := responseContent_bounds (h ▸ hlen)
  have hrb := tlv_inj (lt_of_le_lenMax hb1) (lt_of_le_lenMax hb1') (append_cancel_left h)
  have hseq := tlv_inj (lt_of_le_lenMax hb2) (lt_of_le_lenMax hb2') hrb
  exact tlv_inj (lt_of_le_lenMax hb3) (lt_of_le_lenMax hb3') (append_cancel_left hseq)

/-- If the response is one by the rules, it is that of the signed response in it. -/
theorem wrapResponse_inj {basic' : Bytes} (hlen : basic.length ≤ lenMax + 5)
    (h : responseTlv 0x30 (wrapContent basic) = tlv 0x30 (responseContent basic')) :
    (responseContent basic).length ≤ lenMax ∧ basic = basic' := by
  have hwrap := length_wrapContent basic
  have hsmall : (wrapContent basic).length < 2 ^ 32 := by
    have hmax : lenMax = 0xFFFFFF := rfl
    omega
  obtain ⟨hle, heq⟩ := responseTlv_inj hsmall h
  have hcontent := wrapContent_eq hle
  rw [hcontent] at hle heq
  exact ⟨hle, responseContent_inj hle heq⟩

theorem singlesDer_inj {cs cs' : List Bytes} (hlen : (singlesDer cs).length ≤ lenMax)
    (h : singlesDer cs = singlesDer cs') : cs = cs' := by
  have hbound : ∀ cs : List Bytes, (singlesDer cs).length ≤ lenMax →
      ∀ e ∈ cs.map fun c => ((0x30 : UInt8), c), e.2.length < 256 ^ 127 := fun cs hcs e he =>
    lt_of_le_lenMax (le_trans (length_le_elements he) hcs)
  have hmap := elements_inj (hbound cs hlen) (hbound cs' (by rw [← h]; exact hlen)) h
  exact map_injective_iff.2 (fun _ _ heq => (Prod.mk.inj heq).2) hmap

end FreeHsm.Revocation
