import FreeHsm.Revocation.OcspCorrect

/-!
# OCSP answers and the database

Over the encoders, what `fhsm_ocsp_answer_ex` returns for a whole request: the verdict
on every certificate, compared with the database as a set of numbers, and the octets of
the response.
-/

namespace FreeHsm.Revocation

open List Der

open Der (tlv lengthOctets)
open StateExcept (Gives mapM_of_ok bind_ok bind_eq_ok ite_error_eq_ok)

/-! ## Serials -/

theorem value_stripZeros (bs : Bytes) : value (stripZeros bs) = value bs := by
  induction bs using stripZeros.induct with
  | case1 b rest ih =>
    rw [stripZeros, ih, value_cons 0]
    simp
  | case2 bs hne => rw [stripZeros.eq_2 _ hne]

theorem stripZeros_cons {bs : Bytes} (h : bs ≠ []) :
    ∃ b rest, stripZeros bs = b :: rest ∧ (b ≠ 0 ∨ rest = []) := by
  induction bs using stripZeros.induct with
  | case1 b rest ih =>
    rw [stripZeros]
    exact ih (cons_ne_nil _ _)
  | case2 bs hne =>
    rw [stripZeros.eq_2 _ hne]
    cases bs with
    | nil => exact absurd rfl h
    | cons b rest =>
      refine ⟨b, rest, rfl, ?_⟩
      by_cases hb : b = 0
      · cases rest with
        | nil => exact .inr rfl
        | cons b' rest' => exact absurd (hb ▸ rfl) (hne b' rest')
      · exact .inl hb

/-- A number without leading zeros is not less than one of fewer octets. -/
theorem length_le_of_value {b c : UInt8} {as cs : Bytes} (hb : b ≠ 0 ∨ as = [])
    (h : value (b :: as) = value (c :: cs)) : as.length ≤ cs.length := by
  rcases hb with hb | rfl
  · have hlow : 256 ^ as.length ≤ value (b :: as) := by
      have hpos : 0 < b.toNat := pos_of_ne_zero fun h0 => hb (UInt8.toNat_inj.1 h0)
      rw [value_cons]
      nlinarith [pow_pos (n := as.length) (show 0 < 256 by decide)]
    have hhigh := value_lt (c :: cs)
    rw [← h, length_cons] at hhigh
    have := (Nat.pow_lt_pow_iff_right (by decide)).1 (Nat.lt_of_le_of_lt hlow hhigh)
    omega
  · exact Nat.zero_le _

theorem serialEq_iff {a b : Bytes} (ha : a ≠ []) (hb : b ≠ []) :
    serialEq a b = true ↔ value a = value b := by
  rw [serialEq, beq_iff_eq]
  constructor
  · intro h
    rw [← value_stripZeros a, h, value_stripZeros]
  · intro h
    rw [← value_stripZeros a, ← value_stripZeros b] at h
    obtain ⟨x, as, has, hx⟩ := stripZeros_cons ha
    obtain ⟨y, bs, hbs, hy⟩ := stripZeros_cons hb
    rw [has, hbs] at h ⊢
    have hle := length_le_of_value hx h
    have hge := length_le_of_value hy h.symm
    exact value_inj (by simp only [length_cons]; omega) h

/-! ## Verdicts -/

/-- The number an `ASN1_INTEGER` stands for. -/
def Integer.toInt (i : Integer) : Int :=
  if i.negative then -(Der.value i.magnitude : Int) else Der.value i.magnitude

namespace Responder

variable (R : Responder) (ca : X509)

/-- What an entry says. -/
def entryVerdict (e : Option Entry) : Verdict :=
  match e with
  | none => .good
  | some e => .revoked ((R.lib.genTime e.date.time).getD []) (e.reason.map Reason.code)

/-- What the database says about a certificate. -/
def verdict (id : CertId) : Verdict :=
  if id.isOurs R.lib ca then
    R.entryVerdict (R.db.entries.find? fun e => (Der.value e.serial.1 : Int) == id.serial.toInt)
  else .unknown

/-- What the source finds in it. -/
def found (id : CertId) : Verdict :=
  if id.isOurs R.lib ca then R.entryVerdict (R.db.find id.serial.magnitude) else .unknown

variable {R ca} {id : CertId}

theorem find_eq (hmag : id.serial.magnitude ≠ []) :
    R.db.find id.serial.magnitude =
      R.db.entries.find? fun e => (value e.serial.1 : Int) == value id.serial.magnitude := by
  unfold Db.find
  congr 1
  funext e
  rw [Bool.eq_iff_iff, serialEq_iff hmag (ne_nil_of_length_pos e.serial.2.1), beq_iff_eq, Int.natCast_inj,
    eq_comm]

theorem verdict_of_neg (hours : id.isOurs R.lib ca = true) (hneg : id.serial.toInt < 0) :
    R.verdict ca id = .good := by
  have hnone : (R.db.entries.find? fun e => (value e.serial.1 : Int) == id.serial.toInt) = none := by
    rw [find?_eq_none]
    intro e _
    rw [beq_iff_eq]
    omega
  rw [verdict, if_pos hours, hnone]
  rfl

/-- The two differ only on negative serials whose magnitude is recorded. -/
theorem found_eq_verdict_iff (hmag : id.serial.magnitude ≠ []) :
    R.found ca id = R.verdict ca id ↔
      (id.isOurs R.lib ca = true → id.serial.toInt < 0 → R.db.find id.serial.magnitude = none) := by
  by_cases hours : id.isOurs R.lib ca = true
  · by_cases hneg : id.serial.toInt < 0
    · rw [verdict_of_neg hours hneg, found, if_pos hours]
      cases hfind : R.db.find id.serial.magnitude with
      | none => simp [entryVerdict]
      | some e => simp [hours, hneg, entryVerdict]
    · have hint : id.serial.toInt = value id.serial.magnitude := by
        unfold Integer.toInt at hneg ⊢
        split at hneg
        · rename_i hn
          rw [if_pos hn]
          omega
        · rename_i hn
          rw [if_neg hn]
      rw [found, verdict, if_pos hours, if_pos hours, find_eq hmag, hint]
      exact ⟨fun _ _ hlt => by omega, fun _ => rfl⟩
  · rw [found, verdict, if_neg hours, if_neg hours]
    simp [hours]

/-! ## The whole answer -/

variable (R ca)

/-- The call is given certificates that decode, a positive validity, and a request that asks for
something; OpenSSL encodes times and identifiers as the rules say. -/
structure Ready (R : Responder) (reqDer : Bytes) (ca rc : X509) (req : Request) (dNow dNxt : Bytes) :
    Prop where
  days : 0 < R.days
  ca : R.lib.d2iX509 R.caDer = some ca
  responder : R.lib.d2iX509 R.responderDer = some rc
  responder_ne : R.responderDer ≠ []
  subject : rc.subject ≠ []
  algid : R.signer.algid ≠ []
  request : R.lib.d2iRequest reqDer = some req
  asked : req.ids ≠ []
  ids : ∀ id ∈ req.ids, startsWith 0x30 id.der = true ∧ id.serial.magnitude ≠ []
  nonce : ∀ one ∈ req.nonce, one ≠ []
  now : R.lib.genTime R.now = some dNow
  next : R.lib.genTime (R.now + R.days * 86400) = some dNxt
  times : ∀ t b, R.lib.genTime t = some b → IsTime b
  dates : ∀ e ∈ R.db.entries, (R.lib.genTime e.date.time).isSome = true

variable {R ca} {reqDer : Bytes} {rc : X509} {req : Request} {dNow dNxt : Bytes}

theorem entryVerdict_encodable (hR : R.Ready reqDer ca rc req dNow dNxt) {e : Option Entry}
    (he : ∀ x ∈ e, x ∈ R.db.entries) : (R.entryVerdict e).Encodable := by
  cases e with
  | none => trivial
  | some e =>
    obtain ⟨t, ht⟩ := Option.isSome_iff_exists.1 (hR.dates e (he e rfl))
    refine ⟨?_, fun r hr => ?_⟩
    · rw [ht]
      exact hR.times _ _ ht
    · obtain ⟨reason, -, rfl⟩ := Option.map_eq_some_iff.1 hr
      cases reason <;> decide

theorem found_encodable (hR : R.Ready reqDer ca rc req dNow dNxt) : (R.found ca id).Encodable := by
  unfold found
  split
  · exact entryVerdict_encodable hR fun e he => mem_of_find?_eq_some he
  · trivial

theorem single_eq (hR : R.Ready reqDer ca rc req dNow dNxt) (hid : id ∈ req.ids) :
    R.single ca dNow dNxt id = .ok ((R.found ca id).single id.der dNow dNxt) := by
  have hder : id.der ≠ [] := by
    intro hnil
    have := (hR.ids id hid).1
    rw [hnil] at this
    cases this
  unfold Responder.single found
  rw [if_neg hder]
  by_cases hours : id.isOurs R.lib ca = true
  · rw [if_pos hours, hours]
    cases hfind : R.db.find id.serial.magnitude with
    | none => rfl
    | some e =>
      obtain ⟨t, ht⟩ := Option.isSome_iff_exists.1 (hR.dates e (mem_of_find?_eq_some hfind))
      simp only [Bool.not_true, Bool.false_eq_true, if_false, entryVerdict, ht]
      rfl
  · rw [if_neg hours]
    simp only [hours, Bool.not_false, if_true]
    rfl

/-- The verdict a single response carries. -/
def ofSingle (s : Single) : Verdict :=
  match s.status with
  | .good => .good
  | .unknown => .unknown
  | .revoked => .revoked (s.revokedAt.getD []) s.reason

/-- Its content. -/
def contentOf (s : Single) : Bytes := singleContent s.certId (ofSingle s) s.thisUpd (s.nextUpd.getD [])

theorem contentOf_single (v : Verdict) (certId thisUpd nextUpd : Bytes) :
    contentOf (v.single certId thisUpd nextUpd) = singleContent certId v thisUpd nextUpd := by
  cases v <;> rfl

/-- The single responses the source builds. -/
def singles (R : Responder) (ca : X509) (req : Request) (dNow dNxt : Bytes) : List Single :=
  req.ids.map fun id => (R.found ca id).single id.der dNow dNxt

/-- The content of the message it has signed. -/
def foundTbs (R : Responder) (ca rc : X509) (req : Request) (dNow dNxt : Bytes) : Bytes :=
  tbsContent rc.subject dNow (req.ids.map fun id => singleContent id.der (R.found ca id) dNow dNxt)
    (req.nonce.map echoedExts)

/-- The room for the signed response. -/
def room (R : Responder) (req : Request) (exts : Option Bytes) : Nat :=
  16384 + R.caDer.length + R.responderDer.length + req.ids.length * 512 +
    (exts.map List.length).getD 0

/-- The content of the signed response it builds, with a signature. -/
def foundBasic (R : Responder) (ca rc : X509) (req : Request) (dNow dNxt sig : Bytes) : Bytes :=
  basicContent (R.foundTbs ca rc req dNow dNxt) R.signer.algid sig R.responderDer

/-- The signer gives `sig`, and the signed response fits. -/
structure Signs (R : Responder) (ca rc : X509) (req : Request) (dNow dNxt : Bytes) (outLen : Nat)
    (sig : { sig : Bytes // sig.length ≤ pkiSigMax }) : Prop where
  sign : R.signer.sign (tlv 0x30 (R.foundTbs ca rc req dNow dNxt)) = .ok sig
  len : (R.foundBasic ca rc req dNow dNxt sig.1).length ≤ lenMax
  room : (tlv 0x30 (R.foundBasic ca rc req dNow dNxt sig.1)).length ≤ outLen

theorem foundTbs_eq : tbsContent rc.subject dNow ((R.singles ca req dNow dNxt).map contentOf)
    (req.nonce.map echoedExts) = R.foundTbs ca rc req dNow dNxt := by
  rw [foundTbs, singles, map_map]
  congr 2
  funext id
  exact contentOf_single _ _ _ _

theorem echoedExts_starts : ∀ e ∈ req.nonce.map echoedExts, startsWith 0x30 e = true := by
  intro e he
  obtain ⟨one, -, rfl⟩ := Option.map_eq_some_iff.1 he
  rfl

section

variable (hR : R.Ready reqDer ca rc req dNow dNxt)
include hR

theorem ocspSingle_singles :
    ∀ s ∈ R.singles ca req dNow dNxt, ∀ n, ocspSingle s n = putSequence (contentOf s) n := by
  intro s hs n
  obtain ⟨id, hid, rfl⟩ := mem_map.1 hs
  rw [contentOf_single]
  exact ocspSingle_eq (found_encodable hR) (hR.ids id hid).1 (hR.times _ _ hR.now) (hR.times _ _ hR.next) n

theorem pkiOcsp_eq (outLen : Nat) :
    pkiOcsp R.mem R.lib R.signer R.responderDer dNow (R.singles ca req dNow dNxt)
        (req.nonce.map echoedExts) outLen =
      (do
        let tbs ← responseData R.mem rc dNow (R.singles ca req dNow dNxt) (req.nonce.map echoedExts)
        allocated R.mem .signature
        let sig ← R.signer.sign tbs
        basicResponse R.signer.algid R.responderDer tbs sig.1 outLen) := by
  have hnow : dNow ≠ [] := by
    intro hnil
    have := (hR.times _ _ hR.now).1
    rw [hnil] at this
    cases this
  have hsingles : R.singles ca req dNow dNxt ≠ [] := by
    rw [singles, Ne, map_eq_nil_iff]
    exact hR.asked
  have hargs : ¬(R.signer.algid = [] ∨ R.responderDer = [] ∨ dNow = [] ∨
      R.singles ca req dNow dNxt = []) := by
    simp [hR.algid, hR.responder_ne, hnow, hsingles]
  unfold pkiOcsp
  rw [if_neg hargs, hR.responder]
  dsimp only
  rw [if_neg hR.subject]

theorem responseData_found :
    Gives (Lacks R.mem ∨ lenMax < (R.foundTbs ca rc req dNow dNxt).length)
      (responseData R.mem rc dNow (R.singles ca req dNow dNxt) (req.nonce.map echoedExts))
      (tlv 0x30 (R.foundTbs ca rc req dNow dNxt)) := by
  rw [← foundTbs_eq]
  exact responseData_gives (hR.times _ _ hR.now) (ocspSingle_singles hR) echoedExts_starts

theorem pkiOcsp_ok {outLen : Nat} {b : Bytes}
    (h : pkiOcsp R.mem R.lib R.signer R.responderDer dNow (R.singles ca req dNow dNxt)
      (req.nonce.map echoedExts) outLen = .ok b) :
    ∃ sig, R.Signs ca rc req dNow dNxt outLen sig ∧
      b = tlv 0x30 (R.foundBasic ca rc req dNow dNxt sig.1) := by
  simp only [pkiOcsp_eq hR, bind_eq_ok] at h
  obtain ⟨tbs, htbs, -, -, sig, hsig, h⟩ := h
  obtain rfl := (responseData_found hR).eq_of_ok htbs
  rw [basicResponse_eq, encoded_putSequence] at h
  split at h
  · rename_i hlen
    split at h
    · cases h
    rename_i hroom
    cases h
    exact ⟨sig, ⟨hsig, hlen, not_lt.1 hroom⟩, rfl⟩
  · cases h

theorem pkiOcsp_gives {outLen : Nat} {sig} (h : R.Signs ca rc req dNow dNxt outLen sig) :
    Gives (Lacks R.mem) (pkiOcsp R.mem R.lib R.signer R.responderDer dNow
      (R.singles ca req dNow dNxt) (req.nonce.map echoedExts) outLen)
      (tlv 0x30 (R.foundBasic ca rc req dNow dNxt sig.1)) := by
  obtain ⟨hsig, hlen, hroom⟩ := h
  have htbs : (R.foundTbs ca rc req dNow dNxt).length ≤ lenMax := by
    have := length_content_lt 0x30 (R.foundTbs ca rc req dNow dNxt)
    rw [foundBasic, basicContent] at hlen
    simp only [length_append] at hlen
    omega
  rw [pkiOcsp_eq hR]
  apply ((responseData_found hR).mono fun h => h.resolve_right (not_lt.2 htbs)).bind
  apply (allocated_gives .signature).bind
  apply Gives.bind (.inl hsig)
  rw [basicResponse_eq, ← foundBasic, encoded_putSequence, if_pos hlen, if_neg (not_lt.2 hroom)]
  exact .inl rfl

/-- The call, once the request is decoded and the single responses are built. -/
theorem answer_eq :
    R.answer reqDer =
      if R.mem .arrays = false then .error .memory
      else if req.nonce.isSome = true ∧ R.mem .exts = false then .error .memory
      else if R.mem .basic = false then .error .memory
      else
        match pkiOcsp R.mem R.lib R.signer R.responderDer dNow (R.singles ca req dNow dNxt)
          (req.nonce.map echoedExts) (R.room req (req.nonce.map echoedExts)) with
        | .error e => .error (.build e)
        | .ok basic =>
          if R.mem .resp = false then .error .memory
          else .ok (responseTlv 0x30 (wrapContent basic),
            { asked := req.ids.length
              ours := req.ids.countP (·.isOurs R.lib ca)
              revoked := (R.singles ca req dNow dNxt).countP (·.status == .revoked)
              unknown := (R.singles ca req dNow dNxt).countP (·.status == .unknown)
              nonceEchoed := (req.nonce.map echoedExts).isSome }) := by
  have hsingles : req.ids.mapM (R.single ca dNow dNxt) = .ok (R.singles ca req dNow dNxt) :=
    mapM_of_ok fun id hid => single_eq hR hid
  have hnonce : req.nonce.filter (· ≠ []) = req.nonce := by
    cases hn : req.nonce with
    | none => rfl
    | some one => simp [hR.nonce one hn]
  unfold answer
  rw [if_neg (Int.not_le.2 hR.days), hR.ca, hR.request]
  dsimp only
  rw [if_neg hR.asked, hR.now, hR.next]
  dsimp only
  rw [hsingles]
  -- both sides now make the same calls
  simp only [bind, Except.bind, pure, Except.pure, throw, throwThe, MonadExceptOf.throw, hnonce,
    wrapResponse_eq, Bool.not_eq_true', Bool.and_eq_true]
  rfl

theorem answer_ok {resp : Bytes} {stats : Stats} (h : R.answer reqDer = .ok (resp, stats)) :
    ∃ sig, R.Signs ca rc req dNow dNxt (R.room req (req.nonce.map echoedExts)) sig ∧
      resp = responseTlv 0x30 (wrapContent (tlv 0x30 (R.foundBasic ca rc req dNow dNxt sig.1))) := by
  simp only [answer_eq hR, ite_error_eq_ok] at h
  obtain ⟨-, -, -, h⟩ := h
  split at h
  · cases h
  rename_i basic hbasic
  simp only [ite_error_eq_ok] at h
  cases h.2
  obtain ⟨sig, hsigns, rfl⟩ := pkiOcsp_ok hR hbasic
  exact ⟨sig, hsigns, rfl⟩

theorem answer_gives {sig}
    (h : R.Signs ca rc req dNow dNxt (R.room req (req.nonce.map echoedExts)) sig) :
    (∃ stats, R.answer reqDer =
        .ok (responseTlv 0x30 (wrapContent (tlv 0x30 (R.foundBasic ca rc req dNow dNxt sig.1))), stats)) ∨
      Lacks R.mem ∧ ∃ e, R.answer reqDer = .error e := by
  rw [answer_eq hR]
  split
  · rename_i hmem
    exact .inr ⟨⟨_, hmem⟩, _, rfl⟩
  split
  · rename_i hmem
    exact .inr ⟨⟨_, hmem.2⟩, _, rfl⟩
  split
  · rename_i hmem
    exact .inr ⟨⟨_, hmem⟩, _, rfl⟩
  rcases pkiOcsp_gives hR h with hok | ⟨hlacks, e, herror⟩
  · rw [hok]
    dsimp only
    split
    · rename_i hmem
      exact .inr ⟨⟨_, hmem⟩, _, rfl⟩
    · exact .inl ⟨_, rfl⟩
  · rw [herror]
    exact .inr ⟨hlacks, _, rfl⟩

end

/-! ## The response the standard asks for -/

/-- The content of the message to be signed. -/
def tbs (R : Responder) (ca rc : X509) (req : Request) (dNow dNxt : Bytes) : Bytes :=
  tbsContent rc.subject dNow (req.ids.map fun id => singleContent id.der (R.verdict ca id) dNow dNxt)
    (req.nonce.map (tlv 0x30))

/-- The signed response. -/
def basic (R : Responder) (ca rc : X509) (req : Request) (dNow dNxt sig : Bytes) : Bytes :=
  tlv 0x30 (basicContent (R.tbs ca rc req dNow dNxt) R.signer.algid sig R.responderDer)

/-- The call returns the response with a verdict on each question in order, or fails for lack of
memory or because the signature fails. -/
def Correct (R : Responder) (reqDer : Bytes) (ca rc : X509) (req : Request) (dNow dNxt : Bytes) : Prop :=
  (∃ sig stats, R.signer.sign (tlv 0x30 (R.tbs ca rc req dNow dNxt)) = .ok sig ∧
    R.answer reqDer = .ok (tlv 0x30 (responseContent (R.basic ca rc req dNow dNxt sig.1)), stats)) ∨
  ((∃ e, R.answer reqDer = .error e) ∧
    (Lacks R.mem ∨ ∃ e, R.signer.sign (tlv 0x30 (R.tbs ca rc req dNow dNxt)) = .error e))

/-- The request and the response are within the bounds of the source, and no certificate is asked
for by the negative of a recorded serial. -/
structure Fits (R : Responder) (ca rc : X509) (req : Request) (dNow dNxt : Bytes) : Prop where
  serials : ∀ id ∈ req.ids, id.isOurs R.lib ca = true → id.serial.toInt < 0 →
    R.db.find id.serial.magnitude = none
  nonce : ∀ one ∈ req.nonce, one.length ≤ 0xFFFF
  room : ∀ sig, R.signer.sign (tlv 0x30 (R.tbs ca rc req dNow dNxt)) = .ok sig →
    (R.basic ca rc req dNow dNxt sig.1).length ≤ R.room req (req.nonce.map (tlv 0x30))
  total : ∀ sig, R.signer.sign (tlv 0x30 (R.tbs ca rc req dNow dNxt)) = .ok sig →
    (responseContent (R.basic ca rc req dNow dNxt sig.1)).length ≤ lenMax

/-- The nonce is echoed by the rules while its length takes two octets. -/
theorem echoedExts_eq_iff {one : Bytes} (hlen : one.length < 256 ^ 127) :
    echoedExts one = tlv 0x30 one ↔ one.length ≤ 0xFFFF := by
  unfold echoedExts tlv
  dsimp only
  by_cases h1 : one.length < 0x80
  · rw [if_pos h1, lengthOctets_of_lt h1]
    simp only [true_iff]
    omega
  by_cases h2 : one.length ≤ 0xFF
  · rw [if_neg h1, if_pos h2, lengthOctets_one (by omega) h2]
    simp only [true_iff]
    omega
  rw [if_neg h1, if_neg h2]
  constructor
  · intro h
    by_contra hbig
    have hlow : 256 ^ 2 ≤ one.length := not_le.1 hbig
    obtain ⟨b, rest, hhead, hb⟩ := lengthOctets_head (by decide) hlow hlen
    rw [hhead] at h
    simp only [cons_append, cons.injEq] at h
    rw [← h.2.1] at hb
    exact absurd hb (by decide)
  · intro h3
    rw [lengthOctets_two (by omega) h3]

theorem echoedExts_map (h : ∀ one ∈ req.nonce, one.length ≤ 0xFFFF) :
    req.nonce.map echoedExts = req.nonce.map (tlv 0x30) := by
  apply Option.map_congr
  intro one hone
  exact (echoedExts_eq_iff (lt_of_le_of_lt (h one hone) (by decide))).2 (h one hone)

/-- What the source signs is the message if the verdicts and the nonce are right. -/
theorem foundTbs_eq_tbs (hR : R.Ready reqDer ca rc req dNow dNxt) (hfit : R.Fits ca rc req dNow dNxt) :
    R.foundTbs ca rc req dNow dNxt = R.tbs ca rc req dNow dNxt := by
  rw [foundTbs, tbs, echoedExts_map hfit.nonce]
  congr 1
  apply map_congr_left
  intro id hid
  rw [(found_eq_verdict_iff (hR.ids id hid).2).2 (hfit.serials id hid)]

theorem fits_of_foundTbs (hlen : (R.foundTbs ca rc req dNow dNxt).length ≤ lenMax)
    (h : R.foundTbs ca rc req dNow dNxt = R.tbs ca rc req dNow dNxt) :
    (∀ id ∈ req.ids, id.isOurs R.lib ca = true → id.serial.toInt < 0 →
      R.db.find id.serial.magnitude = none) ∧ ∀ one ∈ req.nonce, one.length ≤ 0xFFFF := by
  have hlen' : (R.tbs ca rc req dNow dNxt).length ≤ lenMax := by
    rw [← h]
    exact hlen
  obtain ⟨-, hS, hE⟩ := length_tbsContent rc.subject dNow
    (req.ids.map fun id => singleContent id.der (R.found ca id) dNow dNxt) (req.nonce.map echoedExts)
  obtain ⟨-, hS', hE'⟩ := length_tbsContent rc.subject dNow
    (req.ids.map fun id => singleContent id.der (R.verdict ca id) dNow dNxt) (req.nonce.map (tlv 0x30))
  change ∀ e ∈ _, _ ≤ (R.foundTbs ca rc req dNow dNxt).length at hE
  change _ ≤ (R.foundTbs ca rc req dNow dNxt).length at hS
  change ∀ e ∈ _, _ ≤ (R.tbs ca rc req dNow dNxt).length at hE'
  change _ ≤ (R.tbs ca rc req dNow dNxt).length at hS'
  rw [foundTbs, tbs, tbsContent, tbsContent, append_assoc, append_assoc, append_assoc,
    append_assoc] at h
  obtain ⟨-, hsingles, hexts⟩ := tlv_append_inj (lt_of_le_lenMax (le_trans hS hlen))
    (lt_of_le_lenMax (le_trans hS' hlen')) (append_cancel_left (append_cancel_left h))
  constructor
  · intro id hid hours hneg
    have hcontents := map_inj_left.1 (singlesDer_inj (le_trans hS hlen) hsingles) id hid
    simp only [singleContent] at hcontents
    have hder := append_cancel_left (append_cancel_right (append_cancel_right hcontents))
    -- the first octets of the two verdicts
    cases hfind : R.db.find id.serial.magnitude with
    | none => rfl
    | some e =>
      rw [verdict_of_neg hours hneg, found, if_pos hours, hfind] at hder
      cases hder
  · intro one hone
    rw [Option.mem_def.1 hone] at hexts hE hE'
    have hecho := tlv_inj (lt_of_le_lenMax (le_trans (hE _ rfl) hlen))
      (lt_of_le_lenMax (le_trans (hE' _ rfl) hlen')) hexts
    have hone' : one.length < 256 ^ 127 :=
      lt_trans (length_content_lt 0x30 one)
        (lt_of_le_lenMax (le_trans (hE' _ rfl) hlen'))
    exact (echoedExts_eq_iff hone').1 hecho

theorem foundTbs_of_basic {sig sig' : Bytes} (hle : (R.foundBasic ca rc req dNow dNxt sig').length ≤ lenMax)
    (h : tlv 0x30 (R.foundBasic ca rc req dNow dNxt sig') = R.basic ca rc req dNow dNxt sig) :
    (R.foundTbs ca rc req dNow dNxt).length ≤ lenMax ∧
      R.foundTbs ca rc req dNow dNxt = R.tbs ca rc req dNow dNxt := by
  have hlen := length_tlv_le 0x30 hle
  have hlen' := length_content_lt 0x30
    (basicContent (R.tbs ca rc req dNow dNxt) R.signer.algid sig R.responderDer)
  rw [basic] at h
  rw [← h] at hlen'
  have hmax : lenMax + 5 < 256 ^ 127 := by decide
  have hcontent := tlv_inj (lt_of_le_lenMax hle) (by omega) h
  have hfirst : ∀ t s, (tlv 0x30 t).length ≤ (basicContent t R.signer.algid s R.responderDer).length := by
    intro t s
    simp only [basicContent, length_append]
    omega
  have htbs := length_content_lt 0x30 (R.foundTbs ca rc req dNow dNxt)
  have htbs' := length_content_lt 0x30 (R.tbs ca rc req dNow dNxt)
  have hle' := hfirst (R.foundTbs ca rc req dNow dNxt) sig'
  have hle'' := hfirst (R.tbs ca rc req dNow dNxt) sig
  rw [foundBasic] at hcontent hle
  rw [← hcontent] at hle''
  refine ⟨by omega, ?_⟩
  simp only [basicContent, append_assoc] at hcontent
  exact (tlv_append_inj (lt_of_le_lenMax (by omega)) (lt_of_le_lenMax (by omega)) hcontent).2.1

/-- The answer is right when everything fits, and with memory and a signature only then. -/
theorem answer_correct_iff (R : Responder) (reqDer : Bytes) (ca rc : X509) (req : Request)
    (dNow dNxt : Bytes) (hR : R.Ready reqDer ca rc req dNow dNxt) :
    (R.Fits ca rc req dNow dNxt → R.Correct reqDer ca rc req dNow dNxt) ∧
      (¬Lacks R.mem → (∀ m, ∃ sig, R.signer.sign m = .ok sig) →
        R.Correct reqDer ca rc req dNow dNxt → R.Fits ca rc req dNow dNxt) := by
  constructor
  · intro hfit
    have htbs := foundTbs_eq_tbs hR hfit
    have hexts := echoedExts_map hfit.nonce
    cases hsign : R.signer.sign (tlv 0x30 (R.tbs ca rc req dNow dNxt)) with
    | error e =>
      refine .inr ⟨?_, .inr ⟨e, hsign⟩⟩
      cases hans : R.answer reqDer with
      | error e' => exact ⟨e', rfl⟩
      | ok r =>
        -- an answer would be signed
        obtain ⟨sig, hsigns, -⟩ := answer_ok hR hans
        have hsig := hsigns.sign
        rw [htbs, hsign] at hsig
        cases hsig
    | ok sig =>
      have hbasic : tlv 0x30 (R.foundBasic ca rc req dNow dNxt sig.1) = R.basic ca rc req dNow dNxt sig.1 := by
        rw [foundBasic, htbs, basic]
      have htotal := hfit.total sig hsign
      have hle : (R.foundBasic ca rc req dNow dNxt sig.1).length ≤ lenMax := by
        have h1 := length_content_lt 0x30 (R.foundBasic ca rc req dNow dNxt sig.1)
        have h2 := length_wrapContent (R.basic ca rc req dNow dNxt sig.1)
        rw [responseContent_wrapContent htotal] at h2
        rw [hbasic] at h1
        omega
      have hgives := answer_gives hR ⟨by rw [htbs]; exact hsign, hle,
        by rw [hexts, hbasic]; exact hfit.room sig hsign⟩
      rw [hbasic, responseContent_wrapContent htotal, responseTlv_eq 0x30 htotal] at hgives
      rcases hgives with ⟨stats, hok⟩ | ⟨hlacks, herror⟩
      · exact .inl ⟨sig, stats, hsign, hok⟩
      · exact .inr ⟨herror, .inl hlacks⟩
  · rintro hmem hsigns (⟨sig, stats, hsign, hok⟩ | ⟨-, hlacks | ⟨e, herror⟩⟩)
    · obtain ⟨sig', ⟨-, hle, hroom⟩, hresp⟩ := answer_ok hR hok
      have htlv := length_tlv_le 0x30 hle
      obtain ⟨htotal, hbasic⟩ := wrapResponse_inj (by omega) hresp.symm
      obtain ⟨htbsLen, htbs⟩ := foundTbs_of_basic hle hbasic
      obtain ⟨hserials, hnonce⟩ := fits_of_foundTbs htbsLen htbs
      have hexts : req.nonce.map echoedExts = req.nonce.map (tlv 0x30) := echoedExts_map hnonce
      rw [hbasic] at hroom htotal
      rw [hexts] at hroom
      refine ⟨hserials, hnonce, fun sig'' hsig'' => ?_, fun sig'' hsig'' => ?_⟩
      · cases hsign.symm.trans hsig''
        exact hroom
      · cases hsign.symm.trans hsig''
        exact htotal
    · exact absurd hlacks hmem
    · obtain ⟨sig, hsig⟩ := hsigns (tlv 0x30 (R.tbs ca rc req dNow dNxt))
      rw [herror] at hsig
      cases hsig

/-! ## Two requests -/

/-- An OpenSSL that decodes one certificate and one request, and hashes nothing. -/
def sampleLib (id : CertId) : OcspLib where
  d2iX509 b := if b = [1] then some ⟨[0x30, 0x00], [5]⟩ else none
  d2iRequest b := if b = [2] then some ⟨[id], none⟩ else none
  hash _ b := some b
  genTime _ := some (tlv 0x18 (List.replicate 15 0x30))

/-- An authority that has revoked the serial 7. -/
def sample (id : CertId) : Responder where
  lib := sampleLib id
  mem _ := true
  now := 0
  caDer := [1]
  responderDer := [1]
  db := { entries := [⟨⟨[7], by decide⟩, ⟨text "20250101000000Z", by decide +kernel⟩, none⟩] }
  days := 1
  signer := ⟨[0x30, 0x00], fun _ => .ok ⟨[9], by decide⟩⟩

/-- A question about a serial of this authority. -/
def askedId (serial : Bytes) : CertId where
  hashAlg := []
  nameHash := [0x30, 0x00]
  keyHash := [5]
  serial := ⟨false, serial⟩
  der := tlv 0x30 (tlv 0x02 serial)

theorem ready_sample (serial : Bytes) (hne : serial ≠ []) :
    (sample (askedId serial)).Ready [2] ⟨[0x30, 0x00], [5]⟩ ⟨[0x30, 0x00], [5]⟩ ⟨[askedId serial], none⟩
      (tlv 0x18 (replicate 15 0x30)) (tlv 0x18 (replicate 15 0x30)) where
  days := Int.one_pos
  ca := rfl
  responder := rfl
  responder_ne := cons_ne_nil _ _
  subject := cons_ne_nil _ _
  algid := cons_ne_nil _ _
  request := rfl
  asked := by simp
  ids := by
    intro id hid
    cases mem_singleton.1 hid
    exact ⟨rfl, hne⟩
  nonce := by simp
  now := rfl
  next := rfl
  times := by
    intro t b h
    cases h
    exact ⟨rfl, by decide⟩
  dates := by
    intro e _
    rfl

theorem answer_correct_iff_revoked :
    (sample (askedId [7])).Correct [2] ⟨[0x30, 0x00], [5]⟩ ⟨[0x30, 0x00], [5]⟩ ⟨[askedId [7]], none⟩
      (tlv 0x18 (replicate 15 0x30)) (tlv 0x18 (replicate 15 0x30)) := by
  refine (answer_correct_iff _ _ _ _ _ _ _ (ready_sample [7] (by decide))).1 ⟨?_, by simp, ?_, ?_⟩
  · intro id hid _ hneg
    cases mem_singleton.1 hid
    exact absurd hneg (by decide)
  · intro sig hsig
    cases hsig
    decide +kernel
  · intro sig hsig
    cases hsig
    decide +kernel

theorem length_le_foundBasic {id : CertId} (hid : id ∈ req.ids) (sig : Bytes) :
    id.der.length ≤ (R.foundBasic ca rc req dNow dNxt sig).length := by
  have hsingle := length_le_singlesDer (mem_map_of_mem
    (f := fun id => singleContent id.der (R.found ca id) dNow dNxt) hid)
  obtain ⟨-, htbs, -⟩ := length_tbsContent rc.subject dNow
    (req.ids.map fun id => singleContent id.der (R.found ca id) dNow dNxt) (req.nonce.map echoedExts)
  have htlv := length_content_lt 0x30 (R.foundTbs ca rc req dNow dNxt)
  change _ ≤ (R.foundTbs ca rc req dNow dNxt).length at htbs
  have hcontent : id.der.length ≤ (singleContent id.der (R.found ca id) dNow dNxt).length := by
    simp only [singleContent, length_append]
    omega
  simp only [foundBasic, basicContent, length_append]
  omega

theorem sample_unanswered {serial : Bytes} (hlen : 16898 ≤ serial.length) :
    ∃ e, (sample (askedId serial)).answer [2] = .error e := by
  cases hans : (sample (askedId serial)).answer [2] with
  | error e => exact ⟨e, rfl⟩
  | ok r =>
    obtain ⟨sig, ⟨-, -, hroom⟩, -⟩ :=
      answer_ok (ready_sample serial (ne_nil_of_length_pos (by omega))) hans
    have hid : askedId serial ∈ (⟨[askedId serial], none⟩ : Request).ids := mem_singleton_self _
    have hserial : serial.length ≤ (askedId serial).der.length := by
      have h1 := length_content_lt 0x02 serial
      have h2 := length_content_lt 0x30 (tlv 0x02 serial)
      exact le_of_lt (lt_trans h1 h2)
    have hsize : (sample (askedId serial)).room ⟨[askedId serial], none⟩ none = 16898 := by
      simp [room, sample, Option.map_none, Option.getD_none]
    have hlt : serial.length < (sample (askedId serial)).room ⟨[askedId serial], none⟩ none := by
      refine lt_of_lt_of_le ?_ hroom
      refine lt_of_le_of_lt ?_ (length_content_lt 0x30 _)
      exact le_trans hserial (length_le_foundBasic hid sig.1)
    omega

/-- A serial of twenty thousand octets is good, but gets no answer. -/
theorem long_serial_unanswered :
    (∃ e, (sample (askedId (replicate 20000 1))).answer [2] = .error e) ∧
      ¬(sample (askedId (replicate 20000 1))).Correct [2] ⟨[0x30, 0x00], [5]⟩ ⟨[0x30, 0x00], [5]⟩
        ⟨[askedId (replicate 20000 1)], none⟩ (tlv 0x18 (replicate 15 0x30))
        (tlv 0x18 (replicate 15 0x30)) := by
  have hlen : 16898 ≤ (replicate 20000 (1 : UInt8)).length := by
    rw [length_replicate]
    decide
  obtain ⟨e, herror⟩ := sample_unanswered hlen
  refine ⟨⟨e, herror⟩, ?_⟩
  rintro (⟨sig, stats, -, hok⟩ | ⟨-, ⟨site, hsite⟩ | ⟨e, herror⟩⟩)
  · rw [herror] at hok
    cases hok
  · cases hsite
  · cases herror

end Responder

end FreeHsm.Revocation
