import FreeHsm.ForStd.StateExcept
import FreeHsm.Pki.Cms

/-!
# What an accepted CMS signature says

A signature speaks for a content if five fields of the structure agree: the
certificate is the signer's, its key is of the kind the signature algorithm names, the
digest of the content is the one signed attribute for it, made with the algorithm the
structure names, the type of the content is the other, and the signature is over
exactly these attributes.
-/

namespace FreeHsm.Pki

open List Der

open Der (tlv elements lengthOctets)
open StateExcept (bind_ok bind_eq_ok)

/-! ## The reader -/

/-- An element as the reader returns it. -/
def Tlv.of (e : Element) : Tlv := ⟨e.1, tlv e.1 e.2, e.2⟩

theorem tlvAt_tlv (tag : UInt8) {c : Bytes} (h : c.length < 2 ^ 32) (rest : Bytes) :
    tlvAt (tlv tag c ++ rest) = some (.of (tag, c)) := by
  unfold tlv
  by_cases hshort : c.length < 128
  · have hnat : (UInt8.ofNat c.length).toNat = c.length := by
      rw [UInt8.toNat_ofNat', Nat.mod_eq_of_lt (by omega)]
    have hlt : UInt8.ofNat c.length < 0x80 := by
      rw [UInt8.lt_iff_toNat_lt, hnat]
      exact hshort
    rw [lengthOctets_of_lt hshort]
    simp only [cons_append, nil_append, tlvAt, hlt, hnat, if_true, length_append, take_left]
    rw [if_neg (by omega)]
    simp [Tlv.of, tlv, lengthOctets_of_lt hshort]
  · -- the long form, with at most four octets
    have hcount : octetCount c.length ≤ 4 := octetCount_le (by decide) (by omega)
    have hpos : 0 < octetCount c.length := Nat.succ_pos _
    have hnat : (UInt8.ofNat (128 + octetCount c.length)).toNat = 128 + octetCount c.length := by
      rw [UInt8.toNat_ofNat', Nat.mod_eq_of_lt (by omega)]
    have hge : ¬UInt8.ofNat (128 + octetCount c.length) < 0x80 := by
      rw [UInt8.lt_iff_toNat_lt, hnat]
      exact Nat.not_lt.2 (Nat.le_add_right _ _)
    have hk : 128 + octetCount c.length - 0x80 = octetCount c.length := by omega
    have hlen : lengthOctets c.length = UInt8.ofNat (128 + octetCount c.length) ::
        octets (octetCount c.length) c.length := if_neg hshort
    have hoct := length_octets (octetCount c.length) c.length
    have htake : (octets (octetCount c.length) c.length ++ c ++ rest).take
        (octetCount c.length) = octets (octetCount c.length) c.length := by
      rw [append_assoc, take_left' hoct]
    rw [hlen]
    simp only [cons_append, tlvAt, if_neg hge, hnat, hk, htake, value_octets (lt_pow_octetCount _)]
    rw [if_neg (by simp only [length_append]; omega), if_neg (by simp only [length_append]; omega)]
    have hall : (octets (octetCount c.length) c.length ++ c ++ rest).take
        (octetCount c.length + c.length) = octets (octetCount c.length) c.length ++ c :=
      take_left' (by rw [length_append, hoct])
    have hval : ((octets (octetCount c.length) c.length ++ c ++ rest).drop
        (octetCount c.length)).take c.length = c := by
      rw [append_assoc, drop_left' hoct, take_left]
    rw [hall, hval]
    simp [Tlv.of, tlv, hlen]

theorem tlvAt_tlv_end (tag : UInt8) {c : Bytes} (h : c.length < 2 ^ 32) :
    tlvAt (tlv tag c) = some (.of (tag, c)) := by
  simpa using tlvAt_tlv tag h []

section

variable {es : List Element}

section

variable (hes : ∀ e ∈ es, e.2.length < 2 ^ 32)

include hes

theorem tlvChild_elements (k : Nat) : tlvChild (elements es) k = es[k]?.map Tlv.of := by
  induction es generalizing k with
  | nil =>
    cases k <;> rfl
  | cons e es ih =>
    rw [elements_cons]
    have hat := tlvAt_tlv e.1 (hes e mem_cons_self) (elements es)
    cases k with
    | zero => exact hat
    | succ k =>
      rw [tlvChild, hat]
      show tlvChild ((tlv e.1 e.2 ++ elements es).drop (tlv e.1 e.2).length) k = _
      rw [drop_left, ih fun e' he' => hes e' (mem_cons_of_mem _ he')]
      rfl

theorem lastElement_elements {fuel : Nat} (hfuel : (elements es).length ≤ fuel) (last : Option Tlv)
    : lastElement fuel (elements es) last = (es.getLast?.map Tlv.of).or last := by
  induction es generalizing fuel last with
  | nil => cases fuel <;> rfl
  | cons e es ih =>
    rw [elements_cons] at hfuel ⊢
    have hat := tlvAt_tlv e.1 (hes e mem_cons_self) (elements es)
    have hlen : (tlv e.1 e.2 ++ elements es).length = (tlv e.1 e.2).length + (elements es).length :=
      length_append
    have hpos := length_tlv e.1 e.2
    cases fuel with
    | zero => omega
    | succ fuel =>
      have hstep : lastElement (fuel + 1) (tlv e.1 e.2 ++ elements es) last =
          lastElement fuel ((tlv e.1 e.2 ++ elements es).drop (tlv e.1 e.2).length)
            (some (.of e)) := by
        rw [show tlv e.1 e.2 ++ elements es = e.1 :: _ from rfl] at hat ⊢
        rw [lastElement, hat]
        · rfl
        · intro h
          cases h
      rw [hstep, drop_left, ih (fun e' he' => hes e' (mem_cons_of_mem _ he')) (by omega)]
      cases es with
      | nil => rfl
      | cons e' es => simp [getLast?_cons]

theorem firstContext_elements {fuel k : Nat} (hfuel : es.length < fuel + k) :
    firstContext (elements es) fuel k = ((es.drop k).find? fun e => e.1 == 0xA0).map Tlv.of := by
  induction fuel generalizing k with
  | zero =>
    rw [drop_eq_nil_of_le (by omega)]
    rfl
  | succ fuel ih =>
    rw [firstContext, tlvChild_elements hes]
    cases hk : es[k]? with
    | none =>
      rw [drop_eq_nil_of_le (getElem?_eq_none_iff.1 hk)]
      rfl
    | some e =>
      obtain ⟨hlt, rfl⟩ := List.getElem?_eq_some_iff.1 hk
      rw [drop_eq_getElem_cons hlt, find?_cons]
      show (if es[k].1 = 0xA0 then _ else _) = _
      by_cases htag : es[k].1 = 0xA0
      · simp [htag]
      · have hne : (es[k].1 == 0xA0) = false := beq_eq_false_iff_ne.2 htag
        rw [if_neg htag, ih (by omega), hne]

end

end

/-! ## Encoded structures -/

variable {sd : SignedData} {si : SignerInfo}

theorem cmsFindSignerinfo_der (hone : sd.signerInfos = [si])
    (hlen : (ContentInfo.signed sd).der.length < 2 ^ 32) :
    cmsFindSignerinfo (ContentInfo.signed sd).der = some (.of (0x30, elements si.elements)) ∧
      (elements si.elements).length < 2 ^ 32 := by
  have hset : setContent (sd.signerInfos.map SignerInfo.der) = si.der := by
    rw [hone]
    simp [setContent]
  have hlast : sd.elements.getLast? = some (0x31, si.der) := by
    rw [SignedData.elements, getLast?_append, hset]
    rfl
  -- every length below is bounded by that of the whole
  replace hlen : (tlv 0x30 (elements sd.outer)).length < 2 ^ 32 := hlen
  have houter := lt_trans (length_content_lt _ _) hlen
  have houterElems : ∀ e ∈ sd.outer, e.2.length < 2 ^ 32 := fun e he =>
    lt_of_le_of_lt (length_le_elements he) houter
  have hsd := lt_trans (length_content_lt _ _)
    (houterElems (0xA0, tlv 0x30 (elements sd.elements)) (by simp [SignedData.outer]))
  have hsdElems : ∀ e ∈ sd.elements, e.2.length < 2 ^ 32 := fun e he =>
    lt_of_le_of_lt (length_le_elements he) hsd
  have hsi := lt_trans (length_content_lt _ _)
    (hsdElems (0x31, si.der) (mem_of_getLast? hlast))
  have hci : tlvAt (ContentInfo.signed sd).der = some (.of (0x30, elements sd.outer)) :=
    tlvAt_tlv_end 0x30 houter
  have hc0 : tlvChild (elements sd.outer) 1 = some (.of (0xA0, tlv 0x30 (elements sd.elements))) :=
    tlvChild_elements houterElems 1
  have hsdAt : tlvAt (tlv 0x30 (elements sd.elements)) = some (.of (0x30, elements sd.elements)) :=
    tlvAt_tlv_end 0x30 hsd
  have hlastAt : lastElement (elements sd.elements).length (elements sd.elements) none =
      some (.of (0x31, si.der)) := by
    rw [lastElement_elements hsdElems (le_refl _), hlast]
    rfl
  have hchild : tlvChild si.der 0 = some (.of (0x30, elements si.elements)) := tlvAt_tlv_end 0x30 hsi
  exact ⟨by simp [cmsFindSignerinfo, hci, hc0, hsdAt, hlastAt, hchild, Tlv.of], hsi⟩

/-- The attributes are the only element with their tag in a `SignerInfo`. -/
theorem find_attrs (si : SignerInfo) :
    si.elements.find? (fun e => e.1 == 0xA0) =
      si.signedAttrs.map fun attrs => (0xA0, attrsContent attrs) := by
  have hsid : (si.sid.element.1 == 0xA0) = false := by
    cases si.sid <;> rfl
  have hunsigned : (si.unsignedAttrs.map fun c => ((0xA1 : UInt8), c)).toList.find?
      (fun e => e.1 == 0xA0) = none := by
    cases si.unsignedAttrs <;> rfl
  unfold SignerInfo.elements
  cases si.signedAttrs with
  | none => simp [hsid, hunsigned]
  | some attrs => simp [hsid]

/-- In an encoded structure with one signer the reader finds the signed attributes. -/
theorem signedAttrs_der (hone : sd.signerInfos = [si])
    (hlen : (ContentInfo.signed sd).der.length < 2 ^ 32) :
    signedAttrs (ContentInfo.signed sd).der =
      si.signedAttrs.map fun attrs => .of (0xA0, attrsContent attrs) := by
  obtain ⟨hfind, hlt⟩ := cmsFindSignerinfo_der hone hlen
  have hsi : ∀ e ∈ si.elements, e.2.length < 2 ^ 32 := fun e he =>
    lt_of_le_of_lt (length_le_elements he) hlt
  have hfuel := length_le_length_elements si.elements
  have hfirst : firstContext (elements si.elements) ((elements si.elements).length + 1) 0 =
      (si.signedAttrs.map fun attrs => (0xA0, attrsContent attrs)).map .of := by
    rw [firstContext_elements hsi (by omega), drop_zero, find_attrs]
  simp only [signedAttrs, hfind, Option.bind_eq_bind, Option.bind_some]
  rw [show (Tlv.of (0x30, elements si.elements)).val = elements si.elements from rfl, hfirst,
    Option.map_map]
  rfl

/-! ## The bindings -/

/-- All values of an attribute. -/
def valuesOf (oid : Bytes) (attrs : List Attr) : List Element :=
  (attrs.filter (·.oid == oid)).flatMap Attr.values

/-- The key of the certificate is of the kind the signature algorithm names. -/
def Ossl.KeyNamed (O : Ossl) (x : Cert) (si : SignerInfo) : Prop :=
  if si.sigAlg.oid = oidComposite then x.keyAlg.oid = oidComposite
  else ∃ dn row k, cmsDigestName si = some dn ∧ sigRow dn si.sigAlg = some row ∧
    O.pubkey x = some k ∧ O.isA k row.keytype = true

/-- The signature is one of the message under the key of the certificate. -/
def Ossl.Verifies (O : Ossl) (x : Cert) (si : SignerInfo) (msg : Bytes) : Prop :=
  if si.sigAlg.oid = oidComposite then
    ∃ pub, O.compositePubFromRaw x.keyBits = some pub ∧
      O.compositeVerify pub msg si.signature = .ok ()
  else ∃ dn row k, cmsDigestName si = some dn ∧ sigRow dn si.sigAlg = some row ∧
    O.pubkey x = some k ∧ O.verify k row msg si.signature = true

/-- The octets are one `SignedData` with one signer, one certificate and signed attributes. -/
structure Parsed (O : Ossl) (cms : Bytes) (sd : SignedData) (si : SignerInfo) (x : Cert)
    (attrs : List Attr) : Prop where
  decoded : O.d2i cms = some (.signed sd, cms.length)
  signer : sd.signerInfos = [si]
  carried : sd.certs = [x]
  signed : si.signedAttrs = some attrs

/-- The signature of a structure speaks for a content with digest `d`. -/
structure Bound (O : Ossl) (d : Bytes) (sd : SignedData) (si : SignerInfo) (x : Cert)
    (attrs : List Attr) : Prop where
  identified : ∃ issuer serial, si.sid = .issuerSerial issuer serial ∧
    issuer.canon = x.issuer.canon ∧ serial = x.serial
  keyNamed : O.KeyNamed x si
  digestAlg : ∃ dn, cmsDigestName si = some dn ∧ dn.size = d.length
  messageDigest : valuesOf oidMessageDigest attrs = [(0x04, d)]
  contentType : valuesOf oidContentType attrs = [(0x06, sd.contentType)]
  verifies : O.Verifies x si (tlv 0x31 (attrsContent attrs))

/-- The comparisons that the source leaves out: the last three on the composite branch only. -/
structure Compared (sd : SignedData) (si : SignerInfo) (x : Cert) (attrs : List Attr) : Prop where
  oneDigest : (valuesOf oidMessageDigest attrs).length = 1
  contentType : valuesOf oidContentType attrs = [(0x06, sd.contentType)]
  byIssuer : ∃ issuer serial, si.sid = .issuerSerial issuer serial
  identified : si.sigAlg.oid = oidComposite → certMatches si x = true
  keyAlg : si.sigAlg.oid = oidComposite → x.keyAlg.oid = oidComposite
  digestAlg : si.sigAlg.oid = oidComposite → cmsDigestName si = some .sha512

/-- OpenSSL encodes a structure by the rules, and returns an `int` as its length. -/
def Ossl.Reencodes (O : Ossl) : Prop :=
  ∀ ci b, O.i2d ci = some b → b = ci.der ∧ b.length < 2 ^ 31

/-! ## What is checked -/

section

variable {O : Ossl} {cms d : Bytes} {sd : SignedData} {si : SignerInfo}

theorem cmsOneSigner_some (h : cmsOneSigner O cms = some (sd, si)) :
    O.d2i cms = some (.signed sd, cms.length) ∧ sd.signerInfos = [si] := by
  unfold cmsOneSigner at h
  split at h
  · rename_i sd' n hd2i
    split at h
    · rename_i si' hone
      split at h
      · rename_i hn
        cases h
        rw [hd2i, hn]
        exact ⟨rfl, hone⟩
      · cases h
    · cases h
  · cases h

theorem signedBytes_ok (hre : O.Reencodes) (hone : sd.signerInfos = [si]) {m : Bytes}
    (h : signedBytes O sd = .ok m) :
    ∃ attrs, si.signedAttrs = some attrs ∧ m = tlv 0x31 (attrsContent attrs) := by
  unfold signedBytes at h
  cases hi2d : O.i2d (.signed sd) with
  | none =>
    rw [hi2d] at h
    cases h
  | some re =>
    obtain ⟨rfl, hlen⟩ := hre _ _ hi2d
    rw [hi2d] at h
    dsimp only at h
    rw [signedAttrs_der hone (by omega)] at h
    cases hattrs : si.signedAttrs with
    | none =>
      rw [hattrs] at h
      cases h
    | some attrs =>
      rw [hattrs] at h
      dsimp only [Option.map_some] at h
      split at h
      · cases h
        exact ⟨attrs, rfl, rfl⟩
      · cases h

theorem checkMessageDigest_ok {attrs : List Attr} (hattrs : si.signedAttrs = some attrs)
    (h : checkMessageDigest si d = .ok ()) :
    ∃ vs, valuesOf oidMessageDigest attrs = (0x04, d) :: vs := by
  unfold checkMessageDigest at h
  rw [hattrs, Option.getD_some] at h
  cases hfind : attrs.find? (·.oid == oidMessageDigest) with
  | none =>
    rw [hfind] at h
    cases h
  | some a =>
    rw [hfind] at h
    dsimp only at h
    have hhead : attrs.filter (·.oid == oidMessageDigest) =
        a :: (attrs.filter (·.oid == oidMessageDigest)).tail := by
      rw [← head?_filter] at hfind
      exact (cons_head?_tail hfind).symm
    cases hvalues : a.values with
    | nil =>
      rw [hvalues] at h
      cases h
    | cons v vs =>
      rw [hvalues] at h
      dsimp only at h
      split at h
      · cases h
      rename_i htag
      split at h
      · cases h
      rename_i hvalue
      rw [not_not] at htag hvalue
      rw [valuesOf, hhead, flatMap_cons, hvalues, ← htag, ← hvalue]
      exact ⟨_, rfl⟩

theorem failIf_ok {c : Bool} {e : Err} (h : failIf c e = .ok ()) : c = false := by
  cases c
  · rfl
  · cases h

theorem orFail_ok {α : Type} {o : Option α} {e : Err} {a : α} (h : orFail o e = .ok a) : o = some a := by
  cases o
  · cases h
  · cases h
    rfl

theorem onlyCert_some {x : Cert} (h : sd.onlyCert = some x) : sd.certs = [x] := by
  unfold SignedData.onlyCert at h
  split at h
  · cases h
    assumption
  · cases h

theorem compositeCmsVerify_ok (hre : O.Reencodes) (h : compositeCmsVerify O cms d = .ok ())
    (hdec : cmsOneSigner O cms = some (sd, si)) :
    ∃ x attrs vs, Parsed O cms sd si x attrs ∧ d.length = 64 ∧
      valuesOf oidMessageDigest attrs = (0x04, d) :: vs ∧
      ∃ pub, O.compositePubFromRaw x.keyBits = some pub ∧
        O.compositeVerify pub (tlv 0x31 (attrsContent attrs)) si.signature = .ok () := by
  simp only [compositeCmsVerify, bind_eq_ok] at h
  obtain ⟨_, hlen, ⟨sd', si'⟩, hdec', -, -, -, -, _, hdigest, x, hcert, -, -, pub, hpub, m, hm, h⟩ := h
  cases hdec.symm.trans (orFail_ok hdec')
  obtain ⟨hd2i, hone⟩ := cmsOneSigner_some hdec
  obtain ⟨attrs, hattrs, rfl⟩ := signedBytes_ok hre hone hm
  obtain ⟨vs, hvs⟩ := checkMessageDigest_ok hattrs hdigest
  refine ⟨x, attrs, vs, ⟨hd2i, hone, onlyCert_some (orFail_ok hcert), hattrs⟩, ?_, hvs, pub,
    orFail_ok hpub, h⟩
  exact not_not.1 (of_decide_eq_false (failIf_ok hlen))

/-- What the source compares before it accepts. -/
structure Checked (O : Ossl) (d : Bytes) (si : SignerInfo) (x : Cert) (attrs : List Attr) : Prop where
  firstDigest : ∃ vs, valuesOf oidMessageDigest attrs = (0x04, d) :: vs
  identified : si.sigAlg.oid ≠ oidComposite → certMatches si x = true
  keyNamed : si.sigAlg.oid ≠ oidComposite → O.KeyNamed x si
  digestAlg : si.sigAlg.oid ≠ oidComposite → ∃ dn, cmsDigestName si = some dn ∧ dn.size = d.length
  length : si.sigAlg.oid = oidComposite → d.length = Digest.sha512.size
  verifies : O.Verifies x si (tlv 0x31 (attrsContent attrs))

theorem pkiCmsVerify_ok (hre : O.Reencodes) (h : pkiCmsVerify O cms d = .ok ()) :
    ∃ sd si x attrs, Parsed O cms sd si x attrs ∧ Checked O d si x attrs := by
  obtain ⟨⟨sd, si⟩, hdec, h⟩ := bind_ok h
  replace hdec := orFail_ok hdec
  dsimp only at h
  split at h
  · rename_i hoid
    obtain ⟨x, attrs, vs, hparsed, hlen, hvs, hpub⟩ := compositeCmsVerify_ok hre h hdec
    refine ⟨sd, si, x, attrs, hparsed, ⟨vs, hvs⟩, absurd hoid, absurd hoid, absurd hoid,
      fun _ => hlen, ?_⟩
    rwa [Ossl.Verifies, if_pos hoid]
  · rename_i hoid
    simp only [bind_eq_ok] at h
    obtain ⟨dn, hdn, _, hsize, _, hdigest, x, hcert, _, hcmp, k, hk, m, hm, h⟩ := h
    obtain ⟨hd2i, hone⟩ := cmsOneSigner_some hdec
    obtain ⟨attrs, hattrs, rfl⟩ := signedBytes_ok hre hone hm
    -- what is checked of the signature
    simp only [classicVerify, bind_eq_ok] at h
    obtain ⟨row, hrow, -, -, -, -, _, hkey, -, -, -, -, hverify⟩ := h
    have hsize' := failIf_ok hsize
    simp only [Bool.or_eq_false_iff, decide_eq_false_iff_not, not_not] at hsize'
    refine ⟨sd, si, x, attrs, ⟨hd2i, hone, onlyCert_some (orFail_ok hcert), hattrs⟩,
      checkMessageDigest_ok hattrs hdigest, fun _ => by simpa using failIf_ok hcmp, fun _ => ?_,
      fun _ => ⟨dn, orFail_ok hdn, hsize'.2⟩, fun heq => absurd heq hoid, ?_⟩
    · rw [Ossl.KeyNamed, if_neg hoid]
      exact ⟨dn, row, k, orFail_ok hdn, orFail_ok hrow, orFail_ok hk, by simpa using failIf_ok hkey⟩
    · rw [Ossl.Verifies, if_neg hoid]
      exact ⟨dn, row, k, orFail_ok hdn, orFail_ok hrow, orFail_ok hk, by simpa using failIf_ok hverify⟩

end

/-! ## Acceptance -/

section

variable {O : Ossl} {cms d : Bytes} {sd : SignedData} {si : SignerInfo} {x : Cert} {attrs : List Attr}

theorem Parsed.unique {sd' : SignedData} {si' : SignerInfo} {x' : Cert} {attrs' : List Attr}
    (h : Parsed O cms sd si x attrs) (h' : Parsed O cms sd' si' x' attrs') :
    sd' = sd ∧ si' = si ∧ x' = x ∧ attrs' = attrs := by
  cases h.decoded.symm.trans h'.decoded
  cases h.signer.symm.trans h'.signer
  cases h.carried.symm.trans h'.carried
  cases h.signed.symm.trans h'.signed
  exact ⟨rfl, rfl, rfl, rfl⟩

theorem certMatches_iff {issuer : Name} {serial : Bytes} (hsid : si.sid = .issuerSerial issuer serial) :
    certMatches si x = true ↔ issuer.canon = x.issuer.canon ∧ serial = x.serial := by
  simp [certMatches, hsid]

theorem Bound.compared (hc : Checked O d si x attrs) (h : Bound O d sd si x attrs) :
    Compared sd si x attrs := by
  obtain ⟨issuer, serial, hsid, hmatch⟩ := h.identified
  refine ⟨by rw [h.messageDigest]; rfl, h.contentType, ⟨issuer, serial, hsid⟩,
    fun _ => (certMatches_iff hsid).2 hmatch, fun hoid => ?_, fun hoid => ?_⟩
  · have hkey := h.keyNamed
    rwa [Ossl.KeyNamed, if_pos hoid] at hkey
  · obtain ⟨dn, hdn, hsize⟩ := h.digestAlg
    rw [hc.length hoid] at hsize
    rw [hdn]
    cases dn <;> first | rfl | cases hsize

theorem Compared.bound (hc : Checked O d si x attrs) (h : Compared sd si x attrs) :
    Bound O d sd si x attrs := by
  obtain ⟨issuer, serial, hsid⟩ := h.byIssuer
  have hmatch : certMatches si x = true := by
    by_cases hoid : si.sigAlg.oid = oidComposite
    · exact h.identified hoid
    · exact hc.identified hoid
  refine ⟨⟨issuer, serial, hsid, (certMatches_iff hsid).1 hmatch⟩, ?_, ?_, ?_, h.contentType, hc.verifies⟩
  · by_cases hoid : si.sigAlg.oid = oidComposite
    · rw [Ossl.KeyNamed, if_pos hoid]
      exact h.keyAlg hoid
    · exact hc.keyNamed hoid
  · by_cases hoid : si.sigAlg.oid = oidComposite
    · exact ⟨.sha512, h.digestAlg hoid, (hc.length hoid).symm⟩
    · exact hc.digestAlg hoid
  · -- one value, and the first one is the digest
    obtain ⟨vs, hvs⟩ := hc.firstDigest
    have hone := h.oneDigest
    rw [hvs, length_cons, add_eq_right, length_eq_zero_iff] at hone
    rw [hvs, hone]

end

variable (O : Ossl) (cms d : Bytes)

/-- The octets are one structure whose signature speaks for a content with digest `d`. -/
def SpeaksFor : Prop := ∃ sd si x attrs, Parsed O cms sd si x attrs ∧ Bound O d sd si x attrs

/-- They pass the comparisons that the source leaves out. -/
def PassesRest : Prop := ∃ sd si x attrs, Parsed O cms sd si x attrs ∧ Compared sd si x attrs

/-- What is accepted speaks for its content exactly if it passes the comparisons that the source
leaves out. -/
theorem pkiCmsVerify_sound_iff (hre : O.Reencodes) (h : pkiCmsVerify O cms d = .ok ()) :
    SpeaksFor O cms d ↔ PassesRest O cms := by
  obtain ⟨sd, si, x, attrs, hparsed, hc⟩ := pkiCmsVerify_ok hre h
  constructor
  · rintro ⟨sd', si', x', attrs', hparsed', hbound⟩
    obtain ⟨rfl, rfl, rfl, rfl⟩ := hparsed.unique hparsed'
    exact ⟨_, _, _, _, hparsed, hbound.compared hc⟩
  · rintro ⟨sd', si', x', attrs', hparsed', hrest⟩
    obtain ⟨rfl, rfl, rfl, rfl⟩ := hparsed.unique hparsed'
    exact ⟨_, _, _, _, hparsed, hrest.bound hc⟩

/-! ## Two structures -/

/-- An OpenSSL that knows one structure, and in which a signature is a byte of the key before the
message. -/
def Ossl.only (ci : ContentInfo) : Ossl where
  Pkey := Bytes
  d2i b := if b = ci.der then some (ci, b.length) else none
  i2d ci := if ci.der.length < 2 ^ 31 then some ci.der else none
  alloc _ := true
  fetch _ := true
  pubkey x := some x.keyBits
  isA _ t := t == .ed25519
  verifyInit _ _ := true
  verify k _ msg sig := sig == k.take 1 ++ msg
  compositePubFromRaw b := some b
  compositeVerify pub msg sig := if sig = pub.take 1 ++ msg then .ok () else .error .signatureInvalid

theorem Ossl.reencodes_only (ci : ContentInfo) : (Ossl.only ci).Reencodes := by
  intro ci' b h
  simp only [Ossl.only] at h
  split at h
  · cases h
    exact ⟨rfl, ‹_›⟩
  · cases h

/-- `1.2.840.113549.1.7.1`, plain data. -/
def oidData : Bytes := [0x2A, 0x86, 0x48, 0x86, 0xF7, 0x0D, 0x01, 0x07, 0x01]

/-- `2.16.840.1.101.3.4.2.3`, SHA-512. -/
def oidSha512 : Bytes := [0x60, 0x86, 0x48, 0x01, 0x65, 0x03, 0x04, 0x02, 0x03]

/-- Signed attributes for data with a digest. -/
def plainAttrs (d : Bytes) : List Attr :=
  [⟨oidContentType, [(0x06, oidData)]⟩, ⟨oidMessageDigest, [(0x04, d)]⟩]

/-- A structure signed with the first byte of a key, under the serial 1. -/
def signedWith (sigAlg : Algor) (x : Cert) (d : Bytes) : SignedData where
  version := [1]
  digestAlgs := []
  contentType := oidData
  content := none
  certsContent := none
  certs := [x]
  signerInfos := [{
    version := [1]
    sid := .issuerSerial ⟨[], []⟩ [1]
    digestAlg := ⟨oidSha512, none⟩
    signedAttrs := some (plainAttrs d)
    sigAlg := sigAlg
    signature := x.keyBits.take 1 ++ tlv 0x31 (attrsContent (plainAttrs d)) }]

/-- A digest. -/
def someDigest : Bytes := List.replicate 64 5

/-- A signature with Ed25519. -/
def ed25519Signed : SignedData :=
  signedWith ⟨[0x2B, 0x65, 0x70], none⟩ ⟨⟨[], []⟩, [1], none, ⟨[0x2B, 0x65, 0x70], none⟩, [7]⟩ someDigest

theorem parsed_only {x : Cert} {attrs : List Attr} (hsigner : sd.signerInfos = [si])
    (hcert : sd.certs = [x]) (hattrs : si.signedAttrs = some attrs) :
    Parsed (.only (.signed sd)) (ContentInfo.signed sd).der sd si x attrs := by
  refine ⟨?_, hsigner, hcert, hattrs⟩
  unfold Ossl.only
  dsimp only
  rw [if_pos rfl]

theorem pkiCmsVerify_sound_iff_ed25519 :
    pkiCmsVerify (.only (.signed ed25519Signed)) (ContentInfo.signed ed25519Signed).der someDigest =
        .ok () ∧
      SpeaksFor (.only (.signed ed25519Signed)) (ContentInfo.signed ed25519Signed).der someDigest := by
  have hok : pkiCmsVerify (.only (.signed ed25519Signed)) (ContentInfo.signed ed25519Signed).der
      someDigest = .ok () := by
    decide +kernel
  refine ⟨hok, (pkiCmsVerify_sound_iff (.only (.signed ed25519Signed))
    (ContentInfo.signed ed25519Signed).der someDigest (Ossl.reencodes_only _) hok).2 ?_⟩
  refine ⟨ed25519Signed, _, _, _, parsed_only rfl rfl rfl, by decide, by decide, ⟨_, _, rfl⟩, ?_, ?_, ?_⟩
  all_goals exact fun h => absurd h (by decide)

/-- A composite signature with the key of a certificate that has another serial than the signer
is given by. -/
def otherSigner : SignedData :=
  signedWith ⟨oidComposite, none⟩
    ⟨⟨[], []⟩, [2], none, ⟨oidComposite, none⟩, List.replicate compositeRawPub 7⟩ someDigest

/-- It is accepted, but the certificate is not that of the signer. -/
theorem other_signer_accepted :
    pkiCmsVerify (.only (.signed otherSigner)) (ContentInfo.signed otherSigner).der someDigest =
        .ok () ∧
      ¬SpeaksFor (.only (.signed otherSigner)) (ContentInfo.signed otherSigner).der someDigest := by
  refine ⟨by decide +kernel, ?_⟩
  rintro ⟨sd, si, x, attrs, hparsed, hbound⟩
  have hone : Parsed (.only (.signed otherSigner)) (ContentInfo.signed otherSigner).der otherSigner
    _ _ _ := parsed_only rfl rfl rfl
  obtain ⟨rfl, rfl, rfl, rfl⟩ := hone.unique hparsed
  obtain ⟨issuer, serial, hsid, -, hserial⟩ := hbound.identified
  cases hsid
  exact absurd hserial (by decide)

end FreeHsm.Pki
