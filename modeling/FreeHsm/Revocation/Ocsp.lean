import FreeHsm.ForStd.Der
import FreeHsm.Revocation.Commands

/-!
# Answering OCSP requests

`fhsm_ocsp_answer_ex` looks up every certificate a request asks about in the revocation
database and has the answers encoded and signed. OpenSSL decodes the request, hashes names
and encodes times; it is a parameter here. The response is put together by hand, from the
encoders of `fhsm_composite.c` on and up to `wrap_response`: each computes its lengths
first, compares them with the room there is, and then copies.
-/

namespace FreeHsm.Revocation

/-! ## What OpenSSL decodes -/

/-- An `ASN1_INTEGER`: its sign and its magnitude. -/
structure Integer where
  negative : Bool
  magnitude : Bytes
  deriving DecidableEq

/-- `OCSP_CERTID`, with its encoding. -/
structure CertId where
  /-- The object identifier of the hash. -/
  hashAlg : Bytes
  nameHash : Bytes
  keyHash : Bytes
  serial : Integer
  der : Bytes
  deriving DecidableEq

/-- `OCSP_REQUEST`: what is asked, and the encoding of the nonce extension. -/
structure Request where
  ids : List CertId
  nonce : Option Bytes

/-- What is read of a certificate: the encoded subject and the bits of the key. -/
structure X509 where
  subject : Bytes
  keyBits : Bytes

/-- The functions of OpenSSL. -/
structure OcspLib where
  d2iX509 : Bytes → Option X509
  d2iRequest : Bytes → Option Request
  /-- A hash by its object identifier, if there is one. -/
  hash : Bytes → Bytes → Option Bytes
  /-- `ASN1_GENERALIZEDTIME_set` and its encoding. -/
  genTime : Int → Option Bytes

/-- What the call allocates. -/
inductive Site
  | arrays
  | exts
  | basic
  | resp
  | responderId
  | single (i : Nat)
  | singles
  | tbs
  | signature
  deriving DecidableEq

/-! ## Encoders -/

/-- `der_len`. -/
def derLen (n cap : Nat) : Option Bytes :=
  if n < 0x80 then if cap < 1 then none else some [UInt8.ofNat n]
  else if n ≤ 0xFF then if cap < 2 then none else some [0x81, UInt8.ofNat n]
  else if n ≤ 0xFFFF then
    if cap < 3 then none else some [0x82, UInt8.ofNat (n / 256), UInt8.ofNat n]
  else if n ≤ 0xFFFFFF then
    if cap < 4 then none
    else some [0x83, UInt8.ofNat (n / 65536), UInt8.ofNat (n / 256), UInt8.ofNat n]
  else none

/-- `tag_wrap`. -/
def tagWrap (tag : UInt8) (content : Bytes) (cap : Nat) : Option Bytes :=
  match derLen content.length 4 with
  | none => none
  | some l => if cap < 1 + l.length + content.length then none else some (tag :: (l ++ content))

/-- `LEN` of `wrap_response`. -/
def responseLen (n : Nat) : Bytes :=
  if n < 0x80 then [UInt8.ofNat n]
  else if n ≤ 0xFF then [0x81, UInt8.ofNat n]
  else if n ≤ 0xFFFF then [0x82, UInt8.ofNat (n / 256), UInt8.ofNat n]
  else [0x83, UInt8.ofNat (n / 65536), UInt8.ofNat (n / 256), UInt8.ofNat n]

/-- `OID_BASIC`. -/
def oidBasic : Bytes := [0x06, 0x09, 0x2B, 0x06, 0x01, 0x05, 0x05, 0x07, 0x30, 0x01, 0x01]

/-- A tag, `LEN` of the content, and the content. -/
def responseTlv (tag : UInt8) (content : Bytes) : Bytes :=
  tag :: (responseLen content.length ++ content)

/-- The content that `wrap_response` writes. -/
def wrapContent (basic : Bytes) : Bytes :=
  [0x0A, 0x01, 0x00] ++ responseTlv 0xA0 (responseTlv 0x30 (oidBasic ++ responseTlv 0x04 basic))

/-- `wrap_response`. -/
def wrapResponse (basic : Bytes) (cap : Nat) : Option Bytes :=
  let total := responseTlv 0x30 (wrapContent basic)
  if cap < total.length then none else some total

/-- Why an encoder returns without its output. -/
inductive EncodeError
  | tooSmall (need : Nat)
  | err (e : Err)
  deriving DecidableEq

/-- `FHSM_OCSP_GOOD`, `FHSM_OCSP_REVOKED` and `FHSM_OCSP_UNKNOWN`. -/
inductive Status
  | good
  | revoked
  | unknown
  deriving DecidableEq

/-- `fhsm_composite_ocsp_single_t`; no reason stands for -1. -/
structure Single where
  certId : Bytes
  status : Status
  revokedAt : Option Bytes
  reason : Option Nat
  thisUpd : Bytes
  nextUpd : Option Bytes

/-- Leave with an error on a condition. -/
def refuseIf (c : Bool) (e : Err) : Except EncodeError Unit := if c then .error (.err e) else .ok ()

/-- Leave with an error if there is no value. -/
def orRefuse {α : Type} (o : Option α) (e : Err) : Except EncodeError α :=
  match o with
  | some a => .ok a
  | none => .error (.err e)

/-- A buffer is given and starts with a tag. -/
def startsWith (tag : UInt8) (b : Bytes) : Bool := b.head? == some tag

/-- The time and the reason of a status fit it. -/
def Single.consistent (s : Single) : Bool :=
  match s.status with
  | .revoked => s.revokedAt.any (startsWith 0x18)
  | .good | .unknown => s.revokedAt.isNone && s.reason.isNone

/-- The `CertStatus` of a single response. -/
def Single.certStatus (s : Single) : Except EncodeError Bytes :=
  match s.status with
  | .good => .ok [0x80, 0x00]
  | .unknown => .ok [0x82, 0x00]
  | .revoked => do
    let revokedAt := s.revokedAt.getD []
    refuseIf (24 < revokedAt.length) .argumentsBad
    refuseIf (s.reason.any (10 < ·)) .argumentsBad
    let reason := s.reason.elim [] fun r => [0xA0, 0x03, 0x0A, 0x01, UInt8.ofNat r]
    orRefuse (tagWrap 0xA1 (revokedAt ++ reason) 32) .functionFailed

/-- A time inside a context tag. -/
def explicitTime (t : Option Bytes) : Except EncodeError Bytes :=
  match t with
  | none => .ok []
  | some t => do
    let l ← orRefuse (derLen t.length 4) .functionFailed
    return 0xA0 :: (l ++ t)

/-- The common end of the encoders: a sequence, if there is room for it. -/
def putSequence (content : Bytes) (outLen : Nat) : Except EncodeError Bytes := do
  let sq ← orRefuse (derLen content.length 5) .functionFailed
  let total := 1 + sq.length + content.length
  if outLen < total then throw (.tooSmall total) else return 0x30 :: (sq ++ content)

/-- `fhsm_composite_ocsp_single`, into a buffer of `outLen`. -/
def ocspSingle (s : Single) (outLen : Nat) : Except EncodeError Bytes := do
  refuseIf (!startsWith 0x30 s.certId) .argumentsBad
  refuseIf (!startsWith 0x18 s.thisUpd) .argumentsBad
  refuseIf (!s.nextUpd.all (startsWith 0x18)) .argumentsBad
  refuseIf (!s.consistent) .argumentsBad
  let st ← s.certStatus
  let nu ← explicitTime s.nextUpd
  putSequence (s.certId ++ st ++ s.thisUpd ++ nu) outLen

/-- The extensions inside a context tag. -/
def explicitExts (exts : Option Bytes) : Except EncodeError Bytes :=
  match exts with
  | none => .ok []
  | some e => do
    let l ← orRefuse (derLen e.length 5) .functionFailed
    return 0xA1 :: (l ++ e)

/-- `fhsm_composite_ocsp_tbs`, into a buffer of `outLen`. -/
def ocspTbs (responderId producedAt responses : Bytes) (exts : Option Bytes) (outLen : Nat) :
    Except EncodeError Bytes := do
  refuseIf (!(startsWith 0xA1 responderId || startsWith 0xA2 responderId)) .argumentsBad
  refuseIf (!startsWith 0x18 producedAt) .argumentsBad
  refuseIf (!startsWith 0x30 responses) .argumentsBad
  refuseIf (!exts.all (startsWith 0x30)) .argumentsBad
  let ext ← explicitExts exts
  putSequence (responderId ++ producedAt ++ responses ++ ext) outLen

/-! ## The signed response -/

section

variable (mem : Site → Bool)

/-- What an encoder needs, from a call with no room at all. -/
def probe (f : Nat → Except EncodeError Bytes) : Except Err Nat :=
  match f 0 with
  | .ok _ => .error .functionFailed
  | .error (.err e) => .error e
  | .error (.tooSmall need) => .ok need

/-- The encoder's own code. -/
def encoded : Except EncodeError Bytes → Except Err Bytes
  | .ok b => .ok b
  | .error (.err e) => .error e
  | .error (.tooSmall _) => .error .bufferTooSmall

/-- The loop of `fhsm_pki_ocsp` over the single responses: the buffer and its capacity. -/
def singlesLoop : (i : Nat) → List Single → (sr : Bytes) → (cap : Nat) → Except Err Bytes
  | _, [], sr, _ => .ok sr
  | i, s :: rest, sr, cap => do
    let need ← probe (ocspSingle s)
    let grows := cap < sr.length + need
    if grows && !mem (.single i) then throw .hostMemory
    else
      let cap := if grows then (sr.length + need) * 2 + 256 else cap
      let got ← encoded (ocspSingle s (cap - sr.length))
      singlesLoop (i + 1) rest (sr ++ got) cap

/-- An allocation. -/
def allocated (site : Site) : Except Err Unit := if mem site then .ok () else .error .hostMemory

/-- Leave with `FHSM_RV_FUNCTION_FAILED` if there is no value. -/
def orFailed {α : Type} (o : Option α) : Except Err α :=
  match o with
  | some a => .ok a
  | none => .error .functionFailed

/-- `FHSM_PKI_SIG_MAX`. -/
def pkiSigMax : Nat := 8192

/-- A signer: its `AlgorithmIdentifier`, and the signature of a message, which is written into a
buffer of `pkiSigMax`. -/
structure Signer where
  algid : Bytes
  sign : Bytes → Except Err { sig : Bytes // sig.length ≤ pkiSigMax }

/-- The part of `fhsm_pki_ocsp` up to the message to be signed. -/
def responseData (rc : X509) (producedAt : Bytes) (singles : List Single) (exts : Option Bytes) :
    Except Err Bytes := do
  allocated mem .responderId
  let rid ← orFailed (tagWrap 0xA1 rc.subject (rc.subject.length + 8))
  let sr ← singlesLoop mem 0 singles [] 0
  allocated mem .singles
  let srSeq ← orFailed (tagWrap 0x30 sr (sr.length + 8))
  let need ← probe (ocspTbs rid producedAt srSeq exts)
  allocated mem .tbs
  encoded (ocspTbs rid producedAt srSeq exts need)

/-- Its part after the signature. -/
def basicResponse (algid responderCert tbs sig : Bytes) (outLen : Nat) : Except Err Bytes := do
  let bsHdr ← orFailed (derLen (0x00 :: sig).length 5)
  let innerHdr ← orFailed (derLen responderCert.length 5)
  let inner := 0x30 :: (innerHdr ++ responderCert)
  let outerHdr ← orFailed (derLen inner.length 5)
  encoded (putSequence
    (tbs ++ algid ++ 0x03 :: (bsHdr ++ 0x00 :: sig) ++ 0xA0 :: (outerHdr ++ inner)) outLen)

/-- `fhsm_pki_ocsp`, into a buffer of `outLen`. -/
def pkiOcsp (L : OcspLib) (s : Signer) (responderCert producedAt : Bytes) (singles : List Single)
    (exts : Option Bytes) (outLen : Nat) : Except Err Bytes := do
  if s.algid = [] ∨ responderCert = [] ∨ producedAt = [] ∨ singles = [] then throw .argumentsBad
  else
    match L.d2iX509 responderCert with
    | none => throw .argumentsBad
    | some rc =>
      if rc.subject = [] then throw .functionFailed
      else
        let tbs ← responseData mem rc producedAt singles exts
        allocated mem .signature
        let sig ← s.sign tbs
        basicResponse s.algid responderCert tbs sig.1 outLen

end

/-! ## The answer -/

/-- How `fhsm_ocsp_answer_ex` fails. -/
inductive AnswerError
  | validity
  | caCertificate
  | notRequest
  | asksNothing
  | time
  | memory
  | certId
  | revocationDate
  | build (e : Err)
  | wrap
  deriving DecidableEq

/-- `fhsm_ocsp_stats_t`. -/
structure Stats where
  asked : Nat
  ours : Nat
  revoked : Nat
  unknown : Nat
  nonceEchoed : Bool
  deriving DecidableEq

/-- `e->reason`. -/
def Reason.code : Reason → Nat
  | .unspecified => 0
  | .keyCompromise => 1
  | .caCompromise => 2
  | .affiliationChanged => 3
  | .superseded => 4
  | .cessationOfOperation => 5
  | .certificateHold => 6
  | .privilegeWithdrawn => 9
  | .aaCompromise => 10

/-- The time of a date; a date that was read has one. -/
def Date.time (d : Date) : Int := (dateToTime d.1).getD 0

/-- What the call is given beside the request. -/
structure Responder where
  lib : OcspLib
  mem : Site → Bool
  now : Int
  caDer : Bytes
  responderDer : Bytes
  db : Db
  days : Int
  signer : Signer

/-- `OCSP_cert_id_new` and `OCSP_id_issuer_cmp`: the question is about this authority. -/
def CertId.isOurs (id : CertId) (L : OcspLib) (ca : X509) : Bool :=
  L.hash id.hashAlg ca.subject == some id.nameHash && L.hash id.hashAlg ca.keyBits == some id.keyHash

/-- The round of the loop for one question. -/
def Responder.single (R : Responder) (ca : X509) (dNow dNxt : Bytes) (id : CertId) :
    Except AnswerError Single := do
  if id.der = [] then throw .certId
  else
    let s : Single :=
      { certId := id.der, status := .unknown, revokedAt := none, reason := none
        thisUpd := dNow, nextUpd := some dNxt }
    if !id.isOurs R.lib ca then return s
    else
      match R.db.find id.serial.magnitude with
      | none => return { s with status := .good }
      | some e =>
        match R.lib.genTime e.date.time with
        | none => throw .revocationDate
        | some t =>
          return { s with status := .revoked, revokedAt := some t, reason := e.reason.map Reason.code }

/-- The extensions of the response: the nonce as it came, in a sequence. -/
def echoedExts (one : Bytes) : Bytes :=
  let n := one.length
  let hdr :=
    if n < 0x80 then [UInt8.ofNat n]
    else if n ≤ 0xFF then [0x81, UInt8.ofNat n]
    else [0x82, UInt8.ofNat (n / 256), UInt8.ofNat n]
  0x30 :: (hdr ++ one)

/-- `fhsm_ocsp_answer_ex`. -/
def Responder.answer (R : Responder) (reqDer : Bytes) : Except AnswerError (Bytes × Stats) := do
  if R.days ≤ 0 then throw .validity
  else
    match R.lib.d2iX509 R.caDer, R.lib.d2iRequest reqDer with
    | none, _ => throw .caCertificate
    | some _, none => throw .notRequest
    | some ca, some req =>
      if req.ids = [] then throw .asksNothing
      else
        match R.lib.genTime R.now, R.lib.genTime (R.now + R.days * 86400) with
        | some dNow, some dNxt =>
          if !R.mem .arrays then throw .memory
          else
            let singles ← req.ids.mapM (R.single ca dNow dNxt)
            let nonce := req.nonce.filter (· ≠ [])
            if nonce.isSome && !R.mem .exts then throw .memory
            else
              let exts := nonce.map echoedExts
              let bcap := 16384 + R.caDer.length + R.responderDer.length + req.ids.length * 512 +
                (exts.map List.length).getD 0
              if !R.mem .basic then throw .memory
              else
                match pkiOcsp R.mem R.lib R.signer R.responderDer dNow singles exts bcap with
                | .error e => throw (.build e)
                | .ok basic =>
                  if !R.mem .resp then throw .memory
                  else
                    match wrapResponse basic (basic.length + 64) with
                    | none => throw .wrap
                    | some resp =>
                      return (resp,
                        { asked := req.ids.length
                          ours := req.ids.countP (·.isOurs R.lib ca)
                          revoked := singles.countP (·.status == .revoked)
                          unknown := singles.countP (·.status == .unknown)
                          nonceEchoed := exts.isSome })
        | _, _ => throw .time

end FreeHsm.Revocation
