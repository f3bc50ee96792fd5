import FreeHsm.Common
import FreeHsm.ForStd.Der

/-!
# Checking a CMS signature

`fhsm_pki_cms_verify` checks a detached CMS `SignedData` against the digest of the
data. OpenSSL decodes the structure, and what it finds is a record here; its functions
are parameters. The signed attributes are reached with a reader of the source's own,
`tlv_at` and the functions over it, in the structure as OpenSSL encodes it again.

A composite signature is checked by `fhsm_composite_cms_verify`, every other one by the
rest of `fhsm_pki_cms_verify`.
-/

namespace FreeHsm.Pki

open Der (tlv elements)

/-! ## What OpenSSL decodes -/

/-- A tag and the content under it. -/
abbrev Element := UInt8 × Bytes

/-- `X509_ALGOR`: an object identifier, as its content octets, and the parameters. -/
structure Algor where
  oid : Bytes
  param : Option Element := none
  deriving DecidableEq

def Algor.content (a : Algor) : Bytes := elements ((0x06, a.oid) :: a.param.toList)

/-- `X509_ATTRIBUTE`. -/
structure Attr where
  oid : Bytes
  values : List Element
  deriving DecidableEq

def Attr.der (a : Attr) : Bytes :=
  tlv 0x30 (elements [(0x06, a.oid), (0x31, Der.setContent (a.values.map fun v => tlv v.1 v.2))])

/-- A name: its content octets, and the canonical form that `X509_NAME_cmp` compares. -/
structure Name where
  content : Bytes
  canon : Bytes
  deriving DecidableEq

/-- The signer identifier. -/
inductive SignerId
  | issuerSerial (issuer : Name) (serial : Bytes)
  | keyId (id : Bytes)
  deriving DecidableEq

def SignerId.element : SignerId → Element
  | issuerSerial issuer serial => (0x30, elements [(0x30, issuer.content), (0x02, serial)])
  | keyId id => (0x80, id)

/-- `CMS_SignerInfo`. -/
structure SignerInfo where
  version : Bytes
  sid : SignerId
  digestAlg : Algor
  signedAttrs : Option (List Attr)
  sigAlg : Algor
  signature : Bytes
  unsignedAttrs : Option Bytes := none
  deriving DecidableEq

/-- The content octets of the signed attributes, which are a set. -/
def attrsContent (attrs : List Attr) : Bytes := Der.setContent (attrs.map Attr.der)

def SignerInfo.elements (si : SignerInfo) : List Element :=
  [(0x02, si.version), si.sid.element, (0x30, si.digestAlg.content)] ++
    (si.signedAttrs.map fun attrs => ((0xA0 : UInt8), attrsContent attrs)).toList ++
    [(0x30, si.sigAlg.content), (0x04, si.signature)] ++
    (si.unsignedAttrs.map fun c => ((0xA1 : UInt8), c)).toList

def SignerInfo.der (si : SignerInfo) : Bytes := tlv 0x30 (Der.elements si.elements)

/-- A certificate. -/
structure Cert where
  issuer : Name
  serial : Bytes
  /-- The subject key identifier. -/
  keyId : Option Bytes := none
  keyAlg : Algor
  /-- The content of `subjectPublicKey`. -/
  keyBits : Bytes
  deriving DecidableEq

/-- `CMS_SignedData`. The certificates are there as their encoding and as what was decoded. -/
structure SignedData where
  version : Bytes
  digestAlgs : Bytes
  /-- The type of the content. -/
  contentType : Bytes
  content : Option Bytes
  certsContent : Option Bytes
  certs : List Cert
  crlsContent : Option Bytes := none
  signerInfos : List SignerInfo
  deriving DecidableEq

def SignedData.elements (sd : SignedData) : List Element :=
  [(0x02, sd.version), (0x31, sd.digestAlgs),
      (0x30, Der.elements ((0x06, sd.contentType) ::
        (sd.content.map fun c => ((0xA0 : UInt8), tlv 0x04 c)).toList))] ++
    (sd.certsContent.map fun c => ((0xA0 : UInt8), c)).toList ++
    (sd.crlsContent.map fun c => ((0xA1 : UInt8), c)).toList ++
    [(0x31, Der.setContent (sd.signerInfos.map SignerInfo.der))]

/-- `1.2.840.113549.1.7.2`. -/
def oidSignedData : Bytes := [0x2A, 0x86, 0x48, 0x86, 0xF7, 0x0D, 0x01, 0x07, 0x02]

/-- `CMS_ContentInfo`; of a content other than `SignedData` only its encoding matters. -/
inductive ContentInfo
  | signed (sd : SignedData)
  | other (der : Bytes)
  deriving DecidableEq

/-- The elements around it in a `ContentInfo`. -/
def SignedData.outer (sd : SignedData) : List Element :=
  [(0x06, oidSignedData), (0xA0, tlv 0x30 (Der.elements sd.elements))]

def ContentInfo.der : ContentInfo → Bytes
  | signed sd => tlv 0x30 (elements sd.outer)
  | other der => der

/-! ## Algorithms -/

/-- The digests of `cms_digest_name`. -/
inductive Digest
  | sha256
  | sha384
  | sha512
  deriving DecidableEq

/-- `EVP_MD_get_size`. -/
def Digest.size : Digest → Nat
  | sha256 => 32
  | sha384 => 48
  | sha512 => 64

/-- `cms_digest_name`. -/
def cmsDigestName (si : SignerInfo) : Option Digest :=
  -- `2.16.840.1.101.3.4.2.1` to `.3`
  if si.digestAlg.oid = [0x60, 0x86, 0x48, 0x01, 0x65, 0x03, 0x04, 0x02, 0x01] then some .sha256
  else if si.digestAlg.oid = [0x60, 0x86, 0x48, 0x01, 0x65, 0x03, 0x04, 0x02, 0x02] then some .sha384
  else if si.digestAlg.oid = [0x60, 0x86, 0x48, 0x01, 0x65, 0x03, 0x04, 0x02, 0x03] then some .sha512
  else none

/-- The key types `classic_verify` asks for. -/
inductive KeyType
  | ec
  | rsa
  | ed25519
  | mldsa44
  | mldsa65
  | mldsa87
  deriving DecidableEq

/-- `FHSM_COMPOSITE_OID_MLDSA65_ED25519`, `1.3.6.1.5.5.7.6.48`. -/
def oidComposite : Bytes := [0x2B, 0x06, 0x01, 0x05, 0x05, 0x07, 0x06, 0x30]

/-- `ALGID_RSA_PSS_SHA256`. -/
def algidRsaPssSha256 : Bytes :=
  [0x30, 0x41,
    0x06, 0x09, 0x2A, 0x86, 0x48, 0x86, 0xF7, 0x0D, 0x01, 0x01, 0x0A,
    0x30, 0x34,
    0xA0, 0x0F, 0x30, 0x0D, 0x06, 0x09,
    0x60, 0x86, 0x48, 0x01, 0x65, 0x03, 0x04, 0x02, 0x01, 0x05, 0x00,
    0xA1, 0x1C, 0x30, 0x1A, 0x06, 0x09,
    0x2A, 0x86, 0x48, 0x86, 0xF7, 0x0D, 0x01, 0x01, 0x08,
    0x30, 0x0D, 0x06, 0x09,
    0x60, 0x86, 0x48, 0x01, 0x65, 0x03, 0x04, 0x02, 0x01, 0x05, 0x00,
    0xA2, 0x03, 0x02, 0x01, 0x20]

/-- What `classic_verify` makes of a signature algorithm. -/
structure SigRow where
  md : Option Digest
  keytype : KeyType
  pss : Bool := false
  paramsAbsent : Bool := true
  deriving DecidableEq

/-- The chain of comparisons in `classic_verify`. -/
def sigRow (dn : Digest) (sa : Algor) : Option SigRow :=
  -- `1.2.840.10045.4.3.2` and `.3`
  if sa.oid = [0x2A, 0x86, 0x48, 0xCE, 0x3D, 0x04, 0x03, 0x02] then some { md := some .sha256, keytype := .ec }
  else if sa.oid = [0x2A, 0x86, 0x48, 0xCE, 0x3D, 0x04, 0x03, 0x03] then
    some { md := some .sha384, keytype := .ec }
  -- `1.2.840.113549.1.1.11`, `.1` and `.10`
  else if sa.oid = [0x2A, 0x86, 0x48, 0x86, 0xF7, 0x0D, 0x01, 0x01, 0x0B] then
    some { md := some .sha256, keytype := .rsa, paramsAbsent := false }
  else if sa.oid = [0x2A, 0x86, 0x48, 0x86, 0xF7, 0x0D, 0x01, 0x01, 0x01] then
    some { md := some dn, keytype := .rsa, paramsAbsent := false }
  else if sa.oid = [0x2A, 0x86, 0x48, 0x86, 0xF7, 0x0D, 0x01, 0x01, 0x0A] then
    if tlv 0x30 sa.content = algidRsaPssSha256 then
      some { md := some .sha256, keytype := .rsa, pss := true, paramsAbsent := false }
    else none
  -- `1.3.101.112`
  else if sa.oid = [0x2B, 0x65, 0x70] then some { md := none, keytype := .ed25519 }
  -- `2.16.840.1.101.3.4.3.17` to `.19`
  else if sa.oid = [0x60, 0x86, 0x48, 0x01, 0x65, 0x03, 0x04, 0x03, 0x11] then
    some { md := none, keytype := .mldsa44 }
  else if sa.oid = [0x60, 0x86, 0x48, 0x01, 0x65, 0x03, 0x04, 0x03, 0x12] then
    some { md := none, keytype := .mldsa65 }
  else if sa.oid = [0x60, 0x86, 0x48, 0x01, 0x65, 0x03, 0x04, 0x03, 0x13] then
    some { md := none, keytype := .mldsa87 }
  else none

/-- The functions of OpenSSL, and those over its keys. -/
structure Ossl where
  Pkey : Type
  /-- `d2i_CMS_ContentInfo`, with the number of octets it consumed. -/
  d2i : Bytes → Option (ContentInfo × Nat)
  /-- `i2d_CMS_ContentInfo`. -/
  i2d : ContentInfo → Option Bytes
  /-- `OPENSSL_malloc` gets that much. -/
  alloc : Nat → Bool
  /-- `EVP_MD_fetch`. -/
  fetch : Digest → Bool
  /-- `X509_get0_pubkey`. -/
  pubkey : Cert → Option Pkey
  /-- `EVP_PKEY_is_a`. -/
  isA : Pkey → KeyType → Bool
  /-- `EVP_DigestVerifyInit_ex` and the settings for PSS. -/
  verifyInit : Pkey → SigRow → Bool
  /-- `EVP_DigestVerify`, of a message and a signature. -/
  verify : Pkey → SigRow → Bytes → Bytes → Bool
  /-- `fhsm_composite_pub_from_raw` of `fhsm_composite.c`, on a key of the length that the caller has
  checked: `blob_pack` of the two keys the library makes of it. Nothing is assumed of it. -/
  compositePubFromRaw : Bytes → Option Bytes
  /-- `fhsm_composite_verify` of that file, of a message and a signature: both components verify the
  laid-out hash of the message. Nothing is assumed of it. -/
  compositeVerify : Bytes → Bytes → Bytes → Except Err Unit

/-! ## The reader -/

/-- `fhsm_tlv_t`: the tag, all octets of the element, and its content. -/
structure Tlv where
  tag : UInt8
  all : Bytes
  val : Bytes
  deriving DecidableEq

/-- `tlv_at`. -/
def tlvAt : Bytes → Option Tlv
  | tag :: n :: rest =>
    if n < 0x80 then
      if rest.length < n.toNat then none
      else some ⟨tag, tag :: n :: rest.take n.toNat, rest.take n.toNat⟩
    else
      let k := n.toNat - 0x80
      if k = 0 ∨ 4 < k ∨ rest.length < k then none
      else
        let len := Der.value (rest.take k)
        if rest.length < k + len then none
        else some ⟨tag, tag :: n :: rest.take (k + len), (rest.drop k).take len⟩
  | _ => none

/-- `tlv_child`. -/
def tlvChild (p : Bytes) : (idx : Nat) → Option Tlv
  | 0 => tlvAt p
  | idx + 1 =>
    match tlvAt p with
    | none => none
    | some t => tlvChild (p.drop t.all.length) idx

/-- The loop of `cms_find_signerinfo`, in at most `fuel` rounds: the last element. -/
def lastElement : (fuel : Nat) → Bytes → (last : Option Tlv) → Option Tlv
  | _, [], last => last
  | 0, _ :: _, _ => none
  | fuel + 1, p, _ =>
    match tlvAt p with
    | none => none
    | some t => lastElement fuel (p.drop t.all.length) (some t)

/-- `cms_find_signerinfo`. -/
def cmsFindSignerinfo (der : Bytes) : Option Tlv := do
  let ci ← tlvAt der
  let c0 ← tlvChild ci.val 1
  let sd ← tlvAt c0.val
  let last ← lastElement sd.val.length sd.val none
  if last.tag ≠ 0x31 then none
  else tlvChild last.val 0

/-- The loop over the children of the `SignerInfo`, from child `k` on. -/
def firstContext (p : Bytes) : (fuel k : Nat) → Option Tlv
  | 0, _ => none
  | fuel + 1, k =>
    match tlvChild p k with
    | none => none
    | some t => if t.tag = 0xA0 then some t else firstContext p fuel (k + 1)

/-- The signed attributes in an encoded structure. -/
def signedAttrs (der : Bytes) : Option Tlv := do
  let s2 ← cmsFindSignerinfo der
  firstContext s2.val (s2.val.length + 1) 0

/-! ## The checks -/

/-- `1.2.840.113549.1.9.4`, the attribute `messageDigest`. -/
def oidMessageDigest : Bytes := [0x2A, 0x86, 0x48, 0x86, 0xF7, 0x0D, 0x01, 0x09, 0x04]

/-- `1.2.840.113549.1.9.3`, the attribute `contentType`. -/
def oidContentType : Bytes := [0x2A, 0x86, 0x48, 0x86, 0xF7, 0x0D, 0x01, 0x09, 0x03]

/-- `CMS_SignerInfo_cert_cmp` finds them equal. -/
def certMatches (si : SignerInfo) (x : Cert) : Bool :=
  match si.sid with
  | .issuerSerial issuer serial => issuer.canon == x.issuer.canon && serial == x.serial
  | .keyId id => x.keyId == some id

/-- `cms_one_signer`. -/
def cmsOneSigner (O : Ossl) (cms : Bytes) : Option (SignedData × SignerInfo) :=
  match O.d2i cms with
  | some (.signed sd, n) =>
    match sd.signerInfos with
    | [si] => if n = cms.length then some (sd, si) else none
    | _ => none
  | _ => none

/-- The first value of the first `messageDigest` is the digest. -/
def checkMessageDigest (si : SignerInfo) (digest : Bytes) : Except Err Unit :=
  match (si.signedAttrs.getD []).find? (·.oid == oidMessageDigest) with
  | none => .error .argumentsBad
  | some a =>
    match a.values with
    | [] => .error .argumentsBad
    | v :: _ =>
      if v.1 ≠ 0x04 then .error .argumentsBad
      else if v.2 ≠ digest then .error .signatureInvalid
      else .ok ()

/-- What the signature is checked over: the signed attributes as they are encoded again, with the
tag of a set. -/
def signedBytes (O : Ossl) (sd : SignedData) : Except Err Bytes :=
  match O.i2d (.signed sd) with
  | none => .error .argumentsBad
  | some re =>
    match signedAttrs re with
    | none => .error .argumentsBad
    | some at_ => if O.alloc at_.all.length then .ok (0x31 :: at_.all.drop 1) else .error .hostMemory

/-- `FHSM_COMPOSITE_RAW_PUB`. -/
def compositeRawPub : Nat := 1952 + 32

/-- The certificate that the structure carries, if it is one. -/
def SignedData.onlyCert (sd : SignedData) : Option Cert :=
  match sd.certs with
  | [x] => some x
  | _ => none

/-- Leave with an error on a condition. -/
def failIf (c : Bool) (e : Err) : Except Err Unit := if c then .error e else .ok ()

/-- Leave with an error if there is no value. -/
def orFail {α : Type} (o : Option α) (e : Err) : Except Err α :=
  match o with
  | some a => .ok a
  | none => .error e

/-- `fhsm_composite_cms_verify`. -/
def compositeCmsVerify (O : Ossl) (cms digest : Bytes) : Except Err Unit := do
  failIf (digest.length ≠ Digest.sha512.size) .argumentsBad
  let (sd, si) ← orFail (cmsOneSigner O cms) .argumentsBad
  failIf (si.sigAlg.oid ≠ oidComposite) .argumentsBad
  failIf si.sigAlg.param.isSome .argumentsBad
  checkMessageDigest si digest
  let x ← orFail sd.onlyCert .argumentsBad
  failIf (x.keyBits.length ≠ compositeRawPub) .argumentsBad
  let pub ← orFail (O.compositePubFromRaw x.keyBits) .argumentsBad
  let attrs ← signedBytes O sd
  O.compositeVerify pub attrs si.signature

/-- `classic_verify`. -/
def classicVerify (O : Ossl) (k : O.Pkey) (sa : Algor) (dn : Digest) (msg sig : Bytes) :
    Except Err Unit := do
  let row ← orFail (sigRow dn sa) .argumentsBad
  failIf (row.paramsAbsent && sa.param.isSome) .argumentsBad
  failIf (!row.pss && !row.paramsAbsent && sa.param.any fun p => p.1 != 0x05) .argumentsBad
  failIf (!O.isA k row.keytype) .argumentsBad
  failIf (row.md.any (· ≠ dn)) .argumentsBad
  failIf (!O.verifyInit k row) .functionFailed
  failIf (!O.verify k row msg sig) .signatureInvalid

/-- `fhsm_pki_cms_verify`. -/
def pkiCmsVerify (O : Ossl) (cms digest : Bytes) : Except Err Unit := do
  let (sd, si) ← orFail (cmsOneSigner O cms) .argumentsBad
  if si.sigAlg.oid = oidComposite then compositeCmsVerify O cms digest
  else
    let dn ← orFail (cmsDigestName si) .argumentsBad
    failIf (!O.fetch dn || dn.size ≠ digest.length) .argumentsBad
    checkMessageDigest si digest
    let x ← orFail sd.onlyCert .argumentsBad
    failIf (!certMatches si x) .argumentsBad
    let k ← orFail (O.pubkey x) .argumentsBad
    let attrs ← signedBytes O sd
    classicVerify O k si.sigAlg dn attrs si.signature

end FreeHsm.Pki
