import FreeHsm.Pkcs11.KeyLib
import FreeHsm.Pkcs11.Creation
import FreeHsm.Pkcs11.OpSlot

/-!
# C_CreateObject

`fhsm_parse_create_attrs` sorts a template onto one of three paths: an object stored
as it comes, a certificate, or a key that OpenSSL builds from components. Each path
has its own call of `fhsm_token_object_add` and its own end.

Nothing up to that call looks at the token, so `createPlan` is a function of the
session and the template alone.
-/

namespace FreeHsm

open TokenM StateExcept

/-! ## `fhsm_parse_create_attrs` -/

/-- `fhsm_parse_rv_t`, other than `FHSM_PARSE_OK`. -/
inductive ParseErr
  | incomplete
  | inconsistent
  | valueInvalid
  | curveNotInTable
  deriving DecidableEq, Repr

/-- `fhsm_create_path_t` with the data of each path. -/
inductive CreatePath
  | verbatim (value : Bytes)
  | pqcPub (fam : PqcFamily) (byLength : Option ParamSet) (value : Bytes)
  | ecPub (curve : EcCurve) (point : Bytes)
  | edPub (curve : EdCurve) (point : Bytes)
  | rsaPub (n e : Bytes)
  | rsaPriv (c : RsaComponents)
  | certX509 (value : Bytes)
  deriving DecidableEq, Repr

/-- `fhsm_create_attrs_t`; the label and the identifier are read from the template. -/
structure CreateAttrs where
  cko : UInt64
  ckk : UInt64
  path : CreatePath
  deriving DecidableEq, Repr

variable (t : Template)

/-- `read_attr_ulong`: longer values are accepted. -/
def Template.readUlong (type : UInt64) : Option UInt64 :=
  match t.findAttr type with
  | some ⟨_, .bytes b, _⟩ => if ckUlongSize ≤ b.length then some (u64At b 0) else none
  | _ => none

/-- The bytes of an attribute that is there. -/
def Template.bytes? (type : UInt64) : Option Bytes :=
  (t.findAttr type).map (·.value.data)

/-- The bytes of an attribute that is there and not empty. -/
def Template.nonempty? (type : UInt64) : Option Bytes :=
  (t.bytes? type).filter (·.length != 0)

/-- `fhsm_strip_octet_string_inline`. -/
def stripOctetString (b : Bytes) : Option Bytes :=
  let at' (i : Nat) : Nat := (byteAt b i).toNat
  if 2 < b.length ∧ at' 0 = 4 ∧ at' 1 ≠ 4 ∧ at' 1 + 2 = b.length then some (b.drop 2)
  else if 3 < b.length ∧ at' 0 = 4 ∧ at' 1 = 0x81 ∧ at' 2 + 3 = b.length then some (b.drop 3)
  else if 4 < b.length ∧ at' 0 = 4 ∧ at' 1 = 0x82 ∧ at' 2 * 256 + at' 3 + 4 = b.length then
    some (b.drop 4)
  else none

/-- `parse_verbatim`. -/
def parseVerbatim : Except ParseErr CreatePath :=
  match t.bytes? ckaValue with
  | none => .error .incomplete
  | some v => .ok (.verbatim v)

/-- `parse_pqc_pub`. -/
def parsePqcPub (fam : PqcFamily) (t : Template) : Except ParseErr CreatePath :=
  match t.bytes? ckaValue with
  | none => .error .incomplete
  | some v =>
    if v.length = 0 then .error .valueInvalid
    else .ok (.pqcPub fam (pqcAlgFor fam v.length) v)

/-- `parse_ec_pub`. -/
def parseEcPub : Except ParseErr CreatePath :=
  match t.bytes? ckaEcParams, t.bytes? ckaEcPoint with
  | some der, some point =>
    match matchTable ecCurves der with
    | none => .error .curveNotInTable
    | some curve =>
      match stripOctetString point with
      | none => .error .valueInvalid
      | some point => .ok (.ecPub curve point)
  | _, _ => .error .incomplete

/-- `FHSM_ED25519_PUBKEY_LEN` and `FHSM_ED448_PUBKEY_LEN`. -/
def EdCurve.pubLen : EdCurve → Nat
  | ed25519 => 32
  | ed448 => 57

/-- `parse_ed_pub`. The printable curve names are not accepted here. -/
def parseEdPub : Except ParseErr CreatePath :=
  match t.bytes? ckaEcParams, t.bytes? ckaEcPoint with
  | some der, some raw =>
    match matchTable edCurveOids der with
    | none => .error .valueInvalid
    | some curve =>
      match stripOctetString raw with
      | some point => if point.length ≠ curve.pubLen then .error .valueInvalid else .ok (.edPub curve point)
      | none => if raw.length = curve.pubLen then .ok (.edPub curve raw) else .error .valueInvalid
  | _, _ => .error .incomplete

/-- `parse_rsa_pub`. -/
def parseRsaPub : Except ParseErr CreatePath :=
  match t.bytes? ckaModulus, t.bytes? ckaPublicExponent with
  | some n, some e => .ok (.rsaPub n e)
  | _, _ => .error .incomplete

/-- `parse_rsa_priv`. -/
def parseRsaPriv : Except ParseErr CreatePath :=
  match t.nonempty? ckaModulus, t.nonempty? ckaPublicExponent, t.nonempty? ckaPrivateExponent with
  | some n, some e, some d =>
    .ok (.rsaPriv ⟨n, e, d,
      [ckaPrime1, ckaPrime2, ckaExponent1, ckaExponent2, ckaCoefficient].map t.nonempty?⟩)
  | _, _, _ => .error .incomplete

/-- The path of a key of some class and type. -/
def parseKeyPath (cko ckk : UInt64) (t : Template) : Except ParseErr CreatePath :=
  if cko = ckoPrivateKey.toUInt64 ∧ ckk = ckkEc.toUInt64 ∧ (t.findAttr ckaEcParams).isNone then
    .error .inconsistent
  else if cko = ckoPrivateKey.toUInt64 ∧ ckk = ckkRsa.toUInt64 ∧ (t.findAttr ckaValue).isNone then
    parseRsaPriv t
  else if cko = ckoSecretKey.toUInt64 ∨ cko = ckoPrivateKey.toUInt64 then parseVerbatim t
  else match pqcFamilyOf ckk with
    | some fam => parsePqcPub fam t
    | none =>
      if ckk = ckkEc.toUInt64 then parseEcPub t
      else if ckk = ckkEdwards.toUInt64 then parseEdPub t
      else if ckk = ckkRsa.toUInt64 then parseRsaPub t
      else .error .inconsistent

/-- `fhsm_parse_create_attrs`. -/
def parseCreateAttrs : Except ParseErr CreateAttrs :=
  match t.readUlong ckaClass with
  | none => .error .incomplete
  | some cko =>
    if !([ckoData, ckoPublicKey, ckoPrivateKey, ckoSecretKey, ckoCertificate].map
        (·.toUInt64)).contains cko then .error .inconsistent
    else if cko = ckoData.toUInt64 then .ok ⟨cko, 0, .verbatim ((t.bytes? ckaValue).getD [])⟩
    else if cko = ckoCertificate.toUInt64 then
      match t.readUlong ckaCertificateType with
      | none => .error .incomplete
      | some type =>
        if type ≠ 0 then .error .inconsistent
        else match t.nonempty? ckaValue with
          | none => .error .incomplete
          | some v => .ok ⟨cko, 0, .certX509 v⟩
    else match t.readUlong ckaKeyType with
      | none => .error .incomplete
      | some ckk => do return ⟨cko, ckk, ← parseKeyPath cko ckk t⟩

/-! ## Flags of the new object -/

/-- `FHSM_MAX_TEMPLATE_ATTRS` bounds the entries that `fhsm_parse_unwrap_template` looks at: a
template that asks for `CKA_SENSITIVE` marks the unwrapping key. -/
def unwrapTemplateFlags : UInt8 :=
  match t.findAttr ckaUnwrapTemplate with
  | none => 0
  | some a =>
    let count := a.value.len / ckAttributeSize
    if a.value.isNull ∨ a.value.len % ckAttributeSize ≠ 0 ∨ maxTemplateAttrs < count then 0
    else if (a.nested.take count).any fun e =>
        e.type == ckaSensitive && (match e.value with | .bytes [v] => v != 0 | _ => false) then
      objfUnwrapSens
    else 0

/-- A flag that a template turns on. -/
def flagIf (attr : UInt64) (bit : UInt8) : UInt8 := if t.bbool attr false then bit else 0

/-- `trusted_flag` of `C_CreateObject`. -/
def trustedFlag : UInt8 := flagIf t ckaTrusted objfTrusted ||| unwrapTemplateFlags t

/-- The flags of an object stored as it comes. -/
def verbatimFlags (cko : UInt64) (t : Template) : UInt8 :=
  (if cko = ckoPrivateKey.toUInt64 then objfSensitive else 0) |||
  (if cko = ckoSecretKey.toUInt64 then flagIf t ckaSensitive objfSensitive else 0) |||
  (if cko = ckoSecretKey.toUInt64 ∨ cko = ckoPrivateKey.toUInt64 then
    flagIf t ckaExtractable objfExtractable else 0) |||
  trustedFlag t |||
  (if cko = ckoPrivateKey.toUInt64 then flagIf t ckaAlwaysAuth objfAlwaysAuth else 0)

/-- The flags of a key that OpenSSL built. -/
def builtFlags (isPriv : Bool) (t : Template) : UInt8 :=
  trustedFlag t |||
    (if isPriv then
      objfSensitive ||| flagIf t ckaAlwaysAuth objfAlwaysAuth ||| flagIf t ckaExtractable objfExtractable
    else 0)

section

variable {P : Provider} (L : KeyLib P)

/-! ## The stored encoding -/

/-- A private key that came raw, as it is stored. -/
def KeyLib.encodePrivate (pk : Option P.Pkey) : Except Err Bytes :=
  match pk with
  | none => .error .attributeValueInvalid
  | some pk =>
    match L.i2dPriv pk with
    | none => .error .functionFailed
    | some der => .ok der

variable (t : Template)

/-- The DER curve of a template. -/
def Template.curveDer : Except Err Bytes :=
  match t.findAttr ckaEcParams with
  | some ⟨_, .bytes der, _⟩ => .ok der
  | _ => .error .templateIncomplete

/-- The bytes stored for a private key with `CKA_VALUE`. -/
def KeyLib.storePrivate (ckk : UInt64) (t : Template) (v : Bytes) : Except Err Bytes :=
  if ckk = ckkEc.toUInt64 then do
    let der ← t.curveDer
    match L.matchCurve der with
    | none => .error (L.curveRefusal der)
    | some curve => L.encodePrivate (L.ecPrivate curve v)
  else match pqcFamilyOf ckk with
    | some fam =>
      match psetRead t fam 64, pqcAlgFromPrivLen fam v.length with
      | .bad, _ => .error .templateInconsistent
      | .absent, none => .error .attributeValueInvalid
      | .absent, some ps => L.encodePrivate (L.rawPrivate (.pqc ps) v)
      | .set ps, none => L.encodePrivate (L.rawPrivate (.pqc ps) v)
      | .set ps, some ps' =>
        if ps ≠ ps' then .error .templateInconsistent
        else L.encodePrivate (L.rawPrivate (.pqc ps) v)
    | none =>
      if ckk = ckkEdwards.toUInt64 then do
        let der ← t.curveDer
        match matchTable edCurves der with
        | none => .error (L.curveRefusal der)
        | some curve => L.encodePrivate (L.rawPrivate (.ed curve) v)
      else if ckk = ckkMontgomery.toUInt64 then do
        let der ← t.curveDer
        match matchTable ecmCurves der with
        | none => .error (L.curveRefusal der)
        | some curve =>
          if !L.ecmAvailable then .error .curveNotSupported
          else L.encodePrivate (L.rawPrivate (.ecm curve) v)
      else .ok v

/-- A public key that has to be on its curve. -/
def KeyLib.checkedPublic (pk : Option P.Pkey) : Except Err P.Pkey :=
  match pk with
  | none => .error .attributeValueInvalid
  | some pk => if L.publicCheck pk then .ok pk else .error .attributeValueInvalid

/-- The post-quantum public key of a template: raw by its length or its name, or DER. Its
parameter set has to be named and to be the key's. -/
def KeyLib.pqcPublic (fam : PqcFamily) (byLength : Option ParamSet) (v : Bytes) :
    Except Err P.Pkey :=
  let pr := psetRead t fam 64
  let pk := match byLength with
    | some ps => L.rawPublic (.pqc ps) v
    | none =>
      let raw := match fam, pr with
        | .slhDsa, .set ps => L.rawPublic (.pqc ps) v
        | _, _ => none
      match raw with
      | some pk => some pk
      | none => P.d2iPub L.seed v
  match pk with
  | none => .error .attributeValueInvalid
  | some pk =>
    match pr with
    | .set ps => if L.isA pk ps then .ok pk else .error .templateInconsistent
    | _ => .error .templateInconsistent

/-- The encoding of a key that OpenSSL builds. -/
def KeyLib.buildKey : CreatePath → Except Err Bytes
  | .pqcPub fam byLength v => do
    let pk ← L.pqcPublic t fam byLength v
    (L.i2dPub pk).elim (.error .functionFailed) .ok
  | .ecPub curve point => do
    let pk ← L.checkedPublic (L.ecPublic curve point)
    (L.i2dPub pk).elim (.error .functionFailed) .ok
  | .edPub curve point => do
    let pk ← L.checkedPublic (L.edPublic curve point)
    (L.i2dPub pk).elim (.error .functionFailed) .ok
  | .rsaPub n e => do
    let pk ← L.rsaPublic n e
    (L.i2dPub pk).elim (.error .functionFailed) .ok
  | .rsaPriv c => do
    let pk ← L.rsaPrivate c
    (L.i2dPriv pk).elim (.error .functionFailed) .ok
  | .verbatim _ | .certX509 _ => .error .templateInconsistent

/-! ## The function -/

/-- The checks of `C_CreateObject` before the template is parsed. -/
def createGate (c : Caller) (arg : TemplateArg) : Except Err Template :=
  if L.errorState then .error .functionFailed
  else match arg with
    | .null _ | .list [] => .error .argumentsBad
    | _ => do
      let t ← checkTemplate arg
      checkRoToken (some c.flags) t
      checkPrivateLogin c.role t
      checkTrustedAttr c.role t
      checkBoolAttrLengths t
      checkUlongAttrLengths t
      return t

/-- The error of a template that cannot be parsed. -/
def KeyLib.parseErr : ParseErr → Err
  | .incomplete => .templateIncomplete
  | .inconsistent => .templateInconsistent
  | .valueInvalid => .attributeValueInvalid
  | .curveNotInTable =>
    match t.findAttr ckaEcParams with
    | none => .templateIncomplete
    | some a => L.curveRefusal a.value.data

/-- What is given to `fhsm_token_object_add`, and the end of the path. -/
def createArgs (a : CreateAttrs) : Except Err (AddArgs × Tail) :=
  let usage := computeUsage a.cko.toUInt32 t
  match a.path with
  | .verbatim v => do
    let stored ← if a.cko = ckoPrivateKey.toUInt64 ∧ v.length ≠ 0 then L.storePrivate a.ckk t v
      else .ok v
    return (⟨a.cko.toUInt32, a.ckk.toUInt32, t.labelText, stored, t.templateId,
        verbatimFlags a.cko t⟩,
      { history := keyFromOutside, encap := some a.cko.toUInt32, edName := some t, usage := usage })
  | .certX509 v =>
    return (⟨ckoCertificate, 0, t.labelText, v, t.templateId, objfExtractable ||| trustedFlag t⟩,
      { encap := some a.cko.toUInt32, usage := usage })
  | path => do
    let enc ← L.buildKey t path
    let isPriv := match path with | .rsaPriv _ => true | _ => false
    return (⟨a.cko.toUInt32, a.ckk.toUInt32, t.labelText, enc, t.templateId, builtFlags isPriv t⟩,
      { history := keyFromOutside, edName := some t, usage := usage })

/-- `C_CreateObject` up to the new object. -/
def createPlan (c : Caller) (arg : TemplateArg) : Except Err (Template × AddArgs × Tail) := do
  let t ← createGate L c arg
  let a ← (parseCreateAttrs t).mapError (L.parseErr t)
  if (a.cko = ckoPublicKey.toUInt64 ∨ a.cko = ckoPrivateKey.toUInt64)
      ∧ (pqcFamilyOf a.ckk).isSome ∧ (t.findAttr ckaParameterSet).isNone then
    .error .templateIncomplete
  else do
    let (args, tail) ← createArgs L t a
    return (t, args, tail)

/-- `C_CreateObject` on an open session. -/
def createObject (C : Crypto) (env : Envs) (c : Caller) (arg : TemplateArg) : TokenM UInt32 := do
  let (t, args, tail) ← check (createPlan L c arg)
  createWith C env c t args tail

end

end FreeHsm
