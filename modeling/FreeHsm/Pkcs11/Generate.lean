import FreeHsm.Pkcs11.Import

/-!
# C_GenerateKey and C_GenerateKeyPair

A key is generated by the random generator or from a password, a key pair by OpenSSL
and checked against itself. A failed check of a pair puts the module into its error
state (`PairFail.latched`).

The two objects of a pair are made side by side: the steps on one come between the
steps on the other, and a failure destroys both.
-/

namespace FreeHsm

open TokenM StateExcept

/-! ## C_GenerateKey -/

/-- `CK_PKCS5_PBKD2_PARAMS2`. -/
structure Pbkd2Params where
  saltSource : UInt64
  salt : Buf
  iterations : UInt64
  prf : UInt64
  prfData : Buf
  password : Buf

/-- The hash of a pseudorandom function number of PKCS #5. -/
def pbkd2Hash (prf : UInt64) : Option MdAlg :=
  if prf = 1 then some .sha1
  else if prf = 3 then some .sha224
  else if prf = 4 then some .sha256
  else if prf = 5 then some .sha384
  else if prf = 6 then some .sha512
  else if prf = 7 then some .sha512x224
  else if prf = 8 then some .sha512x256
  else none

/-- A length and a pointer that fit together. -/
def Buf.usable (b : Buf) : Bool := b.len ≤ 0x7FFFFFFF && !b.dangling

/-- `FHSM_PBKDF2_MAX_OUT`. -/
def pbkdf2MaxOut : Nat := 256

section

variable {P : Provider} (L : KeyLib P)

/-- `pbkd2_material`. -/
def pbkd2Material (param : Option Pbkd2Params) (n : Nat) : Except Err Bytes :=
  match param with
  | none => .error .mechanismParamInvalid
  | some p =>
    if p.saltSource ≠ 1 ∨ !(p.salt.usable && p.password.usable && p.prfData.usable) then
      .error .mechanismParamInvalid
    else match pbkd2Hash p.prf with
      | none => .error .mechanismParamInvalid
      | some md =>
        match L.pbkdf2 md p.password.data p.salt.data p.iterations.toUInt32 n with
        | .ok key => .ok key.toList
        | .error .fipsNotApproved => .error .mechanismParamInvalid
        | .error e => .error e

/-- `CKA_VALUE_LEN` of a template that has to have it. -/
def requiredLen (t : Template) (missing : Err) : Except Err Nat :=
  match t.ulong? ckaValueLen with
  | none => .error missing
  | some len => .ok len.toNat

variable (C : Crypto) (env : Envs) (c : Caller) (mech : UInt64)

/-- The type and the length of a key that `C_GenerateKey` makes. -/
def generateKeySpec (t : Template) : Except Err (UInt32 × Nat) :=
  if mech = 0x3B0 then do
    let len ← requiredLen t .templateIncomplete
    if len = 0 ∨ pbkdf2MaxOut < len then .error .keySizeRange
    else return ((t.ulong? ckaKeyType).elim ckkGenericSecret (·.toUInt32), len)
  else if mech = 0x131 then
    if L.strict then .error .mechanismInvalid
    else if (t.findAttr ckaValueLen).isNone then .ok (ckkDes3, 24)
    else do
      let len ← requiredLen t .attributeValueInvalid
      if len ≠ 24 then .error .templateInconsistent else return (ckkDes3, 24)
  else if mech = 0x1080 then do
    let len ← requiredLen t .attributeValueInvalid
    if len ≠ 16 ∧ len ≠ 24 ∧ len ≠ 32 then .error .keySizeRange else return (ckkAes, len)
  else if mech = 0x350 then do
    let len ← requiredLen t .attributeValueInvalid
    if len < 1 ∨ 64 < len then .error .keySizeRange else return (ckkGenericSecret, len)
  else if mech = 0x402C then do
    let len ← requiredLen t .attributeValueInvalid
    if len = 0 ∨ pbkdf2MaxOut < len then .error .keySizeRange else return (ckkHkdf, len)
  else .error .mechanismInvalid

/-- The flags of a generated key: sensitive unless the template says otherwise. -/
def generateFlags (t : Template) : UInt8 :=
  (if t.bbool ckaSensitive true then objfSensitive else 0) ||| objfLocal |||
    unwrapTemplateFlags t ||| flagIf t ckaExtractable objfExtractable

/-- The checks that the creation functions with a mechanism make of a template. -/
def checkCreationTemplate (arg : TemplateArg) : Except Err Template := do
  let t ← checkTemplate arg
  checkTrustedAttr c.role t
  checkBoolAttrLengths t
  checkUlongAttrLengths t
  return t

/-- `C_GenerateKey` up to the new object. -/
def generateKeyPlan (param : Option Pbkd2Params) (arg : TemplateArg) :
    Except Err (Template × AddArgs × Tail) :=
  if L.errorState then .error .functionFailed
  else do
    let t ← checkCreationTemplate c arg
    checkRoToken (some c.flags) t
    if c.role = .none then .error .userNotLoggedIn
    else if (t.findAttr ckaEncapsulate).isSome ∨ (t.findAttr ckaDecapsulate).isSome then
      .error .attributeTypeInvalid
    else do
      let (keyType, len) ← generateKeySpec L mech t
      let key ← if mech = 0x3B0 then pbkd2Material L param len
        else (L.rngBytes len).map (·.toList)
      return (t, ⟨ckoSecretKey, keyType, t.labelText, key, t.templateId, generateFlags t⟩,
        { usage := computeUsage ckoSecretKey t })

/-- `C_GenerateKey` on an open session. -/
def generateKey (param : Option Pbkd2Params) (arg : TemplateArg) : TokenM UInt32 := do
  let (t, args, tail) ← check (generateKeyPlan L c mech param arg)
  createWith C env c t args tail

/-! ## The material of a key pair -/

def ckmRsaKeyPairGen : UInt64 := 0x0
def ckmMlKemKeyPairGen : UInt64 := 0xF
def ckmMlDsaKeyPairGen : UInt64 := 0x1C
def ckmSlhDsaKeyPairGen : UInt64 := 0x2D
def ckmEcKeyPairGen : UInt64 := 0x1040
def ckmEdKeyPairGen : UInt64 := 0x1055
def ckmEcmKeyPairGen : UInt64 := 0x1056

/-- The family of a key pair mechanism, with the set taken when the template names none. -/
def pqcPairFamily : Option (PqcFamily × ParamSet) :=
  if mech = ckmMlKemKeyPairGen then some (.mlKem, .mlKem768)
  else if mech = ckmMlDsaKeyPairGen then some (.mlDsa, .mlDsa65)
  else if mech = ckmSlhDsaKeyPairGen then some (.slhDsa, .slhSha2x128s)
  else none

/-- A number in big-endian bytes. -/
def beNat (b : Bytes) : Nat := b.foldl (fun n x => n * 256 + x.toNat) 0

/-- The modulus length of an RSA key pair, after the exponent has been looked at. -/
def rsaPairBits (pub : Template) : Except Err Nat :=
  let bits := ((pub.ulong? ckaModulusBits).getD 2048).toNat
  if bits ≠ 2048 ∧ bits ≠ 3072 ∧ bits ≠ 4096 ∧ ¬(bits = 1024 ∧ !(L.strict || L.fipsMode)) then
    .error .keySizeRange
  else match pub.nonempty? ckaPublicExponent with
    | none => .ok bits
    | some e =>
      if !P.alloc L.seed e.length then .error .hostMemory
      else if beNat e % 2 = 0 ∨ beNat e ≤ 1 then .error .attributeValueInvalid
      else .ok bits

/-- The curve of a key pair: the default, or what the template names. -/
def pairCurve {α : Type} (pub : Template) (dflt : α) (find : Bytes → Option α) (e : Bytes → Err) :
    Except Err α :=
  match pub.findAttr ckaEcParams with
  | some ⟨_, .bytes der, _⟩ =>
    match find der with
    | none => .error (e der)
    | some curve => .ok curve
  | _ => .ok dflt

/-- The key type of a mechanism and what OpenSSL is asked for. -/
def pairAlg (pub : Template) : Except Err (UInt32 × PairAlg) :=
  if mech = ckmRsaKeyPairGen then do return (ckkRsa, .rsa (← rsaPairBits L pub))
  else if mech = ckmEcKeyPairGen then do
    return (ckkEc, .ec (← pairCurve pub .p256 L.matchCurve L.curveRefusal))
  else if mech = ckmEdKeyPairGen then do
    return (ckkEdwards, .raw (.ed (← pairCurve pub .ed25519 (matchTable edCurves)
      fun _ => .attributeValueInvalid)))
  else if mech = ckmEcmKeyPairGen then
    if L.strict ∨ !L.ecmAvailable then .error .mechanismInvalid
    else do
      return (ckkMontgomery, .raw (.ecm (← pairCurve pub .x25519 (matchTable ecmCurves)
        fun _ => .attributeValueInvalid)))
  else match pqcPairFamily mech with
    | none => .error .mechanismInvalid
    | some (fam, dflt) =>
      match psetRead pub fam 32 with
      | .bad => .error .attributeValueInvalid
      | .absent => .ok (fam.keyType, .raw (.pqc dflt))
      | .set ps => .ok (fam.keyType, .raw (.pqc ps))

/-- Why there is no key pair. -/
inductive PairFail
  | refused (e : Err)
  /-- The pair does not fit together, and the module is now in its error state. -/
  | latched
  deriving DecidableEq, Repr

structure KeyPair where
  keyType : UInt32
  pub : Bytes
  priv : Bytes
  deriving DecidableEq, Repr

/-- An encoding that `C_GenerateKeyPair` takes. -/
def pairDer (der : Option Bytes) : Except PairFail Bytes :=
  match der.filter (·.length ≤ 5500) with
  | none => .error (.refused .functionFailed)
  | some der => .ok der

/-- The encodings of a new key pair. -/
def pairMaterial (pub : Template) : Except PairFail KeyPair :=
  if mech = ckmCompositeMldsa65Ed25519 then
    if L.strict then .error (.refused .mechanismInvalid)
    else do
      let (priv, pub) ← L.compositeKeygen.mapError .refused
      if !(P.alloc L.seed pub.length && P.alloc L.seed priv.length) then
        .error (.refused .hostMemory)
      else return ⟨ckkCompositeMldsa65Ed25519, pub, priv⟩
  else do
    let (keyType, alg) ← (pairAlg L mech pub).mapError .refused
    match L.keygen alg with
    | none => .error (.refused .functionFailed)
    | some pk =>
      if !L.pairwise pk then .error .latched
      else do
        let pub ← pairDer (L.i2dPub pk)
        let priv ← pairDer (L.i2dPriv pk)
        return ⟨keyType, pub, priv⟩

/-! ## C_GenerateKeyPair -/

/-- The checks of `C_GenerateKeyPair` before the mechanism. -/
def generatePairGate (pubArg privArg : TemplateArg) : Except Err (Template × Template) :=
  if L.errorState then .error .functionFailed
  else do
    let pub ← checkTemplate pubArg
    checkTrustedAttr c.role pub
    let priv ← checkTemplate privArg
    checkTrustedAttr c.role priv
    checkBoolAttrLengths pub
    checkBoolAttrLengths priv
    checkUlongAttrLengths pub
    checkUlongAttrLengths priv
    checkRoToken (some c.flags) pub
    checkRoToken (some c.flags) priv
    if (pqcPairFamily mech).any fun (fam, _) =>
        psetRead pub fam 32 == .bad || psetRead priv fam 32 == .bad then
      .error .attributeValueInvalid
    else if c.role = .none then .error .userNotLoggedIn
    else return (pub, priv)

/-- The public key as it is added. -/
def pairPubArgs (pub : Template) (pair : KeyPair) : AddArgs :=
  ⟨ckoPublicKey, pair.keyType, pub.labelText, pair.pub, pub.templateId, objfLocal⟩

/-- The private key as it is added. -/
def pairPrivArgs (priv : Template) (pair : KeyPair) : AddArgs :=
  ⟨ckoPrivateKey, pair.keyType, priv.labelText, pair.priv, priv.templateId,
    objfSensitive ||| objfLocal ||| flagIf priv ckaAlwaysAuth objfAlwaysAuth |||
      unwrapTemplateFlags priv ||| flagIf priv ckaExtractable objfExtractable⟩

/-- The usage of a new private key: only the two elliptic curve types derive. -/
def pairPrivUsage (priv : Template) (keyType : UInt32) : UInt8 :=
  if keyType = ckkEc ∨ keyType = ckkMontgomery then computeUsage ckoPrivateKey priv
  else computeUsage ckoPrivateKey priv &&& ~~~usageDerive

/-- A failure destroys the public and then the private key; two token calls. -/
def orDestroyPair (hp hk : UInt32) (x : TokenM Unit) : TokenM Unit :=
  orDestroy C (env 1) hk (orDestroy C (env 0) hp x)

/-- The objects of a key pair. -/
def storePair (pub priv : Template) (pair : KeyPair) : TokenM (UInt32 × UInt32) := do
  let hp ← add C (env 0) (pairPubArgs pub pair)
  applyPolicy C (env.after 1) pub hp
  let hk ← tryCatch (add C (env 9) (pairPrivArgs priv pair)) fun e => do
    ignored (object C (env 10) (.destroy hp))
    throw e
  orDestroy C (env 19) hp (applyPolicy C (env.after 11) priv hk)
  orDestroyPair C (env.after 21) hp hk (applyEncapFlags C (env.after 20) pub hp ckoPublicKey)
  orDestroyPair C (env.after 24) hp hk (applyEncapFlags C (env.after 23) priv hk ckoPrivateKey)
  -- the name of the curve is the public template's for both
  orDestroyPair C (env.after 28) hp hk (do
    applyEdCurveName C (env.after 26) pub hp
    applyEdCurveName C (env.after 27) pub hk)
  applyTokenScope C (env.after 30) c pub hp
  orDestroyPair C (env.after 34) hp hk (applyObjMeta C (env.after 33) pub hp)
  applyUsage C (env.after 36) (computeUsage ckoPublicKey pub) hp
  applyTokenScope C (env.after 37) c priv hk
  orDestroyPair C (env.after 41) hp hk (applyObjMeta C (env.after 40) priv hk)
  applyUsage C (env.after 43) (pairPrivUsage priv pair.keyType) hk
  return (hp, hk)

/-- The error a caller sees. -/
def PairFail.toErr : PairFail → Err
  | refused e => e
  | latched => .functionFailed

/-- `C_GenerateKeyPair` on an open session. -/
def generateKeyPair (pubArg privArg : TemplateArg) : TokenM (UInt32 × UInt32) := do
  let (pub, priv) ← check (generatePairGate L c mech pubArg privArg)
  let pair ← check ((pairMaterial L mech pub).mapError PairFail.toErr)
  storePair C env c pub priv pair

end

end FreeHsm
