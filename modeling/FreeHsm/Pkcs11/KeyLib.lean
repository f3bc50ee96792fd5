import FreeHsm.Pkcs11.HashContext
import FreeHsm.Pkcs11.KeyNames

/-!
# The library behind the creation functions

Generating, importing, deriving, wrapping and encapsulating keys is done by OpenSSL.
`KeyLib` has what one call sees of it: for every step the result, or that it failed.
`KeyLib.plain` is a library in which nothing fails.
-/

namespace FreeHsm

/-- What the creation functions meet beside the token. -/
structure KeyEnv (P : Provider) where
  /-- `fhsm_state_get() == FHSM_STATE_ERROR`. -/
  errorState : Bool
  /-- `fhsm_build_fips_strict`. -/
  strict : Bool
  /-- `fhsm_mode_is_fips()`. -/
  fipsMode : Bool
  seed : P.Seed

/-- An algorithm whose raw keys OpenSSL reads. -/
inductive RawAlg
  | pqc (ps : ParamSet)
  | ed (curve : EdCurve)
  | ecm (curve : EcmCurve)
  deriving DecidableEq, Repr

/-- What `EVP_PKEY_Q_keygen` is asked for. -/
inductive PairAlg
  | rsa (bits : Nat)
  | ec (curve : EcCurve)
  | raw (alg : RawAlg)
  deriving DecidableEq, Repr

inductive HkdfMode
  | extractAndExpand
  | extractOnly
  | expandOnly
  deriving DecidableEq, Repr

/-- The components of an RSA private key; those of the Chinese remainder form may be missing. -/
structure RsaComponents where
  n : Bytes
  e : Bytes
  d : Bytes
  crt : List (Option Bytes)
  deriving DecidableEq, Repr

/-- How a key is wrapped. -/
inductive WrapAlg
  /-- AES key wrap, without or with padding, and the caller's initial value. -/
  | aesKw (pad : Bool) (iv : Option Bytes)
  | rsaOaep (param : Bytes)
  | rsaV15 (raw : Bool)
  | aesCbc (pad : Bool) (iv : Bytes)
  deriving DecidableEq, Repr

/-- The library as one call of a creation function meets it. -/
structure KeyLib (P : Provider) extends KeyEnv P where
  /-- `fhsm_ecm_available`. -/
  ecmAvailable : Bool
  /-- The curve that OpenSSL knows by a DER identifier, in the range that is served. -/
  otherCurve : Bytes → Option Nat
  /-- Whether `fhsm_ec_curve_refusal` finds a curve. -/
  isCurve : Bytes → Bool
  rawPrivate : RawAlg → Bytes → Option P.Pkey
  rawPublic : RawAlg → Bytes → Option P.Pkey
  /-- `fhsm_ec_priv_from_scalar`. -/
  ecPrivate : EcCurve → Bytes → Option P.Pkey
  ecPublic : EcCurve → Bytes → Option P.Pkey
  edPublic : EdCurve → Bytes → Option P.Pkey
  /-- `EVP_PKEY_public_check`. -/
  publicCheck : P.Pkey → Bool
  rsaPublic : Bytes → Bytes → Except Err P.Pkey
  rsaPrivate : RsaComponents → Except Err P.Pkey
  /-- `EVP_PKEY_is_a` with the name of a parameter set. -/
  isA : P.Pkey → ParamSet → Bool
  i2dPub : P.Pkey → Option Bytes
  i2dPriv : P.Pkey → Option Bytes
  keygen : PairAlg → Option P.Pkey
  /-- `fhsm_composite_keygen`: private and public key. -/
  compositeKeygen : Except Err (Bytes × Bytes)
  /-- `fhsm_pairwise_check`. -/
  pairwise : P.Pkey → Bool
  /-- `fhsm_rng_bytes`. -/
  rngBytes : (n : Nat) → Except Err (Vector UInt8 n)
  pbkdf2 : MdAlg → Bytes → Bytes → UInt32 → (n : Nat) → Except Err (Vector UInt8 n)
  hkdf : HkdfMode → MdAlg → Bytes → Bytes → Bytes → (n : Nat) → Except Err (Vector UInt8 n)
  /-- ECDH with a private key and the peer's data; the flag is for Montgomery curves. -/
  ecdh : Bool → Bytes → Bytes → Except Err Bytes
  /-- `d2i_PKCS8_PRIV_KEY_INFO` of all bytes and `EVP_PKCS82PKEY`. -/
  pkcs8Key : Bytes → Option P.Pkey
  /-- `pkey_is_ckk`. -/
  isCkk : P.Pkey → UInt32 → Bool
  unwrap : WrapAlg → Bytes → Bytes → Except Err Bytes
  /-- The lengths of ciphertext and secret under an encapsulation key. -/
  kemLens : Bytes → Except Err (Nat × Nat)
  encapsulate : Bytes → Except Err (Bytes × Bytes)
  /-- The ciphertext length of a decapsulation key, if it is one of the three sets. -/
  kemCiphertextLen : Bytes → Except Err (Option Nat)
  decapsulate : Bytes → Bytes → Except Err Bytes
  /-- The secure heap has room for a buffer. -/
  secureAlloc : Nat → Bool

/-- A library in which nothing fails and every key is its own encoding. -/
def KeyLib.plain : KeyLib .hashing where
  errorState := false
  strict := true
  fipsMode := true
  seed := ()
  ecmAvailable := true
  otherCurve _ := none
  isCurve _ := false
  rawPrivate _ b := some b
  rawPublic _ b := some b
  ecPrivate _ b := some b
  ecPublic _ b := some b
  edPublic _ b := some b
  publicCheck _ := true
  rsaPublic n e := .ok (n ++ e)
  rsaPrivate c := .ok c.d
  isA _ _ := true
  i2dPub b := some b
  i2dPriv b := some b
  keygen _ := some [1]
  compositeKeygen := .ok ([1], [2])
  pairwise _ := true
  rngBytes n := .ok (Vector.replicate n 7)
  pbkdf2 _ _ _ _ n := .ok (Vector.replicate n 8)
  hkdf _ _ _ _ _ n := .ok (Vector.replicate n 9)
  ecdh _ _ _ := .ok [1]
  pkcs8Key b := some b
  isCkk _ _ := true
  unwrap _ _ b := .ok b
  kemLens _ := .ok (1, 32)
  encapsulate _ := .ok ([1], List.replicate 32 5)
  kemCiphertextLen _ := .ok none
  decapsulate _ _ := .ok (List.replicate 32 5)
  secureAlloc _ := true

/-- `match_curve`. -/
def KeyLib.matchCurve {P : Provider} (L : KeyLib P) (der : Bytes) : Option EcCurve :=
  match matchTable ecCurves der with
  | some curve => some curve
  | none =>
    if der.length = 0 ∨ 64 < der.length ∨ L.strict then none else (L.otherCurve der).map .other

/-- `fhsm_ec_curve_refusal`. -/
def KeyLib.curveRefusal {P : Provider} (L : KeyLib P) (der : Bytes) : Err :=
  if der.length = 0 ∨ 64 < der.length then .attributeValueInvalid
  else if L.isCurve der then .curveNotSupported
  else .attributeValueInvalid

end FreeHsm
