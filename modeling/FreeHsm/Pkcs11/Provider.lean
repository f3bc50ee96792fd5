import FreeHsm.Common

/-!
# The cryptographic library

What the operation functions of `fhsm_pkcs11.c` call in OpenSSL, as a parameter.
A context (`EVP_CIPHER_CTX`, `EVP_MD_CTX`, `EVP_MAC_CTX`) is a value of an
arbitrary type, so a call that goes on with a context depends on everything that
was put into it.

Each call takes a `Seed`: which allocations and fetches succeed and which random
bytes are drawn. Nothing is assumed about any of the functions.
-/

namespace FreeHsm

/-- The digests named by `fhsm_hash_t` and by the pre-hash table. -/
inductive MdAlg
  | md5 | sha1 | sha224 | sha256 | sha384 | sha512 | sha512x224 | sha512x256
  | sha3x224 | sha3x256 | sha3x384 | sha3x512 | shake128 | shake256
  deriving DecidableEq, Repr

/-- `fhsm_hash_size`; the two extendable functions are not among its arguments. -/
def MdAlg.size : MdAlg → Nat
  | .md5 => 16
  | .sha1 => 20
  | .sha224 | .sha512x224 | .sha3x224 => 28
  | .sha256 | .sha512x256 | .sha3x256 => 32
  | .sha384 | .sha3x384 => 48
  | .sha512 | .sha3x512 => 64
  | .shake128 | .shake256 => 0

/-- `EVP_MD_FLAG_XOF`. -/
def MdAlg.isXof : MdAlg → Bool
  | .shake128 | .shake256 => true
  | _ => false

inductive CipherMode
  | ecb | cbc | ctr | gcm | ccm | wrap | wrapPad | des3Cbc
  deriving DecidableEq, Repr

/-- The name given to `EVP_CIPHER_fetch`. -/
structure CipherAlg where
  mode : CipherMode
  bits : Nat
  deriving DecidableEq, Repr

inductive MacKind
  | hmac | cmac | gmac
  deriving DecidableEq, Repr

/-- What may be fetched. -/
inductive AlgName
  | md (m : MdAlg)
  | cipher (c : CipherAlg)
  | mac (k : MacKind)
  deriving DecidableEq, Repr

/-- Everything given to a cipher context before its first data. -/
structure CipherSpec where
  enc : Bool
  alg : CipherAlg
  key : Bytes
  iv : Option Bytes := none
  padding : Bool := false
  aad : Bytes := []
  /-- CCM only: the tag length, the data length and, to decrypt, the tag. -/
  ccm : Option (Nat × Nat × Bytes) := none
  deriving DecidableEq, Repr

/-- Everything given to a MAC context before its first data. -/
inductive MacSpec
  | hmac (md : MdAlg)
  | cmac (keyLen : Nat)
  | gmac (keyLen : Nat) (iv : Bytes)
  | cmacDes3
  deriving DecidableEq, Repr

def MacSpec.kind : MacSpec → MacKind
  | .hmac _ => .hmac
  | .cmac _ | .cmacDes3 => .cmac
  | .gmac .. => .gmac

inductive RsaPadding
  | pkcs1
  | none
  | oaep (hash mgf : MdAlg) (label : Option Bytes)
  deriving DecidableEq, Repr

inductive SigPadding
  | default
  | raw
  | pss (saltLen : Option UInt64) (mgf : Option MdAlg)
  deriving DecidableEq, Repr

/-- Everything given to a signature context before its data. -/
structure SigSpec where
  md : Option MdAlg := none
  padding : SigPadding := .default
  context : Option Bytes := none
  deterministic : Bool := false
  /-- The message is already encoded (`OSSL_SIGNATURE_PARAM_MESSAGE_ENCODING` 0). -/
  encoded : Bool := false
  deriving DecidableEq, Repr

inductive PkeyKind
  | rsa | ec | ed25519 | ed448 | other
  deriving DecidableEq, Repr

/-- The result of `EVP_DigestVerify` and `EVP_PKEY_verify`. -/
inductive Verdict
  | good
  | bad
  | error
  deriving DecidableEq, Repr

/-- The functions of OpenSSL and the stateless wrappers around it. -/
structure Provider where
  Seed : Type
  Cipher : Type
  Md : Type
  Mac : Type
  Pkey : Type
  /-- Allocation of a buffer of a size. -/
  alloc : Seed → Nat → Bool
  fetch : Seed → AlgName → Bool
  /-- `EVP_*_CTX_new`. -/
  ctxNew : Seed → Bool
  rng : Seed → Nat → Bytes
  mdInit : Seed → MdAlg → Option Md
  /-- The context that a failed update leaves is also given. -/
  mdUpdate : Seed → Md → Bytes → Bool × Md
  mdFinal : Seed → Md → Option Bytes
  mdFinalXof : Seed → Md → Nat → Option Bytes
  macInit : Seed → MacSpec → Bytes → Option Mac
  macUpdate : Seed → Mac → Bytes → Bool × Mac
  macFinal : Seed → Mac → Option Bytes
  cipherInit : Seed → CipherSpec → Option Cipher
  cipherUpdate : Seed → Cipher → Bytes → Option Bytes × Cipher
  cipherFinal : Seed → Cipher → Option Bytes × Cipher
  cipherTag : Seed → Cipher → Nat → Option Bytes
  cipherSetTag : Seed → Cipher → Bytes → Option Cipher
  cipherCopy : Seed → Cipher → Bool
  d2iPub : Seed → Bytes → Option Pkey
  d2iPriv : Seed → Bytes → Option Pkey
  /-- `EVP_PKEY_fromdata` of a raw ML-DSA public key. -/
  rawMldsaPub : Seed → Bytes → Option Pkey
  pkeyKind : Pkey → PkeyKind
  /-- `EVP_PKEY_get_size`, zero on failure. -/
  pkeySize : Pkey → Nat
  /-- `EVP_PKEY_get_bits`, zero on failure. -/
  pkeyBits : Pkey → Nat
  rsaInit : Seed → Bool → Pkey → RsaPadding → Bool
  /-- The digest size of an OAEP context, zero on failure. -/
  oaepMdSize : Seed → Pkey → MdAlg → Nat
  rsaLen : Seed → Bool → Pkey → RsaPadding → Bytes → Option Nat
  rsaCrypt : Seed → Bool → Pkey → RsaPadding → Bytes → Option Bytes
  signInit : Seed → Pkey → SigSpec → Bool
  sign : Seed → Pkey → SigSpec → Bytes → Nat → Option Bytes
  verifyInit : Seed → Pkey → SigSpec → Bool
  /-- Setting the parameters of a signature context that is already initialised. -/
  setParams : Seed → Pkey → SigSpec → Bool
  verify : Seed → Pkey → SigSpec → Bytes → Bytes → Verdict
  /-- `fhsm_ecdsa_der_to_raw`. -/
  ecdsaDerToRaw : Seed → Bytes → Nat → Option Bytes
  /-- `fhsm_ecdsa_raw_to_der`. -/
  ecdsaRawToDer : Seed → Bytes → Nat → Option Bytes
  /-- `fhsm_composite_sign` on the message, or on its pre-hash. -/
  compositeSign : Seed → Bool → Bytes → Bytes → Except Err Bytes
  compositeVerify : Seed → Bool → Bytes → Bytes → Bytes → Except Err Unit

/-- A toy library in which nothing fails: a cipher adds the first byte of the key,
digests and MACs collect their input, a signature is the message. -/
def Provider.plain : Provider where
  Seed := Unit
  Cipher := CipherSpec
  Md := Bytes
  Mac := Bytes
  Pkey := Bytes
  alloc _ _ := true
  fetch _ _ := true
  ctxNew _ := true
  rng _ n := List.replicate n 0
  mdInit _ _ := some []
  mdUpdate _ c b := (true, c ++ b)
  mdFinal _ c := some c
  mdFinalXof _ c n := some (c.take n)
  macInit _ _ key := some key
  macUpdate _ c b := (true, c ++ b)
  macFinal _ c := some c
  cipherInit _ s := some s
  cipherUpdate _ c b := (some (b.map (· + byteAt c.key 0)), c)
  cipherFinal _ c := (some [], c)
  cipherTag _ c n := some (c.key.take n)
  cipherSetTag _ c _ := some c
  cipherCopy _ _ := true
  d2iPub _ b := some b
  d2iPriv _ b := some b
  rawMldsaPub _ b := some b
  pkeyKind _ := .other
  pkeySize k := k.length
  pkeyBits k := 8 * k.length
  rsaInit _ _ _ _ := true
  oaepMdSize _ _ m := m.size
  rsaLen _ _ k _ _ := some k.length
  rsaCrypt _ _ _ _ b := some b
  signInit _ _ _ := true
  sign _ _ _ b _ := some b
  verifyInit _ _ _ := true
  setParams _ _ _ := true
  verify _ _ _ s b := if s = b then .good else .bad
  ecdsaDerToRaw _ b _ := some b
  ecdsaRawToDer _ b _ := some b
  compositeSign _ _ _ b := .ok b
  compositeVerify _ _ _ s b := if s = b then .ok () else .error .signatureInvalid

end FreeHsm
