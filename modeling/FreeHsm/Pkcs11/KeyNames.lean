import FreeHsm.Pkcs11.Template
import FreeHsm.Token.State

/-!
# Curves and parameter sets in templates

A template names a curve by its DER encoding and a post-quantum parameter set by a
number or by its name. The tables of `fhsm_pkcs11.c` and `fhsm_create_attrs.c` that
read them.
-/

namespace FreeHsm

def ckaCertificateType : UInt64 := 0x080
def ckaModulus : UInt64 := 0x120
def ckaModulusBits : UInt64 := 0x121
def ckaPublicExponent : UInt64 := 0x122
def ckaPrivateExponent : UInt64 := 0x123
def ckaPrime1 : UInt64 := 0x124
def ckaPrime2 : UInt64 := 0x125
def ckaExponent1 : UInt64 := 0x126
def ckaExponent2 : UInt64 := 0x127
def ckaCoefficient : UInt64 := 0x128
def ckaEcPoint : UInt64 := 0x181
def ckaParameterSet : UInt64 := 0x61D

/-! ## Curves -/

/-- A curve of `CKK_EC`: one of the table, or one that OpenSSL knows by number. -/
inductive EcCurve
  | p256
  | p384
  | p521
  | other (nid : Nat)
  deriving DecidableEq, Repr

inductive EdCurve
  | ed25519
  | ed448
  deriving DecidableEq, Repr

inductive EcmCurve
  | x25519
  | x448
  deriving DecidableEq, Repr

/-- `ec_curves`. -/
def ecCurves : List (Bytes × EcCurve) :=
  [([0x06, 0x08, 0x2A, 0x86, 0x48, 0xCE, 0x3D, 0x03, 0x01, 0x07], .p256),
   ([0x06, 0x05, 0x2B, 0x81, 0x04, 0x00, 0x22], .p384),
   ([0x06, 0x05, 0x2B, 0x81, 0x04, 0x00, 0x23], .p521)]

/-- The object identifiers of `ed_curves`. -/
def edCurveOids : List (Bytes × EdCurve) :=
  [([0x06, 0x03, 0x2B, 0x65, 0x70], .ed25519), ([0x06, 0x03, 0x2B, 0x65, 0x71], .ed448)]

/-- `ed_curves`: the identifiers and the printable names. -/
def edCurves : List (Bytes × EdCurve) :=
  edCurveOids ++
    [([0x13, 0x0C, 0x65, 0x64, 0x77, 0x61, 0x72, 0x64, 0x73, 0x32, 0x35, 0x35, 0x31, 0x39],
        .ed25519),
     ([0x13, 0x0A, 0x65, 0x64, 0x77, 0x61, 0x72, 0x64, 0x73, 0x34, 0x34, 0x38], .ed448)]

/-- `ecm_curves`. -/
def ecmCurves : List (Bytes × EcmCurve) :=
  [([0x06, 0x03, 0x2B, 0x65, 0x6E], .x25519), ([0x06, 0x03, 0x2B, 0x65, 0x6F], .x448)]

/-- The loop over one of these tables. -/
def matchTable {α : Type} (table : List (Bytes × α)) (der : Bytes) : Option α :=
  (table.find? (·.1 == der)).map (·.2)

/-- The name of an Edwards curve is printable rather than an identifier. -/
def Template.edCurveNamed (t : Template) : Bool :=
  match t.findAttr ckaEcParams with
  | some ⟨_, .bytes der, _⟩ =>
    2 ≤ der.length && byteAt der 0 == 0x13 && (matchTable edCurves der).isSome
  | _ => false

/-! ## Parameter sets -/

inductive ParamSet
  | mlKem512
  | mlKem768
  | mlKem1024
  | mlDsa44
  | mlDsa65
  | mlDsa87
  | slhSha2x128s
  | slhSha2x128f
  | slhSha2x192s
  | slhSha2x192f
  | slhSha2x256s
  | slhSha2x256f
  | slhShakex128s
  | slhShakex128f
  | slhShakex192s
  | slhShakex192f
  | slhShakex256s
  | slhShakex256f
  deriving DecidableEq, Repr

/-- The table of `fhsm_pset_valid`. -/
def paramSetNames : List (String × ParamSet) :=
  [("ML-KEM-512", .mlKem512), ("ML-KEM-768", .mlKem768), ("ML-KEM-1024", .mlKem1024),
   ("ML-DSA-44", .mlDsa44), ("ML-DSA-65", .mlDsa65), ("ML-DSA-87", .mlDsa87),
   ("SLH-DSA-SHA2-128s", .slhSha2x128s), ("SLH-DSA-SHA2-128f", .slhSha2x128f),
   ("SLH-DSA-SHA2-192s", .slhSha2x192s), ("SLH-DSA-SHA2-192f", .slhSha2x192f),
   ("SLH-DSA-SHA2-256s", .slhSha2x256s), ("SLH-DSA-SHA2-256f", .slhSha2x256f),
   ("SLH-DSA-SHAKE-128s", .slhShakex128s), ("SLH-DSA-SHAKE-128f", .slhShakex128f),
   ("SLH-DSA-SHAKE-192s", .slhShakex192s), ("SLH-DSA-SHAKE-192f", .slhShakex192f),
   ("SLH-DSA-SHAKE-256s", .slhShakex256s), ("SLH-DSA-SHAKE-256f", .slhShakex256f)]

/-- The bytes of an ASCII text. -/
def asciiBytes (s : String) : Bytes := s.toList.map fun c => UInt8.ofNat c.toNat

inductive PqcFamily
  | mlKem
  | mlDsa
  | slhDsa
  deriving DecidableEq, Repr

/-- The tables of `fhsm_pset_from_selector`, from selector 1 on. -/
def PqcFamily.sets : PqcFamily → List ParamSet
  | mlKem => [.mlKem512, .mlKem768, .mlKem1024]
  | mlDsa => [.mlDsa44, .mlDsa65, .mlDsa87]
  | slhDsa =>
    [.slhSha2x128s, .slhShakex128s, .slhSha2x128f, .slhShakex128f, .slhSha2x192s, .slhShakex192s,
     .slhSha2x192f, .slhShakex192f, .slhSha2x256s, .slhShakex256s, .slhSha2x256f, .slhShakex256f]

/-- `fhsm_pset_from_selector`. -/
def psetFromSelector (fam : PqcFamily) (sel : UInt64) : Option ParamSet :=
  if sel = 0 then none else fam.sets[sel.toNat - 1]?

/-- The answer of `fhsm_pset_read`: 0, -1, or 1 with the name. -/
inductive PsetRead
  | absent
  | bad
  | set (ps : ParamSet)
  deriving DecidableEq, Repr

/-- `fhsm_pset_read` into a buffer of `outSize` bytes. A name is not compared with the family. -/
def psetRead (t : Template) (fam : PqcFamily) (outSize : Nat) : PsetRead :=
  match t.findAttr ckaParameterSet with
  | some ⟨_, .bytes b, _⟩ =>
    if b.length = ckUlongSize then (psetFromSelector fam (u64At b 0)).elim .bad .set
    else if b.length = 0 ∨ outSize ≤ b.length then .bad
    else ((paramSetNames.find? fun (name, _) => asciiBytes name == cstr b).map (·.2)).elim .bad .set
  | _ => .absent

/-- A length table for one family: `fhsm_pqc_alg_from_priv_len` and `fhsm_pqc_alg_for`. -/
def psetForLength (mlKem mlDsa : List (Nat × ParamSet)) (fam : PqcFamily) (len : Nat) :
    Option ParamSet :=
  let table := match fam with
    | .mlKem => mlKem
    | .mlDsa => mlDsa
    | .slhDsa => []
  (table.find? (·.1 == len)).map (·.2)

/-- `fhsm_pqc_alg_from_priv_len`. -/
def pqcAlgFromPrivLen : PqcFamily → Nat → Option ParamSet :=
  psetForLength [(1632, .mlKem512), (2400, .mlKem768), (3168, .mlKem1024)]
    [(2560, .mlDsa44), (4032, .mlDsa65), (4896, .mlDsa87)]

/-- `fhsm_pqc_alg_for`. -/
def pqcAlgFor : PqcFamily → Nat → Option ParamSet :=
  psetForLength [(800, .mlKem512), (1184, .mlKem768), (1568, .mlKem1024)]
    [(1312, .mlDsa44), (1952, .mlDsa65), (2592, .mlDsa87)]

/-! ## Key types -/

def ckkGenericSecret : UInt32 := 0x10
def ckkEdwards : UInt32 := 0x40
def ckkMontgomery : UInt32 := 0x41
def ckkHkdf : UInt32 := 0x42
def ckkMlKem : UInt32 := 0x49
def ckkMlDsa : UInt32 := 0x4A
def ckkSlhDsa : UInt32 := 0x4B

/-- The post-quantum families by key type. -/
def pqcFamilyOf (ckk : UInt64) : Option PqcFamily :=
  if ckk = ckkMlKem.toUInt64 then some .mlKem
  else if ckk = ckkMlDsa.toUInt64 then some .mlDsa
  else if ckk = ckkSlhDsa.toUInt64 then some .slhDsa
  else none

/-- The key type of a family. -/
def PqcFamily.keyType : PqcFamily → UInt32
  | mlKem => ckkMlKem
  | mlDsa => ckkMlDsa
  | slhDsa => ckkSlhDsa

end FreeHsm
