import FreeHsm.Pkcs11.Signature

/-!
# Digest and MAC contexts

What is expected of an `EVP_MD_CTX` and an `EVP_MAC_CTX`: the result depends on the
concatenation of what was put in, not on how it was cut, and is as long as its
algorithm says. The composite signature of a message is the one of its pre-hash.

`HashModel P` says this of a library `P`; `Provider.hashing` is a library of which it
holds.
-/

namespace FreeHsm

/-- How long a MAC is. -/
def MacSpec.size : MacSpec → Nat
  | .hmac md => md.size
  | .cmac _ | .gmac .. => 16
  | .cmacDes3 => 8

theorem hmacHashOf_size {mech : UInt32} {md : MdAlg} (h : hmacHashOf mech = some md) : 0 < md.size := by
  have hall : (hmacHashOf mech).all (fun md => decide (0 < md.size)) = true := by
    unfold hmacHashOf
    simp only [apply_ite (Option.all _), Option.all_some, Option.all_none, MdAlg.size, Nat.reduceLT,
      decide_true, ite_self]
  rw [h] at hall
  simpa using hall

/-- Digests, MACs and composite signatures are functions of the concatenated input. -/
structure HashModel (P : Provider) where
  hash : MdAlg → Bytes → Bytes
  length_hash : ∀ md d, md.isXof = false → (hash md d).length = md.size
  xof : MdAlg → Bytes → Nat → Bytes
  length_xof : ∀ md d n, (xof md d n).length = n
  mac : MacSpec → Bytes → Bytes → Bytes
  length_mac : ∀ spec key d, (mac spec key d).length = spec.size
  /-- The MACs and keys that a context can be set up with. -/
  supports : MacSpec → Bytes → Bool
  /-- The context was set up with a digest and given the data. -/
  Hashes : P.Md → MdAlg → Bytes → Prop
  /-- The context was set up with a MAC and a key and given the data. -/
  Macs : P.Mac → MacSpec → Bytes → Bytes → Prop
  alloc : ∀ seed n, P.alloc seed n = true
  fetch : ∀ seed a, P.fetch seed a = true
  ctxNew : ∀ seed, P.ctxNew seed = true
  mdInit : ∀ seed md, ∃ c, P.mdInit seed md = some c ∧ Hashes c md []
  mdUpdate : ∀ seed c md fed b, Hashes c md fed →
    ∃ c', P.mdUpdate seed c b = (true, c') ∧ Hashes c' md (fed ++ b)
  mdFinal : ∀ seed c md fed, Hashes c md fed → P.mdFinal seed c = some (hash md fed)
  mdFinalXof : ∀ seed c md fed n, Hashes c md fed → P.mdFinalXof seed c n = some (xof md fed n)
  macInit : ∀ seed spec key, supports spec key = true →
    ∃ c, P.macInit seed spec key = some c ∧ Macs c spec key []
  macInit_none : ∀ seed spec key, supports spec key = false → P.macInit seed spec key = none
  macUpdate : ∀ seed c spec key fed b, Macs c spec key fed →
    ∃ c', P.macUpdate seed c b = (true, c') ∧ Macs c' spec key (fed ++ b)
  macFinal : ∀ seed c spec key fed, Macs c spec key fed → P.macFinal seed c = some (mac spec key fed)
  /-- `fhsm_composite.c` bears this and the next out: `fhsm_composite_sign` passes the SHA-512 of the
  message to `mprime_layout` and the result to `sign_mprime`, `fhsm_composite_sign_prehashed` does
  so with the hash it is given; the two ways to verify differ in the same place. The signatures of
  the two components are the library's. -/
  compositeSign : ∀ seed key d,
    P.compositeSign seed false key d = P.compositeSign seed true key (hash .sha512 d)
  compositeVerify : ∀ seed key sig d,
    P.compositeVerify seed false key sig d = P.compositeVerify seed true key sig (hash .sha512 d)

namespace HashModel

variable {P : Provider} (H : HashModel P)

/-- The digest of a row of the pre-hash table. -/
def prehash (r : HmRow) (d : Bytes) : Bytes :=
  if r.md.isXof then H.xof r.md d r.outLen else H.hash r.md d

theorem hmTable_outLen : ∀ r ∈ hmTable, r.md.isXof = false → r.md.size = r.outLen := by decide

theorem hmTable_outLen_pos : ∀ r ∈ hmTable, 0 < r.outLen ∧ r.outLen ≤ multipartMax := by decide

theorem length_prehash {r : HmRow} (hr : r ∈ hmTable) (d : Bytes) :
    (H.prehash r d).length = r.outLen := by
  unfold prehash
  cases hxof : r.md.isXof with
  | true => exact H.length_xof ..
  | false =>
    rw [if_neg Bool.false_ne_true, H.length_hash _ _ hxof]
    exact hmTable_outLen r hr hxof

theorem finish_prehash {r : HmRow} (hr : r ∈ hmTable) {c : P.Md} {fed : Bytes}
    (hc : H.Hashes c r.md fed) (seed : P.Seed) :
    (if r.md.isXof then P.mdFinalXof seed c r.outLen
      else (P.mdFinal seed c).filter (·.length == r.outLen)) = some (H.prehash r fed) := by
  have hlen := H.length_prehash hr fed
  unfold prehash at hlen ⊢
  split
  · exact H.mdFinalXof seed c r.md fed r.outLen hc
  rename_i hxof
  rw [if_neg hxof] at hlen
  rw [H.mdFinal seed c r.md fed hc, Option.filter_some, if_pos (by simpa using hlen)]

theorem digestOnce_eq (env : OpEnv P) {r : HmRow} (hr : r ∈ hmTable) (d : Bytes) :
    digestOnce env r.md r.outLen d = some (H.prehash r d) := by
  obtain ⟨c, hinit, hc⟩ := H.mdInit env.seed r.md
  obtain ⟨c', hupdate, hc'⟩ := H.mdUpdate env.seed c r.md [] d hc
  have hfin := H.finish_prehash hr hc' env.seed
  unfold digestOnce
  simp only [H.fetch, H.ctxNew, hinit, Bool.and_self, if_true, Option.bind_eq_bind, Option.bind_some,
    hupdate]
  exact hfin

/-- The encoded message is the same from the data and from its digest. -/
theorem hmldsaMessage_prehashed (env : OpEnv P) {s : Setup} {r : HmRow} (hrow : s.hmRow ≠ 0)
    (hr : hmTable[s.hmRow - 1]? = some r) (hgen : hmGeneric s.mechanism = false) (d : Bytes) :
    hmldsaMessage env s true (H.prehash r d) = hmldsaMessage env s false d := by
  have hmem : r ∈ hmTable := List.mem_of_getElem? hr
  unfold hmldsaMessage
  rw [if_neg hrow, hr]
  simp only [hgen, Bool.or_true, Bool.or_false, if_true, Bool.false_eq_true, if_false,
    H.length_prehash hmem d, H.digestOnce_eq env hmem d]

end HashModel

/-! ## A library with such contexts -/

/-- A toy digest: the sum of the bytes, as often as the digest is long. -/
def sumBytes (n : Nat) (d : Bytes) : Bytes := List.replicate n (d.foldl (· + ·) 0)

/-- A toy library whose digest and MAC contexts collect what they are given. -/
def Provider.hashing : Provider :=
  { Provider.plain with
    Md := MdAlg × Bytes
    Mac := MacSpec × Bytes × Bytes
    mdInit := fun _ md => some (md, [])
    mdUpdate := fun _ c b => (true, c.1, c.2 ++ b)
    mdFinal := fun _ c => some (sumBytes c.1.size c.2)
    mdFinalXof := fun _ c n => some (sumBytes n c.2)
    macInit := fun _ spec key => some (spec, key, [])
    macUpdate := fun _ c b => (true, c.1, c.2.1, c.2.2 ++ b)
    macFinal := fun _ c => some (sumBytes c.1.size (c.2.1 ++ c.2.2))
    compositeSign := fun _ pre _ b => .ok (if pre then b else sumBytes 64 b)
    compositeVerify := fun _ pre _ s b =>
      if s = (if pre then b else sumBytes 64 b) then .ok () else .error .signatureInvalid }

def HashModel.hashing : HashModel Provider.hashing where
  hash md d := sumBytes md.size d
  length_hash _ _ _ := List.length_replicate
  xof _ d n := sumBytes n d
  length_xof _ _ _ := List.length_replicate
  mac spec key d := sumBytes spec.size (key ++ d)
  length_mac _ _ _ := List.length_replicate
  supports _ _ := true
  Hashes c md fed := c = (md, fed)
  Macs c spec key fed := c = (spec, key, fed)
  alloc _ _ := rfl
  fetch _ _ := rfl
  ctxNew _ := rfl
  mdInit _ md := ⟨_, rfl, rfl⟩
  mdUpdate _ c md fed b h := by
    subst h
    exact ⟨_, rfl, rfl⟩
  mdFinal _ c md fed h := by
    subst h
    rfl
  mdFinalXof _ c md fed n h := by
    subst h
    rfl
  macInit _ spec key _ := ⟨_, rfl, rfl⟩
  macInit_none _ _ _ h := by cases h
  macUpdate _ c spec key fed b h := by
    subst h
    exact ⟨_, rfl, rfl⟩
  macFinal _ c spec key fed h := by
    subst h
    rfl
  compositeSign _ _ _ := rfl
  compositeVerify _ _ _ _ := rfl

end FreeHsm
