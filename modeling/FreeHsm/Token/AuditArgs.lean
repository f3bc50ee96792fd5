import FreeHsm.Pkcs11.KeyNames
import FreeHsm.Token.Auth

/-!
# The arguments of an audit event

`fhsm_audit_event` takes keys and values in turn and `FHSM_AUDIT_END` after them. Its loop reads
a key, stops if that is the terminator, and else reads a value without looking at it. A call with
an odd number of strings gives it the terminator for a value, and the next key it reads is no
argument of the call.
-/

namespace FreeHsm

open List

/-! ## The loop -/

/-- `safe_ascii` of a string. -/
def safeAscii (s : Bytes) : Bool :=
  s.all fun b => 0x20 ≤ b && b ≤ 0x7e && b != 0x22 && b != 0x5c

/-- How the arguments of a call were read. -/
structure Reading where
  /-- The terminator was taken for a value. -/
  endAsValue : Bool
  /-- An argument was asked for after the last one. -/
  pastEnd : Bool
  /-- Arguments that were not read. -/
  unread : Nat
  deriving DecidableEq

/-- `sizeof(params)`. -/
def paramsSize : Nat := 1024

/-- The loop of `fhsm_audit_event`, with `pp` bytes of `params` written; `none` is
`FHSM_AUDIT_END`. -/
def readParams (pp : Nat) (first : Bool) : List (Option Bytes) → Reading
  | [] => ⟨false, true, 0⟩
  | none :: rest => ⟨false, false, rest.length⟩
  | [some _] => ⟨false, true, 0⟩
  | some k :: v :: rest =>
    let shown := if safeAscii k && v.any safeAscii then v.getD [] else asciiBytes "INVALID"
    let n := (if first then 0 else 1) + k.length + shown.length + 5
    -- what does not fit empties `params` and ends the loop
    if paramsSize - pp ≤ n then ⟨v.isNone, false, rest.length⟩
    else
      let r := readParams (pp + n) false rest
      { r with endAsValue := v.isNone || r.endAsValue }

/-- The call consumes the arguments it was passed, and nothing else. -/
def ReadExactly (args : List (Option Bytes)) : Prop := readParams 1 true args = ⟨false, false, 0⟩

/-- Keys and values in pairs, and the terminator. -/
def paired : List (Bytes × Bytes) → List (Option Bytes)
  | [] => [none]
  | (k, v) :: kvs => some k :: some v :: paired kvs

/-- Enough room for a pair, its punctuation and `INVALID`. -/
def pairRoom (kv : Bytes × Bytes) : Nat := kv.1.length + kv.2.length + 13

theorem Reading.exact_paired (kvs : List (Bytes × Bytes)) (pp : Nat) (first : Bool)
    (hroom : pp + (kvs.map pairRoom).sum < paramsSize) :
    readParams pp first (paired kvs) = ⟨false, false, 0⟩ := by
  induction kvs generalizing pp first with
  | nil => rfl
  | cons kv kvs ih =>
    obtain ⟨k, v⟩ := kv
    simp only [map_cons, sum_cons, pairRoom] at hroom
    have hinvalid : (asciiBytes "INVALID").length = 7 := by decide
    have hshown : (if safeAscii k && safeAscii v then v else asciiBytes "INVALID").length ≤
        v.length + 7 := by
      split <;> omega
    have hfirst : (if first then 0 else 1) ≤ 1 := by
      split <;> omega
    simp only [paired, readParams, Option.any_some, Option.getD_some, Option.isNone_some,
      Bool.false_or]
    rw [if_neg (by omega), ih _ _ (by omega)]

theorem not_readExactly_single (k : Bytes) : ¬ ReadExactly [some k, none] := by
  intro h
  have hvalue := congrArg Reading.endAsValue h
  simp only [readParams, apply_ite Reading.endAsValue, Option.isNone_none, Bool.true_or,
    ite_self] at hvalue
  exact Bool.noConfusion hvalue

/-! ## The events of a path -/

/-- A call that initialises a token, logs in or checks a PIN, from the PKCS#11 function on. -/
inductive AuthCall
  /-- `C_InitToken` on an empty slot: `fhsm_token_init`. -/
  | initToken (env : Env) (soPin label : Bytes) (d : Disk)
  /-- `C_InitToken` on a token: `fhsm_token_verify_pin`, then `fhsm_token_reinit`. -/
  | reinitToken (env : Env) (t : Token) (soPin label : Bytes) (d : Disk)
  /-- `C_Login` as SO or USER; `fhsm_session_login` refuses it in a session without a token. -/
  | login (env : Env) (t : Option Token) (role : Role) (pin : Bytes)
  /-- `C_Login` for one operation: `fhsm_token_verify_pin`. -/
  | contextLogin (pinLen : Nat)

namespace AuthCall

variable (C : Crypto)

/-- `fhsm_token_init` gets to the sealing. -/
def initWraps (env : Env) (soPin label : Bytes) : Bool :=
  8 ≤ (cstr soPin).length && env.heapAlloc && env.secureAlloc &&
    match env.pbkdf2 C (cstr soPin) env.rngSalt Token.newPbkdf2Iter with
    | .error _ => false
    | .ok kek =>
      (env.wrapDek C Token.zeroWrap.ct kek env.rngWrapNonce
        (Token.freshHeader env Token.zeroed.header label env.rngSaltUser).aad env.rngDek).1.isNone

/-- The DEK that `fhsm_token_login` has unwrapped when it turns to the TPM. -/
def loginUnwraps (env : Env) (t : Token) (role : Role) (pin : Bytes) : Option Key :=
  if t.loggedIn = role ∨ t.loggedIn ≠ .none then none
  else match t.evalPin C env role pin t.dek.isNone with
    | .ok (some dek, _) => some dek
    | _ => none

/-- The events about the TPM: each is passed one string. That of a sealing is the same whether
it succeeds or not. -/
def tpmEvents : AuthCall → List Bytes
  | initToken env soPin label _ =>
    if initWraps C env soPin label ∧ env.tpmRequired then [asciiBytes "tpm-seal-init"] else []
  | login env (some t) role pin =>
    match loginUnwraps C env t role pin, env.tpmCompanion, env.tpmRequired with
    | none, _, _ => []
    | some _, some (.error _), _ => [asciiBytes "tpm-unseal-failed"]
    | some dek, some (.ok unsealed), _ =>
      [asciiBytes (if unsealed = dek then "tpm-check-login" else "tpm-dek-mismatch")]
    | some _, none, true => [asciiBytes "tpm-required-but-missing"]
    | some _, none, false => []
  | _ => []

/-- `snprintf(buf, size, "%lu", n)`. -/
def decimal (size n : Nat) : Bytes := (asciiBytes (toString n)).take (size - 1)

def roleName : Role → String
  | .so => "SO"
  | .user => "USER"
  | .none => "NONE"

/-- The event of `fhsm_token_init` and `fhsm_token_reinit`. -/
def labelPairs (label : Bytes) : List (Bytes × Bytes) :=
  [(asciiBytes "label", (cstr label).take 63)]

/-- The event of `C_Login`. -/
def loginPairs (role : String) (pinLen : Bytes) : List (Bytes × Bytes) :=
  [(asciiBytes "role", asciiBytes role), (asciiBytes "pin_len", pinLen)]

/-- The other events; that of `C_InitToken` itself has no keys. -/
def pairEvents : AuthCall → List (List (Bytes × Bytes))
  | initToken env soPin label d =>
    (if (Token.init C env soPin label d).1 = .ok then [labelPairs label] else []) ++ [[]]
  | reinitToken env t soPin label d =>
    -- a re-initialisation that fails is reported too, once it has its buffer
    (if (t.verifyPin C env .so soPin d).1 = .ok ∧ 4 ≤ (cstr soPin).length ∧
        (t.dek.isSome ∨ env.secureAlloc) then [labelPairs label] else []) ++ [[]]
  | login _ _ role pin => [loginPairs (roleName role) (decimal 16 pin.length)]
  | contextLogin pinLen => [loginPairs "CONTEXT_SPECIFIC" (decimal 24 pinLen)]

/-- The arguments of the events of a call. -/
def events (call : AuthCall) : List (List (Option Bytes)) :=
  (call.tpmEvents C).map (fun k => [some k, none]) ++ (call.pairEvents C).map paired

/-- The call turns to the TPM: it creates a token and sealing is asked for, or it logs in with the
right PIN and there is a companion file or sealing is asked for. -/
def MeetsTpm : AuthCall → Prop
  | initToken env soPin label _ => initWraps C env soPin label ∧ env.tpmRequired
  | login env (some t) role pin => (loginUnwraps C env t role pin).isSome ∧
      (env.tpmCompanion.isSome ∨ env.tpmRequired)
  | _ => False

/-! ## Which calls are read as they were written -/

variable {C}

theorem room_labelPairs (label : Bytes) : ((labelPairs label).map pairRoom).sum < 1023 := by
  have hkey : (asciiBytes "label").length = 5 := by decide
  have hlen := length_take_le 63 (cstr label)
  simp only [labelPairs, pairRoom, map_cons, map_nil, sum_cons, sum_nil, hkey]
  omega

theorem room_loginPairs {role : String} {size : Nat} (n : Nat)
    (hrole : (asciiBytes role).length ≤ 16) (hsize : size ≤ 24) :
    ((loginPairs role (decimal size n)).map pairRoom).sum < 1023 := by
  have hkeys : (asciiBytes "role").length = 4 ∧ (asciiBytes "pin_len").length = 7 := by decide
  have hlen := length_take_le (size - 1) (asciiBytes (toString n))
  simp only [loginPairs, decimal, pairRoom, map_cons, map_nil, sum_cons, sum_nil, hkeys]
  omega

theorem room_pairEvents (call : AuthCall) :
    ∀ kvs ∈ call.pairEvents C, (kvs.map pairRoom).sum < 1023 := by
  intro kvs hmem
  cases call with
  | initToken env soPin label d =>
    simp only [pairEvents, mem_append, mem_ite_nil_right, mem_singleton] at hmem
    obtain ⟨-, rfl⟩ | rfl := hmem
    · exact room_labelPairs label
    · decide
  | reinitToken env t soPin label d =>
    simp only [pairEvents, mem_append, mem_ite_nil_right, mem_singleton] at hmem
    obtain ⟨-, rfl⟩ | rfl := hmem
    · exact room_labelPairs label
    · decide
  | login env t role pin =>
    obtain rfl := mem_singleton.mp hmem
    exact room_loginPairs _ (by cases role <;> decide) (by decide)
  | contextLogin pinLen =>
    obtain rfl := mem_singleton.mp hmem
    exact room_loginPairs _ (by decide) (by decide)

theorem tpmEvents_eq_nil_iff (call : AuthCall) : call.tpmEvents C = [] ↔ ¬ call.MeetsTpm C := by
  cases call with
  | initToken env soPin label d => simp [tpmEvents, MeetsTpm]
  | login env t role pin =>
    cases t with
    | none => simp [tpmEvents, MeetsTpm]
    | some t =>
      simp only [tpmEvents, MeetsTpm]
      split <;> simp_all
  | _ => simp [tpmEvents, MeetsTpm]

/-- The events of a call that initialises a token, logs in or checks a PIN are all read as they
were written exactly when the call does not turn to the TPM. -/
theorem readExactly_events_iff (C : Crypto) (call : AuthCall) :
    (∀ args ∈ call.events C, ReadExactly args) ↔ ¬ call.MeetsTpm C := by
  rw [← tpmEvents_eq_nil_iff]
  constructor
  · intro hall
    refine eq_nil_iff_forall_not_mem.mpr fun k hk => not_readExactly_single k ?_
    exact hall _ (mem_append_left _ (mem_map_of_mem hk))
  · intro hnil args hargs
    rw [events, hnil, map_nil, nil_append] at hargs
    obtain ⟨kvs, hkvs, rfl⟩ := mem_map.mp hargs
    have hroom := room_pairEvents call kvs hkvs
    exact Reading.exact_paired kvs 1 true (by rw [paramsSize]; omega)

/-- `FHSM_TPM_SEALING` is set, and a token is created. -/
def sealedInit : AuthCall :=
  initToken { Env.quiet with tpmRequired := true } (List.replicate 8 0x31) [] ⟨none, []⟩

/-- The loop takes the terminator for a value and reads on. -/
theorem sealedInit_pastEnd : [some (asciiBytes "tpm-seal-init"), none] ∈ sealedInit.events .plain ∧
    readParams 1 true [some (asciiBytes "tpm-seal-init"), none] = ⟨true, true, 0⟩ := by
  decide +kernel

end AuthCall

end FreeHsm
