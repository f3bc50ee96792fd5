import FreeHsm.Pkcs11.Find
import FreeHsm.Pkcs11.Signature
import FreeHsm.Pkcs11.Module

/-!
# The signing service

`fhsm-service` answers the requests that an authenticating proxy passes on over a
socket. A request carries the identity of its client; which keys an identity may use
is a list of rules. Two tables keep the clients apart: the refusal budget delays an
identity whose requests were not authorised, the fairness cap limits how many requests
of one identity are in flight.

`serve` handles one connection. Here it is two steps: `arrive` up to the point where
the request is admitted, and `answer` from the routes on, so that other requests can
come in between. What `read_request` refuses, the readings of the clock, and the
session that the pool hands out are inputs; `pool_acquire` waits until it has one.
-/

namespace FreeHsm.Service

/-! ## Requests and responses -/

inductive Method
  | get
  | post
  deriving DecidableEq

/-- The targets `serve` tells apart. -/
inductive Target
  | health
  | token
  | sign
  | verify
  | certificates
  | ocsp
  | other
  deriving DecidableEq

/-- `MAX_KEY_LABEL`. -/
def maxKeyLabel : Nat := 64

/-- `request_t` as `read_request` fills it. A header value has no control characters, and a key
label that is empty or too long is refused there. -/
structure Request where
  method : Method
  target : Target
  subject : Option Bytes
  subjectRepeated : Bool
  key : Option Bytes
  keyRepeated : Bool
  siglen : Option Nat
  siglenRepeated : Bool
  body : Bytes
  key_text : ∀ k ∈ key, k ≠ [] ∧ k.length < maxKeyLabel ∧ 0 ∉ k

/-- The reasons a request is refused for. -/
inductive Reason
  /-- What `read_request` and the check of the peer refuse. -/
  | unreadable
  | subjectRepeated
  | noIdentity
  | refusalBudget
  | tooManyInFlight
  | tokenUnavailable
  | noKeyHeader
  | keyRepeated
  | emptyBody
  | notAuthorised
  | signFailed
  | noSignatureLength
  | signatureLengthRepeated
  | signatureLengthCoversBody
  | verifyFailed
  | wrongMethod
  | unknownRoute
  deriving DecidableEq

/-- `verdict_t` of a refusal. -/
structure Verdict where
  status : Nat
  reason : Reason
  deriving DecidableEq

/-- The texts of the responses. -/
inductive Body
  | refused
  | ok
  | token (label serial : Bytes)
  | valid
  | invalid
  | notHere
  | signature (sig : Bytes)
  deriving DecidableEq

/-- A header beside the three that every response has. -/
inductive Extra
  | retryAfter (seconds : Int)
  | link
  deriving DecidableEq

structure Response where
  status : Nat
  extra : Option Extra := none
  body : Body
  deriving DecidableEq

/-! ## The policy -/

/-- `policy_rule_t`. -/
structure Rule where
  subject : Bytes
  key : Bytes
  deriving DecidableEq

/-- `policy_permits`. -/
def permits (policy : List Rule) (subject key : Bytes) : Bool :=
  policy.any fun r => r.subject == subject && r.key == key

/-! ## The refusal budget -/

/-- `BUDGET_FREE`. -/
def budgetFree : UInt32 := 4
/-- `BUDGET_DECAY_S`. -/
def budgetDecay : Int := 600
/-- `BUDGET_CAP_S`. -/
def budgetCap : Int := 60

/-- `budget_t`. -/
structure Budget where
  subject : Bytes := []
  count : UInt32 := 0
  last : Int := 0
  used : Bool := false
  announced : Bool := false
  deriving DecidableEq

namespace Budget

/-- `budget_delay_s`. -/
def delay (n : UInt32) : Int :=
  if n ≤ budgetFree then 0
  else
    let k := (n - budgetFree - 1).toNat
    if 20 ≤ k then budgetCap else min (2 ^ k) budgetCap

/-- `budget_decayed`. -/
def decayed (b : Budget) (now : Int) : UInt32 :=
  if b.count = 0 then 0
  else
    let forgiven := UInt32.ofNat ((max (now - b.last) 0) / budgetDecay).toNat
    if b.count ≤ forgiven then 0 else b.count - forgiven

/-- `budget_retry_after`. -/
def retryAfter (table : List Budget) (subject : Bytes) (now : Int) : Int :=
  match table.find? fun b => b.used && b.subject == subject with
  | none => 0
  | some b =>
    let need := delay (b.decayed now)
    let since := max (now - b.last) 0
    if since < need then need - since else 0

/-- The slot `budget_charge` counts in: the one of the subject, or the first that is free or has
decayed (`d < oldest` never holds, since both are zero there). -/
def slotFor (table : List Budget) (subject : Bytes) (now : Int) : Option (Nat × Budget) :=
  match table.findIdx? fun b => b.used && b.subject == subject with
  | some i => some (i, table.getD i {})
  | none =>
    (table.findIdx? fun b => !b.used || b.decayed now == 0).map fun i =>
      (i, { table.getD i {} with subject := subject, count := 0, announced := false, used := true })

/-- `budget_charge`. Without a slot nothing is counted. -/
def charge (table : List Budget) (subject : Bytes) (now : Int) : List Budget :=
  match slotFor table subject now with
  | none => table
  | some (i, b) =>
    let count := b.decayed now + 1
    table.set i { b with count := count, last := now, announced := budgetFree < count }

end Budget

/-! ## The fairness cap -/

/-- `IDENT_WINDOW_S`. -/
def identWindow : Int := 30
/-- `BURST_COOLDOWN_S`. -/
def burstCooldown : Int := 5

/-- `ident_t`. -/
structure Ident where
  subject : Bytes := []
  inFlight : Nat := 0
  used : Bool := false
  lastSeen : Int := 0
  limited : Bool := false
  suppressed : Nat := 0
  limitedSince : Int := 0
  lastRefusal : Int := 0
  deriving DecidableEq

namespace Ident

/-- What the loop of `ident_enter` collects. -/
structure Scan where
  mine : Option Nat := none
  spare : Option Nat := none
  others : Nat := 0
  oldest : Int := 0

/-- One round of that loop. -/
def scanStep (subject : Bytes) (now : Int) (s : Scan) (e : Ident × Nat) : Scan :=
  if !e.1.used then if s.spare.isNone then { s with spare := some e.2 } else s
  else if e.1.subject = subject then { s with mine := some e.2 }
  else if 0 < e.1.inFlight ∨ now - e.1.lastSeen < identWindow then { s with others := s.others + 1 }
  else if s.spare.isNone ∨ e.1.lastSeen < s.oldest then
    { s with spare := some e.2, oldest := e.1.lastSeen }
  else s

def scan (table : List Ident) (subject : Bytes) (now : Int) : Scan :=
  table.zipIdx.foldl (scanStep subject now) {}

/-- `ident_enter`: whether the request may go on. -/
def enter (workers : Nat) (table : List Ident) (subject : Bytes) (now : Int) : Bool × List Ident :=
  let s := scan table subject now
  let cap := if 0 < s.others ∧ 1 < workers then workers - 1 else workers
  match s.mine with
  | some i =>
    let e := table.getD i {}
    if cap ≤ e.inFlight then
      let e := if e.limited then { e with suppressed := e.suppressed + 1 }
        else { e with limited := true, limitedSince := now, suppressed := 0 }
      (false, table.set i { e with lastRefusal := now })
    else
      let e := if e.limited ∧ burstCooldown ≤ now - e.lastRefusal then
        { e with limited := false, suppressed := 0 } else e
      (true, table.set i { e with inFlight := e.inFlight + 1 })
  | none =>
    match s.spare with
    | none => (true, table)
    | some i =>
      (true, table.set i { table.getD i {} with
        subject := subject, inFlight := 1, lastSeen := 0, limited := false, suppressed := 0,
        lastRefusal := 0, used := true })

/-- `ident_leave`. -/
def leave (table : List Ident) (subject : Bytes) (served : Bool) (now : Int) : List Ident :=
  match table.findIdx? fun e => e.used && 0 < e.inFlight && e.subject == subject with
  | none => table
  | some i =>
    let e := table.getD i {}
    table.set i { e with
      inFlight := e.inFlight - 1, lastSeen := if served then now else e.lastSeen }

end Ident

/-! ## The service -/

/-- What the calls of one pooled session use. -/
structure Session (P : Provider) where
  find : FindSlot := {}
  sign : Op P := {}
  verify : Op P := {}

/-- The state of the service: the token, its sessions and the two tables; and the requests that
were admitted and are not answered yet, by connection. -/
structure State (P : Provider) where
  tok : Token
  sessions : UInt64 → Session P
  budget : List Budget
  idents : List Ident
  pending : List (Nat × Request)

/-- The policy, the number of workers and `g_slot_id`. -/
structure Config where
  policy : List Rule
  workers : Nat
  slotId : UInt64

/-- What an answer meets: the session from the pool, the module around the token, and the clock as
`budget_charge` and `ident_leave` read it. -/
structure Circumstances (P : Provider) where
  session : UInt64
  errorState : Bool
  strict : Bool
  gmacAlias : Bool
  initSeed : P.Seed
  callSeed : P.Seed
  chargeNow : Int
  leaveNow : Int

inductive Event (P : Provider)
  /-- A request, or the status that `read_request` refused it with, and the clock as
  `budget_retry_after` and `ident_enter` read it. -/
  | arrive (conn : Nat) (request : Except Nat Request) (budgetNow identNow : Int)
  | answer (conn : Nat) (env : Circumstances P)

/-- `fhsm_pack_field`. -/
def packField (src : Bytes) (n : Nat) : Bytes :=
  let text := (cstr src).take n
  text ++ List.replicate (n - text.length) 0x20

/-- The text of a field without the blanks at its end. -/
def unpackField (field : Bytes) : Bytes := (field.reverse.dropWhile (· == 0x20)).reverse

/-- What `serve` takes from `C_GetTokenInfo`: the label and the serial number. -/
def tokenInfo (cfg : Config) (tok : Token) : Option (Bytes × Bytes) :=
  if maxSlots ≤ cfg.slotId.toNat then none
  else some (unpackField (packField tok.header.label.toList 32),
    unpackField (packField tok.header.serial.toList 16))

/-- The template of `find_key`. -/
def keyTemplate (label : Bytes) (cls : UInt32) : Template :=
  [⟨ckaClass, .bytes (le64 cls.toUInt64), []⟩, ⟨ckaLabel, .bytes label, []⟩]

/-- `find_key`: the first object of a class and label, and the find slot afterwards. A search that
fails leaves its slot active. -/
def findKey (tok : Token) (label : Bytes) (cls : UInt32) (f : FindSlot) : Option UInt32 × FindSlot :=
  match f.init tok (.list (keyTemplate label cls)) with
  | (.error _, f) => (none, f)
  | (.ok (), f) =>
    let r := f.next 1
    let handle := match r.1 with
      | .ok (h :: _) => if h = 0 then none else some h
      | _ => none
    (handle, r.2.final.2)

section

variable {P : Provider}

variable (cfg : Config) (env : Circumstances P) (tok : Token)

/-- The module as a call of the service meets it. -/
def Circumstances.opEnv (seed : P.Seed) : OpEnv P where
  tok := some tok
  errorState := env.errorState
  strict := env.strict
  gmacAlias := env.gmacAlias
  seed := seed

/-- `CKM_COMPOSITE_` without a parameter. -/
def compositeMech : Mech := ⟨ckmCompositeMldsa65Ed25519, .null 0, fun _ => 0⟩

/-- `sizeof sig`. -/
def sigBuffer : Nat := 8192

/-- `C_SignInit` and `C_Sign`. -/
def signWithKey (key : UInt32) (body : Bytes) (op : Op P) : Option Bytes × Op P :=
  match signInit (env.opEnv tok env.initSeed) (some compositeMech) key.toUInt64 op with
  | (.error _, op) => (none, op)
  | (.ok _, op) =>
    match sign (env.opEnv tok env.callSeed) (.bytes body) (.room sigBuffer) op with
    | (.ok (.data sig), op) => (some sig, op)
    | (_, op) => (none, op)

/-- `do_sign`. -/
def doSign (subject : Bytes) (r : Request) (s : Session P) : Except Verdict Response × Session P :=
  match r.key with
  | none => (.error ⟨400, .noKeyHeader⟩, s)
  | some key =>
    if r.keyRepeated then (.error ⟨400, .keyRepeated⟩, s)
    else if r.body = [] then (.error ⟨400, .emptyBody⟩, s)
    else
      let permitted := permits cfg.policy subject key
      let f := findKey tok key ckoPrivateKey s.find
      let s := { s with find := f.2 }
      match permitted, f.1 with
      | true, some handle =>
        let r := signWithKey env tok handle r.body s.sign
        let s := { s with sign := r.2 }
        match r.1 with
        | some sig => (.ok { status := 200, body := .signature sig }, s)
        | none => (.error ⟨500, .signFailed⟩, s)
      | _, _ => (.error ⟨403, .notAuthorised⟩, s)

/-- `C_VerifyInit` and `C_Verify`: valid, invalid or an error. -/
def verifyWithKey (key : UInt32) (data sig : Bytes) (op : Op P) : Option Bool × Op P :=
  match verifyInit (env.opEnv tok env.initSeed) (some compositeMech) key.toUInt64 op with
  | (.error (.rv .signatureInvalid), op) => (some false, op)
  | (.error _, op) => (none, op)
  | (.ok _, op) =>
    match verify (env.opEnv tok env.callSeed) (.bytes data) (.bytes sig) op with
    | (.ok _, op) => (some true, op)
    | (.error (.rv .signatureInvalid), op) => (some false, op)
    | (_, op) => (none, op)

/-- `do_verify`. -/
def doVerify (subject : Bytes) (r : Request) (s : Session P) :
    Except Verdict Response × Session P :=
  match r.key with
  | none => (.error ⟨400, .noKeyHeader⟩, s)
  | some key =>
    if r.keyRepeated then (.error ⟨400, .keyRepeated⟩, s)
    else match r.siglen with
      | none => (.error ⟨400, .noSignatureLength⟩, s)
      | some siglen =>
        if r.siglenRepeated then (.error ⟨400, .signatureLengthRepeated⟩, s)
        else if r.body = [] then (.error ⟨400, .emptyBody⟩, s)
        else if r.body.length ≤ siglen then (.error ⟨400, .signatureLengthCoversBody⟩, s)
        else
          let permitted := permits cfg.policy subject key
          let f := findKey tok key ckoPublicKey s.find
          let s := { s with find := f.2 }
          match permitted, f.1 with
          | true, some handle =>
            let v := verifyWithKey env tok handle (r.body.drop siglen) (r.body.take siglen) s.verify
            let s := { s with verify := v.2 }
            match v.1 with
            | some true => (.ok { status := 200, body := .valid }, s)
            | some false => (.ok { status := 422, body := .invalid }, s)
            | none => (.error ⟨500, .verifyFailed⟩, s)
          | _, _ => (.error ⟨403, .notAuthorised⟩, s)

/-- The routes of `serve`. -/
def route (subject : Bytes) (r : Request) (s : Session P) : Except Verdict Response × Session P :=
  match r.target, r.method with
  | .health, .get => (.ok { status := 200, body := .ok }, s)
  | .token, .get =>
    match tokenInfo cfg tok with
    | none => (.error ⟨503, .tokenUnavailable⟩, s)
    | some (label, serial) => (.ok { status := 200, body := .token label serial }, s)
  | .sign, .post => doSign cfg env tok subject r s
  | .sign, .get => (.error ⟨405, .wrongMethod⟩, s)
  | .verify, .post => doVerify cfg env tok subject r s
  | .verify, .get => (.error ⟨405, .wrongMethod⟩, s)
  | .certificates, _ | .ocsp, _ =>
    (.ok { status := 404, extra := some .link, body := .notHere }, s)
  | _, _ => (.error ⟨404, .unknownRoute⟩, s)

/-- The response to a refusal. -/
def refusal (v : Verdict) (retryAfter : Int) : Response where
  status := v.status
  extra := if v.status = 429 then some (.retryAfter (if 0 < retryAfter then retryAfter else 1))
    else none
  body := .refused

/-- `serve` until the request is admitted or refused. -/
def arrive (conn : Nat) (request : Except Nat Request) (budgetNow identNow : Int) (s : State P) :
    Option Response × State P :=
  match request with
  | .error status => (some (refusal ⟨status, .unreadable⟩ 0), s)
  | .ok r =>
    if r.subjectRepeated then (some (refusal ⟨400, .subjectRepeated⟩ 0), s)
    else match r.subject with
      | none => (some (refusal ⟨403, .noIdentity⟩ 0), s)
      | some subject =>
        let wait := Budget.retryAfter s.budget subject budgetNow
        if 0 < wait then (some (refusal ⟨429, .refusalBudget⟩ wait), s)
        else
          let e := Ident.enter cfg.workers s.idents subject identNow
          let s := { s with idents := e.2 }
          if e.1 then (none, { s with pending := s.pending ++ [(conn, r)] })
          else (some (refusal ⟨429, .tooManyInFlight⟩ 0), s)

/-- `serve` from the routes on. -/
def answerRequest (r : Request) (s : State P) : Response × State P :=
  let subject := r.subject.getD []
  let a := route cfg env s.tok subject r (s.sessions env.session)
  let s := { s with sessions := fun h => if h = env.session then a.2 else s.sessions h }
  match a.1 with
  | .ok response =>
    (response, { s with idents := Ident.leave s.idents subject true env.leaveNow })
  | .error v =>
    let s := if v.reason = .notAuthorised then
      { s with budget := Budget.charge s.budget subject env.chargeNow } else s
    (refusal v 0, { s with idents := Ident.leave s.idents subject false env.leaveNow })

/-- The answer of a connection that is waiting for one. -/
def answer (conn : Nat) (env : Circumstances P) (s : State P) : Option Response × State P :=
  match s.pending.find? (·.1 == conn) with
  | none => (none, s)
  | some (_, r) =>
    let a := answerRequest cfg env r
      { s with pending := s.pending.eraseP (·.1 == conn) }
    (some a.1, a.2)

def step (s : State P) : Event P → Option Response × State P
  | .arrive conn request budgetNow identNow => arrive cfg conn request budgetNow identNow s
  | .answer conn env => answer cfg conn env s

end

end FreeHsm.Service
