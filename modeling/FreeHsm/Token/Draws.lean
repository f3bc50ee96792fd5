import Mathlib.Data.List.TakeWhile
import FreeHsm.Drbg
import FreeHsm.Token.Authenticity
import FreeHsm.Token.PinChange

/-!
# Random bytes in the token file

The token functions draw serial numbers, salts, DEKs and nonces with `fhsm_rng_bytes` and do
not look at the result. A draw that fails latches the error state (`drbgBytes_failed`), and
PBKDF2 and AES-GCM refuse to run in it. Here every draw of every call may fail, and a run
remembers the draws that succeeded.

Two calls leave a header in memory that must not reach the file: one that draws for the header
and met a failed draw, and a reinitialisation that failed after it had wiped the wraps. Such a
token is `torn`. Neither call writes it. In the error state the PIN functions do not write it
either (`file_of_spared`), since each of them starts with a key derivation.
-/

namespace FreeHsm

open ByteLayout Token Transition Bool TokenOp
open List hiding Vector

/-! ## Draws -/

/-- What a call of `fhsm_rng_bytes` is for. -/
inductive Site
  | serial
  | salt
  | saltUser
  | dek
  | wrapNonce
  | blobNonce
  | key
  | iv
  deriving DecidableEq

/-- What it did, and what the buffer holds then. -/
structure Draw (n : Nat) where
  ok : Bool
  bytes : Vector UInt8 n

/-- The draws of one token function. -/
structure Draws where
  serial : Draw 8
  salt : Draw 16
  saltUser : Draw 16
  dek : Draw 32
  wrapNonce : Draw 12
  blobNonce : Draw 12

/-- What a function meets. `early` says that the draws before the key derivation succeeded; when one
after it fails, the encryption that follows refuses and leaves its buffer alone. -/
def Draws.env (dr : Draws) (error early : Bool) (env : Env) : Env :=
  { env with
    moduleError := error || !early
    rngSerial := dr.serial.bytes
    rngSalt := dr.salt.bytes
    rngSaltUser := dr.saltUser.bytes
    rngDek := dr.dek.bytes
    rngWrapNonce := dr.wrapNonce.bytes
    rngBlobNonce := dr.blobNonce.bytes
    wrapErr := if dr.wrapNonce.ok then env.wrapErr else some (.functionFailed, zeroWrap.ct)
    blobErr := if dr.blobNonce.ok then env.blobErr else some .functionFailed }

def Draw.at {n : Nat} (d : Draw n) (site : Site) : Site × Bool × Bytes := (site, d.ok, d.bytes.toList)

namespace TokenOp

/-- The draws a call makes, in their order; `dr₀` are those of the login inside
`fhsm_token_set_pin`. A new token has no objects, so no blob is written with it. -/
def made (dr dr₀ : Draws) : TokenOp → List (Site × Bool × Bytes)
  | .init .. => [dr.serial.at .serial, dr.salt.at .salt, dr.saltUser.at .saltUser, dr.dek.at .dek,
      dr.wrapNonce.at .wrapNonce]
  | .reinit .. => [dr.serial.at .serial, dr.salt.at .salt, dr.dek.at .dek, dr.wrapNonce.at .wrapNonce]
  | .initUserPin .. =>
    [dr.salt.at .salt, dr.wrapNonce.at .wrapNonce, dr.blobNonce.at .blobNonce]
  | .setPin .. => [dr₀.blobNonce.at .blobNonce, dr.salt.at .salt, dr.wrapNonce.at .wrapNonce,
      dr.blobNonce.at .blobNonce]
  | .login .. | .verifyPin .. | .object .. => [dr.blobNonce.at .blobNonce]
  | .load _ | .close | .logout => []

def reinits : TokenOp → Bool
  | .reinit .. => true
  | _ => false

/-- The call with its draws. -/
def drawing (error : Bool) (dr dr₀ : Draws) : TokenOp → TokenOp
  | .init env soPin label =>
    .init (dr.env error (dr.serial.ok && dr.salt.ok && dr.saltUser.ok && dr.dek.ok) env) soPin label
  | .reinit env newSoPin label =>
    .reinit (dr.env error (dr.serial.ok && dr.salt.ok && dr.dek.ok) env) newSoPin label
  | .initUserPin env pin => .initUserPin (dr.env error (dr.salt.ok && dr.wrapNonce.ok) env) pin
  | .setPin loginEnv env role oldPin newPin =>
    .setPin (dr₀.env error true loginEnv)
      (dr.env (error || !dr₀.blobNonce.ok) (dr.salt.ok && dr.wrapNonce.ok) env) role oldPin newPin
  | .login env role pin => .login (dr.env error true env) role pin
  | .verifyPin env role pin => .verifyPin (dr.env error true env) role pin
  | .object env op => .object (dr.env error true env) op
  | .load env => .load { env with moduleError := error }
  | .close => .close
  | .logout => .logout

/-- The draws that the header and the DEK in memory are made of succeed. -/
def drawsOk (error : Bool) (dr dr₀ : Draws) : TokenOp → Bool
  | .init .. => !error && dr.serial.ok && dr.salt.ok && dr.saltUser.ok && dr.dek.ok && dr.wrapNonce.ok
  | .reinit .. => !error && dr.serial.ok && dr.salt.ok && dr.dek.ok && dr.wrapNonce.ok
  | .initUserPin .. => !error && dr.salt.ok && dr.wrapNonce.ok
  | .setPin .. => !error && dr₀.blobNonce.ok && dr.salt.ok && dr.wrapNonce.ok
  | _ => true

theorem reinits_drawing (op : TokenOp) (error : Bool) (dr dr₀ : Draws) :
    (op.drawing error dr dr₀).reinits = op.reinits := by
  cases op <;> rfl

end TokenOp

/-- The draws that succeeded. After one that failed, and in the error state, none does. -/
def produced (error : Bool) (made : List (Site × Bool × Bytes)) : List (Site × Bytes) :=
  if error then [] else (made.takeWhile (·.2.1)).map fun m => (m.1, m.2.2)

/-- The error state after the draws. -/
def latches (error : Bool) (made : List (Site × Bool × Bytes)) : Bool :=
  error || made.any (!·.2.1)

/-- `fhsm_drbg_bytes` behaves as a draw. -/
theorem drbgBytes_draw {rounds : Nat → Round} {s s' : Drbg} {buf out : Bytes} {e : Option Err}
    (hready : s.Ready) (hbuf : buf ≠ []) (h : drbgBytes rounds s buf = (e, out, s')) (site : Site) :
    s'.error = latches s.error [(site, e.isNone, out)] ∧
      produced s.error [(site, e.isNone, out)] =
        if e.isNone then [(site, randOutput rounds 1 buf.length)] else [] := by
  cases e with
  | none =>
    obtain ⟨herror, hout⟩ := drbgBytes_ok hready h
    have hrun : s.error = false := by
      cases hs : s.error with
      | false => rfl
      | true =>
        rw [drbgBytes, hs, if_pos rfl] at h
        cases h
    simp [latches, produced, herror, hrun, hout]
  | some e =>
    have herror := drbgBytes_failed hready hbuf h nofun
    simp [latches, produced, herror]

/-! ## Encryptions -/

/-- The nonce an event encrypted under. -/
def Event.use : Event → Option (Site × Bytes)
  | .wrapped _ nonce _ _ => some (.wrapNonce, nonce.toList)
  | .sealed _ _ nonce => some (.blobNonce, nonce.toList)
  | _ => none

def uses (log : List Event) : List (Site × Bytes) := log.filterMap Event.use

/-- The nonce for wrapping a DEK, unless the encryption is bound to fail. -/
def Env.wrapUse (env : Env) : List (Site × Bytes) :=
  if env.moduleError || env.wrapErr.isSome then [] else [(.wrapNonce, env.rngWrapNonce.toList)]

/-- The nonce for the objects. -/
def Env.blobUse (env : Env) : List (Site × Bytes) :=
  if env.moduleError || env.blobErr.isSome then [] else [(.blobNonce, env.rngBlobNonce.toList)]

/-- A DEK was wrapped. -/
def Wrapped (log : List Event) (dek : Key) : Prop :=
  ∃ kek nonce aad, .wrapped kek nonce aad dek ∈ log

/-- The history has grown by encryptions under nonces of `l`, each used once and in this order, and
by wraps of DEKs that are `P`. -/
def Adds (d d' : Disk) (l : List (Site × Bytes)) (P : Key → Prop) : Prop :=
  ∃ new, d'.log = d.log ++ new ∧ List.Sublist (uses new) l ∧ ∀ dek, Wrapped new dek → P dek

section

variable {d d₁ d' : Disk} {l l₁ l₂ : List (Site × Bytes)} {P Q : Key → Prop} {es es' : List Event}

theorem uses_append (es es' : List Event) : uses (es ++ es') = uses es ++ uses es' :=
  filterMap_append

theorem wrapped_append {dek : Key} : Wrapped (es ++ es') dek ↔ Wrapped es dek ∨ Wrapped es' dek := by
  simp only [Wrapped, mem_append, exists_or]

theorem not_wrapped_of_uses (h : uses es = []) (dek : Key) : ¬ Wrapped es dek := by
  rintro ⟨kek, nonce, aad, hmem⟩
  cases filterMap_eq_nil_iff.1 h _ hmem

theorem Adds.refl (d : Disk) (l : List (Site × Bytes)) (P : Key → Prop) : Adds d d l P :=
  ⟨[], (append_nil _).symm, nil_sublist _, fun dek h => absurd h (not_wrapped_of_uses rfl dek)⟩

theorem Adds.trans (h₁ : Adds d d₁ l₁ P) (h₂ : Adds d₁ d' l₂ P) : Adds d d' (l₁ ++ l₂) P := by
  obtain ⟨new₁, hlog₁, huse₁, hdek₁⟩ := h₁
  obtain ⟨new₂, hlog₂, huse₂, hdek₂⟩ := h₂
  refine ⟨new₁ ++ new₂, by rw [hlog₂, hlog₁, append_assoc], ?_, fun dek h => ?_⟩
  · rw [uses_append]
    exact huse₁.append huse₂
  · exact (wrapped_append.1 h).elim (hdek₁ dek) (hdek₂ dek)

theorem Adds.mono (h : Adds d d' l₁ P) (hl : List.Sublist l₁ l₂) (hP : ∀ dek, P dek → Q dek) :
    Adds d d' l₂ Q := by
  obtain ⟨new, hlog, huse, hdek⟩ := h
  exact ⟨new, hlog, huse.trans hl, fun dek h => hP dek (hdek dek h)⟩

theorem Adds.quiet (d : Disk) (h : uses es = []) (l : List (Site × Bytes)) (P : Key → Prop) :
    Adds d (d.record es) l P :=
  ⟨es, rfl, h ▸ nil_sublist _, fun dek hmem => absurd hmem (not_wrapped_of_uses h dek)⟩

end

section

variable {C : Crypto} {env : Env} {t t' : Token} {d d' : Disk} {rv : Rv} {role : Role} {pin : Bytes}
  {es : List Event}

/-- A write encrypts at most once, and wraps nothing; a store without objects it does not encrypt. -/
theorem writeAtomic_adds (h : writeAtomic C env t d = (rv, d')) (P : Key → Prop) :
    Adds d d' (if t.objects.objs = [] then [] else env.blobUse) P := by
  cases writeAtomic_cases h with
  | failed | kept | emptied => exact ⟨[.wrote _], rfl, nil_sublist _, by simp [Wrapped]⟩
  | lost dek hdek hloaded hobjs hcan | stored dek hdek hloaded ct tag hseal hobjs hcan =>
    rw [if_neg hobjs, Env.blobUse, if_neg (by simp [hcan])]
    exact ⟨[.sealed t dek env.rngBlobNonce, .wrote _], rfl, .refl _, by simp [Wrapped]⟩

/-- A write after events that use no nonce. -/
theorem Adds.write (huse : uses es = []) (h : writeAtomic C env t (d.record es) = (rv, d'))
    (P : Key → Prop) : Adds d d' env.blobUse P := by
  refine ((Adds.quiet d huse [] P).trans (writeAtomic_adds h P)).mono ?_ fun _ hk => hk
  split
  · exact nil_sublist _
  · exact List.Sublist.refl _

theorem Token.Tried.uses_eq {r : Option Key} (h : Tried C t role pin r es) : uses es = [] := by
  rcases h.events with ⟨-, rfl⟩ | ⟨pt, -, rfl⟩ <;> rfl

theorem login_adds (h : LoginOutcome C env t role pin d rv t' d') (P : Key → Prop) :
    Adds d d' env.blobUse P := by
  cases h with
  | refused => exact .refl _ _ _
  | wrong es htried => exact .write htried.uses_eq rfl P
  | tpmRefused dek es htried => exact .quiet d htried.uses_eq _ _
  | accepted dek es es' htried hrole hfree htpm t₁ t' ht₁ hload =>
    refine .write ?_ rfl P
    rw [uses_append, htried.uses_eq]
    rcases (loadIfNeeded_frame hload).2 with rfl | ⟨key, nonce, aad, ct, tag, pt, rfl⟩ <;> rfl

theorem verifyPin_adds (h : VerifyOutcome C env t role pin d rv t' d') (P : Key → Prop) :
    Adds d d' env.blobUse P := by
  cases h with
  | refused => exact .refl _ _ _
  | wrong es htried => exact .write htried.uses_eq rfl P
  | right dek es htried =>
    refine .write ?_ rfl P
    rw [uses_append, htried.uses_eq]
    rfl

theorem object_adds (h : StoreStep C env t d rv t' d') (P : Key → Prop) :
    Adds d d' env.blobUse P := by
  rcases h with ⟨-, rfl⟩ | ⟨objs, next, -, hwrite⟩
  · exact .refl _ _ _
  · rw [← Disk.record_nil d] at hwrite
    exact .write rfl hwrite P

/-- A wrap that was made, with events that use no nonce after it. -/
theorem Adds.wrap (hcan : CanWrap env) {kek dek : Key} {aad : Bytes} (d : Disk) (hes : uses es = []) :
    Adds d (d.record (.wrapped kek env.rngWrapNonce aad dek :: es)) env.wrapUse (· = dek) := by
  refine ⟨_, rfl, ?_, fun k hk => ?_⟩
  · rw [Env.wrapUse, if_neg (by simp [hcan.running, hcan.wrap])]
    exact .cons_cons _ (hes ▸ nil_sublist _)
  · obtain ⟨_, _, _, hmem⟩ := hk
    rcases mem_cons.1 hmem with heq | hmem
    · exact (Event.wrapped.inj heq).2.2.2
    · exact absurd ⟨_, _, _, hmem⟩ (not_wrapped_of_uses hes k)

/-- The wrap of a new DEK and the write of a token without objects. -/
theorem Adds.fresh (hcan : CanWrap env) {kek dek : Key} {aad : Bytes} (hempty : t.objects.objs = [])
    (h : writeAtomic C env t (d.record
      [.wrapped kek env.rngWrapNonce aad dek, .cleared .so, .cleared .user]) = (rv, d')) :
    Adds d d' env.wrapUse (· = dek) := by
  have hwrite := writeAtomic_adds h (· = dek)
  rw [if_pos hempty] at hwrite
  exact ((Adds.wrap hcan d rfl).trans hwrite).mono (by rw [append_nil]) fun _ hk => hk

/-- A login that succeeds unwrapped a DEK that was wrapped before. -/
theorem login_wrapped (h : LoginOutcome C env t role pin d .ok t' d')
    (hforge : Unforged (fun _ => True) d'.log) :
    ∃ dek, t'.dek = some ⟨dek, true⟩ ∧ Wrapped d.log dek := by
  obtain ⟨dek, es, es', htried, -, -, -, -, hdek, rfl⟩ := login_accepted h
  rcases hwrite : writeAtomic C env t' (d.record (es ++ .cleared role :: es')) with ⟨rv', d'⟩
  obtain ⟨new, hnew⟩ := writeAtomic_log hwrite
  rw [hwrite, hnew, Disk.log_record, append_assoc, append_assoc] at hforge
  exact ⟨dek, hdek, htried.dek_wrapped (fun _ _ => trivial) hforge⟩

end

/-- The nonces a call may encrypt under, in their order. -/
def TokenOp.nonces : TokenOp → List (Site × Bytes)
  | .init env .. | .reinit env .. => env.wrapUse
  | .initUserPin env .. => env.wrapUse ++ env.blobUse
  | .setPin loginEnv env .. => loginEnv.blobUse ++ (env.wrapUse ++ env.blobUse)
  | .login env .. | .verifyPin env .. | .object env .. => env.blobUse
  | .load _ | .close | .logout => []

/-- The environment a call draws a new DEK in. -/
def TokenOp.creates : TokenOp → Option Env
  | .init env .. | .reinit env .. => some env
  | _ => none

/-- The call can wrap a DEK. -/
def TokenOp.CanWrap : TokenOp → Prop
  | .init env .. | .reinit env .. | .initUserPin env .. | .setPin _ env .. => Token.CanWrap env
  | _ => False

/-- The nonces a call encrypts under are its own, each used once. The DEKs it wraps are new ones, the
live one of whoever is logged in, and those that were wrapped before. -/
theorem call_adds {C : Crypto} {v v' : World} {op : TokenOp} {rv : Rv} {P : Key → Prop}
    (hcase : CallOutcome C v op rv v') (hforge : Unforged (fun _ => True) v'.disk.log)
    (hfresh : ∀ env, op.creates = some env → CanWrap env → P env.rngDek)
    (hlive : ∀ env pin, op = .initUserPin env pin → CanWrap env → ∀ t k, v.tok = some t →
      t.loggedIn ≠ .none → t.liveDek = some k → P k)
    (hold : ∀ k, Wrapped v.disk.log k → P k) : Adds v.disk v'.disk op.nonces P := by
  cases hcase with
  | idle | load | close | logout => exact .refl _ _ _
  | login _ _ _ _ _ _ _ _ h => exact login_adds h P
  | verifyPin _ _ _ _ _ _ _ _ h => exact verifyPin_adds h P
  | object _ _ _ _ _ _ _ _ h => exact object_adds h P
  | init env _ _ _ _ _ _ h =>
    have hnew : ∀ k, k = env.rngDek → CanWrap env → P k := by
      rintro _ rfl hcan
      exact hfresh env rfl hcan
    cases h with
    | refused => exact .refl _ _ _
    | notSealed e hcan => exact (Adds.wrap hcan _ rfl).mono (List.Sublist.refl _) fun k hk => hnew k hk hcan
    | written rv d' hwrite hcan =>
      exact (Adds.fresh hcan rfl hwrite).mono (List.Sublist.refl _) fun k hk => hnew k hk hcan
  | reinit env _ _ _ _ _ _ _ h =>
    cases h with
    | refused | noBuffer | notWrapped => exact .refl _ _ _
    | written rv d' hwrite hcan =>
      refine (Adds.fresh hcan rfl hwrite).mono (List.Sublist.refl _) ?_
      rintro _ rfl
      exact hfresh env rfl hcan
  | initUserPin env pin _ t _ _ htok h =>
    cases h with
    | refused | failed => exact .refl _ _ _
    | done dek es t₁ t' rv d' hso hdek hre ht' hwrite =>
      cases hre with | done hcan =>
      rw [← Disk.record_record] at hwrite
      refine Adds.trans ((Adds.wrap hcan _ rfl).mono (List.Sublist.refl _) ?_) (.write rfl hwrite P)
      rintro k rfl
      exact hlive env pin rfl hcan t k htok (by rw [hso]; nofun) hdek
  | setPin loginEnv env _ _ _ _ t _ _ htok h =>
    cases h with
    | refused => exact .refl _ _ _
    | noLogin _ _ _ hlogin | failed _ _ _ _ _ hlogin =>
      exact (login_adds hlogin P).mono (sublist_append_left _ _) fun _ hk => hk
    | done dek es t₁ t' d₁ d' rv hlogin hdek hre hwrite =>
      cases hre with | done hcan =>
      -- the DEK comes from a wrap
      obtain ⟨new, hnew⟩ := writeAtomic_log hwrite
      rw [hnew, Disk.log_record, append_assoc] at hforge
      obtain ⟨key, hkey, hwrapped⟩ := login_wrapped hlogin hforge.of_append
      rw [hkey] at hdek
      refine (login_adds hlogin P).trans ?_
      rw [← Disk.record_nil (d₁.record _)] at hwrite
      refine Adds.trans ((Adds.wrap hcan _ rfl).mono (List.Sublist.refl _) ?_) (.write rfl hwrite P)
      rintro _ rfl
      exact hdek ▸ hold key hwrapped

/-! ## What the file is made of -/

/-- The serial number of a header, and the salt and nonce of every role that has a PIN, were drawn. -/
structure HeaderDrawn (drawn : List (Site × Bytes)) (h : Header) : Prop where
  serial : ∃ (b : Vector UInt8 8) (old : Vector UInt8 64), (.serial, b.toList) ∈ drawn ∧
    h.serial = snprintfInto old (serialText b)
  wrap : ∀ role, role ≠ .none → (role = .user → h.userInitialized = true) →
    (.salt, (h.wrap.get role).salt.toList) ∈ drawn ∧
      (.wrapNonce, (h.wrap.get role).nonce.toList) ∈ drawn

/-- The header in a token file. -/
def FileDrawn (drawn : List (Site × Bytes)) (file : Option Bytes) : Prop :=
  ∀ f h, file = some f → Header.decode f = some h → HeaderDrawn drawn h

/-- Whoever is logged in works with a DEK that was drawn. -/
def LiveDrawn (drawn : List (Site × Bytes)) (t : Token) : Prop :=
  t.loggedIn ≠ .none → ∀ key, t.liveDek = some key → (.dek, key.toList) ∈ drawn

/-- The token in memory. Its header may be unfit to be written, and its DEK unfit to be used. -/
structure TokDrawn (drawn : List (Site × Bytes)) (fit live : Prop) (t : Token) : Prop where
  header : fit → HeaderDrawn drawn t.header
  dek : live → LiveDrawn drawn t

section

variable {C : Crypto} {env : Env} {t t' : Token} {d d' : Disk} {rv : Rv} {role : Role} {pin : Bytes}
  {drawn more : List (Site × Bytes)} {old fit live : Prop}

theorem HeaderDrawn.append {h : Header} (hd : HeaderDrawn drawn h) (more : List (Site × Bytes)) :
    HeaderDrawn (drawn ++ more) h := by
  obtain ⟨b, old, hb, hserial⟩ := hd.serial
  refine ⟨⟨b, old, mem_append_left _ hb, hserial⟩, fun role hrole hinit => ?_⟩
  have hw := hd.wrap role hrole hinit
  exact ⟨mem_append_left _ hw.1, mem_append_left _ hw.2⟩

theorem FileDrawn.append {file : Option Bytes} (hd : FileDrawn drawn file)
    (more : List (Site × Bytes)) : FileDrawn (drawn ++ more) file :=
  fun f h hf hh => (hd f h hf hh).append more

theorem HeaderDrawn.congr {h h' : Header} (hd : HeaderDrawn drawn h) (hserial : h'.serial = h.serial)
    (hwrap : h'.wrap = h.wrap) (huser : h'.userInitialized = h.userInitialized) :
    HeaderDrawn drawn h' := by
  refine ⟨by rw [hserial]; exact hd.serial, fun role hrole hinit => ?_⟩
  rw [hwrap]
  exact hd.wrap role hrole (huser ▸ hinit)

theorem FileDrawn.write (h : writeAtomic C env t d = (rv, d')) (ht : HeaderDrawn drawn t.header)
    (hd : FileDrawn drawn d.file) : FileDrawn drawn d'.file := by
  have hnew : ∀ tail, FileDrawn drawn (some (t.header.encode ++ tail)) := by
    intro tail f hdr hf hdecode
    cases hf
    rw [Header.decode_encode] at hdecode
    cases hdecode
    exact ht
  cases writeAtomic_cases h with
  | failed | lost => exact hd
  | kept | emptied | stored => exact hnew _

theorem LiveDrawn.of_none (h : t.loggedIn = .none) : LiveDrawn drawn t := fun hne => absurd h hne

section

variable (ht : TokDrawn drawn old live t)

include ht

theorem TokDrawn.imp (himp : fit → old) : TokDrawn drawn fit live t :=
  ⟨fun hfit => ht.header (himp hfit), ht.dek⟩

theorem TokDrawn.congr (hserial : t'.header.serial = t.header.serial)
    (hwrap : t'.header.wrap = t.header.wrap)
    (huser : t'.header.userInitialized = t.header.userInitialized) (hin : t'.loggedIn = t.loggedIn)
    (hdek : t'.dek = t.dek) : TokDrawn drawn old live t' := by
  refine ⟨fun hold => (ht.header hold).congr hserial hwrap huser, fun hlive hne key hkey => ?_⟩
  refine ht.dek hlive (hin ▸ hne) key ?_
  rw [← hkey, liveDek, liveDek, hdek]

/-- The token is written. -/
theorem TokDrawn.write (hfile : FileDrawn drawn d.file) {es : List Event}
    (h : writeAtomic C env t (d.record es) = (rv, d')) :
    TokDrawn drawn old live t ∧ (old → FileDrawn drawn d'.file) :=
  ⟨ht, fun hold => .write h (ht.header hold) hfile⟩

theorem TokDrawn.login (hfile : FileDrawn drawn d.file)
    (h : LoginOutcome C env t role pin d rv t' d')
    (hdeks : ∀ k, Wrapped d.log k → (.dek, k.toList) ∈ drawn)
    (hforge : Unforged (fun _ => True) d'.log) :
    TokDrawn drawn old live t' ∧ (old → FileDrawn drawn d'.file) := by
  obtain ⟨failed, hheader⟩ := login_header h
  have hsame : old → HeaderDrawn drawn t'.header := by
    intro hold
    rw [hheader]
    exact (ht.header hold).congr rfl rfl rfl
  cases hcase : h with
  | refused => exact ⟨ht, fun _ => hfile⟩
  | wrong es htried hrole t' ht' =>
    refine TokDrawn.write ⟨hsame, fun _ => ?_⟩ hfile rfl
    subst ht'
    nofun
  | tpmRefused dek es htried hrole hfree => exact ⟨⟨hsame, fun _ => .of_none hfree⟩, fun _ => hfile⟩
  | accepted =>
    refine TokDrawn.write ⟨hsame, fun _ _ key hkey => ?_⟩ hfile rfl
    obtain ⟨dek, hdek, hwrapped⟩ := login_wrapped h hforge
    rw [liveDek, hdek] at hkey
    cases hkey
    exact hdeks _ hwrapped

theorem TokDrawn.verifyPin (hfile : FileDrawn drawn d.file)
    (h : VerifyOutcome C env t role pin d rv t' d') :
    TokDrawn drawn old live t' ∧ (old → FileDrawn drawn d'.file) := by
  cases h with
  | refused => exact ⟨ht, fun _ => hfile⟩
  | wrong es htried hrole t' ht' | right dek es htried hrole t' ht' =>
    refine TokDrawn.write ?_ hfile rfl
    subst ht'
    exact ht.congr rfl rfl rfl rfl rfl

theorem TokDrawn.object (hfile : FileDrawn drawn d.file) (h : StoreStep C env t d rv t' d') :
    TokDrawn drawn old live t' ∧ (old → FileDrawn drawn d'.file) := by
  rcases h with ⟨rfl, rfl⟩ | ⟨objs, next, rfl, hwrite⟩
  · exact ⟨ht, fun _ => hfile⟩
  · rw [← Disk.record_nil d] at hwrite
    refine TokDrawn.write ?_ hfile hwrite
    exact ht.congr rfl rfl rfl rfl rfl

/-- The draws for a new wrap. -/
def WrapDrawn (drawn : List (Site × Bytes)) (env : Env) : Prop :=
  (.salt, env.rngSalt.toList) ∈ drawn ∧ (.wrapNonce, env.rngWrapNonce.toList) ∈ drawn

theorem TokDrawn.rewrap {dek : Key} {r : Option Err} {es : List Event}
    (h : RewrapOutcome C env t role pin dek r t' es) (hwrap : old → WrapDrawn drawn env) :
    TokDrawn drawn old live t' := by
  have hset : ∀ w : Wrap, w.salt = env.rngSalt → w.nonce = env.rngWrapNonce →
      TokDrawn drawn old live (t.setWrap role w) := by
    intro w hsalt hnonce
    refine ⟨fun hold => ⟨(ht.header hold).serial, fun r hr hinit => ?_⟩, ht.dek⟩
    have hcases : ((t.setWrap role w).header.wrap.get r = w) ∨
        (t.setWrap role w).header.wrap.get r = t.header.wrap.get r := by
      cases role <;> cases r <;> first | exact .inl rfl | exact .inr rfl
    rcases hcases with hget | hget
    · rw [hget, hsalt, hnonce]
      exact hwrap hold
    · rw [hget]
      exact (ht.header hold).wrap r hr hinit
  cases h with
  | failed | done => exact hset _ rfl rfl

section

variable (hfile : FileDrawn drawn d.file) (hfit : fit → old ∧ WrapDrawn drawn env)
  (hcan : CanWrap env → WrapDrawn drawn env)

include hfile hfit hcan

/-- What is written had its draws: without them there is no wrap and no write. -/
theorem TokDrawn.initUserPin (h : InitUserPinOutcome C env t pin d rv t' d') :
    TokDrawn drawn fit live t' ∧ (old → FileDrawn drawn d'.file) := by
  have hkept : TokDrawn drawn fit live t := ht.imp fun h => (hfit h).1
  cases h with
  | refused => exact ⟨hkept, fun _ => hfile⟩
  | failed e dek t' hdek hre => exact ⟨hkept.rewrap hre fun h => (hfit h).2, fun _ => hfile⟩
  | done dek es t₁ t' rv d' hso hdek hre ht' hwrite =>
    have hnew : TokDrawn drawn old live t' := by
      cases hre with | done hwrap =>
      subst ht'
      refine ⟨fun hold => ⟨(ht.header hold).serial, fun role hrole hinit => ?_⟩, ht.dek⟩
      cases role with
      | none => exact absurd rfl hrole
      | so => exact (ht.header hold).wrap .so nofun nofun
      | user => exact hcan hwrap
    exact ⟨hnew.imp fun h => (hfit h).1, (hnew.write hfile hwrite).2⟩

theorem TokDrawn.setPin {loginEnv : Env} {oldPin newPin : Bytes}
    (h : SetPinOutcome C loginEnv env t role oldPin newPin d rv t' d')
    (hdeks : ∀ k, Wrapped d.log k → (.dek, k.toList) ∈ drawn)
    (hforge : Unforged (fun _ => True) d'.log) :
    TokDrawn drawn fit live t' ∧ (old → FileDrawn drawn d'.file) := by
  have himp : fit → old := fun h => (hfit h).1
  cases h with
  | refused => exact ⟨ht.imp himp, fun _ => hfile⟩
  | noLogin e t' d' hlogin =>
    obtain ⟨h₁, hfile₁⟩ := ht.login hfile hlogin hdeks hforge
    exact ⟨h₁.imp himp, hfile₁⟩
  | failed e dek t₁ t' d₁ hlogin hre =>
    obtain ⟨h₁, hfile₁⟩ := ht.login hfile hlogin hdeks hforge
    exact ⟨(h₁.imp himp).rewrap hre fun h => (hfit h).2, hfile₁⟩
  | done dek es t₁ t' d₁ d' rv hlogin hdek hre hwrite =>
    obtain ⟨new, hnew⟩ := writeAtomic_log hwrite
    rw [hnew, Disk.log_record, append_assoc] at hforge
    obtain ⟨h₁, hfile₁⟩ := ht.login hfile hlogin hdeks hforge.of_append
    have h₂ : TokDrawn drawn old live t' := by
      cases hre with | done hwrap =>
      exact h₁.rewrap (.done hwrap) fun _ => hcan hwrap
    exact ⟨h₂.imp himp, fun hold => .write hwrite (h₂.header hold) (hfile₁ hold)⟩

end

end

theorem headerDrawn_fresh {dek : Key} {old : Header} {label : Bytes} {saltUser : Vector UInt8 16}
    (hserial : (.serial, env.rngSerial.toList) ∈ drawn) (hwrap : WrapDrawn drawn env) {h : Header}
    (hs : h.serial = (freshHeader env old label saltUser).serial)
    (hw : h.wrap.so = (freshHeader env old label saltUser).wrapFor C env.rngSalt env.rngWrapNonce pin dek)
    (huser : h.userInitialized = false) : HeaderDrawn drawn h := by
  refine ⟨⟨env.rngSerial, old.serial, hserial, hs⟩, fun role hrole hinit => ?_⟩
  cases role with
  | none => exact absurd rfl hrole
  | so =>
    change (.salt, h.wrap.so.salt.toList) ∈ drawn ∧ (.wrapNonce, h.wrap.so.nonce.toList) ∈ drawn
    rw [hw]
    exact hwrap
  | user =>
    rw [huser] at hinit
    cases hinit rfl

/-- A token that was just loaded has the header of the file, and no DEK. -/
theorem tokDrawn_load {tok : Option Token} (h : LoadOutcome env d rv tok)
    (hfile : FileDrawn drawn d.file) (ht : tok = some t) : TokDrawn drawn fit live t := by
  cases h with
  | refused => cases ht
  | done f header until₀ hf hlen hdecode =>
    obtain ⟨objs, next, pub, hview⟩ := publicViewLoad_frame env
      { zeroed with header := header, throttleUntilMs := until₀ } d.file
    rw [hview] at ht
    cases ht
    exact ⟨fun _ => hfile f header hf hdecode, fun _ => .of_none rfl⟩

end

/-- The draws of a call that reach the header or the DEK in memory are among `drawn`. -/
def DrawsFrom (drawn : List (Site × Bytes)) : TokenOp → Prop
  | .init env .. | .reinit env .. =>
    (.serial, env.rngSerial.toList) ∈ drawn ∧ (.salt, env.rngSalt.toList) ∈ drawn ∧
      (.wrapNonce, env.rngWrapNonce.toList) ∈ drawn ∧ (.dek, env.rngDek.toList) ∈ drawn
  | .initUserPin env .. | .setPin _ env .. =>
    (.salt, env.rngSalt.toList) ∈ drawn ∧ (.wrapNonce, env.rngWrapNonce.toList) ∈ drawn
  | _ => True

/-- Token and file after a call. A header that was unfit stays so, unless a reinitialisation
succeeds. -/
theorem drawn_call {C : Crypto} {v v' : World} {op : TokenOp} {rv : Rv}
    {drawn : List (Site × Bytes)} {old fit live : Prop} (hcase : CallOutcome C v op rv v')
    (hfrom : fit ∨ live ∨ op.CanWrap → DrawsFrom drawn op) (hfile : FileDrawn drawn v.disk.file)
    (htok : ∀ t, v.tok = some t → TokDrawn drawn old live t)
    (hfit : fit → ∀ t, v.tok = some t → if op.reinits then rv = .ok else old)
    (hdeks : ∀ k, Wrapped v.disk.log k → (.dek, k.toList) ∈ drawn)
    (hforge : Unforged (fun _ => True) v'.disk.log) :
    (∀ t, v'.tok = some t → TokDrawn drawn fit live t) ∧
      (old ∨ op.creates.isSome = true → FileDrawn drawn v'.disk.file) := by
  have hsome : ∀ {t' : Token} {d' : Disk},
      TokDrawn drawn fit live t' ∧ (old → FileDrawn drawn d'.file) → op.creates = none →
      (∀ t₁, some t' = some t₁ → TokDrawn drawn fit live t₁) ∧
        (old ∨ op.creates.isSome = true → FileDrawn drawn d'.file) := by
    rintro t' d' ⟨ht, hfile⟩ hop
    rw [hop]
    exact ⟨by rintro _ ⟨⟩; exact ht, fun h => hfile (h.resolve_right nofun)⟩
  have hsame : ∀ {t t' : Token} {d' : Disk}, v.tok = some t →
      TokDrawn drawn old live t' ∧ (old → FileDrawn drawn d'.file) → op.reinits = false →
      TokDrawn drawn fit live t' ∧ (old → FileDrawn drawn d'.file) := by
    intro t t' d' ht h hop
    refine ⟨h.1.imp fun hf => ?_, h.2⟩
    simpa [hop] using hfit hf t ht
  cases hcase with
  | idle =>
    refine ⟨fun t ht => (htok t ht).imp fun hf => ?_, fun _ => hfile⟩
    have hold := hfit hf t ht
    split at hold
    · cases hold
    · exact hold
  | load _ _ _ _ h => exact ⟨fun t ht => tokDrawn_load h hfile ht, fun _ => hfile⟩
  | close => exact ⟨nofun, fun _ => hfile⟩
  | logout t ht =>
    have hnone : TokDrawn drawn old live t.logout := ⟨(htok t ht).header, fun _ => .of_none rfl⟩
    exact hsome (hsame ht ⟨hnone, fun _ => hfile⟩ rfl) rfl
  | login _ _ _ _ t _ _ ht h =>
    exact hsome (hsame ht ((htok t ht).login hfile h hdeks hforge) rfl) rfl
  | verifyPin _ _ _ _ t _ _ ht h => exact hsome (hsame ht ((htok t ht).verifyPin hfile h) rfl) rfl
  | object _ _ _ t _ _ ht _ h => exact hsome (hsame ht ((htok t ht).object hfile h) rfl) rfl
  | initUserPin env _ _ t _ _ ht h =>
    exact hsome ((htok t ht).initUserPin hfile (fun hf => ⟨hfit hf t ht, hfrom (.inl hf)⟩)
      (fun hcan => hfrom (.inr (.inr hcan))) h) rfl
  | setPin _ env _ _ _ _ t _ _ ht h =>
    exact hsome ((htok t ht).setPin hfile (fun hf => ⟨hfit hf t ht, hfrom (.inl hf)⟩)
      (fun hcan => hfrom (.inr (.inr hcan))) h hdeks hforge) rfl
  | init env soPin label _ _ _ _ h =>
    cases h with
    | refused | notSealed => exact ⟨nofun, fun _ => hfile⟩
    | written rv d' hwrite hcan =>
      have hdrawn := hfrom (.inr (.inr hcan))
      have hheader : HeaderDrawn drawn (initialToken C env soPin label).header :=
        headerDrawn_fresh hdrawn.1 ⟨hdrawn.2.1, hdrawn.2.2.1⟩ rfl rfl rfl
      refine ⟨fun t ht => ?_, fun _ => .write hwrite hheader hfile⟩
      split at ht
      · cases ht
        exact ⟨fun _ => hheader, fun _ => .of_none rfl⟩
      · cases ht
  | reinit env newSoPin label _ t _ _ ht h =>
    -- only a success makes the header fit
    cases h with
    | refused | noBuffer =>
      refine ⟨?_, fun _ => hfile⟩
      rintro _ ⟨⟩
      exact ⟨fun hf => absurd (hfit hf t ht) nofun, (htok t ht).dek⟩
    | notWrapped =>
      refine ⟨?_, fun _ => hfile⟩
      rintro _ ⟨⟩
      refine ⟨fun hf => absurd (hfit hf t ht) nofun, ?_⟩
      rintro hlive - key ⟨⟩
      exact (hfrom (.inr (.inl hlive))).2.2.2
    | written rv d' hwrite hcan =>
      have hdrawn := hfrom (.inr (.inr hcan))
      have hheader : HeaderDrawn drawn (t.reinitToken C env newSoPin label).header :=
        headerDrawn_fresh hdrawn.1 ⟨hdrawn.2.1, hdrawn.2.2.1⟩ rfl rfl rfl
      refine ⟨?_, fun _ => .write hwrite hheader hfile⟩
      rintro _ ⟨⟩
      exact ⟨fun _ => hheader, fun _ => .of_none rfl⟩

/-! ## The error state -/

section

variable {C : Crypto} {env : Env} (herror : env.moduleError = true)

include herror

theorem Token.evalPin_of_error (t : Token) (role : Role) (pin : Bytes) (b : Bool) :
    ∃ e, t.evalPin C env role pin b = .error e := by
  unfold evalPin
  split
  · exact ⟨_, rfl⟩
  split
  · exact ⟨_, rfl⟩
  simp [Env.pbkdf2, herror]

theorem Token.login_of_error (t : Token) (role : Role) (pin : Bytes) (d : Disk) :
    ∃ e, t.login C env role pin d = (.err e, t, d) := by
  unfold Token.login
  split
  · exact ⟨_, rfl⟩
  split
  · exact ⟨_, rfl⟩
  obtain ⟨e, he⟩ := t.evalPin_of_error (C := C) herror role pin t.dek.isNone
  rw [he]
  exact ⟨e, rfl⟩

theorem Token.verifyPin_of_error (t : Token) (role : Role) (pin : Bytes) (d : Disk) :
    ∃ e, t.verifyPin C env role pin d = (.err e, t, d) := by
  unfold Token.verifyPin
  split
  · exact ⟨_, rfl⟩
  obtain ⟨e, he⟩ := t.evalPin_of_error (C := C) herror role pin true
  rw [he]
  exact ⟨e, rfl⟩

end

/-! ## Runs -/

/-- A process with its token, whether it is in its error state, whether the header in memory is to
stay there, and the draws that succeeded so far. -/
structure DrawWorld where
  world : World
  error : Bool
  torn : Bool
  drawn : List (Site × Bytes)

inductive DrawEvent
  | call (op : TokenOp) (dr dr₀ : Draws)
  /-- Another function of the module draws. -/
  | other (made : List (Site × Bool × Bytes))
  /-- Something else latches the error state. -/
  | latch
  /-- The process ends and another starts; its generator can be seeded or not. -/
  | restart (seeded : Bool)

namespace DrawWorld

def step (C : Crypto) (w : DrawWorld) : DrawEvent → DrawWorld
  | .call op dr dr₀ =>
    let r := w.world.call C (op.drawing w.error dr dr₀)
    let error := latches w.error (op.made dr dr₀)
    { world := r.2
      error := error
      torn := !op.drawsOk w.error dr dr₀ ||
        if op.reinits then r.1 != .ok else w.torn && w.world.tok.isSome
      drawn := w.drawn ++ produced w.error (op.made dr dr₀) }
  | .other made =>
    { w with error := latches w.error made, drawn := w.drawn ++ produced w.error made }
  | .latch => { w with error := true }
  | .restart seeded => { w with world := ⟨none, w.world.disk⟩, error := !seeded, torn := false }

/-- On a torn token no function is called that may write it: in the error state none on objects, and
otherwise none but a reinitialisation. -/
def Spared (w : DrawWorld) : DrawEvent → Prop
  | .call op _ _ => w.torn = true →
    match op with
    | .login .. | .verifyPin .. | .initUserPin .. | .setPin .. => w.error = true
    | .object .. => False
    | _ => True
  | _ => True

/-- What every event keeps. -/
structure Inv (w : DrawWorld) : Prop where
  header : w.torn = false → ∀ t, w.world.tok = some t → HeaderDrawn w.drawn t.header
  live : w.error = false → ∀ t, w.world.tok = some t → LiveDrawn w.drawn t
  file : FileDrawn w.drawn w.world.disk.file
  uses : List.Sublist (uses w.world.disk.log) w.drawn
  deks : ∀ dek, Wrapped w.world.disk.log dek → (.dek, dek.toList) ∈ w.drawn

end DrawWorld

/-! ## Draws of a call -/

theorem wrapUse_env (dr : Draws) (error early : Bool) (env : Env) :
    List.Sublist (dr.env error early env).wrapUse
      (if !error && early && dr.wrapNonce.ok then [(.wrapNonce, dr.wrapNonce.bytes.toList)]
        else []) := by
  unfold Env.wrapUse Draws.env
  cases error <;> cases early <;> cases dr.wrapNonce.ok <;> cases env.wrapErr <;> simp

theorem blobUse_env (dr : Draws) (error early : Bool) (env : Env) :
    List.Sublist (dr.env error early env).blobUse
      (if !error && early && dr.blobNonce.ok then [(.blobNonce, dr.blobNonce.bytes.toList)]
        else []) := by
  unfold Env.blobUse Draws.env
  cases error <;> cases early <;> cases dr.blobNonce.ok <;> cases env.blobErr <;> simp

section

variable (dr dr₀ : Draws) (error : Bool) (env loginEnv : Env)

theorem uses_write : List.Sublist (dr.env error true env).blobUse
    (produced error [dr.blobNonce.at .blobNonce]) := by
  refine (blobUse_env ..).trans ?_
  cases error <;> cases h : dr.blobNonce.ok <;> simp [produced, Draw.at, h]

theorem uses_initUserPin :
    let e := dr.env error (dr.salt.ok && dr.wrapNonce.ok) env
    List.Sublist (e.wrapUse ++ e.blobUse)
      (produced error [dr.salt.at .salt, dr.wrapNonce.at .wrapNonce,
        dr.blobNonce.at .blobNonce]) := by
  refine ((wrapUse_env ..).append (blobUse_env ..)).trans ?_
  cases error <;> cases h₁ : dr.salt.ok <;> cases h₂ : dr.wrapNonce.ok <;>
    cases h₃ : dr.blobNonce.ok <;> simp [produced, Draw.at, h₁, h₂, h₃]

theorem uses_setPin :
    let e := dr.env (error || !dr₀.blobNonce.ok) (dr.salt.ok && dr.wrapNonce.ok) env
    List.Sublist ((dr₀.env error true loginEnv).blobUse ++ (e.wrapUse ++ e.blobUse))
      (produced error [dr₀.blobNonce.at .blobNonce, dr.salt.at .salt, dr.wrapNonce.at .wrapNonce,
        dr.blobNonce.at .blobNonce]) := by
  refine ((blobUse_env ..).append ((wrapUse_env ..).append (blobUse_env ..))).trans ?_
  cases error <;> cases h₀ : dr₀.blobNonce.ok <;> cases h₁ : dr.salt.ok <;>
    cases h₂ : dr.wrapNonce.ok <;> cases h₃ : dr.blobNonce.ok <;>
    simp [produced, Draw.at, h₀, h₁, h₂, h₃]

theorem uses_fresh (before : List (Site × Bool × Bytes)) :
    List.Sublist (dr.env error (before.all (·.2.1)) env).wrapUse
      (produced error (before ++ [dr.wrapNonce.at .wrapNonce])) := by
  refine (wrapUse_env ..).trans ?_
  split
  · rename_i h
    simp only [and_eq_true, not_eq_true', all_eq_true] at h
    rw [produced, h.1.1, if_neg (by decide), takeWhile_append_of_pos h.1.2]
    simp [Draw.at, h.2]
  · exact nil_sublist _

theorem nonces_drawing (op : TokenOp) :
    List.Sublist (op.drawing error dr dr₀).nonces (produced error (op.made dr dr₀)) := by
  cases op with
  | load | close | logout => exact nil_sublist _
  | login env | verifyPin env | object env => exact uses_write dr error env
  | initUserPin env => exact uses_initUserPin dr error env
  | setPin loginEnv env => exact uses_setPin dr dr₀ error env loginEnv
  | init env =>
    have huse := uses_fresh dr error env [dr.serial.at .serial, dr.salt.at .salt,
      dr.saltUser.at .saltUser, dr.dek.at .dek]
    simpa [drawing, nonces, made, Draw.at, Bool.and_assoc] using huse
  | reinit env =>
    have huse := uses_fresh dr error env [dr.serial.at .serial, dr.salt.at .salt, dr.dek.at .dek]
    simpa [drawing, nonces, made, Draw.at, Bool.and_assoc] using huse

end

namespace DrawWorld

variable {C : Crypto} {w : DrawWorld} {op : TokenOp} {dr dr₀ : Draws}

section

variable {error : Bool}

theorem drawsFrom_drawing (h : op.drawsOk error dr dr₀ = true) (drawn : List (Site × Bytes)) :
    DrawsFrom (drawn ++ produced error (op.made dr dr₀)) (op.drawing error dr dr₀) := by
  cases op <;> simp only [drawsOk, and_eq_true, not_eq_true'] at h <;>
    simp [DrawsFrom, drawing, Draws.env, produced, made, Draw.at, h]

theorem drawsOk_of_latches (h : latches error (op.made dr dr₀) = false) :
    op.drawsOk error dr dr₀ = true := by
  cases op <;> simp [latches, made, Draw.at, drawsOk] at h ⊢ <;> simp [h]

/-- The functions that wrap a DEK refuse when a draw before it failed. -/
theorem drawsOk_of_canWrap (h : (op.drawing error dr dr₀).CanWrap) :
    op.drawsOk error dr dr₀ = true := by
  have hok : ∀ {early : Bool} {env : Env} {error : Bool}, Token.CanWrap (dr.env error early env) →
      error = false ∧ early = true ∧ dr.wrapNonce.ok = true := by
    intro early env error h
    obtain ⟨hrun, -, hwrap⟩ := h
    obtain ⟨rfl, hearly⟩ := or_eq_false_iff.1 hrun
    refine ⟨rfl, by simpa using hearly, ?_⟩
    by_contra hne
    simp [Draws.env, hne] at hwrap
  cases op with
  | init | reinit | initUserPin | setPin =>
    have hdraws := hok h
    simp_all [drawsOk]
  | _ => cases h

end

/-- A call encrypts under nonces that it drew, each used once, and wraps DEKs that were drawn. -/
theorem step_adds (hw : w.Inv)
    (hforge : Unforged (fun _ => True) (w.step C (.call op dr dr₀)).world.disk.log) :
    Adds w.world.disk (w.step C (.call op dr dr₀)).world.disk (produced w.error (op.made dr dr₀))
      fun k => (.dek, k.toList) ∈ w.drawn ++ produced w.error (op.made dr dr₀) := by
  obtain ⟨rv, hcase⟩ := step_cases C w.world (op.drawing w.error dr dr₀)
  refine (call_adds hcase hforge ?_ ?_ ?_).mono (nonces_drawing dr dr₀ w.error op) fun _ hk => hk
  · intro env hop hcan
    have hfrom (h : (op.drawing w.error dr dr₀).CanWrap) :=
      drawsFrom_drawing (drawsOk_of_canWrap h) w.drawn
    cases op <;> cases hop <;> exact (hfrom hcan).2.2.2
  · intro env pin hop hcan t k ht hin hk
    -- the wrap was made, so the module was running
    have herror : w.error = false := by
      cases op <;> cases hop
      exact (or_eq_false_iff.1 hcan.running).1
    exact mem_append_left _ (hw.live herror t ht hin k hk)
  · exact fun k hk => mem_append_left _ (hw.deks k hk)

/-- Token and file after a call. -/
theorem step_drawn (hw : w.Inv)
    (hforge : Unforged (fun _ => True) (w.step C (.call op dr dr₀)).world.disk.log) :
    let w' := w.step C (.call op dr dr₀)
    (∀ t, w'.world.tok = some t → TokDrawn w'.drawn (w'.torn = false) (w'.error = false) t) ∧
      (w.torn = false ∨ op.creates.isSome = true → FileDrawn w'.drawn w'.world.disk.file) := by
  intro w'
  have hcase : CallOutcome C w.world (op.drawing w.error dr dr₀)
      (w.world.call C (op.drawing w.error dr dr₀)).1 w'.world := call_cases rfl
  have hcreates : (op.drawing w.error dr dr₀).creates.isSome = op.creates.isSome := by
    cases op <;> rfl
  rw [← hcreates]
  refine drawn_call hcase (fun h => ?_) (hw.file.append _) (fun t ht => ?_) (fun htorn t ht => ?_) ?_
    hforge
  · refine drawsFrom_drawing ?_ w.drawn
    rcases h with htorn | herror | hcan
    · simpa using (or_eq_false_iff.1 htorn).1
    · exact drawsOk_of_latches herror
    · exact drawsOk_of_canWrap hcan
  · refine ⟨fun hold => (hw.header hold t ht).append _, fun herror hin key hkey => ?_⟩
    exact mem_append_left _ (hw.live (or_eq_false_iff.1 herror).1 t ht hin key hkey)
  · have hkeep := (or_eq_false_iff.1 htorn).2
    rw [reinits_drawing]
    split at hkeep
    · rename_i hop
      rw [if_pos hop]
      simpa using hkeep
    · rename_i hop
      rw [if_neg hop]
      simpa [ht] using hkeep
  · exact fun k hk => mem_append_left _ (hw.deks k hk)

/-- A call on a torn token that does not make a new one leaves the file alone. -/
theorem file_of_spared (htorn : w.torn = true) (hspared : w.Spared (.call op dr dr₀))
    (hop : op.creates.isSome = false) :
    (w.step C (.call op dr dr₀)).world.disk.file = w.world.disk.file := by
  have hspared := hspared htorn
  obtain ⟨⟨tok, d⟩, error, torn, drawn⟩ := w
  have herror (dr : Draws) (early : Bool) (env : Env) (h : error = true) :
      (dr.env error early env).moduleError = true := or_eq_true_iff.2 (.inl h)
  cases op with
  | init | reinit => cases hop
  | object => exact hspared.elim
  | load => cases tok <;> rfl
  | close | logout => cases tok <;> rfl
  | login env role pin =>
    cases tok with
    | none => rfl
    | some t =>
      obtain ⟨e, he⟩ := t.login_of_error (C := C) (herror dr true env hspared) role pin d
      simp only [step, World.call, drawing, he]
  | verifyPin env role pin =>
    cases tok with
    | none => rfl
    | some t =>
      obtain ⟨e, he⟩ := t.verifyPin_of_error (C := C) (herror dr true env hspared) role pin d
      simp only [step, World.call, drawing, he]
  | setPin loginEnv env role oldPin newPin =>
    cases tok with
    | none => rfl
    | some t =>
      obtain ⟨e, he⟩ := t.login_of_error (C := C) (herror dr₀ true loginEnv hspared) role (cstr oldPin) d
      simp only [step, World.call, drawing, Token.setPin, he]
      split <;> rfl
  | initUserPin env pin =>
    cases tok with
    | none => rfl
    | some t =>
      change (t.initUserPin C (dr.env error (dr.salt.ok && dr.wrapNonce.ok) env) pin d).2.2.file = d.file
      rcases hcall : t.initUserPin C (dr.env error (dr.salt.ok && dr.wrapNonce.ok) env) pin d with
        ⟨rv, t', d'⟩
      cases initUserPin_cases hcall with
      | refused | failed => rfl
      | done _ _ _ _ _ _ _ _ hre =>
        cases hre with | done hcan =>
        exact absurd (hcan.running.symm.trans (herror dr _ env hspared)) Bool.false_ne_true

/-- What an event keeps. -/
theorem drawn_step {ev : DrawEvent} (hw : w.Inv) (hspared : w.Spared ev)
    (hforge : Unforged (fun _ => True) (w.step C ev).world.disk.log) : (w.step C ev).Inv := by
  cases ev with
  | latch => exact ⟨hw.header, nofun, hw.file, hw.uses, hw.deks⟩
  | other made =>
    constructor
    case header =>
      exact fun htorn t ht => (hw.header htorn t ht).append _
    case live =>
      intro herror t ht hin key hkey
      have hrun : w.error = false := (or_eq_false_iff.1 herror).1
      exact mem_append_left _ (hw.live hrun t ht hin key hkey)
    case file => exact hw.file.append _
    case uses => exact hw.uses.trans (sublist_append_left _ _)
    case deks => exact fun dek h => mem_append_left _ (hw.deks dek h)
  | restart seeded => exact ⟨fun _ => nofun, fun _ => nofun, hw.file, hw.uses, hw.deks⟩
  | call op dr dr₀ =>
    have hadds := step_adds hw hforge
    obtain ⟨htok, hfile⟩ := step_drawn hw hforge
    constructor
    case header => exact fun htorn t ht => (htok t ht).header htorn
    case live => exact fun herror t ht => (htok t ht).dek herror
    case file =>
      -- a header that was drawn may be written, and so may a new one
      cases htorn : w.torn with
      | false => exact hfile (.inl htorn)
      | true =>
        cases hop : op.creates.isSome with
        | true => exact hfile (.inr hop)
        | false =>
          rw [file_of_spared htorn hspared hop]
          exact hw.file.append _
    case uses =>
      obtain ⟨new, hlog, huses, -⟩ := hadds
      rw [hlog, uses_append]
      exact hw.uses.append huses
    case deks =>
      intro dek hmem
      obtain ⟨new, hlog, -, hdeks⟩ := hadds
      rw [hlog, wrapped_append] at hmem
      exact hmem.elim (fun h => mem_append_left _ (hw.deks dek h)) (hdeks dek)

/-- A process that starts where no token file is. -/
def start : DrawWorld :=
  { world := ⟨none, ⟨none, []⟩⟩
    error := false
    torn := false
    drawn := [] }

theorem inv_start : start.Inv :=
  ⟨fun _ _ => nofun, fun _ _ => nofun, fun _ _ => nofun, .refl _,
    fun dek h => absurd h (not_wrapped_of_uses rfl dek)⟩

theorem step_log (C : Crypto) (w : DrawWorld) (ev : DrawEvent) :
    ∃ new, (w.step C ev).world.disk.log = w.world.disk.log ++ new := by
  cases ev with
  | other | latch | restart => exact ⟨[], (append_nil _).symm⟩
  | call op dr dr₀ =>
    exact FreeHsm.step_log C w.world (op.drawing w.error dr dr₀)

end DrawWorld

end FreeHsm
