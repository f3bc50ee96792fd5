import FreeHsm.Token.BlobReader
import FreeHsm.Token.Run

/-!
# Authenticity of the object store

An attacker replaces the token file while no process has it loaded. They know no PIN
and no key of the token, which is what `secret` stands for, and AES-GCM is
unforgeable: what decrypts under a secret key was encrypted under it before
(`Unforged`, a property of the history).

A wrap that opens under an owner's PIN then holds a DEK the token drew, and a blob
that opens under that DEK is one that `write_atomic` made. The exception is the
second key `objects_decrypt_load` tries: 32 zero bytes, which anyone knows.
-/

namespace FreeHsm

open ByteLayout Token Transition World
open List hiding Vector

/-! ## The attacker -/

/-- A call of a token function, or a new file at the token's path. -/
inductive Move
  | call (op : TokenOp)
  | tamper (file : Option Bytes)

/-- A move. The attacker only acts while no process has the token loaded. -/
def World.move (C : Crypto) (w : World) : Move → World
  | .call op => w.step C op
  | .tamper file =>
    match w.tok with
    | none => ⟨none, ⟨file, w.disk.log⟩⟩
    | some _ => w

/-- An event is an encryption of `pt` under `key`. -/
def Event.Encrypts (key : Key) (pt : Bytes) : Event → Prop
  | .wrapped kek _ _ dek => kek = key ∧ dek.toList = pt
  | .sealed t dek _ => dek = key ∧ serializeObjects t.objects t.nextHandle false = pt
  | _ => False

instance (key : Key) (pt : Bytes) : (e : Event) → Decidable (e.Encrypts key pt)
  | .wrapped .. | .sealed .. => inferInstanceAs (Decidable (_ ∧ _))
  | .opened .. | .pinTried .. | .cleared .. | .wrote .. => inferInstanceAs (Decidable False)

/-- An event is no forgery: what it decrypted under a secret key was encrypted under that key
    by one of the events `before`. -/
def Event.Honest (secret : Key → Prop) (before : List Event) : Event → Prop
  | .opened key _ _ _ _ pt => secret key → ∃ e ∈ before, e.Encrypts key pt
  | _ => True

instance (secret : Key → Prop) [DecidablePred secret] (before : List Event) :
    (e : Event) → Decidable (e.Honest secret before)
  | .opened key _ _ _ _ pt =>
    inferInstanceAs (Decidable (secret key → ∃ e ∈ before, e.Encrypts key pt))
  | .wrapped .. | .sealed .. | .pinTried .. | .cleared .. | .wrote .. =>
    inferInstanceAs (Decidable True)

/-- No decryption of a history is a forgery. -/
def Unforged (secret : Key → Prop) (log : List Event) : Prop :=
  ∀ i, (h : i < log.length) → log[i].Honest secret (log.take i)

instance (secret : Key → Prop) [DecidablePred secret] (log : List Event) :
    Decidable (Unforged secret log) :=
  inferInstanceAs (Decidable (∀ i, (h : i < log.length) → log[i].Honest secret (log.take i)))

/-- The KEKs of a PIN are secret, whatever salt and iteration count a file asks for. -/
def Unknown (C : Crypto) (secret : Key → Prop) (pin : Bytes) : Prop :=
  ∀ salt iter, secret (C.pbkdf2 pin salt iter)

/-- No blob was opened with the zero key. -/
def NoZeroKey (log : List Event) : Prop :=
  ∀ nonce aad ct tag pt, .opened zeroKey nonce aad ct tag pt ∉ log

/-- What is assumed of a move: keys the token draws are secret, and a PIN that opens a wrap is
    one the attacker does not know. Wrong PINs may be anything. -/
def OwnerMove (C : Crypto) (secret : Key → Prop) (w : World) : Move → Prop
  | .call (.init env _ _) => secret env.rngDek
  | .call (.reinit env _ _) => secret env.rngDek
  | .call (.login _ role pin) =>
    ∀ t, w.tok = some t → t.header.unwrapDek C role pin ≠ none → Unknown C secret pin
  | .call (.setPin _ _ role oldPin _) =>
    ∀ t, w.tok = some t → t.header.unwrapDek C role (cstr oldPin) ≠ none →
      Unknown C secret (cstr oldPin)
  | _ => True

/-- A property of stores that the owner's own object calls keep. -/
def EditsKeep (C : Crypto) (Clean : ObjStore → Prop) (w : World) : Move → Prop
  | .call (.object env op) =>
    ∀ t, w.tok = some t → Clean t.objects → Clean (t.object C env op w.disk).2.1.objects
  | _ => True

/-- A property that says of a store where its objects come from: an empty store has it, and
    writing a store and reading it back keeps it. -/
structure Provenance (Clean : ObjStore → Prop) : Prop where
  empty : ∀ s, s.objs = [] → Clean s
  persisted : ∀ s, Clean s → Clean (s.persisted false)

theorem Unforged.of_append {secret : Key → Prop} {log new : List Event}
    (h : Unforged secret (log ++ new)) : Unforged secret log := by
  intro i hi
  have hlen : i < (log ++ new).length := by rw [length_append]; omega
  have hi' := h i hlen
  rw [getElem_append_left hi, take_append_of_le_length (by omega)] at hi'
  exact hi'

theorem Unforged.encrypted {secret : Key → Prop} {before after : List Event} {key : Key}
    {nonce : Nonce} {aad ct : Bytes} {tag : Tag} {pt : Bytes}
    (h : Unforged secret (before ++ .opened key nonce aad ct tag pt :: after)) (hkey : secret key) :
    ∃ e ∈ before, e.Encrypts key pt := by
  have hi := h before.length (by simp)
  rw [getElem_append_right (Nat.le_refl _), take_left'  rfl] at hi
  simp only [Nat.sub_self, getElem_cons_zero] at hi
  exact hi hkey

theorem NoZeroKey.of_append {log new : List Event} (h : NoZeroKey (log ++ new)) : NoZeroKey log :=
  fun nonce aad ct tag pt hmem => h nonce aad ct tag pt (mem_append_left _ hmem)

/-! ## The invariant -/

/-- A logged-in token works under a secret DEK, and the store it loaded is clean. -/
structure Token.Genuine (secret : Key → Prop) (Clean : ObjStore → Prop) (log : List Event)
    (t : Token) : Prop where
  live : t.loggedIn ≠ .none → ∀ key, t.liveDek = some key → secret key
  loaded : NoZeroKey log → t.objectsLoaded = true → Clean t.objects

/-- Every wrapped DEK is secret, and every encrypted store is clean. -/
structure GenuineLog (secret : Key → Prop) (Clean : ObjStore → Prop) (log : List Event) :
    Prop where
  wrapped : ∀ kek nonce aad dek, .wrapped kek nonce aad dek ∈ log → secret dek
  stored : NoZeroKey log → ∀ t key nonce, .sealed t key nonce ∈ log → Clean t.objects

structure World.Genuine (secret : Key → Prop) (Clean : ObjStore → Prop) (w : World) : Prop where
  tok : ∀ t, w.tok = some t → t.Genuine secret Clean w.disk.log
  log : GenuineLog secret Clean w.disk.log

section

variable {C : Crypto} {secret : Key → Prop} {Clean : ObjStore → Prop} {env : Env}
  {t t' : Token} {d d' : Disk} {rv : Rv} {log new : List Event}

theorem Token.Genuine.append (h : t.Genuine secret Clean log) :
    t.Genuine secret Clean (log ++ new) :=
  ⟨h.live, fun hzero => h.loaded hzero.of_append⟩

/-- Events that wrap secret DEKs and encrypt no store. -/
theorem GenuineLog.append (h : GenuineLog secret Clean log)
    (hwrapped : ∀ kek nonce aad dek, .wrapped kek nonce aad dek ∈ new → secret dek)
    (hsealed : ∀ t key nonce, .sealed t key nonce ∉ new) : GenuineLog secret Clean (log ++ new) := by
  constructor
  · intro kek nonce aad dek hmem
    rcases mem_append.mp hmem with hmem | hmem
    · exact h.wrapped kek nonce aad dek hmem
    · exact hwrapped kek nonce aad dek hmem
  · intro hzero t key nonce hmem
    rcases mem_append.mp hmem with hmem | hmem
    · exact h.stored hzero.of_append t key nonce hmem
    · exact absurd hmem (hsealed t key nonce)

theorem genuine_write (h : writeAtomic C env t d = (rv, d'))
    (ht : t.Genuine secret Clean d.log) (hd : GenuineLog secret Clean d.log) :
    t.Genuine secret Clean d'.log ∧ GenuineLog secret Clean d'.log := by
  have hwrote : ∀ rv, GenuineLog secret Clean (d.log ++ [.wrote rv]) := by
    intro rv
    exact hd.append (by simp) (by simp)
  have hseal : ∀ {dek nonce rv}, t.objectsLoaded = true →
      GenuineLog secret Clean (d.log ++ [.sealed t dek nonce, .wrote rv]) := by
    intro dek nonce rv hloaded
    constructor
    · intro kek nonce aad dek hmem
      exact hd.wrapped kek nonce aad dek (by simpa using hmem)
    · intro hzero t' key nonce hmem
      rcases mem_append.mp hmem with hmem | hmem
      · exact hd.stored hzero.of_append t' key nonce hmem
      · simp only [mem_cons, Event.sealed.injEq, reduceCtorEq, not_mem_nil, or_self,
          or_false] at hmem
        rw [hmem.1]
        exact ht.loaded hzero.of_append hloaded
  cases writeAtomic_cases h with
  | failed => exact ⟨ht.append, hwrote _⟩
  | lost dek hdek hloaded => exact ⟨ht.append, hseal hloaded⟩
  | kept | emptied => exact ⟨ht.append, hwrote _⟩
  | stored dek hdek hloaded => exact ⟨ht.append, hseal hloaded⟩

/-! ## A login -/

variable {role : Role} {pin : Bytes} {dek : Key} {es : List Event}

/-- A wrap that opens under a PIN the attacker does not know holds a DEK that was wrapped before. -/
theorem Token.Tried.dek_wrapped (h : Tried C t role pin (some dek) es) (hpin : Unknown C secret pin)
    (hforge : Unforged secret (log ++ (es ++ new))) :
    ∃ kek nonce aad, .wrapped kek nonce aad dek ∈ log := by
  rcases h.events with ⟨hnone, -⟩ | ⟨pt, hbytes, rfl⟩
  · cases hnone
  obtain ⟨e, hmem, henc⟩ := Unforged.encrypted hforge (hpin _ _)
  have hdek := h.right dek rfl
  simp only [Header.unwrapDek, hbytes] at hdek
  split at hdek
  · rename_i hlen
    cases hdek
    cases e with
    | wrapped kek nonce aad dek =>
      obtain ⟨-, rfl⟩ := henc
      have hself := vecAt_toList_append dek []
      rw [append_nil] at hself
      rw [hself]
      exact ⟨kek, nonce, aad, hmem⟩
    | sealed t key nonce =>
      -- a serialized store is not 32 bytes long
      obtain ⟨-, rfl⟩ := henc
      exact absurd hlen (serializeObjects_ne_key _ _ _)
    | opened | pinTried | cleared | wrote => exact henc.elim
  · cases hdek

/-- Where the objects of a token come from after a login that unwrapped `dek`: `t` before and `t'`
    after they are loaded from `file`. -/
inductive LoadSource (C : Crypto) (log : List Event) (file : Option Bytes) (dek : Key)
    (t t' : Token) (es : List Event) : Prop
  /-- They were in memory already. -/
  | kept (hloaded : t.objectsLoaded = true) (hobjs : t'.objects = t.objects)
  | none (hobjs : t'.objects.objs = [])
  /-- An earlier write encrypted exactly this list under the DEK. -/
  | stored (s : Token) (nonce : Nonce) (hmem : .sealed s dek nonce ∈ log)
      (hobjs : t'.objects = s.objects.persisted false)
  /-- The blob in the file verifies under 32 zero bytes. -/
  | zeroKey (f : Bytes) (nonce : Nonce) (ct : Bytes) (tag : Tag) (pt : Bytes)
      (hfile : file = some f) (hblob : locateBlob (f.drop tokFileSize) = .ok (nonce, ct, tag))
      (hopen : C.decrypt zeroKey nonce t.header.aad ct tag = some pt)
      (hes : .opened zeroKey nonce t.header.aad ct tag pt ∈ es)

theorem loadIfNeeded_source {file : Option Bytes} {es' : List Event}
    (h : t.loadIfNeeded C env file = (t', es')) (hdek : t.liveDek = some dek) (hsecret : secret dek)
    (hes : ∀ e ∈ es, ∀ key pt, ¬ e.Encrypts key pt) (hforge : Unforged secret (log ++ (es ++ es')))
    : LoadSource C log file dek t t' es' := by
  rcases loadIfNeeded_cases h with ⟨hloaded, rfl, -⟩ | ⟨-, rv, hload⟩
  · exact .kept hloaded rfl
  cases hload with
  | refused hnone =>
    rw [hnone] at hdek
    cases hdek
  | failed | malformed | noBlob => exact .none rfl
  | loaded f dek' key nonce ct tag pt objs next hfile hblob hdek' hkey hopen hparse =>
    obtain rfl : dek = dek' := Option.some.inj (hdek.symm.trans hdek')
    rcases hkey with rfl | rfl
    · -- the DEK: the plaintext was encrypted before
      rw [← append_assoc] at hforge
      obtain ⟨e, hmem, henc⟩ := hforge.encrypted hsecret
      have hmem : e ∈ log := by
        rcases mem_append.mp hmem with hmem | hmem
        · exact hmem
        · exact absurd henc (hes e hmem key pt)
      cases e with
      | wrapped kek nonce aad dek =>
        -- a wrapped DEK is too short to hold an object
        obtain ⟨-, rfl⟩ := henc
        exact .none (parseObjects_short (by rw [Vector.length_toList]; decide) hparse)
      | sealed s dek nonce =>
        obtain ⟨rfl, rfl⟩ := henc
        have hread := parseObjects_alloc hparse
        rw [parseObjects_serialize (fun _ => rfl)] at hread
        cases hread
        exact .stored s nonce hmem rfl
      | opened | pinTried | cleared | wrote => exact henc.elim
    · exact .zeroKey f nonce ct tag pt hfile hblob hopen (by simp)

theorem Token.Tried.not_encrypts {r : Option Key} (h : Tried C t role pin r es) :
    ∀ e ∈ es, ∀ key pt, ¬ e.Encrypts key pt := by
  rcases h.events with ⟨-, rfl⟩ | ⟨pt, -, rfl⟩
  · simp [Event.Encrypts]
  · simp [Event.Encrypts, Header.unwrapEvent]

theorem not_encrypts_append_cleared (role : Role) (h : ∀ e ∈ es, ∀ key pt, ¬ e.Encrypts key pt) :
    ∀ e ∈ es ++ [.cleared role], ∀ key pt, ¬ e.Encrypts key pt := by
  intro e hmem
  rcases mem_append.mp hmem with hmem | hmem
  · exact h e hmem
  · rw [mem_singleton.mp hmem]
    exact fun _ _ => id

theorem GenuineLog.append_of_not_encrypts (h : GenuineLog secret Clean log)
    (hnew : ∀ e ∈ new, ∀ key pt, ¬ e.Encrypts key pt) : GenuineLog secret Clean (log ++ new) :=
  h.append (fun _ _ _ _ hmem => absurd ⟨rfl, rfl⟩ (hnew _ hmem _ _))
    (fun _ _ _ hmem => absurd ⟨rfl, rfl⟩ (hnew _ hmem _ _))

/-- A new wrap of a secret DEK, with events that encrypt nothing after it. -/
theorem GenuineLog.wrap {kek : Key} {nonce : Nonce} {aad : Bytes} (h : GenuineLog secret Clean log)
    (hsecret : secret dek) (hnew : ∀ e ∈ new, ∀ key pt, ¬ e.Encrypts key pt) :
    GenuineLog secret Clean (log ++ .wrapped kek nonce aad dek :: new) := by
  apply h.append
  · intro kek' nonce' aad' dek' hmem
    rcases mem_cons.mp hmem with heq | hmem
    · cases heq
      exact hsecret
    · exact absurd ⟨rfl, rfl⟩ (hnew _ hmem _ _)
  · intro t key nonce' hmem
    rcases mem_cons.mp hmem with heq | hmem
    · cases heq
    · exact absurd ⟨rfl, rfl⟩ (hnew _ hmem _ _)

section

variable (hd : GenuineLog secret Clean d.log)

include hd

/-- What an accepted login gives: a secret DEK, and a source for the objects. -/
theorem accepted_source {es' : List Event} {t₁ : Token} (htried : Tried C t role pin (some dek) es)
    (ht₁ : t₁ = { t.clearFailures role with loggedIn := role, dek := some ⟨dek, true⟩ })
    (hload : t₁.loadIfNeeded C env d.file = (t', es')) (hpin : Unknown C secret pin)
    (hforge : Unforged secret (writeAtomic C env t' (d.record (es ++ .cleared role :: es'))).2.log) :
    secret dek ∧ LoadSource C d.log d.file dek t₁ t' es' := by
  rcases hwrite : writeAtomic C env t' (d.record (es ++ .cleared role :: es')) with ⟨rv, d'⟩
  obtain ⟨new, hnew⟩ := writeAtomic_log hwrite
  rw [hwrite, hnew] at hforge
  have hforge : Unforged secret (d.log ++ (es ++ .cleared role :: es')) := hforge.of_append
  have hsecret : secret dek := by
    obtain ⟨kek, nonce, aad, hmem⟩ := htried.dek_wrapped hpin hforge
    exact hd.wrapped kek nonce aad dek hmem
  refine ⟨hsecret, loadIfNeeded_source hload (by rw [ht₁]; rfl) hsecret
    (not_encrypts_append_cleared role htried.not_encrypts) ?_⟩
  simpa using hforge

theorem login_source (h : LoginOutcome C env t role pin d .ok t' d') (hpin : Unknown C secret pin)
    (hforge : Unforged secret d'.log) :
    ∃ dek, t'.liveDek = some dek ∧ LoadSource C d.log d.file dek t t' d'.log := by
  obtain ⟨dek, es, es', htried, -, -, hload, -, hdek, rfl⟩ := login_accepted h
  obtain ⟨-, hsource⟩ := accepted_source hd htried rfl hload hpin hforge
  refine ⟨dek, by rw [liveDek, hdek], ?_⟩
  cases hsource with
  | kept hloaded hobjs => exact .kept hloaded hobjs
  | none hobjs => exact .none hobjs
  | stored s nonce hmem hobjs => exact .stored s nonce hmem hobjs
  | zeroKey f nonce ct tag pt hfile hblob hopen hes =>
    refine .zeroKey f nonce ct tag pt hfile hblob hopen ?_
    obtain ⟨new, hnew⟩ := writeAtomic_log
      (Prod.mk.eta (p := writeAtomic C env t' (d.record (es ++ .cleared role :: es')))).symm
    rw [hnew]
    exact mem_append_left _ (mem_append_right _
      (mem_append_right _ (mem_cons_of_mem _ hes)))

theorem genuine_login (hclean : Provenance Clean) (h : LoginOutcome C env t role pin d rv t' d')
    (ht : t.Genuine secret Clean d.log)
    (hpin : t.header.unwrapDek C role pin ≠ none → Unknown C secret pin)
    (hforge : Unforged secret d'.log) :
    t'.Genuine secret Clean d'.log ∧ GenuineLog secret Clean d'.log := by
  cases h with
  | refused => exact ⟨ht, hd⟩
  | wrong es htried hrole t' ht' =>
    have hgen : t'.Genuine secret Clean (d.log ++ es) := by
      subst ht'
      exact ⟨nofun, ht.append.loaded⟩
    exact genuine_write rfl hgen (hd.append_of_not_encrypts htried.not_encrypts)
  | tpmRefused dek es htried hrole hfree htpm =>
    refine ⟨⟨fun hne => absurd hfree hne, ht.append.loaded⟩, ?_⟩
    exact hd.append_of_not_encrypts htried.not_encrypts
  | accepted dek es es' htried hrole hfree htpm t₁ t' ht₁ hload =>
    have hright : t.header.unwrapDek C role pin ≠ none := by
      rw [htried.right dek rfl]
      nofun
    obtain ⟨hsecret, hsource⟩ := accepted_source hd htried ht₁ hload (hpin hright) hforge
    obtain ⟨⟨objs, next, loaded, pub, hframe⟩, hes'⟩ := loadIfNeeded_frame hload
    have hgen : t'.Genuine secret Clean (d.log ++ (es ++ .cleared role :: es')) := by
      constructor
      · intro _ key hlive
        rw [hframe, ht₁] at hlive
        cases hlive
        exact hsecret
      · intro hzero _
        cases hsource with
        | kept hloaded hobjs =>
          rw [hobjs, ht₁]
          exact ht.loaded hzero.of_append (by rw [ht₁] at hloaded; exact hloaded)
        | none hobjs => exact hclean.empty _ hobjs
        | stored s nonce hmem hobjs =>
          rw [hobjs]
          exact hclean.persisted _ (hd.stored hzero.of_append s _ nonce hmem)
        | zeroKey f nonce ct tag pt hfile hblob hopen hes =>
          exact absurd (by simp [hes]) (hzero nonce t₁.header.aad ct tag pt)
    refine genuine_write rfl hgen (hd.append_of_not_encrypts ?_)
    intro e hmem
    rcases mem_append.mp hmem with hmem | hmem
    · exact htried.not_encrypts e hmem
    · rcases hes' with rfl | ⟨_, _, _, _, _, _, rfl⟩ <;>
        simp only [mem_cons, not_mem_nil, or_false] at hmem
      · rw [hmem]; exact fun _ _ => id
      · rcases hmem with rfl | rfl <;> exact fun _ _ => id

theorem genuine_verifyPin (h : VerifyOutcome C env t role pin d rv t' d')
    (ht : t.Genuine secret Clean d.log) :
    t'.Genuine secret Clean d'.log ∧ GenuineLog secret Clean d'.log := by
  cases h with
  | refused => exact ⟨ht, hd⟩
  | wrong es htried hrole t' ht' =>
    have hgen : t'.Genuine secret Clean (d.log ++ es) := by
      subst ht'
      exact ⟨ht.live, ht.append.loaded⟩
    exact genuine_write rfl hgen (hd.append_of_not_encrypts htried.not_encrypts)
  | right dek es htried hrole t' ht' =>
    have hgen : t'.Genuine secret Clean (d.log ++ (es ++ [.cleared role])) := by
      subst ht'
      exact ⟨ht.live, ht.append.loaded⟩
    exact genuine_write rfl hgen (hd.append_of_not_encrypts
      (not_encrypts_append_cleared role htried.not_encrypts))

/-! ## New wraps and new tokens -/

theorem genuine_initUserPin (h : InitUserPinOutcome C env t pin d rv t' d')
    (ht : t.Genuine secret Clean d.log) :
    t'.Genuine secret Clean d'.log ∧ GenuineLog secret Clean d'.log := by
  cases h with
  | refused => exact ⟨ht, hd⟩
  | failed e dek t' hdek hre =>
    cases hre
    exact ⟨⟨ht.live, ht.loaded⟩, hd⟩
  | done dek es t₁ t' rv d' hso hdek hre ht' hwrite =>
    cases hre
    have hsecret : secret dek := ht.live (by rw [hso]; nofun) dek hdek
    refine genuine_write hwrite ?_ (hd.wrap hsecret (by simp [Event.Encrypts]))
    subst ht'
    exact ⟨ht.live, ht.append.loaded⟩

theorem genuine_setPin {loginEnv : Env} {oldPin newPin : Bytes} (hclean : Provenance Clean)
    (h : SetPinOutcome C loginEnv env t role oldPin newPin d rv t' d')
    (ht : t.Genuine secret Clean d.log)
    (hpin : t.header.unwrapDek C role (cstr oldPin) ≠ none → Unknown C secret (cstr oldPin))
    (hforge : Unforged secret d'.log) :
    t'.Genuine secret Clean d'.log ∧ GenuineLog secret Clean d'.log := by
  cases h with
  | refused => exact ⟨ht, hd⟩
  | noLogin e t' d' hlogin => exact genuine_login hd hclean hlogin ht hpin hforge
  | failed e dek t₁ t' d₁ hlogin hre =>
    cases hre
    obtain ⟨ht₁, hd₁⟩ := genuine_login hd hclean hlogin ht hpin hforge
    exact ⟨⟨ht₁.live, ht₁.loaded⟩, hd₁⟩
  | done dek es t₁ t' d₁ d' rv hlogin hdek hre hwrite =>
    cases hre
    have hforge₁ : Unforged secret d₁.log := by
      obtain ⟨new, hnew⟩ := writeAtomic_log hwrite
      rw [hnew] at hforge
      exact hforge.of_append.of_append
    obtain ⟨ht₁, hd₁⟩ := genuine_login hd hclean hlogin ht hpin hforge₁
    -- the login left the role logged in and the DEK live
    obtain ⟨hrole, hlogged, key, hkey⟩ := login_live hlogin
    have hlive : t₁.liveDek = some dek := by
      rw [hdek, liveDek, hkey]
      rfl
    have hsecret : secret dek := ht₁.live (by rw [hlogged]; exact hrole) dek hlive
    exact genuine_write hwrite ⟨ht₁.live, ht₁.append.loaded⟩ (hd₁.wrap hsecret (by simp))

theorem genuine_init {soPin label : Bytes} {tok : Option Token} (hclean : Provenance Clean)
    (h : InitOutcome C env soPin label d rv tok d') (hdraw : secret env.rngDek) :
    (∀ t, tok = some t → t.Genuine secret Clean d'.log) ∧ GenuineLog secret Clean d'.log := by
  cases h with
  | refused => exact ⟨nofun, hd⟩
  | notSealed e => exact ⟨nofun, hd.wrap hdraw (by simp)⟩
  | written rv d' hwrite =>
    have hnew : ∀ log, (initialToken C env soPin label).Genuine secret Clean log := by
      intro log
      exact ⟨fun hne => absurd rfl hne, fun _ _ => hclean.empty _ rfl⟩
    obtain ⟨ht', hd'⟩ := genuine_write hwrite (hnew _) (hd.wrap hdraw (by simp [Event.Encrypts]))
    refine ⟨?_, hd'⟩
    intro t ht
    split at ht <;> cases ht
    exact ht'

theorem genuine_reinit {newSoPin label : Bytes} (hclean : Provenance Clean)
    (h : ReinitOutcome C env t newSoPin label d rv t' d') (ht : t.Genuine secret Clean d.log)
    (hdraw : secret env.rngDek) :
    t'.Genuine secret Clean d'.log ∧ GenuineLog secret Clean d'.log := by
  cases h with
  | refused => exact ⟨ht, hd⟩
  | noBuffer e hdek halloc h hfailed => exact ⟨⟨ht.live, ht.loaded⟩, hd⟩
  | notWrapped e hfail h hfailed =>
    refine ⟨⟨?_, fun _ _ => hclean.empty _ rfl⟩, hd⟩
    rintro - key ⟨⟩
    exact hdraw
  | written rv d' hwrite =>
    refine genuine_write hwrite ?_ (hd.wrap hdraw (by simp [Event.Encrypts]))
    exact ⟨fun hne => absurd rfl hne, fun _ _ => hclean.empty _ rfl⟩

end

theorem genuine_load {tok : Option Token} (h : LoadOutcome env d rv tok) :
    ∀ t, tok = some t → t.Genuine secret Clean log := by
  cases h with
  | refused => nofun
  | done f header until₀ hfile hlen hdecode =>
    rintro t ⟨⟩
    obtain ⟨objs, next, pub, hframe⟩ := publicViewLoad_frame env
      { zeroed with header := header, throttleUntilMs := until₀ } d.file
    rw [hframe]
    exact ⟨fun _ => nofun, fun _ => nofun⟩

end

/-! ## Moves -/

section

variable {C : Crypto} {secret : Key → Prop} {Clean : ObjStore → Prop}

theorem move_log (C : Crypto) (w : World) (m : Move) :
    ∃ new, (w.move C m).disk.log = w.disk.log ++ new := by
  cases m with
  | call op => exact step_log C w op
  | tamper file =>
    refine ⟨[], ?_⟩
    unfold move
    cases w.tok <;> simp

theorem genuine_step (hclean : Provenance Clean) (w : World) (m : Move)
    (hw : w.Genuine secret Clean) (howner : OwnerMove C secret w m) (hedit : EditsKeep C Clean w m)
    (hforge : Unforged secret (w.move C m).disk.log) : (w.move C m).Genuine secret Clean := by
  have hnext : ∀ {t : Token} {d : Disk},
      t.Genuine secret Clean d.log ∧ GenuineLog secret Clean d.log →
      World.Genuine secret Clean ⟨some t, d⟩ := by
    rintro t d ⟨ht, hd⟩
    exact ⟨by rintro _ ⟨⟩; exact ht, hd⟩
  cases m with
  | tamper file =>
    cases htok : w.tok with
    | none =>
      simp only [move, htok]
      exact ⟨nofun, hw.log⟩
    | some t =>
      simp only [move, htok]
      exact hw
  | call op =>
    obtain ⟨rv, hcase⟩ := step_cases C w op
    simp only [move] at hforge ⊢
    generalize w.step C op = w' at hcase hforge
    cases hcase with
    | idle => exact hw
    | init env soPin label rv t d hnone h =>
      obtain ⟨ht, hd⟩ := genuine_init hw.log hclean h howner
      exact ⟨ht, hd⟩
    | load env rv t hnone h => exact ⟨genuine_load h, hw.log⟩
    | close => exact ⟨nofun, hw.log⟩
    | login env role pin rv t t' d htok h =>
      exact hnext (genuine_login hw.log hclean h (hw.tok t htok) (howner t htok) hforge)
    | verifyPin env role pin rv t t' d htok h =>
      exact hnext (genuine_verifyPin hw.log h (hw.tok t htok))
    | logout t htok =>
      exact hnext ⟨⟨fun hne => absurd rfl hne, (hw.tok t htok).loaded⟩, hw.log⟩
    | initUserPin env pin rv t t' d htok h =>
      exact hnext (genuine_initUserPin hw.log h (hw.tok t htok))
    | setPin loginEnv env role oldPin newPin rv t t' d htok h =>
      exact hnext (genuine_setPin hw.log hclean h (hw.tok t htok) (howner t htok) hforge)
    | reinit env newSoPin label rv t t' d htok h =>
      exact hnext (genuine_reinit hw.log hclean h (hw.tok t htok) howner)
    | object env op rv t t' d htok hcall h =>
      have ht := hw.tok t htok
      rcases h with ⟨rfl, rfl⟩ | ⟨objs, next, rfl, hwrite⟩
      · exact hnext ⟨ht, hw.log⟩
      · refine hnext (genuine_write hwrite ⟨ht.live, fun hzero hloaded => ?_⟩ hw.log)
        -- the owner's own edit
        have hkeep := hedit t htok (ht.loaded hzero hloaded)
        rw [hcall] at hkeep
        exact hkeep

theorem genuine_run (hclean : Provenance Clean) {w : World} {ms : List Move} (hnone : w.tok = none)
    (hlog : w.disk.log = []) (howner : Along (move C) (OwnerMove C secret) w ms)
    (hedit : Along (move C) (EditsKeep C Clean) w ms)
    (hforge : Unforged secret (run (move C) w ms).disk.log) :
    (run (move C) w ms).Genuine secret Clean := by
  have hback : ∀ (w : World) m, Unforged secret (w.move C m).disk.log → Unforged secret w.disk.log := by
    intro w m h
    obtain ⟨new, hnew⟩ := move_log C w m
    rw [hnew] at h
    exact h.of_append
  obtain ⟨-, hforge⟩ := along_of_run (P := fun w : World => Unforged secret w.disk.log) hback hforge
  have hstart : w.Genuine secret Clean := by
    refine ⟨?_, ?_, ?_⟩
    · intro t ht
      rw [hnone] at ht
      cases ht
    · rw [hlog]; nofun
    · rw [hlog]; nofun
  refine run_invariant ?_ hstart (along_and (along_and howner hedit) hforge)
  intro w m hw h
  exact genuine_step hclean w m hw h.1.1 h.1.2 h.2

/-- After a login by the owner, whatever file the attacker left: the objects were in memory
    already, or there are none, or they are what an earlier write encrypted under the DEK, or the
    blob verifies under the zero key. While no blob opens under the zero key, any property of
    stores that the owner's own calls keep holds of the objects in memory and of every store
    that is ever encrypted. -/
theorem login_loads_authentic (w : World) (ms : List Move) (hnone : w.tok = none)
    (hlog : w.disk.log = []) (howner : Along (move C) (OwnerMove C secret) w ms)
    (env : Env) (role : Role) (pin : Bytes) (hpin : Unknown C secret pin) (t : Token) (w' : World)
    (htok : (run (move C) w ms).tok = some t)
    (hlogin : (run (move C) w ms).call C (.login env role pin) = (.ok, w'))
    (hforge : Unforged secret w'.disk.log) :
    (∃ t' dek, w'.tok = some t' ∧ t'.liveDek = some dek ∧
      LoadSource C (run (move C) w ms).disk.log (run (move C) w ms).disk.file dek t t'
        w'.disk.log) ∧
    ∀ Clean, Provenance Clean → Along (move C) (EditsKeep C Clean) w ms →
      NoZeroKey w'.disk.log →
      (∀ t', w'.tok = some t' → Clean t'.objects) ∧
        ∀ s key nonce, .sealed s key nonce ∈ w'.disk.log → Clean s.objects := by
  generalize hrun : run (.move C) w ms = w₁ at htok hlogin
  -- the call is a login on `t`
  rcases hcall : t.login C env role pin w₁.disk with ⟨rv, t', d'⟩
  simp only [call, htok, hcall, Prod.mk.injEq] at hlogin
  obtain ⟨rfl, rfl⟩ := hlogin
  have hcases := login_cases hcall
  have hforge₁ : Unforged secret (run (.move C) w ms).disk.log := by
    obtain ⟨new, hnew⟩ := step_log C w₁ (.login env role pin)
    simp only [step, call, htok, hcall] at hnew
    rw [hrun]
    rw [hnew] at hforge
    exact hforge.of_append
  -- the invariant before the login, for any property the owner's edits keep
  have hgen : ∀ Clean, Provenance Clean → Along (.move C) (EditsKeep C Clean) w ms →
      w₁.Genuine secret Clean := by
    intro Clean hclean hedit
    rw [← hrun]
    exact genuine_run hclean hnone hlog howner hedit hforge₁
  have htrue : w₁.Genuine secret (fun _ => True) := by
    refine hgen _ ⟨fun _ _ => trivial, fun _ _ => trivial⟩ (along_of_forall ?_ w ms)
    intro w m
    unfold EditsKeep
    split <;> simp
  obtain ⟨dek, hlive, hsource⟩ := login_source htrue.log hcases hpin hforge
  refine ⟨⟨t', dek, rfl, hlive, hsource⟩, ?_⟩
  intro Clean hclean hedit hzero
  obtain ⟨ht₁, hd₁⟩ := hgen Clean hclean hedit
  obtain ⟨ht', hd'⟩ := genuine_login hd₁ hclean hcases (ht₁ t htok) (fun _ => hpin) hforge
  have hzero₁ : NoZeroKey w₁.disk.log := by
    obtain ⟨new, hnew⟩ := step_log C w₁ (.login env role pin)
    simp only [step, call, htok, hcall] at hnew
    rw [hnew] at hzero
    exact hzero.of_append
  refine ⟨?_, hd'.stored hzero⟩
  rintro _ ⟨⟩
  cases hsource with
  | kept hloaded hobjs => rw [hobjs]; exact (ht₁ t htok).loaded hzero₁ hloaded
  | none hobjs => exact hclean.empty _ hobjs
  | stored s nonce hmem hobjs =>
    rw [hobjs]
    exact hclean.persisted _ (hd₁.stored hzero₁ s dek nonce hmem)
  | zeroKey f nonce ct tag pt hfile hblob hopen hes => exact absurd hes (hzero nonce _ ct tag pt)

end

/-- The owner stores an object, the attacker puts that file back, and a process loads it. -/
def replayMoves : List Move :=
  let soPin : Bytes := List.replicate 8 0x31
  let calls : List Move :=
    [.call (.init .quiet soPin []), .call (.login .quiet .so soPin),
      .call (.object .quiet (.add ⟨ckoPublicKey, 0, [], [1, 2, 3], [], 0⟩)), .call .close]
  calls ++
    [.tamper (run (World.move .plain) ⟨none, ⟨none, []⟩⟩ calls).disk.file, .call (.load .quiet)]

/-- The next login reads the stored object. -/
theorem login_loads_authentic_replay :
    let soPin : Bytes := replicate 8 0x31
    let w := run (move .plain) ⟨none, ⟨none, []⟩⟩ replayMoves
    let w' := (w.call .plain (.login .quiet .so soPin)).2
    w'.tok.map (fun t => t.objects.objs.map Obj.value) = some [[1, 2, 3]] ∧
      ∃ t t' dek, w.tok = some t ∧ w'.tok = some t' ∧ t'.liveDek = some dek ∧
        LoadSource .plain w.disk.log w.disk.file dek t t' w'.disk.log := by
  intro soPin w w'
  have hdraw : Env.quiet.rngDek ≠ zeroKey := by decide +kernel
  have hpin : Unknown .plain (fun key => key ≠ zeroKey) soPin := by
    intro salt iter
    show vecAt (Vector.toList (vecAt soPin 0 16) ++ replicate 16 0) 0 32 ≠ zeroKey
    decide +kernel
  have howner : Along (.move .plain) (OwnerMove .plain (fun key => key ≠ zeroKey))
      ⟨none, ⟨none, []⟩⟩ replayMoves := by
    simp only [replayMoves, cons_append, nil_append, along_cons, along_nil, OwnerMove, and_true]
    exact ⟨hdraw, fun _ _ _ => hpin⟩
  have hfacts : w.tok.isSome = true ∧ (w.call .plain (.login .quiet .so soPin)).1 = .ok ∧
      w'.tok.map (fun t => t.objects.objs.map Obj.value) = some [[1, 2, 3]] ∧
      Unforged (fun key => key ≠ zeroKey) w'.disk.log := by
    decide +kernel
  obtain ⟨hsome, hok, hvalue, hforge⟩ := hfacts
  obtain ⟨t, htok⟩ := Option.isSome_iff_exists.mp hsome
  obtain ⟨t', dek, htok', hlive, hsource⟩ := (login_loads_authentic ⟨none, ⟨none, []⟩⟩
    replayMoves rfl rfl howner .quiet .so soPin hpin t w' htok (Prod.ext hok rfl) hforge).1
  exact ⟨hvalue, t, t', dek, htok, htok', hlive, hsource⟩

/-- The attacker appends a blob they encrypted under 32 zero bytes to the file of an empty token;
    the owner's next login loads its object. No decryption was a forgery. -/
theorem login_loads_zeroKey_blob :
    let soPin : Bytes := replicate 8 0x31
    let own := run (step .plain) ⟨none, ⟨none, []⟩⟩ [.init .quiet soPin [], .close]
    let serial := ((own.disk.file.bind Header.decode).map Header.aad).getD []
    let fake : Obj := { Obj.zero with handle := 1, cls := ckoSecretKey }
    let blob := Crypto.plain.encrypt zeroKey (Vector.replicate 12 0) serial
      (serializeObjects ⟨[fake], by decide⟩ 2 false)
    let file := own.disk.file.map (· ++ blobBytes (Vector.replicate 12 0) blob.1 blob.2)
    let w := run (move .plain) own [.tamper file, .call (.load .quiet)]
    let w' := (w.call .plain (.login .quiet .so soPin)).2
    (w.call .plain (.login .quiet .so soPin)).1 = .ok ∧
      w'.tok.map (fun t => t.objects.objs.map Obj.cls) = some [ckoSecretKey] ∧
      (w.disk.log.all fun | .sealed .. => false | _ => true) = true ∧
      Unforged (fun key => key ≠ zeroKey) w'.disk.log := by
  decide +kernel

end FreeHsm
