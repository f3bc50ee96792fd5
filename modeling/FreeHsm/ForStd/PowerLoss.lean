import Mathlib.Data.List.Basic
import Mathlib.Order.Nat

/-!
# A file that is replaced, and power failures

A file is replaced by writing a temporary one beside it and renaming that. Contents reach
the disk with a successful `fsync` of the file, directory entries with a sync of the
directory; a power failure loses the rest.

As long as no replacement is renamed before its content is on the disk, the file system
is a pair of contents: the one that is read, and the one that survives a power failure.
Work on the temporary file changes neither, a replacement changes the first, and a sync of
the directory makes the second equal to the first.
-/

namespace PowerLoss

variable {α : Type}

/-- A file: what is read, and what a power failure leaves of it. -/
structure Inode (α : Type) where
  content : List α
  durable : List α

/-- The directory entries of the file and of its temporary file. -/
structure Dir where
  file : Option Nat
  tmp : Option Nat

/-- Files by number, the directory, and the directory as a power failure leaves it. -/
structure Fs (α : Type) where
  inodes : List (Inode α)
  dir : Dir
  durableDir : Dir

namespace Fs

def empty : Fs α := ⟨[], ⟨none, none⟩, ⟨none, none⟩⟩

variable (fs : Fs α)

/-- The content of the file. -/
def read : Option (List α) :=
  fs.dir.file.bind fun i => fs.inodes[i]?.map (·.content)

/-- What a power failure leaves of it. -/
def survivor : Option (List α) :=
  fs.durableDir.file.bind fun i => fs.inodes[i]?.map (·.durable)

/-! ## System calls -/

/-- A change of the temporary file, if there is one. -/
def onTmp (f : Inode α → Inode α) : Fs α :=
  match fs.dir.tmp with
  | none => fs
  | some i => { fs with inodes := fs.inodes.modify i f }

/-- `open` with `O_CREAT | O_TRUNC` of the temporary file. -/
def create : Fs α :=
  match fs.dir.tmp with
  | some _ => fs.onTmp fun x => { x with content := [] }
  | none =>
    { fs with
      inodes := fs.inodes ++ [⟨[], []⟩]
      dir := { fs.dir with tmp := some fs.inodes.length } }

def write (b : List α) : Fs α := fs.onTmp fun x => { x with content := x.content ++ b }

/-- `fsync` of the temporary file, if it succeeds. -/
def fsync : Fs α := fs.onTmp fun x => { x with durable := x.content }

def unlink : Fs α := { fs with dir := { fs.dir with tmp := none } }

/-- `rename` of the temporary file over the file. -/
def rename : Fs α :=
  match fs.dir.tmp with
  | none => fs
  | some i => { fs with dir := ⟨some i, none⟩ }

def syncDir : Fs α := { fs with durableDir := fs.dir }

def powerFail : Fs α :=
  { fs with
    inodes := fs.inodes.map fun x => { x with content := x.durable }
    dir := fs.durableDir }

/-- A whole replacement; `synced` says whether the `fsync` in it succeeded. -/
def replace (synced : Bool) (b : List α) : Fs α :=
  let fs := fs.create.write b
  (if synced then fs.fsync else fs).rename

/-! ## Invariants -/

/-- The directory on the disk names files that are there, and what survives is not being written. -/
structure Guarded (fs : Fs α) : Prop where
  file : ∀ i, fs.durableDir.file = some i →
    i < fs.inodes.length ∧ fs.durableDir.tmp ≠ some i ∧ fs.dir.tmp ≠ some i
  durableTmp : ∀ i, fs.durableDir.tmp = some i → i < fs.inodes.length
  tmp : ∀ i, fs.dir.tmp = some i → i < fs.inodes.length

/-- The file, as it is and as it would survive, is on the disk in full and is not being written. -/
structure Sound (fs : Fs α) : Prop extends Guarded fs where
  full : ∀ i, fs.dir.file = some i ∨ fs.durableDir.file = some i →
    fs.dir.tmp ≠ some i ∧ ∃ x, fs.inodes[i]? = some x ∧ x.durable = x.content

theorem sound_empty : (empty : Fs α).Sound :=
  ⟨⟨nofun, nofun, nofun⟩, fun _ h => by rcases h with h | h <;> cases h⟩

variable {fs : Fs α}

/-! ## Work on the temporary file -/

/-- Nothing but the temporary file has changed, and if there is one now it was it before or is new. -/
structure TmpOnly (fs fs' : Fs α) : Prop where
  file : fs'.dir.file = fs.dir.file
  durableDir : fs'.durableDir = fs.durableDir
  grows : fs.inodes.length ≤ fs'.inodes.length
  others : ∀ i, i < fs.inodes.length → fs.dir.tmp ≠ some i → fs'.inodes[i]? = fs.inodes[i]?
  tmp : ∀ i, fs'.dir.tmp = some i →
    fs.dir.tmp = some i ∨ fs.inodes.length ≤ i ∧ i < fs'.inodes.length

namespace TmpOnly

theorem refl (fs : Fs α) : TmpOnly fs fs := ⟨rfl, rfl, le_rfl, fun _ _ _ => rfl, fun _ h => .inl h⟩

theorem trans {fs₁ fs₂ : Fs α} (h₁ : TmpOnly fs fs₁) (h₂ : TmpOnly fs₁ fs₂) : TmpOnly fs fs₂ := by
  refine ⟨h₂.file.trans h₁.file, h₂.durableDir.trans h₁.durableDir, h₁.grows.trans h₂.grows, ?_, ?_⟩
  · intro i hi hne
    have hne₁ : fs₁.dir.tmp ≠ some i := by
      intro h
      rcases h₁.tmp i h with h | h
      · exact hne h
      · omega
    rw [h₂.others i (hi.trans_le h₁.grows) hne₁, h₁.others i hi hne]
  · intro i hi
    rcases h₂.tmp i hi with h | h
    · rcases h₁.tmp i h with h | h
      · exact .inl h
      · exact .inr ⟨h.1, h.2.trans_le h₂.grows⟩
    · exact .inr ⟨h₁.grows.trans h.1, h.2⟩

end TmpOnly

theorem tmpOnly_onTmp (fs : Fs α) (f : Inode α → Inode α) : TmpOnly fs (fs.onTmp f) := by
  unfold onTmp
  split
  · exact .refl fs
  rename_i j hj
  refine ⟨rfl, rfl, by simp, fun i _ hne => ?_, fun i hi => .inl hi⟩
  have hji : j ≠ i := fun h => hne (h ▸ hj)
  simp [hji]

theorem tmpOnly_create (fs : Fs α) : TmpOnly fs fs.create := by
  unfold create
  split
  · exact tmpOnly_onTmp fs _
  refine ⟨rfl, rfl, by simp, fun i hi _ => ?_, fun i hi => ?_⟩
  · exact List.getElem?_append_left hi
  · cases hi
    exact .inr ⟨le_rfl, by simp⟩

theorem tmpOnly_unlink (fs : Fs α) : TmpOnly fs fs.unlink :=
  ⟨rfl, rfl, le_rfl, fun _ _ _ => rfl, nofun⟩

theorem tmpOnly_written (fs : Fs α) (synced : Bool) (b : List α) :
    TmpOnly fs (if synced then (fs.create.write b).fsync else fs.create.write b) := by
  have hwrite := (tmpOnly_create fs).trans (tmpOnly_onTmp fs.create fun x =>
    { x with content := x.content ++ b })
  split
  · exact hwrite.trans (tmpOnly_onTmp _ _)
  · exact hwrite

section

variable {fs' : Fs α}

theorem Guarded.tmpOnly (h : fs.Guarded) (hwork : TmpOnly fs fs') :
    fs'.Guarded ∧ fs'.survivor = fs.survivor := by
  have htmp : ∀ i, fs'.dir.tmp = some i → i < fs'.inodes.length := by
    intro i hi
    rcases hwork.tmp i hi with hold | hnew
    · exact (h.tmp i hold).trans_le hwork.grows
    · exact hnew.2
  refine ⟨⟨fun i hi => ?_, fun i hi => ?_, htmp⟩, ?_⟩
  · rw [hwork.durableDir] at hi ⊢
    obtain ⟨hlt, hne, hne'⟩ := h.file i hi
    refine ⟨hlt.trans_le hwork.grows, hne, fun hi' => ?_⟩
    rcases hwork.tmp i hi' with hold | hnew
    · exact hne' hold
    · omega
  · rw [hwork.durableDir] at hi
    exact (h.durableTmp i hi).trans_le hwork.grows
  · unfold survivor
    rw [hwork.durableDir]
    cases hi : fs.durableDir.file with
    | none => rfl
    | some i =>
      obtain ⟨hlt, -, hne⟩ := h.file i hi
      simp only [Option.bind_some, hwork.others i hlt hne]

theorem Sound.tmpOnly (h : fs.Sound) (hwork : TmpOnly fs fs') : fs'.Sound ∧ fs'.read = fs.read := by
  have hothers : ∀ i, fs.dir.file = some i ∨ fs.durableDir.file = some i →
      fs'.inodes[i]? = fs.inodes[i]? := by
    intro i hi
    obtain ⟨hne, x, hx, -⟩ := h.full i hi
    exact hwork.others i (List.getElem?_eq_some_iff.1 hx).1 hne
  refine ⟨⟨(h.toGuarded.tmpOnly hwork).1, fun i hi => ?_⟩, ?_⟩
  · rw [hwork.file, hwork.durableDir] at hi
    obtain ⟨hne, x, hx, hsync⟩ := h.full i hi
    refine ⟨fun htmp => ?_, x, (hothers i hi).trans hx, hsync⟩
    rcases hwork.tmp i htmp with hold | hnew
    · exact hne hold
    · exact absurd (List.getElem?_eq_some_iff.1 hx).1 (by omega)
  · unfold read
    rw [hwork.file]
    cases hi : fs.dir.file with
    | none => rfl
    | some i => simp only [Option.bind_some, hothers i (.inl hi)]

end

/-! ## Replacements -/

theorem written_tmp (h : fs.Guarded) (synced : Bool) (b : List α) :
    ∃ i x, (if synced then (fs.create.write b).fsync else fs.create.write b).dir.tmp = some i ∧
      (if synced then (fs.create.write b).fsync else fs.create.write b).inodes[i]? = some x ∧
      x.content = b ∧ (synced = true → x.durable = b) := by
  -- the temporary file is there and empty
  obtain ⟨i, x, htmp, hx, hempty⟩ : ∃ i x, fs.create.dir.tmp = some i ∧
      fs.create.inodes[i]? = some x ∧ x.content = [] := by
    cases hold : fs.dir.tmp with
    | none =>
      refine ⟨fs.inodes.length, ⟨[], []⟩, ?_, ?_, rfl⟩
      · simp [create, hold]
      · simp [create, hold]
    | some i =>
      have hlt := h.tmp i hold
      refine ⟨i, { fs.inodes[i] with content := [] }, ?_, ?_, rfl⟩
      · simp [create, hold, onTmp]
      · simp [create, hold, onTmp, hlt]
  have hwrite : fs.create.write b =
      { fs.create with inodes := fs.create.inodes.modify i fun x => { x with content := x.content ++ b } } := by
    rw [write, onTmp, htmp]
  cases synced with
  | false =>
    refine ⟨i, { x with content := x.content ++ b }, ?_, ?_, by simp [hempty], nofun⟩
    · simp [hwrite, htmp]
    · simp [hwrite, hx]
  | true =>
    refine ⟨i, ⟨x.content ++ b, x.content ++ b⟩, ?_, ?_, by simp [hempty], by simp [hempty]⟩
    · simp [hwrite, fsync, onTmp, htmp]
    · simp [hwrite, fsync, onTmp, htmp, hx]

/-- Any replacement leaves what survives as it was, for now. -/
theorem Guarded.replace (h : fs.Guarded) (synced : Bool) (b : List α) :
    (fs.replace synced b).Guarded ∧ (fs.replace synced b).survivor = fs.survivor := by
  obtain ⟨hguarded, hsurvivor⟩ := h.tmpOnly (tmpOnly_written fs synced b)
  unfold Fs.replace rename
  dsimp only
  split
  · exact ⟨hguarded, hsurvivor⟩
  refine ⟨⟨fun i hi => ?_, hguarded.durableTmp, nofun⟩, hsurvivor⟩
  obtain ⟨hlt, hne, -⟩ := hguarded.file i hi
  exact ⟨hlt, hne, nofun⟩

/-- A replacement whose content reached the disk first is read from then on. -/
theorem Sound.replace (h : fs.Sound) (b : List α) :
    (fs.replace true b).Sound ∧ (fs.replace true b).read = some b := by
  obtain ⟨i, x, htmp, hx, hcontent, hdurable⟩ := written_tmp h.toGuarded true b
  have hguarded := (h.toGuarded.replace true b).1
  obtain ⟨hsound, -⟩ := h.tmpOnly (tmpOnly_written fs true b)
  unfold Fs.replace at hguarded ⊢
  dsimp only at hguarded ⊢
  generalize (if true = true then (fs.create.write b).fsync else fs.create.write b) = fs₁ at *
  rw [rename, htmp] at hguarded ⊢
  refine ⟨⟨hguarded, fun j hj => ⟨nofun, ?_⟩⟩, ?_⟩
  · rcases hj with hj | hj
    · cases hj
      exact ⟨x, hx, (hdurable rfl).trans hcontent.symm⟩
    · exact (hsound.full j (.inr hj)).2
  · simp [read, hx, hcontent]

theorem Sound.syncDir (h : fs.Sound) :
    fs.syncDir.Sound ∧ fs.syncDir.read = fs.read ∧ fs.syncDir.survivor = fs.read := by
  refine ⟨⟨⟨fun i hi => ?_, h.tmp, h.tmp⟩, fun i hi => h.full i (.inl (or_self_iff.1 hi))⟩, rfl, ?_⟩
  · obtain ⟨hne, x, hx, -⟩ := h.full i (.inl hi)
    exact ⟨(List.getElem?_eq_some_iff.1 hx).1, hne, hne⟩
  · unfold survivor read Fs.syncDir
    cases hi : fs.dir.file with
    | none => rfl
    | some i =>
      obtain ⟨-, x, hx, hsync⟩ := h.full i (.inl hi)
      simp [hx, hsync]

theorem Guarded.powerFail (h : fs.Guarded) :
    fs.powerFail.Sound ∧ fs.powerFail.read = fs.survivor ∧ fs.powerFail.survivor = fs.survivor := by
  have hlength : fs.powerFail.inodes.length = fs.inodes.length := by simp [Fs.powerFail]
  refine ⟨⟨⟨fun i hi => ?_, fun i hi => ?_, fun i hi => ?_⟩, fun i hi => ?_⟩, ?_, ?_⟩
  · obtain ⟨hlt, hne, -⟩ := h.file i hi
    exact ⟨hlength ▸ hlt, hne, hne⟩
  · exact hlength ▸ h.durableTmp i hi
  · exact hlength ▸ h.durableTmp i hi
  · obtain ⟨hlt, hne, -⟩ := h.file i (or_self_iff.1 hi)
    refine ⟨hne, { fs.inodes[i] with content := fs.inodes[i].durable }, ?_, rfl⟩
    simp [Fs.powerFail, hlt]
  · simp [read, survivor, Fs.powerFail, Function.comp_def]
  · simp [survivor, Fs.powerFail, Function.comp_def]

end Fs

end PowerLoss
