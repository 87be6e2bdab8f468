/-
# JumpList.Proofs.Host.Growth — file systems that grow.

A file system grows if everything that is there stays as it is (`Grows`).  Then every walk still leads
where it led, and what was found at a path is found there, byte for byte (`Grows.find`).

Making directories lets a file system grow, even where not all of them can be made
(`grows_makeDirectories`), and so does writing to a path where nothing is (`grows_write`).  Directories
that could be made are there (`isPresent_makeDirectories`).  Removing is the other way round: what is found
afterwards was found before (`grows_remove`), and what was removed is not (`isPresent_remove`).
-/
import JumpList.Host.FileSystem.Lemmas

namespace JumpList.Host.FileSystem

/-- Everything that is there stays as it is. -/
structure Grows (fs fs' : FileSystem) : Prop where
  working : fs'.working = fs.working
  keeps : ∀ loc entry, fs.get? loc = some entry → fs'.get? loc = some entry

/-! ## What stays -/

namespace Grows

variable {fs fs' fs'' : FileSystem}

theorem refl (fs : FileSystem) : Grows fs fs := ⟨rfl, fun _ _ h => h⟩

theorem trans (h : Grows fs fs') (h' : Grows fs' fs'') : Grows fs fs'' :=
  ⟨h'.working.trans h.working, fun loc entry hget => h'.keeps loc entry (h.keeps loc entry hget)⟩

/-- Whatever is put where nothing was, all else stays. -/
theorem put {loc : Location} (h : fs.get? loc = none) (entry : Entry) :
    Grows fs (fs.put loc entry) := by
  refine ⟨rfl, fun other kept hget => ?_⟩
  have hne : other ≠ loc := by
    rintro rfl
    rw [h] at hget
    cases hget
  rw [get?_put_of_ne hne, hget]

/-- Every walk leads where it led. -/
theorem walk (h : Grows fs fs') {loc loc' : Location} {names : List Name}
    (hwalk : fs.walk loc names = .ok loc') : fs'.walk loc names = .ok loc' := by
  refine walk_of_kept (fun loc => h.keeps loc _) (fun loc hthere => ?_) hwalk
  obtain ⟨entry, hget⟩ := Option.isSome_iff_exists.mp hthere
  rw [h.keeps loc entry hget]
  rfl

/-- What was found at a path is still found there. -/
theorem find (h : Grows fs fs') {p : Path} {found : Location × Entry}
    (hfind : fs.find p = .ok found) : fs'.find p = .ok found := by
  obtain ⟨hcheck, hwalk, hget, hslash⟩ := find_eq_ok_iff.mp hfind
  have hstart : fs'.start p = fs.start p := by
    rw [start, start, h.working]
  exact find_eq_ok_iff.mpr ⟨hcheck, hstart ▸ h.walk hwalk, h.keeps _ _ hget, hslash⟩

theorem isPresent (h : Grows fs fs') {p : Path} (hp : fs.isPresent p = true) :
    fs'.isPresent p = true := by
  obtain ⟨loc, entry, hfind⟩ := isPresent_iff.mp hp
  exact isPresent_iff.mpr ⟨loc, entry, h.find hfind⟩

/-- Where something was at a path, the same is. -/
theorem find_eq (h : Grows fs fs') {p : Path} (hp : fs.isPresent p = true) :
    fs'.find p = fs.find p := by
  obtain ⟨loc, entry, hfind⟩ := isPresent_iff.mp hp
  rw [hfind, h.find hfind]

/-- Where something was at a path, the same can be read. -/
theorem readText_eq (h : Grows fs fs') {p : Path} (hp : fs.isPresent p = true) :
    fs'.readText p = fs.readText p := by
  rw [readText, readText, read, read, h.find_eq hp]

end Grows

/-! ## Making directories -/

/-- A directory is made where the path leads and nothing is. -/
theorem makeDirectory_eq_ok {fs fs' : FileSystem} {p : Path} (h : fs.makeDirectory p = .ok fs') :
    ∃ dir name, fs.target p = .ok (dir, some name) ∧ name.length ≤ nameLimit ∧
      fs.get? (dir ++ [name]) = none ∧ fs' = fs.put (dir ++ [name]) .directory := by
  simp only [makeDirectory, bind, Except.bind, pure, Except.pure] at h
  split at h
  · cases h
  · next htarget =>
    split at h
    · cases h
    · next dir name =>
      split at h
      · cases h
      · next hlength =>
        split at h
        · cases h
        · next hnone =>
          cases h
          exact ⟨dir, name, htarget, by omega, by simpa using hnone, rfl⟩

theorem grows_makeDirectory {fs fs' : FileSystem} {p : Path} (h : fs.makeDirectory p = .ok fs') :
    Grows fs fs' := by
  obtain ⟨dir, name, -, -, hnone, rfl⟩ := makeDirectory_eq_ok h
  exact Grows.put hnone .directory

theorem isPresent_makeDirectory {fs fs' : FileSystem} {p : Path}
    (h : fs.makeDirectory p = .ok fs') : fs'.isPresent p = true := by
  obtain ⟨dir, name, htarget, hlength, hnone, rfl⟩ := makeDirectory_eq_ok h
  have hplace : fs.get? (dir ++ [name]) ≠ some .directory := by
    rw [hnone]
    exact nofun
  exact isPresent_iff.mpr ⟨_, _, find_put_of_target htarget hlength hplace fun _ => rfl⟩

theorem isPresent_of_isDirectory {fs : FileSystem} {p : Path} (h : fs.isDirectory p = true) :
    fs.isPresent p = true := by
  unfold isDirectory at h
  split at h
  · next loc hfind => exact isPresent_iff.mpr ⟨loc, _, hfind⟩
  · cases h

/-- A directory that is had is there, and getting it left everything as it was. -/
theorem grows_ensureDirectory {fs fs' : FileSystem} {p : Path}
    (h : fs.ensureDirectory p = .ok fs') : Grows fs fs' ∧ fs'.isPresent p = true := by
  unfold ensureDirectory at h
  split at h
  · next hmade =>
    cases h
    exact ⟨grows_makeDirectory hmade, isPresent_makeDirectory hmade⟩
  · split at h
    · next hdir =>
      cases h
      exact ⟨.refl fs, isPresent_of_isDirectory hdir⟩
    · cases h

/-- What a way to make directories does to a file system: it lets it grow, and the directory is there
unless there is a cause why not. -/
def Makes (make : Path → FileSystem → Except Cause Unit × FileSystem) : Prop :=
  ∀ p fs, Grows fs (make p fs).2 ∧
    (p ≠ Path.empty → (make p fs).1 = .ok () → (make p fs).2.isPresent p = true)

/-- Making a directory after those above it, if they are made properly. -/
theorem makes_makeAfter {above : Path → FileSystem → Except Cause Unit × FileSystem}
    (habove : Makes above) : Makes (makeAfter above) := by
  intro p fs
  unfold makeAfter
  split
  · next hempty => exact ⟨.refl fs, fun hp => absurd (Path.isEmpty_iff.mp hempty) hp⟩
  · split
    · next fs' hmade => exact ⟨grows_makeDirectory hmade, fun _ _ => isPresent_makeDirectory hmade⟩
    · split
      · exact ⟨.refl fs, nofun⟩
      · next q hparent =>
        obtain ⟨hgrows, -⟩ := habove q fs
        split
        · next fs' hq =>
          rw [hq] at hgrows
          cases hensure : fs'.ensureDirectory p with
          | error cause => exact ⟨hgrows, nofun⟩
          | ok fs'' =>
            obtain ⟨hgrows', hp⟩ := grows_ensureDirectory hensure
            exact ⟨hgrows.trans hgrows', fun _ _ => hp⟩
        · next cause fs' hq =>
          rw [hq] at hgrows
          exact ⟨hgrows, nofun⟩
    · split
      · next hdir => exact ⟨.refl fs, fun _ _ => isPresent_of_isDirectory hdir⟩
      · exact ⟨.refl fs, nofun⟩

theorem makes_makeWithin (levels : Nat) : Makes (makeWithin levels) := by
  induction levels with
  | zero => exact makes_makeAfter fun _ fs => ⟨.refl fs, nofun⟩
  | succ levels ih => exact makes_makeAfter ih

/-- Making directories leaves everything that is there as it was, whatever comes of it. -/
theorem grows_makeDirectories (fs : FileSystem) (p : Path) : Grows fs (fs.makeDirectories p).2 :=
  (makes_makeWithin p.components.length p fs).1

/-- A directory that could be made is there. -/
theorem isPresent_makeDirectories {fs fs' : FileSystem} {p : Path} (hp : p ≠ Path.empty)
    (h : fs.makeDirectories p = (.ok (), fs')) : fs'.isPresent p = true := by
  have hmade := (makes_makeWithin p.components.length p fs).2 hp
  rw [← makeDirectories, h] at hmade
  exact hmade rfl

/-! ## Writing -/

/-- A file that is written where nothing is leaves everything else as it was. -/
theorem grows_write {fs fs' : FileSystem} {p : Path} {bytes : List UInt8}
    (hp : fs.isPresent p = false) (h : fs.write p bytes = .ok fs') : Grows fs fs' := by
  obtain ⟨loc, old, hopen, rfl⟩ := write_eq_ok h
  obtain ⟨dir, name, rfl, htarget, hslash, hlength, -⟩ := openFile_eq_ok hopen
  refine Grows.put ?_ _
  -- What bears that name would be found by the path.
  cases hget : fs.get? (dir ++ [name]) with
  | none => rfl
  | some entry =>
    have hfind := find_of_target htarget hlength hget fun hends => by
      rw [hslash] at hends
      cases hends
    rw [isPresent_iff.mpr ⟨_, _, hfind⟩] at hp
    cases hp

/-! ## Removing -/

/-- What is left after a removal was there before, and as it is. -/
theorem grows_remove (fs : FileSystem) (loc : Location) : Grows (fs.remove loc) fs := by
  refine ⟨rfl, fun other entry hget => ?_⟩
  by_cases hroot : other = []
  · subst hroot
    exact hget
  · rw [get?_remove fs loc hroot] at hget
    split at hget
    · cases hget
    · exact hget

/-- Nothing is at a path after what was found there is removed. -/
theorem isPresent_remove {fs : FileSystem} {p : Path} {loc : Location} {entry : Entry}
    (hfind : fs.find p = .ok (loc, entry)) (hroot : loc ≠ []) :
    (fs.remove loc).isPresent p = false := by
  rw [Bool.eq_false_iff]
  intro hp
  obtain ⟨loc', entry', hfound⟩ := isPresent_iff.mp hp
  -- What is still found was found before, so it would be what was removed.
  have hsame := (grows_remove fs loc).find hfound
  rw [hfind] at hsame
  cases hsame
  obtain ⟨-, -, hget, -⟩ := find_eq_ok_iff.mp hfound
  have hprefix : loc.isPrefixOf loc = true := List.isPrefixOf_iff_prefix.mpr (List.prefix_refl loc)
  rw [get?_remove fs loc hroot, if_pos hprefix] at hget
  cases hget

end JumpList.Host.FileSystem
