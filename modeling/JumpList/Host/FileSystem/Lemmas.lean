/-
# JumpList.Host.FileSystem.Lemmas — what is written can be read.

A walk takes its directions one after the other, and it leads where it led as long as directories stay
directories and what was there is not taken away (`walk_of_kept`).  So after bytes became the content of a
file, the same path leads to that file and those bytes (`read_write`).  And where something is at a name in
a directory, the directory is there (`isPresent_of_isPresent_join`).
-/
import JumpList.Host.FileSystem
import JumpList.Path.Lemmas

namespace JumpList.Host.FileSystem

/-! ## Walks -/

/-- A walk along names and then along others. -/
theorem walk_append (fs : FileSystem) (loc : Location) (names more : List Name) :
    fs.walk loc (names ++ more) = (fs.walk loc names).bind (fs.walk · more) := by
  induction names generalizing loc with
  | nil => rfl
  | cons name names ih =>
    simp only [List.cons_append, walk]
    split
    · rfl
    · rfl
    · split
      · exact ih loc
      · split
        · exact ih _
        · split
          · rfl
          · split
            · rfl
            · exact ih _

/-- A walk that goes on starts in a directory. -/
theorem get?_of_walk_cons {fs : FileSystem} {loc loc' : Location} {name : Name} {names : List Name}
    (h : fs.walk loc (name :: names) = .ok loc') : fs.get? loc = some .directory := by
  unfold walk at h
  split at h
  · cases h
  · cases h
  · next hd => exact hd

/-- A name in a directory leads to what bears it there. -/
theorem walk_singleton {fs : FileSystem} {dir : Location} {name : Name}
    (hdir : fs.get? dir = some .directory) (hself : name ≠ Path.selfName)
    (hparent : name ≠ Path.parentName) (hlength : name.length ≤ nameLimit)
    (hthere : (fs.get? (dir ++ [name])).isSome) : fs.walk dir [name] = .ok (dir ++ [name]) := by
  have hpresent : (fs.get? (dir ++ [name])).isNone = false := by simpa using hthere
  simp [walk, hdir, hself, hparent, Nat.not_lt.2 hlength, hpresent]

/-- Where directories are still directories, and what was there is still there, every walk leads where
it led. -/
theorem walk_of_kept {fs fs' : FileSystem}
    (hdirs : ∀ loc, fs.get? loc = some .directory → fs'.get? loc = some .directory)
    (hkept : ∀ loc, (fs.get? loc).isSome → (fs'.get? loc).isSome) {loc loc' : Location}
    {names : List Name} (h : fs.walk loc names = .ok loc') : fs'.walk loc names = .ok loc' := by
  induction names generalizing loc with
  | nil => exact h
  | cons name names ih =>
    have hloc := get?_of_walk_cons h
    unfold walk at h ⊢
    simp only [hdirs loc hloc, hloc] at h ⊢
    split
    · next hself =>
      rw [if_pos hself] at h
      exact ih h
    · next hself =>
      rw [if_neg hself] at h
      split
      · next hparent =>
        rw [if_pos hparent] at h
        exact ih h
      · next hparent =>
        rw [if_neg hparent] at h
        split at h
        · cases h
        · next hlength =>
          rw [if_neg hlength]
          split at h
          · cases h
          · next hthere =>
            -- What bears the name may have changed, but something still does.
            have hstill := hkept (loc ++ [name]) (by simpa [Option.isSome_iff_ne_none] using hthere)
            rw [if_neg (by simpa [Option.isSome_iff_ne_none] using hstill)]
            exact ih h

/-- What is put where no directory is does not stand in the way. -/
theorem walk_put {fs : FileSystem} {place : Location} (hp : fs.get? place ≠ some .directory)
    (entry : Entry) {loc loc' : Location} {names : List Name} (h : fs.walk loc names = .ok loc') :
    (fs.put place entry).walk loc names = .ok loc' := by
  have hplace : place ≠ [] := by
    rintro rfl
    exact hp rfl
  refine walk_of_kept (fun dir hdir => ?_) (fun other hother => ?_) h
  · have hne : dir ≠ place := fun e => hp (e ▸ hdir)
    rw [get?_put_of_ne hne, hdir]
  · by_cases he : other = place
    · rw [he, get?_put_self hplace]
      rfl
    · rwa [get?_put_of_ne he]

/-! ## What is at a path -/

/-- Something is at a path if the path can be looked up, its names lead there, and it is a directory if
the path ends like one. -/
theorem find_eq_ok_iff {fs : FileSystem} {p : Path} {loc : Location} {entry : Entry} :
    fs.find p = .ok (loc, entry) ↔
      checkPath p = .ok () ∧ fs.walk (fs.start p) p.names = .ok loc ∧ fs.get? loc = some entry ∧
        (p.endsInSlash = true → entry = .directory) := by
  unfold find
  cases checkPath p with
  | error cause => simp [bind, Except.bind]
  | ok u =>
    cases fs.walk (fs.start p) p.names with
    | error cause => simp [bind, Except.bind]
    | ok there =>
      simp only [bind, Except.bind, pure, Except.pure, true_and, Except.ok.injEq]
      constructor
      · intro h
        split at h
        · cases h
        · next hget =>
          cases h
          exact ⟨rfl, hget, fun _ => rfl⟩
        · next bytes hget =>
          split at h
          · cases h
          · next hslash =>
            cases h
            exact ⟨rfl, hget, fun hends => absurd hends hslash⟩
      · rintro ⟨rfl, hget, hslash⟩
        rw [hget]
        cases entry with
        | directory => rfl
        | file bytes =>
          have hfile : ¬ p.endsInSlash = true := fun hends => nomatch hslash hends
          simp only [hfile, Bool.false_eq_true, ↓reduceIte]

theorem isPresent_iff {fs : FileSystem} {p : Path} :
    fs.isPresent p = true ↔ ∃ loc entry, fs.find p = .ok (loc, entry) := by
  unfold isPresent
  rcases fs.find p with cause | ⟨loc, entry⟩
  · exact ⟨nofun, nofun⟩
  · exact ⟨fun _ => ⟨loc, entry, rfl⟩, fun _ => rfl⟩

/-- A name to put something under: the way leads to a directory, and the name goes on from there. -/
theorem target_eq_ok_iff {fs : FileSystem} {p : Path} {dir : Location} {name : Name} :
    fs.target p = .ok (dir, some name) ↔
      checkPath p = .ok () ∧ fs.walk (fs.start p) p.names.dropLast = .ok dir ∧
        fs.get? dir = some .directory ∧ p.names.getLast? = some name ∧
        name ≠ Path.selfName ∧ name ≠ Path.parentName := by
  constructor
  · intro h
    simp only [target, bind, Except.bind, pure, Except.pure] at h
    split at h
    · cases h
    · next hcheck =>
      split at h
      · cases h
      · next there hwalk =>
        split at h
        · cases h
        · cases h
        · cases h
        · next last hget hlast =>
          split at h
          · cases h
          · next hother =>
            cases h
            exact ⟨hcheck, hwalk, hget, hlast, fun e => hother (.inl e), fun e => hother (.inr e)⟩
  · rintro ⟨hcheck, hwalk, hget, hlast, hself, hparent⟩
    simp [target, hcheck, hwalk, hget, hlast, hself, hparent, bind, Except.bind, pure, Except.pure]

/-- What bears the name that a path leads to is found by the path. -/
theorem find_of_target {fs : FileSystem} {p : Path} {dir : Location} {name : Name} {entry : Entry}
    (htarget : fs.target p = .ok (dir, some name)) (hlength : name.length ≤ nameLimit)
    (hthere : fs.get? (dir ++ [name]) = some entry)
    (hslash : p.endsInSlash = true → entry = .directory) :
    fs.find p = .ok (dir ++ [name], entry) := by
  obtain ⟨hcheck, hwalk, hdir, hlast, hself, hparent⟩ := target_eq_ok_iff.mp htarget
  obtain ⟨front, hnames⟩ := List.getLast?_eq_some_iff.mp hlast
  rw [hnames, List.dropLast_concat] at hwalk
  refine find_eq_ok_iff.mpr ⟨hcheck, ?_, hthere, hslash⟩
  rw [hnames, walk_append, hwalk]
  exact walk_singleton hdir hself hparent hlength (by rw [hthere]; rfl)

/-- What is put under a name, where no directory is, is found by it. -/
theorem find_put_of_target {fs : FileSystem} {p : Path} {dir : Location} {name : Name}
    {entry : Entry} (htarget : fs.target p = .ok (dir, some name)) (hlength : name.length ≤ nameLimit)
    (hplace : fs.get? (dir ++ [name]) ≠ some .directory)
    (hslash : p.endsInSlash = true → entry = .directory) :
    (fs.put (dir ++ [name]) entry).find p = .ok (dir ++ [name], entry) := by
  obtain ⟨hcheck, hwalk, hdir, hrest⟩ := target_eq_ok_iff.mp htarget
  have hdir' : (fs.put (dir ++ [name]) entry).get? dir = some .directory := by
    rw [get?_put_of_ne (by simp), hdir]
  have htarget' : (fs.put (dir ++ [name]) entry).target p = .ok (dir, some name) :=
    target_eq_ok_iff.mpr ⟨hcheck, walk_put hplace entry hwalk, hdir', hrest⟩
  exact find_of_target htarget' hlength (get?_put_self (by simp) entry) hslash

/-! ## Files -/

/-- A path that a file can be opened at: the way leads to a directory, and the last name in it to the
file, or to nothing yet. -/
theorem openFile_eq_ok {fs : FileSystem} {p : Path} {loc : Location} {old : List UInt8}
    (h : fs.openFile p = .ok (loc, old)) :
    ∃ dir name, loc = dir ++ [name] ∧ fs.target p = .ok (dir, some name) ∧
      p.endsInSlash = false ∧ name.length ≤ nameLimit ∧ fs.get? loc ≠ some .directory := by
  simp only [openFile, bind, Except.bind, pure, Except.pure] at h
  split at h
  · cases h
  · next target htarget =>
    split at h
    · cases h
    · next dir name =>
      split at h
      · cases h
      · next hslash =>
        split at h
        · cases h
        · next hlength =>
          refine ⟨dir, name, ?_, htarget, by simpa using hslash, by omega, ?_⟩
          · split at h <;> cases h <;> rfl
          · split at h <;> cases h <;> simp_all

/-- Writing puts a file where the path leads. -/
theorem write_eq_ok {fs fs' : FileSystem} {p : Path} {bytes : List UInt8}
    (h : fs.write p bytes = .ok fs') :
    ∃ loc old, fs.openFile p = .ok (loc, old) ∧ fs' = fs.put loc (.file bytes) := by
  cases hopen : fs.openFile p with
  | error cause =>
    simp only [write, hopen, bind, Except.bind] at h
    cases h
  | ok opened =>
    simp only [write, hopen, bind, Except.bind, pure, Except.pure] at h
    cases h
    exact ⟨opened.1, opened.2, rfl, rfl⟩

/-- What was written is found. -/
theorem find_write {fs fs' : FileSystem} {p : Path} {bytes : List UInt8}
    (h : fs.write p bytes = .ok fs') : ∃ loc, fs'.find p = .ok (loc, .file bytes) := by
  obtain ⟨loc, old, hopen, rfl⟩ := write_eq_ok h
  obtain ⟨dir, name, rfl, htarget, hslash, hlength, hplace⟩ := openFile_eq_ok hopen
  refine ⟨dir ++ [name], find_put_of_target htarget hlength hplace fun hends => ?_⟩
  rw [hslash] at hends
  cases hends

/-- What was written is read. -/
theorem read_write {fs fs' : FileSystem} {p : Path} {bytes : List UInt8}
    (h : fs.write p bytes = .ok fs') : fs'.read p = .ok bytes := by
  obtain ⟨loc, hfind⟩ := find_write h
  simp [read, hfind, bind, Except.bind, pure, Except.pure]

/-- Something is where a file was written. -/
theorem isPresent_write {fs fs' : FileSystem} {p : Path} {bytes : List UInt8}
    (h : fs.write p bytes = .ok fs') : fs'.isPresent p = true := by
  obtain ⟨loc, hfind⟩ := find_write h
  exact isPresent_iff.mpr ⟨loc, _, hfind⟩

/-- A text that was written is read. -/
theorem readText_write {fs fs' : FileSystem} {p : Path} {text : String}
    (h : fs.write p (Path.ofString text).bytes = .ok fs') : fs'.readText p = .ok text := by
  simp [readText, read_write h, Path.ofString, bind, Except.bind, pure, Except.pure]

/-! ## The directory that something is in -/

/-- The front of a path can be looked up where the whole path can. -/
theorem checkPath_of_append {p q : Path} (hp : p ≠ Path.empty) {more : List UInt8}
    (hq : q.bytes = p.bytes ++ more) (h : checkPath q = .ok ()) : checkPath p = .ok () := by
  unfold checkPath at h ⊢
  split at h
  · cases h
  · next hnul =>
    split at h
    · cases h
    · split at h
      · cases h
      · next hlen =>
        have hnul' : p.bytes.contains 0 = false := by simp_all
        have hlen' : ¬ pathLimit < p.bytes.length := by
          rw [hq, List.length_append] at hlen
          omega
        have hempty : p.isEmpty = false := Bool.eq_false_iff.2 fun h => hp (Path.isEmpty_iff.1 h)
        simp only [hnul', hempty, hlen', Bool.false_eq_true, ↓reduceIte]

/-- Where something is at a name in a directory, the directory is there. -/
theorem isPresent_of_isPresent_join {fs : FileSystem} {p file : Path} {name : Name}
    (hp : p ≠ Path.empty) (hrel : file.isAbsolute = false) (hname : file.names = [name])
    (h : fs.isPresent (p.join file) = true) : fs.isPresent p = true := by
  obtain ⟨loc, entry, hfind⟩ := isPresent_iff.mp h
  obtain ⟨hcheck, hwalk, -, -⟩ := find_eq_ok_iff.mp hfind
  obtain ⟨more, hmore⟩ := Path.join_bytes (p := p) hrel
  have hstart : fs.start (p.join file) = fs.start p := by
    rw [start, start, Path.isAbsolute_join hp hrel]
  rw [hstart, Path.names_join hrel, hname, walk_append] at hwalk
  cases hfront : fs.walk (fs.start p) p.names with
  | error cause =>
    rw [hfront] at hwalk
    cases hwalk
  | ok dir =>
    rw [hfront] at hwalk
    have hdir : fs.find p = .ok (dir, .directory) :=
      find_eq_ok_iff.mpr
        ⟨checkPath_of_append hp hmore hcheck, hfront, get?_of_walk_cons hwalk, fun _ => rfl⟩
    exact isPresent_iff.mpr ⟨dir, _, hdir⟩

end JumpList.Host.FileSystem
