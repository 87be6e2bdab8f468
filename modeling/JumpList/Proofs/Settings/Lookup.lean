/-
# JumpList.Proofs.Settings.Lookup — looking settings up leaves the files alone.

A file of settings that is there is never written by looking the settings up: whether or not they would be
created, the program goes on as it does to load them, and it asks for nothing that changes a file.

On a file system in memory, what is loaded depends on the file alone (`result_load`).  Looking settings up
only lets the file system grow, and so does any sequence of lookups, by whatever names and from whatever
stores (`grows_lookup`, `grows_afterAll`).  So an outcome that a file has once, error or not, it has until
the file is taken away (`settled_of_isPresent`), and the first lookup settles what all later ones find
(`loadOrCreate_never_clobbers`).
-/
import JumpList.Proofs.Host.Growth
import JumpList.Proofs.Settings.Store

namespace JumpList

open Host (Environment FileSystem Machine)
open Host.FileSystem (Grows)

variable {σ α β : Type}

/-! ## Requests that change a file -/

namespace Host

/-- The request has bytes made part of a file. -/
def Call.Writes : Call → Prop
  | .write _ _ | .append _ _ => True
  | .isPresent _ | .readText _ | .makeDirectories _ | .clock => False

theorem appDirectory_asksOnly (env : Environment) (app : String) :
    (appDirectory env app).AsksOnly fun call => ¬ call.Writes := by
  unfold appDirectory
  split
  · exact .pure none
  · next dir hconfig =>
    apply Dialogue.AsksOnly.bind (.question nofun)
    intro there
    cases there with
    | true => exact .pure (some dir)
    | false =>
      apply Dialogue.AsksOnly.bind (.question nofun)
      intro made
      cases made with
      | error cause => exact .bind (.say _) fun _ => .pure none
      | ok _ => exact .bind (.say _) fun _ => .pure (some dir)

/-- Looking for a directory lets a file system grow, and the directory that is had is there. -/
theorem appDirectory_grows (env : Environment) (app : String) (fs : FileSystem) :
    Grows fs ((appDirectory env app).run FileSystem.answer fs).state ∧
      ∀ dir, ((appDirectory env app).run FileSystem.answer fs).value = some dir →
        ((appDirectory env app).run FileSystem.answer fs).state.isPresent dir = true := by
  cases hconfig : env.configDirectory? app with
  | none =>
    rw [appDirectory, hconfig]
    refine ⟨.refl fs, ?_⟩
    intro dir h
    cases h
  | some dir =>
    cases hp : fs.isPresent dir with
    | true =>
      obtain ⟨hvalue, hstate⟩ := run_appDirectory_of_isPresent hconfig hp
      rw [hvalue, hstate]
      refine ⟨.refl fs, ?_⟩
      intro found h
      cases h
      exact hp
    | false =>
      have hgrows := FileSystem.grows_makeDirectories fs dir
      have hanswer : FileSystem.answer (.isPresent dir) fs = (false, fs) := Prod.ext hp rfl
      have hmake : (makeDirectories dir).run FileSystem.answer fs =
        ⟨(fs.makeDirectories dir).1, (fs.makeDirectories dir).2, _, []⟩ := rfl
      simp only [appDirectory, hconfig, Dialogue.run_bind, run_isPresent, hanswer, hmake,
        Bool.false_eq_true, ↓reduceIte]
      rcases hmade : fs.makeDirectories dir with ⟨cause | ⟨⟨⟩⟩, fs'⟩
      · rw [hmade] at hgrows
        refine ⟨hgrows, ?_⟩
        intro found h
        cases h
      · rw [hmade] at hgrows
        refine ⟨hgrows, ?_⟩
        intro found h
        cases h
        exact FileSystem.isPresent_makeDirectories (Environment.configDirectory?_ne_empty hconfig) hmade

end Host

namespace Settings

/-! ## Programs that change no file -/

namespace Access

/-- What a program that uses a store asks, and what it is answered. -/
def events (machine : Machine σ) (x : Access α) (s : σ) :
    List (Dialogue.Event Host.Call Host.Call.Reply) :=
  ((ExceptT.run x).run machine s).events

theorem events_bind_of_ok {machine : Machine σ} {x : Access α} {s s₁ : σ} {a : α}
    (h : result machine x s = (.ok a, s₁)) (f : α → Access β) :
    events machine (x >>= f) s = events machine x s ++ events machine (f a) s₁ := by
  obtain ⟨hvalue, hstate⟩ := Prod.mk.inj h
  simp only [events, ExceptT.run_bind, Dialogue.run_bind, hvalue, hstate]

/-- The program changes no file, however it is answered. -/
def SparesFiles (x : Access α) : Prop := (ExceptT.run x).AsksOnly fun call => ¬ call.Writes

namespace SparesFiles

theorem pure (a : α) : SparesFiles (Pure.pure a : Access α) := Dialogue.AsksOnly.pure _

theorem throw (e : Error) : SparesFiles (MonadExcept.throw e : Access α) := Dialogue.AsksOnly.pure _

theorem lift {d : Host.Talk α} (h : d.AsksOnly fun call => ¬ call.Writes) :
    SparesFiles (ExceptT.lift d) := by
  unfold SparesFiles
  rw [ExceptT.run_lift, ← bind_pure_comp]
  exact h.bind fun a => .pure _

theorem bind {x : Access α} {f : α → Access β} (hx : SparesFiles x) (hf : ∀ a, SparesFiles (f a)) :
    SparesFiles (x >>= f) := by
  unfold SparesFiles
  rw [ExceptT.run_bind]
  apply Dialogue.AsksOnly.bind hx
  intro done
  cases done with
  | ok a => exact hf a
  | error e => exact .pure _

theorem forall_events {x : Access α} (h : SparesFiles x) (machine : Machine σ) (s : σ) :
    ∀ e ∈ events machine x s, ¬ e.1.Writes :=
  Dialogue.AsksOnly.forall_events h machine s

end SparesFiles

end Access

theorem tell_sparesFiles (level : Log.Level) (message : String) :
    Access.SparesFiles (tell level message) :=
  .lift (.say _)

theorem isPresent_sparesFiles (p : Path) : Access.SparesFiles (isPresent p) := .lift (.question nofun)

theorem fetch_sparesFiles (p : Path) : Access.SparesFiles (fetch p) := by
  have hread : (Host.readText p).AsksOnly fun call => ¬ call.Writes := .question nofun
  apply Access.SparesFiles.bind (.lift hread)
  intro (reply : Except Host.Cause String)
  rcases reply with cause | text
  · exact .throw _
  · exact .pure text

namespace Store

theorem file_sparesFiles (store : Store) (app : String) : Access.SparesFiles (store.file app) := by
  unfold file
  split
  · exact .pure _
  · apply Access.SparesFiles.bind (.lift (Host.appDirectory_asksOnly store.env app))
    intro found
    cases found with
    | none => exact .throw _
    | some dir => exact .pure _

/-- Settings are loaded without a change to any file. -/
theorem load_sparesFiles (store : Store) (app : String) : Access.SparesFiles (store.load app) := by
  apply Access.SparesFiles.bind (file_sparesFiles store app)
  intro p
  apply Access.SparesFiles.bind (isPresent_sparesFiles p)
  intro there
  cases there with
  | false => exact .bind (tell_sparesFiles _ _) fun _ => .pure _
  | true =>
    apply Access.SparesFiles.bind (fetch_sparesFiles p)
    intro text
    cases ofText? text with
    | none => exact .throw _
    | some stored => exact .bind (tell_sparesFiles _ _) fun _ => .pure _

/-- Where the machine says that there is a file, settings that could be created are loaded. -/
theorem loadOrCreate_of_isPresent {store : Store} {app : String} {machine : Machine σ}
    {s s₁ s₂ : σ} {p : Path} (hfile : Access.result machine (store.file app) s = (.ok p, s₁))
    (hp : Access.result machine (isPresent p) s₁ = (.ok true, s₂)) :
    Access.result machine (store.loadOrCreate app) s =
        Access.result machine (store.load app) s₂ ∧
      ∀ e ∈ Access.events machine (store.loadOrCreate app) s, ¬ e.1.Writes := by
  unfold loadOrCreate
  constructor
  · rw [Access.result_bind_of_ok hfile, Access.result_bind_of_ok hp]
    rfl
  · -- The file is looked for, said to be there, and loaded; none of this changes a file.
    rw [Access.events_bind_of_ok hfile, Access.events_bind_of_ok hp]
    intro e he
    rcases List.mem_append.mp he with he | he
    · exact (file_sparesFiles store app).forall_events machine s e he
    · rcases List.mem_append.mp he with he | he
      · exact (isPresent_sparesFiles p).forall_events machine s₁ e he
      · exact (load_sparesFiles store app).forall_events machine s₂ e he

/-! ## Looking settings up in a file system -/

/-- Looking for a file lets a file system grow, and from then on the file is looked up without a
change. -/
theorem file_grows (store : Store) (app : String) (fs : FileSystem) :
    Grows fs (Access.result FileSystem.answer (store.file app) fs).2 ∧
      ∀ p fs', Access.result FileSystem.answer (store.file app) fs = (.ok p, fs') →
        Access.result FileSystem.answer (store.file app) fs' = (.ok p, fs') := by
  cases hdirectory : store.directory with
  | some dir =>
    have hfile := result_file_of_some hdirectory FileSystem.answer app fs
    rw [hfile]
    refine ⟨.refl fs, ?_⟩
    rintro _ _ ⟨⟩
    exact hfile
  | none =>
    obtain ⟨hgrows, hthere⟩ := Host.appDirectory_grows store.env app fs
    rw [result_file_of_none hdirectory]
    refine ⟨hgrows, ?_⟩
    cases hvalue : ((Host.appDirectory store.env app).run FileSystem.answer fs).value with
    | none => exact nofun
    | some dir =>
      rintro _ _ ⟨⟩
      have hconfig := Host.configDirectory?_of_appDirectory hvalue
      exact file_of_directory hdirectory hconfig (hthere dir hvalue)

/-- What is loaded for an application whose file is at a path. -/
def loaded (app : String) (p : Path) (fs : FileSystem) : Except Error Settings :=
  if fs.isPresent p then
    match fs.readText p with
    | .error cause => .error (.host cause)
    | .ok text =>
      match ofText? text with
      | none => .error .format
      | some stored => .ok (named app stored)
  else .ok (ofName app)

/-- What is loaded from a file that is there is loaded from then on. -/
theorem loaded_of_grows {fs fs' : FileSystem} (h : Grows fs fs') {p : Path}
    (hp : fs.isPresent p = true) (app : String) : loaded app p fs' = loaded app p fs := by
  rw [loaded, loaded, hp, h.isPresent hp, h.readText_eq hp]

theorem result_deposit (p : Path) (text : String) (fs : FileSystem) :
    Access.result FileSystem.answer (deposit p text) fs =
      match fs.write p (Path.ofString text).bytes with
      | .ok fs' => (.ok (), fs')
      | .error cause => (.error (.host cause), fs) := by
  have hrun : (Host.write p (Path.ofString text).bytes).run FileSystem.answer fs =
    ⟨(fs.change (fs.write p (Path.ofString text).bytes)).1,
      (fs.change (fs.write p (Path.ofString text).bytes)).2, _, []⟩ := rfl
  rw [deposit, Access.result_bind_of_ok (Access.result_lift ..), hrun]
  cases fs.write p (Path.ofString text).bytes <;> rfl

/-- What is loaded depends on the file alone, and nothing changes after the file was looked up. -/
theorem result_load {store : Store} {app : String} {fs fs' : FileSystem} {p : Path}
    (hfile : Access.result FileSystem.answer (store.file app) fs = (.ok p, fs')) :
    Access.result FileSystem.answer (store.load app) fs = (loaded app p fs', fs') := by
  have hanswer : FileSystem.answer (.isPresent p) fs' = (fs'.isPresent p, fs') := rfl
  rw [load, Access.result_bind_of_ok hfile, Access.result_bind_of_ok (Access.result_isPresent ..),
    hanswer, loaded]
  cases fs'.isPresent p with
  | false => rfl
  | true =>
    simp only [↓reduceIte]
    rw [Access.result_bind, result_fetch]
    cases fs'.readText p with
    | error cause => rfl
    | ok text =>
      simp only
      cases ofText? text <;> rfl

/-- Settings that could be created are loaded if the file is there. -/
theorem result_loadOrCreate_of_isPresent {store : Store} {app : String} {fs fs' : FileSystem}
    {p : Path} (hfile : Access.result FileSystem.answer (store.file app) fs = (.ok p, fs'))
    (hp : fs'.isPresent p = true) :
    Access.result FileSystem.answer (store.loadOrCreate app) fs = (loaded app p fs', fs') := by
  have hanswer : FileSystem.answer (.isPresent p) fs' = (true, fs') := Prod.ext hp rfl
  have hpresent := Access.result_isPresent FileSystem.answer fs' p
  rw [hanswer] at hpresent
  rw [(loadOrCreate_of_isPresent hfile hpresent).1]
  exact result_load ((file_grows store app fs).2 p fs' hfile)

/-- If the file is not there, the defaults are stored in it. -/
theorem result_loadOrCreate_of_absent {store : Store} {app : String} {fs fs' : FileSystem}
    {p : Path} (hfile : Access.result FileSystem.answer (store.file app) fs = (.ok p, fs'))
    (hp : fs'.isPresent p = false) :
    Access.result FileSystem.answer (store.loadOrCreate app) fs =
      match fs'.write p (Path.ofString (ofName app).toText).bytes with
      | .ok written => (.ok (ofName app), written)
      | .error cause => (.error (.host cause), fs') := by
  have hanswer : FileSystem.answer (.isPresent p) fs' = (false, fs') := Prod.ext hp rfl
  -- To store the defaults the file is looked for again, by their name, which is the one given.
  have hagain : Access.result FileSystem.answer (store.file (ofName app).appName) fs' = (.ok p, fs') :=
    (file_grows store app fs).2 p fs' hfile
  rw [loadOrCreate, Access.result_bind_of_ok hfile,
    Access.result_bind_of_ok (Access.result_isPresent ..), hanswer]
  simp only [Bool.false_eq_true, ↓reduceIte]
  rw [Access.result_bind, save, Access.result_bind_of_ok hagain, Access.result_bind, result_deposit]
  cases fs'.write p (Path.ofString (ofName app).toText).bytes <;> rfl

/-- Settings are loaded without a change, except that a directory may be made for them. -/
theorem load_grows (store : Store) (app : String) (fs : FileSystem) :
    Grows fs (Access.result FileSystem.answer (store.load app) fs).2 := by
  have hgrows := (file_grows store app fs).1
  rcases hfile : Access.result FileSystem.answer (store.file app) fs with ⟨e | p, fs'⟩
  · rw [load, Access.result_bind_of_error hfile]
    rwa [hfile] at hgrows
  · rw [result_load hfile]
    rwa [hfile] at hgrows

/-- Creating settings leaves everything that is there as it was. -/
theorem loadOrCreate_grows (store : Store) (app : String) (fs : FileSystem) :
    Grows fs (Access.result FileSystem.answer (store.loadOrCreate app) fs).2 := by
  have hgrows := (file_grows store app fs).1
  rcases hfile : Access.result FileSystem.answer (store.file app) fs with ⟨e | p, fs'⟩
  · rw [loadOrCreate, Access.result_bind_of_error hfile]
    rwa [hfile] at hgrows
  · rw [hfile] at hgrows
    cases hp : fs'.isPresent p with
    | true =>
      rw [result_loadOrCreate_of_isPresent hfile hp]
      exact hgrows
    | false =>
      rw [result_loadOrCreate_of_absent hfile hp]
      cases hwrite : fs'.write p (Path.ofString (ofName app).toText).bytes with
      | error cause => exact hgrows
      | ok written => exact hgrows.trans (FileSystem.grows_write hp hwrite)

/-! ## Many lookups -/

/-- A way to look settings up. -/
inductive Lookup where
  | load (store : Store) (app : String)
  | loadOrCreate (store : Store) (app : String)

/-- The program that looks settings up in that way. -/
def Lookup.access : Lookup → Access Settings
  | .load store app => store.load app
  | .loadOrCreate store app => store.loadOrCreate app

/-- The file system after lookups, one after the other, whatever came of each. -/
def afterAll (lookups : List Lookup) (fs : FileSystem) : FileSystem :=
  lookups.foldl (fun fs lookup => (Access.result FileSystem.answer lookup.access fs).2) fs

/-- Looking settings up lets a file system grow. -/
theorem grows_lookup (lookup : Lookup) (fs : FileSystem) :
    Grows fs (Access.result FileSystem.answer lookup.access fs).2 := by
  cases lookup with
  | load store app => exact load_grows store app fs
  | loadOrCreate store app => exact loadOrCreate_grows store app fs

/-- Looking settings up lets a file system grow, however often and by whatever names. -/
theorem grows_afterAll (lookups : List Lookup) (fs : FileSystem) : Grows fs (afterAll lookups fs) := by
  induction lookups generalizing fs with
  | nil => exact .refl fs
  | cons lookup lookups ih => exact (grows_lookup lookup fs).trans (ih _)

/-- Whatever settings are looked up before, by this name or others and from this store or others, the
file at the path is as it is now, and both ways to look up this name have this outcome and change
nothing. -/
def Settled (store : Store) (app : String) (p : Path) (fs : FileSystem)
    (outcome : Except Error Settings) : Prop :=
  ∀ lookups : List Lookup,
    (afterAll lookups fs).find p = fs.find p ∧
      Access.result FileSystem.answer (store.load app) (afterAll lookups fs) =
        (outcome, afterAll lookups fs) ∧
      Access.result FileSystem.answer (store.loadOrCreate app) (afterAll lookups fs) =
        (outcome, afterAll lookups fs)

/-- A file that is there settles what is loaded. -/
theorem settled_of_isPresent {store : Store} {app : String} {p : Path} {fs : FileSystem}
    (hpath : store.path? app = some p) (hp : fs.isPresent p = true) :
    store.Settled app p fs (loaded app p fs) := by
  intro lookups
  -- Whatever was looked up, the file is still there, and so is what it holds.
  have hgrows := grows_afterAll lookups fs
  have hlater := hgrows.isPresent hp
  have hfile := file_of_isPresent hpath hlater
  have hsame := loaded_of_grows hgrows hp app
  refine ⟨hgrows.find_eq hp, ?_, ?_⟩
  · rw [result_load hfile, hsame]
  · rw [result_loadOrCreate_of_isPresent hfile hlater, hsame]

/-- Defaults that were stored are loaded as they are, whatever the name. -/
theorem loaded_ofName {fs fs' : FileSystem} {p : Path} (app : String)
    (hwrite : fs.write p (Path.ofString (ofName app).toText).bytes = .ok fs') :
    loaded app p fs' = .ok (ofName app) := by
  obtain ⟨name, hread, hname⟩ :=
    ofText?_of_keptAs (keptAs_members (ofName app) app) (spells_toText (ofName app))
  have hnamed : named app { ofName app with appName := name } = ofName app := by
    rw [named_eq]
    rcases hname with rfl | ⟨rfl, -⟩
    · simp [ofName]
    · simp [ofName]
  rw [loaded, FileSystem.isPresent_write hwrite, FileSystem.readText_write hwrite]
  simp only [↓reduceIte, hread, hnamed]

/-- **Looking settings up never changes a file that is there.**  On any machine, where the file is said to
be there, settings that could be created are loaded from there on, and nothing that was asked on the
way changes a file.

On a file system in memory, a file that is there settles the outcome for good, whatever it holds and
even if it is an error: settings that could be created are those that are loaded, and the file system
is as it was.  If nothing is there once the directory is, and the defaults can be written, these are the
settings, and then and ever after they are what both ways find, whatever the name.

Only taking the file away undoes this: nothing is there then, and as long as the directory is, settings are
the defaults again. -/
theorem loadOrCreate_never_clobbers (store : Store) (app : String) :
    (∀ {σ : Type} (machine : Machine σ) (s s₁ s₂ : σ) (p : Path),
      Access.result machine (store.file app) s = (.ok p, s₁) →
      Access.result machine (isPresent p) s₁ = (.ok true, s₂) →
        Access.result machine (store.loadOrCreate app) s =
            Access.result machine (store.load app) s₂ ∧
          ∀ e ∈ Access.events machine (store.loadOrCreate app) s, ¬ e.1.Writes) ∧
    (∀ (fs : FileSystem) (p : Path), store.path? app = some p → fs.isPresent p = true →
      Access.result FileSystem.answer (store.loadOrCreate app) fs =
          Access.result FileSystem.answer (store.load app) fs ∧
        (Access.result FileSystem.answer (store.load app) fs).2 = fs ∧
        store.Settled app p fs (Access.result FileSystem.answer (store.load app) fs).1) ∧
    (∀ (fs fs₁ fs₂ : FileSystem) (p : Path),
      Access.result FileSystem.answer (store.file app) fs = (.ok p, fs₁) →
      fs₁.isPresent p = false →
      fs₁.write p (Path.ofString (ofName app).toText).bytes = .ok fs₂ →
        Access.result FileSystem.answer (store.loadOrCreate app) fs = (.ok (ofName app), fs₂) ∧
          fs₂.readText p = .ok (ofName app).toText ∧
          store.Settled app p fs₂ (.ok (ofName app))) ∧
    ∀ (fs : FileSystem) (p : Path) (loc : Host.Location) (entry : Host.Entry),
      fs.find p = .ok (loc, entry) → loc ≠ [] →
        (fs.remove loc).isPresent p = false ∧
          (Access.result FileSystem.answer (store.file app) (fs.remove loc) =
              (.ok p, fs.remove loc) →
            Access.result FileSystem.answer (store.load app) (fs.remove loc) =
              (.ok (ofName app), fs.remove loc)) := by
  refine ⟨?_, ?_, ?_, ?_⟩
  · intro σ machine s s₁ s₂ p hfile hp
    exact loadOrCreate_of_isPresent hfile hp
  · intro fs p hpath hp
    have hfile := file_of_isPresent hpath hp
    have hload := result_load hfile
    rw [hload]
    exact ⟨result_loadOrCreate_of_isPresent hfile hp, rfl, settled_of_isPresent hpath hp⟩
  · intro fs fs₁ fs₂ p hfile hp hwrite
    have hcreated := result_loadOrCreate_of_absent hfile hp
    have hsettled := settled_of_isPresent (path?_of_file hfile) (FileSystem.isPresent_write hwrite)
    rw [hwrite] at hcreated
    rw [loaded_ofName app hwrite] at hsettled
    exact ⟨hcreated, FileSystem.readText_write hwrite, hsettled⟩
  · intro fs p loc entry hfind hroot
    have hgone := FileSystem.isPresent_remove hfind hroot
    refine ⟨hgone, fun hfile => ?_⟩
    rw [result_load hfile, loaded, hgone]
    rfl

/-- A file that is no text stays as it is until it is taken away, and an application with a blank name
that has no directory yet gets its defaults. -/
theorem loadOrCreate_never_clobbers_nameless :
    let store : Store := ⟨⟨some (Path.ofString "/c"), none⟩, none⟩
    let p := Path.ofString "/c/jumplist_config.json"
    let place := [(Path.ofString "c").bytes]
    let fresh : FileSystem := ⟨[], []⟩
    let spoilt : FileSystem := ⟨[(place ++ [fileName.bytes], .file [0xFF]), (place, .directory)], []⟩
    let cleared := spoilt.remove (place ++ [fileName.bytes])
    store.Settled " " p spoilt (.error (.host .notText)) ∧
      Access.result FileSystem.answer (store.load " ") cleared = (.ok (ofName " "), cleared) ∧
      ∃ fs, Access.result FileSystem.answer (store.loadOrCreate " ") fresh =
          (.ok (ofName " "), fs) ∧
        store.Settled " " p fs (.ok (ofName " ")) := by
  intro store p place fresh spoilt cleared
  obtain ⟨-, hthere, hfirst, hremoved⟩ := loadOrCreate_never_clobbers store " "
  refine ⟨?_, ?_, ?_⟩
  · obtain ⟨-, -, hsettled⟩ := hthere spoilt p (by decide +kernel) (by decide +kernel)
    have hload : (Access.result FileSystem.answer (store.load " ") spoilt).1 =
        .error (.host .notText) := by
      decide +kernel
    rwa [hload] at hsettled
  · obtain ⟨-, hdefaults⟩ :=
      hremoved spoilt p (place ++ [fileName.bytes]) (.file [0xFF]) (by decide +kernel) (by decide)
    exact hdefaults (Prod.ext (by decide +kernel) rfl)
  · let made := (Access.result FileSystem.answer (store.file " ") fresh).2
    have hmade : Access.result FileSystem.answer (store.file " ") fresh = (.ok p, made) :=
      Prod.ext (by decide +kernel) rfl
    have hwritten : (made.write p (Path.ofString (ofName " ").toText).bytes).toBool = true := by
      decide +kernel
    cases hwrite : made.write p (Path.ofString (ofName " ").toText).bytes with
    | error cause =>
      rw [hwrite] at hwritten
      cases hwritten
    | ok fs =>
      obtain ⟨hcreated, -, hsettled⟩ := hfirst fresh made fs p hmade (by decide +kernel) hwrite
      exact ⟨fs, hcreated, hsettled⟩

end Store

end Settings

end JumpList
