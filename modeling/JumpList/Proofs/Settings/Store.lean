/-
# JumpList.Proofs.Settings.Store — settings survive the file.

Looking settings up leads to a text (`Store.Finds`), whichever machine does the work.  If the text
spells members that the settings may be kept as, they are loaded, with the name that they were looked
up by in place of a blank one (`load_of_finds`).

Where what is written lasts (`Store.Lasts`), stored settings are found again (`finds_of_save`).  A file
system in memory is such a place: a file that is there is in a directory that is there, and so nothing
has to be made a second time (`file_of_isPresent`, `lasts_fileSystem`).  All of it together is
`settings_survive`.
-/
import JumpList.Host.FileSystem.Lemmas
import JumpList.Proofs.Dialogue
import JumpList.Proofs.Settings.Text
import JumpList.Settings.Store

namespace JumpList

open Host (Environment FileSystem Machine)

variable {σ α β : Type}

/-! ## The directory of an application -/

namespace Host

theorem Environment.configBase?_ne_empty {env : Environment} {base : Path}
    (h : env.configBase? = some base) : base ≠ Path.empty := by
  unfold configBase? at h
  split at h
  · next b hb =>
    cases h
    obtain ⟨-, habs⟩ := Option.filter_eq_some_iff.1 hb
    rintro rfl
    cases habs
  · obtain ⟨home, -, rfl⟩ := Option.map_eq_some_iff.1 h
    exact Path.join_ne_empty (.inr (by decide))

theorem Environment.configDirectory?_ne_empty {env : Environment} {app : String} {dir : Path}
    (h : env.configDirectory? app = some dir) : dir ≠ Path.empty := by
  obtain ⟨base, hbase, rfl⟩ := Option.map_eq_some_iff.1 h
  exact Path.join_ne_empty (.inl (configBase?_ne_empty hbase))

theorem run_isPresent (machine : Machine σ) (p : Path) (s : σ) :
    (isPresent p).run machine s =
      ⟨(machine (.isPresent p) s).1, (machine (.isPresent p) s).2,
        [⟨.isPresent p, (machine (.isPresent p) s).1⟩], []⟩ := rfl

/-- The directory that is had is the one that the environment names. -/
theorem configDirectory?_of_appDirectory {machine : Machine σ} {s : σ} {env : Environment}
    {app : String} {dir : Path}
    (h : ((appDirectory env app).run machine s).value = some dir) :
    env.configDirectory? app = some dir := by
  unfold appDirectory at h
  split at h
  · cases h
  · next p hp =>
    rw [hp]
    rw [Dialogue.run_bind] at h
    simp only at h
    split at h
    · exact h
    · rw [Dialogue.run_bind] at h
      simp only at h
      split at h
      · cases h
      · exact h

/-- A directory that is there is had without a change. -/
theorem run_appDirectory_of_isPresent {fs : FileSystem} {env : Environment} {app : String}
    {dir : Path} (hdir : env.configDirectory? app = some dir) (h : fs.isPresent dir = true) :
    ((appDirectory env app).run FileSystem.answer fs).value = some dir ∧
      ((appDirectory env app).run FileSystem.answer fs).state = fs := by
  have hanswer : FileSystem.answer (.isPresent dir) fs = (fs.isPresent dir, fs) := rfl
  simp only [appDirectory, hdir, Dialogue.run_bind, run_isPresent, hanswer, h, ↓reduceIte]
  exact ⟨rfl, rfl⟩

end Host

namespace Settings

/-! ## What an access comes to -/

/-- What a program that uses a store comes to, and what the machine remembers then. -/
def Access.result (machine : Machine σ) (x : Access α) (s : σ) : Except Error α × σ :=
  let r := (ExceptT.run x).run machine s
  (r.value, r.state)

namespace Access

variable (machine : Machine σ) (s : σ)

@[simp] theorem result_pure (a : α) : result machine (pure a) s = (.ok a, s) := rfl

/-- The second program goes on where the first ends, unless that ends in an error. -/
theorem result_bind (x : Access α) (f : α → Access β) :
    result machine (x >>= f) s =
      match result machine x s with
      | (.ok a, s) => result machine (f a) s
      | (.error e, s) => (.error e, s) := by
  simp only [result, ExceptT.run_bind, Dialogue.run_bind]
  cases ((ExceptT.run x).run machine s).value <;> rfl

/-- What goes well came from a first program that went well. -/
theorem exists_of_result_bind {machine : Machine σ} {x : Access α} {f : α → Access β} {s s' : σ}
    {b : β} (h : result machine (x >>= f) s = (.ok b, s')) :
    ∃ a s₁, result machine x s = (.ok a, s₁) ∧ result machine (f a) s₁ = (.ok b, s') := by
  rw [result_bind] at h
  split at h
  · next a s₁ hx => exact ⟨a, s₁, hx, h⟩
  · cases h

theorem result_bind_of_ok {machine : Machine σ} {x : Access α} {s s₁ : σ} {a : α}
    (h : result machine x s = (.ok a, s₁)) (f : α → Access β) :
    result machine (x >>= f) s = result machine (f a) s₁ := by
  rw [result_bind, h]

theorem result_bind_of_error {machine : Machine σ} {x : Access α} {s s₁ : σ} {e : Error}
    (h : result machine x s = (.error e, s₁)) (f : α → Access β) :
    result machine (x >>= f) s = (.error e, s₁) := by
  rw [result_bind, h]

@[simp] theorem result_tell (level : Log.Level) (message : String) :
    result machine (tell level message) s = (.ok (), s) := rfl

theorem result_isPresent (p : Path) :
    result machine (isPresent p) s =
      (.ok (machine (.isPresent p) s).1, (machine (.isPresent p) s).2) := rfl

theorem result_lift (d : Host.Talk α) :
    result machine (ExceptT.lift d) s = (.ok (d.run machine s).value, (d.run machine s).state) := by
  simp only [result, ExceptT.run_lift, Dialogue.run_map]

end Access

namespace Store

/-! ## Finding a file -/

/-- The path of an application's file, if there is a directory for it. -/
def path? (store : Store) (app : String) : Option Path :=
  (store.directory.or (store.env.configDirectory? app)).map (·.join fileName)

/-- The file in a directory that is given for all. -/
theorem result_file_of_some {store : Store} {dir : Path} (h : store.directory = some dir)
    (machine : Machine σ) (app : String) (s : σ) :
    Access.result machine (store.file app) s = (.ok (dir.join fileName), s) := by
  unfold file
  rw [h]
  rfl

/-- The file in the application's own directory. -/
theorem result_file_of_none {store : Store} (h : store.directory = none) (machine : Machine σ)
    (app : String) (s : σ) :
    Access.result machine (store.file app) s =
      (match ((Host.appDirectory store.env app).run machine s).value with
        | some dir => .ok (dir.join fileName)
        | none => .error .noDirectory,
        ((Host.appDirectory store.env app).run machine s).state) := by
  unfold file
  rw [h]
  simp only
  rw [Access.result_bind, Access.result_lift]
  cases ((Host.appDirectory store.env app).run machine s).value <;> rfl

/-- The file that is looked up is where the store and the environment say. -/
theorem path?_of_file {store : Store} {machine : Machine σ} {s s' : σ} {app : String} {p : Path}
    (h : Access.result machine (store.file app) s = (.ok p, s')) : store.path? app = some p := by
  unfold path?
  cases hdirectory : store.directory with
  | some dir =>
    rw [result_file_of_some hdirectory] at h
    cases h
    rfl
  | none =>
    rw [result_file_of_none hdirectory] at h
    cases hvalue : ((Host.appDirectory store.env app).run machine s).value with
    | none =>
      rw [hvalue] at h
      cases h
    | some dir =>
      rw [hvalue] at h
      cases h
      rw [Option.none_or, Host.configDirectory?_of_appDirectory hvalue]
      rfl

/-- Looking up the settings of an application leads to a file that is there and holds a text. -/
def Finds (store : Store) (machine : Machine σ) (s : σ) (app text : String) : Prop :=
  ∃ p s₁ s₂ s₃, Access.result machine (store.file app) s = (.ok p, s₁) ∧
    Access.result machine (isPresent p) s₁ = (.ok true, s₂) ∧
    Access.result machine (fetch p) s₂ = (.ok text, s₃)

/-- Settings with the name that they were looked up by in place of a blank one. -/
theorem named_eq (app : String) (s : Settings) :
    named app s =
      { s with appName := if s.appName.toList.all Text.isBlank then app else s.appName } := by
  unfold named Text.isBlankText
  split <;> rfl

/-- A name that goes without saying is the one that settings are looked up by. -/
theorem named_blank {app : String} {s : Settings} (h : s.appName = app) :
    named app { s with appName := "" } = named app s := by
  rw [named_eq, named_eq, h]
  simp

/-- Settings are loaded from any text that spells members they may be kept as. -/
theorem load_of_finds {store : Store} {machine : Machine σ} {start : σ} {app text : String}
    (hfinds : store.Finds machine start app text) {s : Settings} {kept : Json.Members}
    (hkept : s.KeptAs app kept) (htext : Json.SpellsObject kept text.toList) :
    (Access.result machine (store.load app) start).1 = .ok (named app s) := by
  obtain ⟨p, s₁, s₂, s₃, hfile, hpresent, hfetch⟩ := hfinds
  obtain ⟨name, hread, hname⟩ := ofText?_of_keptAs hkept htext
  have hsame : named app { s with appName := name } = named app s := by
    rcases hname with rfl | ⟨rfl, happ⟩
    · rfl
    · exact named_blank happ
  rw [load, Access.result_bind_of_ok hfile, Access.result_bind_of_ok hpresent]
  simp only [↓reduceIte]
  rw [Access.result_bind_of_ok hfetch]
  simp only [hread, Access.result_bind, Access.result_tell, Access.result_pure, hsame]

/-! ## Finding what was stored -/

/-- What is written to the file of an application is found by looking it up. -/
def Lasts (store : Store) (machine : Machine σ) : Prop :=
  ∀ app text p s s₁ s', Access.result machine (store.file app) s = (.ok p, s₁) →
    machine (.write p (Path.ofString text).bytes) s₁ = (.ok (), s') →
      store.Finds machine s' app text

/-- A text that was made the content of a file was written. -/
theorem write_of_deposit {machine : Machine σ} {s s' : σ} {p : Path} {text : String}
    (h : Access.result machine (deposit p text) s = (.ok (), s')) :
    machine (.write p (Path.ofString text).bytes) s = (.ok (), s') := by
  have hrun : (Host.write p (Path.ofString text).bytes).run machine s =
      ⟨(machine (.write p (Path.ofString text).bytes) s).1,
        (machine (.write p (Path.ofString text).bytes) s).2, _, []⟩ := rfl
  rw [deposit, Access.result_bind_of_ok (Access.result_lift ..), hrun] at h
  rcases hwrite : machine (.write p (Path.ofString text).bytes) s with ⟨cause | ⟨⟨⟩⟩, written⟩
  · rw [hwrite] at h
    cases h
  · rw [hwrite] at h
    cases h
    rfl

/-- Where one directory is given for all, every application has the same file. -/
theorem file_eq_of_directory {store : Store} {dir : Path} (h : store.directory = some dir)
    (app other : String) : store.file app = store.file other := by
  unfold file
  rw [h]

/-- Stored settings are found by their own name and, where one directory is given for all, by any. -/
theorem finds_of_save {store : Store} {machine : Machine σ} (hlasts : store.Lasts machine)
    {start saved : σ} {s : Settings}
    (h : Access.result machine (store.save s) start = (.ok (), saved)) {app : String}
    (happ : app = s.appName ∨ store.directory.isSome = true) :
    store.Finds machine saved app s.toText := by
  obtain ⟨p, s₁, hfile, hrest⟩ := Access.exists_of_result_bind h
  obtain ⟨u, s₂, hdeposit, htell⟩ := Access.exists_of_result_bind hrest
  cases htell
  have hsame : store.file app = store.file s.appName := by
    rcases happ with rfl | hdir
    · rfl
    · obtain ⟨dir, hdir⟩ := Option.isSome_iff_exists.1 hdir
      exact file_eq_of_directory hdir app s.appName
  rw [← hsame] at hfile
  exact hlasts app s.toText p start s₁ _ hfile (write_of_deposit hdeposit)

/-! ## A file system in memory -/

/-- A file in a directory that is there is looked up without a change. -/
theorem file_of_directory {store : Store} (hdirectory : store.directory = none) {app : String}
    {dir : Path} (hconfig : store.env.configDirectory? app = some dir) {fs : FileSystem}
    (hdir : fs.isPresent dir = true) :
    Access.result FileSystem.answer (store.file app) fs = (.ok (dir.join fileName), fs) := by
  obtain ⟨hvalue, hstate⟩ := Host.run_appDirectory_of_isPresent hconfig hdir
  rw [result_file_of_none hdirectory, hvalue, hstate]

/-- A file that is there is looked up without a change. -/
theorem file_of_isPresent {store : Store} {app : String} {p : Path} {fs : FileSystem}
    (hpath : store.path? app = some p) (hp : fs.isPresent p = true) :
    Access.result FileSystem.answer (store.file app) fs = (.ok p, fs) := by
  unfold path? at hpath
  cases hdirectory : store.directory with
  | some dir =>
    rw [hdirectory] at hpath
    cases hpath
    exact result_file_of_some hdirectory FileSystem.answer app fs
  | none =>
    rw [hdirectory, Option.none_or] at hpath
    obtain ⟨dir, hconfig, rfl⟩ := Option.map_eq_some_iff.1 hpath
    have hname : fileName.names = [fileName.bytes] := by decide
    have hdir : fs.isPresent dir = true :=
      FileSystem.isPresent_of_isPresent_join (Host.Environment.configDirectory?_ne_empty hconfig)
        (by decide) hname hp
    exact file_of_directory hdirectory hconfig hdir

theorem result_fetch (p : Path) (fs : FileSystem) :
    Access.result FileSystem.answer (fetch p) fs =
      match fs.readText p with
      | .ok text => (.ok text, fs)
      | .error cause => (.error (.host cause), fs) := by
  have hrun : (Host.readText p).run FileSystem.answer fs = ⟨fs.readText p, fs, _, []⟩ := rfl
  rw [fetch, Access.result_bind_of_ok (Access.result_lift ..), hrun]
  cases fs.readText p <;> rfl

/-- In a file system in memory, what is written lasts. -/
theorem lasts_fileSystem (store : Store) : store.Lasts FileSystem.answer := by
  intro app text p fs fs₁ fs' hfile hchange
  have hwrite : fs₁.write p (Path.ofString text).bytes = .ok fs' := by
    have hanswer : FileSystem.answer (.write p (Path.ofString text).bytes) fs₁ =
        fs₁.change (fs₁.write p (Path.ofString text).bytes) := rfl
    rw [hanswer] at hchange
    cases hw : fs₁.write p (Path.ofString text).bytes with
    | error cause =>
      rw [hw] at hchange
      cases hchange
    | ok written =>
      rw [hw] at hchange
      cases hchange
      rfl
  have hwritten := FileSystem.isPresent_write hwrite
  have hpresent : FileSystem.answer (.isPresent p) fs' = (true, fs') := Prod.ext hwritten rfl
  refine ⟨p, fs', fs', fs', file_of_isPresent (path?_of_file hfile) hwritten, ?_, ?_⟩
  · rw [Access.result_isPresent, hpresent]
  · rw [result_fetch, FileSystem.readText_write hwrite]

/-- **Settings survive the file.**  Whatever machine the file is on, and however its text spells the
members: where settings are kept as their members, in any order and without those that go without
saying, they are loaded as they were, but for a blank name, which the name that they are looked up by
replaces.

Where what is written lasts, as it does in a file system in memory, settings that were stored are loaded
unchanged by their own name, and by any name where one directory is given for all, with the same
exception. -/
theorem settings_survive :
    (∀ {σ : Type} (machine : Machine σ) (start : σ) (store : Store) (app : String) (s : Settings)
        (kept : Json.Members) (text : String),
      s.KeptAs app kept → Json.SpellsObject kept text.toList → store.Finds machine start app text →
        (Access.result machine (store.load app) start).1 =
          .ok { s with
            appName := if s.appName.toList.all Text.isBlank then app else s.appName }) ∧
    (∀ {σ : Type} (machine : Machine σ) (start saved : σ) (store : Store) (s : Settings),
      store.Lasts machine → Access.result machine (store.save s) start = (.ok (), saved) →
        (Access.result machine (store.load s.appName) saved).1 = .ok s ∧
          (store.directory.isSome = true → ∀ app,
            (Access.result machine (store.load app) saved).1 =
              .ok { s with
                appName := if s.appName.toList.all Text.isBlank then app else s.appName })) ∧
    ∀ store : Store, store.Lasts FileSystem.answer := by
  refine ⟨?_, ?_, lasts_fileSystem⟩
  · intro σ machine start store app s kept text hkept htext hfinds
    rw [load_of_finds hfinds hkept htext, named_eq]
  · intro σ machine start saved store s hlasts hsave
    have hload {app : String} (happ : app = s.appName ∨ store.directory.isSome = true) :
        (Access.result machine (store.load app) saved).1 = .ok (named app s) :=
      load_of_finds (finds_of_save hlasts hsave happ) (keptAs_members s app) (spells_toText s)
    constructor
    · rw [hload (.inl rfl), named_eq, ite_self]
    · intro hdir app
      rw [hload (.inr hdir), named_eq]

/-- Settings of which two members are kept, in another order and with an escaped pair of code units, are
found and loaded; and settings with a blank name and an identity full of escapes are stored, and loaded by
that name as they are and by another name with it. -/
theorem settings_survive_escaped :
    let directory := (Path.ofString "d").bytes
    let file := (Path.ofString "jumplist_config.json").bytes
    let store : Store := ⟨⟨none, none⟩, some (Path.ofString "/d")⟩
    let kept : Settings := ⟨"Notes", some "😀", "info", true⟩
    let members : Json.Members :=
      [("log_to_file", .bool true), ("app_user_model_id", .string "😀")]
    let text := "\x7b \"log_to_file\": true, \"app_user_model_id\": \"\\uD83D\\ude00\" \x7d\n"
    let edited : FileSystem :=
      ⟨[([directory], .directory), ([directory, file], .file (Path.ofString text).bytes)], []⟩
    let s : Settings := ⟨" ", some "\"😀\\\n", "debug", true⟩
    let fresh : FileSystem := ⟨[([directory], .directory)], []⟩
    let saved := Access.result FileSystem.answer (store.save s) fresh
    kept.KeptAs "Notes" members ∧ Json.SpellsObject members text.toList ∧
      store.Finds FileSystem.answer edited "Notes" text ∧
      (Access.result FileSystem.answer (store.load "Notes") edited).1 = .ok kept ∧
      store.Lasts FileSystem.answer ∧ saved.1 = .ok () ∧
      (Access.result FileSystem.answer (store.load " ") saved.2).1 = .ok s ∧
      (Access.result FileSystem.answer (store.load "Notes") saved.2).1 =
        .ok { s with appName := "Notes" } := by
  intro directory file store kept members text edited s fresh saved
  obtain ⟨hread, hsaved, hlasts⟩ := settings_survive
  have hkept : kept.KeptAs "Notes" members := by
    refine ⟨⟨members.reverse, List.reverse_perm members, ?_⟩, ?_⟩
    · exact .cons _ (.cons_cons _ (.cons _ (.cons_cons _ .slnil)))
    · simp [members, kept, Settings.members, toJson, ofName, defaultLogLevel]
  have hspace : Json.IsGap [' '] := by simp [Json.IsGap, Json.isGap]
  have hbreak : Json.IsGap ['\n'] := by simp [Json.IsGap, Json.isGap]
  have htext : Json.SpellsObject members text.toList := by
    have hlog : Json.SpellsMember ("log_to_file", .bool true) _ :=
      .mk (Json.spellsText_escapeChar _) .yes hspace Json.isGap_nil hspace Json.isGap_nil
    have hpair : Json.SpellsText "😀".toList "\\uD83D\\ude00".toList :=
      .cons (.pair (u := 0xD83D) (v := 0xDE00) rfl rfl rfl rfl rfl) .nil
    have hid : Json.SpellsMember ("app_user_model_id", .string "😀") _ :=
      .mk (Json.spellsText_escapeChar _) (.string hpair) hspace Json.isGap_nil hspace hspace
    simp only [text]
    exact .members Json.isGap_nil (.more hlog (.one hid)) hbreak
  have hfinds : store.Finds FileSystem.answer edited "Notes" text := by
    refine ⟨Path.ofString "/d/jumplist_config.json", edited, edited, edited,
      Prod.ext (by decide +kernel) rfl, Prod.ext (by decide +kernel) rfl, ?_⟩
    have hheld : edited.readText (Path.ofString "/d/jumplist_config.json") = .ok text := by
      decide +kernel
    rw [result_fetch, hheld]
  have hok : saved = (.ok (), saved.2) := Prod.ext (by decide +kernel) rfl
  obtain ⟨hsame, hany⟩ := hsaved FileSystem.answer fresh saved.2 store s (hlasts store) hok
  refine ⟨hkept, htext, hfinds, ?_, hlasts store, congrArg Prod.fst hok, hsame, ?_⟩
  · rw [hread FileSystem.answer edited store "Notes" kept members text hkept htext hfinds,
      if_neg (by decide)]
  · rw [hany rfl "Notes", if_pos (by decide)]

end Store

end Settings

end JumpList
