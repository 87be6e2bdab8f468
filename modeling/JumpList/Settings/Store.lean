/-
# JumpList.Settings.Store — settings kept in files.

Each application has one file of settings in its directory, or in a directory that is given for all.
Settings that are not stored are the defaults for the name that they are looked up by.  Settings that
are stored without a name take that name too.

A file that is there is never written by looking it up; one that is not can be created, so that
there is something to edit.
-/
import JumpList.Host.Directory
import JumpList.Settings.Text

namespace JumpList.Settings

open Host (Cause Environment Talk note)

/-! ## Errors -/

/-- Why settings could not be read or written. -/
inductive Error where
  /-- The file could not be read or written. -/
  | host (cause : Cause)
  /-- The file holds no settings. -/
  | format
  /-- There is no directory for the file. -/
  | noDirectory
  deriving DecidableEq, Repr

namespace Error

/-- The error in words. -/
def message : Error → String
  | .host cause => s!"Configuration I/O error: {cause.text}"
  | .format => "Configuration format error"
  | .noDirectory => "Could not determine configuration directory"

/-- Whether another error is behind it. -/
def hasCause : Error → Bool
  | .host _ | .format => true
  | .noDirectory => false

end Error

/-! ## The store -/

/-- Where settings are kept. -/
structure Store where
  env : Environment
  /-- The directory of all settings files, if each does not have its own. -/
  directory : Option Path
  deriving DecidableEq, Repr

/-- A program that uses a store and stops at the first error. -/
abbrev Access := ExceptT Error Talk

/-- Leaves a record. -/
def tell (level : Log.Level) (message : String) : Access Unit :=
  ExceptT.lift (note ⟨level, s!"CoreConfigManager: {message}"⟩)

/-- Whether something is at a path. -/
def isPresent (p : Path) : Access Bool := ExceptT.lift (Host.isPresent p)

/-- The text in a file. -/
def fetch (p : Path) : Access String := do
  match ← ExceptT.lift (Host.readText p) with
  | .ok text => return text
  | .error cause => throw (.host cause)

/-- Makes a text the content of a file. -/
def deposit (p : Path) (text : String) : Access Unit := do
  match ← ExceptT.lift (Host.write p (Path.ofString text).bytes) with
  | .ok () => return ()
  | .error cause => throw (.host cause)

namespace Store

/-- The name of a settings file. -/
def fileName : Path := Path.ofString "jumplist_config.json"

/-- The settings file of an application. -/
def file (store : Store) (app : String) : Access Path := do
  match store.directory with
  | some directory => return directory.join fileName
  | none =>
    match ← ExceptT.lift (Host.appDirectory store.env app) with
    | some directory => return directory.join fileName
    | none => throw .noDirectory

/-- The settings with the name that they were looked up by, if they have only a blank one. -/
def named (app : String) (s : Settings) : Settings :=
  if Text.isBlankText s.appName then { s with appName := app } else s

/-- The settings of an application. -/
def load (store : Store) (app : String) : Access Settings := do
  let p ← store.file app
  if ← isPresent p then
    match ofText? (← fetch p) with
    | none => throw .format
    | some stored =>
      let s := named app stored
      tell .debug s!"Loaded config for '{s.appName}' from {p.quoted}."
      return s
  else
    tell .debug s!"No config at {p.quoted}, using defaults."
    return ofName app

/-- Stores settings. -/
def save (store : Store) (s : Settings) : Access Unit := do
  let p ← store.file s.appName
  deposit p s.toText
  tell .debug s!"Saved config for '{s.appName}' to {p.quoted}."

/-- The settings of an application; the defaults are stored if nothing is. -/
def loadOrCreate (store : Store) (app : String) : Access Settings := do
  let p ← store.file app
  if ← isPresent p then store.load app
  else
    let s := ofName app
    store.save s
    tell .info s!"Created default config at {p.quoted}."
    return s

end Store

end JumpList.Settings
