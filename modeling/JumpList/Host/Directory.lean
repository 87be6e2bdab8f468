/-
# JumpList.Host.Directory — where an application keeps its files.

Every application has a directory for its settings, below the one that the environment names for all
applications.  Its name is the application's in lower case, without blanks.  It is made when it is
needed first.
-/
import JumpList.Host.Call
import JumpList.Text.Blank
import JumpList.Text.LowerCase

namespace JumpList.Host

/-- What the environment says of directories. -/
structure Environment where
  /-- The directory of all settings, if one is named. -/
  configHome : Option Path
  /-- The directory of the user, if there is one. -/
  home : Option Path
  deriving DecidableEq, Repr

namespace Environment

/-- The directory of all settings: the one that is named, if it is absolute, or else the usual one
of the user. -/
def configBase? (env : Environment) : Option Path :=
  match env.configHome.filter Path.isAbsolute with
  | some base => some base
  | none => env.home.map (·.join (Path.ofString ".config"))

/-- The name of an application's directory. -/
def directoryName (app : String) : Path :=
  Path.ofString (String.ofList ((Text.words app.toList).map Text.lower).flatten)

/-- The directory of an application's settings. -/
def configDirectory? (env : Environment) (app : String) : Option Path :=
  env.configBase?.map (·.join (directoryName app))

end Environment

/-! ## Making the directory -/

/-- The directory of an application could not be made. -/
def directoryLost (p : Path) (cause : Cause) : Log.Record :=
  ⟨.error, s!"PathUtils: Failed to create config directory {p.quoted}: {cause.text}"⟩

/-- The directory of an application was made. -/
def directoryMade (p : Path) : Log.Record :=
  ⟨.debug, s!"PathUtils: Created config directory {p.quoted}"⟩

/-- The directory of an application's settings, made if it is not there; nothing if it cannot be
had. -/
def appDirectory (env : Environment) (app : String) : Talk (Option Path) := do
  match env.configDirectory? app with
  | none => return none
  | some p =>
    if ← isPresent p then return some p
    else
      match ← makeDirectories p with
      | .error cause =>
        note (directoryLost p cause)
        return none
      | .ok () =>
        note (directoryMade p)
        return some p

/-- The name of an application's log file. -/
def logFileName : Path := Path.ofString "jumplist_manager.log"

/-- The log file of an application. -/
def logFile (env : Environment) (app : String) : Talk (Option Path) := do
  return (← appDirectory env app).map (·.join logFileName)

end JumpList.Host
