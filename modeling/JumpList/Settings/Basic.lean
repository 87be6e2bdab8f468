/-
# JumpList.Settings.Basic — what an application can set.

The name of the application, an identity of its own if it has one, how much is logged, and whether
logs go to a file as well.
-/
import JumpList.Identity
import JumpList.Log

namespace JumpList

/-- The settings of an application. -/
structure Settings where
  appName : String
  /-- The identity of its own, if it has one. -/
  givenId : Option String
  /-- The name of the log filter. -/
  logLevel : String
  logToFile : Bool
  deriving DecidableEq, Repr

namespace Settings

/-- The log level of an application that sets none. -/
def defaultLogLevel : String := "info"

/-- The settings of an application that sets nothing but its name. -/
def ofName (appName : String) : Settings := ⟨appName, none, defaultLogLevel, false⟩

/-- The name of the application that goes by none. -/
def defaultAppName : String := "JumpListManager"

/-- The settings of the application that goes by no name. -/
def unnamed : Settings := ofName defaultAppName

/-- The identity that the application's jump list belongs to. -/
def id (s : Settings) : AppId := AppId.resolve s.givenId s.appName

/-- The log filter; a name of no filter stands for `INFO`. -/
def filter (s : Settings) : Log.Filter := (Log.Filter.ofName? s.logLevel).getD (some .info)

end Settings

end JumpList
