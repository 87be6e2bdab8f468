/-
# JumpList.CommandLine.Program — the program behind the command line.

The program reads its words, loads or creates the settings of the application, starts logging and
carries out the request.  The outcome goes to the standard output, records and misuse to the standard
error.  There is no Windows shell on this platform, so every request that is understood ends in a
generic error.

Records are heard only when logging has started.  They go to the standard error and, if the settings
say so, to a file too.
-/
import JumpList.CommandLine.Arguments
import JumpList.Outcome
import JumpList.Settings.Store

namespace JumpList.CommandLine

open Host (Environment Talk)

/-- What a program leaves behind. -/
structure Report where
  exitCode : Nat
  output : String
  errors : String
  deriving DecidableEq, Repr

/-- How the program is called. -/
def usage : String :=
  "usage: jumplist-manager [--app-name NAME] (--delete | --user-tasks FILE | CATEGORIES_FILE)"

/-- The circumstances of a program. -/
structure Circumstances where
  env : Environment
  /-- Whether records are already taken care of by something else. -/
  loggerTaken : Bool
  deriving DecidableEq, Repr

/-! ## Logging -/

/-- Where records go: to the standard error, and to a file if there is one. -/
structure Sink where
  filter : Log.Filter
  file : Option Path
  deriving DecidableEq, Repr

/-- Two digits. -/
def twoDigits (n : Nat) : String := String.ofList [(n / 10 % 10).digitChar, (n % 10).digitChar]

/-- A time of the day. -/
def clockText (seconds : Nat) : String :=
  s!"{twoDigits (seconds / 3600)}:{twoDigits (seconds / 60 % 60)}:{twoDigits (seconds % 60)}"

/-- The line of a record. -/
def line (seconds : Nat) (r : Log.Record) : String :=
  s!"{clockText seconds} [{r.level.name}] {r.message}\n"

/-- Sends a record where it goes; the line that goes to the standard error. -/
def Sink.send (sink : Sink) (r : Log.Record) : Talk String := do
  if sink.filter.passes r.level then
    let text := line (← Host.clock) r
    if let some p := sink.file then
      let _ ← Host.append p (Path.ofString text).bytes
    return text
  else return ""

/-- Sends records where they go, in order. -/
def Sink.sendAll (sink : Sink) : List Log.Record → Talk String
  | [] => return ""
  | r :: rs => do return (← sink.send r) ++ (← sink.sendAll rs)

/-- Logs go to the standard error only. -/
def terminalOnly (reason : String) : Log.Record :=
  ⟨.warn, s!"Main: Logging to terminal only, log file unavailable ({reason})."⟩

/-- A new log file, or the reason why there is none. -/
def createLogFile (env : Environment) (app : String) : Talk (Except String Path) := do
  match ← (Host.logFile env app).unheard with
  | none => return .error "no config directory"
  | some p =>
    match ← Host.write p [] with
    | .ok () => return .ok p
    | .error cause => return .error s!"{p.quoted}: {cause.text}"

/-- Where the records of an application go, and the records that starting this leaves. -/
def openSink (env : Environment) (s : Settings) : Talk (Sink × List Log.Record) := do
  if s.logToFile then
    match ← createLogFile env s.appName with
    | .ok p => return (⟨s.filter, some p⟩, [])
    | .error reason => return (⟨s.filter, none⟩, [terminalOnly reason])
  else return (⟨s.filter, none⟩, [])

/-! ## The program -/

/-- The settings could not be had. -/
def usingDefaults (app : String) (e : Settings.Error) : Log.Record :=
  ⟨.warn, s!"Main: Using default configuration for '{app}': {e.message}"⟩

/-- There is no shell to make a request to. -/
def shellUnavailable (request : Request) : Log.Record :=
  ⟨.error, "Main: The Windows shell is unavailable on this platform; cannot run " ++
    s!"{request.text}."⟩

/-- Logging has been started by something else. -/
def loggingTaken : String :=
  "Failed to initialize logging: attempted to set a logger after the logging system was already " ++
    "initialized\n"

/-- The report of a program that ends with an outcome. -/
def report (outcome : Outcome) (errors : String) : Report :=
  ⟨if outcome = .success then 0 else 1, outcome.code ++ "\n", errors⟩

/-- The settings of an application, and the error that stands in the way of the stored ones. -/
def settingsFor (env : Environment) (app : String) : Talk (Settings × Option Settings.Error) := do
  match ← (Settings.Store.loadOrCreate ⟨env, none⟩ app).run.unheard with
  | .ok s => return (s, none)
  | .error e => return (Settings.ofName app, some e)

/-- Carries out a request. -/
def carryOut (about : Circumstances) (arguments : Arguments) : Talk Report := do
  let app := arguments.appName.getD Settings.defaultAppName
  let (settings, problem) ← settingsFor about.env app
  let (sink, opening) ← openSink about.env settings
  if about.loggerTaken then return report .genericError loggingTaken
  else
    let records := opening ++ problem.toList.map (usingDefaults app) ++
      [shellUnavailable arguments.request]
    return report .genericError (← sink.sendAll records)

/-- Runs the program on the words of a command line. -/
def run (about : Circumstances) (words : List String) : Talk Report := do
  match Arguments.ofWords words with
  | .error e => return report .argumentError s!"{e.message}\n{usage}\n"
  | .ok arguments => carryOut about arguments

end JumpList.CommandLine
