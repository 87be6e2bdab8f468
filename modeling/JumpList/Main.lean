/-
# JumpList.Main — the command line on a real machine.

Requests to the machine are carried out on its files and its clock; what the program leaves behind
goes to the standard streams.  Nothing is decided here.
-/
import Std.Time.DateTime.Timestamp
import JumpList.CommandLine.Program

namespace JumpList.Live

open Host (Call Cause Environment)

/-- The cause that an error of the operating system has. -/
def causeOf (e : IO.Error) : Cause :=
  match e with
  | .noFileOrDirectory _ _ _ | .noSuchThing _ _ _ => .notFound
  | .alreadyExists _ _ _ => .alreadyExists
  | .inappropriateType _ code _ => if code = 20 then .notADirectory else .isADirectory
  | .invalidArgument _ code _ => if code = 36 then .nameTooLong else .other (toString e)
  | _ => .other (toString e)

/-- Carries out an action on a path, unless the path cannot be looked up. -/
def onPath {α : Type} (p : Path) (action : String → IO α) : IO (Except Cause α) := do
  if p.bytes.contains 0 then return .error .nulInPath
  else
    try
      return .ok (← action p.lossy)
    catch e => return .error (causeOf e)

/-- Carries out an action that answers nothing. -/
def change (p : Path) (action : String → IO Unit) : IO (Except Cause Unit) := onPath p action

/-- The text of bytes that were read. -/
def textOf (bytes : ByteArray) : Except Cause String :=
  match Text.Utf8.decode? bytes.toList with
  | some cs => .ok (String.ofList cs)
  | none => .error .notText

/-- Bytes as they are written. -/
def packed (bytes : List UInt8) : ByteArray := ⟨bytes.toArray⟩

/-- Meets a request. -/
def answer : (c : Call) → IO c.Reply
  | .isPresent p => do
    let opened ← onPath p fun name => do
      let _ ← IO.FS.Handle.mk name .read
    return opened.toBool
  | .readText p => do
    let read ← onPath p fun name => IO.FS.readBinFile name
    return read.bind textOf
  | .write p bytes => change p fun name => IO.FS.writeBinFile name (packed bytes)
  | .append p bytes =>
    change p fun name => do
      let file ← IO.FS.Handle.mk name .append
      file.write (packed bytes)
  | .makeDirectories p => change p fun name => IO.FS.createDirAll name
  | .clock => do
    let now ← Std.Time.Timestamp.now
    return now.toSecondsSinceUnixEpoch.val.toNat % 86400

/-- The environment of the process. -/
def environment : IO Environment := do
  let configHome ← IO.getEnv "XDG_CONFIG_HOME"
  let home ← IO.getEnv "HOME"
  return ⟨configHome.map Path.ofString, home.map Path.ofString⟩

end JumpList.Live

/-- Runs the program on the words of the command line. -/
def main (words : List String) : IO UInt32 := do
  let env ← JumpList.Live.environment
  let program := JumpList.CommandLine.run ⟨env, false⟩ words
  let report ← program.perform JumpList.Live.answer fun _ => return ()
  IO.print report.output
  IO.eprint report.errors
  return report.exitCode.toUInt32
