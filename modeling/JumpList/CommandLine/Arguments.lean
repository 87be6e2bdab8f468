/-
# JumpList.CommandLine.Arguments — the words of a command line.

A command line makes one request: to delete the list, to make it a list of user tasks, or to update
it from a file.  It may name the application; of several names the last counts.  The words are read
from left to right, and the first one that does not fit decides.
-/
import JumpList.Path

namespace JumpList.CommandLine

/-- What is asked for. -/
inductive Request where
  | delete
  | userTasks (file : Path)
  | update (file : Path)
  deriving DecidableEq, Repr

/-- The request as it is shown. -/
def Request.text : Request → String
  | .delete => "Delete"
  | .userTasks file => s!"UserTasks({file.quoted})"
  | .update file => s!"Update({file.quoted})"

/-- A command line that was understood. -/
structure Arguments where
  appName : Option String
  request : Request
  deriving DecidableEq, Repr

/-- Why a command line is not understood. -/
inductive UsageError where
  | missingName
  | missingFile
  | unknownOption (word : String)
  | secondRequest
  | noRequest
  deriving DecidableEq, Repr

/-- The error in words. -/
def UsageError.message : UsageError → String
  | .missingName => "--app-name needs a value"
  | .missingFile => "--user-tasks needs a file"
  | .unknownOption word => s!"unknown option '{word}'"
  | .secondRequest => "only one request may be given"
  | .noRequest => "no request given"

/-- Whether a word is an option rather than a file. -/
def isOption (word : String) : Bool := ['-', '-'].isPrefixOf word.toList

/-- Reads words when a name and a request may have been read before. -/
def scan (appName : Option String) (request : Option Request) :
    List String → Except UsageError Arguments
  | [] =>
    match request with
    | some request => .ok ⟨appName, request⟩
    | none => .error .noRequest
  | "--app-name" :: [] => .error .missingName
  | "--app-name" :: name :: words => scan (some name) request words
  | "--user-tasks" :: [] => .error .missingFile
  | "--user-tasks" :: file :: words =>
    if request.isSome then .error .secondRequest
    else scan appName (some (.userTasks (Path.ofString file))) words
  | "--delete" :: words =>
    if request.isSome then .error .secondRequest else scan appName (some .delete) words
  | word :: words =>
    if isOption word then .error (.unknownOption word)
    else if request.isSome then .error .secondRequest
    else scan appName (some (.update (Path.ofString word))) words

/-- Reads a command line. -/
def Arguments.ofWords (words : List String) : Except UsageError Arguments := scan none none words

end JumpList.CommandLine
