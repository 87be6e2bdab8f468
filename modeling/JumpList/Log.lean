/-
# JumpList.Log — records of what happened.

A record has a level and a message.  A filter is the least important level that passes, or none.
-/

namespace JumpList.Log

/-- How much a record matters, the most important first. -/
inductive Level where
  | error
  | warn
  | info
  | debug
  | trace
  deriving DecidableEq, Repr

namespace Level

/-- The name of a level. -/
def name : Level → String
  | .error => "ERROR"
  | .warn => "WARN"
  | .info => "INFO"
  | .debug => "DEBUG"
  | .trace => "TRACE"

/-- The levels, the most important first. -/
def all : List Level := [.error, .warn, .info, .debug, .trace]

/-- The place of a level in the order of importance. -/
def rank : Level → Nat
  | .error => 1
  | .warn => 2
  | .info => 3
  | .debug => 4
  | .trace => 5

end Level

/-- Something worth telling. -/
structure Record where
  level : Level
  message : String
  deriving DecidableEq, Repr

/-- The least important level that passes; `none` stops everything. -/
abbrev Filter := Option Level

namespace Filter

/-- The name of a filter. -/
def name : Filter → String
  | none => "OFF"
  | some level => level.name

/-- Whether records of a level pass. -/
def passes (filter : Filter) (level : Level) : Bool :=
  match filter with
  | none => false
  | some limit => level.rank ≤ limit.rank

/-- The filter of a name, in letters of either case. -/
def ofName? (text : String) : Option Filter :=
  let same (name : String) : Bool := name.toList == text.toList.map Char.toUpper
  if same "OFF" then some none else (Level.all.find? (same ·.name)).map some

end Filter

end JumpList.Log
