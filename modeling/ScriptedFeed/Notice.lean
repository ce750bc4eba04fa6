/-!
# Notices

The library reports what it does, and what it puts up with, as notices. A notice has a level, the
part of the program that it comes from and a text; whether it is shown is decided elsewhere.
-/

namespace ScriptedFeed

/-- How important a notice is, the least important first. -/
inductive Level where
  | trace
  | debug
  | info
  | warn
  | error
deriving DecidableEq, Repr

namespace Level

def name : Level → String
  | trace => "TRACE"
  | debug => "DEBUG"
  | info => "INFO"
  | warn => "WARN"
  | error => "ERROR"

/-- The rank of the level among the levels. -/
def rank : Level → Nat
  | trace => 0
  | debug => 1
  | info => 2
  | warn => 3
  | error => 4

end Level

/-- Something that the program reports about its own work. -/
structure Notice where
  level : Level
  /-- The part of the program that reports it. -/
  source : String
  text : String
deriving DecidableEq, Repr

end ScriptedFeed
