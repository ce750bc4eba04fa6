import ScriptedFeed.CommandLine.Options
import ScriptedFeed.Text.ControlSequence

/-!
# What the command line tells its user

The texts about the arguments: the explanation of all switches, the version, and what is wrong
with arguments that are refused. All texts are given line by line. What a refused argument says is
repeated without its control characters and sequences.
-/

namespace ScriptedFeed

namespace Usage

def programName : String := "tesser-terminal"

def programVersion : String := "0.1.0"

def purpose : String := "Play the Tesser landing-page terminal feed"

/-- The line that says how the program is called. -/
def usageLine (arguments : String) : String :=
  "Usage: " ++ programName ++ " " ++ arguments

/-- The usage line that stands for all switches. -/
def generalUsage : String :=
  usageLine "[OPTIONS]"

/-- The usage line for some switches, each named once. -/
def usageOf (switches : List Switch) : String :=
  match switches.eraseDups with
  | [] => generalUsage
  | named => usageLine (" ".intercalate (named.map Switch.shown))

/-- The choice between all switches that say how to play, in angle brackets. -/
def choice : String :=
  "<" ++ "|".intercalate (Switch.playing.map Switch.shown) ++ ">"

/--
The usage line for a switch to which a value was attached in vain. Once other switches have taken
effect it names the choice that these were made from, which covers the switch if it belongs to it.
-/
def usageAfter (given : List Switch) (switch : Switch) : String :=
  if given.isEmpty then usageLine switch.shown
  else if Switch.playing.contains switch then usageLine choice
  else usageLine (switch.shown ++ " " ++ choice)

/-- A text filled up with blanks to a number of characters. -/
def padRight (length : Nat) (text : String) : String :=
  text ++ String.ofList (List.replicate (length - text.length) ' ')

/-- The number of characters that the longest switch takes as it is shown. -/
def longestShown : Nat :=
  (Switch.all.map fun switch => switch.shown.length).foldl max 0

/-- The short form of a switch as it stands before the name, or as many blanks. -/
def shortForm (switch : Switch) : String :=
  match switch.letter? with
  | some letter => String.ofList ['-', letter, ',', ' ']
  | none => "    "

def switchLine (switch : Switch) : String :=
  "  " ++ shortForm switch ++ padRight longestShown switch.shown ++ "  " ++ switch.purpose

def help : List String :=
  [purpose, "", generalUsage, "", "Options:"] ++ Switch.all.map switchLine

def version : List String :=
  [programName ++ " " ++ programVersion]

end Usage

namespace ArgumentError

def message : ArgumentError → String
  | missingValue switch =>
      "a value is required for '" ++ switch.shown ++ "' but none was supplied"
  | invalidValue switch value fault =>
      "invalid value '" ++ Text.withoutControls value ++ "' for '" ++ switch.shown ++ "': " ++
        fault.message
  | repeated switch => "the argument '" ++ switch.shown ++ "' cannot be used multiple times"
  | unexpected argument => "unexpected argument '" ++ Text.withoutControls argument ++ "' found"
  | unknown name _ _ => "unexpected argument '--" ++ Text.withoutControls name ++ "' found"
  | unneededValue switch value _ =>
      "unexpected value '" ++ Text.withoutControls value ++ "' for '" ++ switch.shown ++
        "' found; no more were expected"

/-- What could have been meant. -/
def tip? : ArgumentError → Option String
  | unknown _ (some proposal) _ =>
      some ("a similar argument exists: '" ++ proposal.dashed ++ "'")
  | unknown _ none _ | missingValue _ | invalidValue _ _ _ | repeated _ | unexpected _
  | unneededValue _ _ _ => none

/-- How the program could have been called, where that helps. -/
def usage? : ArgumentError → Option String
  | missingValue _ | invalidValue _ _ _ => none
  | repeated _ | unexpected _ => some Usage.generalUsage
  | unknown _ proposal? given => some (Usage.usageOf (given ++ proposal?.toList))
  | unneededValue switch _ given => some (Usage.usageAfter given switch)

/-- The error as it is told, line by line. -/
def report (error : ArgumentError) : List String :=
  ["error: " ++ error.message, ""] ++
    (match error.tip? with
      | some tip => ["  tip: " ++ tip, ""]
      | none => []) ++
    (match error.usage? with
      | some usage => [usage, ""]
      | none => []) ++
    ["For more information, try '--help'."]

end ArgumentError

end ScriptedFeed
