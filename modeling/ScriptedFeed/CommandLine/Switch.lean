/-!
# Switches

A switch is an argument that starts with two dashes and its name. Some switches take a value, which
follows after an equals sign or as the next argument; a few have a short form of one dash and one
letter.
-/

namespace ScriptedFeed

inductive Switch where
  | script
  | speed
  | capacity
  | noColor
  | hold
  | saveSettings
  | help
  | version
deriving DecidableEq, Repr

namespace Switch

/-- All switches, in the order in which they are explained. -/
def all : List Switch :=
  [script, speed, capacity, noColor, hold, saveSettings, help, version]

/-- The switches that say how to play, rather than ask for a text. -/
def playing : List Switch :=
  [script, speed, capacity, noColor, hold, saveSettings]

/-- The name of the switch, without the dashes. -/
def name : Switch → String
  | script => "script"
  | speed => "speed"
  | capacity => "capacity"
  | noColor => "no-color"
  | hold => "hold"
  | saveSettings => "save-settings"
  | help => "help"
  | version => "version"

def letter? : Switch → Option Char
  | help => some 'h'
  | version => some 'V'
  | script | speed | capacity | noColor | hold | saveSettings => none

/-- The name that stands for the value of the switch, if it takes one. -/
def valueName? : Switch → Option String
  | script => some "SCRIPT"
  | speed => some "SPEED"
  | capacity => some "CAPACITY"
  | noColor | hold | saveSettings | help | version => none

def purpose : Switch → String
  | script => "JSON or CSV script to play instead of the built-in one"
  | speed => "Playback speed multiplier (0.1 to 10)"
  | capacity => "Number of visible lines"
  | noColor => "Disable colours"
  | hold => "Keep the feed on screen after the script finishes, until Ctrl-C"
  | saveSettings => "Persist the effective speed, capacity and colour settings"
  | help => "Print help"
  | version => "Print version"

def dashed (switch : Switch) : String :=
  "--" ++ switch.name

/-- The switch as it is shown, with the name of its value. -/
def shown (switch : Switch) : String :=
  match switch.valueName? with
  | some value => switch.dashed ++ " <" ++ value ++ ">"
  | none => switch.dashed

def ofName? (name : String) : Option Switch :=
  all.find? fun switch => switch.name = name

def ofLetter? (letter : Char) : Option Switch :=
  all.find? fun switch => switch.letter? = some letter

end Switch

end ScriptedFeed
