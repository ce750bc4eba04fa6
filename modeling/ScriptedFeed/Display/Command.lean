import ScriptedFeed.Feed.Category

/-!
# What is sent to a terminal

A feed is shown by sending text to a terminal, or to a file or another program in place of one.
Besides text there are commands that move the cursor, clear what is below it and choose a colour;
each has a fixed spelling that starts with the escape character.
-/

namespace ScriptedFeed

/-- A colour of text. -/
inductive Color where
  | yellow
  | cyan
  | green
  | grey
deriving DecidableEq, Repr

namespace Color

def name : Color → String
  | yellow => "Yellow"
  | cyan => "Cyan"
  | green => "Green"
  | grey => "Grey"

/-- The number of the colour in a terminal's palette. -/
def paletteIndex : Color → Nat
  | yellow => 11
  | cyan => 14
  | green => 10
  | grey => 7

end Color

/-- The colour in which lines of a category are shown. -/
def Category.color : Category → Color
  | warning => .yellow
  | execution => .cyan
  | success => .green
  | info => .grey

/-- Something sent to a terminal. -/
inductive Command where
  /-- Shows text from the cursor on. -/
  | print (text : String)
  /-- Moves the cursor up by so many rows. -/
  | moveUp (rows : Nat)
  /-- Moves the cursor to the first column. -/
  | toFirstColumn
  /-- Clears everything from the cursor on. -/
  | clearBelow
  /-- Shows text in a colour from here on. -/
  | setColor (color : Color)
  /-- Shows text in its usual colour from here on. -/
  | resetColor
  /-- Goes to the first column of the next row. -/
  | nextRow
  /-- Ends a line of a text file. -/
  | endLine
deriving DecidableEq, Repr

namespace Command

/-- The start of the commands that are not text. -/
def introducer : String := "\x1b["

def spelling : Command → String
  | print text => text
  | moveUp rows => introducer ++ toString rows ++ "A"
  | toFirstColumn => introducer ++ "1G"
  | clearBelow => introducer ++ "J"
  | setColor color => introducer ++ "38;5;" ++ toString color.paletteIndex ++ "m"
  | resetColor => introducer ++ "39m"
  | nextRow => "\x0d\n"
  | endLine => "\n"

def spellAll (commands : List Command) : String :=
  String.join (commands.map spelling)

end Command

end ScriptedFeed
