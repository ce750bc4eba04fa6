import ScriptedFeed.Display.Command
import ScriptedFeed.Feed.Line
import ScriptedFeed.Text.Width

/-!
# Showing the feed

A window shows snapshots of the feed. On a terminal it redraws the whole snapshot in place: it
remembers how many rows the last frame took, moves up by as many and clears them; lines are cut to
the terminal's width so that each takes one row. Elsewhere it only adds what is new: the lines of
the snapshot after the last one that it has written.
-/

namespace ScriptedFeed

/-- The longest prefix of a text whose characters take at most so many columns. -/
def fitColumns (columnsOf : Char → Nat) : Nat → List Char → List Char
  | _, [] => []
  | room, character :: rest =>
      if columnsOf character ≤ room then
        character :: fitColumns columnsOf (room - columnsOf character) rest
      else []

/-- A text cut to a number of terminal columns. -/
def cutToWidth (width : Nat) (text : String) : String :=
  String.ofList (fitColumns Text.columns width text.toList)

/-- How a window shows the feed. -/
inductive WindowMode where
  /-- Redraws in place, in colour or not. -/
  | live (inColor : Bool)
  /-- Adds lines at the end. -/
  | plain
deriving DecidableEq, Repr

/-- A place that shows the feed. -/
structure Window where
  mode : WindowMode
  showsTime : Bool
  /-- The number of columns that lines are cut to. -/
  width? : Option UInt16
  /-- The number of rows that the last frame took. -/
  drawnRows : Nat
  /-- The last line written at the end. -/
  lastWritten? : Option FeedLine
deriving DecidableEq

namespace Window

/-- A window that has shown nothing yet. -/
def create (mode : WindowMode) (showsTime : Bool) : Window :=
  ⟨mode, showsTime, none, 0, none⟩

def setWidth (window : Window) (width? : Option UInt16) : Window :=
  { window with width? }

/-- The largest number of rows that a window remembers. -/
def mostRows : Nat := 65535

def rowText (window : Window) (line : FeedLine) : String :=
  match window.width? with
  | some width => cutToWidth width.toNat (line.shown window.showsTime)
  | none => line.shown window.showsTime

/-- What is sent to show a line in a row of its own. -/
def rowCommands (window : Window) (inColor : Bool) (line : FeedLine) : List Command :=
  if inColor then
    [.setColor line.category.color, .print (window.rowText line), .resetColor, .nextRow]
  else
    [.print (window.rowText line), .nextRow]

/-- What is sent to take the last frame away. -/
def eraseCommands (window : Window) : List Command :=
  if window.drawnRows = 0 then []
  else [.moveUp window.drawnRows, .toFirstColumn, .clearBelow]

/-- The lines of a snapshot after the last one that was written, or all if it is gone. -/
def newLines (window : Window) (lines : List FeedLine) : List FeedLine :=
  match window.lastWritten? with
  | some last => (lines.reverse.takeWhile (· ≠ last)).reverse
  | none => lines

/-- What is sent to add a line at the end. -/
def lineCommands (window : Window) (line : FeedLine) : List Command :=
  [.print (line.shown window.showsTime), .endLine]

/-- What is sent to show a snapshot. -/
def renderCommands (window : Window) (lines : List FeedLine) : List Command :=
  match window.mode with
  | .live inColor => window.eraseCommands ++ lines.flatMap (window.rowCommands inColor)
  | .plain => (window.newLines lines).flatMap window.lineCommands

/-- The window after it has shown a snapshot. -/
def afterRender (window : Window) (lines : List FeedLine) : Window :=
  match window.mode with
  | .live _ => { window with drawnRows := min lines.length mostRows }
  | .plain => { window with lastWritten? := lines.getLast? <|> window.lastWritten? }

/-- The text that showing a snapshot sends. -/
def render (window : Window) (lines : List FeedLine) : String :=
  Command.spellAll (window.renderCommands lines)

end Window

end ScriptedFeed
