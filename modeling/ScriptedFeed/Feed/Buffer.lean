import ScriptedFeed.Feed.Line
import ScriptedFeed.Notice
import ScriptedFeed.Playback.Config

/-!
# The visible lines

A feed shows the newest lines, up to its capacity. A line that is appended to a full feed pushes
the oldest one out.
-/

namespace ScriptedFeed

/-- The newest lines of a feed, the oldest first. -/
structure Buffer where
  capacity : UInt64
  lines : List FeedLine
deriving DecidableEq

namespace Buffer

/-- The number of bytes that a line takes in the queue of a feed. -/
def bytesPerLine : UInt64 := 40

/--
The smallest capacity that there is no room for. The queue is allocated as a whole, and an
allocation whose bytes come in groups of eight has at most `2 ^ 63 - 8` of them.
-/
def capacityBound : UInt64 := 0x7FFFFFFFFFFFFFF8 / bytesPerLine + 1

/-- A feed without lines, unless it could show none or has to be too large. -/
def create (capacity : UInt64) : Except PlaybackError Buffer :=
  if capacity = 0 then .error (.invalidCapacity capacity)
  else if capacityBound ≤ capacity then .error .capacityOverflow
  else .ok ⟨capacity, []⟩

/-- Whether a further line would push the oldest one out. -/
def isFull (buffer : Buffer) : Bool :=
  buffer.lines.length = buffer.capacity.toNat

/-- The line that a further line pushes out. -/
def evicted? (buffer : Buffer) : Option FeedLine :=
  if buffer.capacity.toNat ≤ buffer.lines.length then buffer.lines.head? else none

/-- The feed after a further line. -/
def append (buffer : Buffer) (line : FeedLine) : Buffer :=
  let kept :=
    if buffer.capacity.toNat ≤ buffer.lines.length then buffer.lines.drop 1 else buffer.lines
  { buffer with lines := kept ++ [line] }

/-- The part of the program that reports on the feed. -/
def source : String := "tesser_terminal::playback::buffer"

/-- What is reported when a further line is appended. -/
def appendNotices (buffer : Buffer) : List Notice :=
  match buffer.evicted? with
  | some line => [⟨.debug, source, "Evicted feed line: " ++ line.text⟩]
  | none => []

end Buffer

end ScriptedFeed
