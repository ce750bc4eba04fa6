import ScriptedFeed.Feed.Category
import ScriptedFeed.Instant.Basic

/-!
# Lines of the feed

A line enters the feed at some instant and takes its category from its text. Two deliveries of the
same text are different lines, because their instants differ.
-/

namespace ScriptedFeed

/-- A line that has been delivered into the feed. -/
structure FeedLine where
  text : String
  deliveredAt : Instant
  category : Category
deriving DecidableEq

namespace FeedLine

/-- The line that a text becomes when it is delivered at an instant. -/
def ofText (text : String) (instant : Instant) : FeedLine :=
  ⟨text, instant, Category.classify text⟩

def timeLabel (line : FeedLine) : String :=
  line.deliveredAt.timeLabel

/-- The line as it is shown: the time of day if wanted, the tag of its category and its text. -/
def shown (line : FeedLine) (withTime : Bool) : String :=
  if withTime then line.timeLabel ++ " " ++ line.category.tag ++ " " ++ line.text
  else line.category.tag ++ " " ++ line.text

end FeedLine

end ScriptedFeed
