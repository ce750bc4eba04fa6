/-!
# Categories of feed lines

A feed line is shown under the category that its text announces. The text announces a category by
containing one of the category's markers; when it contains markers of several categories, the most
urgent one decides, wherever the markers stand.
-/

namespace ScriptedFeed

/-- How a feed line is presented. -/
inductive Category where
  | warning
  | execution
  | success
  | info
deriving DecidableEq, Repr

/-- Whether a text occurs as a contiguous part of another. -/
def occursIn (pattern : List Char) : List Char → Bool
  | [] => pattern.isEmpty
  | character :: rest =>
      pattern.isPrefixOf (character :: rest) || occursIn pattern rest

namespace Category

/-- The texts that announce the category. -/
def markers : Category → List String
  | warning => ["WARN"]
  | execution => ["EXEC"]
  | success => ["FILLED", "SUCCESS"]
  | info => []

/-- The categories that have markers, the most urgent first. -/
def byUrgency : List Category :=
  [warning, execution, success]

/-- Whether a text contains one of the category's markers. -/
def isAnnouncedBy (category : Category) (text : List Char) : Bool :=
  category.markers.any fun marker => occursIn marker.toList text

/-- The category of a text: the most urgent one that it announces. -/
def classify (text : String) : Category :=
  (byUrgency.find? fun category => category.isAnnouncedBy text.toList).getD info

/-- The tag of three columns that stands before a line of the category. -/
def tag : Category → String
  | warning => "WRN"
  | execution => "EXE"
  | success => "OK "
  | info => "   "

/-- The name of the category in stored lines. -/
def name : Category → String
  | warning => "warning"
  | execution => "execution"
  | success => "success"
  | info => "info"

/-- All categories, in the order in which messages list them. -/
def all : List Category :=
  [warning, execution, success, info]

end Category

end ScriptedFeed
