/-!
# Sets of characters given by ranges

Character properties of the standard are published as lists of code point ranges. A property is
kept in that form, so that its table can be compared with the published one line by line.
-/

namespace ScriptedFeed

namespace Text

/-- A set of characters: the code points that lie in one of the ranges, both ends included. -/
abbrev CodeRanges := List (Nat × Nat)

/-- Whether a character belongs to the set. -/
def CodeRanges.contains (ranges : CodeRanges) (character : Char) : Bool :=
  ranges.any fun range => range.1 ≤ character.toNat && character.toNat ≤ range.2

end Text

end ScriptedFeed
