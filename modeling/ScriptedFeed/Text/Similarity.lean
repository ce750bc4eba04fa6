import ScriptedFeed.Number.Binary64

/-!
# Similar texts

Two texts are the more similar the more characters they share at about the same places. Each
character of the one is matched with the first free equal character of the other that is not too
far away. The similarity is the mean of three shares: of the matched characters in either text,
and of those matched characters that stand in the same order in both.
-/

namespace ScriptedFeed

namespace Text

/-- How far apart two characters may stand that are matched. -/
def reach (left right : List Char) : Nat :=
  max left.length right.length / 2 - 1

/-- The first free place of a text at which a character can be matched that stands at an index. -/
def matchingPlace? (text : List Char) (distance : Nat) (taken : List Nat) (index : Nat)
    (character : Char) : Option Nat :=
  (List.range text.length).find? fun place =>
    decide (index ≤ place + distance ∧ place ≤ index + distance) &&
      text[place]? = some character && !taken.contains place

/-- The places of a text that the characters of another one are matched with, the last first. -/
def matchedPlaces (left right : List Char) : List Nat :=
  left.zipIdx.foldl (fun taken (character, index) =>
    match matchingPlace? right (reach left right) taken index character with
    | some place => place :: taken
    | none => taken) []

/-- The number of matched characters that stand out of order, counted in pairs. -/
def swappedPairs (left right : List Char) : Nat :=
  let places := (matchedPlaces left right).reverse
  let ordered := places.mergeSort
  ((places.zip ordered).countP fun (place, inOrder) => right[place]? ≠ right[inOrder]?) / 2

/-- A share of a whole, as a number. -/
def share? (part whole : Nat) : Option Magnitude :=
  Magnitude.ofRatio? part whole

/-- How similar two texts are, from zero to one, unless a step of the computation fails. -/
def similarity? (left right : List Char) : Option Magnitude :=
  match (matchedPlaces left right).length with
  | 0 => some .zero
  | matched@(_ + 1) => do
      let ofLeft ← share? matched left.length
      let ofRight ← share? matched right.length
      let inOrder ← share? (matched - swappedPairs left right) matched
      (← (← ofLeft.add? ofRight).add? inOrder).div? (← Magnitude.ofNat? 3)

/-- How similar two texts are, from zero to one. -/
def similarity (left right : List Char) : Magnitude :=
  (similarity? left right).getD .zero

/-- The similarity that a text must exceed to be proposed in place of another one. -/
def proposalBound : Magnitude :=
  (Magnitude.ofRatio? 7 10).getD .one

/-- The candidate whose text is the most similar to a text; of several the last one. -/
def mostSimilar? {α : Type} (textOf : α → List Char) (text : List Char)
    (candidates : List α) : Option α :=
  (candidates.foldl (fun best? candidate =>
    let likeness := similarity text (textOf candidate)
    match best? with
    | some (best, known) =>
        if known.units ≤ likeness.units then some (candidate, likeness)
        else some (best, known)
    | none =>
        if proposalBound.units < likeness.units then some (candidate, likeness) else none)
    none).map Prod.fst

end Text

end ScriptedFeed
