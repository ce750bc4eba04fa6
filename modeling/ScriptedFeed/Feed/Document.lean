import ScriptedFeed.Feed.Line
import ScriptedFeed.Json.Reader
import ScriptedFeed.Json.Writer

/-!
# Feed lines as documents

A feed line is stored as an object with its text, its instant as a timestamp and its category by
name.
-/

namespace ScriptedFeed

namespace Category

def read : Json.Reader Category :=
  Json.readChoice (all.map fun category => (category.name, category))

def write (category : Category) : List Char :=
  Json.writeText category.name

end Category

namespace FeedLine

/-- A feed line being read: its members, as far as they are known. -/
structure Draft where
  text? : Option String
  deliveredAt? : Option Instant
  category? : Option Category

/-- How a feed line is read. -/
def shape : Json.RecordShape Draft FeedLine where
  name := "FeedEntry"
  members := [
    { name := "text"
      aliases := []
      isOptional := false
      isGiven := fun draft => draft.text?.isSome
      readInto := fun draft bytes => do
        let (text, rest) ← Json.readString bytes
        .ok ({ draft with text? := some text }, rest) },
    { name := "delivered_at"
      aliases := []
      isOptional := false
      isGiven := fun draft => draft.deliveredAt?.isSome
      readInto := fun draft bytes => do
        let (instant, rest) ← Json.readInstant bytes
        .ok ({ draft with deliveredAt? := some instant }, rest) },
    { name := "category"
      aliases := []
      isOptional := false
      isGiven := fun draft => draft.category?.isSome
      readInto := fun draft bytes => do
        let (category, rest) ← Category.read bytes
        .ok ({ draft with category? := some category }, rest) }]
  start := ⟨none, none, none⟩
  finish := fun draft =>
    match draft.text?, draft.deliveredAt?, draft.category? with
    | none, _, _ => .error "text"
    | some _, none, _ => .error "delivered_at"
    | some _, some _, none => .error "category"
    | some text, some instant, some category => .ok ⟨text, instant, category⟩

def read : Json.Reader FeedLine :=
  shape.read

def write (line : FeedLine) : List Char :=
  Json.writeObject [
    ("text", Json.writeText line.text),
    ("delivered_at", Json.writeText line.deliveredAt.timestamp),
    ("category", line.category.write)]

end FeedLine

end ScriptedFeed
