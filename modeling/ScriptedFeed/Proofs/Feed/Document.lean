import ScriptedFeed.Feed.Document
import ScriptedFeed.Proofs.Instant.Timestamp
import ScriptedFeed.Proofs.Json.Record

/-!
# Feed lines are read back from their documents

A line is written as an object of its text, its timestamp and the name of its category, each of
which is read back by itself. All of them are texts, so nothing that follows can change what is
read.
-/

namespace ScriptedFeed

open Json

theorem reads_timestamp (instant : Instant) :
    Reads readInstant (writeText instant.timestamp) (.ok instant) where
  starts := startsValue_writeText instant.timestamp
  reads rest ends := by
    have reads := reads_writeText "an RFC 3339 formatted date and time string" instant.timestamp
    rw [readInstant, reads.mapError_bind ends]
    simp only [except_ok_bind, Instant.ofTimestamp_timestamp]
    rfl

theorem Category.reads_write (category : Category) :
    Reads Category.read category.write (.ok category) := by
  apply reads_readChoice
  cases category <;> rfl

namespace FeedLine

theorem gathers_members (line : FeedLine) :
    Gathers shape [("text", writeText line.text),
      ("delivered_at", writeText line.deliveredAt.timestamp), ("category", line.category.write)]
      shape.start (.ok ⟨some line.text, some line.deliveredAt, some line.category⟩) := by
  have text_reads := (reads_writeText "a string" line.text).map fun text =>
    (⟨some text, none, none⟩ : Draft)
  have instant_reads := (reads_timestamp line.deliveredAt).map fun instant =>
    (⟨some line.text, some instant, none⟩ : Draft)
  have category_reads := line.category.reads_write.map fun category =>
    (⟨some line.text, some line.deliveredAt, some category⟩ : Draft)
  apply Gathers.cons_ok _ rfl rfl text_reads
  apply Gathers.cons_ok _ rfl rfl instant_reads
  apply Gathers.cons_ok _ rfl rfl category_reads
  exact .nil _

theorem readDocument_write (line : FeedLine) :
    readDocument read (Text.encodeUtf8 line.write) = .ok line := by
  have read := (gathers_members line).reads_writeObject.readDocument_eq
  exact mapError_eq_ok_iff.1 read

/--
A line that a text becomes at an instant is read back as it was, with its text, its instant to the
nanosecond and its category, whatever the text and the instant are.
-/
theorem stored_line_is_read_back (text : String) (instant : Instant) :
    readDocument read (Text.encodeUtf8 (ofText text instant).write) = .ok (ofText text instant) :=
  readDocument_write (ofText text instant)

end FeedLine

end ScriptedFeed
