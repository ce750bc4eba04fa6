import ScriptedFeed.CommandLine.Options
import ScriptedFeed.CommandLine.Switch
import ScriptedFeed.CommandLine.Usage
import ScriptedFeed.Csv.Table
import ScriptedFeed.Display.Command
import ScriptedFeed.Display.Watch
import ScriptedFeed.Display.Window
import ScriptedFeed.Feed.Buffer
import ScriptedFeed.Feed.Category
import ScriptedFeed.Feed.Document
import ScriptedFeed.Feed.Line
import ScriptedFeed.Instant.Basic
import ScriptedFeed.Instant.Calendar
import ScriptedFeed.Instant.Timestamp
import ScriptedFeed.Json.Fault
import ScriptedFeed.Json.Lexeme
import ScriptedFeed.Json.Number
import ScriptedFeed.Json.Reader
import ScriptedFeed.Json.Skip
import ScriptedFeed.Json.Text
import ScriptedFeed.Json.Writer
import ScriptedFeed.Main
import ScriptedFeed.Notice
import ScriptedFeed.Notice.Filter
import ScriptedFeed.Notice.Log
import ScriptedFeed.Number.Binary64
import ScriptedFeed.Number.Decimal
import ScriptedFeed.Number.Integer
import ScriptedFeed.Number.Rounding
import ScriptedFeed.Number.Shortest
import ScriptedFeed.Playback.Channel
import ScriptedFeed.Playback.Config
import ScriptedFeed.Playback.Document
import ScriptedFeed.Playback.Schedule
import ScriptedFeed.Playback.Session
import ScriptedFeed.Playback.Speed
import ScriptedFeed.Playback.Timeline
import ScriptedFeed.Program.Preparation
import ScriptedFeed.Program.Run
import ScriptedFeed.Proofs.CommandLine.Options
import ScriptedFeed.Proofs.Csv.Decoding
import ScriptedFeed.Proofs.Csv.Lines
import ScriptedFeed.Proofs.Csv.Reading
import ScriptedFeed.Proofs.Csv.Spelling
import ScriptedFeed.Proofs.Csv.Table
import ScriptedFeed.Proofs.Display.Columns
import ScriptedFeed.Proofs.Display.Cutting
import ScriptedFeed.Proofs.Display.Frame
import ScriptedFeed.Proofs.Display.Rows
import ScriptedFeed.Proofs.Display.Terminal
import ScriptedFeed.Proofs.Display.Transcript
import ScriptedFeed.Proofs.Display.Watch
import ScriptedFeed.Proofs.Display.Window
import ScriptedFeed.Proofs.Feed.Buffer
import ScriptedFeed.Proofs.Feed.Category
import ScriptedFeed.Proofs.Feed.Document
import ScriptedFeed.Proofs.Instant.Calendar
import ScriptedFeed.Proofs.Instant.Timestamp
import ScriptedFeed.Proofs.Json.Accuracy
import ScriptedFeed.Proofs.Json.Exact
import ScriptedFeed.Proofs.Json.Float
import ScriptedFeed.Proofs.Json.Gathering
import ScriptedFeed.Proofs.Json.Grammar
import ScriptedFeed.Proofs.Json.Members
import ScriptedFeed.Proofs.Json.Number
import ScriptedFeed.Proofs.Json.Numeral
import ScriptedFeed.Proofs.Json.Pair
import ScriptedFeed.Proofs.Json.Parts
import ScriptedFeed.Proofs.Json.Precision
import ScriptedFeed.Proofs.Json.Record
import ScriptedFeed.Proofs.Json.Separators
import ScriptedFeed.Proofs.Json.Skip
import ScriptedFeed.Proofs.Json.Text
import ScriptedFeed.Proofs.Json.Value
import ScriptedFeed.Proofs.Number.Digits
import ScriptedFeed.Proofs.Number.Integer
import ScriptedFeed.Proofs.Number.Interval
import ScriptedFeed.Proofs.Number.Magnitude
import ScriptedFeed.Proofs.Number.Nearest
import ScriptedFeed.Proofs.Number.Numeral
import ScriptedFeed.Proofs.Number.Rounding
import ScriptedFeed.Proofs.Number.Shortest
import ScriptedFeed.Proofs.Number.Value
import ScriptedFeed.Proofs.Playback.Accuracy
import ScriptedFeed.Proofs.Playback.Content
import ScriptedFeed.Proofs.Playback.Course
import ScriptedFeed.Proofs.Playback.Delay
import ScriptedFeed.Proofs.Playback.Duration
import ScriptedFeed.Proofs.Playback.Ending
import ScriptedFeed.Proofs.Playback.Followers
import ScriptedFeed.Proofs.Playback.Progress
import ScriptedFeed.Proofs.Playback.Refusal
import ScriptedFeed.Proofs.Playback.Schedule
import ScriptedFeed.Proofs.Playback.Session
import ScriptedFeed.Proofs.Playback.Speed
import ScriptedFeed.Proofs.Playback.Timers
import ScriptedFeed.Proofs.Playback.Waiting
import ScriptedFeed.Proofs.Program.Run
import ScriptedFeed.Proofs.Script.Agreement
import ScriptedFeed.Proofs.Script.Columns
import ScriptedFeed.Proofs.Script.DelayCell
import ScriptedFeed.Proofs.Script.Detection
import ScriptedFeed.Proofs.Script.Document
import ScriptedFeed.Proofs.Script.Layout
import ScriptedFeed.Proofs.Script.LineNumbers
import ScriptedFeed.Proofs.Script.Reading
import ScriptedFeed.Proofs.Script.Rows
import ScriptedFeed.Proofs.Script.Sample
import ScriptedFeed.Proofs.Script.Spelling
import ScriptedFeed.Proofs.Script.Table
import ScriptedFeed.Proofs.Settings.Acceptance
import ScriptedFeed.Proofs.Settings.Document
import ScriptedFeed.Proofs.Settings.Loading
import ScriptedFeed.Proofs.Settings.RoundTrip
import ScriptedFeed.Proofs.Settings.Saving
import ScriptedFeed.Proofs.Settings.Store
import ScriptedFeed.Proofs.Storage.Directories
import ScriptedFeed.Proofs.Storage.FileTree
import ScriptedFeed.Proofs.Text.CutCharacter
import ScriptedFeed.Proofs.Text.Utf8
import ScriptedFeed.Script.Basic
import ScriptedFeed.Script.Document
import ScriptedFeed.Script.Error
import ScriptedFeed.Script.Format
import ScriptedFeed.Script.Table
import ScriptedFeed.Settings.Basic
import ScriptedFeed.Settings.Store
import ScriptedFeed.Storage.FileTree
import ScriptedFeed.Storage.Path
import ScriptedFeed.Text.Alphanumeric
import ScriptedFeed.Text.Blank
import ScriptedFeed.Text.Bytes
import ScriptedFeed.Text.Cased
import ScriptedFeed.Text.CodeRanges
import ScriptedFeed.Text.ControlSequence
import ScriptedFeed.Text.Extender
import ScriptedFeed.Text.Location
import ScriptedFeed.Text.Lowercase
import ScriptedFeed.Text.Pattern
import ScriptedFeed.Text.Printable
import ScriptedFeed.Text.Quoted
import ScriptedFeed.Text.Similarity
import ScriptedFeed.Text.Utf8
import ScriptedFeed.Text.Width
