import ScriptedFeed.Notice.Filter
import ScriptedFeed.Text.Quoted

/-!
# The log

Notices that pass a filter are written to a log, each after the time, its level and its source.
Characters that could steer a terminal are spelled out, so that no text of a script can do so.
-/

namespace ScriptedFeed

namespace Notice

def logChar (character : Char) : List Char :=
  match character with
  | '\x1b' => ['\\', 'x', '1', 'b']
  | '\x07' => ['\\', 'x', '0', '7']
  | '\x08' => ['\\', 'x', '0', '8']
  | '\x0c' => ['\\', 'x', '0', 'c']
  | '\x7f' => ['\\', 'x', '7', 'f']
  | _ =>
      if 0x80 ≤ character.toNat ∧ character.toNat ≤ 0x9F then
        ['\\', 'u', '\x7b'] ++ Text.hexadecimal character.toNat ++ ['\x7d']
      else [character]

/-- The name of a level, filled up with blanks on the left to the length of the longest one. -/
def levelColumn (level : Level) : String :=
  String.ofList (List.replicate (5 - level.name.length) ' ') ++ level.name

/-- A notice as it is written in the log at a time. -/
def logText (notice : Notice) (time : String) : String :=
  time ++ " " ++ levelColumn notice.level ++ " " ++ notice.source ++ ": " ++
    String.ofList (notice.text.toList.flatMap logChar)

end Notice

namespace NoticeFilter

/-- What is written to the log when some notices are reported at a time. -/
def log (filter : NoticeFilter) (time : String) (notices : List Notice) : List String :=
  (notices.filter filter.shows).map fun notice => notice.logText time

end NoticeFilter

end ScriptedFeed
