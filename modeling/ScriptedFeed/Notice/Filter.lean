import ScriptedFeed.Notice
import ScriptedFeed.Number.Decimal
import ScriptedFeed.Text.Alphanumeric
import ScriptedFeed.Text.Blank
import ScriptedFeed.Text.Pattern

/-!
# Which notices are shown

A user chooses by a list of rules, parted by commas, which notices are shown. A rule is a level, a
source, or a source and a level with an equals sign between; it lets pass notices of at least its
level from all sources that start with the given text. Brackets after the source, or in its place,
narrow a rule down: to what happens within a named activity, or to what has a field that stands in
braces. A notice happens within no activity, and its only field is its message, so that a rule for
an activity, for another field, or for a value of a field concerns no notice of this program.

Of the rules that concern a notice the one with the longest source decides; of equal sources the
one that is narrowed down, and of equal rules the last.
-/

namespace ScriptedFeed

/-- A rule of a filter that can concern a notice. -/
structure NoticeRule where
  /-- What a source must start with. -/
  source : String
  /-- A field that a notice must have, if the rule is narrowed down. -/
  field? : Option String
  /-- The lowest level that passes, if any does. -/
  lowest? : Option Level
deriving DecidableEq, Repr

/-- The rules that decide which notices are shown. -/
structure NoticeFilter where
  rules : List NoticeRule
deriving DecidableEq, Repr

namespace NoticeRule

/-- The level that a number stands for, from none to all. -/
def lowestOfNumber? : Nat → Option (Option Level)
  | 0 => some none
  | 1 => some (some .error)
  | 2 => some (some .warn)
  | 3 => some (some .info)
  | 4 => some (some .debug)
  | 5 => some (some .trace)
  | _ => none

/-- The level that a word stands for, in any letter case. -/
def lowestOfWord? (word : String) : Option (Option Level) :=
  match word.toLower with
  | "off" => some none
  | "error" => some (some .error)
  | "warn" => some (some .warn)
  | "info" => some (some .info)
  | "debug" => some (some .debug)
  | "trace" => some (some .trace)
  | _ => none

/-- The level that a text stands for. -/
def readLowest? (text : List Char) : Option (Option Level) :=
  match readUnsigned text with
  | .ok number => lowestOfNumber? number.toNat
  | .error _ => lowestOfWord? (String.ofList text)

/-- The level after an equals sign; without one all levels pass. -/
def lowestAfterEquals? (text : List Char) : Option (Option Level) :=
  if text.isEmpty then some (some .trace) else readLowest? text

/-- Whether a rule may start with a character. -/
def isStart (character : Char) : Bool :=
  Text.isAlphanumeric character || "-:_[".toList.contains character

/-- A field in braces: its name, and the pattern that its value has to follow, if there is one. -/
structure Field where
  name : String
  pattern? : Option (List Char)
deriving DecidableEq, Repr

/-- The field that a text stands for; of several equals signs only the first two part the text. -/
def Field.ofText (text : List Char) : Field :=
  let name := String.ofList (text.takeWhile (· ≠ '='))
  match text.dropWhile (· ≠ '=') with
  | [] => ⟨name, none⟩
  | _ :: rest => ⟨name, some (rest.takeWhile (· ≠ '='))⟩

/-- Whether the value wanted of a field is a number or a well-formed pattern. -/
def Field.isWellFormed (field : Field) : Bool :=
  match field.pattern? with
  | none => true
  | some pattern => (readFloat pattern).toBool || Pattern.isWellFormed pattern

/-- What stands in brackets. -/
structure Scope where
  /-- Whether an activity is named, which may be by nothing at all. -/
  hasActivity : Bool
  /-- Where the text of a field starts and ends within the rule, if there is a field. -/
  field? : Option (Nat × Nat)
deriving DecidableEq, Repr

/--
Reads what stands in brackets, given how much of the rule stands before it, with what follows the
closing bracket.
-/
def readScope? (start : Nat) (text : List Char) : Option (Scope × List Char) :=
  let name := text.takeWhile fun character => character ≠ ']' && character ≠ '\x7b'
  match text.drop name.length with
  | ']' :: rest => some (⟨true, none⟩, rest)
  | '\x7b' :: field =>
      let fieldStart := start + name.length + 1
      let length := (field.takeWhile (· ≠ '\x7d')).length
      match field.drop length with
      | '\x7d' :: ']' :: rest =>
          if length = 0 then none
          else some (⟨!name.isEmpty, some (fieldStart, fieldStart + length)⟩, rest)
      | _ => none
  | _ => none

/-- The level after the brackets of a rule, given what follows them. -/
def lowestAfterScope? (isBare : Bool) (text : List Char) : Option (Option Level) :=
  match text with
  | [] => some (some .trace)
  | '=' :: level => if isBare then lowestAfterEquals? level else none
  | _ => none

/--
The rules that a part with brackets stands for: none if it is for an activity or a value. The part
is given with the blanks around it. Places are counted from the first character that is not blank
and looked up from the first one of all, so that a field after leading blanks is cut off wrongly.
-/
def ofScopedPart? (part : List Char) : Option (List NoticeRule) :=
  let trimmed := Text.trim part
  let source := trimmed.takeWhile (· ≠ '[')
  match readScope? (source.length + 1) (trimmed.drop (source.length + 1)) with
  | none => none
  | some (scope, rest) =>
      match lowestAfterScope? (trimmed.length = part.length) rest with
      | none => none
      | some lowest? =>
          match scope.field? with
          | none => some []
          | some (start, stop) =>
              let field := Field.ofText ((part.take stop).drop start)
              if !field.isWellFormed then none
              else if scope.hasActivity || field.pattern?.isSome then some []
              else
                some [⟨String.ofList (part.take source.length), some field.name, lowest?⟩]

/-- What a part of a list of rules stands for: nothing if it is malformed, else its rules. -/
def ofPart? (part : List Char) : Option (List NoticeRule) :=
  let trimmed := Text.trim part
  let source := trimmed.takeWhile fun character => character ≠ '=' && character ≠ '['
  if !trimmed.head?.any isStart then none
  else
    match trimmed.drop source.length with
    | '[' :: _ => ofScopedPart? part
    | '=' :: level =>
        if trimmed.length < part.length then none
        else
          (lowestAfterEquals? level).map fun lowest? => [⟨String.ofList source, none, lowest?⟩]
    | _ =>
        match readLowest? part with
        | some lowest? => some [⟨"", none, lowest?⟩]
        | none => some [⟨String.ofList part, none, some .trace⟩]

/-- The only field of a notice. -/
def messageField : String := "message"

/-- Whether the rule is for the notices of a source. -/
def concerns (rule : NoticeRule) (source : String) : Bool :=
  rule.source.toList.isPrefixOf source.toList && rule.field?.all (· = messageField)

/-- Whether a rule decides in place of an earlier one that concerns the same notice. -/
def outranks (rule earlier : NoticeRule) : Bool :=
  earlier.source.length < rule.source.length ||
    (earlier.source.length = rule.source.length && (rule.field?.isSome || earlier.field?.isNone))

end NoticeRule

namespace NoticeFilter

/-- The filter of someone who has chosen nothing: warnings and errors pass. -/
def standard : NoticeFilter :=
  ⟨[⟨"", none, some .warn⟩]⟩

/-- The filter without rules, which lets errors pass. -/
def onlyErrors : NoticeFilter :=
  ⟨[⟨"", none, some .error⟩]⟩

/-- The filter that a list of rules stands for; one malformed rule spoils them all. -/
def ofText (text : String) : NoticeFilter :=
  let parts := (text.toList.splitOn ',').filter fun part => !part.isEmpty
  match parts.mapM NoticeRule.ofPart? with
  | none => standard
  | some [] => onlyErrors
  | some rules => ⟨rules.flatten⟩

/-- The filter that a user has chosen. -/
def ofChoice (text? : Option String) : NoticeFilter :=
  match text? with
  | some text => ofText text
  | none => standard

/-- The rule that decides about a source. -/
def ruleFor? (filter : NoticeFilter) (source : String) : Option NoticeRule :=
  (filter.rules.filter fun rule => rule.concerns source).foldl (fun best? rule =>
    match best? with
    | some best => if rule.outranks best then some rule else some best
    | none => some rule) none

def shows (filter : NoticeFilter) (notice : Notice) : Bool :=
  match (filter.ruleFor? notice.source).bind NoticeRule.lowest? with
  | some lowest => lowest.rank ≤ notice.level.rank
  | none => false

end NoticeFilter

end ScriptedFeed
