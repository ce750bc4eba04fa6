/-!
# Text without control sequences

A terminal takes some characters as orders rather than as text. A control character is an order of
its own, an escape character starts an order of several characters. Text that comes from outside is
freed from such orders before it is shown. Line ends, tabs and the other blank control characters
stay, even between the characters of an order, as they are carried out there and then.
-/

namespace ScriptedFeed

namespace Text

/-- Which part of an order comes next. -/
inductive ControlState where
  /-- No order has been started. -/
  | ground
  /-- The kind of order, after the escape character. -/
  | kind
  /-- The end of an order that goes on after its kind. -/
  | finish
  /-- Parameters and the letter that ends them. -/
  | parameters
  /-- A text for the terminal that the bell character ends. -/
  | title
  /-- A text for a device. -/
  | message
deriving DecidableEq, Repr

/-- The control characters that take the place of a blank. -/
def isBlankControl (character : Char) : Bool :=
  character = '\t' || character = '\n' || character = '\x0c' || character = '\r'

/-- Whether a character is text wherever no order has been started. -/
def isOrdinary (character : Char) : Bool :=
  isBlankControl character || (0x20 ≤ character.toNat && character.toNat ≠ 0x7F)

namespace ControlState

/-- Whether a character is shown in spite of an order that has been started. -/
def lets (state : ControlState) (character : Char) : Bool :=
  match state with
  | ground => isOrdinary character
  | kind | finish | parameters => isBlankControl character
  | title | message => false

/-- The state after the character that tells the kind of order. -/
def ofKind (character : Char) : ControlState :=
  match character with
  | '[' => parameters
  | ']' => title
  | 'P' | 'X' | '^' | '_' => message
  | _ =>
      if 0x20 ≤ character.toNat ∧ character.toNat ≤ 0x2F then finish
      else if 0x30 ≤ character.toNat ∧ character.toNat ≤ 0x7E then ground
      else kind

/-- Whether a byte of the character's encoding is the one that ends a text for a device. -/
def holdsTerminator (character : Char) : Bool :=
  (String.utf8EncodeChar character).contains 0x9C

/-- The state after a character that is not shown. -/
def after (state : ControlState) (character : Char) : ControlState :=
  if character = '\x1b' then kind
  else if character = '\x18' ∨ character = '\x1a' then ground
  else
    match state with
    | ground => ground
    | kind => ofKind character
    | finish =>
        if 0x30 ≤ character.toNat ∧ character.toNat ≤ 0x7E then ground else finish
    | parameters =>
        if 0x40 ≤ character.toNat ∧ character.toNat ≤ 0x7E then ground else parameters
    | title => if character = '\x07' then ground else title
    | message => if holdsTerminator character then ground else message

end ControlState

/--
The characters of a text that are shown. After one that is shown all ordinary ones are, up to the
next control character; an order that was interrupted goes on after that.
-/
def shownFrom : ControlState → Bool → List Char → List Char
  | _, _, [] => []
  | state, isShowing, character :: rest =>
      if (isShowing && isOrdinary character) || state.lets character then
        let state := if character.toNat < 0x80 then state else .ground
        character :: shownFrom state true rest
      else shownFrom (state.after character) false rest

/-- A text without control characters and sequences; one that is not complete is left out too. -/
def withoutControls (text : String) : String :=
  String.ofList (shownFrom .ground false text.toList)

end Text

end ScriptedFeed
