import Mathlib.Data.List.TakeWhile
import ScriptedFeed.Proofs.Display.Columns

/-!
# What a terminal does with what it receives

A terminal is a sheet of rows, each a sequence of cells, and a cursor. It receives characters one by
one: some are drawn at the cursor, into as many cells as they take columns, over what was there;
others move the cursor or belong to control sequences, of which a number and a letter say what is to
be done. A character that does not fit into its row goes to the start of the next one, and a
character without a column of its own joins the cell before the cursor. The sheet has no last row.

The terminal knows nothing of the commands that are sent to it. That their spellings do what the
commands are meant to do is proved here, so that everything else can be said about commands.
-/

namespace ScriptedFeed

/-- What a terminal has received of a control sequence. -/
inductive Reception where
  /-- Nothing: the next character is text. -/
  | text
  | escape
  /-- The sequence up to the letter that ends it. -/
  | sequence (parameters : List Char)
deriving DecidableEq, Repr

structure Terminal where
  /-- The number of cells that a row has. -/
  columns : Nat
  /-- For each row, from the top, the characters in its cells up to the last one in use. -/
  rows : Nat → List (List Char)
  /-- The row of the cursor. -/
  row : Nat
  /-- The cell of the cursor; after the last one the cursor stands until something is drawn. -/
  column : Nat
  reception : Reception

namespace Terminal

/-- The cells of a row after a character is drawn from a column on, over as many as it takes. -/
def drawnOver (cells : List (List Char)) (column width : Nat) (character : Char) :
    List (List Char) :=
  cells.take column ++ List.replicate (column - cells.length) [] ++
    [character] :: List.replicate (width - 1) [] ++ cells.drop (column + width)

/-- The terminal with other cells in the row of the cursor, and the cursor in another column. -/
def write (terminal : Terminal) (cells : List (List Char)) (column : Nat) : Terminal :=
  { terminal with rows := Function.update terminal.rows terminal.row cells, column }

/-- The terminal with the cursor where there is room for so many columns. -/
def makeRoom (terminal : Terminal) (width : Nat) : Terminal :=
  if terminal.columns < terminal.column + width then
    { terminal with row := terminal.row + 1, column := 0 }
  else terminal

/-- The terminal after a character is drawn. -/
def draw (terminal : Terminal) (character : Char) : Terminal :=
  let width := Text.columns character
  if width = 0 then
    let cells := terminal.rows terminal.row
    terminal.write (cells.modify (terminal.column - 1) (· ++ [character])) terminal.column
  else
    let roomy := terminal.makeRoom width
    roomy.write (drawnOver (roomy.rows roomy.row) roomy.column width character)
      (roomy.column + width)

def returnCarriage (terminal : Terminal) : Terminal :=
  { terminal with column := 0 }

def feedLine (terminal : Terminal) : Terminal :=
  { terminal with row := terminal.row + 1 }

/-- The terminal after the cursor is moved up; it is always moved by a row at least. -/
def moveUp (terminal : Terminal) (count : Nat) : Terminal :=
  { terminal with row := terminal.row - max 1 count }

/-- The terminal after the cursor is moved to a column, which are counted from one. -/
def moveToColumn (terminal : Terminal) (number : Nat) : Terminal :=
  { terminal with column := max 1 number - 1 }

/-- The terminal after everything from the cursor on is cleared. -/
def clearBelow (terminal : Terminal) : Terminal :=
  { terminal with
    rows := fun row =>
      if row < terminal.row then terminal.rows row
      else if row = terminal.row then (terminal.rows row).take terminal.column
      else [] }

/-- Whether a character ends a control sequence. -/
def endsSequence (character : Char) : Bool :=
  0x40 ≤ character.toNat && character.toNat ≤ 0x7E

/--
The terminal after a control sequence. Those that choose a colour change no character, and others
than these are not sent by a window.
-/
def obey (terminal : Terminal) (parameters : List Char) (letter : Char) : Terminal :=
  let number := Nat.ofDigitChars 10 (parameters.takeWhile Char.isDigit) 0
  if letter = 'A' then terminal.moveUp number
  else if letter = 'G' then terminal.moveToColumn number
  else if letter = 'J' ∧ number = 0 then terminal.clearBelow
  else terminal

/-- The terminal after one more character. -/
def receiveChar (terminal : Terminal) (character : Char) : Terminal :=
  match terminal.reception with
  | .text =>
      if character = '\x1b' then { terminal with reception := .escape }
      else if character = '\r' then terminal.returnCarriage
      else if character = '\n' then terminal.feedLine
      else if Text.isControl character then terminal
      else terminal.draw character
  | .escape =>
      { terminal with reception := if character = '[' then .sequence [] else .text }
  | .sequence parameters =>
      if endsSequence character then
        { terminal with reception := .text }.obey parameters character
      else { terminal with reception := .sequence (parameters ++ [character]) }

/-- The terminal after some more characters. -/
def receive (terminal : Terminal) (text : List Char) : Terminal :=
  text.foldl receiveChar terminal

/-- The characters of a row, from the first column to the last. -/
def rowText (terminal : Terminal) (row : Nat) : List Char :=
  (terminal.rows row).flatten

/-- What a command is meant to do. -/
def perform (terminal : Terminal) : Command → Terminal
  | .print text => text.toList.foldl draw terminal
  | .moveUp rows => terminal.moveUp rows
  | .toFirstColumn => terminal.returnCarriage
  | .clearBelow => terminal.clearBelow
  | .setColor _ => terminal
  | .resetColor => terminal
  | .nextRow => terminal.returnCarriage.feedLine
  | .endLine => terminal.feedLine

variable {terminal : Terminal} {text parameters : List Char} {character : Char}

section Reception

theorem receive_append (terminal : Terminal) (text more : List Char) :
    terminal.receive (text ++ more) = (terminal.receive text).receive more :=
  List.foldl_append

@[simp]
theorem reception_draw : (terminal.draw character).reception = terminal.reception := by
  simp only [draw, makeRoom]
  split_ifs <;> rfl

theorem reception_foldl_draw (terminal : Terminal) (text : List Char) :
    (text.foldl draw terminal).reception = terminal.reception := by
  induction text generalizing terminal with
  | nil => rfl
  | cons character text ih => exact (ih _).trans reception_draw

theorem reception_perform (terminal : Terminal) (command : Command) :
    (terminal.perform command).reception = terminal.reception := by
  cases command with
  | print text => exact reception_foldl_draw terminal text.toList
  | _ => rfl

/-- Characters that control nothing are drawn. -/
theorem receive_eq_foldl_draw (isReady : terminal.reception = .text)
    (printable : ∀ character ∈ text, Text.isControl character = false) :
    terminal.receive text = text.foldl draw terminal := by
  induction text generalizing terminal with
  | nil => rfl
  | cons character text ih =>
      rcases List.forall_mem_cons.1 printable with ⟨character_printable, text_printable⟩
      have differs (control : Char) (controls : Text.isControl control) : character ≠ control := by
        rintro rfl
        simp [controls] at character_printable
      have drawn : terminal.receiveChar character = terminal.draw character := by
        simp [receiveChar, isReady, character_printable, differs '\x1b' (by decide),
          differs '\r' (by decide), differs '\n' (by decide)]
      rw [receive, List.foldl_cons, drawn]
      exact ih (reception_draw.trans isReady) text_printable

theorem receive_parameters {earlier : List Char}
    (isSequence : terminal.reception = .sequence earlier)
    (goes_on : ∀ character ∈ parameters, endsSequence character = false) :
    terminal.receive parameters =
      { terminal with reception := .sequence (earlier ++ parameters) } := by
  induction parameters generalizing terminal earlier with
  | nil => simp [receive, ← isSequence]
  | cons character parameters ih =>
      rcases List.forall_mem_cons.1 goes_on with ⟨character_goes_on, parameters_go_on⟩
      have received : terminal.receiveChar character =
          { terminal with reception := .sequence (earlier ++ [character]) } := by
        simp only [receiveChar, isSequence, character_goes_on, Bool.false_eq_true, if_false]
      rw [receive, List.foldl_cons, received]
      refine (ih rfl parameters_go_on).trans ?_
      rw [List.append_assoc, List.singleton_append]

/-- A control sequence is obeyed at its last letter. -/
theorem receive_sequence (isReady : terminal.reception = .text) (letter : Char)
    (goes_on : ∀ character ∈ parameters, endsSequence character = false)
    (ends : endsSequence letter) :
    terminal.receive (Command.introducer.toList ++ parameters ++ [letter]) =
      terminal.obey parameters letter := by
  have introduced : terminal.receive Command.introducer.toList =
      { terminal with reception := .sequence [] } := by
    simp [receive, receiveChar, Command.introducer, isReady]
  rw [receive_append, receive_append, introduced, receive_parameters rfl goes_on]
  simp only [receive, List.foldl_cons, List.foldl_nil, receiveChar, ends, if_true, List.nil_append]
  rw [← isReady]

end Reception

section Spelling

theorem endsSequence_of_isDigit (isDigit : character.isDigit) :
    endsSequence character = false := by
  have bounds := isDigit_iff_bounds.1 isDigit
  simp only [endsSequence, Bool.and_eq_false_iff, decide_eq_false_iff_not]
  omega

theorem toList_toString (number : Nat) : (toString number).toList = decimalDigits number := by
  rw [Nat.toString_eq_ofList_toDigits, String.toList_ofList, decimalDigits]

theorem takeWhile_isDigit_decimalDigits (number : Nat) :
    (decimalDigits number).takeWhile Char.isDigit = decimalDigits number := by
  rw [List.takeWhile_eq_self_iff]
  exact fun digit => isDigit_of_mem_decimalDigits

/-- A command that is spelled as a control sequence is obeyed at the letter of the sequence. -/
theorem receive_of_spelled (isReady : terminal.reception = .text) {command : Command}
    (parameters : List Char) (letter : Char)
    (spelled : command.spelling.toList = Command.introducer.toList ++ parameters ++ [letter])
    (goes_on : parameters.all fun character => !endsSequence character)
    (ends : endsSequence letter) :
    terminal.receive command.spelling.toList = terminal.obey parameters letter := by
  rw [spelled]
  exact receive_sequence isReady letter (by simpa using goes_on) ends

theorem receive_moveUp (isReady : terminal.reception = .text) (count : Nat) :
    terminal.receive (Command.moveUp count).spelling.toList = terminal.moveUp count := by
  have spelled : (Command.moveUp count).spelling.toList =
      Command.introducer.toList ++ decimalDigits count ++ ['A'] := by
    rw [Command.spelling, String.toList_append, String.toList_append, toList_toString]
    rfl
  have digits_go_on : (decimalDigits count).all fun digit => !endsSequence digit := by
    rw [List.all_eq_true]
    intro digit digit_mem
    rw [endsSequence_of_isDigit (isDigit_of_mem_decimalDigits digit_mem), Bool.not_false]
  rw [receive_of_spelled isReady _ _ spelled digits_go_on rfl, obey,
    takeWhile_isDigit_decimalDigits, ofDigitChars_decimalDigits, if_pos rfl]

theorem receive_setColor (isReady : terminal.reception = .text) (color : Color) :
    terminal.receive (Command.setColor color).spelling.toList = terminal := by
  have spelled : (Command.setColor color).spelling.toList = Command.introducer.toList ++
      ("38;5;".toList ++ decimalDigits color.paletteIndex) ++ ['m'] := by
    cases color <;> decide
  rw [receive_of_spelled isReady _ _ spelled (by cases color <;> rfl) rfl]
  simp [obey]

/-- The spelling of a command does what the command is meant to do. -/
theorem receive_spelling (isReady : terminal.reception = .text) (command : Command)
    (printable : ∀ text, command = .print text → ∀ character ∈ text.toList,
      Text.isControl character = false) :
    terminal.receive command.spelling.toList = terminal.perform command := by
  cases command with
  | print text => exact receive_eq_foldl_draw isReady (printable text rfl)
  | moveUp rows => exact receive_moveUp isReady rows
  | toFirstColumn => exact receive_of_spelled isReady ['1'] 'G' (by decide) rfl rfl
  | clearBelow => exact receive_of_spelled isReady [] 'J' (by decide) rfl rfl
  | setColor color => exact receive_setColor isReady color
  | resetColor => exact receive_of_spelled isReady ['3', '9'] 'm' (by decide) rfl rfl
  | nextRow => simp [Command.spelling, receive, receiveChar, isReady, perform, returnCarriage]
  | endLine => simp [Command.spelling, receive, receiveChar, isReady, perform]

theorem toList_spellAll (commands : List Command) : (Command.spellAll commands).toList =
    commands.flatMap fun command => command.spelling.toList := by
  rw [Command.spellAll, String.toList_join, List.flatMap_map]

theorem receive_spellAll (isReady : terminal.reception = .text) (commands : List Command)
    (printable : ∀ text, .print text ∈ commands → ∀ character ∈ text.toList,
      Text.isControl character = false) :
    terminal.receive (Command.spellAll commands).toList = commands.foldl perform terminal := by
  rw [toList_spellAll]
  induction commands generalizing terminal with
  | nil => rfl
  | cons command commands ih =>
      have spelled : terminal.receive command.spelling.toList = terminal.perform command := by
        apply receive_spelling isReady
        rintro text rfl
        exact printable text List.mem_cons_self
      rw [List.flatMap_cons, receive_append, spelled, List.foldl_cons]
      apply ih ((reception_perform terminal command).trans isReady)
      exact fun text text_mem => printable text (List.mem_cons_of_mem _ text_mem)

end Spelling

end Terminal

end ScriptedFeed
