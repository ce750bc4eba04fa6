import ScriptedFeed.Proofs.Display.Terminal
import ScriptedFeed.Script.Document

/-!
# Rows of a frame are counted by its lines

A window on a terminal counts a row for each line of a frame, and moves up by the rows of the last
frame before it draws the next one. A row is left by a line feed, so the count is right as long as
what is shown of a line holds none itself. The count stops at the largest number of rows that a
terminal can be told to move up by.
-/

namespace ScriptedFeed

namespace Command

/-- The number of line feeds that some commands send. -/
def lineFeeds (commands : List Command) : Nat :=
  (spellAll commands).toList.count '\n'

/-- The number of rows that a command moves the cursor up by. -/
def rowsUp : Command → Nat
  | moveUp rows => rows
  | _ => 0

/-- The number of rows that some commands move the cursor up by together. -/
def allRowsUp (commands : List Command) : Nat :=
  (commands.map rowsUp).sum

variable {commands more : List Command} {command : Command}

@[simp]
theorem lineFeeds_nil : lineFeeds [] = 0 :=
  rfl

theorem lineFeeds_cons (command : Command) (commands : List Command) :
    lineFeeds (command :: commands) = command.spelling.toList.count '\n' + lineFeeds commands := by
  simp only [lineFeeds, Terminal.toList_spellAll, List.flatMap_cons, List.count_append]

theorem lineFeeds_append (commands more : List Command) :
    lineFeeds (commands ++ more) = lineFeeds commands + lineFeeds more := by
  simp only [lineFeeds, Terminal.toList_spellAll, List.flatMap_append, List.count_append]

theorem lineFeeds_flatMap {α : Type} (items : List α) (commandsOf : α → List Command) :
    lineFeeds (items.flatMap commandsOf) =
      (items.map fun item => lineFeeds (commandsOf item)).sum := by
  induction items with
  | nil => rfl
  | cons item items ih => rw [List.flatMap_cons, lineFeeds_append, ih, List.map_cons, List.sum_cons]

theorem count_spelling_setColor (color : Color) :
    (setColor color).spelling.toList.count '\n' = 0 := by
  cases color <;> decide

theorem count_spelling_moveUp (rows : Nat) : (moveUp rows).spelling.toList.count '\n' = 0 := by
  rw [List.count_eq_zero]
  intro feed_mem
  rw [spelling, String.toList_append, String.toList_append, Terminal.toList_toString,
    List.mem_append, List.mem_append] at feed_mem
  rcases feed_mem with (introducer_mem | digit_mem) | letter_mem
  · exact absurd introducer_mem (by decide)
  · exact absurd (isDigit_of_mem_decimalDigits digit_mem) (by decide)
  · exact absurd letter_mem (by decide)

end Command

namespace Window

open Command

variable {window : Window} {inColor : Bool} {lines : List FeedLine} {line : FeedLine}

/-- Besides the line feeds of its text, a row holds the one that ends it. -/
theorem lineFeeds_rowCommands (window : Window) (inColor : Bool) (line : FeedLine) :
    lineFeeds (window.rowCommands inColor line) = (window.rowText line).toList.count '\n' + 1 := by
  have reset_eq : resetColor.spelling.toList.count '\n' = 0 := by decide
  have next_eq : nextRow.spelling.toList.count '\n' = 1 := by decide
  cases inColor with
  | true =>
      simp only [rowCommands, if_true, lineFeeds_cons, lineFeeds_nil, count_spelling_setColor,
        reset_eq, next_eq, Nat.zero_add, Nat.add_zero]
      rfl
  | false =>
      simp only [rowCommands, Bool.false_eq_true, if_false, lineFeeds_cons, lineFeeds_nil, next_eq,
        Nat.add_zero]
      rfl

theorem lineFeeds_eraseCommands (window : Window) : lineFeeds window.eraseCommands = 0 := by
  have column_eq : toFirstColumn.spelling.toList.count '\n' = 0 := by decide
  have below_eq : clearBelow.spelling.toList.count '\n' = 0 := by decide
  simp only [eraseCommands]
  split_ifs
  · rfl
  · simp only [lineFeeds_cons, lineFeeds_nil, count_spelling_moveUp, column_eq, below_eq]

/-- A frame sends a line feed for each of its lines, and those that are in their texts. -/
theorem lineFeeds_renderCommands (isLive : window.mode = .live inColor) (lines : List FeedLine) :
    lineFeeds (window.renderCommands lines) =
      (lines.map fun line => (window.rowText line).toList.count '\n' + 1).sum := by
  simp only [renderCommands, isLive, lineFeeds_append, lineFeeds_eraseCommands, lineFeeds_flatMap,
    lineFeeds_rowCommands, Nat.zero_add]

theorem lineFeeds_renderCommands_of_unbroken (isLive : window.mode = .live inColor)
    (unbroken : ∀ line ∈ lines, '\n' ∉ (window.rowText line).toList) :
    lineFeeds (window.renderCommands lines) = lines.length := by
  have ones : (lines.map fun line => (window.rowText line).toList.count '\n' + 1) =
      lines.map fun _ => 1 := by
    apply List.map_congr_left
    intro line line_mem
    rw [List.count_eq_zero.2 (unbroken line line_mem)]
  rw [lineFeeds_renderCommands isLive, ones, List.map_const', List.sum_replicate, smul_eq_mul,
    Nat.mul_one]

theorem allRowsUp_rowCommands (window : Window) (inColor : Bool) (line : FeedLine) :
    allRowsUp (window.rowCommands inColor line) = 0 := by
  cases inColor <;> rfl

theorem allRowsUp_eraseCommands (window : Window) :
    allRowsUp window.eraseCommands = window.drawnRows := by
  simp only [eraseCommands]
  split_ifs with isEmpty
  · exact isEmpty.symm
  · rfl

/-- A frame moves up by the rows that the window has counted, and by no others. -/
theorem allRowsUp_renderCommands (isLive : window.mode = .live inColor) (lines : List FeedLine) :
    allRowsUp (window.renderCommands lines) = window.drawnRows := by
  have rows_eq : allRowsUp (lines.flatMap (window.rowCommands inColor)) = 0 := by
    induction lines with
    | nil => rfl
    | cons line lines ih =>
        have row_eq := allRowsUp_rowCommands window inColor line
        rw [allRowsUp] at row_eq ih ⊢
        rw [List.flatMap_cons, List.map_append, List.sum_append, row_eq, ih]
  have erase_eq := allRowsUp_eraseCommands window
  rw [allRowsUp] at rows_eq erase_eq ⊢
  simp only [renderCommands, isLive, List.map_append, List.sum_append, rows_eq, erase_eq,
    Nat.add_zero]

/-- The frame after a frame moves up by the lines of that frame, whatever width is set between. -/
theorem allRowsUp_after (isLive : window.mode = .live inColor) (width? : Option UInt16)
    (lines next : List FeedLine) :
    allRowsUp (((window.afterRender lines).setWidth width?).renderCommands next) =
      min lines.length mostRows := by
  have after_eq : window.afterRender lines =
      { window with drawnRows := min lines.length mostRows } := by
    simp only [afterRender, isLive]
  have live : (window.afterRender lines |>.setWidth width?).mode = .live inColor := by
    rw [after_eq]
    exact isLive
  rw [allRowsUp_renderCommands live, after_eq]
  rfl

end Window

/--
A window on a terminal shows some lines of which, after they are cut, none holds a line feed. Then
each line sends one line feed, so the frame sends as many as it has lines; and whatever is shown
next, at whatever width, moves up by that many rows, or by the largest number of rows that a window
counts if there were more.
-/
theorem Window.frame_rows_are_counted (window : Window) (inColor : Bool) (lines : List FeedLine)
    (isLive : window.mode = .live inColor)
    (unbroken : ∀ line ∈ lines, '\n' ∉ (window.rowText line).toList) :
    (∀ line ∈ lines, Command.lineFeeds (window.rowCommands inColor line) = 1) ∧
    (window.render lines).toList.count '\n' = lines.length ∧
    ∀ width? next,
      Command.allRowsUp (((window.afterRender lines).setWidth width?).renderCommands next) =
        min ((window.render lines).toList.count '\n') mostRows := by
  have count_eq : (window.render lines).toList.count '\n' = lines.length :=
    Window.lineFeeds_renderCommands_of_unbroken isLive unbroken
  refine ⟨?_, count_eq, ?_⟩
  · intro line line_mem
    rw [Window.lineFeeds_rowCommands, List.count_eq_zero.2 (unbroken line line_mem)]
  · intro width? next
    rw [count_eq]
    exact Window.allRowsUp_after isLive width? lines next

/-- The second line holds a line feed, but only after the columns that are shown of it. -/
theorem Window.frame_rows_are_counted_up_to_cut :
    let window := (Window.create (.live true) false).setWidth (some 6)
    let lines := [FeedLine.ofText "[WARN] w" .epoch, FeedLine.ofText "abc\nd" .epoch]
    (window.render lines).toList.count '\n' = 2 ∧
      Command.allRowsUp (((window.afterRender lines).setWidth none).renderCommands []) = 2 := by
  intro window lines
  have unbroken : ∀ line ∈ lines, '\n' ∉ (window.rowText line).toList := by decide +kernel
  obtain ⟨-, count_eq, rows_eq⟩ :=
    Window.frame_rows_are_counted window true lines rfl unbroken
  exact ⟨count_eq, by rw [rows_eq none [], count_eq]; decide⟩

/--
A line feed in a text of a document is sent as it is, so a frame of one line takes two rows, and
the next one moves up by one. A frame of more lines than a window counts takes a row for each of
them, and the next one moves up by fewer.
-/
theorem Window.frame_rows_miscounted :
    (∃ script line,
      Script.ofDocument (Text.bytesOf
          "\x7b\"entries\": [\x7b\"text\": \"a\\nb\", \"delay\": 0\x7d]\x7d") = .ok script ∧
      script.scheduled.map (·.text) = [line] ∧
      let window := Window.create (.live false) false
      let lines := [FeedLine.ofText line .epoch]
      (window.render lines).toList.count '\n' = 2 ∧
        Command.allRowsUp ((window.afterRender lines).renderCommands lines) = 1) ∧
    (let window := Window.create (.live false) false
      let lines := List.replicate 65536 (FeedLine.ofText "a" .epoch)
      (window.render lines).toList.count '\n' = 65536 ∧
        Command.allRowsUp ((window.afterRender lines).renderCommands lines) = 65535) := by
  refine ⟨⟨⟨[], [⟨"a\nb", 0⟩]⟩, "a\nb", by decide +kernel, rfl, by decide, by decide⟩, ?_⟩
  intro window lines
  have row_unbroken : '\n' ∉ (window.rowText (FeedLine.ofText "a" .epoch)).toList := by decide
  have unbroken : ∀ line ∈ lines, '\n' ∉ (window.rowText line).toList := by
    intro line line_mem
    rw [List.eq_of_mem_replicate line_mem]
    exact row_unbroken
  have length_eq : lines.length = 65536 := List.length_replicate
  constructor
  · rw [← length_eq]
    exact Window.lineFeeds_renderCommands_of_unbroken rfl unbroken
  · have live : (window.afterRender lines).mode = .live false := rfl
    rw [Window.allRowsUp_renderCommands live]
    change min lines.length mostRows = 65535
    rw [length_eq]
    rfl

end ScriptedFeed
