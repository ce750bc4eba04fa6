import Mathlib.Data.List.GetD
import ScriptedFeed.Proofs.Display.Terminal

/-!
# A frame takes the place of the last one

A window on a terminal remembers how many rows its last frame took. That is where the cursor stands
below the start of the frame, as long as every line takes one row; and it does, because lines are
cut to a width that the terminal has. So the next frame starts where the last one did, and clears
all of it before it is drawn. A frame without rows is not cleared: a terminal would move up by a row
all the same.
-/

namespace ScriptedFeed

namespace Terminal

variable {terminal : Terminal} {columns : Nat} {above : List (List (List Char))}
  {cells : List (List Char)} {texts : List (List Char)} {text : List Char}

section Draw

@[simp]
theorem write_write (terminal : Terminal) (cells cells' : List (List Char)) (column column' : Nat) :
    (terminal.write cells column).write cells' column' = terminal.write cells' column' := by
  simp [write]

@[simp]
theorem rows_write_self (terminal : Terminal) (cells : List (List Char)) (column : Nat) :
    (terminal.write cells column).rows (terminal.write cells column).row = cells := by
  simp [write]

theorem write_self (terminal : Terminal) :
    terminal.write (terminal.rows terminal.row) terminal.column = terminal := by
  simp [write]

/-- Where a row ends at the cursor, a character that has room is added to it. -/
theorem exists_draw_eq_write {character : Char}
    (length_eq : (terminal.rows terminal.row).length = terminal.column)
    (fits : terminal.column + Text.columns character ≤ terminal.columns)
    (hasCell : 0 < terminal.column ∨ 0 < Text.columns character) :
    ∃ cells, terminal.draw character =
        terminal.write cells (terminal.column + Text.columns character) ∧
      cells.length = terminal.column + Text.columns character ∧
      cells.flatten = terminal.rowText terminal.row ++ [character] := by
  by_cases isMark : Text.columns character = 0
  -- The character joins the last cell of the row, which there is as the cursor is not at its start.
  · refine ⟨(terminal.rows terminal.row).modify (terminal.column - 1) (· ++ [character]),
      by simp only [draw, isMark, if_true, Nat.add_zero], ?_, ?_⟩
    · simp [length_eq, isMark]
    · rw [rowText]
      rcases (terminal.rows terminal.row).eq_nil_or_concat with row_eq | ⟨init, last, row_eq⟩
      · simp only [row_eq, List.length_nil] at length_eq
        omega
      · rw [List.concat_eq_append] at row_eq
        rw [row_eq] at length_eq ⊢
        have column_eq : terminal.column - 1 = init.length := by
          rw [← length_eq]
          simp
        simp [column_eq, List.modify_eq_take_cons_drop]
  · have roomy : terminal.makeRoom (Text.columns character) = terminal := by
      rw [makeRoom, if_neg (by omega)]
    refine ⟨drawnOver (terminal.rows terminal.row) terminal.column (Text.columns character)
      character, by simp only [draw, isMark, if_false, roomy], ?_, ?_⟩
    · simp [drawnOver, length_eq]
      omega
    · have nothing_right : (terminal.rows terminal.row).drop
          (terminal.column + Text.columns character) = [] :=
        List.drop_of_length_le (by omega)
      rw [← length_eq] at nothing_right ⊢
      simp only [drawnOver, nothing_right, List.take_length, Nat.sub_self, List.replicate_zero,
        List.append_nil, List.flatten_append, List.flatten_cons, List.flatten_replicate_nil,
        rowText]

theorem exists_foldl_draw_eq_write (terminal : Terminal) (text : List Char)
    (length_eq : (terminal.rows terminal.row).length = terminal.column)
    (fits : terminal.column + totalColumns Text.columns text ≤ terminal.columns)
    (hasCell : 0 < terminal.column ∨ ∀ character ∈ text.head?, 0 < Text.columns character) :
    ∃ cells, text.foldl draw terminal =
        terminal.write cells (terminal.column + totalColumns Text.columns text) ∧
      cells.length = terminal.column + totalColumns Text.columns text ∧
      cells.flatten = terminal.rowText terminal.row ++ text := by
  induction text generalizing terminal with
  | nil =>
      exact ⟨terminal.rows terminal.row, (write_self terminal).symm, length_eq, by simp [rowText]⟩
  | cons character text ih =>
      rw [totalColumns_cons] at fits ⊢
      have character_hasCell : 0 < terminal.column ∨ 0 < Text.columns character :=
        hasCell.imp_right fun head_pos => head_pos character rfl
      rcases exists_draw_eq_write length_eq (by omega) character_hasCell with
        ⟨cells, drawn_eq, cells_length, cells_flatten⟩
      have row_after : (terminal.draw character).rows (terminal.draw character).row = cells := by
        rw [drawn_eq, rows_write_self]
      have column_after : (terminal.draw character).column =
          terminal.column + Text.columns character := by
        rw [drawn_eq, write]
      have columns_after : (terminal.draw character).columns = terminal.columns := by
        rw [drawn_eq, write]
      rcases ih (terminal.draw character) (by rw [row_after, cells_length, column_after])
        (by omega) (.inl (by omega)) with ⟨cells', text_eq, cells'_length, cells'_flatten⟩
      refine ⟨cells', ?_, ?_, ?_⟩
      · rw [List.foldl_cons, text_eq, column_after, drawn_eq, write_write, Nat.add_assoc]
      · rw [cells'_length, column_after, Nat.add_assoc]
      · rw [cells'_flatten, rowText, row_after, cells_flatten, List.append_assoc,
          List.singleton_append]

end Draw

/-- A terminal on which some rows have been written, with the cursor at the start of the next. -/
def below (columns : Nat) (above : List (List (List Char))) : Terminal :=
  ⟨columns, fun row => above.getD row [], above.length, 0, .text⟩

/-- Some cells hold a text, each of its characters in as many of them as it takes columns. -/
structure HoldsText (cells : List (List Char)) (text : List Char) : Prop where
  flatten_eq : cells.flatten = text
  length_eq : cells.length = totalColumns Text.columns text

/-- Below some rows, the terminal shows some texts, one in each row, and nothing else. -/
structure Shows (terminal : Terminal) (columns : Nat) (above : List (List (List Char)))
    (texts : List (List Char)) : Prop where
  isReady : terminal.reception = .text
  columns_eq : terminal.columns = columns
  row_eq : terminal.row = above.length + texts.length
  column_eq : terminal.column = 0
  holdsText : ∀ index (inFrame : index < texts.length),
    HoldsText (terminal.rows (above.length + index)) texts[index]
  rows_eq_nil : ∀ row, above.length + texts.length ≤ row → terminal.rows row = []
  rows_above : ∀ row (isAbove : row < above.length), terminal.rows row = above[row]

theorem shows_below (columns : Nat) (above : List (List (List Char))) :
    (below columns above).Shows columns above [] where
  isReady := rfl
  columns_eq := rfl
  row_eq := rfl
  column_eq := rfl
  holdsText := by simp
  rows_eq_nil := by
    intro row row_ge
    exact List.getD_eq_default above [] row_ge
  rows_above := by
    intro row isAbove
    simp [below, isAbove]

/-- What is shown determines the characters of every row. -/
theorem Shows.rowText_eq {other : Terminal} (shows : terminal.Shows columns above texts)
    (other_shows : other.Shows columns above texts) (row : Nat) :
    terminal.rowText row = other.rowText row := by
  simp only [rowText]
  by_cases isAbove : row < above.length
  · rw [shows.rows_above row isAbove, other_shows.rows_above row isAbove]
  · rcases Nat.exists_eq_add_of_le (Nat.not_lt.1 isAbove) with ⟨index, rfl⟩
    by_cases inFrame : index < texts.length
    · rw [(shows.holdsText index inFrame).flatten_eq,
        (other_shows.holdsText index inFrame).flatten_eq]
    · rw [shows.rows_eq_nil _ (by omega), other_shows.rows_eq_nil _ (by omega)]

/-- A text that fits and the end of its row add a row to what is shown. -/
theorem Shows.print (shows : terminal.Shows columns above texts) (content : String)
    (fits : totalColumns Text.columns content.toList ≤ columns)
    (hasCell : ∀ character ∈ content.toList.head?, 0 < Text.columns character) :
    (((terminal.perform (.print content)).perform .nextRow)).Shows columns above
      (texts ++ [content.toList]) := by
  have blank : terminal.rows terminal.row = [] := shows.rows_eq_nil _ shows.row_eq.ge
  rcases exists_foldl_draw_eq_write terminal content.toList
    (by rw [blank, shows.column_eq]; rfl)
    (by rw [shows.column_eq, shows.columns_eq, Nat.zero_add]; exact fits) (.inr hasCell) with
    ⟨cells, drawn_eq, cells_length, cells_flatten⟩
  rw [rowText, blank, List.flatten_nil, List.nil_append] at cells_flatten
  rw [shows.column_eq, Nat.zero_add] at drawn_eq cells_length
  rw [perform, perform, drawn_eq]
  have rows_eq (row : Nat) :
      (terminal.write cells (totalColumns Text.columns content.toList)).returnCarriage.feedLine.rows
        row = if row = above.length + texts.length then cells else terminal.rows row := by
    simp [write, returnCarriage, feedLine, Function.update_apply, shows.row_eq]
  refine ⟨shows.isReady, shows.columns_eq, ?_, rfl, ?_, ?_, ?_⟩
  · simp [write, returnCarriage, feedLine, shows.row_eq, Nat.add_assoc]
  · intro index inFrame
    rw [rows_eq]
    rw [List.length_append, List.length_singleton] at inFrame
    split_ifs with isLast
    · have index_eq : index = texts.length := by omega
      subst index_eq
      rw [List.getElem_concat_length rfl]
      exact ⟨cells_flatten, cells_length⟩
    · have wasInFrame : index < texts.length := by omega
      rw [List.getElem_append_left wasInFrame]
      exact shows.holdsText index wasInFrame
  · intro row row_ge
    rw [List.length_append, List.length_singleton] at row_ge
    rw [rows_eq, if_neg (by omega)]
    exact shows.rows_eq_nil row (by omega)
  · intro row isAbove
    rw [rows_eq, if_neg (by omega)]
    exact shows.rows_above row isAbove

/-- Where something is shown, moving up by its rows and clearing leaves nothing of it. -/
theorem Shows.erase (shows : terminal.Shows columns above texts) (window : Window)
    (drawnRows_eq : window.drawnRows = texts.length) :
    (window.eraseCommands.foldl perform terminal).Shows columns above [] := by
  rcases texts.eq_nil_or_concat with rfl | ⟨init, last, rfl⟩
  -- Nothing is sent for no rows. For any other number, moving up by it ends at the first of them.
  · simpa [Window.eraseCommands, drawnRows_eq] using shows
  · rw [List.concat_eq_append, List.length_append, List.length_singleton] at drawnRows_eq
    have row_eq := shows.row_eq
    rw [List.concat_eq_append, List.length_append, List.length_singleton] at row_eq
    have start_eq : terminal.row - max 1 (init.length + 1) = above.length := by
      omega
    simp only [Window.eraseCommands, drawnRows_eq, Nat.add_one_ne_zero, if_false, List.foldl_cons,
      List.foldl_nil, perform, moveUp, returnCarriage, clearBelow, start_eq]
    refine ⟨shows.isReady, shows.columns_eq, rfl, rfl, by simp, ?_, ?_⟩
    · intro row row_ge
      rw [List.length_nil, Nat.add_zero] at row_ge
      simp only [Nat.not_lt.2 row_ge, if_false, List.take_zero]
      split_ifs <;> rfl
    · intro row isAbove
      simp only [isAbove, if_true]
      exact shows.rows_above row isAbove

end Terminal

namespace Window

variable {window : Window} {inColor : Bool} {width : UInt16} {line : FeedLine}

theorem isLongestFit_rowText (width?_eq : window.width? = some width) (line : FeedLine) :
    IsLongestFit Text.columns width.toNat (line.shown window.showsTime).toList
      (window.rowText line).toList := by
  simp only [rowText, width?_eq, cutToWidth, String.toList_ofList]
  exact isLongestFit_fitColumns Text.columns width.toNat _

/-- A row starts with a character that takes a column, if it is not empty. -/
theorem columns_pos_of_mem_head?_rowText {character : Char}
    (width?_eq : window.width? = some width)
    (character_mem : character ∈ (window.rowText line).toList.head?) :
    0 < Text.columns character := by
  rcases isLongestFit_rowText width?_eq line with ⟨⟨cut_off, shown_eq⟩, -, -⟩
  have shown_mem : character ∈ (line.shown window.showsTime).toList.head? := by
    rw [← shown_eq, Option.mem_def, List.head?_append, Option.mem_def.1 character_mem]
    rfl
  exact FeedLine.columns_pos_of_mem_head?_shown shown_mem

/-- Colours make no difference to what is drawn in a row. -/
theorem foldl_perform_rowCommands (terminal : Terminal) (window : Window) (inColor : Bool)
    (line : FeedLine) :
    (window.rowCommands inColor line).foldl Terminal.perform terminal =
      (terminal.perform (.print (window.rowText line))).perform .nextRow := by
  cases inColor <;> rfl

theorem shows_foldl_rowCommands {terminal : Terminal} {columns : Nat}
    {above : List (List (List Char))} {texts : List (List Char)}
    (shows : terminal.Shows columns above texts) (width?_eq : window.width? = some width)
    (width_le : width.toNat ≤ columns) (inColor : Bool) (lines : List FeedLine) :
    ((lines.flatMap (window.rowCommands inColor)).foldl Terminal.perform terminal).Shows columns
      above (texts ++ lines.map fun line => (window.rowText line).toList) := by
  induction lines generalizing terminal texts with
  | nil => simpa using shows
  | cons line lines ih =>
      have row_shows := shows.print (window.rowText line)
        ((isLongestFit_rowText width?_eq line).fits.trans width_le)
        fun character => columns_pos_of_mem_head?_rowText width?_eq
      rw [← foldl_perform_rowCommands terminal window inColor line] at row_shows
      rw [List.flatMap_cons, List.foldl_append]
      simpa using ih row_shows

/-- What is sent for a frame holds no control characters but those of the commands. -/
theorem isControl_of_print_mem_renderCommands {lines : List FeedLine} {text : String}
    (isLive : window.mode = .live inColor) (width?_eq : window.width? = some width)
    (printable : ∀ line ∈ lines, ∀ character ∈ line.text.toList, Text.isControl character = false)
    (text_mem : .print text ∈ window.renderCommands lines) :
    ∀ character ∈ text.toList, Text.isControl character = false := by
  have row_mem : ∃ line ∈ lines, text = window.rowText line := by
    simp only [renderCommands, isLive, List.mem_append, List.mem_flatMap] at text_mem
    rcases text_mem with erase_mem | ⟨line, line_mem, command_mem⟩
    · simp only [eraseCommands] at erase_mem
      split_ifs at erase_mem <;> simp at erase_mem
    · refine ⟨line, line_mem, ?_⟩
      cases inColor <;> simpa [rowCommands] using command_mem
  rcases row_mem with ⟨line, line_mem, rfl⟩
  intro character character_mem
  have shown_mem := (isLongestFit_rowText width?_eq line).starts.subset character_mem
  exact FeedLine.isControl_of_mem_shown (printable line line_mem) shown_mem

end Window

/-- A window and the terminal that it writes to. -/
structure Viewing where
  window : Window
  terminal : Terminal

namespace Viewing

inductive Step where
  | setWidth (width : UInt16)
  | render (lines : List FeedLine)

/--
Whether a step is one that a terminal with so many columns can follow: lines are cut to a width that
it has, and a snapshot has no more lines than a window counts rows and no text that controls it.
-/
def Step.isAllowed (columns : Nat) : Step → Bool
  | .setWidth width => width.toNat ≤ columns
  | .render lines =>
      lines.length ≤ Window.mostRows &&
        lines.all fun line => line.text.toList.all fun character => !Text.isControl character

/-- The width that lines are cut to after a step. -/
def Step.widthAfter (width : UInt16) : Step → UInt16
  | .setWidth changed => changed
  | .render _ => width

/-- A window that has shown nothing yet, on a terminal on which some rows have been written. -/
def ofTerminal (inColor showsTime : Bool) (columns : Nat) (above : List (List (List Char))) :
    Viewing :=
  ⟨.create (.live inColor) showsTime, .below columns above⟩

def step (viewing : Viewing) : Step → Viewing
  | .setWidth width => { viewing with window := viewing.window.setWidth (some width) }
  | .render lines =>
      { window := viewing.window.afterRender lines
        terminal := viewing.terminal.receive (viewing.window.render lines).toList }

/-- The window and the terminal after some steps. -/
def afterAll (viewing : Viewing) (steps : List Step) : Viewing :=
  steps.foldl step viewing

section Sound

variable {viewing : Viewing} {inColor showsTime : Bool} {columns : Nat}
  {above : List (List (List Char))} {width : UInt16} {texts : List (List Char)}

/-- Between the steps, once the width is set, the window counts the rows that it has drawn. -/
structure Sound (viewing : Viewing) (inColor showsTime : Bool) (columns : Nat)
    (above : List (List (List Char))) (width : UInt16) (texts : List (List Char)) : Prop where
  isLive : viewing.window.mode = .live inColor
  showsTime_eq : viewing.window.showsTime = showsTime
  width?_eq : viewing.window.width? = some width
  width_le : width.toNat ≤ columns
  drawnRows_eq : viewing.window.drawnRows = texts.length
  shows : viewing.terminal.Shows columns above texts

theorem sound_ofTerminal (inColor showsTime : Bool) (above : List (List (List Char)))
    (width_le : width.toNat ≤ columns) :
    ((ofTerminal inColor showsTime columns above).step (.setWidth width)).Sound inColor showsTime
      columns above width [] :=
  ⟨rfl, rfl, rfl, width_le, rfl, Terminal.shows_below columns above⟩

/-- A frame takes the place of what was shown before. -/
theorem Sound.render {lines : List FeedLine}
    (sound : viewing.Sound inColor showsTime columns above width texts)
    (allowed : (Step.render lines).isAllowed columns) :
    (viewing.step (.render lines)).Sound inColor showsTime columns above width
      (lines.map fun line => (viewing.window.rowText line).toList) := by
  simp only [Step.isAllowed, Bool.and_eq_true, decide_eq_true_eq, List.all_eq_true,
    Bool.not_eq_true'] at allowed
  have received : viewing.terminal.receive (viewing.window.render lines).toList =
      (viewing.window.renderCommands lines).foldl Terminal.perform viewing.terminal := by
    apply Terminal.receive_spellAll sound.shows.isReady
    intro text
    exact Window.isControl_of_print_mem_renderCommands sound.isLive sound.width?_eq allowed.2
  have after_eq : viewing.window.afterRender lines =
      { viewing.window with drawnRows := min lines.length Window.mostRows } := by
    simp only [Window.afterRender, sound.isLive]
  have erased := sound.shows.erase viewing.window sound.drawnRows_eq
  have drawn := Window.shows_foldl_rowCommands erased sound.width?_eq sound.width_le inColor lines
  simp only [step, received, after_eq]
  refine ⟨sound.isLive, sound.showsTime_eq, sound.width?_eq, sound.width_le, ?_, ?_⟩
  · simpa using allowed.1
  · simpa only [Window.renderCommands, sound.isLive, List.foldl_append, List.nil_append] using drawn

theorem Sound.step (sound : viewing.Sound inColor showsTime columns above width texts) {step : Step}
    (allowed : step.isAllowed columns) :
    ∃ texts, (viewing.step step).Sound inColor showsTime columns above (step.widthAfter width)
      texts := by
  cases step with
  | setWidth changed =>
      have changed_le : changed.toNat ≤ columns := of_decide_eq_true allowed
      exact ⟨texts, sound.isLive, sound.showsTime_eq, rfl, changed_le, sound.drawnRows_eq,
        sound.shows⟩
  | render lines => exact ⟨_, sound.render allowed⟩

theorem Sound.afterAll (sound : viewing.Sound inColor showsTime columns above width texts)
    {steps : List Step} (allowed : ∀ step ∈ steps, step.isAllowed columns) :
    ∃ texts, (viewing.afterAll steps).Sound inColor showsTime columns above
      (steps.foldl Step.widthAfter width) texts := by
  induction steps generalizing viewing width texts with
  | nil => exact ⟨texts, sound⟩
  | cons step steps ih =>
      rcases List.forall_mem_cons.1 allowed with ⟨step_allowed, steps_allowed⟩
      rcases sound.step step_allowed with ⟨_, step_sound⟩
      exact ih step_sound steps_allowed

/-- After a frame the terminal shows each line of the snapshot, cut to the width that was set. -/
theorem exists_shows_render (inColor showsTime : Bool) (above : List (List (List Char)))
    {steps : List Step} {lines : List FeedLine}
    (allowed : ∀ step ∈ .setWidth width :: steps ++ [.render lines], step.isAllowed columns) :
    ∃ texts, ((ofTerminal inColor showsTime columns above).afterAll
        (.setWidth width :: steps ++ [.render lines])).terminal.Shows columns above texts ∧
      List.Forall₂ (fun line text =>
        IsLongestFit Text.columns (steps.foldl Step.widthAfter width).toNat
          (line.shown showsTime).toList text) lines texts := by
  have width_le : width.toNat ≤ columns := of_decide_eq_true (allowed (.setWidth width) (by simp))
  have steps_allowed : ∀ step ∈ steps, step.isAllowed columns :=
    fun step step_mem => allowed step (by simp [step_mem])
  have render_allowed := allowed (.render lines) (by simp)
  rcases (sound_ofTerminal inColor showsTime above width_le).afterAll steps_allowed with
    ⟨_, sound⟩
  let before := ((ofTerminal inColor showsTime columns above).step (.setWidth width)).afterAll steps
  refine ⟨lines.map fun line => (before.window.rowText line).toList, ?_, ?_⟩
  · have after_eq : (ofTerminal inColor showsTime columns above).afterAll
        (.setWidth width :: steps ++ [.render lines]) = before.step (.render lines) := by
      simp [afterAll, before]
    rw [after_eq]
    exact (sound.render render_allowed).shows
  · rw [List.forall₂_map_right_iff, List.forall₂_same]
    intro line line_mem
    rw [← sound.showsTime_eq]
    exact Window.isLongestFit_rowText sound.width?_eq line

end Sound

end Viewing

/--
A window on a terminal that stands below some rows with nothing under them, in colour or not, with
or without the times: after its width is set, and set again and snapshots are shown in any order,
the rows from there on are those of the last snapshot. Each holds its line, cut to the longest part
from its start that fits into the width, in as many cells as the part takes columns. Nothing else is
there, the rows above are what they were, and the cursor is at the start of the row below. With and
without colour, the same characters are shown.
-/
theorem Viewing.live_frame_is_last_snapshot (inColor showsTime : Bool) (columns : Nat)
    (above : List (List (List Char))) (first : UInt16) (steps : List Viewing.Step)
    (lines : List FeedLine)
    (allowed : ∀ step ∈ .setWidth first :: steps ++ [.render lines], step.isAllowed columns) :
    let terminal := fun inColor => ((Viewing.ofTerminal inColor showsTime columns above).afterAll
      (.setWidth first :: steps ++ [.render lines])).terminal
    let width := steps.foldl Viewing.Step.widthAfter first
    (∀ index (inFrame : index < lines.length),
      let row := above.length + index
      IsLongestFit Text.columns width.toNat (lines[index].shown showsTime).toList
        ((terminal inColor).rowText row) ∧
      ((terminal inColor).rows row).length =
        totalColumns Text.columns ((terminal inColor).rowText row)) ∧
    (∀ row, above.length + lines.length ≤ row → (terminal inColor).rows row = []) ∧
    (∀ row (isAbove : row < above.length), (terminal inColor).rows row = above[row]) ∧
    (terminal inColor).row = above.length + lines.length ∧
    (terminal inColor).column = 0 ∧
    ∀ row, (terminal inColor).rowText row = (terminal !inColor).rowText row := by
  intro terminal width
  rcases Viewing.exists_shows_render inColor showsTime above allowed with ⟨texts, shows, cut⟩
  rcases Viewing.exists_shows_render (!inColor) showsTime above allowed with
    ⟨otherTexts, other_shows, other_cut⟩
  have length_eq := cut.length_eq
  refine ⟨?_, ?_, ?_, ?_, shows.column_eq, ?_⟩
  · intro index inFrame row
    have holdsText := shows.holdsText index (length_eq ▸ inFrame)
    have row_eq : (terminal inColor).rowText row = texts[index] := holdsText.flatten_eq
    rw [row_eq]
    exact ⟨cut.get inFrame (length_eq ▸ inFrame), holdsText.length_eq⟩
  · rw [length_eq]
    exact shows.rows_eq_nil
  · exact shows.rows_above
  · rw [length_eq]
    exact shows.row_eq
  · have cut_unique : Relator.RightUnique fun (line : FeedLine) (text : List Char) =>
        IsLongestFit Text.columns width.toNat (line.shown showsTime).toList text :=
      fun _ _ _ => IsLongestFit.eq
    rcases List.right_unique_forall₂' cut_unique cut other_cut with rfl
    exact shows.rowText_eq other_shows

/-- A frame of two lines, and after it one of a single line that is cut to a smaller width. -/
theorem Viewing.live_frame_is_last_snapshot_after_longer :
    let lines : List FeedLine := [.ofText "third" .epoch]
    let steps : List Viewing.Step :=
      [.render [.ofText "first" .epoch, .ofText "second" .epoch], .setWidth 8]
    let terminal := ((Viewing.ofTerminal true false 12 [[['$']]]).afterAll
      (.setWidth 12 :: steps ++ [.render lines])).terminal
    IsLongestFit Text.columns 8 (lines[0].shown false).toList (terminal.rowText 1) ∧
      terminal.rows 2 = [] ∧ terminal.row = 2 := by
  intro lines steps terminal
  rcases Viewing.live_frame_is_last_snapshot true false 12 [[['$']]] 12 steps lines
    (by decide +kernel) with ⟨in_frame, nothing_below, -, row_eq, -⟩
  refine ⟨(in_frame 0 (by decide)).1, ?_, row_eq⟩
  simpa only [terminal] using nothing_below 2 (by decide)

end ScriptedFeed
