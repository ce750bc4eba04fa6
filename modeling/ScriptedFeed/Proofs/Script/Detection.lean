import ScriptedFeed.Proofs.Script.Reading
import ScriptedFeed.Proofs.Text.CutCharacter
import ScriptedFeed.Script.Format

/-!
# Which scripts are told apart

What a file is taken for depends on its start only: on its first byte that is no blank, and then on
a comma in the first line of it that is not blank. A document that is an object always starts in its
own way; one that is an array does not, nor does a table whose header names its first column over
more than one line, or only after the bytes that are looked at.
-/

namespace ScriptedFeed

namespace Script

/-- The first byte of a file that is not passed over. -/
def firstByte? (file : List UInt8) : Option UInt8 :=
  file.find? fun byte => !isLeadingBlank byte

/-- The start of a file is text, as far as it is looked at, and the first line there that is not
blank has a comma. -/
structure HasHeaderLine (file : List UInt8) : Prop where
  isText : Text.IsTextStart (file.take sampleSize)
  has_comma : ∃ blank line after,
    file.take sampleSize = Text.encodeUtf8 (blank ++ line) ++ Text.comma :: after ∧
    (∀ character ∈ blank, Text.isBlank character) ∧ '\n' ∉ line

section Lines

variable {character : Char} {text : List Char}

theorem linesOf_cons (character : Char) (text : List Char) : linesOf (character :: text) =
    if character = '\n' then [] :: linesOf text
    else (linesOf text).modifyHead (character :: ·) := by
  rw [linesOf, List.splitOn_eq_splitOnP, List.splitOnP_cons_eq_if_modifyHead]
  simp [linesOf, List.splitOn_eq_splitOnP]

theorem exists_linesOf_eq (text : List Char) :
    ∃ others, linesOf text = text.takeWhile (· ≠ '\n') :: others := by
  induction text with
  | nil => exact ⟨[], rfl⟩
  | cons character text ih =>
      rcases ih with ⟨others, lines_eq⟩
      rw [linesOf_cons, lines_eq]
      split_ifs with isBreak
      · subst isBreak
        exact ⟨_, rfl⟩
      · exact ⟨others, by simp [isBreak]⟩

/-- A blank character before a text changes nothing, whether it ends a line or not. -/
theorem hasHeaderComma_cons_blank (isBlank : Text.isBlank character) :
    hasHeaderComma (character :: text) = hasHeaderComma text := by
  rw [hasHeaderComma, hasHeaderComma, linesOf_cons]
  split_ifs with isBreak
  · simp
  · rcases exists_linesOf_eq text with ⟨others, lines_eq⟩
    have not_comma : ',' ≠ character := by
      rintro rfl
      exact absurd isBlank (by decide)
    simp only [lines_eq, List.modifyHead_cons, List.find?_cons, List.all_cons, isBlank,
      Bool.true_and]
    cases (text.takeWhile (· ≠ '\n')).all Text.isBlank with
    | true => rfl
    | false => simp [not_comma]

theorem hasHeaderComma_cons (not_blank : Text.isBlank character = false) :
    hasHeaderComma (character :: text) =
      ((character :: text).takeWhile (· ≠ '\n')).contains ',' := by
  have not_break : character ≠ '\n' := by
    rintro rfl
    exact absurd not_blank (by decide)
  rcases exists_linesOf_eq (character :: text) with ⟨others, lines_eq⟩
  rw [List.takeWhile_cons_of_pos (by simpa using not_break)] at lines_eq ⊢
  simp [hasHeaderComma, lines_eq, not_blank]

theorem hasHeaderComma_append {line : List Char} (unbroken : '\n' ∉ line) (after : List Char) :
    hasHeaderComma (line ++ ',' :: after) := by
  induction line with
  | nil =>
      rw [List.nil_append, hasHeaderComma_cons (by decide)]
      simp
  | cons character line ih =>
      have goes_on : ∀ other ∈ character :: line, decide (other ≠ '\n') = true := by
        intro other other_mem
        rw [decide_eq_true_eq]
        rintro rfl
        exact unbroken other_mem
      by_cases isBlank : Text.isBlank character
      · rw [List.cons_append, hasHeaderComma_cons_blank isBlank]
        exact ih fun break_mem => unbroken (List.mem_cons_of_mem _ break_mem)
      · rw [List.cons_append, hasHeaderComma_cons (by simpa using isBlank), ← List.cons_append,
          List.takeWhile_append_of_pos goes_on]
        simp

theorem hasHeaderComma_iff : hasHeaderComma text ↔ ∃ blank line after,
    text = blank ++ line ++ ',' :: after ∧ (∀ character ∈ blank, Text.isBlank character) ∧
      '\n' ∉ line := by
  constructor
  · intro has_comma
    induction text with
    | nil => cases has_comma
    | cons character text ih =>
        by_cases isBlank : Text.isBlank character
        · rw [hasHeaderComma_cons_blank isBlank] at has_comma
          rcases ih has_comma with ⟨blank, line, after, rfl, all_blank, unbroken⟩
          exact ⟨character :: blank, line, after, rfl, List.forall_mem_cons.2 ⟨isBlank, all_blank⟩,
            unbroken⟩
        · rw [hasHeaderComma_cons (by simpa using isBlank), List.contains_iff_mem] at has_comma
          rcases List.append_of_mem has_comma with ⟨line, rest, line_eq⟩
          have text_eq := List.takeWhile_append_dropWhile (p := (· ≠ '\n')) (l := character :: text)
          rw [line_eq, List.append_assoc] at text_eq
          refine ⟨[], line, _, text_eq.symm, List.forall_mem_nil _, fun break_mem => ?_⟩
          have break_mem_line : '\n' ∈ (character :: text).takeWhile (· ≠ '\n') := by
            rw [line_eq]
            exact List.mem_append_left _ break_mem
          simpa using List.mem_takeWhile_imp break_mem_line
  · rintro ⟨blank, line, after, rfl, all_blank, unbroken⟩
    induction blank with
    | nil => exact hasHeaderComma_append unbroken after
    | cons character blank ih =>
        rcases List.forall_mem_cons.1 all_blank with ⟨isBlank, others_blank⟩
        rw [List.cons_append, List.cons_append, hasHeaderComma_cons_blank isBlank]
        exact ih others_blank

end Lines

section Formats

variable {file : List UInt8} {script : Script}

/-- A file is taken for a table if and only if there is a comma where it is looked for. -/
theorem looksLikeTable_iff : looksLikeTable file ↔ HasHeaderLine file := by
  rcases decoded : Text.decodeUtf8Prefix (file.take sampleSize) with ⟨text, undecoded⟩
  have sample_eq := Text.eq_append_of_decodeUtf8Prefix decoded
  have isText_iff : Text.IsTextStart (file.take sampleSize) ↔
      (undecoded.isEmpty || Text.isCutCharacter undecoded) := by
    rw [Text.isTextStart_iff, decoded, Bool.or_eq_true, List.isEmpty_iff]
  rw [looksLikeTable, sampleText?, decoded]
  constructor
  · intro looks
    by_cases isText : undecoded.isEmpty || Text.isCutCharacter undecoded
    · simp only [isText, if_true] at looks
      rcases hasHeaderComma_iff.1 looks with ⟨blank, line, after, rfl, all_blank, unbroken⟩
      refine ⟨isText_iff.2 isText, blank, line, Text.encodeUtf8 after ++ undecoded, ?_, all_blank,
        unbroken⟩
      rw [sample_eq, Text.encodeUtf8_append, List.append_assoc]
      rfl
    · simp [isText] at looks
  · rintro ⟨isText, blank, line, after, comma_eq, all_blank, unbroken⟩
    have whole_eq : file.take sampleSize = Text.encodeUtf8 (blank ++ line ++ [',']) ++ after := by
      rw [comma_eq, Text.encodeUtf8_append (blank ++ line), List.append_assoc]
      rfl
    rcases Text.exists_decodeUtf8Prefix_append (blank ++ line ++ [',']) after with ⟨rest, text_eq⟩
    rw [← whole_eq, decoded] at text_eq
    simp only [isText_iff.1 isText, if_true]
    exact hasHeaderComma_iff.2 ⟨blank, line, rest, by simpa using text_eq, all_blank, unbroken⟩

theorem detect_of_firstByte (isBrace : firstByte? file = some Json.openBrace) :
    Format.detect file = .document := by
  rw [Format.detect, looksLikeDocument, if_pos (by simpa [firstByte?] using isBrace)]

theorem detect_of_other_byte (not_brace : firstByte? file ≠ some Json.openBrace) :
    Format.detect file = if looksLikeTable file then .table else .unknown := by
  rw [Format.detect, looksLikeDocument, if_neg (by simpa [firstByte?] using not_brace)]

/-- An accepted document is an object or an array. -/
theorem firstByte?_of_ofDocument (accepted : ofDocument file = .ok script) :
    firstByte? file = some Json.openBrace ∨ firstByte? file = some Json.openBracket := by
  rcases ofDocument_eq_ok_iff.1 accepted with
    ⟨-, before, written, after, rfl, before_blank, -, ⟨seed?, scheduled?, gives, -⟩⟩
  have passed_over : firstByte? before = none := by
    rw [firstByte?, List.find?_eq_none]
    intro byte byte_mem
    have isBlank := before_blank byte byte_mem
    simp only [Json.isBlank, Bool.or_eq_true, decide_eq_true_eq] at isBlank
    rcases isBlank with ((rfl | rfl) | rfl) | rfl <;> decide
  rw [firstByte?] at passed_over
  rw [firstByte?, List.find?_append, passed_over, Option.none_or]
  cases gives with
  | object isObject =>
      cases isObject
      exact .inl rfl
  | neither isArray =>
      cases isArray
      exact .inr rfl
  | one isArray =>
      cases isArray
      exact .inr rfl
  | two isArray =>
      cases isArray
      exact .inr rfl

/-- A file that can be read is read according to what it is taken for. -/
theorem load_of_contentOf {tree : FileTree} {path : String}
    (held : tree.contentOf path = .ok file) : (load tree path).1 =
      match Format.detect file with
      | .document => ofDocument file
      | .table => ofTable file
      | .unknown => .error .unknownFormat := by
  have opened := held
  rw [FileTree.contentOf, bind_eq_ok_iff] at opened
  rcases opened with ⟨node, open_eq, read_eq⟩
  simp only [load, held]
  cases Format.detect file with
  | document => simp only [loadDocument, held, Except.mapError, except_ok_bind]
  | table => simp only [loadTable, open_eq, read_eq, Except.mapError, except_ok_bind]
  | unknown => rfl

end Formats

end Script

/--
A file holds a script as a document or as a table. The document is loaded from it as it is read,
unless it is an array. The table is loaded if it does not start like an object and there is a comma
where the header is looked for; without that the file is refused for its format.
-/
theorem Script.load_of_accepted {tree : FileTree} {path : String} {file : List UInt8}
    (held : tree.contentOf path = .ok file) (script : Script) :
    (Script.ofDocument file = .ok script → Script.firstByte? file ≠ some Json.openBracket →
      (Script.load tree path).1 = .ok script) ∧
    (Script.ofTable file = .ok script → Script.firstByte? file ≠ some Json.openBrace →
      (Script.HasHeaderLine file → (Script.load tree path).1 = .ok script) ∧
      (¬ Script.HasHeaderLine file → (Script.load tree path).1 = .error .unknownFormat)) := by
  rw [Script.load_of_contentOf held]
  constructor
  · intro accepted not_array
    have isObject := (Script.firstByte?_of_ofDocument accepted).resolve_right not_array
    rw [Script.detect_of_firstByte isObject]
    exact accepted
  · intro accepted not_object
    rw [Script.detect_of_other_byte not_object]
    constructor
    · intro has_line
      rw [if_pos (Script.looksLikeTable_iff.2 has_line)]
      exact accepted
    · intro no_line
      rw [if_neg fun looks => no_line (Script.looksLikeTable_iff.1 looks)]

/-- A table after an empty line, with a quoted header and a text of more than one byte. -/
theorem Script.load_of_accepted_after_empty_line :
    let text := "\r\n\"text\",ms\n\u20AC,5".toList
    let file := Text.encodeUtf8 text
    (Script.load (FileTree.empty.put ["feed"] (.file file)) "feed").1 =
      .ok ⟨[], [⟨"\u20AC", 5⟩]⟩ := by
  intro text file
  have held : (FileTree.empty.put ["feed"] (.file file)).contentOf "feed" = .ok file := by
    decide +kernel
  have accepted : Script.ofTable file = .ok ⟨[], [⟨"\u20AC", 5⟩]⟩ := by decide +kernel
  have has_line : Script.HasHeaderLine file := by
    constructor
    · have isShort : file.length ≤ Script.sampleSize := by decide +kernel
      refine ⟨text, [], ?_⟩
      rw [List.append_nil, List.take_of_length_le isShort]
    · exact ⟨"\r\n".toList, "\"text\"".toList, Text.encodeUtf8 "ms\n\u20AC,5".toList,
        by decide +kernel, List.all_eq_true.1 rfl, by decide⟩
  exact ((Script.load_of_accepted held _).2 accepted (by decide +kernel)).1 has_line

/--
Documents that are arrays are refused, or read as tables. Tables are refused if their header has its
first comma on another line or too late, if a mark stands on a line of its own, and if a character
is cut by a quotation mark.
-/
theorem Script.accepted_scripts_are_not_loaded :
    let loaded (file : List UInt8) : Except ScriptError Script :=
      (Script.load (FileTree.empty.put ["feed"] (.file file)) "feed").1
    let array := Text.bytesOf "[]"
    let arrayWithColumns := Text.bytesOf "[[\"x\",\"text\",\"delay_ms\",\"y\"]]"
    let brokenHeader := Text.bytesOf "\"text\n\",delay_ms\nhello,5\n"
    let longHeader := List.replicate 500 0x20 ++ Text.bytesOf "text,delay_ms\nhello,5\n"
    let markedHeader := Text.bytesOf "\uFEFF\ntext,delay_ms\nhello,5\n"
    let cutHeader := [0x22, 0xC3, 0x22, 0xA9] ++ Text.bytesOf ",text,delay_ms\nx,hello,5\n"
    (Script.ofDocument array = .ok .empty ∧ loaded array = .error .unknownFormat) ∧
      (Script.ofDocument arrayWithColumns = .ok ⟨["x", "text", "delay_ms", "y"], []⟩ ∧
        loaded arrayWithColumns = .ok .empty) ∧
      ∀ file ∈ [brokenHeader, longHeader, markedHeader, cutHeader],
        Script.ofTable file = .ok ⟨[], [⟨"hello", 5⟩]⟩ ∧
          Script.firstByte? file ≠ some Json.openBrace ∧
          loaded file = .error .unknownFormat := by
  decide +kernel

end ScriptedFeed
