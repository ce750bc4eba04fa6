import ScriptedFeed.Proofs.Json.Record
import ScriptedFeed.Script.Document

/-!
# A written script is read back

The program writes delays as unsigned integers and reads authored ones as signed integers. So a
script comes back from its document as it was, as long as all its delays are among the signed ones;
the first delay that is not is refused as a value of the wrong size, and never taken for another.
-/

namespace ScriptedFeed

namespace Script

open Json

section Shape

variable {ι delay line : Type}

/-- A line is read from its text and its delay, whatever the type of its delay. -/
theorem reads_line {readDelay : Reader delay} {writtenDelay : List Char}
    {outcome : Except Fault delay} (delay_reads : Reads readDelay writtenDelay outcome)
    (name : String) (delayNames : List String) (text : String) :
    Reads (lineShape name delayNames readDelay).read
      (writeObject [("text", writeText text), ("delay_ms", writtenDelay)])
      (outcome.map fun delay => (text, delay)) := by
  let given (text : String) : LineDraft delay := ⟨some text, none⟩
  let complete (value : delay) : LineDraft delay := ⟨some text, some value⟩
  have text_reads := (reads_writeText "a string" text).map given
  have read := reads_writeObject_pair (lineShape name delayNames readDelay) "text" "delay_ms"
    rfl rfl text_reads rfl rfl (delay_reads.map complete)
  cases outcome <;> exact read

/-- A script is read from its arrays, whatever the reader of its lines. -/
theorem reads_script {readLine : Reader line} {items : List ι} {write : ι → List Char}
    {outcome : ι → Except Fault line}
    (all_read : ∀ item ∈ items, Reads readLine (write item) (outcome item)) (name : String)
    (seed : List String) :
    Reads (scriptShape name readLine).read
      (writeObject [("seed", writeArray (seed.map writeText)),
        ("entries", writeArray (items.map write))])
      ((items.mapM outcome).map fun lines => (seed, lines)) := by
  let given (seed : List String) : ScriptDraft line := ⟨some seed, none⟩
  let complete (lines : List line) : ScriptDraft line := ⟨some seed, some lines⟩
  have seed_reads : Reads (readArray readString) (writeArray (seed.map writeText)) (.ok seed) := by
    have read := reads_writeArray fun text (_ : text ∈ seed) => reads_writeText "a string" text
    rwa [mapM_eq_ok fun text _ => rfl, List.map_id'] at read
  have read := reads_writeObject_pair (scriptShape name readLine) "seed" "entries"
    rfl rfl (seed_reads.map given) rfl rfl ((reads_writeArray all_read).map complete)
  cases outcome_eq : items.mapM outcome <;> rw [outcome_eq] at read <;> exact read

end Shape

section Authored

variable {seed : List String} {lines before after : List (String × Int)} {line : String × Int}
  {document : List UInt8}

/-- A line as it is authored: its text and its delay, which may have any sign. -/
def writeAuthoredLine (line : String × Int) : List Char :=
  writeObject [("text", writeText line.1), ("delay_ms", integerText line.2)]

def writeAuthored (seed : List String) (lines : List (String × Int)) : List Char :=
  writeObject [("seed", writeArray (seed.map writeText)),
    ("entries", writeArray (lines.map writeAuthoredLine))]

/-- The outcome of reading an authored line. -/
def signedLine (line : String × Int) : Except Fault (String × Int) :=
  if -(maxSigned + 1) ≤ line.2 ∧ line.2 ≤ maxSigned then .ok line
  else .error (.wrongValue (.integer line.2) "i64")

/-- The scheduled line that an authored one becomes if its delay is not negative. -/
def scheduledLine (line : String × Int) : ScheduledLine :=
  ⟨line.1, UInt64.ofNat line.2.toNat⟩

theorem reads_writeAuthored (seed : List String)
    (all_hold : ∀ line ∈ lines, -(maxSigned + 1) ≤ line.2 ∧ line.2 ≤ maxUnsigned) :
    Reads readAuthored (writeAuthored seed lines)
      ((lines.mapM signedLine).map fun lines => (seed, lines)) := by
  apply reads_script
  intro line line_mem
  have read := reads_line (reads_integerText "i64" (-(maxSigned + 1)) maxSigned
    (all_hold line line_mem)) "RawEntry" ["delay"] line.1
  rw [signedLine]
  split_ifs with isSigned
  · rw [if_pos isSigned] at read
    exact read
  · rw [if_neg isSigned] at read
    exact read

theorem checkLines_eq_ok (before : Nat) (none_negative : ∀ line ∈ lines, 0 ≤ line.2) :
    checkLines before lines = .ok (lines.map scheduledLine) := by
  induction lines generalizing before with
  | nil => rfl
  | cons line lines ih =>
      rcases List.forall_mem_cons.1 none_negative with ⟨not_negative, others⟩
      rw [checkLines, checkDelay, if_neg (Int.not_lt.2 not_negative), except_ok_bind, ih _ others]
      rfl

theorem checkLines_eq_error (count : Nat) (none_negative : ∀ line ∈ before, 0 ≤ line.2)
    (isNegative : line.2 < 0) : checkLines count (before ++ line :: after) =
      .error (.negativeDelay (count + before.length + 1) line.2) := by
  induction before generalizing count with
  | nil =>
      rw [List.nil_append, checkLines, checkDelay, if_pos isNegative]
      rfl
  | cons first before ih =>
      rcases List.forall_mem_cons.1 none_negative with ⟨not_negative, others⟩
      rw [List.cons_append, checkLines, checkDelay, if_neg (Int.not_lt.2 not_negative),
        except_ok_bind, ih _ others, List.length_cons, Nat.add_assoc count 1, Nat.add_comm 1]
      rfl

theorem ofDocument_of_ok (read : (readDocument readAuthored document).mapError Error.fault =
      .ok (seed, lines)) :
    ofDocument document = (checkLines 0 lines).map fun scheduled => ⟨seed, scheduled⟩ := by
  rw [ofDocument]
  cases result_eq : readDocument readAuthored document with
  | error error =>
      rw [result_eq] at read
      cases read
  | ok result =>
      rw [result_eq] at read
      cases read
      rfl

theorem ofDocument_of_error {fault : Fault}
    (read : (readDocument readAuthored document).mapError Error.fault = .error fault) :
    ∃ error, ofDocument document = .error (.json error) ∧ error.fault = fault := by
  rw [ofDocument]
  cases result_eq : readDocument readAuthored document with
  | error error =>
      rw [result_eq] at read
      cases read
      exact ⟨error, rfl, rfl⟩
  | ok result =>
      rw [result_eq] at read
      cases read

/-- An authored document is read, and then the delays of its lines are checked. -/
theorem ofDocument_writeAuthored (seed : List String)
    (all_signed : ∀ line ∈ lines, -(maxSigned + 1) ≤ line.2 ∧ line.2 ≤ maxSigned) :
    ofDocument (Text.encodeUtf8 (writeAuthored seed lines)) =
      (checkLines 0 lines).map fun scheduled => ⟨seed, scheduled⟩ := by
  have all_hold : ∀ line ∈ lines, -(maxSigned + 1) ≤ line.2 ∧ line.2 ≤ maxUnsigned :=
    fun line line_mem => (all_signed line line_mem).imp_right fun le => le.trans (by decide)
  have read := (reads_writeAuthored seed all_hold).readDocument_eq
  have all_ok : lines.mapM signedLine = .ok (lines.map id) :=
    mapM_eq_ok fun line line_mem => if_pos (all_signed line line_mem)
  rw [all_ok, List.map_id] at read
  exact ofDocument_of_ok read

end Authored

section Written

variable {script : Script}

/-- A scheduled line as an authored one. -/
def authoredLine (line : ScheduledLine) : String × Int :=
  (line.text, line.delay.toNat)

/-- The program writes a script as it is authored. -/
theorem write_eq (script : Script) :
    script.write = writeAuthored script.seed (script.scheduled.map authoredLine) := by
  have line_eq (line : ScheduledLine) : writeLine line = writeAuthoredLine (authoredLine line) := by
    have not_negative : ¬ (line.delay.toNat : Int) < 0 := Int.not_lt.2 (Int.natCast_nonneg _)
    simp [writeLine, writeAuthoredLine, authoredLine, integerText, not_negative]
  simp [write, writeAuthored, funext line_eq, Function.comp_def]

theorem map_scheduledLine_authoredLine (lines : List ScheduledLine) :
    (lines.map authoredLine).map scheduledLine = lines := by
  simp [scheduledLine, authoredLine, Function.comp_def]

theorem authoredLine_holds (line : ScheduledLine) :
    -(maxSigned + 1) ≤ (authoredLine line).2 ∧ (authoredLine line).2 ≤ maxUnsigned := by
  have delay_lt := line.delay.toNat_lt
  simp only [authoredLine, maxSigned, maxUnsigned]
  omega

theorem authoredLine_isSigned {line : ScheduledLine} (isSigned : line.delay.toNat < 2 ^ 63) :
    -(maxSigned + 1) ≤ (authoredLine line).2 ∧ (authoredLine line).2 ≤ maxSigned := by
  simp only [authoredLine, maxSigned]
  omega

theorem ofDocument_write_of_signed
    (all_signed : ∀ line ∈ script.scheduled, line.delay.toNat < 2 ^ 63) :
    ofDocument (Text.encodeUtf8 script.write) = .ok script := by
  rw [write_eq, ofDocument_writeAuthored, checkLines_eq_ok, map_scheduledLine_authoredLine]
  · rfl
  · simp [authoredLine]
  · intro line line_mem
    rcases List.mem_map.1 line_mem with ⟨scheduled, scheduled_mem, rfl⟩
    exact authoredLine_isSigned (all_signed scheduled scheduled_mem)

theorem ofDocument_write_of_unsigned {line : ScheduledLine}
    (first : script.scheduled.find? (fun line => 2 ^ 63 ≤ line.delay.toNat) = some line) :
    ∃ error, ofDocument (Text.encodeUtf8 script.write) = .error (.json error) ∧
      error.fault = .wrongValue (.integer line.delay.toNat) "i64" := by
  rcases List.find?_eq_some_iff_append.1 first with
    ⟨isLarge, before, after, scheduled_eq, before_small⟩
  -- The document holds the delay, so it is the reader of lines that refuses it and not the parser.
  have all_hold : ∀ line ∈ script.scheduled.map authoredLine,
      -(maxSigned + 1) ≤ line.2 ∧ line.2 ≤ maxUnsigned := by
    intro authored authored_mem
    rcases List.mem_map.1 authored_mem with ⟨scheduled, -, rfl⟩
    exact authoredLine_holds scheduled
  have before_ok : ∀ authored ∈ before.map authoredLine, signedLine authored = .ok authored := by
    intro authored authored_mem
    rcases List.mem_map.1 authored_mem with ⟨scheduled, scheduled_mem, rfl⟩
    have isSmall : scheduled.delay.toNat < 2 ^ 63 := by
      simpa using before_small scheduled scheduled_mem
    exact if_pos (authoredLine_isSigned isSmall)
  have refused : signedLine (authoredLine line) =
      .error (.wrongValue (.integer line.delay.toNat) "i64") := by
    have not_signed : ¬ (-(maxSigned + 1) ≤ (authoredLine line).2 ∧
        (authoredLine line).2 ≤ maxSigned) := by
      have isLarge := of_decide_eq_true isLarge
      simp only [authoredLine, maxSigned]
      omega
    exact if_neg not_signed
  have read := (reads_writeAuthored script.seed all_hold).readDocument_eq
  rw [← write_eq, scheduled_eq, List.map_append, List.map_cons,
    mapM_eq_error before_ok refused] at read
  exact ofDocument_of_error read

end Written

end Script

/--
A script that the program writes is read back exactly if all its delays are below two to the power
of 63. If one is not, the document is refused, and the fault is the first such delay, as it stands
there and as a value that a signed integer cannot have.
-/
theorem Script.ofDocument_write (script : Script) :
    let document := Text.encodeUtf8 script.write
    ((∀ line ∈ script.scheduled, line.delay.toNat < 2 ^ 63) →
      Script.ofDocument document = .ok script) ∧
    ((∃ line ∈ script.scheduled, 2 ^ 63 ≤ line.delay.toNat) →
      ∃ line error,
        script.scheduled.find? (fun line => 2 ^ 63 ≤ line.delay.toNat) = some line ∧
        Script.ofDocument document = .error (.json error) ∧
        error.fault = .wrongValue (.integer line.delay.toNat) "i64") := by
  refine ⟨Script.ofDocument_write_of_signed, ?_⟩
  rintro ⟨large, large_mem, isLarge⟩
  cases first : script.scheduled.find? (fun line => 2 ^ 63 ≤ line.delay.toNat) with
  | none => exact absurd (decide_eq_true isLarge) (List.find?_eq_none.1 first large large_mem)
  | some line =>
      rcases Script.ofDocument_write_of_unsigned first with ⟨error, refused, fault_eq⟩
      exact ⟨line, error, rfl, refused, fault_eq⟩

/-- The largest delay that is read back, after characters that need an escape, and the next one. -/
theorem Script.ofDocument_write_at_bound :
    let script (delay : UInt64) : Script := ⟨["say \"\\\n\x01\""], [⟨"𝄞", 0⟩, ⟨"end", delay⟩]⟩
    let document (delay : UInt64) := Text.encodeUtf8 (script delay).write
    Script.ofDocument (document 0x7FFFFFFFFFFFFFFF) = .ok (script 0x7FFFFFFFFFFFFFFF) ∧
      ∃ line error, Script.ofDocument (document 0x8000000000000000) = .error (.json error) ∧
        error.fault = .wrongValue (.integer line) "i64" := by
  intro script document
  rcases Script.ofDocument_write (script 0x8000000000000000) with ⟨-, refused⟩
  refine ⟨(Script.ofDocument_write (script 0x7FFFFFFFFFFFFFFF)).1 (by decide), ?_⟩
  rcases refused ⟨⟨"end", 0x8000000000000000⟩, by simp [script], by decide⟩ with
    ⟨line, error, -, refused_eq, fault_eq⟩
  exact ⟨line.delay.toNat, error, refused_eq, fault_eq⟩

end ScriptedFeed
