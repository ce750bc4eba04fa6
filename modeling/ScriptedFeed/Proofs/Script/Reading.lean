import ScriptedFeed.Proofs.Json.Pair
import ScriptedFeed.Proofs.Script.Document

/-!
# Scripts are read in two forms only

The readers of authored scripts and of those that the program writes differ in how they read delays
and in the names that a delay may have. Each of them reads a line or a script exactly if it is
given as an object or an array with a text and a delay, or with seed lines and scheduled lines.
-/

namespace ScriptedFeed

namespace Script

open Json

variable {α δ : Type} {written : List UInt8}

/-- An array whose elements mean some values. -/
def IsArrayOf (Means : List UInt8 → α → Prop) (written : List UInt8) (values : List α) : Prop :=
  ∃ elements, IsArray elements written ∧ List.Forall₂ Means elements values

/-- A scheduled line whose delay goes by some names. -/
def IsLine (delayNames : List String) (IsDelay : List UInt8 → δ → Prop) (written : List UInt8)
    (line : String × δ) : Prop :=
  GivesTwo ["text"] delayNames false false IsText IsDelay written (some line.1) (some line.2)

/-- A script, given what its scheduled lines are. -/
def IsScript (IsScheduled : List UInt8 → α → Prop) (written : List UInt8)
    (script : List String × List α) : Prop :=
  ∃ seed? scheduled?, GivesTwo ["seed"] ["entries"] true true (IsArrayOf IsText)
    (IsArrayOf IsScheduled) written seed? scheduled? ∧
      script = (seed?.getD [], scheduled?.getD [])

section Shapes

variable {name : String}

theorem readsExactly_lineShape {delayNames : List String} {readDelay : Reader δ}
    {IsDelay : List UInt8 → δ → Prop} (exact : ReadsExactly readDelay IsDelay)
    (apart : "text" ∉ delayNames) :
    ReadsExactly (lineShape name delayNames readDelay).read
      (IsLine ("delay_ms" :: delayNames) IsDelay) := by
  have keeps : KeepsTwo (lineShape name delayNames readDelay) LineDraft.mk _ _ IsText IsDelay :=
    { members_eq := rfl
      start_eq := rfl
      covers := fun gathered => ⟨gathered.text?, gathered.delay?, rfl⟩
      apart := by simpa [Member.names] using apart
      first_given := fun _ _ => rfl
      second_given := fun _ _ => rfl
      first_exact := fun _ delay? => (readsExactly_readTextAs "a string").map fun text =>
        LineDraft.mk (some text) delay?
      second_exact := fun text? _ => exact.map fun delay => LineDraft.mk text? (some delay) }
  refine keeps.readsExactly_read.congr fun written line => ?_
  constructor
  · rintro ⟨_ | text, _ | delay, gives, finished⟩ <;> cases finished
    exact gives
  · intro gives
    exact ⟨some line.1, some line.2, gives, rfl⟩

theorem readsExactly_scriptShape {readScheduled : Reader α} {IsScheduled : List UInt8 → α → Prop}
    (exact : ReadsExactly readScheduled IsScheduled) :
    ReadsExactly (scriptShape name readScheduled).read (IsScript IsScheduled) := by
  have keeps : KeepsTwo (scriptShape name readScheduled) ScriptDraft.mk _ _ (IsArrayOf IsText)
      (IsArrayOf IsScheduled) :=
    { members_eq := rfl
      start_eq := rfl
      covers := fun gathered => ⟨gathered.seed?, gathered.scheduled?, rfl⟩
      apart := by simp [Member.names]
      first_given := fun _ _ => rfl
      second_given := fun _ _ => rfl
      first_exact := fun _ scheduled? => (readsExactly_readTextAs "a string").readArray.map
        fun seed => ScriptDraft.mk (some seed) scheduled?
      second_exact := fun seed? _ => exact.readArray.map
        fun scheduled => ScriptDraft.mk seed? (some scheduled) }
  refine keeps.readsExactly_read.congr fun written script => ?_
  constructor
  · rintro ⟨seed?, scheduled?, gives, finished⟩
    cases finished
    exact ⟨seed?, scheduled?, gives, rfl⟩
  · rintro ⟨seed?, scheduled?, gives, rfl⟩
    exact ⟨seed?, scheduled?, gives, rfl⟩

end Shapes

/-- A delay in decimal. -/
def IsDelay (written : List UInt8) (delay : UInt64) : Prop :=
  written = Text.encodeUtf8 (decimalDigits delay.toNat)

/-- A delay in decimal, which may be below zero. -/
def IsSignedDelay (written : List UInt8) (value : Int) : Prop :=
  (-(maxSigned + 1) ≤ value ∧ value ≤ maxSigned) ∧ written = Text.encodeUtf8 (integerText value)

/-- A scheduled line of a script. -/
def IsEntry (delayNames : List String) (written : List UInt8) (line : ScheduledLine) : Prop :=
  IsLine delayNames IsDelay written (line.text, line.delay)

/-- The scheduled lines of a script as they are written. -/
inductive HasEntries (written : List UInt8) (elements : List (List UInt8)) : Prop where
  | object {members : List (String × List UInt8)} {entries : List UInt8}
      (isObject : IsObject members written) (entries_mem : ("entries", entries) ∈ members)
      (isArray : IsArray elements entries)
  | array {seed entries : List UInt8} (isPair : IsArray [seed, entries] written)
      (isArray : IsArray elements entries)

section Change

variable {β : Type} {Before : List UInt8 → α → Prop} {After : List UInt8 → β → Prop}
  {seed : List String} {lines : List α}

theorem forall₂_map {change : α → β} {elements : List (List UInt8)}
    (all_mean : List.Forall₂ Before elements lines)
    (changes : ∀ element ∈ elements, ∀ line ∈ lines,
      Before element line → After element (change line)) :
    List.Forall₂ After elements (lines.map change) := by
  induction all_mean with
  | nil => exact .nil
  | cons means _ ih =>
      refine .cons (changes _ List.mem_cons_self _ List.mem_cons_self means) (ih ?_)
      intro element element_mem line line_mem
      exact changes element (List.mem_cons_of_mem _ element_mem) line
        (List.mem_cons_of_mem _ line_mem)

/-- A script with other lines, if each written line means the other line too. -/
theorem IsScript.map {change : α → β} (isScript : IsScript Before written (seed, lines))
    (changes : ∀ elements, HasEntries written elements → ∀ element ∈ elements, ∀ line ∈ lines,
      Before element line → After element (change line)) :
    IsScript After written (seed, lines.map change) := by
  rcases isScript with ⟨seed?, scheduled?, gives, script_eq⟩
  cases script_eq
  cases gives with
  | object isObject seed_gives entries_give =>
      cases entries_give with
      | absent filter_eq =>
          exact ⟨seed?, none, .object isObject seed_gives (.absent filter_eq), rfl⟩
      | @present name entries scheduled filter_eq isArrayOf =>
          rcases isArrayOf with ⟨elements, isArray, all_mean⟩
          have entries_mem : (name, entries) ∈ [(name, entries)] := List.mem_singleton_self _
          rw [← filter_eq, List.mem_filter, decide_eq_true_eq, List.mem_singleton] at entries_mem
          rcases entries_mem with ⟨entries_mem, rfl⟩
          have changed := forall₂_map all_mean
            (changes elements (.object isObject entries_mem isArray))
          exact ⟨seed?, some (scheduled.map change), .object isObject seed_gives
            (.present filter_eq ⟨elements, isArray, changed⟩), rfl⟩
  | neither isArray _ _ => exact ⟨none, none, .neither isArray rfl rfl, rfl⟩
  | one isArray means _ => exact ⟨_, none, .one isArray means rfl, rfl⟩
  | @two _ _ _ scheduled isPair means isArrayOf =>
      rcases isArrayOf with ⟨elements, isArray, all_mean⟩
      have changed := forall₂_map all_mean (changes elements (.array isPair isArray))
      exact ⟨_, some (scheduled.map change), .two isPair means ⟨elements, isArray, changed⟩, rfl⟩

theorem exists_of_forall₂ {elements : List (List UInt8)}
    (all_mean : List.Forall₂ Before elements lines) :
    ∀ line ∈ lines, ∃ element, Before element line := by
  induction all_mean with
  | nil => simp
  | cons means _ ih => exact List.forall_mem_cons.2 ⟨⟨_, means⟩, ih⟩

theorem IsScript.exists_of_mem (isScript : IsScript Before written (seed, lines)) :
    ∀ line ∈ lines, ∃ element, Before element line := by
  rcases isScript with ⟨seed?, scheduled?, gives, script_eq⟩
  cases script_eq
  cases gives with
  | object _ _ entries_give =>
      rcases entries_give with _ | ⟨_, _, _, all_mean⟩
      · simp
      · exact exists_of_forall₂ all_mean
  | neither => simp
  | one => simp
  | two _ _ isArrayOf =>
      rcases isArrayOf with ⟨_, _, all_mean⟩
      exact exists_of_forall₂ all_mean

end Change

section Readers

variable {document : List UInt8} {script : Script}

theorem readsExactly_readAuthored :
    ReadsExactly readAuthored (IsScript (IsLine ["delay_ms", "delay"] IsSignedDelay)) := by
  have delay_exact : ReadsExactly readSignedInteger IsSignedDelay :=
    readsExactly_readIntegerAs "i64" _ _ le_rfl (by decide)
  exact readsExactly_scriptShape (readsExactly_lineShape delay_exact (by decide))

theorem readsExactly_readLine : ReadsExactly readLine (IsEntry ["delay_ms"]) := by
  have exact : ReadsExactly (lineShape "ScriptEntry" [] (readUnsignedAs "u64")).read
      (IsLine ["delay_ms"] IsDelay) :=
    readsExactly_lineShape (readsExactly_readUnsignedAs "u64") (by simp)
  refine (exact.map fun line => ScheduledLine.mk line.1 line.2).congr fun written line => ?_
  constructor
  · rintro ⟨⟨text, delay⟩, isLine, rfl⟩
    exact isLine
  · intro isLine
    exact ⟨(line.text, line.delay), isLine, rfl⟩

theorem readsExactly_read : ReadsExactly Script.read fun written script =>
    IsScript (IsEntry ["delay_ms"]) written (script.seed, script.scheduled) := by
  have exact : ReadsExactly (scriptShape "Script" readLine).read
      (IsScript (IsEntry ["delay_ms"])) :=
    readsExactly_scriptShape readsExactly_readLine
  refine (exact.map fun script => Script.mk script.1 script.2).congr fun written script => ?_
  constructor
  · rintro ⟨⟨seed, scheduled⟩, isScript, rfl⟩
    exact isScript
  · intro isScript
    exact ⟨(script.seed, script.scheduled), isScript, rfl⟩

theorem IsLine.mono {δ' : Type} {names : List String} {Before : List UInt8 → δ → Prop}
    {After : List UInt8 → δ' → Prop} {line : String × δ} {delay : δ'}
    (isLine : IsLine names Before written line)
    (changes : ∀ digits, Before digits line.2 → After digits delay) :
    IsLine names After written (line.1, delay) := by
  cases isLine with
  | object isObject text_gives delay_gives =>
      rcases delay_gives with _ | ⟨filter_eq, means⟩
      exact .object isObject text_gives (.present filter_eq (changes _ means))
  | two isArray isText means => exact .two isArray isText (changes _ means)

theorem IsLine.exists_delay {names : List String} {Means : List UInt8 → δ → Prop}
    {line : String × δ} (isLine : IsLine names Means written line) :
    ∃ digits, Means digits line.2 := by
  cases isLine with
  | object _ _ delay_gives =>
      rcases delay_gives with _ | ⟨_, means⟩
      exact ⟨_, means⟩
  | two _ _ means => exact ⟨_, means⟩

theorem checkLines_eq_ok_iff {lines : List (String × Int)} {scheduled : List ScheduledLine}
    {before : Nat} : checkLines before lines = .ok scheduled ↔
      (∀ line ∈ lines, 0 ≤ line.2) ∧ lines.map scheduledLine = scheduled := by
  constructor
  · intro checked
    have none_negative : ∀ line ∈ lines, 0 ≤ line.2 := by
      induction lines generalizing before scheduled with
      | nil => simp
      | cons line lines ih =>
          simp only [checkLines, bind_eq_ok_iff] at checked
          rcases checked with ⟨delay, delay_eq, others, others_eq, -⟩
          rw [checkDelay] at delay_eq
          split_ifs at delay_eq with isNegative
          exact List.forall_mem_cons.2 ⟨Int.not_lt.1 isNegative, ih others_eq⟩
    rw [checkLines_eq_ok before none_negative] at checked
    cases checked
    exact ⟨none_negative, rfl⟩
  · rintro ⟨none_negative, rfl⟩
    exact checkLines_eq_ok before none_negative

/-- A delay that is not below zero is one in decimal, if it is below two to the power of 63. -/
theorem isSignedDelay_iff {delay : UInt64} :
    IsSignedDelay written delay.toNat ↔ delay.toNat < 2 ^ 63 ∧ IsDelay written delay := by
  have not_negative : ¬ (delay.toNat : Int) < 0 := by omega
  rw [IsSignedDelay, IsDelay, integerText, if_neg not_negative, Int.natAbs_natCast, maxSigned]
  constructor
  · rintro ⟨inRange, written_eq⟩
    exact ⟨by omega, written_eq⟩
  · rintro ⟨isSmall, written_eq⟩
    exact ⟨by omega, written_eq⟩

theorem toNat_delay_scheduledLine {line : String × Int} (not_negative : 0 ≤ line.2)
    (fits : line.2 ≤ maxSigned) : ((scheduledLine line).delay.toNat : Int) = line.2 := by
  rw [maxSigned] at fits
  rw [scheduledLine, UInt64.toNat_ofNat', Nat.mod_eq_of_lt (by omega)]
  omega

/-- A document is accepted if it holds a script with delays below two to the power of 63. -/
theorem ofDocument_eq_ok_iff :
    ofDocument document = .ok script ↔
      (∀ line ∈ script.scheduled, line.delay.toNat < 2 ^ 63) ∧
      ∃ before written after, document = before ++ (written ++ after) ∧ IsBlanks before ∧
        IsBlanks after ∧
        IsScript (IsEntry ["delay_ms", "delay"]) written (script.seed, script.scheduled) := by
  simp only [ofDocument, bind_eq_ok_iff, mapError_eq_ok_iff, Prod.exists,
    readsExactly_readAuthored.readDocument_eq_ok_iff]
  constructor
  · rintro ⟨seed, lines, ⟨before, written, after, rfl, before_blank, after_blank, isScript⟩,
      scheduled, checked, result_eq⟩
    rcases checkLines_eq_ok_iff.1 checked with ⟨none_negative, rfl⟩
    cases result_eq
    have delay_eq : ∀ line ∈ lines, ((scheduledLine line).delay.toNat : Int) = line.2 ∧
        line.2 ≤ maxSigned := by
      intro line line_mem
      rcases isScript.exists_of_mem line line_mem with ⟨element, isLine⟩
      rcases isLine.exists_delay with ⟨digits, ⟨-, fits⟩, -⟩
      exact ⟨toNat_delay_scheduledLine (none_negative line line_mem) fits, fits⟩
    refine ⟨?_, before, written, after, rfl, before_blank, after_blank, isScript.map ?_⟩
    · intro line line_mem
      rcases List.mem_map.1 line_mem with ⟨authored, authored_mem, rfl⟩
      have bounds := delay_eq authored authored_mem
      rw [maxSigned] at bounds
      omega
    · intro elements _ element _ line line_mem isLine
      refine isLine.mono fun digits isSigned => ?_
      rw [← (delay_eq line line_mem).1] at isSigned
      exact (isSignedDelay_iff.1 isSigned).2
  · rintro ⟨all_small, before, written, after, rfl, before_blank, after_blank, isScript⟩
    have authored : IsScript (IsLine ["delay_ms", "delay"] IsSignedDelay) written
        (script.seed, script.scheduled.map authoredLine) := by
      refine isScript.map fun elements _ element _ line line_mem isEntry => ?_
      exact isEntry.mono fun digits isDelay =>
        isSignedDelay_iff.2 ⟨all_small line line_mem, isDelay⟩
    refine ⟨script.seed, script.scheduled.map authoredLine,
      ⟨before, written, after, rfl, before_blank, after_blank, authored⟩, script.scheduled, ?_, rfl⟩
    refine checkLines_eq_ok_iff.2 ⟨?_, map_scheduledLine_authoredLine script.scheduled⟩
    simp [authoredLine]

/-- A document is read as one of the program's own if it holds a script under its own names. -/
theorem readDocument_read_eq_ok_iff :
    readDocument Script.read document = .ok script ↔
      ∃ before written after, document = before ++ (written ++ after) ∧ IsBlanks before ∧
        IsBlanks after ∧ IsScript (IsEntry ["delay_ms"]) written (script.seed, script.scheduled) :=
  readsExactly_read.readDocument_eq_ok_iff

end Readers

end Script

end ScriptedFeed
