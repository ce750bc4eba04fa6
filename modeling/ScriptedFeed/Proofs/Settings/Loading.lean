import ScriptedFeed.Proofs.Json.Parts
import ScriptedFeed.Proofs.Json.Precision
import ScriptedFeed.Proofs.Settings.Acceptance
import ScriptedFeed.Proofs.Settings.Document

/-!
# What settings are loaded from whatever there is at a path

Settings are given by a document that is an object or an array: each of them is given there, or the
standard one takes its place. A speed is as exact as its digits can be expected to be read. A file
that holds no such document, or that cannot be read at all, is reported and stands for the standard
settings, and where there is no file nothing is reported.
-/

namespace ScriptedFeed

namespace Settings

open Json

variable {tree : FileTree} {path : String} {content written : List UInt8} {draft : Draft}

/-- A capacity in decimal. -/
def IsCapacity (written : List UInt8) (capacity : UInt64) : Prop :=
  written = Text.encodeUtf8 (decimalDigits capacity.toNat)

/-- A speed as a number in any of its forms. -/
def IsSpeed (written : List UInt8) (speed : Binary64) : Prop :=
  IsNumber written ∧ Json.readFloat written = .ok (speed, [])

/-- The word for whether colour is used. -/
def IsColor (written : List UInt8) (usesColor : Bool) : Prop :=
  written = Text.encodeUtf8 (writeFlag usesColor)

/-- Members of an object give settings as far as they have the names of these. -/
structure Draft.IsGivenBy (draft : Draft) (members : List (String × List UInt8)) : Prop where
  capacity : Gives ["capacity"] IsCapacity members draft.capacity?
  speed : Gives ["speed"] IsSpeed members draft.speed?
  color : Gives ["color"] IsColor members draft.usesColor?

/-- Settings as far as they are given, each under its name or in its place. -/
inductive GivesDraft (written : List UInt8) (draft : Draft) : Prop where
  | object {members : List (String × List UInt8)} (isObject : IsObject members written)
      (isGiven : draft.IsGivenBy members) : GivesDraft written draft
  | array {elements : List (List UInt8)} (isArray : IsArray elements written)
      (length_le : elements.length ≤ 3)
      (capacity : Option.Rel IsCapacity elements[0]? draft.capacity?)
      (speed : Option.Rel IsSpeed elements[1]? draft.speed?)
      (color : Option.Rel IsColor elements[2]? draft.usesColor?) : GivesDraft written draft

/-- The names of the settings. -/
def memberNames : List String :=
  ["capacity", "speed", "color"]

/-- The settings that are used of those that are given: a capacity of zero is not. -/
def Draft.loaded (draft : Draft) : Settings where
  capacity := (draft.capacity?.filter (· ≠ 0)).getD standard.capacity
  speed := draft.speed?.getD standard.speed
  usesColor := draft.usesColor?.getD standard.usesColor

/-- What is reported of settings that are given. -/
def Draft.notices (path : String) (draft : Draft) : List Notice :=
  if draft.capacity? = some 0 then [capacityNotice path] else []

/-- The file at a path is a text, and between blanks it holds something of a form. -/
def FileHolds (tree : FileTree) (path : String) (Form : List UInt8 → Prop) : Prop :=
  ∃ text before written after,
    tree.contentOf path = .ok (Text.encodeUtf8 text) ∧
    Text.encodeUtf8 text = before ++ (written ++ after) ∧ IsBlanks before ∧ IsBlanks after ∧
    Form written

section Parts

/-- What settings consist of. -/
inductive Part where
  | capacity
  | speed
  | color
deriving DecidableEq

namespace Part

abbrev Value : Part → Type
  | capacity => UInt64
  | speed => Binary64
  | color => Bool

def member : Part → Member Draft
  | capacity => shape.members.get ⟨0, by decide⟩
  | speed => shape.members.get ⟨1, by decide⟩
  | color => shape.members.get ⟨2, by decide⟩

def Means : ∀ part : Part, List UInt8 → part.Value → Prop
  | capacity => IsCapacity
  | speed => IsSpeed
  | color => IsColor

end Part

/-- The settings with some parts, and the parts of some settings. -/
def Draft.ofParts (parts : ∀ part : Part, Option part.Value) : Draft :=
  ⟨parts .capacity, parts .speed, parts .color⟩

def Draft.parts (draft : Draft) : ∀ part : Part, Option part.Value
  | .capacity => draft.capacity?
  | .speed => draft.speed?
  | .color => draft.usesColor?

theorem keepsApart_shape :
    KeepsApart shape [.capacity, .speed, .color] Part.member Draft.ofParts Part.Means where
  members_eq := rfl
  all_mem part := by cases part <;> simp
  nodup := by decide
  start_eq := rfl
  covers draft := ⟨draft.parts, rfl⟩
  apart {part other name} named otherNamed := by
    cases part <;> cases other <;> simp_all [Member.names, Part.member, shape]
  isGiven_eq part parts := by cases part <;> rfl
  exact
    | .capacity, parts => (readsExactly_readUnsignedAs "usize").map fun capacity =>
        Draft.mk (some capacity) (parts .speed) (parts .color)
    | .speed, parts => readsExactly_readFloat.map fun speed =>
        Draft.mk (parts .capacity) (some speed) (parts .color)
    | .color, parts => readsExactly_readFlag.map fun usesColor =>
        Draft.mk (parts .capacity) (parts .speed) (some usesColor)

theorem givesParts_iff {parts : ∀ part : Part, Option part.Value} :
    GivesParts [.capacity, .speed, .color] Part.member Part.Means written parts ↔
      GivesDraft written (Draft.ofParts parts) := by
  have all_optional : ∀ part ∈ [Part.capacity, .speed, .color], part.member.isOptional := by
    intro part _
    cases part <;> rfl
  constructor
  · rintro (⟨isObject, gives⟩ | ⟨isArray, gives⟩)
    · exact .object isObject ⟨gives .capacity, gives .speed, gives .color⟩
    · rcases (givesInOrder_iff all_optional).1 gives with ⟨length_le, all_rel⟩
      exact .array isArray length_le (all_rel 0 .capacity rfl) (all_rel 1 .speed rfl)
        (all_rel 2 .color rfl)
  · rintro (⟨isObject, isGiven⟩ | ⟨isArray, length_le, capacity, speed, color⟩)
    · refine .object isObject ?_
      rintro (_ | _ | _)
      · exact isGiven.capacity
      · exact isGiven.speed
      · exact isGiven.color
    · refine .array isArray ((givesInOrder_iff all_optional).2 ⟨length_le, ?_⟩)
      rintro (_ | _ | _ | k) part ⟨⟩
      · exact capacity
      · exact speed
      · exact color

/-- The settings that a document gives, where the standard ones take the place of the others. -/
def Draft.given (draft : Draft) : Settings where
  capacity := draft.capacity?.getD standard.capacity
  speed := draft.speed?.getD standard.speed
  usesColor := draft.usesColor?.getD standard.usesColor

/-- Settings are read from what gives them as far as it does, and from nothing else. -/
theorem readsExactly_read : ReadsExactly Settings.read fun written settings =>
    ∃ draft, GivesDraft written draft ∧ draft.given = settings := by
  refine keepsApart_shape.readsExactly_read.congr fun written settings => ?_
  constructor
  · rintro ⟨parts, gives, finished⟩
    exact ⟨Draft.ofParts parts, givesParts_iff.1 gives, Except.ok.inj finished⟩
  · rintro ⟨draft, gives, rfl⟩
    exact ⟨draft.parts, givesParts_iff.2 gives, rfl⟩

end Parts

section File

variable {settings : Settings} {members : List (String × List UInt8)}

theorem holds_of_contentOf (content_eq : tree.contentOf path = .ok content) : tree.holds path := by
  simp only [FileTree.contentOf, FileTree.openNode, bind_eq_ok_iff] at content_eq
  rcases content_eq with ⟨node, ⟨target, target_eq, taken⟩, -⟩
  cases target with
  | taken place node => simp [FileTree.holds, target_eq]
  | free place mustBeDirectory => cases taken

/-- The file that settings come from is a text, which is read as a document. -/
theorem ofFile_eq_ok_iff_readDocument : ofFile tree path = .ok settings ↔ ∃ text,
    tree.contentOf path = .ok (Text.encodeUtf8 text) ∧
      readDocument Settings.read (Text.encodeUtf8 text) = .ok settings := by
  rw [ofFile, bind_eq_ok_iff]
  simp only [mapError_eq_ok_iff]
  constructor
  · rintro ⟨content, content_eq, result_eq⟩
    split_ifs at result_eq with notText
    · cases result_eq
    rw [Option.isNone_iff_eq_none, ← ne_eq, Option.ne_none_iff_exists'] at notText
    rcases notText with ⟨text, decoded⟩
    rw [Text.decodeUtf8?_eq_some_iff.1 decoded] at content_eq result_eq
    exact ⟨text, content_eq, mapError_eq_ok_iff.1 result_eq⟩
  · rintro ⟨text, content_eq, read⟩
    refine ⟨_, content_eq, ?_⟩
    rw [Text.decodeUtf8?_encodeUtf8]
    exact mapError_eq_ok_iff.2 read

/-- Settings come from a file that holds what gives them, and from no other. -/
theorem ofFile_eq_ok_iff : ofFile tree path = .ok settings ↔
    ∃ draft, FileHolds tree path (GivesDraft · draft) ∧ draft.given = settings := by
  simp only [ofFile_eq_ok_iff_readDocument, readsExactly_read.readDocument_eq_ok_iff]
  constructor
  · rintro ⟨text, content_eq, before, written, after, text_eq, before_blank, after_blank, draft,
      gives, given_eq⟩
    exact ⟨draft, ⟨text, before, written, after, content_eq, text_eq, before_blank, after_blank,
      gives⟩, given_eq⟩
  · rintro ⟨draft, ⟨text, before, written, after, content_eq, text_eq, before_blank, after_blank,
      gives⟩, given_eq⟩
    exact ⟨text, content_eq, before, written, after, text_eq, before_blank, after_blank, draft,
      gives, given_eq⟩

theorem Draft.loaded_eq (draft : Draft) : draft.loaded = draft.given.usable := by
  have standard_ne_zero : standard.capacity ≠ 0 := by decide
  rcases draft with ⟨_ | capacity, speed?, usesColor?⟩
  · simp [loaded, given, usable, standard_ne_zero]
  · by_cases zero : capacity = 0
    · simp [loaded, given, usable, zero, Option.filter, standard]
    · simp [loaded, given, usable, zero, Option.filter]

theorem Draft.notices_eq (path : String) (draft : Draft) :
    draft.notices path = if draft.given.capacity = 0 then [capacityNotice path] else [] := by
  have standard_ne_zero : standard.capacity ≠ 0 := by decide
  rcases draft with ⟨_ | capacity, speed?, usesColor?⟩
  · simp [notices, given, standard_ne_zero]
  · by_cases zero : capacity = 0 <;> simp [notices, given, zero]

/-- What is loaded from a file that gives settings, and what is reported of it. -/
theorem loadFrom_of_fileHolds (gives : FileHolds tree path (GivesDraft · draft)) :
    loadFrom tree path = draft.loaded ∧ loadNotices tree path = draft.notices path := by
  have read := ofFile_eq_ok_iff.2 ⟨draft, gives, rfl⟩
  rcases gives with ⟨text, -, -, -, content_eq, -⟩
  rw [loadFrom, loadNotices, if_pos (holds_of_contentOf content_eq),
    if_pos (holds_of_contentOf content_eq), read, draft.loaded_eq, draft.notices_eq]
  exact ⟨rfl, rfl⟩

/-- A file that gives no settings is reported, and the standard ones are loaded. -/
theorem loadFrom_of_not_fileHolds (holds : tree.holds path)
    (gives_none : ∀ draft, ¬FileHolds tree path (GivesDraft · draft)) :
    loadFrom tree path = standard ∧ ∃ fault, loadNotices tree path = [faultNotice path fault] := by
  cases result_eq : ofFile tree path with
  | ok settings =>
      rcases ofFile_eq_ok_iff.1 result_eq with ⟨draft, gives, -⟩
      exact absurd gives (gives_none draft)
  | error fault =>
      rcases loadFrom_of_ofFile_error holds result_eq with ⟨loaded_eq, notices_eq⟩
      exact ⟨loaded_eq, fault, notices_eq⟩

theorem GivesDraft.isFinite {speed : Binary64} (gives : GivesDraft written draft)
    (speed_eq : draft.speed? = some speed) : speed.isFinite := by
  cases gives with
  | object _ isGiven =>
      have speed_gives := isGiven.speed
      rw [speed_eq] at speed_gives
      rcases speed_gives with _ | ⟨-, -, read⟩
      exact isFinite_of_readFloat read
  | @array elements _ _ _ speed_rel _ =>
      rw [speed_eq] at speed_rel
      generalize elements[1]? = element? at speed_rel
      rcases speed_rel with ⟨-, read⟩
      exact isFinite_of_readFloat read

/-- No file makes the speed that is loaded anything but a finite number. -/
theorem isFinite_loadFrom (tree : FileTree) (path : String) :
    (loadFrom tree path).speed.isFinite := by
  by_cases holds : tree.holds path
  · by_cases gives_some : ∃ draft, FileHolds tree path (GivesDraft · draft)
    · rcases gives_some with ⟨draft, gives⟩
      rw [(loadFrom_of_fileHolds gives).1, Draft.loaded]
      rcases gives with ⟨_, _, written, _, -, -, -, -, gives⟩
      cases speed_eq : draft.speed? with
      | none => rfl
      | some speed => exact gives.isFinite speed_eq
    · rw [(loadFrom_of_not_fileHolds holds (not_exists.1 gives_some)).1]
      rfl
  · rw [loadFrom, if_neg holds]
    rfl

theorem level_of_mem_loadNotices {notice : Notice} (notice_mem : notice ∈ loadNotices tree path) :
    notice.level = .warn := by
  rw [loadNotices] at notice_mem
  split_ifs at notice_mem with holds
  · split at notice_mem
    · split_ifs at notice_mem with zero
      · rw [List.mem_singleton.1 notice_mem]
        rfl
      · cases notice_mem
    · rw [List.mem_singleton.1 notice_mem]
      rfl
  · cases notice_mem

end File

section Members

variable {members others : List (String × List UInt8)} {other : FileTree} {otherPath : String}

theorem GivesDraft.isValue (gives : GivesDraft written draft) : IsValue written := by
  cases gives with
  | object isObject _ => exact isObject.isValue
  | array isArray _ _ _ _ => exact isArray.isValue

/-- Where an object gives settings, no other value does, nor do other members. -/
theorem GivesDraft.isGivenBy {found rest after : List UInt8} (gives : GivesDraft found draft)
    (isObject : IsObject members written) (same : written ++ rest = found ++ after) :
    draft.IsGivenBy members := by
  cases gives with
  | object found_isObject isGiven =>
      cases isObject.members_eq found_isObject same
      exact isGiven
  | array isArray _ _ _ _ =>
      rcases isObject with ⟨-, -⟩
      rcases isArray with ⟨-, -⟩
      exact absurd (List.cons.inj same).1 (by decide)

/-- A file that holds an object gives what the members of this object do. -/
theorem fileHolds_iff_isGivenBy (holds : FileHolds tree path (IsObject members)) :
    FileHolds tree path (GivesDraft · draft) ↔ draft.IsGivenBy members := by
  rcases holds with ⟨text, before, written, after, content_eq, text_eq, before_blank, after_blank,
    isObject⟩
  constructor
  · rintro ⟨other, lead, found, rest, other_content_eq, other_eq, lead_blank, -, gives⟩
    have same : before ++ (written ++ after) = lead ++ (found ++ rest) := by
      rw [← text_eq, ← other_eq]
      exact Except.ok.inj (content_eq.symm.trans other_content_eq)
    have skipped := congrArg skipBlanks same
    rw [before_blank.skipBlanks_eq, lead_blank.skipBlanks_eq, isObject.isValue.skipBlanks_eq,
      gives.isValue.skipBlanks_eq] at skipped
    exact gives.isGivenBy isObject skipped
  · intro isGiven
    exact ⟨text, before, written, after, content_eq, text_eq, before_blank, after_blank,
      .object isObject isGiven⟩

/-- Members with other names than those of settings do not matter. -/
theorem Draft.IsGivenBy.of_filter_eq (isGiven : draft.IsGivenBy members)
    (same : members.filter (·.1 ∈ memberNames) = others.filter (·.1 ∈ memberNames)) :
    draft.IsGivenBy others := by
  have same_under (name : String) (isSetting : name ∈ memberNames) :
      others.filter (·.1 ∈ [name]) = members.filter (·.1 ∈ [name]) := by
    have narrowed (more : List (String × List UInt8)) : more.filter (·.1 ∈ [name]) =
        (more.filter (·.1 ∈ memberNames)).filter (·.1 ∈ [name]) := by
      rw [List.filter_filter]
      refine List.filter_congr fun member _ => ?_
      rw [Bool.eq_iff_iff, Bool.and_eq_true, decide_eq_true_eq, decide_eq_true_eq,
        List.mem_singleton]
      exact ⟨fun named => ⟨named, named ▸ isSetting⟩, And.left⟩
    rw [narrowed others, narrowed members, same]
  exact ⟨isGiven.capacity.of_filter_eq (same_under "capacity" (by decide)),
    isGiven.speed.of_filter_eq (same_under "speed" (by decide)),
    isGiven.color.of_filter_eq (same_under "color" (by decide))⟩

theorem length_notices (path : String) (draft : Draft) :
    (draft.notices path).length = if draft.capacity? = some 0 then 1 else 0 := by
  rw [Draft.notices]
  split_ifs <;> rfl

/-- Of an object only the members with the names of settings matter to what is loaded. -/
theorem loadFrom_eq_of_filter_eq (holds : FileHolds tree path (IsObject members))
    (other_holds : FileHolds other otherPath (IsObject others))
    (same : members.filter (·.1 ∈ memberNames) = others.filter (·.1 ∈ memberNames)) :
    loadFrom tree path = loadFrom other otherPath ∧
      (loadNotices tree path).length = (loadNotices other otherPath).length := by
  by_cases gives_some : ∃ draft : Draft, draft.IsGivenBy members
  · rcases gives_some with ⟨draft, isGiven⟩
    rcases loadFrom_of_fileHolds ((fileHolds_iff_isGivenBy holds).2 isGiven) with
      ⟨loaded_eq, notices_eq⟩
    rcases loadFrom_of_fileHolds ((fileHolds_iff_isGivenBy other_holds).2
      (isGiven.of_filter_eq same)) with ⟨other_loaded_eq, other_notices_eq⟩
    rw [loaded_eq, other_loaded_eq, notices_eq, other_notices_eq, length_notices, length_notices]
    exact ⟨rfl, rfl⟩
  · have gives_none (draft : Draft) : ¬FileHolds tree path (GivesDraft · draft) := fun gives =>
      gives_some ⟨draft, (fileHolds_iff_isGivenBy holds).1 gives⟩
    have other_gives_none (draft : Draft) : ¬FileHolds other otherPath (GivesDraft · draft) :=
      fun gives => gives_some
        ⟨draft, ((fileHolds_iff_isGivenBy other_holds).1 gives).of_filter_eq same.symm⟩
    rcases holds with ⟨_, _, _, _, content_eq, -⟩
    rcases other_holds with ⟨_, _, _, _, other_content_eq, -⟩
    rcases loadFrom_of_not_fileHolds (holds_of_contentOf content_eq) gives_none with
      ⟨loaded_eq, fault, notices_eq⟩
    rcases loadFrom_of_not_fileHolds (holds_of_contentOf other_content_eq) other_gives_none with
      ⟨other_loaded_eq, other_fault, other_notices_eq⟩
    rw [loaded_eq, other_loaded_eq, notices_eq, other_notices_eq]
    exact ⟨rfl, rfl⟩

end Members

section Speed

variable {text : List Char} {negative : Bool} {numeral : Numeral} {speed : Binary64}

/-- What gives a speed is the text of a number, and the speed is what this number is read as. -/
theorem IsSpeed.exists_isReadAs (isSpeed : IsSpeed written speed) :
    ∃ text negative numeral magnitude, written = Text.encodeUtf8 text ∧
      SpellsNumber text negative numeral ∧ speed = .finite negative magnitude ∧
      numeral.IsReadAs magnitude := by
  rcases isSpeed with ⟨isNumber, read⟩
  rcases isNumber.exists_text with ⟨text, negative, numeral, rfl, spells⟩
  rcases Json.exists_isReadAs spells read with ⟨magnitude, speed_eq, isReadAs⟩
  exact ⟨text, negative, numeral, magnitude, rfl, spells, speed_eq, isReadAs⟩

/-- A number that is clearly within the format gives a speed. -/
theorem exists_isSpeed (spells : SpellsNumber text negative numeral)
    (inRange : numeral.power.natAbs < 2 ^ 31) (value_le : numeral.value ≤ 10 ^ 307) :
    ∃ magnitude, IsSpeed (Text.encodeUtf8 text) (.finite negative magnitude) ∧
      numeral.IsReadAs magnitude := by
  rcases exists_readFloat spells inRange value_le with ⟨speed, isNumber, read⟩
  rcases Json.exists_isReadAs spells read with ⟨magnitude, rfl, isReadAs⟩
  exact ⟨magnitude, ⟨isNumber, read⟩, isReadAs⟩

end Speed

/--
Whatever there is at a path, loading gives a capacity that is not zero and a finite speed. Where
there is nothing, the standard settings are loaded and nothing is reported. A text that holds what
gives settings is loaded as far as it gives them, but for a capacity of zero, which is reported once
and replaced. A speed is given by the text of a number and is what this number is to be read as, and
every number that is clearly within the format gives one. Anything else is reported once, and the
standard settings are loaded. Every report is a warning, and of an object only the members with the
names of settings matter.
-/
theorem loading_falls_back (tree : FileTree) (path : String) :
    (loadFrom tree path).capacity ≠ 0 ∧ (loadFrom tree path).speed.isFinite ∧
    (tree.holds path = false → loadFrom tree path = standard ∧ loadNotices tree path = []) ∧
    (∀ draft, FileHolds tree path (GivesDraft · draft) →
      loadFrom tree path = draft.loaded ∧ loadNotices tree path = draft.notices path) ∧
    (∀ written speed, IsSpeed written speed →
      ∃ text negative numeral magnitude, written = Text.encodeUtf8 text ∧
        SpellsNumber text negative numeral ∧ speed = .finite negative magnitude ∧
        numeral.IsReadAs magnitude) ∧
    (∀ text negative numeral, SpellsNumber text negative numeral →
      numeral.power.natAbs < 2 ^ 31 → numeral.value ≤ 10 ^ 307 →
      ∃ magnitude, IsSpeed (Text.encodeUtf8 text) (.finite negative magnitude) ∧
        numeral.IsReadAs magnitude) ∧
    (tree.holds path → (∀ draft, ¬FileHolds tree path (GivesDraft · draft)) →
      loadFrom tree path = standard ∧ ∃ fault, loadNotices tree path = [faultNotice path fault]) ∧
    (∀ notice ∈ loadNotices tree path, notice.level = .warn) ∧
    ∀ other otherPath members others, FileHolds tree path (IsObject members) →
      FileHolds other otherPath (IsObject others) →
      members.filter (·.1 ∈ memberNames) = others.filter (·.1 ∈ memberNames) →
      loadFrom tree path = loadFrom other otherPath ∧
        (loadNotices tree path).length = (loadNotices other otherPath).length := by
  refine ⟨capacity_loadFrom_ne_zero tree path, isFinite_loadFrom tree path, ?absent, ?given,
    ?speeds, ?accepted, ?refused, ?levels, ?members⟩
  case absent =>
    intro absent
    rw [loadFrom, loadNotices, absent]
    exact ⟨rfl, rfl⟩
  case given =>
    intro draft gives
    exact loadFrom_of_fileHolds gives
  case speeds =>
    intro written speed isSpeed
    exact isSpeed.exists_isReadAs
  case accepted =>
    intro text negative numeral spells inRange value_le
    exact exists_isSpeed spells inRange value_le
  case refused =>
    intro holds gives_none
    exact loadFrom_of_not_fileHolds holds gives_none
  case levels =>
    intro notice notice_mem
    exact level_of_mem_loadNotices notice_mem
  case members =>
    intro other otherPath members others holds other_holds same
    exact loadFrom_eq_of_filter_eq holds other_holds same

/--
Nothing, a document with all settings, one whose capacity is zero, a text that is no document, and
objects without settings. The speed is the one number that is nearest to its digits.
-/
theorem loading_falls_back_from_any_file :
    let tree (text : List Char) : FileTree :=
      FileTree.empty.put ["settings.json"] (.file (Text.encodeUtf8 text))
    let path := "settings.json"
    let twoAndHalf : Magnitude := ⟨5 * 2 ^ 1073, by decide +kernel⟩
    let full := "\x7b\"capacity\": 12, \"speed\": 2.5, \"color\": false\x7d".toList
    let empty := "\x7b\"capacity\": 0, \"speed\": 2.5, \"color\": false\x7d".toList
    (loadFrom .empty path = ⟨8, .finite false .one, true⟩ ∧ loadNotices .empty path = []) ∧
    (loadFrom (tree full) path = ⟨12, .finite false twoAndHalf, false⟩ ∧
      loadNotices (tree full) path = []) ∧
    (loadFrom (tree empty) path = ⟨8, .finite false twoAndHalf, false⟩ ∧
      loadNotices (tree empty) path = [⟨.warn, "tesser_terminal::settings",
        "Ignoring capacity 0 in settings.json; using 8"⟩]) ∧
    IsSpeed (Text.encodeUtf8 ['2', '.', '5']) (.finite false twoAndHalf) ∧
    (loadFrom (tree ['0']) path = ⟨8, .finite false .one, true⟩ ∧
      ∃ fault, loadNotices (tree ['0']) path = [faultNotice path fault]) ∧
    loadFrom (tree ['\x7b', '"', 'x', '"', ':', '0', '\x7d']) path =
      loadFrom (tree ['\x7b', '\x7d']) path := by
  intro tree path twoAndHalf full empty
  have loaded {text : List Char} {settings : Settings}
      (read : ofFile (tree text) path = .ok settings) :
      loadFrom (tree text) path = settings.usable ∧ loadNotices (tree text) path =
        if settings.capacity = 0 then [capacityNotice path] else [] := by
    rcases ofFile_eq_ok_iff.1 read with ⟨draft, gives, rfl⟩
    rcases loading_falls_back (tree text) path with ⟨-, -, -, given, -⟩
    rw [← draft.loaded_eq, ← draft.notices_eq]
    exact given draft gives
  refine ⟨?_, ?_, ?_, ?_, ?_, ?_⟩
  · rcases loading_falls_back .empty path with ⟨-, -, absent, -⟩
    exact absent (by decide +kernel)
  · have read : ofFile (tree full) path = .ok ⟨12, .finite false twoAndHalf, false⟩ := by
      decide +kernel
    exact loaded read
  · have read : ofFile (tree empty) path = .ok ⟨0, .finite false twoAndHalf, false⟩ := by
      decide +kernel
    exact loaded read
  · have isDigits {digit : Char} (isDigit : digit.isDigit) : ScriptedFeed.IsDigits [digit] :=
      ⟨List.cons_ne_nil _ _, List.forall_mem_singleton.2 isDigit⟩
    have spells : SpellsNumeral (['2'] ++ (['.', '5'] ++ [])) ⟨25, 1, 0⟩ :=
      .mk (isDigits rfl).2 (fun _ => rfl) (.present (isDigits rfl)) .absent
    have value_eq : Numeral.value ⟨25, 1, 0⟩ = 5 / 2 := by norm_num [Numeral.value]
    have twoAndHalf_eq : twoAndHalf.value = 5 / 2 :=
      Magnitude.value_eq_div two_ne_zero (by decide +kernel)
    have value_le : Numeral.value ⟨25, 1, 0⟩ ≤ 10 ^ 307 := by
      calc Numeral.value ⟨25, 1, 0⟩
        _ ≤ 10 := by norm_num [value_eq]
        _ ≤ 10 ^ 307 := le_self_pow₀ (by norm_num) (by omega)
    rcases loading_falls_back .empty path with ⟨-, -, -, -, -, accepted, -⟩
    rcases accepted _ _ _ (.positive spells) (by decide) value_le with
      ⟨magnitude, isSpeed, isReadAs⟩
    have nearest := isReadAs.nearest (by decide) (by decide) (by decide) twoAndHalf
    rw [value_eq, twoAndHalf_eq, sub_self, abs_zero, abs_nonpos_iff, sub_eq_zero,
      ← twoAndHalf_eq] at nearest
    have same : magnitude = twoAndHalf := Magnitude.eq_of_units_eq
      (le_antisymm (Magnitude.value_le_value_iff.1 nearest.le)
        (Magnitude.value_le_value_iff.1 nearest.ge))
    rw [← same]
    exact isSpeed
  · have refused : (ofFile (tree ['0']) path).isOk = false := by decide +kernel
    rcases loading_falls_back (tree ['0']) path with ⟨-, -, -, -, -, -, reported, -⟩
    refine reported (by decide +kernel) fun draft gives => ?_
    rw [ofFile_eq_ok_iff.2 ⟨draft, gives, rfl⟩] at refused
    cases refused
  · have fileHolds {text : List Char} {Form : List UInt8 → Prop}
        (content_eq : (tree text).contentOf path = .ok (Text.encodeUtf8 text))
        (hasForm : Form (Text.encodeUtf8 text)) : FileHolds (tree text) path Form :=
      ⟨text, [], _, [], content_eq, by simp, IsBlanks.nil, IsBlanks.nil, hasForm⟩
    have isZero : IsValue [0x30] := .number (isNumber_integerText 0)
    have isEmpty : IsObject [] (Text.encodeUtf8 ['\x7b', '\x7d']) :=
      .mk (.close true IsBlanks.nil) (by simp)
    have isText : IsText (Text.quotationMark :: ([0x78] ++ [Text.quotationMark])) "x" :=
      .mk (spells_self (by decide +kernel))
    have holds : Holds closeBrace (fun name => IsNamed (IsText · name)) true [("x", [0x30])]
        ([] ++ (_ ++ ([0x30] ++ ([] ++ [closeBrace])))) :=
      .item "x" [0x30] .first (.mk IsBlanks.nil isText IsBlanks.nil IsBlanks.nil)
        (.close false IsBlanks.nil)
    have isObject : IsObject [("x", [0x30])]
        (Text.encodeUtf8 ['\x7b', '"', 'x', '"', ':', '0', '\x7d']) :=
      .mk holds (by simpa using isZero)
    rcases loading_falls_back (tree ['\x7b', '"', 'x', '"', ':', '0', '\x7d']) path with
      ⟨-, -, -, -, -, -, -, -, same⟩
    exact (same _ path _ _ (fileHolds (by decide +kernel) isObject)
      (fileHolds (by decide +kernel) isEmpty) (by decide)).1

end Settings

end ScriptedFeed
