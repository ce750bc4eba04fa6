import ScriptedFeed.Proofs.Json.Parts

/-!
# Records of two members

Of a record with two members, an object gives each at most once, under any of its names and in any
place; what else the object holds does not matter. An array gives the first and then the second, if
they may be absent up to some point only. The record is read from nothing else.
-/

namespace ScriptedFeed

namespace Json

variable {draft value α β : Type} {written : List UInt8}

/-- What two members of a record are given as, each under its names or in its place. -/
inductive GivesTwo (names names' : List String) (isOptional isOptional' : Bool)
    (First : List UInt8 → α → Prop) (Second : List UInt8 → β → Prop) (written : List UInt8) :
    Option α → Option β → Prop where
  | object {members : List (String × List UInt8)} {first? : Option α} {second? : Option β}
      (isObject : IsObject members written) (first : Gives names First members first?)
      (second : Gives names' Second members second?) :
      GivesTwo names names' isOptional isOptional' First Second written first? second?
  | neither (isArray : IsArray [] written) (first_optional : isOptional)
      (second_optional : isOptional') :
      GivesTwo names names' isOptional isOptional' First Second written none none
  | one {element : List UInt8} {first : α} (isArray : IsArray [element] written)
      (means : First element first) (second_optional : isOptional') :
      GivesTwo names names' isOptional isOptional' First Second written (some first) none
  | two {element other : List UInt8} {first : α} {second : β}
      (isArray : IsArray [element, other] written) (means : First element first)
      (other_means : Second other second) :
      GivesTwo names names' isOptional isOptional' First Second written (some first) (some second)

/-- A record that keeps its two members apart, and reads each of them exactly. -/
structure KeepsTwo (shape : RecordShape draft value) (make : Option α → Option β → draft)
    (first second : Member draft) (First : List UInt8 → α → Prop)
    (Second : List UInt8 → β → Prop) : Prop where
  members_eq : shape.members = [first, second]
  start_eq : shape.start = make none none
  covers : ∀ gathered, ∃ first? second?, make first? second? = gathered
  apart : ∀ name ∈ first.names, name ∉ second.names
  first_given : ∀ first? second?, first.isGiven (make first? second?) = first?.isSome
  second_given : ∀ first? second?, second.isGiven (make first? second?) = second?.isSome
  first_exact : ∀ first? second?, ReadsExactly (first.readInto (make first? second?))
    fun written next => ∃ value, First written value ∧ make (some value) second? = next
  second_exact : ∀ first? second?, ReadsExactly (second.readInto (make first? second?))
    fun written next => ∃ value, Second written value ∧ make first? (some value) = next

/-- The first of two things for one side and the second for the other, which may be of its type. -/
def onSides {γ : Bool → Type*} (first : γ false) (second : γ true) : ∀ side, γ side
  | false => first
  | true => second

/-- The type of the first member or of the second. -/
abbrev SideType (α β : Type) : Bool → Type :=
  onSides α β

/-- What the first member means or what the second does. -/
abbrev sideMeans (First : List UInt8 → α → Prop) (Second : List UInt8 → β → Prop) :
    ∀ side, List UInt8 → SideType α β side → Prop :=
  onSides First Second

namespace KeepsTwo

variable {shape : RecordShape draft value} {make : Option α → Option β → draft}
  {first second : Member draft} {First : List UInt8 → α → Prop} {Second : List UInt8 → β → Prop}
  {parts : ∀ side, Option (SideType α β side)}

theorem keepsApart (keeps : KeepsTwo shape make first second First Second) :
    KeepsApart shape [false, true] (onSides first second)
      (fun parts : ∀ side, Option (SideType α β side) => make (parts false) (parts true))
      (sideMeans First Second) where
  members_eq := keeps.members_eq
  all_mem := by decide
  nodup := by decide
  start_eq := keeps.start_eq
  covers gathered := by
    rcases keeps.covers gathered with ⟨first?, second?, rfl⟩
    exact ⟨onSides first? second?, rfl⟩
  apart := by
    rintro (_ | _) (_ | _) name isNamed alsoNamed
    · rfl
    · exact absurd alsoNamed (keeps.apart name isNamed)
    · exact absurd isNamed (keeps.apart name alsoNamed)
    · rfl
  isGiven_eq
    | false, parts => keeps.first_given (parts false) (parts true)
    | true, parts => keeps.second_given (parts false) (parts true)
  exact
    | false, parts => keeps.first_exact (parts false) (parts true)
    | true, parts => keeps.second_exact (parts false) (parts true)

theorem givesParts_iff : GivesParts [false, true] (onSides first second) (sideMeans First Second)
      written parts ↔
    GivesTwo first.names second.names first.isOptional second.isOptional First Second written
      (parts false) (parts true) := by
  constructor
  · rintro (⟨isObject, gives⟩ | ⟨isArray, gives⟩)
    · exact .object isObject (gives false) (gives true)
    · rcases gives with _ | ⟨first_optional, first_eq, gives⟩ | ⟨means, first_eq, gives⟩
      · rcases gives with _ | ⟨second_optional, second_eq, ⟨⟩⟩
        rw [first_eq, second_eq]
        exact .neither isArray first_optional second_optional
      · rcases gives with _ | ⟨second_optional, second_eq, ⟨⟩⟩ | ⟨other_means, second_eq, ⟨⟩⟩
        · rw [first_eq, second_eq]
          exact .one isArray means second_optional
        · rw [first_eq, second_eq]
          exact .two isArray means other_means
  · generalize first_eq : parts false = first?
    generalize second_eq : parts true = second?
    rintro (⟨isObject, first_gives, second_gives⟩ | ⟨isArray, first_optional, second_optional⟩ |
      ⟨isArray, means, second_optional⟩ | ⟨isArray, means, other_means⟩)
    · refine .object isObject ?_
      rintro (_ | _)
      · rw [first_eq]
        exact first_gives
      · rw [second_eq]
        exact second_gives
    · exact .array isArray (.absent first_optional first_eq
        (.absent second_optional second_eq .nil))
    · exact .array isArray (.given means first_eq (.absent second_optional second_eq .nil))
    · exact .array isArray (.given means first_eq (.given other_means second_eq .nil))

/-- The record is read from what gives its two members, and from nothing else. -/
theorem readsExactly_read (keeps : KeepsTwo shape make first second First Second) :
    ReadsExactly shape.read fun written result => ∃ first? second?,
      GivesTwo first.names second.names first.isOptional second.isOptional First Second written
        first? second? ∧
      shape.finish (make first? second?) = .ok result := by
  refine keeps.keepsApart.readsExactly_read.congr fun written result => ?_
  constructor
  · rintro ⟨parts, gives, finished⟩
    exact ⟨parts false, parts true, givesParts_iff.1 gives, finished⟩
  · rintro ⟨first?, second?, gives, finished⟩
    exact ⟨onSides first? second?, givesParts_iff.2 gives, finished⟩

end KeepsTwo

end Json

end ScriptedFeed
