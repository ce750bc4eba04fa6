import ScriptedFeed.Proofs.Json.Members

/-!
# Records that keep their members apart

Whether a member of a record is known, and what it is read as, often does not depend on the other
members. Of such a record an object gives each member at most once, under any of its names and in
any place; what else the object holds does not matter. An array gives the members in their order, of
which the last may be absent. The record is read from nothing else.
-/

namespace ScriptedFeed

namespace Json

variable {ι draft value β : Type} {α : ι → Type} {written : List UInt8}
  {members : List (String × List UInt8)}

/-- The names that a member goes by. -/
def Member.names (member : Member draft) : List String :=
  member.name :: member.aliases

/-- The members of an object give a value under some names, or none of them has such a name. -/
inductive Gives (names : List String) (Means : List UInt8 → β → Prop)
    (members : List (String × List UInt8)) : Option β → Prop where
  | absent (filter_eq : members.filter (·.1 ∈ names) = []) : Gives names Means members none
  | present {name : String} {written : List UInt8} {value : β}
      (filter_eq : members.filter (·.1 ∈ names) = [(name, written)]) (means : Means written value) :
      Gives names Means members (some value)

/-- What a member comes to be, from what it is before, over the members of an object. -/
inductive Adds (names : List String) (Means : List UInt8 → β → Prop) :
    List (String × List UInt8) → Option β → Option β → Prop where
  | nil (value? : Option β) : Adds names Means [] value? value?
  | other {name : String} {written : List UInt8} {members : List (String × List UInt8)}
      {value? last? : Option β} (not_named : name ∉ names)
      (adds : Adds names Means members value? last?) :
      Adds names Means ((name, written) :: members) value? last?
  | named {name : String} {written : List UInt8} {members : List (String × List UInt8)}
      {value : β} {last? : Option β} (isNamed : name ∈ names) (means : Means written value)
      (adds : Adds names Means members (some value) last?) :
      Adds names Means ((name, written) :: members) none last?

/-- The elements of an array give the parts of a record in an order, up to some that are absent. -/
inductive GivesInOrder (part : ι → Member draft) (Means : ∀ i, List UInt8 → α i → Prop)
    (parts : ∀ i, Option (α i)) : List ι → List (List UInt8) → Prop where
  | nil : GivesInOrder part Means parts [] []
  | absent {i : ι} {order : List ι} (isOptional : (part i).isOptional) (part_eq : parts i = none)
      (gives : GivesInOrder part Means parts order []) :
      GivesInOrder part Means parts (i :: order) []
  | given {i : ι} {order : List ι} {written : List UInt8} {elements : List (List UInt8)}
      {value : α i} (means : Means i written value) (part_eq : parts i = some value)
      (gives : GivesInOrder part Means parts order elements) :
      GivesInOrder part Means parts (i :: order) (written :: elements)

/-- What the parts of a record are given as, each under its names or in its place. -/
inductive GivesParts (order : List ι) (part : ι → Member draft)
    (Means : ∀ i, List UInt8 → α i → Prop) (written : List UInt8) (parts : ∀ i, Option (α i)) :
    Prop where
  | object {members : List (String × List UInt8)} (isObject : IsObject members written)
      (gives : ∀ i, Gives (part i).names (Means i) members (parts i)) :
      GivesParts order part Means written parts
  | array {elements : List (List UInt8)} (isArray : IsArray elements written)
      (gives : GivesInOrder part Means parts order elements) :
      GivesParts order part Means written parts

/-- A record that keeps its parts apart, and reads each of them exactly. -/
structure KeepsApart [DecidableEq ι] (shape : RecordShape draft value) (order : List ι)
    (part : ι → Member draft) (make : (∀ i, Option (α i)) → draft)
    (Means : ∀ i, List UInt8 → α i → Prop) : Prop where
  members_eq : shape.members = order.map part
  all_mem : ∀ i, i ∈ order
  nodup : order.Nodup
  start_eq : shape.start = make fun _ => none
  covers : ∀ gathered, ∃ parts, make parts = gathered
  apart : ∀ {i j name}, name ∈ (part i).names → name ∈ (part j).names → i = j
  isGiven_eq : ∀ i parts, (part i).isGiven (make parts) = (parts i).isSome
  exact : ∀ i parts, ReadsExactly ((part i).readInto (make parts)) fun written next =>
    ∃ value, Means i written value ∧ make (Function.update parts i (some value)) = next

section Gives

variable {names : List String} {Means : List UInt8 → β → Prop} {value? : Option β}

/-- A member is given among other members too, if these are the same under its names. -/
theorem Gives.of_filter_eq {others : List String} {more : List (String × List UInt8)}
    (gives : Gives names Means members value?)
    (same : more.filter (·.1 ∈ others) = members.filter (·.1 ∈ names)) :
    Gives others Means more value? := by
  rcases gives with ⟨absent⟩ | ⟨present, means⟩
  · exact .absent (same.trans absent)
  · exact .present (same.trans present) means

/-- A member is given under other names too, if no member of the object tells them apart. -/
theorem Gives.congr {others : List String} (gives : Gives names Means members value?)
    (same : ∀ member ∈ members, member.1 ∈ names ↔ member.1 ∈ others) :
    Gives others Means members value? :=
  gives.of_filter_eq <| List.filter_congr fun member member_mem => by simp [same member member_mem]

theorem adds_nil_iff {last? : Option β} : Adds names Means [] value? last? ↔ value? = last? := by
  constructor
  · rintro ⟨⟩
    rfl
  · rintro rfl
    exact .nil _

theorem adds_cons_iff_of_mem {name : String} {last? : Option β} (isNamed : name ∈ names) :
    Adds names Means ((name, written) :: members) value? last? ↔ value? = none ∧
      ∃ value, Means written value ∧ Adds names Means members (some value) last? := by
  constructor
  · rintro (_ | ⟨not_named, _⟩ | ⟨_, means, adds⟩)
    · exact absurd isNamed not_named
    · exact ⟨rfl, _, means, adds⟩
  · rintro ⟨rfl, value, means, adds⟩
    exact .named isNamed means adds

theorem adds_cons_iff_of_notMem {name : String} {last? : Option β} (not_named : name ∉ names) :
    Adds names Means ((name, written) :: members) value? last? ↔
      Adds names Means members value? last? := by
  constructor
  · rintro (_ | ⟨_, adds⟩ | ⟨isNamed, _, _⟩)
    · exact adds
    · exact absurd isNamed not_named
  · exact .other not_named

theorem adds_some_iff {value : β} :
    Adds names Means members (some value) value? ↔
      members.filter (·.1 ∈ names) = [] ∧ value? = some value := by
  induction members with
  | nil => simp [adds_nil_iff, eq_comm]
  | cons member members ih =>
      rcases member with ⟨name, written⟩
      by_cases isNamed : name ∈ names
      · simp [adds_cons_iff_of_mem isNamed, isNamed]
      · simp [adds_cons_iff_of_notMem isNamed, isNamed, ih]

/-- Over all the members of an object, a member that is not known before is given once or never. -/
theorem adds_none_iff :
    Adds names Means members none value? ↔ Gives names Means members value? := by
  induction members with
  | nil =>
      rw [adds_nil_iff]
      constructor
      · rintro rfl
        exact .absent rfl
      · rintro (⟨_⟩ | ⟨filter_eq, _⟩)
        · rfl
        · cases filter_eq
  | cons member members ih =>
      rcases member with ⟨name, written⟩
      by_cases isNamed : name ∈ names
      · have filter_eq : ((name, written) :: members).filter (·.1 ∈ names) =
            (name, written) :: members.filter (·.1 ∈ names) := by simp [isNamed]
        simp only [adds_cons_iff_of_mem isNamed, adds_some_iff, true_and]
        constructor
        · rintro ⟨value, means, others_eq, rfl⟩
          exact .present (filter_eq.trans (by rw [others_eq])) means
        · rintro (⟨none_eq⟩ | ⟨one_eq, means⟩)
          · rw [filter_eq] at none_eq
            cases none_eq
          · rw [filter_eq, List.cons.injEq, Prod.mk.injEq] at one_eq
            rcases one_eq with ⟨⟨rfl, rfl⟩, others_eq⟩
            exact ⟨_, means, others_eq, rfl⟩
      · have filter_eq : ((name, written) :: members).filter (·.1 ∈ names) =
            members.filter (·.1 ∈ names) := by simp [isNamed]
        rw [adds_cons_iff_of_notMem isNamed, ih]
        exact ⟨fun gives => gives.of_filter_eq filter_eq,
          fun gives => gives.of_filter_eq filter_eq.symm⟩

end Gives

section Order

variable {part : ι → Member draft} {Means : ∀ i, List UInt8 → α i → Prop}
  {parts : ∀ i, Option (α i)} {order : List ι} {elements : List (List UInt8)}

/-- What holds at every place of a list holds at the first one and at those after it. -/
theorem forall_places_cons_iff {i : ι} {Holds : Nat → ι → Prop} :
    (∀ k j, (i :: order)[k]? = some j → Holds k j) ↔
      Holds 0 i ∧ ∀ k j, order[k]? = some j → Holds (k + 1) j := by
  constructor
  · intro all
    exact ⟨all 0 i rfl, fun k => all (k + 1)⟩
  · rintro ⟨first, others⟩ k j found
    cases k with
    | zero =>
        cases found
        exact first
    | succ k => exact others k j found

/-- Parts that may all be absent are given in their places, as far as there are elements. -/
theorem givesInOrder_iff (all_optional : ∀ i ∈ order, (part i).isOptional) :
    GivesInOrder part Means parts order elements ↔ elements.length ≤ order.length ∧
      ∀ (k : Nat) (i : ι), order[k]? = some i → Option.Rel (Means i) elements[k]? (parts i) := by
  induction order generalizing elements with
  | nil =>
      constructor
      · rintro ⟨⟩
        simp
      · rintro ⟨length_le, -⟩
        rw [List.eq_nil_of_length_eq_zero (Nat.le_zero.1 length_le)]
        exact .nil
  | cons i order ih =>
      rcases List.forall_mem_cons.1 all_optional with ⟨first_optional, others_optional⟩
      rw [forall_places_cons_iff]
      constructor
      · rintro (_ | ⟨-, part_eq, gives⟩ | ⟨means, part_eq, gives⟩)
        · rcases (ih others_optional).1 gives with ⟨-, others_rel⟩
          rw [part_eq]
          exact ⟨Nat.zero_le _, .none, others_rel⟩
        · rcases (ih others_optional).1 gives with ⟨length_le, others_rel⟩
          rw [part_eq]
          exact ⟨Nat.succ_le_succ length_le, .some means, others_rel⟩
      · rintro ⟨length_le, first_rel, others_rel⟩
        generalize part_eq : parts i = part? at first_rel
        cases elements with
        | nil =>
            rcases first_rel with _ | _
            exact .absent first_optional part_eq
              ((ih others_optional).2 ⟨Nat.zero_le _, others_rel⟩)
        | cons written elements =>
            rcases first_rel with ⟨means⟩ | _
            exact .given means part_eq
              ((ih others_optional).2 ⟨Nat.le_of_succ_le_succ length_le, others_rel⟩)

end Order

namespace KeepsApart

variable [DecidableEq ι] {shape : RecordShape draft value} {order : List ι}
  {part : ι → Member draft} {make : (∀ i, Option (α i)) → draft}
  {Means : ∀ i, List UInt8 → α i → Prop} {parts : ∀ i, Option (α i)} {last : draft}
  {name : String} {i : ι}

theorem mem_names_iff {member : Member draft} :
    (member.name == name || member.aliases.contains name) = true ↔ name ∈ member.names := by
  rw [Member.names, List.mem_cons, Bool.or_eq_true, beq_iff_eq, List.contains_iff_mem,
    eq_comm (a := name)]

/-- A part is found under each of its names. -/
theorem member?_eq_some (keeps : KeepsApart shape order part make Means)
    (isNamed : name ∈ (part i).names) : shape.member? name = some (part i) := by
  have part_mem : part i ∈ shape.members := by
    rw [keeps.members_eq]
    exact List.mem_map_of_mem (keeps.all_mem i)
  cases found : shape.member? name with
  | none =>
      rw [RecordShape.member?, List.find?_eq_none] at found
      exact absurd (mem_names_iff.2 isNamed) (found _ part_mem)
  | some member =>
      rw [RecordShape.member?] at found
      have isFound := List.find?_some found
      have member_mem := List.mem_of_find?_eq_some found
      rw [keeps.members_eq, List.mem_map] at member_mem
      rcases member_mem with ⟨j, -, rfl⟩
      rw [keeps.apart isNamed (mem_names_iff.1 isFound)]

theorem member?_eq_none (keeps : KeepsApart shape order part make Means)
    (not_named : ∀ i, name ∉ (part i).names) : shape.member? name = none := by
  rw [RecordShape.member?, keeps.members_eq, List.find?_eq_none]
  intro member member_mem
  rcases List.mem_map.1 member_mem with ⟨i, -, rfl⟩
  exact mt mem_names_iff.1 (not_named i)

theorem allExact (keeps : KeepsApart shape order part make Means) : shape.AllExact := by
  intro member member_mem gathered
  rw [keeps.members_eq] at member_mem
  rcases List.mem_map.1 member_mem with ⟨i, -, rfl⟩
  rcases keeps.covers gathered with ⟨parts, rfl⟩
  exact (keeps.exact i parts).isExact

/-- A member of an object gives the part that it names, which was not given before it. -/
theorem gathersOne_iff_of_mem (keeps : KeepsApart shape order part make Means)
    (isNamed : name ∈ (part i).names) :
    GathersOne shape name written (make parts) last ↔ parts i = none ∧
      ∃ value, Means i written value ∧ make (Function.update parts i (some value)) = last := by
  have found := keeps.member?_eq_some isNamed
  constructor
  · rintro (⟨member, member_eq, isNew, accepts⟩ | ⟨not_found, -⟩)
    · rw [found] at member_eq
      cases member_eq
      rw [keeps.isGiven_eq, Option.isSome_eq_false_iff, Option.isNone_iff_eq_none] at isNew
      exact ⟨isNew, (keeps.exact i parts).accepts_iff.1 accepts⟩
    · rw [found] at not_found
      cases not_found
  · rintro ⟨isNew, means⟩
    exact .known (part i) found (by rw [keeps.isGiven_eq, isNew]; rfl)
      ((keeps.exact i parts).accepts means)

/-- A member of an object that names no part is passed over. -/
theorem gathersOne_iff_of_notMem (keeps : KeepsApart shape order part make Means)
    (not_named : ∀ i, name ∉ (part i).names) :
    GathersOne shape name written (make parts) last ↔ IsValue written ∧ make parts = last := by
  have not_found := keeps.member?_eq_none not_named
  constructor
  · rintro (⟨member, member_eq, -, -⟩ | ⟨-, isValue⟩)
    · rw [not_found] at member_eq
      cases member_eq
    · exact ⟨isValue, rfl⟩
  · rintro ⟨isValue, rfl⟩
    exact .unknown not_found isValue

/-- A member adds the part that it names, and the members after it add the others. -/
theorem forall_adds_cons_iff (keeps : KeepsApart shape order part make Means)
    (isNamed : name ∈ (part i).names) {lasts : ∀ i, Option (α i)} :
    (∀ j, Adds (part j).names (Means j) ((name, written) :: members) (parts j) (lasts j)) ↔
      parts i = none ∧ ∃ value, Means i written value ∧
        ∀ j, Adds (part j).names (Means j) members (Function.update parts i (some value) j)
          (lasts j) := by
  have others_not_named {j : ι} (other : j ≠ i) : name ∉ (part j).names :=
    fun otherNamed => other (keeps.apart otherNamed isNamed)
  constructor
  · intro all_add
    rcases (adds_cons_iff_of_mem isNamed).1 (all_add i) with ⟨isNew, value, means, adds⟩
    refine ⟨isNew, value, means, fun j => ?_⟩
    by_cases same : j = i
    · subst same
      rwa [Function.update_self]
    · rw [Function.update_of_ne same]
      exact (adds_cons_iff_of_notMem (others_not_named same)).1 (all_add j)
  · rintro ⟨isNew, value, means, all_add⟩ j
    have adds := all_add j
    by_cases same : j = i
    · subst same
      rw [Function.update_self] at adds
      exact (adds_cons_iff_of_mem isNamed).2 ⟨isNew, value, means, adds⟩
    · rw [Function.update_of_ne same] at adds
      exact (adds_cons_iff_of_notMem (others_not_named same)).2 adds

/-- The members of an object are gathered if each part is given once at most. -/
theorem gathersNamed_iff (keeps : KeepsApart shape order part make Means) :
    GathersNamed shape members (make parts) last ↔
      (∀ member ∈ members, IsValue member.2) ∧ ∃ lasts,
        (∀ i, Adds (part i).names (Means i) members (parts i) (lasts i)) ∧ make lasts = last := by
  induction members generalizing parts with
  | nil =>
      constructor
      · rintro ⟨⟩
        exact ⟨by simp, parts, fun i => .nil _, rfl⟩
      · rintro ⟨-, lasts, all_add, rfl⟩
        have lasts_eq : lasts = parts := funext fun i => (adds_nil_iff.1 (all_add i)).symm
        rw [lasts_eq]
        exact .nil _
  | cons member members ih =>
      rcases member with ⟨name, written⟩
      rw [List.forall_mem_cons]
      by_cases named : ∃ i, name ∈ (part i).names
      · rcases named with ⟨i, isNamed⟩
        constructor
        · rintro (_ | ⟨gathersOne, gathers⟩)
          have isValue := gathersOne.isValue
          rcases (keeps.gathersOne_iff_of_mem isNamed).1 gathersOne with
            ⟨isNew, value, means, rfl⟩
          rcases ih.1 gathers with ⟨all_values, lasts, all_add, rfl⟩
          exact ⟨⟨isValue, all_values⟩, lasts,
            (keeps.forall_adds_cons_iff isNamed).2 ⟨isNew, value, means, all_add⟩, rfl⟩
        · rintro ⟨⟨isValue, all_values⟩, lasts, all_add, rfl⟩
          rcases (keeps.forall_adds_cons_iff isNamed).1 all_add with
            ⟨isNew, value, means, others_add⟩
          exact .cons ((keeps.gathersOne_iff_of_mem isNamed).2 ⟨isNew, value, means, rfl⟩)
            (ih.2 ⟨all_values, lasts, others_add, rfl⟩)
      · have not_named : ∀ i, name ∉ (part i).names := not_exists.1 named
        simp only [adds_cons_iff_of_notMem (not_named _)]
        constructor
        · rintro (_ | ⟨gathersOne, gathers⟩)
          rcases (keeps.gathersOne_iff_of_notMem not_named).1 gathersOne with ⟨isValue, rfl⟩
          rcases ih.1 gathers with ⟨all_values, others⟩
          exact ⟨⟨isValue, all_values⟩, others⟩
        · rintro ⟨⟨isValue, all_values⟩, others⟩
          exact .cons ((keeps.gathersOne_iff_of_notMem not_named).2 ⟨isValue, rfl⟩)
            (ih.2 ⟨all_values, others⟩)

/-- Elements are gathered if they give the parts that are left, and these keep the others. -/
theorem gathersInOrder_iff (keeps : KeepsApart shape order part make Means) {left : List ι}
    {elements : List (List UInt8)} (nodup : left.Nodup) (all_new : ∀ i ∈ left, parts i = none) :
    GathersInOrder (left.map part) elements (make parts) last ↔ ∃ lasts,
      (∀ i ∉ left, lasts i = parts i) ∧ GivesInOrder part Means lasts left elements ∧
        make lasts = last := by
  induction left generalizing parts elements with
  | nil =>
      constructor
      · rintro ⟨⟩
        exact ⟨parts, fun _ _ => rfl, .nil, rfl⟩
      · rintro ⟨lasts, same, ⟨⟩, rfl⟩
        have lasts_eq : lasts = parts := funext fun i => same i List.not_mem_nil
        rw [lasts_eq]
        exact .nil _
  | cons i left ih =>
      rcases List.nodup_cons.1 nodup with ⟨first_notMem, left_nodup⟩
      rcases List.forall_mem_cons.1 all_new with ⟨first_new, left_new⟩
      have update_new (value : α i) :
          ∀ j ∈ left, Function.update parts i (some value) j = none := by
        intro j j_mem
        rw [Function.update_of_ne (ne_of_mem_of_not_mem j_mem first_notMem), left_new j j_mem]
      rw [List.map_cons]
      constructor
      · rintro (_ | ⟨isOptional, gathers⟩ | ⟨accepts, gathers⟩)
        · rcases (ih left_nodup left_new).1 gathers with ⟨lasts, same, gives, rfl⟩
          refine ⟨lasts, fun j j_notMem => same j (List.not_mem_of_not_mem_cons j_notMem),
            .absent isOptional ?_ gives, rfl⟩
          rw [same i first_notMem, first_new]
        · rcases (keeps.exact i parts).accepts_iff.1 accepts with ⟨value, means, rfl⟩
          rcases (ih left_nodup (update_new value)).1 gathers with ⟨lasts, same, gives, rfl⟩
          refine ⟨lasts, fun j j_notMem => ?_, .given means ?_ gives, rfl⟩
          · rw [same j (List.not_mem_of_not_mem_cons j_notMem),
              Function.update_of_ne (List.ne_of_not_mem_cons j_notMem)]
          · rw [same i first_notMem, Function.update_self]
      · rintro ⟨lasts, same, gives, rfl⟩
        rcases gives with _ | ⟨isOptional, part_eq, gives⟩ | ⟨means, part_eq, gives⟩
        · refine .absent isOptional ((ih left_nodup left_new).2 ⟨lasts, fun j j_notMem => ?_,
            gives, rfl⟩)
          by_cases isFirst : j = i
          · subst isFirst
            rw [part_eq, first_new]
          · exact same j (by simp [isFirst, j_notMem])
        · next value =>
          refine .given ((keeps.exact i parts).accepts ⟨value, means, rfl⟩)
            ((ih left_nodup (update_new value)).2 ⟨lasts, fun j j_notMem => ?_, gives, rfl⟩)
          by_cases isFirst : j = i
          · subst isFirst
            rw [part_eq, Function.update_self]
          · rw [Function.update_of_ne isFirst]
            exact same j (by simp [isFirst, j_notMem])

/-- The record is what its parts are given as, in either of its forms. -/
theorem means_iff (keeps : KeepsApart shape order part make Means) {result : value} :
    shape.Means written result ↔ ∃ parts, GivesParts order part Means written parts ∧
      shape.finish (make parts) = .ok result := by
  have in_order_iff (elements : List (List UInt8)) (gathered : draft) :
      GathersInOrder shape.members elements shape.start gathered ↔ ∃ lasts,
        GivesInOrder part Means lasts order elements ∧ make lasts = gathered := by
    rw [keeps.members_eq, keeps.start_eq, keeps.gathersInOrder_iff keeps.nodup fun _ _ => rfl]
    constructor
    · rintro ⟨lasts, -, gives, rfl⟩
      exact ⟨lasts, gives, rfl⟩
    · rintro ⟨lasts, gives, rfl⟩
      exact ⟨lasts, fun i i_notMem => absurd (keeps.all_mem i) i_notMem, gives, rfl⟩
  constructor
  · rintro (⟨isObject, gathers, finished⟩ | ⟨isArray, gathers, finished⟩)
    · rw [keeps.start_eq] at gathers
      rcases keeps.gathersNamed_iff.1 gathers with ⟨-, parts, all_add, rfl⟩
      exact ⟨parts, .object isObject fun i => adds_none_iff.1 (all_add i), finished⟩
    · rcases (in_order_iff _ _).1 gathers with ⟨parts, gives, rfl⟩
      exact ⟨parts, .array isArray gives, finished⟩
  · rintro ⟨parts, ⟨isObject, gives⟩ | ⟨isArray, gives⟩, finished⟩
    · have gathers := keeps.gathersNamed_iff.2
        ⟨isObject.all_isValue, parts, fun i => adds_none_iff.2 (gives i), rfl⟩
      rw [← keeps.start_eq] at gathers
      exact .object isObject gathers finished
    · exact .array isArray ((in_order_iff _ _).2 ⟨parts, gives, rfl⟩) finished

/-- The record is read from what gives its parts, and from nothing else. -/
theorem readsExactly_read (keeps : KeepsApart shape order part make Means) :
    ReadsExactly shape.read fun written result => ∃ parts,
      GivesParts order part Means written parts ∧ shape.finish (make parts) = .ok result :=
  keeps.allExact.readsExactly_read.congr fun _ _ => keeps.means_iff

end KeepsApart

end Json

end ScriptedFeed
