import ScriptedFeed.Proofs.Json.Separators

/-!
# Arrays and records are read part by part

The outcome of reading an array is made from those of its elements, and the outcome of reading a
record from those of its members, from the first on: the first fault among them is the fault of the
whole. Commas and closing bytes end every number that stands before them, so the parts are read one
after another, whatever they are.
-/

namespace ScriptedFeed

namespace Json

variable {α ι draft value : Type}

section Array

variable {element : Reader α} {write : ι → List Char} {outcome : ι → Except Fault α}

theorem endsNumber_closeBracket (rest : List UInt8) : EndsNumber (closeBracket :: rest) :=
  endsNumber_cons (by decide) rest

theorem nextItem?_closeBracket (isFirst : Bool) (rest : List UInt8) :
    Frame.array.nextItem? isFirst (closeBracket :: rest) = .ok none :=
  nextItem?_close .array isFirst IsBlanks.nil rest

theorem StartsValue.nextItem?_first {written : List Char} (starts : StartsValue written)
    (rest : List UInt8) : Frame.array.nextItem? true (Text.encodeUtf8 written ++ rest) =
      .ok (some (Text.encodeUtf8 written ++ rest)) :=
  IsGap.first.nextItem?_array IsBlanks.nil starts rest

theorem StartsValue.nextItem?_comma {written : List Char} (starts : StartsValue written)
    (rest : List UInt8) :
    Frame.array.nextItem? false (Text.comma :: (Text.encodeUtf8 written ++ rest)) =
      .ok (some (Text.encodeUtf8 written ++ rest)) :=
  (IsGap.later IsBlanks.nil).nextItem?_array IsBlanks.nil starts rest

theorem separated_cons (written : List Char) (others : List (List Char)) :
    separated (written :: others) = written ++ others.flatMap (',' :: ·) := by
  induction others generalizing written with
  | nil => simp [separated]
  | cons other others ih => simp [separated, ih]

/-- Each further thing written stands behind a comma. -/
theorem encodeUtf8_flatMap_cons (written : List Char) (writtens : List (List Char)) :
    Text.encodeUtf8 ((written :: writtens).flatMap (',' :: ·)) =
      Text.comma :: (Text.encodeUtf8 written ++
        Text.encodeUtf8 (writtens.flatMap (',' :: ·))) := by
  rw [List.flatMap_cons, List.cons_append, Text.encodeUtf8_cons_of_lt (by decide),
    Text.encodeUtf8_append]
  rfl

theorem endsNumber_flatMap {rest : List UInt8} (ends : EndsNumber rest)
    (writtens : List (List Char)) :
    EndsNumber (Text.encodeUtf8 (writtens.flatMap (',' :: ·)) ++ rest) := by
  cases writtens with
  | nil => exact ends
  | cons written writtens => exact endsNumber_cons (by decide) _

theorem length_le_length_flatMap (writtens : List (List Char)) :
    writtens.length ≤ (Text.encodeUtf8 (writtens.flatMap (',' :: ·))).length := by
  induction writtens with
  | nil => simp
  | cons written writtens ih =>
      rw [encodeUtf8_flatMap_cons, List.length_cons, List.length_cons, List.length_append]
      omega

/-- Once the next element is found, its outcome is followed by that of the others. -/
theorem readElements_cons {written : List Char} {result : Except Fault α}
    {others : Except Fault (List α)} {isFirst : Bool} {fuel bytes rest last : List UInt8}
    (reads : Reads element written result) (ends : EndsNumber rest)
    (next_eq : Frame.array.nextItem? isFirst bytes = .ok (some (Text.encodeUtf8 written ++ rest)))
    (others_eq : (readElements element fuel false rest).mapError Failure.fault =
      others.map fun values => (values, last)) (spent : UInt8) :
    (readElements element (spent :: fuel) isFirst bytes).mapError Failure.fault =
      (do return (← result) :: (← others) : Except Fault (List α)).map fun values =>
        (values, last) := by
  rw [readElements, next_eq, except_ok_bind]
  simp only [reads.mapError_bind ends, mapError_bind, others_eq, bind_map_pair]
  cases result with
  | error fault => rfl
  | ok value => cases others <;> rfl

theorem readElements_flatMap {items : List ι}
    (all_read : ∀ item ∈ items, Reads element (write item) (outcome item)) {fuel : List UInt8}
    (length_lt : items.length < fuel.length) (rest : List UInt8) :
    (readElements element fuel false
      (Text.encodeUtf8 ((items.map write).flatMap (',' :: ·)) ++ closeBracket :: rest)).mapError
        Failure.fault =
      (items.mapM outcome).map fun values => (values, closeBracket :: rest) := by
  induction items generalizing fuel with
  | nil =>
      cases fuel with
      | nil => simp at length_lt
      | cons _ fuel =>
          simp only [List.map_nil, List.flatMap_nil, Text.encodeUtf8_nil, List.nil_append,
            readElements, nextItem?_closeBracket]
          rfl
  | cons item items ih =>
      rcases List.forall_mem_cons.1 all_read with ⟨item_reads, others_read⟩
      cases fuel with
      | nil => simp at length_lt
      | cons spent fuel =>
          have ends := endsNumber_flatMap (endsNumber_closeBracket rest) (items.map write)
          have others := ih others_read (Nat.lt_of_succ_lt_succ length_lt)
          rw [List.map_cons, encodeUtf8_flatMap_cons, List.cons_append, List.append_assoc,
            List.mapM_cons]
          exact readElements_cons item_reads ends (item_reads.starts.nextItem?_comma _) others
            spent

theorem readElements_separated {items : List ι}
    (all_read : ∀ item ∈ items, Reads element (write item) (outcome item)) (rest : List UInt8) :
    let bytes := Text.encodeUtf8 (separated (items.map write)) ++ closeBracket :: rest
    (readElements element bytes true bytes).mapError Failure.fault =
      (items.mapM outcome).map fun values => (values, closeBracket :: rest) := by
  cases items with
  | nil =>
      simp only [List.map_nil, separated, Text.encodeUtf8_nil, List.nil_append, readElements,
        nextItem?_closeBracket]
      rfl
  | cons item items =>
      rcases List.forall_mem_cons.1 all_read with ⟨item_reads, others_read⟩
      have ends := endsNumber_flatMap (endsNumber_closeBracket rest) (items.map write)
      have length_le := length_le_length_flatMap (items.map write)
      rw [List.length_map] at length_le
      simp only [List.map_cons, separated_cons, Text.encodeUtf8_append, List.append_assoc]
      rcases item_reads.starts with ⟨byte, bytes, written_eq, -⟩
      let after := Text.encodeUtf8 ((items.map write).flatMap (',' :: ·)) ++ closeBracket :: rest
      have length_lt : items.length < (bytes ++ after).length := by
        simp only [after, List.length_append, List.length_cons]
        omega
      have read := readElements_cons item_reads ends (item_reads.starts.nextItem?_first after)
        (readElements_flatMap others_read length_lt rest) byte
      rwa [← List.cons_append, ← written_eq, ← List.mapM_cons] at read

/-- An array is read element by element. -/
theorem reads_writeArray {items : List ι}
    (all_read : ∀ item ∈ items, Reads element (write item) (outcome item)) :
    Reads (readArray element) (writeArray (items.map write)) (items.mapM outcome) := by
  have written_eq : Text.encodeUtf8 (writeArray (items.map write)) =
      openBracket :: (Text.encodeUtf8 (separated (items.map write)) ++ [closeBracket]) := by
    rw [writeArray, List.cons_append, Text.encodeUtf8_cons_of_lt (by decide),
      Text.encodeUtf8_append]
    rfl
  refine ⟨⟨_, _, written_eq, by decide⟩, fun rest _ => ?_⟩
  have lead_eq : leadOf openBracket = .array := rfl
  rw [written_eq, List.cons_append, List.append_assoc, List.singleton_append, readArray,
    skipBlanks_cons (by decide)]
  simp only [lead_eq, mapError_bind, readElements_separated all_read rest, bind_map_pair]
  cases items.mapM outcome <;> rfl

end Array

section Record

variable {shape : RecordShape draft value} {members : List (String × List Char)} {gathered : draft}
  {outcome : Except Fault draft}

/--
The outcome of gathering members with their written values, one after another. None of them was
given before.
-/
inductive Gathers (shape : RecordShape draft value) :
    List (String × List Char) → draft → Except Fault draft → Prop where
  | nil (gathered : draft) : Gathers shape [] gathered (.ok gathered)
  | cons {name : String} {written : List Char} {members : List (String × List Char)}
      {gathered : draft} {result : Except Fault draft} {later : draft → Except Fault draft}
      (member : Member draft) (found : shape.member? name = some member)
      (isNew : member.isGiven gathered = false)
      (reads : Reads (member.readInto gathered) written result)
      (gathers : ∀ next, result = .ok next → Gathers shape members next (later next)) :
      Gathers shape ((name, written) :: members) gathered (result >>= later)

/-- A member that is read without a fault leaves the outcome to those after it. -/
theorem Gathers.cons_ok {name : String} {written : List Char} {next : draft}
    (member : Member draft) (found : shape.member? name = some member)
    (isNew : member.isGiven gathered = false)
    (reads : Reads (member.readInto gathered) written (.ok next))
    (gathers : Gathers shape members next outcome) :
    Gathers shape ((name, written) :: members) gathered outcome := by
  have all_gathers : Gathers shape ((name, written) :: members) gathered
      (.ok next >>= fun _ => outcome) := by
    refine .cons member found isNew reads ?_
    rintro given ⟨⟩
    exact gathers
  exact all_gathers

/--
The blanks of an object that is written member by member: before each name, between the colon and
the value of each member, and before the closing brace.
-/
structure Layout where
  indent : List Char
  gap : List Char
  ending : List Char
  indent_blank : (Text.encodeUtf8 indent).all isBlank
  gap_blank : (Text.encodeUtf8 gap).all isBlank
  ending_blank : (Text.encodeUtf8 ending).all isBlank

namespace Layout

def compact : Layout :=
  ⟨[], [], [], rfl, rfl, rfl⟩

/-- One member a line. -/
def lines : Layout :=
  ⟨['\n', ' ', ' '], [' '], ['\n'], rfl, rfl, rfl⟩

variable {layout : Layout}

def writeMember (layout : Layout) (member : String × List Char) : List Char :=
  layout.indent ++ (writeText member.1 ++ ':' :: (layout.gap ++ member.2))

def writeObject (layout : Layout) (members : List (String × List Char)) : List Char :=
  '\x7b' :: (separated (members.map layout.writeMember) ++ (layout.ending ++ ['\x7d']))

/-- Members are read across the blanks that stand before their values. -/
def Suits (layout : Layout) (shape : RecordShape draft value) : Prop :=
  ∀ member ∈ shape.members, ∀ gathered bytes,
    member.readInto gathered (Text.encodeUtf8 layout.gap ++ bytes) =
      member.readInto gathered bytes

theorem suits_of_skipsBlanks (layout : Layout) {shape : RecordShape draft value}
    (all_skip : ∀ member ∈ shape.members, ∀ gathered, SkipsBlanks (member.readInto gathered)) :
    layout.Suits shape := by
  intro member member_mem gathered bytes
  exact all_skip member member_mem gathered _ (List.all_eq_true.1 layout.gap_blank) bytes

theorem isBlanks_indent (layout : Layout) : IsBlanks (Text.encodeUtf8 layout.indent) :=
  List.all_eq_true.1 layout.indent_blank

theorem isBlanks_ending (layout : Layout) : IsBlanks (Text.encodeUtf8 layout.ending) :=
  List.all_eq_true.1 layout.ending_blank

/-- The end of an object, and then some other bytes. -/
def atEnd (layout : Layout) (rest : List UInt8) : List UInt8 :=
  Text.encodeUtf8 layout.ending ++ closeBrace :: rest

theorem endsNumber_atEnd (layout : Layout) (rest : List UInt8) :
    EndsNumber (layout.atEnd rest) :=
  layout.isBlanks_ending.endsNumber (endsNumber_cons (by decide) rest)

theorem nextItem?_atEnd (layout : Layout) (isFirst : Bool) (rest : List UInt8) :
    Frame.object.nextItem? isFirst (layout.atEnd rest) = .ok none :=
  nextItem?_close .object isFirst layout.isBlanks_ending rest

theorem endObject_atEnd (layout : Layout) (rest : List UInt8) :
    endObject (layout.atEnd rest) = .ok rest :=
  endObject_close layout.isBlanks_ending rest

theorem nextItem?_first (layout : Layout) (rest : List UInt8) :
    Frame.object.nextItem? true (Text.encodeUtf8 layout.indent ++ Text.quotationMark :: rest) =
      .ok (some rest) :=
  IsGap.first.nextItem?_object layout.isBlanks_indent rest

theorem nextItem?_comma (layout : Layout) (rest : List UInt8) :
    Frame.object.nextItem? false
        (Text.comma :: (Text.encodeUtf8 layout.indent ++ Text.quotationMark :: rest)) =
      .ok (some rest) :=
  (IsGap.later IsBlanks.nil).nextItem?_object layout.isBlanks_indent rest

/-- What stands in a member after the opening mark of its name, and then some other bytes. -/
def afterMark (layout : Layout) (name : String) (written : List Char) (rest : List UInt8) :
    List UInt8 :=
  Text.encodeUtf8 (name.toList.flatMap writeChar) ++
    Text.quotationMark :: colon :: (Text.encodeUtf8 layout.gap ++ (Text.encodeUtf8 written ++ rest))

theorem encodeUtf8_writeMember_append (layout : Layout) (member : String × List Char)
    (rest : List UInt8) :
    Text.encodeUtf8 (layout.writeMember member) ++ rest =
      Text.encodeUtf8 layout.indent ++
        Text.quotationMark :: layout.afterMark member.1 member.2 rest := by
  have colon_eq (written : List Char) :
      Text.encodeUtf8 (':' :: written) = colon :: Text.encodeUtf8 written :=
    Text.encodeUtf8_cons_of_lt (by decide) written
  simp [-Text.encodeUtf8_cons, writeMember, encodeUtf8_writeText, afterMark, colon_eq]

theorem afterMark_append (layout : Layout) (name : String) (written : List Char)
    (rest more : List UInt8) :
    layout.afterMark name written rest ++ more = layout.afterMark name written (rest ++ more) := by
  simp [afterMark]

end Layout

variable {layout : Layout}

theorem readMembers_cons {name : String} {written : List Char} {member : Member draft}
    {result : Except Fault draft} {later : draft → Except Fault draft} {isFirst : Bool}
    {fuel bytes rest last : List UInt8} (suits : layout.Suits shape)
    (found : shape.member? name = some member) (isNew : member.isGiven gathered = false)
    (reads : Reads (member.readInto gathered) written result) (ends : EndsNumber rest)
    (next_eq : Frame.object.nextItem? isFirst bytes =
      .ok (some (layout.afterMark name written rest)))
    (others_eq : ∀ next, result = .ok next →
      (shape.readMembers fuel false next rest).mapError Failure.fault =
        (later next).map fun record => (record, last)) (spent : UInt8) :
    (shape.readMembers (spent :: fuel) isFirst gathered bytes).mapError Failure.fault =
      (result >>= later).map fun record => (record, last) := by
  have colon_eq (rest : List UInt8) : readColon (colon :: rest) = .ok rest :=
    readColon_eq IsBlanks.nil rest
  have value_eq := suits member (List.mem_of_find?_eq_some found) gathered
  rw [RecordShape.readMembers, next_eq, except_ok_bind]
  simp only [Layout.afterMark, readText_flatMap_writeChar, except_ok_bind, RecordShape.readMember,
    found, isNew, Bool.false_eq_true, if_false, colon_eq, value_eq]
  rw [reads.mapError_bind ends]
  cases result with
  | error fault => rfl
  | ok next => exact others_eq next rfl

theorem Gathers.readMembers_flatMap (suits : layout.Suits shape)
    (gathers : Gathers shape members gathered outcome) {fuel : List UInt8}
    (length_lt : members.length < fuel.length) (rest : List UInt8) :
    (shape.readMembers fuel false gathered
        (Text.encodeUtf8 ((members.map layout.writeMember).flatMap (',' :: ·)) ++
          layout.atEnd rest)).mapError Failure.fault =
      outcome.map fun record => (record, layout.atEnd rest) := by
  induction gathers generalizing fuel with
  | nil gathered =>
      cases fuel with
      | nil => simp at length_lt
      | cons _ fuel =>
          simp only [List.map_nil, List.flatMap_nil, Text.encodeUtf8_nil, List.nil_append,
            RecordShape.readMembers, layout.nextItem?_atEnd]
          rfl
  | @cons name written members gathered result later member found isNew reads _ ih =>
      cases fuel with
      | nil => simp at length_lt
      | cons spent fuel =>
          have ends := endsNumber_flatMap (layout.endsNumber_atEnd rest)
            (members.map layout.writeMember)
          simp only [List.map_cons, encodeUtf8_flatMap_cons, List.cons_append,
            layout.encodeUtf8_writeMember_append, layout.afterMark_append, List.append_assoc]
          apply readMembers_cons suits found isNew reads ends (layout.nextItem?_comma _)
          intro next result_eq
          exact ih next result_eq (Nat.lt_of_succ_lt_succ length_lt)

theorem Gathers.readMembers_separated (suits : layout.Suits shape)
    (gathers : Gathers shape members gathered outcome) {fuel : List UInt8}
    (length_lt : members.length < fuel.length) (rest : List UInt8) :
    (shape.readMembers fuel true gathered
        (Text.encodeUtf8 (separated (members.map layout.writeMember)) ++
          layout.atEnd rest)).mapError Failure.fault =
      outcome.map fun record => (record, layout.atEnd rest) := by
  cases fuel with
  | nil => simp at length_lt
  | cons spent fuel =>
      cases gathers with
      | nil =>
          simp only [List.map_nil, separated, Text.encodeUtf8_nil, List.nil_append,
            RecordShape.readMembers, layout.nextItem?_atEnd]
          rfl
      | @cons name written members gathered result later member found isNew reads gathers =>
          have ends := endsNumber_flatMap (layout.endsNumber_atEnd rest)
            (members.map layout.writeMember)
          simp only [List.map_cons, separated_cons, Text.encodeUtf8_append, List.append_assoc,
            List.cons_append, layout.encodeUtf8_writeMember_append, layout.afterMark_append]
          apply readMembers_cons suits found isNew reads ends (layout.nextItem?_first _)
          intro next result_eq
          exact (gathers next result_eq).readMembers_flatMap suits
            (Nat.lt_of_succ_lt_succ length_lt) rest

theorem Layout.length_le_length_separated (layout : Layout)
    (members : List (String × List Char)) :
    members.length ≤ (Text.encodeUtf8 (separated (members.map layout.writeMember))).length := by
  cases members with
  | nil => simp
  | cons member members =>
      have length_le := length_le_length_flatMap (members.map layout.writeMember)
      rw [List.length_map] at length_le
      have written_eq := layout.encodeUtf8_writeMember_append member []
      rw [List.append_nil] at written_eq
      simp only [List.map_cons, separated_cons, Text.encodeUtf8_append, written_eq,
        List.length_append, List.length_cons]
      omega

/--
A record is read from an object of its members, in the order in which they are written, however the
object is laid out.
-/
theorem Gathers.reads_layout (suits : layout.Suits shape)
    (gathers : Gathers shape members shape.start outcome) :
    Reads shape.read (layout.writeObject members)
      (outcome >>= fun record => (shape.finish record).mapError Fault.missingMember) := by
  have written_eq (rest : List UInt8) : Text.encodeUtf8 (layout.writeObject members) ++ rest =
      openBrace :: (Text.encodeUtf8 (separated (members.map layout.writeMember)) ++
        layout.atEnd rest) := by
    rw [Layout.writeObject, Text.encodeUtf8_cons_of_lt (by decide), Text.encodeUtf8_append,
      Text.encodeUtf8_append, List.cons_append, List.append_assoc, List.append_assoc]
    rfl
  have starts : StartsValue (layout.writeObject members) := by
    have written_eq := written_eq []
    rw [List.append_nil] at written_eq
    exact ⟨_, _, written_eq, by decide⟩
  refine ⟨starts, fun rest _ => ?_⟩
  have lead_eq : leadOf openBrace = .object := rfl
  have length_lt : members.length <
      (Text.encodeUtf8 (separated (members.map layout.writeMember)) ++
        layout.atEnd rest).length := by
    have length_le := layout.length_le_length_separated members
    simp only [Layout.atEnd, List.length_append, List.length_cons]
    omega
  rw [written_eq, RecordShape.read, skipBlanks_cons (by decide)]
  simp only [lead_eq, RecordShape.readFromObject, mapError_bind,
    gathers.readMembers_separated suits length_lt rest, bind_map_pair, layout.endObject_atEnd,
    RecordShape.finishAt]
  cases outcome with
  | error fault => rfl
  | ok record =>
      simp only [except_ok_bind]
      cases shape.finish record <;> rfl

theorem Gathers.reads_writeObject (gathers : Gathers shape members shape.start outcome) :
    Reads shape.read (writeObject members)
      (outcome >>= fun record => (shape.finish record).mapError Fault.missingMember) := by
  have suits : Layout.compact.Suits shape := fun member member_mem gathered bytes => rfl
  have read := gathers.reads_layout suits
  have written_eq : Layout.compact.writeObject members = writeObject members := rfl
  rwa [written_eq] at read

/-- With one member a line, blanks stand before the values of members. -/
theorem Gathers.reads_writeObjectLines (suits : Layout.lines.Suits shape)
    (gathers : Gathers shape members shape.start outcome) :
    Reads shape.read (writeObjectLines members)
      (outcome >>= fun record => (shape.finish record).mapError Fault.missingMember) := by
  have read := gathers.reads_layout suits
  have written_eq : Layout.lines.writeObject members = writeObjectLines members := rfl
  rwa [written_eq] at read

/-- A record of two members, the first of which is read without a fault. -/
theorem reads_writeObject_pair (shape : RecordShape draft value) (firstName secondName : String)
    {first second : Member draft} {firstWritten secondWritten : List Char} {given : draft}
    (first_found : shape.member? firstName = some first)
    (first_new : first.isGiven shape.start = false)
    (first_reads : Reads (first.readInto shape.start) firstWritten (.ok given))
    (second_found : shape.member? secondName = some second)
    (second_new : second.isGiven given = false)
    (second_reads : Reads (second.readInto given) secondWritten outcome) :
    Reads shape.read (writeObject [(firstName, firstWritten), (secondName, secondWritten)])
      (outcome >>= fun record => (shape.finish record).mapError Fault.missingMember) := by
  have second_gathers : Gathers shape [(secondName, secondWritten)] given (outcome >>= .ok) :=
    .cons second second_found second_new second_reads fun next _ => .nil next
  have gathers := Gathers.cons_ok first first_found first_new first_reads second_gathers
  have read := gathers.reads_writeObject
  cases outcome <;> exact read

end Record

end Json

end ScriptedFeed
