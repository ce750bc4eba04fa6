import Mathlib.Tactic
import ScriptedFeed.CommandLine.Options

/-!
# Which switches have been given

When arguments are accepted, a switch that takes no value is in the options exactly if it stands
among the arguments. It cannot be the value of another switch, because no value starts with dashes,
and a value after an equals sign is refused.
-/

namespace ScriptedFeed

namespace Switch

/-- A switch that says how to play and takes no value. -/
def IsFlag (switch : Switch) : Prop :=
  switch = .noColor ∨ switch = .hold ∨ switch = .saveSettings

theorem ofName?_name (switch : Switch) : ofName? switch.name = some switch := by
  cases switch <;> rfl

theorem name_of_ofName? {switch : Switch} {name : String} (found : ofName? name = some switch) :
    switch.name = name := by
  simpa using List.find?_some found

theorem toList_dashed (switch : Switch) :
    switch.dashed.toList = '-' :: '-' :: switch.name.toList := by
  simp [dashed]

theorem dashed_injective : Function.Injective dashed := by
  intro switch other dashed_eq
  have toList_eq := congrArg String.toList dashed_eq
  simp only [toList_dashed, List.cons.injEq, true_and, String.toList_inj] at toList_eq
  have found := ofName?_name switch
  rw [toList_eq, ofName?_name, Option.some_inj] at found
  exact found.symm

theorem IsFlag.valueName?_eq {flag : Switch} (isFlag : flag.IsFlag) : flag.valueName? = none := by
  rcases isFlag with rfl | rfl | rfl <;> rfl

theorem IsFlag.ofText_dashed {flag : Switch} (isFlag : flag.IsFlag) :
    Argument.ofText flag.dashed = .long flag.name none := by
  rcases isFlag with rfl | rfl | rfl <;> decide

end Switch

namespace Argument

theorem toList_of_ofText_long {text name : String} (form : ofText text = .long name none) :
    text.toList = '-' :: '-' :: name.toList := by
  rw [ofText] at form
  split at form
  · simp at form
  · next rest _ text_eq =>
      rw [divide] at form
      split at form
      · next drop_nil =>
          simp only [long.injEq, and_true] at form
          have split_eq := List.takeWhile_append_dropWhile (p := (· ≠ '=')) (l := rest)
          rw [drop_nil, List.append_nil] at split_eq
          rw [text_eq, ← form, String.toList_ofList, split_eq]
      · simp at form
  · simp at form
  · simp at form

/-- An argument of another form is not the switch. -/
theorem dashed_ne_of_ofText {flag : Switch} (isFlag : flag.IsFlag) {text : String}
    {argument : Argument} (form : ofText text = argument)
    (other : argument ≠ .long flag.name none) : flag.dashed ≠ text := by
  rintro rfl
  exact other (form.symm.trans isFlag.ofText_dashed)

theorem eq_dashed_of_ofText {text name : String} {switch : Switch}
    (form : ofText text = .long name none) (found : Switch.ofName? name = some switch) :
    text = switch.dashed := by
  rw [← String.toList_inj, Switch.toList_dashed, Switch.name_of_ofName? found]
  exact toList_of_ofText_long form

end Argument

namespace Options

variable {options next : Options} {flag : Switch}

/-- Whether a switch that takes no value has been given. -/
def has (options : Options) : Switch → Bool
  | .noColor => options.hidesColor
  | .hold => options.staysOpen
  | .saveSettings => options.savesSettings
  | .script | .speed | .capacity | .help | .version => false

theorem has_of_withValue {switch : Switch} {value : String}
    (accepted : options.withValue switch value = .ok next) : next.has = options.has := by
  revert accepted
  fun_cases Options.withValue options switch value <;> intro accepted <;> cases accepted <;> rfl

theorem has_withFlag (isFlag : flag.IsFlag) (options : Options) (switch : Switch) :
    (options.withFlag switch).has flag ↔ options.has flag ∨ switch = flag := by
  rcases isFlag with rfl | rfl | rfl <;> cases switch <;> simp [withFlag, has]

end Options

namespace ArgumentState

variable {state next : ArgumentState} {switch : Switch}

theorem has_of_applyValue {value : String}
    (applied : state.applyValue switch value = (next, .ok ())) :
    next.options.has = state.options.has := by
  rw [applyValue] at applied
  split_ifs at applied
  · simp at applied
  · cases accepted : state.options.withValue switch value with
    | error error => simp [accepted] at applied
    | ok options =>
        simp only [accepted, Prod.mk.injEq, and_true] at applied
        rw [← applied]
        exact Options.has_of_withValue accepted

theorem has_of_settled (settled : state.settled = .ok next) :
    next.options.has = state.options.has := by
  rw [ArgumentState.settled, settle] at settled
  rcases state with ⟨options, given, pending?⟩
  rcases pending? with - | ⟨switch, - | value⟩
  · cases settled
    rfl
  · cases settled
  · simp only at settled
    split at settled
    · next after applied =>
        cases settled
        have kept := has_of_applyValue applied
        exact kept
    · cases settled

theorem has_of_takeValued {value? : Option String}
    (taken : state.takeValued switch value? = .ok next) :
    next.options.has = state.options.has := by
  rw [takeValued] at taken
  cases settled : state.settled with
  | error error =>
      rw [settled] at taken
      cases taken
  | ok after =>
      have kept := has_of_settled settled
      rw [settled] at taken
      cases value? with
      | none =>
          cases taken
          exact kept
      | some value =>
          simp only [bind, Except.bind] at taken
          split at taken
          · next applied =>
              cases taken
              rw [has_of_applyValue applied, kept]
          · cases taken

theorem has_of_takeFlag {flag : Switch} (isFlag : flag.IsFlag)
    (taken : state.takeFlag switch = .ok next) :
    next.options.has flag ↔ state.options.has flag ∨ switch = flag := by
  rw [takeFlag] at taken
  cases settled : state.settled with
  | error error =>
      rw [settled] at taken
      cases taken
  | ok after =>
      rw [settled] at taken
      simp only [bind, Except.bind] at taken
      split_ifs at taken
      cases taken
      rw [Options.has_withFlag isFlag, has_of_settled settled]

end ArgumentState

namespace Request

variable {state : ArgumentState} {arguments : List String} {options : Options} {flag : Switch}

theorem exists_of_continueWith {result : Except ArgumentError ArgumentState}
    {next : ArgumentState → Request} (asked : continueWith result next = .play options) :
    ∃ state, result = .ok state ∧ next state = .play options := by
  cases result with
  | ok state => exact ⟨state, rfl, asked⟩
  | error error => cases asked

theorem of_takeQuestion {request : Request} (asked : state.takeQuestion request = .play options) :
    request = .play options := by
  rw [ArgumentState.takeQuestion] at asked
  split at asked
  · exact asked
  · cases asked

theorem has_of_settled (asked : continueWith state.settled (fun state => .play state.options) =
    .play options) : options.has = state.options.has := by
  rcases exists_of_continueWith asked with ⟨settled, settled_eq, play_eq⟩
  cases play_eq
  exact ArgumentState.has_of_settled settled_eq

theorem has_of_ofArgumentsFrom (isFlag : flag.IsFlag)
    (asked : ofArgumentsFrom state arguments = .play options) :
    options.has flag ↔ state.options.has flag ∨ flag.dashed ∈ arguments := by
  induction arguments generalizing state with
  | nil => simp [has_of_settled asked]
  | cons argument rest ih =>
      rw [ofArgumentsFrom.eq_def] at asked
      simp only at asked
      cases form : Argument.ofText argument with
      | separator =>
          have other := Argument.dashed_ne_of_ofText isFlag form (by simp)
          simp only [form] at asked
          cases rest with
          | nil => simp [has_of_settled asked, other]
          | cons extra rest => cases asked
      | plain text =>
          have other := Argument.dashed_ne_of_ofText isFlag form (by simp)
          simp only [form] at asked
          split at asked
          · simpa [other] using ih asked
          · cases asked
      | short letter =>
          simp only [form] at asked
          split at asked
          · cases of_takeQuestion asked
          · cases of_takeQuestion asked
          · cases asked
      | long name value? =>
          simp only [form] at asked
          cases found : Switch.ofName? name with
          | none => simp [found] at asked
          | some switch =>
              simp only [found] at asked
              split_ifs at asked with takesValue
              · have other : flag.dashed ≠ argument := by
                  apply Argument.dashed_ne_of_ofText isFlag form
                  rintro ⟨⟩
                  rw [Switch.ofName?_name, Option.some_inj] at found
                  simp [← found, isFlag.valueName?_eq] at takesValue
                rcases exists_of_continueWith asked with ⟨taken, taken_eq, asked⟩
                rw [ih asked, ArgumentState.has_of_takeValued taken_eq]
                simp [other]
              · cases value? with
                | some value => cases asked
                | none =>
                    have argument_eq := Argument.eq_dashed_of_ofText form found
                    simp only at asked
                    split at asked
                    · cases of_takeQuestion asked
                    · cases of_takeQuestion asked
                    · rcases exists_of_continueWith asked with ⟨taken, taken_eq, asked⟩
                      rw [ih asked, ArgumentState.has_of_takeFlag isFlag taken_eq, argument_eq,
                        List.mem_cons, Switch.dashed_injective.eq_iff, or_assoc,
                        eq_comm (a := switch)]

/-- A switch that takes no value has been given exactly if it stands among the arguments. -/
theorem has_of_ofArguments (isFlag : flag.IsFlag)
    (asked : ofArguments arguments = .play options) :
    options.has flag ↔ flag.dashed ∈ arguments := by
  have given := has_of_ofArgumentsFrom isFlag asked
  have nothing : ArgumentState.start.options.has flag = false := by
    rcases isFlag with rfl | rfl | rfl <;> rfl
  simpa [nothing] using given

end Request

end ScriptedFeed
