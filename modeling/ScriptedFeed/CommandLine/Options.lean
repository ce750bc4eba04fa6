import ScriptedFeed.CommandLine.Switch
import ScriptedFeed.Number.Decimal
import ScriptedFeed.Text.Similarity

/-!
# Arguments of the command line

Arguments are read from left to right. A switch and its value take effect together, when the next
switch or the end of the arguments is reached; until then they are pending, and a fault of theirs
is found only then, unless something worse comes first. No switch may be given twice, and every
argument must be a switch or the value of one.
-/

namespace ScriptedFeed

/-- What the arguments ask for when the feed is to be played. -/
structure Options where
  /-- The path of the script. -/
  script? : Option String
  speed? : Option Binary64
  capacity? : Option UInt64
  /-- Whether colour is turned off. -/
  hidesColor : Bool
  /-- Whether the feed stays on the screen after the last line. -/
  staysOpen : Bool
  savesSettings : Bool
deriving DecidableEq

/-- Why a text is not the value of a switch. -/
inductive ValueFault where
  | float (fault : FloatFault)
  | integer (fault : IntegerFault)
deriving DecidableEq, Repr

def ValueFault.message : ValueFault → String
  | float fault => fault.message
  | integer fault => fault.message

inductive ArgumentError where
  /-- A switch is given without the value that it takes. -/
  | missingValue (switch : Switch)
  | invalidValue (switch : Switch) (value : String) (fault : ValueFault)
  | repeated (switch : Switch)
  /-- An argument is neither a switch nor the value of one. -/
  | unexpected (argument : String)
  /-- There is no such switch; the switches given before and one to be proposed are told. -/
  | unknown (name : String) (proposal? : Option Switch) (given : List Switch)
  /-- A value is attached to a switch that takes none. -/
  | unneededValue (switch : Switch) (value : String) (given : List Switch)
deriving DecidableEq, Repr

inductive Request where
  | play (options : Options)
  | showHelp
  | showVersion
  | refuse (error : ArgumentError)
deriving DecidableEq

/-- An argument by its form. -/
inductive Argument where
  /-- After two dashes alone there are no further switches. -/
  | separator
  /-- A switch by its name, with the value after an equals sign. -/
  | long (name : String) (value? : Option String)
  /-- A switch by its letter; there may be further ones. -/
  | short (letter : Char)
  | plain (text : String)
deriving DecidableEq, Repr

namespace Argument

/-- Divides a text at its first equals sign. -/
def divide (text : List Char) : Argument :=
  let name := String.ofList (text.takeWhile (· ≠ '='))
  match text.dropWhile (· ≠ '=') with
  | [] => .long name none
  | _ :: value => .long name (some (String.ofList value))

/-- The form of an argument; a single dash is plain. -/
def ofText (text : String) : Argument :=
  match text.toList with
  | ['-', '-'] => .separator
  | '-' :: '-' :: rest => divide rest
  | '-' :: letter :: _ => .short letter
  | _ => .plain text

end Argument

namespace Options

/-- What no arguments ask for. -/
def standard : Options :=
  ⟨none, none, none, false, false, false⟩

/-- The options after a switch with a value; an empty path is no value. -/
def withValue (options : Options) (switch : Switch) (value : String) :
    Except ArgumentError Options :=
  match switch with
  | .script =>
      if value.isEmpty then .error (.missingValue switch)
      else .ok { options with script? := some value }
  | .speed =>
      match readFloat value.toList with
      | .ok speed => .ok { options with speed? := some speed }
      | .error fault => .error (.invalidValue switch value (.float fault))
  | .capacity =>
      match readUnsigned value.toList with
      | .ok capacity => .ok { options with capacity? := some capacity }
      | .error fault => .error (.invalidValue switch value (.integer fault))
  | .noColor | .hold | .saveSettings | .help | .version => .ok options

/-- The options after a switch that takes no value. -/
def withFlag (options : Options) : Switch → Options
  | .noColor => { options with hidesColor := true }
  | .hold => { options with staysOpen := true }
  | .saveSettings => { options with savesSettings := true }
  | .script | .speed | .capacity | .help | .version => options

end Options

/-- Arguments that have been read. -/
structure ArgumentState where
  options : Options
  /-- The switches that have taken effect, in their order. -/
  given : List Switch
  /-- A switch that takes a value and has not taken effect, with the value if there is one. -/
  pending? : Option (Switch × Option String)

namespace ArgumentState

def start : ArgumentState :=
  ⟨.standard, [], none⟩

/-- What is left of the state when a switch is repeated. -/
def withoutSwitch (state : ArgumentState) (switch : Switch) : ArgumentState :=
  { state with given := state.given.filter (· ≠ switch) }

/-- Lets a switch take effect with its value; what remains after a fault is kept as well. -/
def applyValue (state : ArgumentState) (switch : Switch) (value : String) :
    ArgumentState × Except ArgumentError Unit :=
  if state.given.contains switch then
    (state.withoutSwitch switch, .error (.repeated switch))
  else
    let started := { state with given := state.given ++ [switch] }
    match state.options.withValue switch value with
    | .ok options => ({ started with options }, .ok ())
    | .error error => (started, .error error)

/-- Lets the pending switch take effect; what remains after a fault is kept as well. -/
def settle (state : ArgumentState) : ArgumentState × Except ArgumentError Unit :=
  let idle := { state with pending? := none }
  match state.pending? with
  | none => (idle, .ok ())
  | some (switch, none) => (idle, .error (.missingValue switch))
  | some (switch, some value) => idle.applyValue switch value

/-- The state after the pending switch has taken effect. -/
def settled (state : ArgumentState) : Except ArgumentError ArgumentState :=
  match state.settle with
  | (state, .ok ()) => .ok state
  | (_, .error error) => .error error

/-- The switches that are given when the pending one has taken effect, even if it is faulty. -/
def givenAfter (state : ArgumentState) : List Switch :=
  state.settle.1.given

/-- The refusal of a name that no switch has. -/
def unknownName (state : ArgumentState) (name : String) : ArgumentError :=
  .unknown name (Text.mostSimilar? (fun switch => switch.name.toList) name.toList Switch.all)
    state.givenAfter

/-- The state after a switch that takes a value. -/
def takeValued (state : ArgumentState) (switch : Switch) (value? : Option String) :
    Except ArgumentError ArgumentState := do
  let state ← state.settled
  match value? with
  | none => return { state with pending? := some (switch, none) }
  | some value =>
      match state.applyValue switch value with
      | (state, .ok ()) => return state
      | (_, .error error) => throw error

/-- The state after a switch that takes no value. -/
def takeFlag (state : ArgumentState) (switch : Switch) : Except ArgumentError ArgumentState := do
  let state ← state.settled
  if state.given.contains switch then throw (.repeated switch)
  return { state with
    options := state.options.withFlag switch
    given := state.given ++ [switch] }

/-- The request when a switch asks for a text in place of playing. -/
def takeQuestion (state : ArgumentState) (request : Request) : Request :=
  match state.settled with
  | .ok _ => request
  | .error error => .refuse error

end ArgumentState

namespace Request

/-- Continues after an argument unless it is refused. -/
def continueWith (result : Except ArgumentError ArgumentState)
    (next : ArgumentState → Request) : Request :=
  match result with
  | .ok state => next state
  | .error error => .refuse error

/-- What arguments ask for after others have been read. -/
def ofArgumentsFrom (state : ArgumentState) : List String → Request
  | [] => continueWith state.settled fun state => .play state.options
  | argument :: rest =>
      match Argument.ofText argument with
      | .separator =>
          match rest with
          | [] => continueWith state.settled fun state => .play state.options
          | extra :: _ => .refuse (.unexpected extra)
      | .long name value? =>
          match Switch.ofName? name with
          | none => .refuse (state.unknownName name)
          | some switch =>
              if switch.valueName?.isSome then
                continueWith (state.takeValued switch value?) fun state =>
                  ofArgumentsFrom state rest
              else
                match value? with
                | some value => .refuse (.unneededValue switch value state.given)
                | none =>
                    match switch with
                    | .help => state.takeQuestion .showHelp
                    | .version => state.takeQuestion .showVersion
                    | _ =>
                        continueWith (state.takeFlag switch) fun state =>
                          ofArgumentsFrom state rest
      | .short letter =>
          match Switch.ofLetter? letter with
          | some .version => state.takeQuestion .showVersion
          | some _ => state.takeQuestion .showHelp
          | none => .refuse (.unexpected (String.ofList ['-', letter]))
      | .plain text =>
          match state.pending? with
          | some (switch, none) =>
              ofArgumentsFrom { state with pending? := some (switch, some text) } rest
          | _ => .refuse (.unexpected text)

def ofArguments (arguments : List String) : Request :=
  ofArgumentsFrom .start arguments

end Request

end ScriptedFeed
