import ScriptedFeed.Notice
import ScriptedFeed.Settings.Basic
import ScriptedFeed.Storage.FileTree

/-!
# Keeping settings in a file

Loading never fails: where there is no usable file the standard settings take its place, and if
there is a file that cannot be used this is reported. Saving refuses settings that no session would
accept, and creates the directories that are missing on the way to the file.
-/

namespace ScriptedFeed

namespace Settings

/-- The part of the program that reports on settings. -/
def source : String := "tesser_terminal::settings"

/-- Why a file holds no settings. -/
inductive LoadFault where
  | storage (fault : StorageFault)
  | notText
  | json (error : Json.Error)
deriving DecidableEq

def LoadFault.message : LoadFault → String
  | storage fault => fault.message
  | notText => "stream did not contain valid UTF-8"
  | json error => error.message

/-- The settings that the file at a path holds. -/
def ofFile (tree : FileTree) (path : String) : Except LoadFault Settings := do
  let content ← (tree.contentOf path).mapError .storage
  if (Text.decodeUtf8? content).isNone then throw .notText
  (Json.readDocument read content).mapError .json

/-- The settings as they are used: a feed that would show no line has the standard capacity. -/
def usable (settings : Settings) : Settings :=
  if settings.capacity = 0 then { settings with capacity := PlaybackConfig.defaultCapacity }
  else settings

/-- What is reported of a capacity that is not used. -/
def capacityNotice (path : String) : Notice :=
  ⟨.warn, source, "Ignoring capacity 0 in " ++ path ++ "; using " ++
    toString PlaybackConfig.defaultCapacity.toNat⟩

/-- What is reported of a file that holds no settings. -/
def faultNotice (path : String) (fault : LoadFault) : Notice :=
  ⟨.warn, source, "Ignoring unreadable settings at " ++ path ++ ": " ++ fault.message⟩

/-- Loads settings from the file at a path. -/
def loadFrom (tree : FileTree) (path : String) : Settings :=
  if tree.holds path then
    match ofFile tree path with
    | .ok settings => settings.usable
    | .error _ => standard
  else standard

/-- What is reported when settings are loaded from the file at a path. -/
def loadNotices (tree : FileTree) (path : String) : List Notice :=
  if tree.holds path then
    match ofFile tree path with
    | .ok settings => if settings.capacity = 0 then [capacityNotice path] else []
    | .error fault => [faultNotice path fault]
  else []

/-- Why settings cannot be saved. -/
inductive SaveError where
  /-- A feed with the settings would show no line. -/
  | zeroCapacity
  | directoryNotCreated (path : String) (fault : StorageFault)
  | fileNotWritten (path : String) (fault : StorageFault)
  /-- There is no place for settings. -/
  | noDirectory
deriving DecidableEq, Repr

namespace SaveError

/-- The error in words, without its cause. -/
def headline : SaveError → String
  | zeroCapacity => "Refusing to save capacity 0"
  | directoryNotCreated path _ => "Failed to create " ++ path
  | fileNotWritten path _ => "Failed to write " ++ path
  | noDirectory => "No config directory on this platform"

/-- What lies behind the error. -/
def causes : SaveError → List String
  | directoryNotCreated _ fault | fileNotWritten _ fault => [fault.message]
  | zeroCapacity | noDirectory => []

/-- The error in words, with its cause. -/
def message (error : SaveError) : String :=
  ": ".intercalate (error.headline :: error.causes)

end SaveError

def fileContent (settings : Settings) : List UInt8 :=
  Text.encodeUtf8 settings.writeLines

/-- Writes settings to the file at a path, in a directory that is there. -/
def writeTo (settings : Settings) (tree : FileTree) (path : String) :
    FileTree × Except SaveError Unit :=
  match tree.writeFile path settings.fileContent with
  | .ok tree => (tree, .ok ())
  | .error fault => (tree, .error (.fileNotWritten path fault))

/-- Saves settings to the file at a path; directories created on the way to a failure stay. -/
def saveTo (settings : Settings) (tree : FileTree) (path : String) :
    FileTree × Except SaveError Unit :=
  if settings.capacity = 0 then (tree, .error .zeroCapacity)
  else
    match Path.parent? path with
    | none => settings.writeTo tree path
    | some parent =>
        match tree.createDirectories parent with
        | (tree, .ok ()) => settings.writeTo tree path
        | (tree, .error fault) => (tree, .error (.directoryNotCreated parent fault))

/-- Where a user keeps files, as far as it is known. -/
structure Home where
  /-- The user's own directory. -/
  directory? : Option String
  /-- The directory for settings, if the user has chosen one. -/
  settingsDirectory? : Option String
deriving DecidableEq, Repr

/-- The directory for the settings of all programs; a choice that is not absolute is ignored. -/
def Home.configDirectory? (home : Home) : Option String :=
  match home.settingsDirectory?.filter Path.isAbsolute with
  | some directory => some directory
  | none => home.directory?.map fun directory => Path.join directory ".config"

def Home.settingsPath? (home : Home) : Option String :=
  home.configDirectory?.map fun directory =>
    Path.join (Path.join directory "tesser-terminal") "settings.json"

/-- Loads the user's settings. -/
def load (tree : FileTree) (home : Home) : Settings :=
  match home.settingsPath? with
  | some path => loadFrom tree path
  | none => standard

/-- What is reported when the user's settings are loaded. -/
def loadUserNotices (tree : FileTree) (home : Home) : List Notice :=
  match home.settingsPath? with
  | some path => loadNotices tree path
  | none => []

/-- Saves the user's settings and says where. -/
def save (settings : Settings) (tree : FileTree) (home : Home) :
    FileTree × Except SaveError String :=
  match home.settingsPath? with
  | some path =>
      let (tree, result) := settings.saveTo tree path
      (tree, result.map fun () => path)
  | none => (tree, .error .noDirectory)

end Settings

end ScriptedFeed
