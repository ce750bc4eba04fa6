import ScriptedFeed.CommandLine.Usage
import ScriptedFeed.Playback.Session
import ScriptedFeed.Script.Format
import ScriptedFeed.Settings.Store

/-!
# Preparing to play

Before anything is played the settings are loaded and overridden by the options, the script is
loaded, and a session is created. Only when all this has succeeded are the effective settings
saved, if that is asked for; whatever fails before leaves the file with the settings as it is.
-/

namespace ScriptedFeed

/-- Why the program gives up before it plays. -/
inductive StartFailure where
  | script (path : String) (error : ScriptError)
  | playback (error : PlaybackError)
  | saving (error : Settings.SaveError)
deriving DecidableEq

namespace StartFailure

/-- The failure in words, without its causes. -/
def headline : StartFailure → String
  | script path _ => "Failed to load script " ++ path
  | playback error => error.message
  | saving error => error.headline

/-- What lies behind the failure, from the nearest cause to the last. -/
def causes : StartFailure → List String
  | script _ error => error.message :: error.causes
  | playback _ => []
  | saving error => error.causes

def numberedCause (cause : String) (number : Nat) : String :=
  "    " ++ toString number ++ ": " ++ cause

/-- The lines for the causes; a single one is not numbered. -/
def causeLines : List String → List String
  | [] => []
  | [cause] => ["", "Caused by:", "    " ++ cause]
  | causes => ["", "Caused by:"] ++ causes.zipIdx.map fun (cause, index) =>
      numberedCause cause index

/-- The failure as it is told, line by line. -/
def report (failure : StartFailure) : List String :=
  ("Error: " ++ failure.headline) :: causeLines failure.causes

def exitCode : StartFailure → Nat
  | playback .capacityOverflow => 101
  | script _ _ | playback _ | saving _ => 1

end StartFailure

structure Preparation where
  tree : FileTree
  notices : List Notice
  result : Except StartFailure Session

namespace Options

/-- The settings with what the options override. -/
def effective (options : Options) (settings : Settings) : Settings :=
  { capacity := options.capacity?.getD settings.capacity
    speed := options.speed?.getD settings.speed
    usesColor := settings.usesColor && !options.hidesColor }

/-- The script that the options ask for, with the notices that loading it gives. -/
def loadScript (options : Options) (tree : FileTree) :
    Except StartFailure Script × List Notice :=
  match options.script? with
  | none => (.ok .landing, [])
  | some path =>
      let (script, notices) := Script.load tree path
      (script.mapError (.script path), notices)

end Options

namespace Preparation

/-- The part of the program that reports on the run as a whole. -/
def source : String := "tesser_terminal"

/-- What is reported when settings have been saved. -/
def savedNotice (path : String) : Notice :=
  ⟨.info, source, "Saved settings to " ++ path⟩

/-- The preparation with earlier notices put before its own. -/
def after (notices : List Notice) (preparation : Preparation) : Preparation :=
  { preparation with notices := notices ++ preparation.notices }

/-- Saves settings for a session that accepts them; the session is given up if that fails. -/
def saveFor (session : Session) (settings : Settings) (tree : FileTree) (home : Settings.Home) :
    Preparation :=
  match settings.save tree home with
  | (tree, .ok path) => ⟨tree, [savedNotice path], .ok session⟩
  | (tree, .error error) => ⟨tree, session.stopNotices, .error (.saving error)⟩

/-- Prepares to play as options ask for. -/
def ofOptions (options : Options) (tree : FileTree) (home : Settings.Home) : Preparation :=
  let settings := options.effective (Settings.load tree home)
  let (script, scriptNotices) := options.loadScript tree
  let notices := Settings.loadUserNotices tree home ++ scriptNotices
  match script with
  | .error failure => ⟨tree, notices, .error failure⟩
  | .ok script =>
      match Session.create script settings.playbackConfig with
      | .error error => ⟨tree, notices, .error (.playback error)⟩
      | .ok session =>
          if options.savesSettings then after notices (saveFor session settings tree home)
          else ⟨tree, notices, .ok session⟩

end Preparation

end ScriptedFeed
