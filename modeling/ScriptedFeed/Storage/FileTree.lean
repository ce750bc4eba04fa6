import ScriptedFeed.Storage.Path
import ScriptedFeed.Text.Utf8

/-!
# The file tree

Scripts and settings live in a tree of directories and files. Each operation names a place by a
path and either takes effect as a whole or fails and changes nothing; why it fails is decided by
following the path step by step, in the order in which an operating system does.
-/

namespace ScriptedFeed

/-- Why an operation on the file tree fails. -/
inductive StorageFault where
  | notFound
  | alreadyExists
  | notDirectory
  | isDirectory
  | nameTooLong
  | zeroInPath
  | treeTooDeep
deriving DecidableEq, Repr

def StorageFault.message : StorageFault → String
  | notFound => "No such file or directory (os error 2)"
  | alreadyExists => "File exists (os error 17)"
  | notDirectory => "Not a directory (os error 20)"
  | isDirectory => "Is a directory (os error 21)"
  | nameTooLong => "File name too long (os error 36)"
  | zeroInPath => "file name contained an unexpected NUL byte"
  | treeTooDeep => "failed to create whole tree"

/-- What a place of the tree holds. -/
inductive Node where
  | directory
  | file (content : List UInt8)
deriving DecidableEq, Repr

/-- A place: the names on the way to it from the root, the innermost first. -/
abbrev Place := List String

/-- The files and directories, with the working directory from which relative paths start. -/
structure FileTree where
  /-- What the places other than the root hold; the first entry of a place counts. -/
  nodes : List (Place × Node)
  workingDirectory : Place
deriving DecidableEq, Repr

namespace FileTree

/-- The tree that holds nothing. -/
def empty : FileTree :=
  ⟨[], []⟩

/-- What a place holds; the root is always a directory. -/
def get? (tree : FileTree) (place : Place) : Option Node :=
  match place with
  | [] => some .directory
  | _ :: _ => tree.nodes.lookup place

/-- The tree with a place holding something new. -/
def put (tree : FileTree) (place : Place) (node : Node) : FileTree :=
  { tree with nodes := (place, node) :: tree.nodes }

/-- The longest name, in bytes. -/
def longestName : Nat := 255

/-- The longest path, in bytes. -/
def longestPath : Nat := 4095

/-- What a path leads to: a place that holds something, or a free place in a directory. -/
inductive Target where
  | taken (place : Place) (node : Node)
  | free (place : Place) (mustBeDirectory : Bool)

/-- Whether the remaining steps of a path stay where they are. -/
def staysHere (steps : List PathStep) : Bool :=
  steps.all (· = .here)

/-- Follows the steps of a path from a place that holds something. -/
def follow (tree : FileTree) (place : Place) (node : Node) :
    List PathStep → Except StorageFault Target
  | [] => .ok (.taken place node)
  | step :: steps =>
      match node, step with
      | .file _, _ => .error .notDirectory
      | .directory, .here => follow tree place .directory steps
      | .directory, .up => follow tree place.tail .directory steps
      | .directory, .down name =>
          if longestName < name.utf8ByteSize then .error .nameTooLong
          else
            match tree.get? (name :: place) with
            | some next => follow tree (name :: place) next steps
            | none =>
                if staysHere steps then .ok (.free (name :: place) (!steps.isEmpty))
                else .error .notFound

def followSteps (tree : FileTree) (path : String) (steps : List PathStep) :
    Except StorageFault Target :=
  if path.isEmpty then .error .notFound
  else if path.toList.contains '\x00' then .error .zeroInPath
  else if longestPath < path.utf8ByteSize then .error .nameTooLong
  else
    let start := if Path.isAbsolute path then [] else tree.workingDirectory
    match tree.get? start with
    | some node => tree.follow start node steps
    | none => .error .notFound

def target (tree : FileTree) (path : String) : Except StorageFault Target :=
  tree.followSteps path (Path.steps path)

/-- Whether a path leads to a file or directory. -/
def holds (tree : FileTree) (path : String) : Bool :=
  match tree.target path with
  | .ok (.taken _ _) => true
  | _ => false

def holdsDirectory (tree : FileTree) (path : String) : Bool :=
  match tree.target path with
  | .ok (.taken _ .directory) => true
  | _ => false

def openNode (tree : FileTree) (path : String) : Except StorageFault Node := do
  match ← tree.target path with
  | .taken _ node => .ok node
  | .free _ _ => .error .notFound

/-- Reads what has been opened; a directory can be opened but not read. -/
def readNode : Node → Except StorageFault (List UInt8)
  | .directory => .error .isDirectory
  | .file content => .ok content

/-- Reads the file that a path leads to. -/
def contentOf (tree : FileTree) (path : String) : Except StorageFault (List UInt8) := do
  readNode (← tree.openNode path)

/-- Why no file can be written at a path that ends in a slash after a name. -/
def slashedFault (tree : FileTree) (path : String) (parent : List PathStep) : StorageFault :=
  match tree.followSteps path parent with
  | .ok (.taken _ .directory) => .isDirectory
  | .ok (.taken _ (.file _)) => .notDirectory
  | .ok (.free _ _) => .notFound
  | .error fault => fault

/--
Replaces the content of the file that a path leads to, or creates the file. A slash after the last
name is refused before this name is looked up; a dot after it wants a directory that is there.
-/
def writeFile (tree : FileTree) (path : String) (content : List UInt8) :
    Except StorageFault FileTree :=
  match Path.slashedParent? path with
  | some parent => .error (tree.slashedFault path parent)
  | none => do
      match ← tree.target path with
      | .taken _ .directory => .error .isDirectory
      | .taken place (.file _) => .ok (tree.put place (.file content))
      | .free place mustBeDirectory =>
          if mustBeDirectory then .error .notFound else .ok (tree.put place (.file content))

/-- Creates the directory that a path leads to, in a directory that is there. -/
def createDirectory (tree : FileTree) (path : String) : Except StorageFault FileTree := do
  match ← tree.target path with
  | .taken _ _ => .error .alreadyExists
  | .free place _ => .ok (tree.put place .directory)

/-- Creates a directory unless it is there. -/
def ensureDirectory (tree : FileTree) (path : String) : Except StorageFault FileTree :=
  match tree.createDirectory path with
  | .ok tree => .ok tree
  | .error fault => if tree.holdsDirectory path then .ok tree else .error fault

/--
Creates a directory and those around it that are missing. On failure the directories created on
the way stay; the tree is therefore returned in either case. The fuel bounds the depth.
-/
def createDirectoriesFrom :
    Nat → FileTree → String → FileTree × Except StorageFault Unit
  | 0, tree, _ => (tree, .error .treeTooDeep)
  | fuel + 1, tree, path =>
      if path.isEmpty then (tree, .ok ())
      else
        match tree.createDirectory path with
        | .ok tree => (tree, .ok ())
        | .error .notFound =>
            match Path.parent? path with
            | none => (tree, .error .treeTooDeep)
            | some parent =>
                match createDirectoriesFrom fuel tree parent with
                | (tree, .error fault) => (tree, .error fault)
                | (tree, .ok ()) =>
                    match tree.ensureDirectory path with
                    | .ok tree => (tree, .ok ())
                    | .error fault => (tree, .error fault)
        | .error fault =>
            if tree.holdsDirectory path then (tree, .ok ()) else (tree, .error fault)

/-- Creates a directory and those around it that are missing. -/
def createDirectories (tree : FileTree) (path : String) :
    FileTree × Except StorageFault Unit :=
  createDirectoriesFrom (path.length + 1) tree path

end FileTree

end ScriptedFeed
