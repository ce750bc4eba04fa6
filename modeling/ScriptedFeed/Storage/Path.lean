/-!
# Paths

A path names a place in the file tree by the names on the way to it, parted by slashes. Repeated
slashes and single dots mean nothing, except that a path that ends in a slash or a dot can only
name a directory.
-/

namespace ScriptedFeed

inductive PathStep where
  /-- Stays in the directory. -/
  | here
  /-- Goes to the directory around. -/
  | up
  /-- Goes to the entry with a name. -/
  | down (name : String)
deriving DecidableEq, Repr

namespace Path

/-- The parts of a text between slashes. -/
def partsFrom (current : List Char) : List Char → List (List Char)
  | [] => [current.reverse]
  | '/' :: rest => current.reverse :: partsFrom [] rest
  | character :: rest => partsFrom (character :: current) rest

/-- The step that a part of a path between slashes stands for. -/
def stepOf (part : List Char) : PathStep :=
  match part with
  | [] | ['.'] => .here
  | ['.', '.'] => .up
  | name => .down (String.ofList name)

def steps (path : String) : List PathStep :=
  (partsFrom [] path.toList).map stepOf

/--
The steps to the directory that should hold what a path names, if the path ends in a slash right
after a name and can for this reason name no file.
-/
def slashedParent? (path : String) : Option (List PathStep) :=
  match (partsFrom [] path.toList).reverse with
  | [] :: parts =>
      match parts.dropWhile List.isEmpty with
      | name :: before =>
          match stepOf name with
          | .down _ => some ((before.reverse.map stepOf) ++ [.here])
          | .here | .up => none
      | [] => none
  | _ => none

/-- Whether a path starts from the root rather than from the working directory. -/
def isAbsolute (path : String) : Bool :=
  "/".toList.isPrefixOf path.toList

/-- A path, written backwards, without the slashes and single dots that it ends with. -/
def dropTrailing : List Char → List Char
  | '/' :: rest => dropTrailing rest
  | '.' :: '/' :: rest => dropTrailing rest
  | path => path

/-- A path, written backwards, without its last name and the slash before it. -/
def dropName (path : List Char) : List Char :=
  path.dropWhile (· ≠ '/')

/-- The path of the directory that holds what a path names, unless it names a root or nothing. -/
def parent? (path : String) : Option String :=
  match dropTrailing path.toList.reverse with
  | [] => none
  | backwards =>
      match dropName backwards with
      | [] => some ""
      | slashed =>
          match dropTrailing slashed with
          | [] => some "/"
          | directory => some (String.ofList directory.reverse)

/-- The path of an entry of a directory. -/
def join (directory name : String) : String :=
  if directory.toList.getLast? = some '/' then directory ++ name else directory ++ "/" ++ name

end Path

end ScriptedFeed
