import JdkCatalog.Feed.Progress

/-!
# File trees

The files that a feed can be read from, as a tree of named files and
directories, and the file that a path leads to.
-/

namespace JdkCatalog.Feed

/-- A file or a directory. -/
inductive FileTree where
  | file (contents : List UInt8)
  | directory (entries : List (String × FileTree))

namespace FileTree

/-- Where the steps of a path lead from a place, given the directories above
that place, nearest first.  Only from a directory is there a step, an empty
one or a point stays there, above the root there is only the root, and a name
has at most 255 bytes. -/
def walk (above : List FileTree) (place : FileTree) : List String → Except FileError FileTree
  | [] => .ok place
  | step :: steps =>
    match place with
    | file _ => .error .notADirectory
    | directory entries =>
      if step = "" ∨ step = "." then
        walk above place steps
      else if step = ".." then
        match above with
        | [] => walk [] place steps
        | parent :: above => walk above parent steps
      else if 255 < step.utf8ByteSize then
        .error .nameTooLong
      else
        match entries.lookup step with
        | some next => walk (place :: above) next steps
        | none => .error .notFound

/-- The contents of a file. -/
def contents : FileTree → Except FileError (List UInt8)
  | file contents => .ok contents
  | directory _ => .error .isADirectory

end FileTree

/-- All files, and the directory that paths begin in unless they begin with a
slash. -/
structure Files where
  root : FileTree
  workingDirectory : List String

/-- The steps between the slashes of a path. -/
def pathSteps (path : String) : List String :=
  (path.toList.splitOn '/').map String.ofList

/-- The contents of the file that a path leads to.  A path holds no NUL and has
less than 4096 bytes. -/
def Files.read (files : Files) (path : String) : Except FileError (List UInt8) := do
  if path.toList.contains '\x00' then
    throw .nulInName
  else if path = "" then
    throw .notFound
  else if 4096 ≤ path.utf8ByteSize then
    throw .nameTooLong
  else
    let start := if path.toList.head? = some '/' then [] else files.workingDirectory
    let place ← FileTree.walk [] files.root (start ++ pathSteps path)
    place.contents

end JdkCatalog.Feed
