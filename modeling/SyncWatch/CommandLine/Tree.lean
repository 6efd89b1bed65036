import SyncWatch.CommandLine.Program

/-!
# Files as a value

A tree of files and directories in which the program can be run without a
system.  Places are lists of names, so that different spellings of a path name
one place.
-/

namespace SyncWatch
namespace CommandLine

/-- The names on the way to a place. -/
abbrev Place := List String

/-- The place that a path names. -/
def placeOf (path : String) : Place :=
  (path.splitOn "/").filter fun name => name != "" && name != "."

/-- Files with their bytes, and directories that need not hold any. -/
structure Tree where
  files : List (Place × ByteArray)
  directories : List Place := []

namespace Tree

/-- Whether there is a file at a place. -/
def isFile (tree : Tree) (place : Place) : Bool :=
  (tree.files.lookup place).isSome

/-- Whether there is a directory at a place. -/
def isDirectory (tree : Tree) (place : Place) : Bool :=
  tree.directories.any place.isPrefixOf ||
    tree.files.any fun file => place.isPrefixOf file.1 && place != file.1

/-- Whether a file stands on the way to a place. -/
def isBlocked (tree : Tree) (place : Place) : Bool :=
  (List.range place.length).any fun count => tree.isFile (place.take count)

/-- Read the file at a path. -/
def read (tree : Tree) (path : String) : FileReading :=
  let place := placeOf path
  match tree.files.lookup place with
  | some bytes => if Text.endsWith path "/" then .blocked else .ofBytes bytes
  | none =>
    if tree.isBlocked place then .blocked
    else if tree.isDirectory place then .unreadable FileReading.directoryCause
    else .absent

/-- The program in a tree, with a home directory and without a terminal. -/
def host (home : Option String) : Host (StateM Tree) where
  home := pure home
  readFile path := fun tree => (tree.read path, tree)
  makeDirectory path := fun tree =>
    let place := placeOf path
    if tree.isFile place || tree.isBlocked place then
      (some FileReading.blockedCause, tree)
    else
      (none, { tree with directories := place :: tree.directories })
  showDashboard _ := pure (some (.terminalInit "there is no terminal"))

end Tree
end CommandLine
end SyncWatch
