import ReleaseLog.Text.Utf8

/-!
# Trees of files

A file tree is a table from places to what stands there: a file, a directory or a symbolic link. A
place is the row of names that leads to it from the root. Names are looked up from the working
directory, which always exists, and so do the directories that lead to it.
-/

namespace ReleaseLog

/-- The names that lead from the root to a file, a directory or a link. -/
abbrev Place := List Text

/-- The absolute path of a place. -/
def Place.toText : Place → Text
  | [] => ['/']
  | names => names.flatMap ('/' :: ·)

/-- What stands at a place. -/
inductive FileEntry
  | file (content : Bytes)
  | directory
  | link (target : Text)
  deriving DecidableEq

/-- Files, directories and links, and the directory in which a program works. -/
structure FileTree where
  home : Place
  entries : List (Place × FileEntry)
  deriving DecidableEq

namespace FileTree

/-- A tree with an empty working directory. -/
def empty (home : Place) : FileTree := ⟨home, []⟩

/-- What stands at a place. -/
def entry? (tree : FileTree) (place : Place) : Option FileEntry :=
  if place.isPrefixOf tree.home then some .directory else tree.entries.lookup place

/-- One more entry, at a place where nothing stands. -/
def add (tree : FileTree) (place : Place) (entry : FileEntry) : FileTree :=
  { tree with entries := tree.entries ++ [(place, entry)] }

/-- A place left empty. -/
def erase (tree : FileTree) (place : Place) : FileTree :=
  { tree with entries := tree.entries.filter (·.1 != place) }

/-- A file with new content. -/
def overwrite (tree : FileTree) (place : Place) (content : Bytes) : FileTree :=
  { tree with
    entries := tree.entries.map fun (other, entry) =>
      (other, if other = place then .file content else entry) }

/-- The line of a listing that shows an entry, by its path from the working directory. -/
def listingLine (names : Place) : FileEntry → Text
  | .file _ => List.intercalate ['/'] names
  | .directory => List.intercalate ['/'] names ++ ['/']
  | .link target => List.intercalate ['/'] names ++ " -> ".toList ++ target

/-- All entries below the working directory, in the order of their characters. -/
def listing (tree : FileTree) : List Text :=
  (tree.entries.filterMap fun (place, entry) =>
    if tree.home.isPrefixOf place then
      some (listingLine (place.drop tree.home.length) entry)
    else none).mergeSort fun a b => !decide (b < a)

end FileTree
end ReleaseLog
