import ReleaseLog.FileTree.Resolve

/-!
# Changing a tree of files

The operations with which a tree is set up: files are written through links, directories are made
as needed, and what cannot be done leaves the tree as it is.
-/

namespace ReleaseLog
namespace FileTree

/-- A directory at the end of these names, if nothing stands there. -/
def makeDirectory (tree : FileTree) (start : Place) (names : List Text) : FileTree :=
  match tree.follow anyPlace linkLimit start names with
  | .ok ⟨place, none⟩ => tree.add place .directory
  | _ => tree

/-- Directories at the end of these names and all along them. -/
def makeDirectories (tree : FileTree) (start : Place) (names : List Text) : FileTree :=
  (List.range (names.length + 1)).foldl
    (fun tree count => tree.makeDirectory start (names.take count)) tree

/-- All directories of a path. -/
def makePath (tree : FileTree) (path : Text) : FileTree :=
  tree.makeDirectories (startOf path tree.home) (pathNames path)

/-- The directories that lead to the last name of a path. -/
def makeParents (tree : FileTree) (path : Text) : FileTree :=
  tree.makeDirectories (startOf path tree.home) (pathNames path).dropLast

/-- The content of a file is set; the file and its directories are made if need be. -/
def write (tree : FileTree) (path : Text) (content : Bytes) : FileTree :=
  let tree := tree.makeParents path
  match tree.spot path with
  | .ok ⟨place, none⟩ => tree.add place (.file content)
  | .ok ⟨place, some (.file _)⟩ => tree.overwrite place content
  | _ => tree

/-- The place that the last name of a path names itself, be it a link or not. -/
def ownPlace? (tree : FileTree) (path : Text) : Option Place :=
  let names := pathNames path
  match tree.follow anyPlace linkLimit (startOf path tree.home) names.dropLast, names.getLast? with
  | .ok ⟨directory, some .directory⟩, some name => some (directory ++ [name])
  | _, _ => none

/-- A symbolic link. -/
def addLink (tree : FileTree) (target path : Text) : FileTree :=
  let tree := tree.makeParents path
  match tree.ownPlace? path with
  | some place => if (tree.entry? place).isNone then tree.add place (.link target) else tree
  | none => tree

/-- A file or a link is removed. -/
def remove (tree : FileTree) (path : Text) : FileTree :=
  match tree.ownPlace? path with
  | some place => tree.erase place
  | none => tree

end FileTree
end ReleaseLog
