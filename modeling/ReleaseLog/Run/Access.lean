import ReleaseLog.Failure

/-!
# Access to files

A run needs three operations on files, and is stated over any monad that has them. `StateM FileTree`
gives them their meaning on a tree of files. A file is replaced in one step: the new file, which is
prepared in the same directory, takes the place that the path leads to, so links on the way stay as
they are. A directory does not give way to a file, and the root is always in use.

The tree is seen when a replacement is over and its failure, if it failed, has been let go. Nothing
has changed then. What stands in the tree while the failure is held, a new file that could not be
moved onto its place, is a matter of the single steps (`FileTree.replaceBySteps`).
-/

namespace ReleaseLog

/-- The operations on files that a run needs. -/
class FileAccess (m : Type → Type) where
  /-- Something stands where the path leads. -/
  isPresent : Text → m Bool
  /-- The bytes of the file that a path leads to. -/
  read : Text → m (Except OsError Bytes)
  /-- The file that a path leads to is replaced by one with this text. The answer is the path of the
  file itself, or a failure that holds no file any more. -/
  replace : Text → Text → m (Except Failure Text)

/-- A name like that of a file in which new content is prepared. Six of its characters are chosen
anew each time. -/
def preparedName : Text := ".tmp000000".toList

/-- How the directory is called in which new content for a place is prepared. The root is in no
directory, so it is the working directory then. -/
def Place.directoryPath (place : Place) : Text :=
  if place = [] then ['.'] else Place.toText place.dropLast

/-- The path of a file of this name in which new content for a place is prepared. -/
def FileTree.preparedPath (tree : FileTree) (place : Place) (name : Text) : Text :=
  Place.toText ((if place = [] then tree.home ++ [['.']] else place.dropLast) ++ [name])

/-- New content is prepared in a file beside the place, and the path of that file has to be short
enough as well. -/
def FileTree.hasRoomBeside (tree : FileTree) (place : Place) : Bool :=
  Text.size (tree.preparedPath place preparedName) ≤ pathLimit

/-- The place of the file that is replaced if a path is given, or why it cannot be. -/
def FileTree.target (tree : FileTree) (path : Text) : Except Failure Place :=
  match tree.canonicalize path with
  | .error error => .error (.access path error)
  | .ok (place, entry) =>
      if !tree.hasRoomBeside place then .error (.access place.directoryPath .nameTooLong)
      else if place = [] then .error (.replacement place.toText .busy)
      else
        match entry with
        | .file _ => .ok place
        | _ => .error (.replacement place.toText .isDirectory)

/-- A file of a tree is replaced. The answer is the path of the file itself, and the tree is the one
after a failure has been let go. -/
def FileTree.replace (tree : FileTree) (path content : Text) : Except Failure Text × FileTree :=
  match tree.target path with
  | .error failure => (.error failure, tree)
  | .ok place => (.ok place.toText, tree.overwrite place (Text.toUtf8 content))

instance : FileAccess (StateM FileTree) where
  isPresent path tree := (tree.isPresent path, tree)
  read path tree := (tree.read path, tree)
  replace path content tree := tree.replace path content

end ReleaseLog
