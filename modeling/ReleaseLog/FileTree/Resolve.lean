import ReleaseLog.FileTree.Basic

/-!
# From paths to places

A path is followed name by name. A name in the middle has to lead to a directory; a link is replaced
by its target, at most forty times along one path. The last name may lead nowhere, if its
directory exists: a file can be made there. A slash at the end demands a directory.

A path may be followed as a whole, and then the path itself has a longest size; or the path of the
place that it leads to is built up name by name, and then each path that is built has.
-/

namespace ReleaseLog

/-- Why the operating system refuses a path or a file. -/
inductive OsError
  | notFound
  | notDirectory
  | isDirectory
  | nameTooLong
  | tooManyLinks
  | busy
  | nulInPath
  | notText
  | other (message : Text)
  deriving DecidableEq, Repr

/-- The wording of the error. -/
def OsError.message : OsError → Text
  | notFound => "No such file or directory (os error 2)".toList
  | notDirectory => "Not a directory (os error 20)".toList
  | isDirectory => "Is a directory (os error 21)".toList
  | nameTooLong => "File name too long (os error 36)".toList
  | tooManyLinks => "Too many levels of symbolic links (os error 40)".toList
  | busy => "Device or resource busy (os error 16)".toList
  | nulInPath => "file name contained an unexpected NUL byte".toList
  | notText => "stream did not contain valid UTF-8".toList
  | other message => message

/-- The names of a path. A slash at the end counts as the name of the directory itself. -/
def pathNames (path : Text) : List Text :=
  let parts := Text.splitOn '/' path
  parts.filter (!·.isEmpty) ++ if parts.getLast? = some [] then [['.']] else []

/-- The path begins at the root. -/
def isAbsolutePath (path : Text) : Bool := path.head? == some '/'

/-- Where a path leads: a place, and what stands there. Nothing may stand at a place whose directory
exists. -/
structure Spot where
  place : Place
  entry : Option FileEntry
  deriving DecidableEq

/-- How a walk along names ends: at a spot, with an error, or before a link, from where other
names have to be followed. -/
inductive Walk
  | arrived (spot : Spot)
  | failed (error : OsError)
  | detour (start : Place) (names : List Text)

namespace FileTree

/-- The place at which the names of a path begin to count. -/
def startOf (path : Text) (directory : Place) : Place :=
  if isAbsolutePath path then [] else directory

/-- The most bytes of a name. -/
def nameLimit : Nat := 255

/-- The most bytes of a path. -/
def pathLimit : Nat := 4095

/-- The names that follow a name demand that it leads to a directory, though they name nothing in
it. -/
def demandDirectory : List Text → Bool
  | [] => false
  | name :: names =>
      if name = ['.'] then names.isEmpty || demandDirectory names else name = ['.', '.']

/-- The entry is a link. -/
def isLink : Option FileEntry → Bool
  | some (.link _) => true
  | _ => false

/-- All places can be walked through. -/
def anyPlace (_ : Place) (_ : Bool) : Bool := true

/-- The path of the place is short enough to be used, with a slash behind it if it has to be a
directory. -/
def hasShortPath (place : Place) (asDirectory : Bool) : Bool :=
  Text.size place.toText + (if asDirectory then 1 else 0) ≤ pathLimit

/-- Why names that follow a file fail: the path to the next name may be too long to find out that
the file is no directory. -/
def behindFile (admits : Place → Bool → Bool) (place : Place) : List Text → OsError
  | [] => .notDirectory
  | name :: names =>
      if name = ['.'] then behindFile admits place names
      else if name = ['.', '.'] || admits (place ++ [name]) (demandDirectory names) then
        .notDirectory
      else .nameTooLong

/-- A walk from a directory along names and through the places that are admitted, up to the first
link. -/
def walk (tree : FileTree) (admits : Place → Bool → Bool) (directory : Place) :
    List Text → Walk
  | [] => .arrived ⟨directory, some .directory⟩
  | name :: names =>
      if name = ['.'] then tree.walk admits directory names
      else if name = ['.', '.'] then tree.walk admits directory.dropLast names
      else
        let place := directory ++ [name]
        let entry := tree.entry? place
        let asDirectory := demandDirectory names && !isLink entry
        if nameLimit < Text.size name || !admits place asDirectory then .failed .nameTooLong
        else
          match entry with
          | none => if names.isEmpty then .arrived ⟨place, none⟩ else .failed .notFound
          | some .directory => tree.walk admits place names
          | some (.file content) =>
              if names.isEmpty then .arrived ⟨place, some (.file content)⟩
              else .failed (behindFile admits place names)
          | some (.link target) =>
              if target.isEmpty then .failed .notFound
              else .detour (startOf target directory) (pathNames target ++ names)

/-- Names are followed through so many links at most. -/
def follow (tree : FileTree) (admits : Place → Bool → Bool) (links : Nat) (directory : Place)
    (names : List Text) : Except OsError Spot :=
  match tree.walk admits directory names with
  | .arrived spot => .ok spot
  | .failed error => .error error
  | .detour start names =>
      match links with
      | 0 => .error .tooManyLinks
      | links + 1 => tree.follow admits links start names

/-- The number of links that a path may lead through. -/
def linkLimit : Nat := 40

/-- The spot that a path leads to. -/
def spot (tree : FileTree) (path : Text) : Except OsError Spot :=
  if path.contains '\x00' then .error .nulInPath
  else if path.isEmpty then .error .notFound
  else if pathLimit < Text.size path then .error .nameTooLong
  else tree.follow anyPlace linkLimit (startOf path tree.home) (pathNames path)

/-- The place of a spot and what stands there. It is an error if nothing does. -/
def occupied : Except OsError Spot → Except OsError (Place × FileEntry)
  | .error error => .error error
  | .ok ⟨_, none⟩ => .error .notFound
  | .ok ⟨place, some entry⟩ => .ok (place, entry)

/-- The place that a path leads to and what stands there. -/
def resolve (tree : FileTree) (path : Text) : Except OsError (Place × FileEntry) :=
  occupied (tree.spot path)

/-- The place that a path leads to and what stands there, if the path of the place is wanted: it is
built up name by name, so the path that leads there may be of any size. -/
def canonicalize (tree : FileTree) (path : Text) : Except OsError (Place × FileEntry) :=
  if path.contains '\x00' then .error .nulInPath
  else if path.isEmpty then .error .notFound
  else occupied (tree.follow hasShortPath linkLimit (startOf path tree.home) (pathNames path))

/-- Something stands where the path leads. -/
def isPresent (tree : FileTree) (path : Text) : Bool :=
  match tree.resolve path with
  | .ok _ => true
  | .error _ => false

/-- The bytes of the file that a path leads to. -/
def read (tree : FileTree) (path : Text) : Except OsError Bytes :=
  match tree.resolve path with
  | .error error => .error error
  | .ok (_, .file content) => .ok content
  | .ok _ => .error .isDirectory

end FileTree
end ReleaseLog
