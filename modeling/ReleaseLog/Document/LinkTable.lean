import ReleaseLog.Text.Line

/-!
# The link table of a changelog

Below its sections a changelog defines the links that they use, one `[label]: url` after the
other. The table begins with the link of the unreleased changes, which compares the newest release
with the main branch. A release renews that link and puts its own right below it.

A label reaches up to the next closing bracket, over line ends if need be, so definitions are
read one after the other and not line by line.
-/

namespace ReleaseLog

/-- The label of the unreleased changes. -/
def unreleasedLabel : Text := "Unreleased".toList

/-- The beginning of the line that defines the link of the unreleased changes. -/
def unreleasedLinkMark : Text := "[Unreleased]:".toList

/-- The line defines the link of the unreleased changes. -/
def isUnreleasedLink (line : Text) : Bool := Text.startsWith unreleasedLinkMark line

/-- A link of the table: `[label]: url`. -/
structure LinkDefinition where
  label : Text
  url : Text
  deriving DecidableEq, Repr

namespace LinkDefinition

/-- The link that a text begins with, and the rest of the text. The url may be missing. -/
def read? : Text → Option (LinkDefinition × Text)
  | '[' :: s =>
      match s.takeWhile (· != ']'), s.dropWhile (· != ']') with
      | c :: label, ']' :: ':' :: rest =>
          let target := rest.dropWhile Text.isBlank
          some (⟨c :: label, target.takeWhile (!Text.isWhite ·)⟩,
            target.dropWhile (!Text.isWhite ·))
      | _, _ => none
  | _ => none

theorem length_lt_of_read? {s rest : Text} {link : LinkDefinition}
    (h : read? s = some (link, rest)) : rest.length < s.length := by
  unfold read? at h
  split at h
  · rename_i t
    split at h
    · rename_i below
      obtain ⟨_, rfl⟩ := Prod.mk.inj (Option.some.inj h)
      have shorter := (List.dropWhile_sublist (l := t) (· != ']')).length_le
      have blanks := fun s => (List.dropWhile_sublist (l := s) Text.isBlank).length_le
      have word := fun s => (List.dropWhile_sublist (l := s) (!Text.isWhite ·)).length_le
      rw [below] at shorter
      simp only [List.length_cons] at shorter ⊢
      exact Nat.lt_of_le_of_lt (Nat.le_trans (word _) (blanks _)) (by omega)
    · simp at h
  · simp at h

/-- The link that a text begins with, if it begins a line. -/
def readAt? (atStart : Bool) (s : Text) : Option (LinkDefinition × Text) :=
  if atStart then read? s else none

theorem length_lt_of_readAt? {atStart : Bool} {s rest : Text} {link : LinkDefinition}
    (h : readAt? atStart s = some (link, rest)) : rest.length < s.length := by
  unfold readAt? at h
  split at h
  · exact length_lt_of_read? h
  · simp at h

end LinkDefinition

/-- The links defined in a text, in order. Each begins at the start of a line, and the search for
the next goes on where it ends. -/
def linkDefinitions (atStart : Bool) (s : Text) : List LinkDefinition :=
  match _h : LinkDefinition.readAt? atStart s with
  | some (link, rest) => link :: linkDefinitions false rest
  | none =>
      match s with
      | [] => []
      | c :: cs => linkDefinitions (c == '\n') cs
termination_by s.length
decreasing_by
  · exact LinkDefinition.length_lt_of_readAt? _h
  · simp

/-- The two lines that a release writes into the table: what changed since it, and what changed
between the previous release and it. -/
def releaseLinks (repository previous version : Text) : Text :=
  "[Unreleased]: ".toList ++ repository ++ "/".toList ++ version ++ "...main\n[".toList ++
    version ++ "]: ".toList ++ repository ++ "/compare/".toList ++ previous ++ "...".toList ++
    version

/-- The table after a release: the first link of the unreleased changes gives way to the lines of
the release. A table without such a link stays as it is. -/
def updateLinks (repository previous version table : Text) : Text :=
  match Text.findLine isUnreleasedLink true table with
  | some cut => cut.before ++ releaseLinks repository previous version ++ cut.after
  | none => table

end ReleaseLog
