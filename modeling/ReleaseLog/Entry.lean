import ReleaseLog.Version

/-!
# The entry of a release

What a release writes into its own section: a bullet that names the new version of the node and
cites a pull request, and the line that defines the citation.
-/

namespace ReleaseLog

/-- A bullet and the link that it cites. -/
structure Entry where
  bullet : Text
  link : Text
  deriving DecidableEq, Repr

/-- A citation of a pull request. -/
def pullCitation (number : Nat) : Text := "[#".toList ++ Text.ofNat number ++ "]".toList

/-- The line that says where a citation leads. -/
def pullLink (repository : Text) (number : Nat) : Text :=
  pullCitation number ++ ": ".toList ++ repository ++ "/pull/".toList ++ Text.ofNat number

/-- The entry for a version that landed with a pull request. -/
def Entry.compose (version : Text) (number : Nat) (repository : Text) : Entry where
  bullet := "* chore: bump nearcore to ".toList ++ dependencyVersion version ++ " in ".toList ++
    pullCitation number
  link := pullLink repository number

end ReleaseLog
