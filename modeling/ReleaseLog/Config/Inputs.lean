import ReleaseLog.Text.Basic

/-!
# Inputs

What the user has said, before any of it is checked: from the command line, and from the environment
where the command line says nothing. An input that was given as an empty text counts as missing.
-/

namespace ReleaseLog

/-- The inputs of a run, as given. -/
structure Inputs where
  version : Option Text := none
  pullRequest : Option Text := none
  path : Option Text := none
  repository : Option Text := none
  date : Option Text := none
  dryRun : Bool := false
  debug : Bool := false
  deriving DecidableEq, Repr

/-- A value that is not empty. -/
def nonEmpty? (value : Option Text) : Option Text := value.filter (!·.isEmpty)

end ReleaseLog
