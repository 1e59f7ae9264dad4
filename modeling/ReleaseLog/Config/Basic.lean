import ReleaseLog.Config.Inputs
import ReleaseLog.Date.Stamp
import ReleaseLog.Url.Basic
import ReleaseLog.Version

/-!
# Configurations

A configuration holds everything that one release needs. `Config.ofInputs` checks the inputs in
a fixed order, version first, and reports the first fault. Values are taken as they are: nothing
is trimmed but the slashes at the end of the repository url.
-/

namespace ReleaseLog

/-- What is wrong with the inputs. -/
inductive InputError
  | missing (names : Text)
  | invalidVersion (value : Text)
  | invalidPullRequest (value : Text)
  | invalidRepository (value : Text) (reason : UrlError)
  | invalidDate (value : Text)
  deriving DecidableEq, Repr

/-- The wording of the error. -/
def InputError.message : InputError → Text
  | missing names => names ++ " must be set".toList
  | invalidVersion value =>
      "Invalid version format '".toList ++ value ++
        "'. Valid formats: 'x.y.z-a.b.c' or 'x.y.z-a.b.c-rc.n'".toList
  | invalidPullRequest value =>
      "Invalid PR number '".toList ++ value ++ "': expected a positive integer".toList
  | invalidRepository value reason =>
      "Invalid repository url '".toList ++ value ++ "': ".toList ++ reason.message
  | invalidDate value =>
      "Invalid release date '".toList ++ value ++ "': expected YYYY-MM-DD".toList

/-- The changelog that is released if no path is given. -/
def defaultPath : Text := "CHANGES.md".toList

/-- The repository that links lead to if none is given. -/
def defaultRepository : Text := "https://github.com/aurora-is-near/borealis-engine-lib".toList

/-- Everything that one release needs. -/
structure Config where
  /-- The version to release. -/
  version : Text
  /-- The pull request that brought the node's version. -/
  pullRequest : Nat
  /-- The changelog, if it is not the default one. -/
  path : Option Text := none
  /-- Where links lead, without a slash at the end. -/
  repository : Text := defaultRepository
  /-- The day of the release, if it is not today. -/
  date : Option Date := none
  /-- The new changelog is shown and not written. -/
  dryRun : Bool := false
  deriving DecidableEq, Repr

namespace Config

/-- A version that is given has to be one. -/
def checkVersion : Option Text → Except InputError Unit
  | some value => if isVersion value then .ok () else .error (.invalidVersion value)
  | none => .ok ()

/-- The two inputs that every release needs. -/
def required : Option Text → Option Text → Except InputError (Text × Text)
  | some version, some pullRequest => .ok (version, pullRequest)
  | _, _ => .error (.missing "NEW_VERSION and PR_NUMBER".toList)

/-- A number without the single `+` that it may have in front. -/
def dropPlus : Text → Text
  | '+' :: s => s
  | s => s

/-- The largest number of 64 bits. -/
def maxPullRequest : Nat := 18446744073709551615

/-- A pull request is numbered from 1 on, by at most 64 bits. -/
def readPullRequest (value : Text) : Except InputError Nat :=
  let digits := dropPlus value
  let number := Text.digitsValue digits
  if Text.isDigits digits && 0 < number && number ≤ maxPullRequest then .ok number
  else .error (.invalidPullRequest value)

/-- A repository url without the slashes at its end. -/
def trimSlashes (url : Text) : Text := (url.reverse.dropWhile (· == '/')).reverse

/-- The repository, which has to be a url of the web. -/
def readRepository : Option Text → Except InputError Text
  | some value =>
      match Url.checkWeb value with
      | .ok () => .ok (trimSlashes value)
      | .error reason => .error (.invalidRepository value reason)
  | none => .ok defaultRepository

/-- The day of a release. -/
def readDate : Option Text → Except InputError (Option Date)
  | some value =>
      match Date.ofText? value with
      | some date => .ok (some date)
      | none => .error (.invalidDate value)
  | none => .ok none

/-- The configuration that the inputs ask for. A version that is given and invalid is reported
ahead of anything that is missing. -/
def ofInputs (inputs : Inputs) : Except InputError Config := do
  let version := nonEmpty? inputs.version
  checkVersion version
  let (version, number) ← required version (nonEmpty? inputs.pullRequest)
  let pullRequest ← readPullRequest number
  let repository ← readRepository (nonEmpty? inputs.repository)
  let date ← readDate (nonEmpty? inputs.date)
  return { version, pullRequest, path := nonEmpty? inputs.path, repository, date
           dryRun := inputs.dryRun }

end Config
end ReleaseLog
