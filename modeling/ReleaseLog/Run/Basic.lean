import ReleaseLog.Document.Release
import ReleaseLog.Run.Access
import ReleaseLog.Run.Report

/-!
# A run of the program

A run checks the version, finds and reads the changelog, stops if the version has been released
already, and otherwise renders the new changelog and puts it in place of the old one. Nothing is
written before the whole new text is there.
-/

namespace ReleaseLog

/-- The changelog of a run. -/
def Config.changelog (config : Config) : Text := config.path.getD defaultPath

variable {m : Type → Type} [Monad m] [FileAccess m]

/-- The changelog is looked for, and the day of the release is settled. -/
def locate (path : Option Text) (date : Option Date) (today : Date) :
    m (Except Failure (Text × Date)) := do
  let path := path.getD defaultPath
  if ← FileAccess.isPresent path then return .ok (path, date.getD today)
  else return .error (.noChangelog path)

/-- The text of a changelog. -/
def load (path : Text) : m (Except Failure Text) := do
  match ← FileAccess.read path with
  | .error error => return .error (.access path error)
  | .ok bytes =>
      match Text.ofUtf8? bytes with
      | some content => return .ok content
      | none => return .error (.access path .notText)

namespace Config

/-- The new changelog is shown or written. -/
def publish (config : Config) (new : Text) : m Report := do
  let path := config.changelog
  if config.dryRun then
    return (Report.ended (.previewed path config.version new)).after
      [.leftUnchanged path config.version]
  else
    let size := Text.size new
    match ← FileAccess.replace path new with
    | .error failure => return (Report.failed failure).after [.replacing size]
    | .ok place =>
        return (Report.ended (.updated path config.version)).after
          [.replacing size, .replaced size place, .updated path config.version]

/-- The notes on a release that has been rendered. -/
def releaseNotes (config : Config) (old : Document) : List Note :=
  [.parsed old.previous (Text.size old.body), .composed config.entry.bullet,
    .linked config.version]

/-- The changelog has been read: it is left alone if it mentions the version, and otherwise the
version is released. -/
def releaseIn (config : Config) (stamp content : Text) : m Report := do
  let path := config.changelog
  if mentionsRelease config.version content then
    return (Report.ended (.skipped path config.version)).after
      [.alreadyReleased config.version path]
  else
    match Document.ofText (Text.normalizeLineEndings content) with
    | .error error => return Report.failed (.shape error)
    | .ok old =>
        return (← config.publish (old.release config stamp)).after (config.releaseNotes old)

/-- A run of the program on the day `today`. -/
def run (config : Config) (today : Date) : m Report := do
  if !isVersion config.version then
    return Report.failed (.input (.invalidVersion config.version))
  else
    match ← locate config.path config.date today with
    | .error failure => return Report.failed failure
    | .ok (path, date) =>
        match ← load path with
        | .error failure => return (Report.failed failure).after [.located path date]
        | .ok content =>
            return (← config.releaseIn date.stamp content).after
              [.located path date, .loaded (Text.size content) path]

end Config

/-- A run on a tree of files. -/
def FileTree.run (tree : FileTree) (config : Config) (today : Date) : Report × FileTree :=
  (config.run today : StateM FileTree Report) tree

end ReleaseLog
