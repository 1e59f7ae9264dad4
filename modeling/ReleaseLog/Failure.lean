import ReleaseLog.Config.Basic
import ReleaseLog.Document.Basic
import ReleaseLog.FileTree.Resolve

/-!
# Failures

Everything that can end a run without a release. A failure that lies in the inputs is found before
any file is touched. All of them end the program with the same status.
-/

namespace ReleaseLog

/-- Why a run failed. -/
inductive Failure
  | input (error : InputError)
  | noChangelog (path : Text)
  | shape (error : ShapeError)
  | access (path : Text) (error : OsError)
  | replacement (path : Text) (error : OsError)
  deriving DecidableEq, Repr

namespace Failure

/-- The wording of the failure. -/
def message : Failure → Text
  | input error => error.message
  | noChangelog path => path ++ " not found".toList
  | shape error => error.message
  | access path error => "I/O error on ".toList ++ path ++ ": ".toList ++ error.message
  | replacement path error =>
      "Failed to replace ".toList ++ path ++ ": failed to persist temporary file: ".toList ++
        error.message

/-- The failure lies in the inputs. -/
def isConfiguration : Failure → Bool
  | input _ => true
  | _ => false

/-- The status with which the program ends. -/
def exitCode (_ : Failure) : Nat := 1

end Failure
end ReleaseLog
