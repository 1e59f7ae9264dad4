import ReleaseLog.Failure

/-!
# Reports

A run answers with a report: how it ended, and what it noted on the way, in order.
-/

namespace ReleaseLog

/-- How a run ended that did not fail. -/
inductive Outcome
  /-- The changelog was replaced by its release. -/
  | updated (path version : Text)
  /-- The new changelog is shown and the old one is still in place. -/
  | previewed (path version content : Text)
  /-- The version was released before, and nothing was done. -/
  | skipped (path version : Text)
  deriving DecidableEq, Repr

/-- How important a note is. -/
inductive Level
  | debug
  | info
  | error
  deriving DecidableEq, Repr

/-- What a run notes. -/
inductive Note
  | located (path : Text) (date : Date)
  | loaded (size : Nat) (path : Text)
  | alreadyReleased (version path : Text)
  | parsed (previous : Text) (bodySize : Nat)
  | composed (bullet : Text)
  | linked (version : Text)
  | leftUnchanged (path version : Text)
  | replacing (size : Nat)
  | replaced (size : Nat) (place : Text)
  | updated (path version : Text)
  | failed (failure : Failure)
  | seeHelp
  deriving DecidableEq, Repr

namespace Note

/-- Only notes that say how a run ended are for every reader. -/
def level : Note → Level
  | alreadyReleased .. | leftUnchanged .. | updated .. | seeHelp => .info
  | failed _ => .error
  | located .. | loaded .. | parsed .. | composed _ | linked _ | replacing _ | replaced .. => .debug

/-- A number of bytes. -/
def bytes (size : Nat) : Text := Text.ofNat size ++ " bytes".toList

/-- The wording of a note. -/
def message : Note → Text
  | located path date =>
      "using changelog ".toList ++ path ++ " dated ".toList ++ date.stamp
  | loaded size path => "loaded ".toList ++ bytes size ++ " from ".toList ++ path
  | alreadyReleased version path =>
      "Version ".toList ++ version ++ " already exists in ".toList ++ path ++
        ", skipping update".toList
  | parsed previous bodySize =>
      "previous release ".toList ++ previous ++ ", unreleased body is ".toList ++ bytes bodySize
  | composed bullet => "composed entry: ".toList ++ bullet
  | linked version => "link table now points Unreleased at ".toList ++ version
  | leftUnchanged path version =>
      "dry run: ".toList ++ path ++ " left unchanged for version ".toList ++ version
  | replacing size => "persisting ".toList ++ bytes size
  | replaced size place => "wrote ".toList ++ bytes size ++ " to ".toList ++ place
  | updated path version =>
      "Successfully updated ".toList ++ path ++ " with new version ".toList ++ version
  | failed failure => "Error: ".toList ++ failure.message
  | seeHelp => "run with --help to see the accepted inputs".toList

end Note

/-- What a run noted, and how it ended. -/
structure Report where
  notes : List Note
  result : Except Failure Outcome

namespace Report

/-- A run that fails. -/
def failed (failure : Failure) : Report := ⟨[], .error failure⟩

/-- A run that ends well. -/
def ended (outcome : Outcome) : Report := ⟨[], .ok outcome⟩

/-- Notes in front of all others. -/
def after (notes : List Note) (report : Report) : Report :=
  { report with notes := notes ++ report.notes }

@[simp] theorem result_failed (failure : Failure) : (failed failure).result = .error failure := rfl

@[simp] theorem result_ended (outcome : Outcome) : (ended outcome).result = .ok outcome := rfl

@[simp] theorem result_after (notes : List Note) (report : Report) :
    (report.after notes).result = report.result := rfl

end Report
end ReleaseLog
