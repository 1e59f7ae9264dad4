import ReleaseLog.Console.Basic
import ReleaseLog.Proofs.Config.Basic
import ReleaseLog.Proofs.Run.Basic

/-!
# Faults in the inputs

A fault in the command line or in the configuration is found before any file is touched. Files
cannot hide such a fault, and they cannot lead to one: a run with an accepted configuration fails
for other reasons only. So a call that ends because of its inputs ends in the same way whatever
files there are, and changes none of them (`FileTree.call_endsByInputs`).
-/

namespace ReleaseLog

namespace FileTree

variable {tree : FileTree} {config : Config} {inputs : Inputs} {failure : Failure}
  {arguments : List Text} {environment : Text → Option Text} {today : Date} {path content : Text}

/-- A run on a tree with these inputs. -/
def runInputs (tree : FileTree) (inputs : Inputs) (today : Date) : Report × FileTree :=
  (inputs.run today : StateM FileTree Report) tree

/-- A call ends with this status because of its inputs: its command line is refused, or the failure
of its run lies in the configuration. -/
inductive EndsByInputs (tree : FileTree) (arguments : List Text)
    (environment : Text → Option Text) (today : Date) : Nat → Prop
  | usage {stop : Stop} (refused : Inputs.ofCommandLine arguments environment = .error stop)
      (fault : stop.exitCode = 2) : EndsByInputs tree arguments environment today 2
  | configuration {inputs : Inputs} {failure : Failure}
      (read : Inputs.ofCommandLine arguments environment = .ok inputs)
      (failed : (tree.runInputs inputs today).1.result = .error failure)
      (lies : failure.isConfiguration = true) : EndsByInputs tree arguments environment today 1

/-! ## Failures of a run with an accepted configuration -/

theorem isConfiguration_of_opened (valid : isVersion config.version = true)
    (h : tree.opened config = .error failure) : failure.isConfiguration = false := by
  unfold opened at h
  rw [valid] at h
  simp only [Bool.true_eq_false, if_false] at h
  split at h
  · cases h
    rfl
  · split at h
    · cases h
      rfl
    · split at h
      · cases h
      · cases h
        rfl

theorem isConfiguration_of_target (h : tree.target path = .error failure) :
    failure.isConfiguration = false := by
  unfold target at h
  split at h
  · cases h
    rfl
  · split at h
    · cases h
      rfl
    · split at h
      · cases h
        rfl
      · split at h
        · cases h
        · cases h
          rfl

theorem isConfiguration_of_replace (h : (tree.replace path content).1 = .error failure) :
    failure.isConfiguration = false := by
  unfold replace at h
  split at h
  · rename_i target
    cases h
    exact isConfiguration_of_target target
  · cases h

/-- A run can only fail because of its configuration if the version is none. -/
theorem isConfiguration_of_run (valid : isVersion config.version = true)
    (h : (tree.run config today).1.result = .error failure) :
    failure.isConfiguration = false := by
  cases opening : tree.opened config with
  | error refusal =>
      rw [(run_of_opened_error opening).1] at h
      cases h
      exact isConfiguration_of_opened valid opening
  | ok content =>
      rw [(run_of_text? valid (opened_eq_ok_iff.1 opening).2).1] at h
      cases mentioned : mentionsRelease config.version content with
      | true =>
          rw [(releaseIn_of_mentionsRelease mentioned).1] at h
          cases h
      | false =>
          cases rendered : render config (config.date.getD today).stamp content with
          | error error =>
              rw [(releaseIn_of_error mentioned rendered).1] at h
              cases h
              rfl
          | ok new =>
              rw [(releaseIn_of_ok mentioned rendered).1] at h
              cases dry : config.dryRun with
              | true =>
                  rw [(publish_of_dryRun dry).1] at h
                  cases h
              | false =>
                  rw [(publish_of_not_dryRun dry).1] at h
                  cases replaced : (tree.replace config.changelog new).1 with
                  | error refusal =>
                      rw [replaced] at h
                      cases h
                      exact isConfiguration_of_replace replaced
                  | ok place =>
                      rw [replaced] at h
                      cases h

/-! ## Runs and calls -/

theorem runInputs_of_error {error : InputError} (refused : Config.ofInputs inputs = .error error)
    (tree : FileTree) (today : Date) :
    tree.runInputs inputs today = (Report.failed (.input error), tree) := by
  rw [runInputs, Inputs.run, refused]
  rfl

theorem runInputs_of_ok (accepted : Config.ofInputs inputs = .ok config) (tree : FileTree)
    (today : Date) : tree.runInputs inputs today = tree.run config today := by
  rw [runInputs, Inputs.run, accepted]
  rfl

/-- A failure that lies in the configuration comes from the check of the inputs. -/
theorem ofInputs_of_isConfiguration
    (failed : (tree.runInputs inputs today).1.result = .error failure)
    (lies : failure.isConfiguration = true) :
    ∃ error, Config.ofInputs inputs = .error error := by
  cases accepted : Config.ofInputs inputs with
  | error error => exact ⟨error, rfl⟩
  | ok config =>
      obtain ⟨_, _, valid, _⟩ := Config.ofInputs_eq_ok_iff.1 accepted
      rw [runInputs_of_ok accepted] at failed
      rw [isConfiguration_of_run valid failed] at lies
      cases lies

theorem call_of_error {stop : Stop}
    (refused : Inputs.ofCommandLine arguments environment = .error stop) (tree : FileTree)
    (today : Date) :
    tree.call arguments environment today = ⟨stop.exitCode, stop.answer, tree⟩ := by
  rw [call, refused]

theorem call_of_ok (read : Inputs.ofCommandLine arguments environment = .ok inputs)
    (tree : FileTree) (today : Date) :
    tree.call arguments environment today =
      ⟨(tree.runInputs inputs today).1.exitCode,
        (tree.runInputs inputs today).1.shown inputs.debug, (tree.runInputs inputs today).2⟩ := by
  rw [call, read]
  rfl

/-- A call that ends because of its inputs ends with the same status and the same output on all
trees, and leaves each as it was. What refuses the inputs of a run is a failure that lies in the
configuration, and no run has such a failure once they have been accepted. -/
theorem call_endsByInputs (arguments : List Text) (environment : Text → Option Text) :
    (∀ tree other today₁ today₂ status,
      EndsByInputs tree arguments environment today₁ status → ∃ output,
        tree.call arguments environment today₁ = ⟨status, output, tree⟩ ∧
          FileTree.call other arguments environment today₂ = ⟨status, output, other⟩) ∧
    (∀ inputs error, Config.ofInputs inputs = .error error → ∀ tree today,
      (runInputs tree inputs today).1.result = .error (.input error) ∧
        (Failure.input error).isConfiguration = true) ∧
    ∀ inputs config, Config.ofInputs inputs = .ok config → ∀ tree today failure,
      (run tree config today).1.result = .error failure → failure.isConfiguration = false := by
  refine ⟨?_, ?_, ?_⟩
  · intro tree other today₁ today₂ status ends
    cases ends with
    | usage refused fault =>
        rw [call_of_error refused, call_of_error refused, fault]
        exact ⟨_, rfl, rfl⟩
    | configuration read failed lies =>
        obtain ⟨error, refused⟩ := ofInputs_of_isConfiguration failed lies
        rw [call_of_ok read, call_of_ok read, runInputs_of_error refused,
          runInputs_of_error refused]
        exact ⟨_, rfl, rfl⟩
  · intro inputs error refused tree today
    rw [runInputs_of_error refused]
    exact ⟨rfl, rfl⟩
  · intro inputs config accepted tree today failure failed
    obtain ⟨_, _, valid, _⟩ := Config.ofInputs_eq_ok_iff.1 accepted
    exact isConfiguration_of_run valid failed

theorem call_endsByInputs_no_version :
    let arguments := ["--pr-number=7".toList, "--debug".toList]
    let environment : Text → Option Text := fun _ => none
    let tree : FileTree := ⟨[], [([defaultPath], .file (Text.toUtf8 "## [Unreleased]".toList))]⟩
    EndsByInputs tree arguments environment Date.epoch 1 ∧ ∃ output,
      tree.call arguments environment Date.epoch = ⟨1, output, tree⟩ ∧
        (FileTree.empty []).call arguments environment Date.epoch =
          ⟨1, output, FileTree.empty []⟩ := by
  intro arguments environment tree
  have read : Inputs.ofCommandLine arguments environment =
      .ok { pullRequest := some "7".toList, debug := true } := by decide +kernel
  have refused : Config.ofInputs { pullRequest := some "7".toList, debug := true } =
      .error (.missing "NEW_VERSION and PR_NUMBER".toList) := by decide
  have failed := congrArg (·.1.result) (runInputs_of_error refused tree Date.epoch)
  have ends : EndsByInputs tree arguments environment Date.epoch 1 :=
    .configuration read failed rfl
  exact ⟨ends, (call_endsByInputs arguments environment).1 _ _ _ _ _ ends⟩

end FileTree
end ReleaseLog
