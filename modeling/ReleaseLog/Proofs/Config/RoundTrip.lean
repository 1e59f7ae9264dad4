import ReleaseLog.Proofs.Config.Basic
import ReleaseLog.Proofs.Date.Stamp

/-!
# Configurations as inputs

The values of a configuration can be given as inputs again, each in the form in which it is written.
Every accepted configuration is read back from them: numbers and dates by the laws of their
printers, the repository because it is still a url of the web without the slashes that it has lost.
-/

namespace ReleaseLog
namespace Config

variable {inputs : Inputs} {config : Config} {n : Nat}

/-- The inputs that give the values of a configuration. -/
def toInputs (config : Config) (debug : Bool) : Inputs where
  version := config.version
  pullRequest := Text.ofNat config.pullRequest
  path := config.path
  repository := config.repository
  date := config.date.map Date.stamp
  dryRun := config.dryRun
  debug := debug

theorem dropPlus_of_isDigits {digits : Text} (h : Text.isDigits digits = true) :
    dropPlus digits = digits := by
  unfold dropPlus
  split
  · simp [Text.isDigits] at h
  · rfl

theorem readPullRequest_ofNat (positive : 0 < n) (fits : n ≤ maxPullRequest) :
    readPullRequest (Text.ofNat n) = .ok n := by
  have digits := Text.isDigits_ofNat n
  rw [readPullRequest_eq_ok_iff, dropPlus_of_isDigits digits]
  exact ⟨digits, Text.digitsValue_ofNat n, positive, fits⟩

theorem readRepository_repository (accepted : ofInputs inputs = .ok config) :
    readRepository (some config.repository) = .ok config.repository := by
  obtain ⟨web, trimmed⟩ := checkWeb_repository accepted
  exact readRepository_eq_ok_iff.2 (.inr ⟨config.repository, rfl, web, trimmed.symm⟩)

theorem readDate_stamp (date : Option Date) :
    readDate (nonEmpty? (date.map Date.stamp)) = .ok date := by
  cases date with
  | none => rfl
  | some day =>
      rw [Option.map_some, nonEmpty?_some day.stamp_ne_nil]
      simp only [readDate, Date.ofText?_stamp]

/-- An accepted configuration is read back from its own values, and so is each value by itself. -/
theorem ofInputs_toInputs (accepted : ofInputs inputs = .ok config) (debug : Bool) :
    ofInputs (config.toInputs debug) = .ok config ∧
      readPullRequest (Text.ofNat config.pullRequest) = .ok config.pullRequest ∧
      readRepository (some config.repository) = .ok config.repository ∧
      ∀ date : Date, Date.ofText? date.stamp = some date := by
  obtain ⟨number, given, valid, _, isNumber, _, _, path, _⟩ := ofInputs_eq_ok_iff.1 accepted
  have version := (nonEmpty?_eq_some_iff.1 given).2
  obtain ⟨_, _, positive, fits⟩ := readPullRequest_eq_ok_iff.1 isNumber
  have pullRequest := readPullRequest_ofNat positive fits
  have repository := readRepository_repository accepted
  refine ⟨ofInputs_eq_ok_iff.2 ⟨Text.ofNat config.pullRequest, nonEmpty?_some version, valid,
    nonEmpty?_some Nat.toDigits_ne_nil, pullRequest, ?_, readDate_stamp config.date, ?_, rfl⟩,
    pullRequest, repository, Date.ofText?_stamp⟩
  · show readRepository (nonEmpty? (some config.repository)) = .ok config.repository
    rw [nonEmpty?_some (repository_ne_nil accepted), repository]
  · show nonEmpty? config.path = config.path
    rw [← path, nonEmpty?_nonEmpty?]

theorem ofInputs_toInputs_signed :
    let config : Config :=
      { version := "1.2.3-4.5.6-rc.1".toList, pullRequest := 7
        repository := "https://github.com/org/repo".toList, date := some ⟨-1, 2, 3, by decide⟩ }
    ofInputs (config.toInputs true) = .ok config ∧
      readPullRequest (Text.ofNat config.pullRequest) = .ok config.pullRequest ∧
      readRepository (some config.repository) = .ok config.repository ∧
      ∀ date : Date, Date.ofText? date.stamp = some date := by
  intro config
  let inputs : Inputs :=
    { version := "1.2.3-4.5.6-rc.1".toList, pullRequest := "+007".toList, path := some []
      repository := "https://github.com/org/repo//".toList, date := " -1-2- 3".toList }
  have accepted : ofInputs inputs = .ok config := rfl
  exact ofInputs_toInputs accepted true

end Config
end ReleaseLog
