import ReleaseLog.Proofs.Config.Basic
import ReleaseLog.Proofs.Date.Reading
import ReleaseLog.Proofs.Url.Padding

/-!
# Inputs with white space around them

Values are taken as they are, so white space around a version or a number makes it invalid. The
readers of dates and of urls pass over some white space by themselves: in front of a date, and
around a url if it consists of spaces and control characters or follows a path. Any other white
space around a value is refused (`ofInputs_of_isPadded`).
-/

namespace ReleaseLog

/-- The text begins or ends with white space. -/
def Text.isPadded (s : Text) : Bool := s.head?.any isWhite || s.getLast?.any isWhite

theorem Text.not_isWord_of_isPadded {s : Text} (padded : isPadded s = true) : ¬ isWord s := by
  intro word
  rcases Bool.or_eq_true_iff.1 padded with first | last
  · obtain ⟨c, here, white⟩ := (Option.any_eq_true _ _).1 first
    rw [word c (List.mem_of_mem_head? here)] at white
    cases white
  · obtain ⟨c, here, white⟩ := (Option.any_eq_true _ _).1 last
    rw [word c (List.mem_of_mem_getLast? here)] at white
    cases white

namespace Config

variable {inputs : Inputs} {value : Text}

theorem exists_error_iff : (∃ error, ofInputs inputs = .error error) ↔
    ∀ config, ofInputs inputs ≠ .ok config := by
  cases ofInputs inputs <;> simp

theorem isWord_dropPlus (digits : Text.isDigits (dropPlus value) = true) : Text.isWord value := by
  unfold dropPlus at digits
  split at digits
  · have plus : Text.isWhite '+' = false := by decide
    exact List.forall_mem_cons.2 ⟨plus, isWord_of_isDigits digits⟩
  · exact isWord_of_isDigits digits

section
variable (padded : Text.isPadded value = true)
include padded

theorem ne_nil_of_isPadded : value ≠ [] := by
  rintro rfl
  cases padded

theorem exists_error_of_version (given : inputs.version = some value) :
    ∃ error, ofInputs inputs = .error error := by
  refine exists_error_iff.2 fun config accepted => ?_
  obtain ⟨_, version, valid, _⟩ := ofInputs_eq_ok_iff.1 accepted
  rw [given, nonEmpty?_some (ne_nil_of_isPadded padded)] at version
  obtain rfl := Option.some.inj version
  exact Text.not_isWord_of_isPadded padded (isLabel_of_isVersion valid).isWord

theorem exists_error_of_pullRequest (given : inputs.pullRequest = some value) :
    ∃ error, ofInputs inputs = .error error := by
  refine exists_error_iff.2 fun config accepted => ?_
  obtain ⟨_, _, _, number, isNumber, _⟩ := ofInputs_eq_ok_iff.1 accepted
  rw [given, nonEmpty?_some (ne_nil_of_isPadded padded)] at number
  obtain rfl := Option.some.inj number
  have digits := (readPullRequest_eq_ok_iff.1 isNumber).1
  exact Text.not_isWord_of_isPadded padded (isWord_dropPlus digits)

end

/-- Inputs that nothing is wrong with, but for what they leave out. -/
def sound : Inputs := { version := "1-1".toList, pullRequest := "1".toList }

theorem forall_exists_error_date_iff (nonempty : value ≠ []) :
    (∀ inputs : Inputs, inputs.date = some value → ∃ error, ofInputs inputs = .error error) ↔
      ¬ Date.IsSetOff value := by
  rw [← Date.exists_isSpelling_iff]
  constructor
  · rintro refused ⟨date, spelled⟩
    refine exists_error_iff.1 (refused { sound with date := value } rfl)
      { version := "1-1".toList, pullRequest := 1, date := date } ?_
    refine ofInputs_eq_ok_iff.2 ⟨"1".toList, rfl, rfl, rfl, rfl, rfl, ?_, rfl, rfl⟩
    show readDate (nonEmpty? (some value)) = .ok (some date)
    rw [nonEmpty?_some nonempty]
    exact Date.readDate_eq_ok_iff.2 spelled
  · intro unspelled inputs given
    refine exists_error_iff.2 fun config accepted => unspelled ?_
    obtain ⟨_, _, _, _, _, _, read, _⟩ := ofInputs_eq_ok_iff.1 accepted
    rw [given, nonEmpty?_some nonempty] at read
    cases found : Date.ofText? value with
    | none => simp [readDate, found] at read
    | some date => exact ⟨date, Date.ofText?_eq_some_iff.1 found⟩

theorem forall_exists_error_repository_iff (nonempty : value ≠ []) :
    (∀ inputs : Inputs, inputs.repository = some value →
        ∃ error, ofInputs inputs = .error error) ↔
      ¬ Url.IsSetOff value := by
  rw [← Url.checkWeb_eq_ok_iff_isSetOff]
  constructor
  · intro refused web
    refine exists_error_iff.1 (refused { sound with repository := value } rfl)
      { version := "1-1".toList, pullRequest := 1, repository := trimSlashes value } ?_
    refine ofInputs_eq_ok_iff.2 ⟨"1".toList, rfl, rfl, rfl, rfl, ?_, rfl, rfl, rfl⟩
    show readRepository (nonEmpty? (some value)) = .ok (trimSlashes value)
    rw [nonEmpty?_some nonempty]
    exact readRepository_eq_ok_iff.2 (.inr ⟨value, rfl, web, rfl⟩)
  · intro notWeb inputs given
    refine exists_error_iff.2 fun config accepted => notWeb ?_
    obtain ⟨_, _, _, _, _, read, _⟩ := ofInputs_eq_ok_iff.1 accepted
    rw [given, nonEmpty?_some nonempty] at read
    rcases readRepository_eq_ok_iff.1 read with ⟨none, _⟩ | ⟨url, same, web, _⟩
    · cases none
    · rwa [Option.some.inj same]

/-- White space around a version or a number is refused, whatever else is given. Around a date or a
url it is refused unless it is set off from a date or a url by white space that its reader passes
over. -/
theorem ofInputs_of_isPadded (padded : Text.isPadded value = true) :
    (∀ inputs : Inputs, inputs.version = some value ∨ inputs.pullRequest = some value →
        ∃ error, ofInputs inputs = .error error) ∧
      ((∀ inputs : Inputs, inputs.date = some value → ∃ error, ofInputs inputs = .error error) ↔
        ¬ Date.IsSetOff value) ∧
      ((∀ inputs : Inputs, inputs.repository = some value →
          ∃ error, ofInputs inputs = .error error) ↔
        ¬ Url.IsSetOff value) := by
  have nonempty := ne_nil_of_isPadded padded
  refine ⟨?_, forall_exists_error_date_iff nonempty, forall_exists_error_repository_iff nonempty⟩
  rintro inputs (version | pullRequest)
  · exact exists_error_of_version padded version
  · exact exists_error_of_pullRequest padded pullRequest

theorem ofInputs_of_isPadded_tab :
    let value := "\t2024-01-15".toList
    Text.isPadded value = true ∧
      (∀ inputs : Inputs, inputs.version = some value ∨ inputs.pullRequest = some value →
        ∃ error, ofInputs inputs = .error error) ∧
      ((∀ inputs : Inputs, inputs.date = some value → ∃ error, ofInputs inputs = .error error) ↔
        ¬ Date.IsSetOff value) ∧
      ((∀ inputs : Inputs, inputs.repository = some value →
          ∃ error, ofInputs inputs = .error error) ↔
        ¬ Url.IsSetOff value) := by
  intro value
  have padded : Text.isPadded value = true := by decide
  exact ⟨padded, ofInputs_of_isPadded padded⟩

/-- A space in front of a date makes no difference to its reader. -/
theorem not_forall_exists_error_of_isPadded :
    ¬ ∀ (inputs : Inputs) (value : Text), Text.isPadded value = true →
      (inputs.version = some value ∨ inputs.pullRequest = some value ∨
        inputs.repository = some value ∨ inputs.date = some value) →
          ∃ error, ofInputs inputs = .error error := by
  intro claim
  let inputs : Inputs :=
    { version := "1.2.3-4.5.6".toList, pullRequest := "42".toList, date := " 2024-01-15".toList }
  let config : Config :=
    { version := "1.2.3-4.5.6".toList, pullRequest := 42, date := some ⟨2024, 1, 15, by decide⟩ }
  have accepted : ofInputs inputs = .ok config := rfl
  have padded : Text.isPadded " 2024-01-15".toList = true := by decide
  have refused := claim inputs " 2024-01-15".toList padded (.inr (.inr (.inr rfl)))
  exact exists_error_iff.1 refused config accepted

end Config
end ReleaseLog
