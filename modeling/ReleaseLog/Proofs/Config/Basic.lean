import ReleaseLog.Config.Basic
import ReleaseLog.Proofs.Checks
import ReleaseLog.Proofs.Url.TrailingSlash

/-!
# Accepted inputs

What the checks of `Config.ofInputs` let through, each check as an equivalence, and what holds of
the values of every configuration that comes out of them.
-/

namespace ReleaseLog

theorem nonEmpty?_eq_some_iff {given : Option Text} {value : Text} :
    nonEmpty? given = some value ↔ given = some value ∧ value ≠ [] := by
  simp [nonEmpty?, Option.filter_eq_some_iff]

theorem nonEmpty?_some {value : Text} (h : value ≠ []) : nonEmpty? (some value) = some value :=
  nonEmpty?_eq_some_iff.2 ⟨rfl, h⟩

@[simp] theorem nonEmpty?_nonEmpty? (given : Option Text) :
    nonEmpty? (nonEmpty? given) = nonEmpty? given := by
  simp [nonEmpty?, Option.filter_filter]

namespace Config

variable {inputs : Inputs} {config : Config} {value repository : Text} {number : Nat}

theorem checkVersion_eq_ok_iff {version : Option Text} {checked : Unit} :
    checkVersion version = .ok checked ↔
      ∀ value, version = some value → isVersion value = true := by
  cases version <;> simp [checkVersion]

theorem required_eq_ok_iff {version pullRequest : Option Text} {values : Text × Text} :
    required version pullRequest = .ok values ↔
      version = some values.1 ∧ pullRequest = some values.2 := by
  cases version <;> cases pullRequest <;> simp [required, Prod.ext_iff]

theorem readPullRequest_eq_ok_iff :
    readPullRequest value = .ok number ↔
      Text.isDigits (dropPlus value) = true ∧ Text.digitsValue (dropPlus value) = number ∧
        0 < number ∧ number ≤ maxPullRequest := by
  simp only [readPullRequest, Bool.and_eq_true, decide_eq_true_eq]
  constructor
  · intro read
    split at read
    · rename_i fits
      obtain rfl := Except.ok.inj read
      exact ⟨fits.1.1, rfl, fits.1.2, fits.2⟩
    · cases read
  · rintro ⟨digits, rfl, positive, fits⟩
    rw [if_pos ⟨⟨digits, positive⟩, fits⟩]

theorem readRepository_eq_ok_iff {given : Option Text} :
    readRepository given = .ok repository ↔
      (given = none ∧ repository = defaultRepository) ∨
        ∃ value, given = some value ∧ Url.checkWeb value = .ok () ∧
          repository = trimSlashes value := by
  cases given with
  | none => simp [readRepository, eq_comm]
  | some value =>
      cases web : Url.checkWeb value with
      | error => simp [readRepository, web]
      | ok => simp [readRepository, web, eq_comm]

/-- A configuration takes over what is given, and each of its values has passed its check. -/
theorem ofInputs_eq_ok_iff :
    ofInputs inputs = .ok config ↔ ∃ number,
      nonEmpty? inputs.version = some config.version ∧ isVersion config.version = true ∧
        nonEmpty? inputs.pullRequest = some number ∧
        readPullRequest number = .ok config.pullRequest ∧
        readRepository (nonEmpty? inputs.repository) = .ok config.repository ∧
        readDate (nonEmpty? inputs.date) = .ok config.date ∧
        nonEmpty? inputs.path = config.path ∧ inputs.dryRun = config.dryRun := by
  obtain ⟨version, pullRequest, path, repository, date, dryRun⟩ := config
  simp only [ofInputs, exceptBind_eq_ok_iff, checkVersion_eq_ok_iff, required_eq_ok_iff, pure,
    Except.pure, Except.ok.injEq, Config.mk.injEq]
  constructor
  · rintro ⟨_, valid, ⟨name, number⟩, ⟨given, numbered⟩, _, isNumber, _, isUrl, _, isDay,
      rfl, rfl, rfl, rfl, rfl, rfl⟩
    exact ⟨number, given, valid _ given, numbered, isNumber, isUrl, isDay, rfl, rfl⟩
  · rintro ⟨number, given, valid, numbered, isNumber, isUrl, isDay, rfl, rfl⟩
    refine ⟨(), ?_, (version, number), ⟨given, numbered⟩, pullRequest, isNumber, repository,
      isUrl, date, isDay, rfl, rfl, rfl, rfl, rfl, rfl⟩
    intro value same
    obtain rfl := Option.some.inj (given.symm.trans same)
    exact valid

/-! ## Repositories -/

theorem trimSlashes_append (url slashes : Text) (h : ∀ c ∈ slashes, c = '/') :
    trimSlashes (url ++ slashes) = trimSlashes url := by
  have back : ∀ c ∈ slashes.reverse, (c == '/') = true := by
    simpa using h
  rw [trimSlashes, trimSlashes, List.reverse_append, List.dropWhile_append_of_pos back]

/-- A url is what is left of it and slashes. -/
theorem exists_trimSlashes_append (url : Text) :
    ∃ slashes, url = trimSlashes url ++ slashes ∧ ∀ c ∈ slashes, c = '/' := by
  have cut := Text.span_eq_iff.1 ⟨Eq.refl (url.reverse.takeWhile (· == '/')), rfl⟩
  obtain ⟨back, isSlash, _⟩ := cut
  refine ⟨(url.reverse.takeWhile (· == '/')).reverse, ?_, ?_⟩
  · rw [trimSlashes, ← List.reverse_append, ← back, List.reverse_reverse]
  · intro c member
    simpa using isSlash c (List.mem_reverse.1 member)

@[simp] theorem trimSlashes_trimSlashes (url : Text) :
    trimSlashes (trimSlashes url) = trimSlashes url := by
  obtain ⟨slashes, text, isSlash⟩ := exists_trimSlashes_append url
  have trimmed := trimSlashes_append (trimSlashes url) slashes isSlash
  rw [← text] at trimmed
  exact trimmed.symm

theorem checkWeb_trimSlashes (web : Url.checkWeb value = .ok ()) :
    Url.checkWeb (trimSlashes value) = .ok () := by
  obtain ⟨slashes, text, isSlash⟩ := exists_trimSlashes_append value
  rw [text] at web
  exact Url.checkWeb_of_append isSlash web

/-- The repository is a url of the web without a slash at its end. -/
theorem checkWeb_repository (accepted : ofInputs inputs = .ok config) :
    Url.checkWeb config.repository = .ok () ∧
      trimSlashes config.repository = config.repository := by
  obtain ⟨_, _, _, _, _, read, _⟩ := ofInputs_eq_ok_iff.1 accepted
  rcases readRepository_eq_ok_iff.1 read with ⟨_, standard⟩ | ⟨value, _, web, trimmed⟩
  · rw [standard]
    exact ⟨rfl, by decide⟩
  · rw [trimmed]
    exact ⟨checkWeb_trimSlashes web, trimSlashes_trimSlashes value⟩

theorem repository_ne_nil (accepted : ofInputs inputs = .ok config) : config.repository ≠ [] := by
  intro empty
  have web := (checkWeb_repository accepted).1
  rw [empty] at web
  cases web

end Config
end ReleaseLog
