import ReleaseLog.Document.Release
import ReleaseLog.Proofs.Config.Basic
import ReleaseLog.Proofs.Document.BodyLines
import ReleaseLog.Proofs.Document.LinkTable

/-!
# Links of an accepted configuration

A repository is checked as a url, and the check ignores white space around it and much of what
stands behind the host. The links that lead to the repository are read again by later releases, up
to the first white space. So it is white space in the repository, and that alone, that decides
whether a release can read what an earlier one wrote.
-/

namespace ReleaseLog

/-- A later release can read what is written with this configuration: the link of the entry is one
line that refers to the repository, and the links that any table gets for the release, whichever
release came before, are its first two. -/
structure Config.ReadsBack (config : Config) : Prop where
  inline : Text.isInline config.entry.link
  reference : citedRepository? config.entry.link = some config.repository
  definitions : ∀ previous table, (∀ c ∈ previous, isLabelChar c = true) →
    isUnreleasedLink table = true →
      (linkDefinitions true
          (updateLinks config.repository previous config.version table)).take 2 =
        [unreleasedDefinition config.repository config.version,
          compareDefinition config.repository previous config.version]

/-- Of the repositories that are accepted, those without white space give links that can be read
back. -/
theorem Config.readsBack_iff {inputs : Inputs} {config : Config}
    (accepted : Config.ofInputs inputs = .ok config) :
    config.ReadsBack ↔ Text.isWord config.repository := by
  have nonempty := Config.repository_ne_nil accepted
  obtain ⟨_, _, valid, _⟩ := Config.ofInputs_eq_ok_iff.1 accepted
  have version := isLabel_of_isVersion valid
  constructor
  · rintro ⟨_, reference, _⟩
    exact (isReferenceTo_pullLink_iff.1 (citedRepository?_eq_some_iff.1 reference)).2
  · intro word
    refine ⟨Entry.isInline_link word.isInline, ?_, ?_⟩
    · exact citedRepository?_eq_some_iff.2 (isReferenceTo_pullLink_iff.2 ⟨nonempty, word⟩)
    · intro previous table label begins
      have old : Text.isWord previous := fun c member =>
        not_isWhite_of_isLabelChar (label c member)
      have mark : '\n' ∉ unreleasedLinkMark := by decide
      have first : isUnreleasedLink (Text.firstLine table) = true :=
        Text.startsWith_iff.2 ((Text.prefix_firstLine_iff mark).2 (Text.startsWith_iff.1 begins))
      rw [linkDefinitions_updateLinks first word old version]
      rfl

theorem Config.readsBack_iff_trailing_slash :
    let config : Config :=
      { version := "1.2.3-4.5.6".toList, pullRequest := 42
        repository := "https://github.com/org/repo".toList }
    config.ReadsBack ↔ Text.isWord config.repository := by
  intro config
  let inputs : Inputs :=
    { version := "1.2.3-4.5.6".toList, pullRequest := "42".toList
      repository := "https://github.com/org/repo/".toList }
  have accepted : Config.ofInputs inputs = .ok config := by decide +kernel
  exact Config.readsBack_iff accepted

/-- The check of a url ignores a space at its end, but the url is kept with it. -/
theorem Config.not_forall_readsBack :
    ¬ ∀ inputs config, Config.ofInputs inputs = .ok config → config.ReadsBack := by
  intro claim
  let inputs : Inputs :=
    { version := "1.2.3-4.5.6".toList, pullRequest := "42".toList
      repository := "https://github.com/org/repo ".toList }
  let config : Config :=
    { version := "1.2.3-4.5.6".toList, pullRequest := 42
      repository := "https://github.com/org/repo ".toList }
  have accepted : Config.ofInputs inputs = .ok config := by decide +kernel
  have unread : citedRepository? config.entry.link = none := by decide +kernel
  have reference := (claim inputs config accepted).reference
  rw [unread] at reference
  cases reference

end ReleaseLog
