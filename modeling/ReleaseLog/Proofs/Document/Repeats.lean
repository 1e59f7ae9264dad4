import ReleaseLog.Proofs.Document.Permanence

/-!
# Headings that stand twice

Repeats are looked for where headings belong: a second unreleased heading above the link table, a
second heading of a release from the newest release down to that table. Headings elsewhere are not
looked at, above the unreleased section for releases and below the first link for both kinds, so a
changelog can have such a heading and be read (`headings_of_ofText_iff`).
-/

namespace ReleaseLog

theorem releaseLabel?_unreleasedHeading_append (rest : Text) :
    releaseLabel? (unreleasedHeading ++ rest) = none := by
  cases named : releaseLabel? (unreleasedHeading ++ rest) with
  | none => rfl
  | some label =>
      obtain ⟨isLabel, begins⟩ := releaseLabel?_eq_some_iff.1 named
      exact absurd begins isLabel.not_prefix_unreleasedHeading

/-- The empty line behind whole lines has no label. -/
theorem filterMap_endedLines {a : Text} (ends : Text.opensLine true a = true) :
    (Text.endedLines true a).filterMap releaseLabel? = releaseLabels a := by
  rw [releaseLabels, ← Text.linesFrom_true, Text.linesFrom_of_opensLine ends,
    List.filterMap_append]
  exact (List.append_nil _).symm

namespace Document

variable {d : Document}

/-- The release headings of a changelog stand in three places, and its labels are those in the
middle. -/
theorem releaseLabels_toText (wf : d.WellFormed) :
    releaseLabels d.toText = releaseLabels d.preamble ++ d.labels ++ releaseLabels d.links := by
  have body : (Text.endedLines false d.unreleased).filterMap releaseLabel? = [] := by
    rw [List.filterMap_eq_nil_iff]
    intro line member
    have undivided := (isDividing_eq_false_iff.1 (wf.unreleased_lines line member)).2.2
    simpa [isReleaseHeading] using undivided
  have table : releaseLabels d.links =
      (Text.firstLine d.links :: Text.linesFrom false d.links).filterMap releaseLabel? := by
    rw [releaseLabels, Text.lines_eq_cons]
  rw [releaseLabels, lines_toText wf, List.filterMap_append, List.filterMap_append,
    List.filterMap_cons_none (releaseLabel?_unreleasedHeading_append _), List.filterMap_append,
    body, List.nil_append, filterMap_endedLines wf.preamble_ends,
    filterMap_endedLines wf.releases_end, ← table]
  rfl

/-- Above the link table there is one unreleased heading. -/
theorem countP_unreleasedHeading_toText (wf : d.WellFormed) :
    (Text.lines d.toText).countP isUnreleasedHeading =
      1 + (Text.lines d.links).countP isUnreleasedHeading := by
  have preamble : (Text.endedLines true d.preamble).countP isUnreleasedHeading = 0 := by
    rw [List.countP_eq_zero]
    intro line member
    simp [(wf.preamble_lines line member).2]
  have heading : isUnreleasedHeading (unreleasedHeading ++ Text.firstLine d.unreleased) = true :=
    Text.startsWith_iff.2 (List.prefix_append _ _)
  have body : (Text.endedLines false d.unreleased).countP isUnreleasedHeading = 0 := by
    rw [List.countP_eq_zero]
    intro line member
    simp [(isDividing_eq_false_iff.1 (wf.unreleased_lines line member)).2.1]
  have releases : (Text.endedLines true d.releases).countP isUnreleasedHeading = 0 := by
    rw [List.countP_eq_zero]
    intro line member
    simp [(wf.releases_lines line member).2]
  rw [lines_toText wf, ← Text.lines_eq_cons, List.countP_append, List.countP_append,
    List.countP_cons_of_pos heading, List.countP_append, preamble, body, releases]

/-- A changelog that is read has one unreleased heading and no release heading twice, in all of its
text, exactly if no unreleased heading stands below its first link and the release headings outside
of its releases repeat neither each other nor one of those. -/
theorem headings_of_ofText_iff {s : Text} (read : ofText s = .ok d) :
    ((Text.lines s).countP isUnreleasedHeading = 1 ∧ (releaseLabels s).Nodup) ↔
      (∀ line ∈ Text.lines d.links, isUnreleasedHeading line = false) ∧
        (releaseLabels d.preamble ++ releaseLabels d.links).Nodup ∧
          ∀ label ∈ releaseLabels d.preamble ++ releaseLabels d.links, label ∉ d.labels := by
  obtain ⟨wf, rfl⟩ := ofText_eq_ok_iff.1 read
  have once : (Text.lines d.toText).countP isUnreleasedHeading = 1 ↔
      ∀ line ∈ Text.lines d.links, isUnreleasedHeading line = false := by
    rw [countP_unreleasedHeading_toText wf, Nat.add_eq_left, List.countP_eq_zero]
    simp
  have moved : (releaseLabels d.preamble ++ d.labels ++ releaseLabels d.links).Perm
      (d.labels ++ (releaseLabels d.preamble ++ releaseLabels d.links)) := by
    rw [← List.append_assoc]
    exact List.perm_append_comm.append_right _
  have distinct : (releaseLabels d.toText).Nodup ↔
      (releaseLabels d.preamble ++ releaseLabels d.links).Nodup ∧
        ∀ label ∈ releaseLabels d.preamble ++ releaseLabels d.links, label ∉ d.labels := by
    rw [releaseLabels_toText wf, moved.nodup_iff, List.nodup_append]
    constructor
    · rintro ⟨_, others, apart⟩
      refine ⟨others, ?_⟩
      intro label outside inside
      exact apart label inside label outside rfl
    · rintro ⟨others, apart⟩
      refine ⟨wf.labels, others, ?_⟩
      rintro label inside other outside rfl
      exact apart label outside inside
  rw [once, distinct]

theorem headings_of_ofText_iff_old_above :
    (Text.lines ("## [1-0]\n".toList ++ Sample.changelog "\n".toList [])).countP
        isUnreleasedHeading = 1 ∧
      (releaseLabels ("## [1-0]\n".toList ++ Sample.changelog "\n".toList [])).Nodup := by
  let d : Document := { Sample.document "\n".toList [] with preamble := "## [1-0]\n".toList }
  have read : ofText ("## [1-0]\n".toList ++ Sample.changelog "\n".toList []) = .ok d := by
    decide +kernel
  refine (headings_of_ofText_iff read).2 ⟨?_, ?_, ?_⟩
  · decide
  · decide
  · decide

/-- A changelog is read with the heading of its newest release standing above the unreleased section
as well. -/
theorem not_forall_headings_of_ofText :
    ¬ ∀ (s : Text) (d : Document), '\r' ∉ s → ofText s = .ok d →
      (Text.lines s).countP isUnreleasedHeading = 1 ∧ (releaseLabels s).Nodup := by
  intro claim
  let s : Text := "## [1-1]\n".toList ++ Sample.changelog "\n".toList []
  let d : Document := { Sample.document "\n".toList [] with preamble := "## [1-1]\n".toList }
  have read : ofText s = .ok d := by decide +kernel
  have twice : ¬ (releaseLabels s).Nodup := by decide +kernel
  exact twice (claim s d (by decide) read).2

end Document
end ReleaseLog
