import ReleaseLog.Proofs.Document.Release

/-!
# Release headings are permanent

A release rewrites the unreleased section and the first line of the link table. No release heading
stands there, so every release heading of the old text leads a line of the new one, wherever it
stood: above the unreleased section, in an older section or below the link table.
-/

namespace ReleaseLog

namespace Text

variable {mark a b : Text}

theorem leadsLine_of_suffix (h : a <:+ b) (leads : leadsLine mark false a) :
    leadsLine mark false b := by
  obtain ⟨line, member, begins⟩ := leads
  exact ⟨line, (linesFrom_suffix_of_suffix h).subset member, begins⟩

/-- A line that a text begins with is still a line where the text follows the end of another. -/
theorem leadsLine_of_newline_suffix (h : '\n' :: a <:+ b) (leads : leadsLine mark true a) :
    leadsLine mark true b :=
  leadsLine_true_of_leadsLine (leadsLine_of_suffix h leads)

theorem leadsLine_of_mem_endedLines {line : Text} (ends : opensLine true a = true)
    (member : line ∈ endedLines true a) (begins : mark <+: line) :
    leadsLine mark true (a ++ b) := by
  refine ⟨line, ?_, begins⟩
  rw [linesFrom_append ends]
  exact List.mem_append_left _ member

end Text

namespace Document

variable {d : Document} {config : Config} {version stamp : Text}

/-- The lines of a changelog. -/
theorem lines_toText (wf : d.WellFormed) :
    Text.lines d.toText =
      Text.endedLines true d.preamble ++ (unreleasedHeading ++ Text.firstLine d.unreleased) ::
        (Text.endedLines false d.unreleased ++ Text.endedLines true d.releases) ++
          Text.firstLine d.links :: Text.linesFrom false d.links := by
  have lines := Text.linesFrom_append wf.upper_ends d.links
  rw [endedLines_upper wf.preamble_ends wf.unreleased_ends wf.releases_end] at lines
  rw [← Text.lines_eq_cons]
  exact lines

/-- A release heading stands where a release leaves the text alone. -/
theorem leadsLine_cases (wf : d.WellFormed) (isLabel : IsLabel version)
    (leads : Text.leadsLine (releaseHeading version) true d.toText) :
    (∃ line ∈ Text.endedLines true d.preamble, releaseHeading version <+: line) ∨
      (∃ line ∈ Text.endedLines true d.releases, releaseHeading version <+: line) ∨
        ∃ line ∈ Text.linesFrom false d.links, releaseHeading version <+: line := by
  obtain ⟨line, member, begins⟩ := leads
  rw [Text.linesFrom_true, lines_toText wf] at member
  rcases List.mem_append.1 member with upper | table
  · rcases List.mem_append.1 upper with above | member
    · exact .inl ⟨line, above, begins⟩
    rcases List.mem_cons.1 member with rfl | member
    · exact absurd begins isLabel.not_prefix_unreleasedHeading
    rcases List.mem_append.1 member with body | below
    · have heading := isReleaseHeading_iff.2 ⟨version, isLabel, begins⟩
      rw [(isDividing_eq_false_iff.1 (wf.unreleased_lines line body)).2.2] at heading
      cases heading
    · exact .inr (.inl ⟨line, below, begins⟩)
  · rcases List.mem_cons.1 table with rfl | rest
    · exact absurd begins (not_prefix_unreleasedLink wf.links)
    · exact .inr (.inr ⟨line, rest, begins⟩)

theorem leadsLine_release (wf : d.WellFormed) (isLabel : IsLabel version)
    (leads : Text.leadsLine (releaseHeading version) true d.toText) :
    Text.leadsLine (releaseHeading version) true (d.release config stamp) := by
  rcases leadsLine_cases wf isLabel leads with
    ⟨line, member, begins⟩ | ⟨line, member, begins⟩ | ⟨line, member, begins⟩
  · have text : d.release config stamp = d.preamble ++ (unreleasedHeading ++ "\n\n".toList ++
        releaseHeading config.version ++ " ".toList ++ stamp ++ "\n\n".toList ++
          d.releasedBody config ++ "\n\n".toList ++ d.releases ++ d.releasedLinks config) := by
      simp [release]
    rw [text]
    exact Text.leadsLine_of_mem_endedLines wf.preamble_ends member begins
  · have suffix : '\n' :: (d.releases ++ d.releasedLinks config) <:+ d.release config stamp :=
      ⟨d.preamble ++ unreleasedHeading ++ "\n\n".toList ++ releaseHeading config.version ++
        " ".toList ++ stamp ++ "\n\n".toList ++ d.releasedBody config ++ "\n".toList,
        by simp [release]⟩
    exact Text.leadsLine_of_newline_suffix suffix
      (Text.leadsLine_of_mem_endedLines wf.releases_end member begins)
  · have suffix : Text.afterFirstLine d.links <:+ d.release config stamp := by
      have table : Text.afterFirstLine d.links <:+ d.releasedLinks config := by
        rw [releasedLinks, updateLinks_eq wf.links]
        exact List.suffix_append _ _
      exact table.trans (List.suffix_append _ _)
    rw [← Text.linesFrom_afterFirstLine] at member
    exact Text.leadsLine_true_of_leadsLine (Text.leadsLine_of_suffix suffix ⟨line, member, begins⟩)

/-- The new section has the heading of its version. -/
theorem leadsLine_release_self (isLabel : IsLabel config.version) :
    Text.leadsLine (releaseHeading config.version) true (d.release config stamp) := by
  have suffix : '\n' :: (releaseHeading config.version ++ (" ".toList ++ stamp ++ "\n\n".toList ++
      d.releasedBody config ++ "\n\n".toList ++ d.releases ++ d.releasedLinks config)) <:+
        d.release config stamp :=
    ⟨d.preamble ++ unreleasedHeading ++ "\n".toList, by simp [release]⟩
  refine Text.leadsLine_of_newline_suffix suffix ⟨_, Text.firstLine_mem_lines _, ?_⟩
  exact (Text.prefix_firstLine_iff isLabel.isInline_releaseHeading.not_mem).2
    (List.prefix_append _ _)

end Document

/-! ## Rendering -/

variable {config : Config} {version stamp content output : Text}

/-- No rendering takes a release heading away, whatever it releases. -/
theorem leadsLine_render (isLabel : IsLabel version)
    (rendered : render config stamp content = .ok output)
    (leads : Text.leadsLine (releaseHeading version) true content) :
    Text.leadsLine (releaseHeading version) true output := by
  obtain ⟨old, read, rfl⟩ := render_eq_ok_iff.1 rendered
  obtain ⟨wf, text⟩ := Document.ofText_eq_ok_iff.1 read
  have normal := Text.leadsLine_normalizeLineEndings isLabel.isInline_releaseHeading leads
  rw [← text] at normal
  exact Document.leadsLine_release wf isLabel normal

theorem leadsLine_render_self (isLabel : IsLabel config.version)
    (rendered : render config stamp content = .ok output) :
    Text.leadsLine (releaseHeading config.version) true output := by
  obtain ⟨old, _, rfl⟩ := render_eq_ok_iff.1 rendered
  exact Document.leadsLine_release_self isLabel

/-- A release heading mentions its release. -/
theorem mentionsRelease_of_leadsLine
    (leads : Text.leadsLine (releaseHeading version) true content) :
    mentionsRelease version content = true := by
  obtain ⟨line, member, begins⟩ := leads
  exact mentionsRelease_iff.2 (begins.isInfix.trans (Text.infix_of_mem_lines member))

end ReleaseLog
