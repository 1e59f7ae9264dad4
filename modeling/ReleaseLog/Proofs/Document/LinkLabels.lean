import ReleaseLog.Proofs.Document.LinkRegion

/-!
# The labels of a link table

Headings and links are kept by hand, so a version without a section may have a link already. Whether
a version is new is asked of the headings alone: a release puts its own link in front of the ones
that it finds, and a link that was there before stays below it. The labels of the new table are
therefore distinct exactly if those of the old one are and the version is not among them
(`nodup_linkLabels_releasedLinks_iff`).
-/

namespace ReleaseLog

/-- The labels that a link table defines, in order. -/
def linkLabels (table : Text) : List Text := (linkDefinitions true table).map (·.label)

theorem linkLabels_of_isUnreleasedLink {table : Text}
    (h : isUnreleasedLink (Text.firstLine table) = true) :
    linkLabels table = unreleasedLabel :: (linkLabels table).tail := by
  obtain ⟨url, _, _, definitions⟩ := linkDefinitions_of_isUnreleasedLink h
  rw [linkLabels, definitions]
  rfl

namespace Document

variable {d : Document} {config : Config}

/-! ## One release -/

section
variable (wf : d.WellFormed) (web : Text.isWord config.repository)
  (version : IsLabel config.version)
include wf web version

theorem linkLabels_releasedLinks :
    linkLabels (d.releasedLinks config) =
      unreleasedLabel :: config.version :: (linkLabels d.links).tail := by
  have definitions := linkDefinitions_updateLinks wf.links web wf.isLabel_previous.isWord version
  rw [linkLabels, releasedLinks, definitions, linkLabels, ← List.map_tail]
  rfl

/-- A release keeps the labels of the table apart exactly if its version is not one of them. -/
theorem nodup_linkLabels_releasedLinks_iff :
    (linkLabels (d.releasedLinks config)).Nodup ↔
      (linkLabels d.links).Nodup ∧ config.version ∉ linkLabels d.links := by
  have other := version.ne_unreleasedLabel
  rw [linkLabels_releasedLinks wf web version, linkLabels_of_isUnreleasedLink wf.links,
    List.tail_cons]
  simp only [List.nodup_cons, List.mem_cons, not_or]
  constructor
  · rintro ⟨⟨_, unreleased⟩, new, distinct⟩
    exact ⟨⟨unreleased, distinct⟩, other, new⟩
  · rintro ⟨⟨unreleased, distinct⟩, _, new⟩
    exact ⟨⟨other.symm, unreleased⟩, new, distinct⟩

end

end Document

/-! ## Rendering -/

/-- The table that is written for a release has distinct labels exactly if the labels of the old one
are distinct and the version is not among them. This table is the one that is found in the text
again, unless the new section has a line that begins like a table. -/
theorem render_nodup_linkLabels_iff {config : Config} {date : Date} {text output : Text}
    (valid : isVersion config.version = true) (web : Text.isWord config.repository)
    (rendered : render config date.stamp text = .ok output) :
    ∃ old upper, Document.ofText (Text.normalizeLineEndings text) = .ok old ∧
      output = upper ++ old.releasedLinks config ∧
      ((linkLabels (old.releasedLinks config)).Nodup ↔
        (linkLabels old.links).Nodup ∧ config.version ∉ linkLabels old.links) ∧
      ((∀ line ∈ Text.lines (old.releasedBody config), isUnreleasedLink line = false) →
        cutLinkTable output = .ok (upper, old.releasedLinks config)) := by
  have version := isLabel_of_isVersion valid
  obtain ⟨old, read, rfl⟩ := render_eq_ok_iff.1 rendered
  have wf := (Document.ofText_eq_ok_iff.1 read).1
  refine ⟨old, (old.released config date.stamp).upper, read, Document.toText_released.symm,
    Document.nodup_linkLabels_releasedLinks_iff wf web version, ?_⟩
  intro body
  exact Document.cutLinkTable_release wf
    (Document.upper_lines_released wf version date.isWord_stamp.isInline body)

theorem render_nodup_linkLabels_one_fix :
    ∃ upper, cutLinkTable (Sample.released Sample.releasedFix "\n[1-1]: y".toList) =
        .ok (upper, Sample.releasedLinks "\n[1-1]: y".toList) ∧
      (linkLabels (Sample.releasedLinks "\n[1-1]: y".toList)).Nodup := by
  let text := Sample.changelog Sample.oneFix "\n[1-1]: y".toList
  let d := Sample.document Sample.oneFix "\n[1-1]: y".toList
  have valid : isVersion Sample.config.version = true := by decide
  have web : Text.isWord Sample.config.repository := by decide
  have read : Document.ofText (Text.normalizeLineEndings text) = .ok d := by decide +kernel
  have rendered : render Sample.config Sample.date.stamp text =
      .ok (Sample.released Sample.releasedFix "\n[1-1]: y".toList) := by decide +kernel
  obtain ⟨old, upper, oldRead, _, law, found⟩ := render_nodup_linkLabels_iff valid web rendered
  obtain rfl : d = old := Except.ok.inj (read.symm.trans oldRead)
  have new : Sample.config.version ∉ linkLabels d.links := by decide +kernel
  have distinct := law.2 ⟨by decide +kernel, new⟩
  have table : d.releasedLinks Sample.config = Sample.releasedLinks "\n[1-1]: y".toList := by
    decide +kernel
  rw [table] at found distinct
  exact ⟨upper, found (by decide +kernel), distinct⟩

/-- A version that has a link, but no section yet, has two links after its release. -/
theorem not_forall_render_nodup_linkLabels :
    ¬ ∀ (config : Config) (date : Date) (text output : Text) (old : Document),
      isVersion config.version = true → Text.isWord config.repository →
        mentionsRelease config.version text = false →
          Document.ofText (Text.normalizeLineEndings text) = .ok old →
            (linkLabels old.links).Nodup →
              render config date.stamp text = .ok output →
                ∃ upper links, cutLinkTable output = .ok (upper, links) ∧
                  (linkLabels links).Nodup := by
  intro claim
  let text := Sample.changelog Sample.oneFix "\n[2-2]: y".toList
  let table := Sample.releasedLinks "\n[2-2]: y".toList
  let output := Sample.released Sample.releasedFix "\n[2-2]: y".toList
  let old := Sample.document Sample.oneFix "\n[2-2]: y".toList
  have valid : isVersion Sample.config.version = true := by decide
  have web : Text.isWord Sample.config.repository := by decide
  have fresh : mentionsRelease Sample.config.version text = false := by decide +kernel
  have read : Document.ofText (Text.normalizeLineEndings text) = .ok old := by decide +kernel
  have apart : (linkLabels old.links).Nodup := by decide +kernel
  have rendered : render Sample.config Sample.date.stamp text = .ok output := by decide +kernel
  obtain ⟨_, links, found, distinct⟩ :=
    claim Sample.config Sample.date text output old valid web fresh read apart rendered
  have written : (cutLinkTable output).map (·.2) = .ok table := by decide +kernel
  rw [found] at written
  obtain rfl : links = table := Except.ok.inj written
  have twice : ¬ (linkLabels table).Nodup := by decide +kernel
  exact twice distinct

end ReleaseLog
