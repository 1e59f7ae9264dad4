import ReleaseLog.Proofs.Document.BodyLines
import ReleaseLog.Proofs.Document.LinkRegion

/-!
# What a release does to the text of a changelog

A release moves the unreleased body, trims it in several places and puts lines into it. As far as
white space goes the text is then another one; what people wrote apart from white space is all
there, once and in its place, with a few pieces put in (`render_isEdited`).
-/

namespace ReleaseLog

namespace Text

/-- What is written in a text: all of it but the white space. -/
def ink (s : Text) : Text := s.filter (!isWhite ·)

@[simp] theorem ink_nil : ink [] = [] := rfl

@[simp] theorem ink_append (a b : Text) : ink (a ++ b) = ink a ++ ink b := List.filter_append ..

@[simp] theorem ink_newline (s : Text) : ink ('\n' :: s) = ink s := rfl

@[simp] theorem ink_space (s : Text) : ink (' ' :: s) = ink s := rfl

theorem ink_eq_nil_iff {s : Text} : ink s = [] ↔ IsGap s := by
  simp [ink, IsGap]

@[simp] theorem ink_trimStart (s : Text) : ink (trimStart s) = ink s := by
  have front : ink (s.takeWhile isWhite) = [] :=
    ink_eq_nil_iff.2 fun c member => List.mem_takeWhile_imp member
  have whole := congrArg ink (List.takeWhile_append_dropWhile (p := isWhite) (l := s))
  rw [ink_append, front] at whole
  exact whole

theorem ink_reverse (s : Text) : ink s.reverse = (ink s).reverse := List.filter_reverse ..

@[simp] theorem ink_trim (s : Text) : ink (trim s) = ink s := by
  have back : ∀ t, ink (trimEnd t) = ink t := by
    intro t
    have front := ink_trimStart t.reverse
    rw [ink_reverse] at front
    rw [trimEnd, ink_reverse]
    exact (congrArg List.reverse front).trans (List.reverse_reverse _)
  rw [trim, back, ink_trimStart]

/-- Two pieces have been put into a text, in either order and neither into the other. -/
def IsInsertion (piece other before after : Text) : Prop :=
  ∃ above between below, before = above ++ between ++ below ∧
    (after = above ++ piece ++ between ++ other ++ below ∨
      after = above ++ other ++ between ++ piece ++ below)

end Text

variable {body bullet link repository content a b : Text}

/-! ## Where the link of an entry goes -/

theorem lastReference?_eq_none (h : ∀ line ∈ Text.lines content, citedRepository? line = none) :
    lastReference? repository content = none := by
  apply Text.findLastLine_eq_none_iff.2
  intro line member
  rw [h line member]
  rfl

theorem lastReference?_append_newline (repository a b : Text) :
    lastReference? repository (a ++ '\n' :: b) =
      ((lastReference? repository b).map (·.below (a ++ ['\n']))).or
        ((lastReference? repository a).map (·.above ('\n' :: b))) :=
  Text.findLastLine_append_newline a b

/-- The link is put in at one place, with white space around it. -/
theorem exists_appendPullLink (content link repository : Text) :
    ∃ above gap below, content = above ++ below ∧ Text.ink gap = [] ∧
      appendPullLink content link repository = above ++ gap ++ link ++ below := by
  cases found : lastReference? repository content with
  | none =>
      rw [appendPullLink_of_none found]
      exact ⟨content, "\n\n".toList, [], by simp, rfl, by simp⟩
  | some cut =>
      rw [appendPullLink_of_some found]
      exact ⟨_, "\n".toList, cut.after, (Text.toText_of_findLastLine found).symm, rfl, rfl⟩

/-- The link goes into what stands below a line end, unless only what stands above refers to the
repository. -/
theorem appendPullLink_append_newline (link : Text)
    (h : lastReference? repository a = none ∨ lastReference? repository b ≠ none) :
    appendPullLink (a ++ '\n' :: b) link repository =
      a ++ '\n' :: appendPullLink b link repository := by
  have last := lastReference?_append_newline repository a b
  cases found : lastReference? repository b with
  | none =>
      have above : lastReference? repository a = none := by
        simpa [found] using h
      rw [found, above] at last
      rw [appendPullLink_of_none last, appendPullLink_of_none found]
      simp
  | some cut =>
      rw [found] at last
      rw [appendPullLink_of_some last, appendPullLink_of_some found]
      simp [Text.LineCut.below]

theorem appendPullLink_append_newline_of_above (link : Text)
    (above : lastReference? repository a ≠ none) (below : lastReference? repository b = none) :
    appendPullLink (a ++ '\n' :: b) link repository =
      appendPullLink a link repository ++ '\n' :: b := by
  have last := lastReference?_append_newline repository a b
  obtain ⟨cut, found⟩ := Option.ne_none_iff_exists'.1 above
  rw [below, found] at last
  rw [appendPullLink_of_some last, appendPullLink_of_some found]
  simp [Text.LineCut.above]

theorem appendPullLink_newline (b link repository : Text) :
    appendPullLink ('\n' :: b) link repository = '\n' :: appendPullLink b link repository := by
  have nothing : lastReference? repository [] = none := rfl
  exact appendPullLink_append_newline link (.inl nothing)

/-! ## What is put into the body -/

/-- What a release puts into a body apart from its link: a bullet, and the heading of the changes
if the body has none. -/
def newEntry (body bullet : Text) : Text :=
  if ∃ line ∈ Text.lines body, IsHeadingOf "Changes".toList line then bullet
  else changesHeading ++ "\n\n".toList ++ bullet

theorem newEntry_of_some {cut : Text.LineCut}
    (found : Text.findLine isChangesHeading true body = some cut) :
    newEntry body bullet = bullet := by
  apply if_pos
  by_contra missing
  have none : Text.findLine isChangesHeading true body = none := by
    apply Text.findLine_eq_none_iff.2
    intro line member
    rw [isChangesHeading_eq_false_iff]
    intro heading
    exact missing ⟨line, member, heading⟩
  rw [none] at found
  cases found

theorem newEntry_of_none (missing : Text.findLine isChangesHeading true body = none) :
    newEntry body bullet = changesHeading ++ "\n\n".toList ++ bullet := by
  apply if_neg
  rintro ⟨line, member, heading⟩
  rw [← isChangesHeading_iff, Text.findLine_eq_none_iff.1 missing line member] at heading
  cases heading

/-- The entry stands below the first heading of changes, with what followed it below, or on top of
the body. -/
theorem mergeBullet_cases (body bullet : Text) :
    (∃ above below, Text.ink body = Text.ink above ++ Text.ink below ∧
      newEntry body bullet = bullet ∧
        mergeBullet body bullet = above ++ '\n' :: '\n' :: (bullet ++ '\n' :: below)) ∨
    newEntry body bullet = changesHeading ++ "\n\n".toList ++ bullet ∧
      ((body = [] ∧ mergeBullet body bullet = newEntry body bullet) ∨
        mergeBullet body bullet = newEntry body bullet ++ '\n' :: '\n' :: body) := by
  by_cases empty : body = []
  · subst empty
    have fresh : newEntry [] bullet = changesHeading ++ "\n\n".toList ++ bullet :=
      newEntry_of_none rfl
    refine .inr ⟨fresh, .inl ⟨rfl, ?_⟩⟩
    rw [fresh]
    rfl
  cases found : Text.findLine isChangesHeading true body with
  | none =>
      have fresh : newEntry body bullet = changesHeading ++ "\n\n".toList ++ bullet :=
        newEntry_of_none found
      refine .inr ⟨fresh, .inr ?_⟩
      simp [mergeBullet, empty, found, fresh]
  | some cut =>
      refine .inl ⟨cut.before ++ cut.line, Text.trimStart cut.after, ?_, newEntry_of_some found, ?_⟩
      · have text := Text.toText_of_findLine found
        rw [← text, Text.ink_trimStart, ← Text.ink_append]
        rfl
      · simp [mergeBullet, empty, found]

section
variable (inline : '\n' ∉ bullet) (unrelated : citedRepository? bullet = none)
include inline unrelated

theorem lastReference?_bullet (repository : Text) : lastReference? repository bullet = none := by
  apply lastReference?_eq_none
  rw [Text.lines_of_not_mem inline]
  simpa using unrelated

theorem lastReference?_newEntry (repository : Text) :
    lastReference? repository (changesHeading ++ "\n\n".toList ++ bullet) = none := by
  apply lastReference?_eq_none
  rw [lines_append_gap, lines_changesHeading, Text.lines_of_not_mem inline]
  intro line member
  simp only [List.mem_append, List.mem_cons, List.not_mem_nil, or_false] at member
  rcases member with rfl | rfl | rfl
  · rfl
  · rfl
  · exact unrelated

/-- Entry and link are put into a body; the link does not get into the entry. -/
theorem isInsertion_appendPullLink (body link repository : Text) :
    Text.IsInsertion (Text.ink (newEntry body bullet)) (Text.ink link) (Text.ink body)
      (Text.ink (appendPullLink (mergeBullet body bullet) link repository)) := by
  have onBullet := lastReference?_bullet inline unrelated repository
  have onEntry := lastReference?_newEntry inline unrelated repository
  rcases mergeBullet_cases body bullet with
    ⟨above, below, text, entry, merged⟩ | ⟨entry, ⟨rfl, merged⟩ | merged⟩
  -- The link follows the last reference, and that one may stand above the heading of the changes.
  · by_cases onTop : lastReference? repository above ≠ none ∧
        lastReference? repository ('\n' :: (bullet ++ '\n' :: below)) = none
    · obtain ⟨x, gap, y, rfl, dark, linked⟩ := exists_appendPullLink above link repository
      rw [merged, entry, appendPullLink_append_newline_of_above link onTop.1 onTop.2, linked]
      exact ⟨Text.ink x, Text.ink y, Text.ink below, by simpa using text, .inr (by simp [dark])⟩
    · have later : lastReference? repository above = none ∨
          lastReference? repository ('\n' :: (bullet ++ '\n' :: below)) ≠ none := by
        by_contra neither
        rw [not_or, not_not] at neither
        exact onTop neither
      obtain ⟨x, gap, y, rfl, dark, linked⟩ := exists_appendPullLink below link repository
      rw [merged, entry, appendPullLink_append_newline link later, appendPullLink_newline,
        appendPullLink_append_newline link (.inl onBullet), linked]
      exact ⟨Text.ink above, Text.ink x, Text.ink y, by simpa using text, .inl (by simp [dark])⟩
  · rw [merged, entry, appendPullLink_of_none onEntry]
    exact ⟨[], [], [], rfl, .inl (by simp)⟩
  · obtain ⟨x, gap, y, rfl, dark, linked⟩ := exists_appendPullLink body link repository
    rw [merged, entry, appendPullLink_append_newline link (.inl onEntry), appendPullLink_newline,
      linked]
    exact ⟨[], Text.ink x, Text.ink y, by simp, .inl (by simp [dark])⟩

end

/-! ## The whole changelog -/

theorem ink_releaseLinks (repository previous version : Text) :
    Text.ink (releaseLinks repository previous version) =
      Text.ink unreleasedLinkMark ++
        Text.ink ((unreleasedDefinition repository version).url ++
          compareLinkLine repository previous version) := by
  have opening : "[Unreleased]: ".toList = unreleasedLinkMark ++ [' '] := by decide
  have line : unreleasedLinkLine repository version =
      unreleasedLinkMark ++ ' ' :: (unreleasedDefinition repository version).url := by
    unfold unreleasedLinkLine unreleasedDefinition
    simp only [opening, List.append_assoc, List.cons_append, List.nil_append]
  rw [releaseLinks_eq, line]
  simp

namespace Document

theorem isInsertion_releasedBody (d : Document) {config : Config}
    (version : IsLabel config.version) :
    Text.IsInsertion (Text.ink (newEntry d.body config.entry.bullet))
      (Text.ink config.entry.link) (Text.ink d.unreleased)
        (Text.ink (d.releasedBody config)) := by
  have inline : '\n' ∉ config.entry.bullet :=
    (Entry.isInline_bullet version.isWord.isInline).not_mem
  have unrelated : citedRepository? config.entry.bullet = none := by
    rw [Config.entry, citedRepository?_bullet]
  have body : Text.ink d.body = Text.ink d.unreleased := Text.ink_trim _
  have inserted := isInsertion_appendPullLink inline unrelated d.body config.entry.link
    config.repository
  rw [body] at inserted
  exact inserted

/-- Apart from white space, the text after a release is the text before it with these edits: the
heading of the new section behind the unreleased heading; the entry and its link in the unreleased
text; and in the table, for the address of the first link, the new one and the line of the
release's own link. -/
structure IsEdited (d : Document) (config : Config) (stamp before after : Text)
    (address region : Text) : Prop where
  link : Text.firstLine d.links = unreleasedLinkMark ++ address
  old : Text.ink before =
    Text.ink (d.preamble ++ unreleasedHeading) ++ Text.ink d.unreleased ++
      Text.ink (d.releases ++ unreleasedLinkMark) ++ Text.ink address ++
        Text.ink (Text.afterFirstLine d.links)
  inserted : Text.IsInsertion (Text.ink (newEntry d.body config.entry.bullet))
    (Text.ink config.entry.link) (Text.ink d.unreleased) region
  new : Text.ink after =
    Text.ink (d.preamble ++ unreleasedHeading) ++
      Text.ink (releaseHeading config.version ++ " ".toList ++ stamp) ++ region ++
        Text.ink (d.releases ++ unreleasedLinkMark) ++
          Text.ink ((unreleasedDefinition config.repository config.version).url ++
            compareLinkLine config.repository d.previous config.version) ++
              Text.ink (Text.afterFirstLine d.links)

end Document

/-- A release takes nothing away that is written in a changelog but the address of the first link,
and changes the order of nothing. -/
theorem render_isEdited {config : Config} {stamp text output : Text}
    (valid : isVersion config.version = true)
    (rendered : render config stamp text = .ok output) :
    ∃ old address region, Document.ofText (Text.normalizeLineEndings text) = .ok old ∧
      old.IsEdited config stamp (Text.normalizeLineEndings text) output address region := by
  obtain ⟨old, read, rfl⟩ := render_eq_ok_iff.1 rendered
  obtain ⟨wf, whole⟩ := Document.ofText_eq_ok_iff.1 read
  obtain ⟨address, link⟩ := Text.startsWith_iff.1 wf.links
  have region := old.isInsertion_releasedBody (isLabel_of_isVersion valid)
  refine ⟨old, address, _, read, link.symm, ?_, region, ?_⟩
  · have table : Text.ink old.links = Text.ink unreleasedLinkMark ++ Text.ink address ++
        Text.ink (Text.afterFirstLine old.links) := by
      rw [← Text.ink_append, link, ← Text.ink_append, Text.firstLine_append_afterFirstLine]
    rw [← whole, Document.toText, Text.ink_append, table, Document.upper]
    simp
  · have table : old.releasedLinks config =
        releaseLinks config.repository old.previous config.version ++
          Text.afterFirstLine old.links := updateLinks_eq wf.links _ _ _
    rw [Document.release, table]
    simp [ink_releaseLinks]

/-- The link goes above the entry if the only reference to the repository stands there. -/
theorem render_isEdited_reference_above :
    let text := Sample.changelog "\r[#1]: r/pull/1\r\n# Changes\n  * fix\n".toList "\nend".toList
    let output := Sample.released ("[#1]: r/pull/1\n[#7]: r/pull/7\n# Changes\n\n".toList ++
      "* chore: bump nearcore to 2 in [#7]\n* fix".toList) "\nend".toList
    ∃ old address region, Document.ofText (Text.normalizeLineEndings text) = .ok old ∧
      old.IsEdited Sample.config "2024-02-02".toList (Text.normalizeLineEndings text) output
        address region := by
  intro text output
  have valid : isVersion Sample.config.version = true := by decide
  have rendered : render Sample.config "2024-02-02".toList text = .ok output := by decide +kernel
  exact render_isEdited valid rendered

end ReleaseLog
