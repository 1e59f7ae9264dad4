import ReleaseLog.Proofs.Document.Bullet
import ReleaseLog.Proofs.Document.References
import ReleaseLog.Proofs.Document.Release

/-!
# The space around the link of an entry

A link that starts a paragraph is put below an empty line, whatever line it follows. So the place of
a link is as it should be unless the text that it is put into ends with an empty line already. That
is the case exactly if the heading of the changes was the last line of the body, since a bullet that
is put below a heading always brings a line end with it.
-/

namespace ReleaseLog

/-- Among the rows of a section, a link stands directly below the last other reference to its
repository or, where there is none, at the end, with one blank row between it and the last row on
which something is written. -/
inductive IsSpaced (repository link : Text) (rows : List Text) : Prop
  | belowReference {above below : List Text} {reference : Text}
      (place : rows = above ++ reference :: link :: below)
      (isReference : IsReferenceTo repository reference)
      (last : ∀ row ∈ below, ¬ IsReferenceTo repository row)
  | ownParagraph {above : List Text} {last blank : Text}
      (place : rows = above ++ [last, blank, link])
      (written : Text.isWritten last = true) (empty : Text.isWritten blank = false)
      (unreferenced : ∀ row ∈ above ++ [last], ¬ IsReferenceTo repository row)

variable {repository content bullet link body heading s t : Text} {above : List Text}

/-! ## Last lines -/

namespace Text

/-- A text that ends with something written has something written on its last line. -/
theorem isWritten_getLast_lines (nonempty : s ≠ [])
    (dark : ∀ c ∈ s.getLast?, isWhite c = false) :
    ∀ last ∈ (lines s).getLast?, isWritten last = true := by
  obtain ⟨front, line, rfl, opens, inline⟩ := exists_lastLine s
  have rows : lines (front ++ line) = endedLines true front ++ [line] := by
    have cut := linesFrom_append opens line
    rw [lines_of_not_mem inline] at cut
    exact cut
  rw [rows, List.getLast?_concat]
  rintro _ ⟨⟩
  rcases List.eq_nil_or_concat line with rfl | ⟨cs, c, rfl⟩
  · rw [List.append_nil] at nonempty dark
    rcases opensLine_iff.1 opens with ⟨empty, _⟩ | ⟨cs, rfl⟩
    · exact absurd empty nonempty
    · have newline := dark '\n' (by simp)
      exact absurd newline (by decide)
  · have written : isWhite c = false := dark c (by simp)
    simp [isWritten, written]

/-- What follows a piece of a text that ends with something written ends with it, too. -/
theorem isWritten_getLast_lines_trimStart (nonempty : t ≠ [])
    (dark : ∀ c ∈ (s ++ t).getLast?, isWhite c = false) :
    ∀ last ∈ (lines (trimStart t)).getLast?, isWritten last = true := by
  rw [List.getLast?_append_of_ne_nil s nonempty] at dark
  have rest : trimStart t ≠ [] := by
    refine trimStart_ne_nil fun gap => ?_
    have written := dark _ (List.getLast?_eq_getLast_of_ne_nil nonempty)
    rw [gap _ (List.getLast_mem nonempty)] at written
    cases written
  obtain ⟨gap, _, whole⟩ := exists_append_trimStart t
  rw [whole, List.getLast?_append_of_ne_nil gap rest] at dark
  exact isWritten_getLast_lines rest dark

end Text

/-! ## How a merged body ends -/

theorem IsHeadedAt.exists_findLine (h : IsHeadedAt body above heading []) :
    ∃ cut, Text.findLine isChangesHeading true body = some cut ∧ cut.after = [] ∧
      Text.endedLines true cut.before = above ∧ cut.line = heading := by
  cases found : Text.findLine isChangesHeading true body with
  | none =>
      have missing := Text.findLine_eq_none_iff.1 found
      rw [Text.linesFrom_true, h.lines] at missing
      have other := missing heading (List.mem_append_right _ List.mem_cons_self)
      exact absurd h.isHeading (isChangesHeading_eq_false_iff.1 other)
  | some cut =>
      obtain ⟨aboves, headings, belows⟩ := (IsHeadedAt.of_findLine found).unique h
      refine ⟨cut, rfl, ?_, aboves, headings⟩
      rcases Text.firstLine_eq_nil_iff.1 (Text.LineCut.IsWhole.of_findLine found).firstLine_after
        with empty | ⟨rest, text⟩
      · exact empty
      · rw [text, Text.linesFrom_false_cons] at belows
        exact absurd belows (Text.lines_ne_nil rest)

section
variable (inline : '\n' ∉ bullet)
include inline

/-- Below a heading that ends a body stands the bullet, and then an empty line. -/
theorem lines_mergeBullet_of_isHeadedAt (h : IsHeadedAt body above heading []) :
    Text.lines (mergeBullet body bullet) = above ++ [heading, [], bullet, []] := by
  obtain ⟨cut, found, after, rfl, rfl⟩ := h.exists_findLine
  have nonempty : body ≠ [] := by
    rintro rfl
    cases found
  rw [lines_mergeBullet_of_some inline nonempty found, after]
  rfl

/-- Something is written on the last line of a merged body unless the heading of its changes was
the last line. -/
theorem isWritten_getLast_mergeBullet_iff (written : Text.isWritten bullet = true)
    (trimmed : ∀ c ∈ body.getLast?, Text.isWhite c = false) :
    (∀ last ∈ (Text.lines (mergeBullet body bullet)).getLast?, Text.isWritten last = true) ↔
      ∀ above heading, ¬ IsHeadedAt body above heading [] := by
  constructor
  · intro last above heading h
    rw [lines_mergeBullet_of_isHeadedAt inline h] at last
    have blank := last [] (by simp)
    cases blank
  · intro unheaded
    by_cases empty : body = []
    · subst empty
      rw [lines_mergeBullet_nil inline]
      rintro _ ⟨⟩
      exact written
    cases found : Text.findLine isChangesHeading true body with
    | none =>
        have rows := lines_mergeBullet_of_none inline empty found
        have front : changesHeading :: [] :: bullet :: [] :: Text.lines body =
            [changesHeading, [], bullet, []] ++ Text.lines body := rfl
        rw [rows, front, List.getLast?_append_of_ne_nil _ (Text.lines_ne_nil body)]
        exact Text.isWritten_getLast_lines empty trimmed
    | some cut =>
        have rest : cut.after ≠ [] := by
          intro missing
          have headed := IsHeadedAt.of_findLine found
          rw [missing] at headed
          exact unheaded _ _ headed
        have rows := lines_mergeBullet_of_some inline empty found
        have front : Text.endedLines true cut.before ++
              cut.line :: [] :: bullet :: Text.lines (Text.trimStart cut.after) =
            (Text.endedLines true cut.before ++ [cut.line, [], bullet]) ++
              Text.lines (Text.trimStart cut.after) := by simp
        rw [rows, front, List.getLast?_append_of_ne_nil _ (Text.lines_ne_nil _)]
        rw [← Text.toText_of_findLine found, Text.LineCut.toText] at trimmed
        exact Text.isWritten_getLast_lines_trimStart rest trimmed

end

/-! ## The link below a merged body -/

theorem not_isReferenceTo_of_isHeadingOf {title line : Text} (h : IsHeadingOf title line) :
    ¬ IsReferenceTo repository line := by
  obtain ⟨level, gap, blanks, rfl, marked, isMark, _⟩ := h
  obtain ⟨c, level, rfl⟩ := List.exists_cons_of_ne_nil marked
  obtain rfl := isMark c List.mem_cons_self
  rintro ⟨number, pull, blanks, text, _⟩
  cases text

theorem not_isReferenceTo_nil : ¬ IsReferenceTo repository [] := by
  rintro ⟨number, pull, blanks, text, _⟩
  cases text

/-- A link that starts a paragraph has the right place below something written, and only there. -/
theorem isSpaced_append_iff {rows : List Text}
    (unreferenced : ∀ row ∈ rows, ¬ IsReferenceTo repository row) (nonempty : rows ≠ []) :
    IsSpaced repository link (rows ++ [[], link]) ↔
      ∀ last ∈ rows.getLast?, Text.isWritten last = true := by
  constructor
  · intro spaced
    cases spaced with
    | @belowReference above below reference place isReference last =>
        have front := congrArg List.dropLast place
        have member : reference ∈ rows ++ [[]] := by
          have whole : rows ++ [[], link] = (rows ++ [[]]) ++ [link] := by simp
          rw [whole, List.dropLast_concat, List.dropLast_append_of_ne_nil (List.cons_ne_nil _ _),
            List.dropLast_cons_of_ne_nil (List.cons_ne_nil _ _)] at front
          rw [front]
          simp
        rcases List.mem_append.1 member with old | blank
        · exact absurd isReference (unreferenced reference old)
        · obtain rfl := List.mem_singleton.1 blank
          exact absurd isReference not_isReferenceTo_nil
    | @ownParagraph above last blank place written empty _ =>
        have same : rows = above ++ [last] := by
          have whole : above ++ [last, blank, link] = (above ++ [last]) ++ [blank, link] := by simp
          rw [whole] at place
          exact (List.append_inj' place rfl).1
        rw [same, List.getLast?_concat]
        rintro _ ⟨⟩
        exact written
  · intro written
    have cut := List.dropLast_concat_getLast nonempty
    have last := written _ (List.getLast?_eq_getLast_of_ne_nil nonempty)
    generalize rows.dropLast = above at cut
    generalize rows.getLast nonempty = row at cut last
    subst cut
    have place : above ++ [row] ++ [[], link] = above ++ [row, [], link] := by simp
    exact .ownParagraph place last rfl unreferenced

theorem isSpaced_appendPullLink_of_some {cut : Text.LineCut} (inline : '\n' ∉ link)
    (found : lastReference? repository content = some cut) :
    IsSpaced repository link (Text.lines (appendPullLink content link repository)) := by
  obtain ⟨_, isReference, last⟩ := lines_of_lastReference? found
  exact .belowReference (lines_appendPullLink_of_some inline found) isReference last

theorem mem_lines_appendPullLink (inline : '\n' ∉ link) :
    link ∈ Text.lines (appendPullLink content link repository) := by
  cases found : lastReference? repository content with
  | none => simp [lines_appendPullLink_of_none inline found]
  | some cut => simp [lines_appendPullLink_of_some inline found]

/-- The heading of the changes is not the last line of the body, or else there is a reference to
the repository above it. -/
def HasPlaceForLink (repository body : Text) : Prop :=
  ∀ above heading, IsHeadedAt body above heading [] →
    ∃ row ∈ above, IsReferenceTo repository row

/-- Whatever refers to the repository in a body that ends with the heading stands above it. -/
theorem exists_reference_of_isHeadedAt (inline : '\n' ∉ bullet)
    (unrelated : ¬ IsReferenceTo repository bullet) (h : IsHeadedAt body above heading []) :
    (∃ row ∈ Text.lines (mergeBullet body bullet), IsReferenceTo repository row) ↔
      ∃ row ∈ above, IsReferenceTo repository row := by
  rw [lines_mergeBullet_of_isHeadedAt inline h]
  constructor
  · rintro ⟨row, member, isReference⟩
    simp only [List.mem_append, List.mem_cons, List.not_mem_nil, or_false] at member
    rcases member with old | rfl | rfl | rfl | rfl
    · exact ⟨row, old, isReference⟩
    · exact absurd isReference (not_isReferenceTo_of_isHeadingOf h.isHeading)
    · exact absurd isReference not_isReferenceTo_nil
    · exact absurd isReference unrelated
    · exact absurd isReference not_isReferenceTo_nil
  · rintro ⟨row, old, isReference⟩
    exact ⟨row, List.mem_append_left _ old, isReference⟩

/-- An entry that is put into a trimmed body has its link in the right place exactly if the body
has a place for it. -/
theorem isSpaced_appendPullLink_mergeBullet_iff (inline : '\n' ∉ bullet)
    (written : Text.isWritten bullet = true) (unrelated : ¬ IsReferenceTo repository bullet)
    (link_inline : '\n' ∉ link) (trimmed : ∀ c ∈ body.getLast?, Text.isWhite c = false) :
    IsSpaced repository link
        (Text.lines (appendPullLink (mergeBullet body bullet) link repository)) ↔
      HasPlaceForLink repository body := by
  have onlyAbove := fun above heading (h : IsHeadedAt body above heading []) =>
    exists_reference_of_isHeadedAt inline unrelated h
  cases found : lastReference? repository (mergeBullet body bullet) with
  | some cut =>
      refine ⟨fun _ above heading h => (onlyAbove above heading h).1 ?_,
        fun _ => isSpaced_appendPullLink_of_some link_inline found⟩
      obtain ⟨rows, isReference, _⟩ := lines_of_lastReference? found
      refine ⟨cut.line, ?_, isReference⟩
      rw [rows]
      exact List.mem_append_right _ List.mem_cons_self
  | none =>
      have unreferenced := lastReference?_eq_none_iff.1 found
      rw [lines_appendPullLink_of_none link_inline found,
        isSpaced_append_iff unreferenced (Text.lines_ne_nil _),
        isWritten_getLast_mergeBullet_iff inline written trimmed]
      constructor
      · intro unheaded above heading h
        exact absurd h (unheaded above heading)
      · intro place above heading h
        have reference := (onlyAbove above heading h).2 (place above heading h)
        obtain ⟨row, member, isReference⟩ := reference
        exact unreferenced row member isReference

/-! ## The whole changelog -/

namespace Document

theorem isSpaced_releasedBody_iff (d : Document) {config : Config}
    (version : IsLabel config.version) (web : Text.isWord config.repository) :
    IsSpaced config.repository config.entry.link (Text.lines (d.releasedBody config)) ↔
      HasPlaceForLink config.repository d.body := by
  have inline : '\n' ∉ config.entry.bullet :=
    (Entry.isInline_bullet version.isWord.isInline).not_mem
  have written : Text.isWritten config.entry.bullet = true := rfl
  have unrelated : ¬ IsReferenceTo config.repository config.entry.bullet := by
    rw [← citedRepository?_eq_some_iff, Config.entry, citedRepository?_bullet]
    exact nofun
  have link_inline : '\n' ∉ config.entry.link := (Entry.isInline_link web.isInline).not_mem
  exact isSpaced_appendPullLink_mergeBullet_iff inline written unrelated link_inline
    (Text.isWhite_getLast_trim _)

end Document

/-- The link of a release is a line of the new section, in the right place exactly if the old body
has a place for it. -/
theorem render_isSpaced_iff {config : Config} {stamp text output : Text}
    (valid : isVersion config.version = true) (web : Text.isWord config.repository)
    (rendered : render config stamp text = .ok output) :
    ∃ old rows, Document.ofText (Text.normalizeLineEndings text) = .ok old ∧
      Text.lines output =
        Text.lines (old.preamble ++ unreleasedHeading) ++
          [] :: (Text.lines (Document.releasedTitle config stamp) ++
            [] :: (rows ++ [] :: Text.lines (old.releases ++ old.releasedLinks config))) ∧
      config.entry.link ∈ rows ∧
      (IsSpaced config.repository config.entry.link rows ↔
        HasPlaceForLink config.repository old.body) := by
  obtain ⟨old, read, rfl⟩ := render_eq_ok_iff.1 rendered
  have inline : '\n' ∉ config.entry.link := (Entry.isInline_link web.isInline).not_mem
  exact ⟨old, _, read, old.lines_release config stamp, mem_lines_appendPullLink inline,
    old.isSpaced_releasedBody_iff (isLabel_of_isVersion valid) web⟩

/-- A reference above the heading of the changes takes the link, even if the body ends there. -/
theorem render_isSpaced_iff_reference_above :
    let text := Sample.changelog "\n[#1]: r/pull/1\n### Changes\n".toList []
    let output := Sample.released ("[#1]: r/pull/1\n[#7]: r/pull/7\n### Changes\n\n".toList ++
      "* chore: bump nearcore to 2 in [#7]\n".toList) []
    (isVersion Sample.config.version = true ∧ Text.isWord Sample.config.repository ∧
      render Sample.config "2024-02-02".toList text = .ok output) ∧
    ∃ old rows, Document.ofText (Text.normalizeLineEndings text) = .ok old ∧
      Text.lines output =
        Text.lines (old.preamble ++ unreleasedHeading) ++
          [] :: (Text.lines (Document.releasedTitle Sample.config "2024-02-02".toList) ++
            [] :: (rows ++ [] :: Text.lines (old.releases ++ old.releasedLinks Sample.config))) ∧
      Sample.config.entry.link ∈ rows ∧
      (IsSpaced Sample.config.repository Sample.config.entry.link rows ↔
        HasPlaceForLink Sample.config.repository old.body) := by
  intro text output
  have valid : isVersion Sample.config.version = true := by decide
  have web : Text.isWord Sample.config.repository := by decide
  have rendered : render Sample.config "2024-02-02".toList text = .ok output := by decide +kernel
  exact ⟨⟨valid, web, rendered⟩, render_isSpaced_iff valid web rendered⟩

/-- In a body that is nothing but a heading of changes, two empty lines stand above the link. -/
theorem not_forall_render_isSpaced :
    ¬ ∀ (config : Config) (stamp text output : Text),
      isVersion config.version = true → Text.isWord config.repository →
        render config stamp text = .ok output →
          ∃ old rows, Document.ofText (Text.normalizeLineEndings text) = .ok old ∧
            Text.lines output =
              Text.lines (old.preamble ++ unreleasedHeading) ++
                [] :: (Text.lines (Document.releasedTitle config stamp) ++
                  [] :: (rows ++ [] :: Text.lines (old.releases ++ old.releasedLinks config))) ∧
            IsSpaced config.repository config.entry.link rows := by
  intro claim
  let text := Sample.changelog "\n\n### Changes\n\n".toList []
  let d := Sample.document "\n\n### Changes\n\n".toList []
  have valid : isVersion Sample.config.version = true := by decide
  have web : Text.isWord Sample.config.repository := by decide
  have read : Document.ofText (Text.normalizeLineEndings text) = .ok d := by decide +kernel
  have rendered : render Sample.config [] text = .ok (d.release Sample.config []) :=
    render_eq_ok_iff.2 ⟨d, read, rfl⟩
  obtain ⟨old, rows, oldRead, whole, spaced⟩ := claim Sample.config _ text _ valid web rendered
  obtain rfl := Except.ok.inj (oldRead.symm.trans read)
  obtain rfl : rows = Text.lines (d.releasedBody Sample.config) := by
    simpa [d.lines_release Sample.config] using whole.symm
  have place := (d.isSpaced_releasedBody_iff (isLabel_of_isVersion valid) web).1 spaced
  have headed : IsHeadedAt d.body [] "### Changes".toList [] := ⟨rfl, by simp, by decide⟩
  obtain ⟨_, member, _⟩ := place _ _ headed
  cases member

end ReleaseLog
