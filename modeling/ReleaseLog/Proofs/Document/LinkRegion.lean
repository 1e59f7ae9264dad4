import ReleaseLog.Proofs.Document.Release

/-!
# The lines of a link table

A changelog should have one line alone that begins like the link of the unreleased changes. Repeats
are counted in definitions, though, and a label runs on over line ends to its closing bracket. Each
such line closes a label (`countP_isUnreleasedLink`): its own, or one that was opened on a line
above. In the second case no repeat is seen, and the changelog is read with two of these lines.

A release replaces the first of the lines by two lines of its own and leaves the others as they are,
so its table is right unless the old one had a second such line.
-/

namespace ReleaseLog

/-! ## Lines and definitions -/

/-- The link of the unreleased changes up to the bracket that closes its label. -/
def unreleasedLinkOpening : Text := '[' :: unreleasedLabel

/-- The label was opened above a line that begins like the link of the unreleased changes, and is
closed by it. -/
def LinkDefinition.absorbsUnreleasedLink (link : LinkDefinition) : Bool :=
  ('\n' :: unreleasedLinkOpening).isSuffixOf link.label

theorem LinkDefinition.absorbsUnreleasedLink_iff {link : LinkDefinition} :
    link.absorbsUnreleasedLink = true ↔ '\n' :: unreleasedLinkOpening <:+ link.label :=
  List.isSuffixOf_iff_suffix

theorem LinkDefinition.not_absorbsUnreleasedLink_of_label {link : LinkDefinition}
    (own : link.label = unreleasedLabel) : link.absorbsUnreleasedLink = false := by
  rw [absorbsUnreleasedLink, own]
  decide

/-- A line that begins like the link of the unreleased changes closes a label. -/
theorem countP_endedLines_of_unclosed {a : Text} (unclosed : ']' ∉ a) :
    (Text.endedLines true a).countP isUnreleasedLink = 0 := by
  have closes : ']' ∈ unreleasedLinkMark := by decide
  rw [List.countP_eq_zero]
  intro line member link
  have inText : line <:+: a := Text.infix_of_mem_lines (Text.mem_linesFrom_of_mem_endedLines member)
  exact unclosed (inText.subset ((Text.startsWith_iff.1 link).subset closes))

theorem lines_append_close {last : Text} (inline : '\n' ∉ last) (target : Text) :
    Text.lines (last ++ ']' :: ':' :: target) =
      (last ++ ']' :: ':' :: Text.firstLine target) :: Text.linesFrom false target := by
  have close : '\n' ∉ [']', ':'] := by decide
  have firstLine : Text.firstLine (']' :: ':' :: target) = ']' :: ':' :: Text.firstLine target :=
    Text.firstLine_append_of_not_mem close target
  have later : Text.linesFrom false (']' :: ':' :: target) = Text.linesFrom false target :=
    Text.linesFrom_false_append close target
  rw [Text.lines_append_of_not_mem inline, firstLine, later]

/-- Where a label is closed, a line begins like the link of the unreleased changes exactly if all of
it in front of the bracket is the beginning of that link. -/
theorem isUnreleasedLink_append_close {last : Text} (unclosed : ']' ∉ last) (rest : Text) :
    isUnreleasedLink (last ++ ']' :: ':' :: rest) = true ↔ last = unreleasedLinkOpening := by
  have mark : unreleasedLinkMark = unreleasedLinkOpening ++ [']', ':'] := by decide
  have openingUnclosed : ']' ∉ unreleasedLinkOpening := by decide
  rw [isUnreleasedLink, Text.startsWith_iff, mark]
  constructor
  · rintro ⟨behind, text⟩
    have whole : unreleasedLinkOpening ++ ']' :: (':' :: behind) = last ++ ']' :: ':' :: rest := by
      rw [← text]
      simp
    exact (Text.append_separator_inj openingUnclosed unclosed whole).1.symm
  · rintro rfl
    exact ⟨rest, by simp⟩

/-- The line that closes a label is the beginning of the link of the unreleased changes if the
label is that of the link or ends with such a line. -/
theorem lastLine_eq_unreleasedLinkOpening_iff {link : LinkDefinition} {front last : Text}
    (text : '[' :: link.label = front ++ last) (opens : Text.opensLine true front = true)
    (inline : '\n' ∉ last) :
    last = unreleasedLinkOpening ↔
      link.label = unreleasedLabel ∨ link.absorbsUnreleasedLink = true := by
  have openingInline : '\n' ∉ unreleasedLinkOpening := by decide
  rw [LinkDefinition.absorbsUnreleasedLink_iff]
  constructor
  · rintro rfl
    rcases Text.opensLine_iff.1 opens with ⟨rfl, _⟩ | ⟨above, rfl⟩
    · exact .inl (List.cons.inj text).2
    · cases above with
      | nil => cases text
      | cons c above =>
          have tail := (List.cons.inj text).2
          exact .inr ⟨above, by simp [tail]⟩
  · rintro (own | ⟨above, absorbed⟩)
    · rw [own] at text
      have whole : front ++ last = [] ++ unreleasedLinkOpening := text.symm
      exact Text.lastLine_unique opens inline rfl openingInline whole
    · have aboveOpens : Text.opensLine true ('[' :: (above ++ ['\n'])) = true := by
        rw [Text.opensLine, Text.opensLine_append]
        rfl
      refine Text.lastLine_unique opens inline aboveOpens openingInline ?_
      rw [← text, ← absorbed]
      simp

/-- Of the lines that a definition takes up, only the one that closes its label can begin like the
link of the unreleased changes. -/
theorem countP_lines_definition (link : LinkDefinition) (target : Text)
    (unclosed : ']' ∉ link.label) :
    (Text.lines ('[' :: (link.label ++ ']' :: ':' :: target))).countP isUnreleasedLink =
      (if link.label = unreleasedLabel ∨ link.absorbsUnreleasedLink = true then 1 else 0) +
        (Text.linesFrom false target).countP isUnreleasedLink := by
  obtain ⟨front, last, text, opens, inline⟩ := Text.exists_lastLine ('[' :: link.label)
  have allUnclosed : ']' ∉ front ++ last := by
    rw [← text]
    simpa using unclosed
  obtain ⟨frontUnclosed, lastUnclosed⟩ := not_or.1 (mt List.mem_append.2 allUnclosed)
  have whole : '[' :: (link.label ++ ']' :: ':' :: target) =
      front ++ (last ++ ']' :: ':' :: target) := by
    rw [← List.append_assoc, ← text]
    rfl
  have lines := Text.linesFrom_append opens (last ++ ']' :: ':' :: target)
  rw [Text.linesFrom_true, lines_append_close inline] at lines
  have here := (isUnreleasedLink_append_close lastUnclosed (Text.firstLine target)).trans
    (lastLine_eq_unreleasedLinkOpening_iff text opens inline)
  rw [whole, lines, List.countP_append, countP_endedLines_of_unclosed frontUnclosed,
    List.countP_cons]
  simp only [here]
  omega

theorem isUnreleasedLink_firstLine_of_read? {s : Text} (missing : LinkDefinition.read? s = none) :
    isUnreleasedLink (Text.firstLine s) = false := by
  cases link : isUnreleasedLink (Text.firstLine s) with
  | false => rfl
  | true =>
      obtain ⟨_, _, read, _⟩ := linkDefinitions_of_isUnreleasedLink link
      rw [read] at missing
      cases missing

/-- Every line that begins like the link of the unreleased changes closes the label of one
definition, which is that link or has absorbed the line. -/
theorem countP_isUnreleasedLink (atStart : Bool) (s : Text) :
    (Text.linesFrom atStart s).countP isUnreleasedLink =
      (linkDefinitions atStart s).countP (·.label == unreleasedLabel) +
        (linkDefinitions atStart s).countP (·.absorbsUnreleasedLink) := by
  fun_induction linkDefinitions atStart s with
  | case1 atStart s link rest found ih =>
      cases atStart with
      | false => cases found
      | true =>
          obtain ⟨label, target, rfl, _, unclosed, rfl, rfl⟩ :=
            LinkDefinition.read?_eq_some_iff.1 found
          have lines := countP_lines_definition ⟨label, urlIn target⟩ target unclosed
          simp only at lines
          -- the search goes on behind the url, and the url ends on the line where the label does
          rw [Text.linesFrom_true, lines, ← linesFrom_behindUrl, ih, List.countP_cons,
            List.countP_cons]
          by_cases own : label = unreleasedLabel
          · subst own
            have notAbsorbing : LinkDefinition.absorbsUnreleasedLink
                ⟨unreleasedLabel, urlIn target⟩ = false :=
              LinkDefinition.not_absorbsUnreleasedLink_of_label rfl
            simp only [notAbsorbing, true_or, if_true, beq_self_eq_true, Bool.false_eq_true,
              if_false]
            omega
          · simp only [own, false_or, beq_iff_eq, if_false]
            omega
  | case2 atStart missing => cases atStart <;> rfl
  | case3 atStart c cs missing ih =>
      have here : (if atStart then [Text.firstLine (c :: cs)] else []).countP isUnreleasedLink =
          0 := by
        cases atStart with
        | false => rfl
        | true => simp [isUnreleasedLink_firstLine_of_read? missing]
      rw [Text.linesFrom_cons, List.countP_append, here, ih]
      omega

namespace Document

variable {d : Document}

/-- No repeated definition is left to see in a changelog that has been read, so every further line
that begins like the link of the unreleased changes is part of a label. -/
theorem countP_links (wf : d.WellFormed) :
    (Text.lines d.links).countP isUnreleasedLink =
      1 + d.definitions.countP (·.absorbsUnreleasedLink) := by
  obtain ⟨url, _, _, definitions⟩ := linkDefinitions_of_isUnreleasedLink wf.links
  have own : 0 < d.definitions.countP (·.label == unreleasedLabel) := by
    rw [Document.definitions, definitions]
    simp
  have once := wf.unreleasedLinks
  rw [unreleasedLinks, ← List.countP_eq_length_filter] at once
  have lines := countP_isUnreleasedLink true d.links
  rw [Text.linesFrom_true] at lines
  rw [lines]
  change d.definitions.countP _ + d.definitions.countP _ = _
  omega

theorem countP_links_eq_one_iff (wf : d.WellFormed) :
    (Text.lines d.links).countP isUnreleasedLink = 1 ↔
      ∀ link ∈ d.definitions, link.absorbsUnreleasedLink = false := by
  rw [countP_links wf, Nat.add_eq_left, List.countP_eq_zero]
  simp

end Document

/-! ## The table of a release -/

/-- The line that a release writes for the link of the unreleased changes. -/
def unreleasedLinkLine (repository version : Text) : Text :=
  "[Unreleased]: ".toList ++ repository ++ "/".toList ++ version ++ "...main".toList

/-- The line that a release writes for its own link. -/
def compareLinkLine (repository previous version : Text) : Text :=
  "[".toList ++ version ++ "]: ".toList ++ repository ++ "/compare/".toList ++ previous ++
    "...".toList ++ version

theorem releaseLinks_eq (repository previous version : Text) :
    releaseLinks repository previous version =
      unreleasedLinkLine repository version ++
        '\n' :: compareLinkLine repository previous version := by
  have between : "...main\n[".toList = "...main".toList ++ '\n' :: "[".toList := by decide
  unfold releaseLinks unreleasedLinkLine compareLinkLine
  rw [between]
  simp only [List.append_assoc, List.cons_append]

section
variable {repository previous version : Text}

theorem not_mem_unreleasedLinkLine (web : Text.isWord repository) (new : IsLabel version) :
    '\n' ∉ unreleasedLinkLine repository version := by
  have opening : Text.isInline "[Unreleased]: ".toList := by decide
  have slash : Text.isInline "/".toList := by decide
  have closing : Text.isInline "...main".toList := by decide
  apply Text.isInline.not_mem
  unfold unreleasedLinkLine
  simp only [Text.isInline_append]
  exact ⟨⟨⟨⟨opening, web.isInline⟩, slash⟩, new.isWord.isInline⟩, closing⟩

theorem not_mem_compareLinkLine (web : Text.isWord repository) (old : IsLabel previous)
    (new : IsLabel version) : '\n' ∉ compareLinkLine repository previous version := by
  have opening : Text.isInline "[".toList := by decide
  have close : Text.isInline "]: ".toList := by decide
  have compare : Text.isInline "/compare/".toList := by decide
  have dots : Text.isInline "...".toList := by decide
  have label := new.isWord.isInline
  apply Text.isInline.not_mem
  unfold compareLinkLine
  simp only [Text.isInline_append]
  exact ⟨⟨⟨⟨⟨⟨⟨opening, label⟩, close⟩, web.isInline⟩, compare⟩, old.isWord.isInline⟩, dots⟩, label⟩

theorem isUnreleasedLink_unreleasedLinkLine (repository version : Text) :
    isUnreleasedLink (unreleasedLinkLine repository version) = true := by
  have opening : unreleasedLinkMark <+: "[Unreleased]: ".toList := by decide
  refine Text.startsWith_iff.2 (opening.trans ?_)
  unfold unreleasedLinkLine
  simp only [List.append_assoc]
  exact List.prefix_append _ _

theorem isUnreleasedLink_compareLinkLine (new : IsLabel version) (repository previous : Text) :
    isUnreleasedLink (compareLinkLine repository previous version) = false := by
  cases link : isUnreleasedLink (compareLinkLine repository previous version) with
  | false => rfl
  | true =>
      obtain ⟨c, cs, rfl⟩ := List.exists_cons_of_ne_nil new.nonempty
      have begins := Text.startsWith_iff.1 link
      unfold compareLinkLine at begins
      simp only [List.append_assoc, List.cons_append] at begins
      obtain ⟨_, inside⟩ := List.cons_prefix_cons.1 begins
      obtain ⟨rfl, _⟩ := List.cons_prefix_cons.1 inside
      exact absurd (new.chars _ List.mem_cons_self) (by decide)

end

/-- One line alone of a text begins like the link of the unreleased changes, and these lines follow
it to the end of the text. -/
structure Text.HasLinkTable (s link : Text) (later : List Text) : Prop where
  only : (Text.lines s).filter isUnreleasedLink = [link]
  rows : ∃ above, Text.lines s = above ++ link :: later

namespace Document

variable {d : Document} {config : Config} {stamp : Text}

section
variable (wf : d.WellFormed) (web : Text.isWord config.repository)
  (version : IsLabel config.version) (inline : Text.isInline stamp)
include wf version

include web in
/-- Two lines stand for the first one of the table. -/
theorem lines_links_released :
    Text.lines (d.released config stamp).links =
      unreleasedLinkLine config.repository config.version ::
        compareLinkLine config.repository d.previous config.version ::
          (Text.lines d.links).tail := by
  have first := not_mem_unreleasedLinkLine web version
  have second := not_mem_compareLinkLine web wf.isLabel_previous version
  have table : (d.released config stamp).links =
      releaseLinks config.repository d.previous config.version ++ Text.afterFirstLine d.links :=
    updateLinks_eq wf.links _ _ _
  rw [table, releaseLinks_eq, List.append_assoc, List.cons_append, Text.lines_append_newline,
    Text.lines_of_not_mem first, Text.lines_append_of_not_mem second, firstLine_afterFirstLine,
    Text.linesFrom_afterFirstLine, List.append_nil]
  rfl

include inline

theorem upper_lines_released
    (body : ∀ line ∈ Text.lines (d.releasedBody config), isUnreleasedLink line = false) :
    ∀ line ∈ Text.endedLines true (d.released config stamp).upper,
      isUnreleasedLink line = false := by
  have preamble : Text.opensLine true (d.released config stamp).preamble = true := wf.preamble_ends
  have gap : Text.endedLines false (d.released config stamp).unreleased = [[]] := by
    change Text.endedLines false "\n\n".toList = [[]]
    decide
  rw [endedLines_upper preamble rfl (opensLine_releases_released wf.releases_end),
    endedLines_releases_released version inline, gap]
  simp only [List.forall_mem_append, List.forall_mem_cons]
  have above : ∀ line ∈ Text.endedLines true d.preamble, isUnreleasedLink line = false := by
    intro line member
    exact (wf.preamble_lines line member).1
  have below : ∀ line ∈ Text.endedLines true d.releases, isUnreleasedLink line = false := by
    intro line member
    exact (wf.releases_lines line member).1
  exact ⟨above, rfl, ⟨rfl, by simp⟩, rfl, rfl, body, rfl, below⟩

include web

/-- A release leaves a table with one link of the unreleased changes, unless a label of the old
table has absorbed another one. -/
theorem hasLinkTable_release_iff
    (body : ∀ line ∈ Text.lines (d.releasedBody config), isUnreleasedLink line = false) :
    (d.release config stamp).HasLinkTable (unreleasedLinkLine config.repository config.version)
        (compareLinkLine config.repository d.previous config.version ::
          (Text.lines d.links).tail) ↔
      ∀ link ∈ d.definitions, link.absorbsUnreleasedLink = false := by
  have lines : Text.lines (d.release config stamp) =
      Text.endedLines true (d.released config stamp).upper ++
        unreleasedLinkLine config.repository config.version ::
          compareLinkLine config.repository d.previous config.version ::
            (Text.lines d.links).tail := by
    rw [← lines_links_released wf web version, ← toText_released]
    exact Text.linesFrom_append (opensLine_upper_released wf) _
  have above : (Text.endedLines true (d.released config stamp).upper).filter isUnreleasedLink =
      [] := by
    rw [List.filter_eq_nil_iff]
    intro line member
    simp [upper_lines_released wf version inline body line member]
  have links : (Text.lines (d.release config stamp)).filter isUnreleasedLink =
      unreleasedLinkLine config.repository config.version ::
        (Text.lines d.links).tail.filter isUnreleasedLink := by
    rw [lines, List.filter_append, above, List.nil_append,
      List.filter_cons_of_pos (isUnreleasedLink_unreleasedLinkLine _ _),
      List.filter_cons_of_neg (by simp [isUnreleasedLink_compareLinkLine version])]
  have count : (Text.lines d.links).countP isUnreleasedLink =
      (Text.lines d.links).tail.countP isUnreleasedLink + 1 := by
    have old := Text.lines_eq_cons d.links
    rw [old, List.countP_cons_of_pos wf.links]
    rfl
  rw [← countP_links_eq_one_iff wf, count]
  constructor
  · intro table
    have only := table.only
    rw [links] at only
    rw [List.countP_eq_length_filter, (List.cons.inj only).2]
    rfl
  · intro once
    have none : (Text.lines d.links).tail.filter isUnreleasedLink = [] := by
      rw [← List.length_eq_zero_iff, ← List.countP_eq_length_filter]
      omega
    refine ⟨?_, _, lines⟩
    rw [links, none]

end

end Document

/-! ## Rendering -/

/-- A rendered changelog has one link of the unreleased changes, the new one, with the release's
link and all older lines of the table right below it, exactly if no label of the old table has
absorbed a line that begins like that link. These labels are all that keeps a changelog with a
second such line from being rejected. -/
theorem render_hasLinkTable_iff {config : Config} {date : Date}
    (valid : isVersion config.version = true) (web : Text.isWord config.repository) :
    (∀ text output, render config date.stamp text = .ok output →
      ∃ old, Document.ofText (Text.normalizeLineEndings text) = .ok old ∧
        ((∀ line ∈ Text.lines (old.releasedBody config), isUnreleasedLink line = false) →
          (output.HasLinkTable (unreleasedLinkLine config.repository config.version)
              (compareLinkLine config.repository old.previous config.version ::
                (Text.lines old.links).tail) ↔
            ∀ link ∈ old.definitions, link.absorbsUnreleasedLink = false))) ∧
      ∀ text d, Document.ofText text = .ok d →
        ((Text.lines d.links).countP isUnreleasedLink = 1 ↔
          ∀ link ∈ d.definitions, link.absorbsUnreleasedLink = false) := by
  have version := isLabel_of_isVersion valid
  constructor
  · intro text output rendered
    obtain ⟨old, read, rfl⟩ := render_eq_ok_iff.1 rendered
    have wf := (Document.ofText_eq_ok_iff.1 read).1
    refine ⟨old, read, ?_⟩
    intro body
    exact Document.hasLinkTable_release_iff wf web version date.isWord_stamp.isInline body
  · intro text d read
    exact Document.countP_links_eq_one_iff (Document.ofText_eq_ok_iff.1 read).1

theorem render_hasLinkTable_one_fix :
    Text.HasLinkTable (Sample.released Sample.releasedFix "\n[1-1]: y".toList)
        "[Unreleased]: r/2-2...main".toList
        ["[2-2]: r/compare/1-1...2-2".toList, "[1-1]: y".toList] ∧
      (Text.lines "[Unreleased]: x\n[1-1]: y".toList).countP isUnreleasedLink = 1 := by
  let text := Sample.changelog Sample.oneFix "\n[1-1]: y".toList
  let d := Sample.document Sample.oneFix "\n[1-1]: y".toList
  have valid : isVersion Sample.config.version = true := by decide
  have web : Text.isWord Sample.config.repository := by decide
  obtain ⟨rendering, reading⟩ := @render_hasLinkTable_iff Sample.config Sample.date valid web
  have read : Document.ofText (Text.normalizeLineEndings text) = .ok d := by decide +kernel
  have unabsorbed : ∀ link ∈ d.definitions, link.absorbsUnreleasedLink = false := by
    decide +kernel
  have body : ∀ line ∈ Text.lines (d.releasedBody Sample.config),
      isUnreleasedLink line = false := by decide +kernel
  constructor
  · have rendered : render Sample.config Sample.date.stamp text =
        .ok (Sample.released Sample.releasedFix "\n[1-1]: y".toList) := by decide +kernel
    obtain ⟨old, oldRead, law⟩ := rendering text _ rendered
    obtain rfl : d = old := Except.ok.inj (read.symm.trans oldRead)
    exact (law body).2 unabsorbed
  · exact (reading _ d read).2 unabsorbed

/-- A label that was opened in the table absorbs a second link of the unreleased changes, which is
then left below the new one. -/
theorem not_forall_render_hasLinkTable :
    ¬ ∀ (config : Config) (date : Date) (text output : Text),
      isVersion config.version = true → Text.isWord config.repository →
        render config date.stamp text = .ok output →
          ∃ old, Document.ofText (Text.normalizeLineEndings text) = .ok old ∧
            ((∀ line ∈ Text.lines (old.releasedBody config), isUnreleasedLink line = false) →
              output.HasLinkTable (unreleasedLinkLine config.repository config.version)
                (compareLinkLine config.repository old.previous config.version ::
                  (Text.lines old.links).tail)) := by
  intro claim
  let text := Sample.changelog Sample.oneFix "\n[a\n[Unreleased]: y".toList
  let output := Sample.released Sample.releasedFix "\n[a\n[Unreleased]: y".toList
  let d := Sample.document Sample.oneFix "\n[a\n[Unreleased]: y".toList
  have valid : isVersion Sample.config.version = true := by decide
  have web : Text.isWord Sample.config.repository := by decide
  have rendered : render Sample.config Sample.date.stamp text = .ok output := by decide +kernel
  have read : Document.ofText (Text.normalizeLineEndings text) = .ok d := by decide +kernel
  have body : ∀ line ∈ Text.lines (d.releasedBody Sample.config),
      isUnreleasedLink line = false := by decide +kernel
  obtain ⟨old, oldRead, law⟩ := claim Sample.config Sample.date text output valid web rendered
  obtain rfl : d = old := Except.ok.inj (read.symm.trans oldRead)
  have links : (Text.lines output).countP isUnreleasedLink = 2 := by decide +kernel
  have only := (law body).only
  rw [List.countP_eq_length_filter, only] at links
  cases links

end ReleaseLog
