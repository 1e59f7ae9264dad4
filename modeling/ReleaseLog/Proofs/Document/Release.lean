import ReleaseLog.Document.Release
import ReleaseLog.Proofs.Document.Body
import ReleaseLog.Proofs.Document.Entry
import ReleaseLog.Proofs.Document.LinkTable
import ReleaseLog.Proofs.Document.WellFormed

/-!
# Reading a release back

A release is put together from parts, and these should be the parts that reading finds in it. They
are unless one of the two lines of the old body that lost the white space in front of them now
begins like a line that divides the changelog; then reading finds other parts, or none.
-/

namespace ReleaseLog

theorem releaseLabels_append_gap (a b : Text) :
    releaseLabels (a ++ "\n\n".toList ++ b) = releaseLabels a ++ releaseLabels b := by
  rw [releaseLabels, lines_append_gap, List.filterMap_append, List.filterMap_cons]
  rfl

theorem releaseLabels_eq_nil_iff {s : Text} :
    releaseLabels s = [] ↔ ∀ line ∈ Text.lines s, isReleaseHeading line = false := by
  rw [releaseLabels, List.filterMap_eq_nil_iff]
  simp [isReleaseHeading]

/-- A part of a text above a gap ends where a line ends. -/
theorem opensLine_append_gap (a : Text) : Text.opensLine true (a ++ "\n\n".toList) = true := by
  rw [Text.opensLine_append]
  rfl

theorem IsLabel.ne_unreleasedLabel {version : Text} (h : IsLabel version) :
    version ≠ unreleasedLabel := by
  intro same
  exact absurd (h.chars 'U' (same ▸ List.mem_cons_self)) (by decide)

namespace Document

/-- The heading of the new section, with its date. -/
def releasedTitle (config : Config) (stamp : Text) : Text :=
  releaseHeading config.version ++ " ".toList ++ stamp

/-- The changelog that a release is meant to leave. -/
def released (d : Document) (config : Config) (stamp : Text) : Document where
  preamble := d.preamble
  unreleased := "\n\n".toList
  previous := config.version
  releases := releasedTitle config stamp ++ "\n\n".toList ++
    (d.releasedBody config ++ "\n\n".toList ++ d.releases)
  links := d.releasedLinks config

variable {d : Document} {config : Config} {stamp : Text}

theorem toText_released : (d.released config stamp).toText = d.release config stamp := by
  simp [released, releasedTitle, release, toText, upper]

/-- The lines of a changelog after a release: those of the new section stand between an empty line
below its heading and an empty line above the older releases. -/
theorem lines_release (d : Document) (config : Config) (stamp : Text) :
    Text.lines (d.release config stamp) =
      Text.lines (d.preamble ++ unreleasedHeading) ++
        [] :: (Text.lines (releasedTitle config stamp) ++
          [] :: (Text.lines (d.releasedBody config) ++
            [] :: Text.lines (d.releases ++ d.releasedLinks config))) := by
  have text : d.release config stamp =
      d.preamble ++ unreleasedHeading ++ "\n\n".toList ++
        (releasedTitle config stamp ++ "\n\n".toList ++
          (d.releasedBody config ++ "\n\n".toList ++
            (d.releases ++ d.releasedLinks config))) := by
    simp [release, releasedTitle]
  rw [text, lines_append_gap, lines_append_gap, lines_append_gap]

section
variable (version : IsLabel config.version) (inline : Text.isInline stamp)
include version inline

theorem isInline_releasedTitle : Text.isInline (releasedTitle config stamp) := by
  have space : Text.isInline " ".toList := by decide
  rw [releasedTitle, Text.isInline_append, Text.isInline_append]
  exact ⟨⟨version.isInline_releaseHeading, space⟩, inline⟩

theorem lines_releasedTitle :
    Text.lines (releasedTitle config stamp) = [releasedTitle config stamp] :=
  Text.lines_of_not_mem (isInline_releasedTitle version inline).not_mem

omit inline in
theorem releaseLabel?_releasedTitle :
    releaseLabel? (releasedTitle config stamp) = some config.version := by
  refine releaseLabel?_eq_some_iff.2 ⟨version, ?_⟩
  rw [releasedTitle, List.append_assoc]
  exact List.prefix_append _ _

omit inline in
theorem isUnreleasedHeading_releasedTitle :
    isUnreleasedHeading (releasedTitle config stamp) = false := by
  cases heading : isUnreleasedHeading (releasedTitle config stamp) with
  | false => rfl
  | true =>
      obtain ⟨rest, text⟩ := Text.startsWith_iff.1 heading
      have begins : releaseHeading config.version <+: unreleasedHeading ++ rest := by
        rw [text]
        exact (releaseLabel?_eq_some_iff.1 (releaseLabel?_releasedTitle version)).2
      exact absurd begins version.not_prefix_unreleasedHeading

theorem labels_released :
    (d.released config stamp).labels =
      config.version :: (releaseLabels (d.releasedBody config) ++ d.labels) := by
  have title : releaseLabels (releasedTitle config stamp) = [config.version] := by
    rw [releaseLabels, lines_releasedTitle version inline, List.filterMap_cons,
      releaseLabel?_releasedTitle version]
    rfl
  rw [labels, released, releaseLabels_append_gap, releaseLabels_append_gap, title]
  rfl

theorem labels_released_of_undivided
    (undivided : ∀ line ∈ Text.lines (d.releasedBody config), isDividing line = false) :
    (d.released config stamp).labels = config.version :: d.labels := by
  have none : releaseLabels (d.releasedBody config) = [] := by
    apply releaseLabels_eq_nil_iff.2
    intro line member
    exact (isDividing_eq_false_iff.1 (undivided line member)).2.2
  rw [labels_released version inline, none, List.nil_append]

theorem endedLines_releases_released :
    Text.endedLines true (d.released config stamp).releases =
      releasedTitle config stamp :: [] ::
        (Text.lines (d.releasedBody config) ++ [] :: Text.endedLines true d.releases) := by
  have whole : Text.lines (d.released config stamp).releases =
      (releasedTitle config stamp :: [] :: (Text.lines (d.releasedBody config) ++ [[]])) ++
        Text.lines d.releases := by
    rw [released, lines_append_gap, lines_append_gap, lines_releasedTitle version inline]
    simp
  rw [Text.endedLines, Text.linesFrom_true, whole,
    List.dropLast_append_of_ne_nil (Text.lines_ne_nil _)]
  simp [Text.endedLines]

theorem firstLine_releases_released :
    Text.firstLine (d.released config stamp).releases = releasedTitle config stamp := by
  rw [released, List.append_assoc,
    Text.firstLine_append_of_not_mem (isInline_releasedTitle version inline).not_mem]
  exact List.append_nil _

end

theorem opensLine_releases_released (ends : Text.opensLine true d.releases = true) :
    Text.opensLine true (d.released config stamp).releases = true := by
  rw [released, Text.opensLine_append, opensLine_append_gap, Text.opensLine_append,
    opensLine_append_gap]
  exact ends

/-! ## The link table -/

theorem isUnreleasedLink_released (h : isUnreleasedLink (Text.firstLine d.links) = true) :
    isUnreleasedLink (Text.firstLine (d.released config stamp).links) = true := by
  have mark : '\n' ∉ unreleasedLinkMark := by decide
  refine Text.startsWith_iff.2 ((Text.prefix_firstLine_iff mark).2 ?_)
  have table : (d.released config stamp).links =
      releaseLinks config.repository d.previous config.version ++ Text.afterFirstLine d.links :=
    updateLinks_eq h _ _ _
  have opening : unreleasedLinkMark <+: "[Unreleased]: ".toList := by decide
  rw [table]
  unfold releaseLinks
  simp only [List.append_assoc]
  exact opening.trans (List.prefix_append _ _)

theorem definitions_released (wf : d.WellFormed) (web : Text.isWord config.repository)
    (version : IsLabel config.version) :
    (d.released config stamp).definitions =
      unreleasedDefinition config.repository config.version ::
        compareDefinition config.repository d.previous config.version :: d.definitions.tail :=
  linkDefinitions_updateLinks wf.links web wf.isLabel_previous.isWord version

/-! ## Other readings -/

theorem opensLine_upper_released (wf : d.WellFormed) :
    Text.opensLine true (d.released config stamp).upper = true := by
  have preamble : Text.opensLine true (d.released config stamp).preamble = true := wf.preamble_ends
  rw [opensLine_upper preamble rfl]
  exact opensLine_releases_released wf.releases_end

/-- A link of the unreleased changes in the new section adds its own definition to the table. -/
theorem not_isUnreleasedLink_of_ofText {new : Document} (wf : d.WellFormed)
    (read : ofText (d.release config stamp) = .ok new)
    (count : new.definitions.length = (d.released config stamp).definitions.length) :
    ∀ line ∈ Text.endedLines true (d.released config stamp).upper,
      isUnreleasedLink line = false := by
  intro line member
  cases link : isUnreleasedLink line with
  | false => rfl
  | true =>
      obtain ⟨upper, _, table, _⟩ := ofText_eq_ok_iff_cuts.1 read
      rw [← toText_released] at table
      -- the table that is found begins at a link above the one that was written, so it defines
      -- that link and then everything that the written table defines
      obtain ⟨rest, below, restEnds⟩ :=
        afterFirstLine_of_cutLinkTable (opensLine_upper_released wf) ⟨line, member, link⟩ table
      have first := (cutLinkTable_eq_ok_iff.1 table).2.2.2
      obtain ⟨url, _, _, definitions⟩ := linkDefinitions_of_isUnreleasedLink first
      have ownLink : isUnreleasedLink (Text.firstLine (d.released config stamp).links) = true :=
        isUnreleasedLink_released wf.links
      obtain ⟨_, _, own, _⟩ := linkDefinitions_of_isUnreleasedLink ownLink
      have atLeast := length_linkDefinitions_append restEnds own
      rw [← below] at atLeast
      have longer : new.definitions.length =
          (linkDefinitions false (Text.afterFirstLine new.links)).length + 1 :=
        congrArg List.length definitions
      have same : (d.released config stamp).definitions.length =
          (linkDefinitions true (d.released config stamp).links).length := rfl
      omega

theorem cutLinkTable_release (wf : d.WellFormed)
    (noLink : ∀ line ∈ Text.endedLines true (d.released config stamp).upper,
      isUnreleasedLink line = false) :
    cutLinkTable (d.release config stamp) =
      .ok ((d.released config stamp).upper, (d.released config stamp).links) :=
  cutLinkTable_eq_ok_iff.2 ⟨toText_released, opensLine_upper_released wf, noLink,
    isUnreleasedLink_released wf.links⟩

/-- Reading either is misled by a link in the new section or finds the parts that were put
together. -/
theorem eq_released_of_ofText {new : Document} (wf : d.WellFormed)
    (version : IsLabel config.version) (inline : Text.isInline stamp)
    (read : ofText (d.release config stamp) = .ok new)
    (noLink : ∀ line ∈ Text.endedLines true (d.released config stamp).upper,
      isUnreleasedLink line = false) :
    new = d.released config stamp := by
  obtain ⟨upper, below, table, heading, _, sections, _⟩ := ofText_eq_ok_iff_cuts.1 read
  rw [cutLinkTable_release wf noLink] at table
  obtain ⟨rfl, links⟩ := Prod.mk.inj (Except.ok.inj table)
  have ownHeading : cutUnreleased (d.released config stamp).upper =
      .ok ((d.released config stamp).preamble,
        (d.released config stamp).unreleased ++ (d.released config stamp).releases) := by
    refine cutUnreleased_eq_ok_iff.2 ⟨?_, wf.preamble_ends, ?_⟩
    · simp [Document.upper]
    · intro line member
      exact (wf.preamble_lines line member).2
  rw [ownHeading] at heading
  obtain ⟨preamble, rfl⟩ := Prod.mk.inj (Except.ok.inj heading)
  have gap : ∀ line ∈ Text.endedLines false "\n\n".toList, isReleaseHeading line = false := by
    decide
  have ownSections : cutReleases false
      ((d.released config stamp).unreleased ++ (d.released config stamp).releases) =
        .ok (d.released config stamp).toSections := by
    refine cutReleases_eq_ok_iff.2 ⟨rfl, rfl, gap, ?_⟩
    rw [firstLine_releases_released version inline]
    exact releaseLabel?_releasedTitle version
  rw [ownSections] at sections
  have parts : new = { new.toSections with preamble := new.preamble, links := new.links } := rfl
  rw [parts, ← Except.ok.inj sections, ← preamble, ← links]

/-! ## The parts of a release -/

/-- The changelog follows an older one by a release of the version: the older one's unreleased
changes are gone, and it has the version in addition. -/
structure IsReleaseOf (new old : Document) (repository version : Text) : Prop where
  preamble : new.preamble = old.preamble
  body : new.body = []
  previous : new.previous = version
  labels : new.labels = version :: old.labels
  definitions : new.definitions =
    unreleasedDefinition repository version ::
      compareDefinition repository old.previous version :: old.definitions.tail

section
variable (wf : d.WellFormed) (web : Text.isWord config.repository)
  (version : IsLabel config.version) (inline : Text.isInline stamp)
include wf web version

theorem unreleasedLinks_released : (d.released config stamp).unreleasedLinks.length ≤ 1 := by
  obtain ⟨url, rest, _, definitions⟩ := linkDefinitions_of_isUnreleasedLink wf.links
  have old : d.definitions =
      ⟨unreleasedLabel, url⟩ :: linkDefinitions false (Text.afterFirstLine d.links) := definitions
  have once := wf.unreleasedLinks
  rw [unreleasedLinks, old] at once
  have other := version.ne_unreleasedLabel
  rw [unreleasedLinks, definitions_released wf web version, old]
  simpa [unreleasedDefinition, compareDefinition, other] using once

include inline

theorem wellFormed_released (fresh : config.version ∉ d.labels)
    (undivided : ∀ line ∈ Text.lines (d.releasedBody config), isDividing line = false) :
    (d.released config stamp).WellFormed := by
  exact {
    preamble_ends := wf.preamble_ends
    preamble_lines := wf.preamble_lines
    unreleased_ends := rfl
    unreleased_lines := by
      change ∀ line ∈ Text.endedLines false "\n\n".toList, isDividing line = false
      decide
    releases_end := opensLine_releases_released wf.releases_end
    releases_lines := by
      rw [endedLines_releases_released version inline]
      intro line member
      rcases List.mem_cons.1 member with rfl | member
      · exact ⟨rfl, isUnreleasedHeading_releasedTitle version⟩
      rcases List.mem_cons.1 member with rfl | member
      · exact ⟨rfl, rfl⟩
      rcases List.mem_append.1 member with body | member
      · obtain ⟨link, heading, _⟩ := isDividing_eq_false_iff.1 (undivided line body)
        exact ⟨link, heading⟩
      rcases List.mem_cons.1 member with rfl | member
      · exact ⟨rfl, rfl⟩
      · exact wf.releases_lines line member
    previous := by
      rw [firstLine_releases_released version inline]
      exact releaseLabel?_releasedTitle version
    links := isUnreleasedLink_released wf.links
    labels := by
      rw [labels_released_of_undivided version inline undivided, List.nodup_cons]
      exact ⟨fresh, wf.labels⟩
    unreleasedLinks := unreleasedLinks_released wf web version }

theorem isReleaseOf_released
    (undivided : ∀ line ∈ Text.lines (d.releasedBody config), isDividing line = false) :
    (d.released config stamp).IsReleaseOf d config.repository config.version where
  preamble := rfl
  body := rfl
  previous := rfl
  labels := labels_released_of_undivided version inline undivided
  definitions := definitions_released wf web version

/-- A release is read back as one unless its new section holds a line that divides. -/
theorem ofText_release_iff (fresh : config.version ∉ d.labels) :
    (∃ new, ofText (d.release config stamp) = .ok new ∧
      new.IsReleaseOf d config.repository config.version) ↔
        ∀ line ∈ Text.lines (d.releasedBody config), isDividing line = false := by
  constructor
  · rintro ⟨new, read, isRelease⟩
    -- links are excluded first: only then are the parts that are read the parts that were written
    have count : new.definitions.length = (d.released config stamp).definitions.length := by
      rw [isRelease.definitions, definitions_released wf web version]
    have noLink := not_isUnreleasedLink_of_ofText wf read count
    obtain rfl := eq_released_of_ofText wf version inline read noLink
    have readable := (ofText_eq_ok_iff.1 read).1
    have labels := isRelease.labels
    rw [labels_released version inline] at labels
    have none : releaseLabels (d.releasedBody config) = [] := by
      simpa using (List.cons.inj labels).2
    intro line member
    have inReleases : line ∈ Text.endedLines true (d.released config stamp).releases := by
      rw [endedLines_releases_released version inline]
      simp [member]
    obtain ⟨link, heading⟩ := readable.releases_lines line inReleases
    exact isDividing_eq_false_iff.2 ⟨link, heading, releaseLabels_eq_nil_iff.1 none line member⟩
  · intro undivided
    have readable := wellFormed_released wf web version inline fresh undivided
    exact ⟨_, ofText_eq_ok_iff.2 ⟨readable, toText_released⟩,
      isReleaseOf_released wf web version inline undivided⟩

omit inline in
/-- Only the moved lines of the body can divide the new section. -/
theorem forall_lines_releasedBody :
    (∀ line ∈ Text.lines (d.releasedBody config), isDividing line = false) ↔
      ∀ line ∈ movedLines d.body, isDividing line = false := by
  have later : ∀ line ∈ Text.linesFrom false d.body, isDividing line = false := by
    intro line member
    obtain ⟨whole, inUnreleased, begins⟩ := Text.exists_prefix_of_mem_linesFrom_trim member
    rw [Text.linesFrom_of_opensLine wf.unreleased_ends] at inUnreleased
    have undivided : isDividing whole = false := by
      rcases List.mem_append.1 inUnreleased with ended | last
      · exact wf.unreleased_lines whole ended
      · rw [List.mem_singleton.1 last]
        rfl
    cases divides : isDividing line with
    | false => rfl
    | true =>
        rw [isDividing_of_isPrefix begins divides] at undivided
        cases undivided
  have bullet : '\n' ∉ config.entry.bullet :=
    (Entry.isInline_bullet version.isWord.isInline).not_mem
  have link : '\n' ∉ config.entry.link := (Entry.isInline_link web.isInline).not_mem
  rw [releasedBody, forall_lines_appendPullLink link rfl Entry.isDividing_link]
  exact forall_lines_mergeBullet bullet rfl (by decide) Entry.isDividing_bullet later

end

/-- What a changelog does not mention is no label of it. -/
theorem not_mem_labels_of_ofText {version text : Text} (read : ofText text = .ok d)
    (fresh : mentionsRelease version text = false) : version ∉ d.labels := by
  intro member
  obtain ⟨_, line, inLines, heading⟩ := mem_releaseLabels_iff.1 member
  have inReleases : releaseHeading version <:+: d.releases :=
    heading.isInfix.trans (Text.infix_of_mem_lines inLines)
  have inText : d.releases <:+: text := by
    rw [← toText_of_ofText read]
    exact ⟨d.preamble ++ unreleasedHeading ++ d.unreleased, d.links, by simp [toText, upper]⟩
  rw [mentionsRelease_iff.2 (inReleases.trans inText)] at fresh
  cases fresh

end Document

/-! ## A sample -/

namespace Sample

/-- Version `2-2` is released in pull request 7 of the repository `r`. -/
def config : Config := { version := "2-2".toList, pullRequest := 7, repository := "r".toList }

/-- The day of this release. -/
def date : Date := ⟨2024, 2, 2, by decide⟩

/-- A changelog with one release. These changes stand below its unreleased heading, and these links
below the first one of its table. -/
def document (changes links : Text) : Document where
  preamble := []
  unreleased := changes
  previous := "1-1".toList
  releases := "## [1-1]\n".toList
  links := "[Unreleased]: x".toList ++ links

/-- The text of this changelog. -/
def changelog (changes links : Text) : Text :=
  "## [Unreleased]".toList ++ changes ++ "## [1-1]\n[Unreleased]: x".toList ++ links

/-- The link table after the release. -/
def releasedLinks (links : Text) : Text :=
  "[Unreleased]: r/2-2...main\n[2-2]: r/compare/1-1...2-2".toList ++ links

/-- The text after the release, if this becomes of the changes. -/
def released (body links : Text) : Text :=
  "## [Unreleased]\n\n## [2-2] 2024-02-02\n\n".toList ++ body ++ "\n\n## [1-1]\n".toList ++
    releasedLinks links

/-- Changes that are a single bullet. -/
def oneFix : Text := "\n* fix\n".toList

/-- What becomes of this bullet. -/
def releasedFix : Text :=
  "### Changes\n\n* chore: bump nearcore to 2 in [#7]\n\n* fix\n\n[#7]: r/pull/7".toList

end Sample

/-! ## Rendering -/

theorem render_eq_ok_iff {config : Config} {stamp content output : Text} :
    render config stamp content = .ok output ↔
      ∃ old, Document.ofText (Text.normalizeLineEndings content) = .ok old ∧
        old.release config stamp = output := by
  rw [render]
  cases Document.ofText (Text.normalizeLineEndings content) with
  | error error => simp [Except.map]
  | ok old => simp [Except.map]

theorem mentionsRelease_normalizeLineEndings {version : Text} (h : IsLabel version) (s : Text) :
    mentionsRelease version (Text.normalizeLineEndings s) = mentionsRelease version s := by
  have heading : releaseHeading version ≠ [] := List.cons_ne_nil _ _
  rw [Bool.eq_iff_iff, mentionsRelease_iff, mentionsRelease_iff,
    Text.infix_normalizeLineEndings_iff h.isInline_releaseHeading heading]

/-- A changelog that was rendered for a new version is read as its release exactly if no moved line
of the old body divides. -/
theorem render_isReleaseOf_iff {config : Config} {date : Date} {text output : Text}
    (valid : isVersion config.version = true) (web : Text.isWord config.repository)
    (fresh : mentionsRelease config.version text = false)
    (rendered : render config date.stamp text = .ok output) :
    ∃ old, Document.ofText (Text.normalizeLineEndings text) = .ok old ∧
      ((∃ new, Document.ofText output = .ok new ∧
          new.IsReleaseOf old config.repository config.version) ↔
        ∀ line ∈ movedLines old.body, isDividing line = false) := by
  have version := isLabel_of_isVersion valid
  obtain ⟨old, read, rfl⟩ := render_eq_ok_iff.1 rendered
  have wf := (Document.ofText_eq_ok_iff.1 read).1
  rw [← mentionsRelease_normalizeLineEndings version] at fresh
  have notYet := Document.not_mem_labels_of_ofText read fresh
  refine ⟨old, read, ?_⟩
  rw [Document.ofText_release_iff wf web version date.isWord_stamp.isInline notYet,
    Document.forall_lines_releasedBody wf web version]

theorem render_isReleaseOf_iff_one_fix :
    ∃ old, Document.ofText (Text.normalizeLineEndings (Sample.changelog Sample.oneFix [])) =
        .ok old ∧
      ((∃ new, Document.ofText (Sample.released Sample.releasedFix []) = .ok new ∧
          new.IsReleaseOf old "r".toList "2-2".toList) ↔
        ∀ line ∈ movedLines old.body, isDividing line = false) := by
  have valid : isVersion Sample.config.version = true := by decide
  have web : Text.isWord Sample.config.repository := by decide
  have fresh : mentionsRelease Sample.config.version (Sample.changelog Sample.oneFix []) =
      false := by decide +kernel
  have rendered : render Sample.config Sample.date.stamp (Sample.changelog Sample.oneFix []) =
      .ok (Sample.released Sample.releasedFix []) := by decide +kernel
  exact render_isReleaseOf_iff valid web fresh rendered

/-- A line that quotes an old heading, indented, is taken for that heading when it has been moved,
and the release is there twice. -/
theorem not_forall_render_isReleaseOf :
    ¬ ∀ (config : Config) (date : Date) (text output : Text),
      isVersion config.version = true → Text.isWord config.repository →
        mentionsRelease config.version text = false →
          render config date.stamp text = .ok output →
            ∃ old new, Document.ofText (Text.normalizeLineEndings text) = .ok old ∧
              Document.ofText output = .ok new ∧
                new.IsReleaseOf old config.repository config.version := by
  intro claim
  let text := Sample.changelog "\n\n    ## [1-1]\n\n".toList []
  let output := Sample.released
    "### Changes\n\n* chore: bump nearcore to 2 in [#7]\n\n## [1-1]\n\n[#7]: r/pull/7".toList []
  have valid : isVersion Sample.config.version = true := by decide
  have web : Text.isWord Sample.config.repository := by decide
  have fresh : mentionsRelease Sample.config.version text = false := by decide +kernel
  have rendered : render Sample.config Sample.date.stamp text = .ok output := by decide +kernel
  obtain ⟨_, _, _, read, _⟩ := claim Sample.config Sample.date text output valid web fresh rendered
  have twice : Document.ofText output = .error (.repeatedRelease "1-1".toList) := by
    decide +kernel
  rw [twice] at read
  cases read

end ReleaseLog
