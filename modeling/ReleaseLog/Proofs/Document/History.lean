import ReleaseLog.Proofs.Document.Release

/-!
# Releases one after the other

A release leaves an empty unreleased section, so nothing stands in the way of the next one: any
number of versions can be released one after the other, and each is compared with the one before it.
The versions of a history are listed like those of a changelog, newest first.
-/

namespace ReleaseLog

/-- A changelog rendered for one release after the other. -/
def renderAll (text : Text) : List (Config × Date) → Except ShapeError Text
  | [] => .ok text
  | (config, date) :: earlier => do
      let before ← renderAll text earlier
      render config date.stamp before

/-- The links that compare each version with the one before it, down to the first version after
`previous`. -/
def comparisons (repository previous : Text) : List Text → List LinkDefinition
  | [] => []
  | version :: earlier =>
      compareDefinition repository (earlier.headD previous) version ::
        comparisons repository previous earlier

/-! ## Line endings -/

section
variable {c : Char} {body bullet content link repository : Text}

theorem not_mem_of_findLine {p : Text → Bool} {s : Text} {cut : Text.LineCut} (absent : c ∉ s)
    (found : Text.findLine p true s = some cut) :
    c ∉ cut.before ∧ c ∉ cut.line ∧ c ∉ cut.after := by
  rw [← Text.toText_of_findLine found] at absent
  simpa [Text.LineCut.toText, and_assoc] using absent

theorem not_mem_mergeBullet (written : c ∉ changesHeading ++ "\n".toList) (old : c ∉ body)
    (new : c ∉ bullet) : c ∉ mergeBullet body bullet := by
  simp only [List.mem_append, not_or] at written
  obtain ⟨heading, newline⟩ := written
  have gap : c ∉ "\n\n".toList := by simpa using newline
  unfold mergeBullet
  split
  · simp only [List.mem_append, not_or]
    exact ⟨⟨heading, gap⟩, new⟩
  · split
    · rename_i cut found
      obtain ⟨before, line, after⟩ := not_mem_of_findLine old found
      have rest : c ∉ Text.trimStart cut.after := by
        intro member
        exact after ((Text.trimStart_suffix _).subset member)
      simp only [List.mem_append, not_or]
      exact ⟨⟨⟨⟨⟨before, line⟩, gap⟩, new⟩, newline⟩, rest⟩
    · simp only [List.mem_append, not_or]
      exact ⟨⟨⟨⟨heading, gap⟩, new⟩, gap⟩, old⟩

theorem not_mem_appendPullLink (written : c ∉ "\n".toList) (old : c ∉ content)
    (new : c ∉ link) : c ∉ appendPullLink content link repository := by
  have gap : c ∉ "\n\n".toList := by simpa using written
  unfold appendPullLink
  split
  · rename_i cut found
    rw [← Text.toText_of_findLastLine found, Text.LineCut.toText] at old
    simp only [List.mem_append, not_or] at old ⊢
    obtain ⟨⟨before, line⟩, after⟩ := old
    exact ⟨⟨⟨⟨before, line⟩, written⟩, new⟩, after⟩
  · simp only [List.mem_append, not_or]
    exact ⟨⟨old, gap⟩, new⟩

end

namespace Document

variable {d : Document} {config : Config} {stamp : Text}

theorem trim_subset (s : Text) : Text.trim s ⊆ s := by
  intro c member
  have inStart : c ∈ Text.trimStart s := (Text.trimEnd_isPrefix _).subset member
  exact (Text.trimStart_suffix s).subset inStart

/-- A release brings no other line ending into the changelog. -/
theorem not_mem_release (wf : d.WellFormed) (repository : '\r' ∉ config.repository)
    (version : IsLabel config.version) (inline : Text.isInline stamp) (uniform : '\r' ∉ d.toText) :
    '\r' ∉ d.release config stamp := by
  have absent : ∀ {s : Text}, Text.isInline s → '\r' ∉ s := by
    intro s line member
    exact (line _ member).1 rfl
  simp only [toText, upper, List.mem_append, not_or, and_assoc] at uniform
  obtain ⟨preamble, heading, unreleased, releases, links⟩ := uniform
  have body : '\r' ∉ d.body := by
    intro member
    exact unreleased (trim_subset _ member)
  have link : '\r' ∉ config.entry.link := by
    have citation := absent (isInline_pullCitation config.pullRequest)
    have number := absent (isWord_ofNat config.pullRequest).isInline
    have text : config.entry.link = pullCitation config.pullRequest ++ ": ".toList ++
        config.repository ++ "/pull/".toList ++ Text.ofNat config.pullRequest := rfl
    have colon : '\r' ∉ ": ".toList := by decide
    have pull : '\r' ∉ "/pull/".toList := by decide
    rw [text]
    simp only [List.mem_append, not_or, and_assoc]
    exact ⟨citation, colon, repository, pull, number⟩
  have merged : '\r' ∉ d.releasedBody config :=
    not_mem_appendPullLink (by decide)
      (not_mem_mergeBullet (by decide) body
        (absent (Entry.isInline_bullet version.isWord.isInline))) link
  have rest : '\r' ∉ Text.afterFirstLine d.links := by
    intro member
    refine links ?_
    rw [← Text.firstLine_append_afterFirstLine d.links]
    exact List.mem_append_right _ member
  have table : '\r' ∉ d.releasedLinks config := by
    have new := absent version.isWord.isInline
    have old := absent wf.isLabel_previous.isWord.isInline
    rw [releasedLinks, updateLinks_eq wf.links]
    unfold releaseLinks
    simp only [List.mem_append, not_or, and_assoc]
    exact ⟨by decide, repository, by decide, new, by decide, new, by decide, repository,
      by decide, old, by decide, new, rest⟩
  have gap : '\r' ∉ "\n\n".toList := by decide
  have space : '\r' ∉ " ".toList := by decide
  simp only [release, List.mem_append, not_or, and_assoc]
  exact ⟨preamble, heading, gap, absent version.isInline_releaseHeading, space, absent inline, gap,
    merged, gap, releases, table⟩

/-! ## One release more -/

/-- The changelog follows an older one by releases of these versions, newest first, and the next
release can be made. -/
structure IsHistoryOf (new old : Document) (repository : Text) (versions : List Text) : Prop where
  wellFormed : new.WellFormed
  uniform : '\r' ∉ new.toText
  body : new.body = []
  preamble : new.preamble = old.preamble
  previous : new.previous = versions.headD old.previous
  labels : new.labels = versions ++ old.labels
  newest : ∀ version ∈ versions.head?,
    new.definitions.head? = some (unreleasedDefinition repository version)
  older : new.definitions.tail =
    comparisons repository old.previous versions ++ old.definitions.tail
  releases : old.releases <:+ new.releases

theorem isHistoryOf_nil {repository : Text} (wf : d.WellFormed) (uniform : '\r' ∉ d.toText)
    (body : d.body = []) : d.IsHistoryOf d repository [] where
  wellFormed := wf
  uniform := uniform
  body := body
  preamble := rfl
  previous := rfl
  labels := rfl
  newest := by simp
  older := rfl
  releases := List.suffix_rfl

/-- Where nothing is unreleased, no line is moved that could divide the new section. -/
theorem forall_lines_releasedBody_of_body_eq_nil (wf : d.WellFormed) (body : d.body = [])
    (web : Text.isWord config.repository) (version : IsLabel config.version) :
    ∀ line ∈ Text.lines (d.releasedBody config), isDividing line = false := by
  rw [forall_lines_releasedBody wf web version, body]
  decide

theorem IsHistoryOf.released {new : Document} {versions : List Text}
    (history : new.IsHistoryOf d config.repository versions) (web : Text.isWord config.repository)
    (version : IsLabel config.version) (inline : Text.isInline stamp)
    (fresh : config.version ∉ versions ++ d.labels) :
    (new.released config stamp).IsHistoryOf d config.repository (config.version :: versions) := by
  have wf := history.wellFormed
  have undivided := forall_lines_releasedBody_of_body_eq_nil wf history.body web version
  have isRelease : (new.released config stamp).IsReleaseOf new config.repository config.version :=
    isReleaseOf_released wf web version inline undivided
  rw [← history.labels] at fresh
  exact {
    wellFormed := wellFormed_released wf web version inline fresh undivided
    uniform := by
      rw [toText_released]
      have repository : '\r' ∉ config.repository := fun member => (web.isInline _ member).1 rfl
      exact not_mem_release wf repository version inline history.uniform
    body := isRelease.body
    preamble := isRelease.preamble.trans history.preamble
    previous := isRelease.previous
    labels := by rw [isRelease.labels, history.labels, List.cons_append]
    newest := by
      rintro _ ⟨⟩
      rw [isRelease.definitions, List.head?_cons]
    older := by
      rw [isRelease.definitions, List.tail_cons, history.older, history.previous]
      rfl
    releases := history.releases.trans
      ((List.suffix_append _ _).trans (List.suffix_append _ _)) }

end Document

/-! ## A whole history -/

theorem renderAll_cons_of_ok {text before : Text} {config : Config} {date : Date}
    {earlier : List (Config × Date)} (h : renderAll text earlier = .ok before) :
    renderAll text ((config, date) :: earlier) = render config date.stamp before := by
  rw [renderAll, h]
  rfl

/-- Nothing can go wrong in a history of distinct new versions. -/
theorem exists_isHistoryOf {repository : Text} {d : Document} {history : List (Config × Date)}
    (start : d.IsHistoryOf d repository []) (web : Text.isWord repository)
    (same : ∀ release ∈ history, release.1.repository = repository)
    (labels : ∀ release ∈ history, IsLabel release.1.version)
    (distinct : (history.map (·.1.version)).Nodup)
    (fresh : ∀ release ∈ history, release.1.version ∉ d.labels) :
    ∃ new : Document, renderAll d.toText history = .ok new.toText ∧
      new.IsHistoryOf d repository (history.map (·.1.version)) := by
  -- on the history without its newest release: that one is made last
  induction history with
  | nil => exact ⟨d, rfl, start⟩
  | cons release earlier ih =>
      obtain ⟨config, date⟩ := release
      rw [List.forall_mem_cons] at same labels fresh
      obtain ⟨rfl, same⟩ := same
      obtain ⟨version, labels⟩ := labels
      obtain ⟨notOld, fresh⟩ := fresh
      obtain ⟨notLater, distinct⟩ := List.nodup_cons.1 distinct
      obtain ⟨before, rendered, isHistory⟩ := ih same labels distinct fresh
      have inline := date.isWord_stamp.isInline
      have notYet : config.version ∉ earlier.map (·.1.version) ++ d.labels := by
        intro member
        rcases List.mem_append.1 member with later | old
        · exact notLater later
        · exact notOld old
      refine ⟨before.released config date.stamp, ?_, isHistory.released web version inline notYet⟩
      have read : Document.ofText (Text.normalizeLineEndings before.toText) = .ok before := by
        rw [Text.normalizeLineEndings_of_not_mem isHistory.uniform, Document.ofText_eq_ok_iff]
        exact ⟨isHistory.wellFormed, rfl⟩
      rw [renderAll_cons_of_ok rendered, render_eq_ok_iff]
      exact ⟨before, read, Document.toText_released.symm⟩

/-- Releases chain: from a changelog with nothing unreleased, any distinct versions that it does not
mention can be released one after the other. -/
theorem renderAll_chains {repository text : Text} {d : Document}
    {history : List (Config × Date)} (uniform : '\r' ∉ text)
    (read : Document.ofText text = .ok d) (empty : d.body = []) (web : Text.isWord repository)
    (same : ∀ release ∈ history, release.1.repository = repository)
    (valid : ∀ release ∈ history, isVersion release.1.version = true)
    (distinct : (history.map (·.1.version)).Nodup)
    (fresh : ∀ release ∈ history, mentionsRelease release.1.version text = false) :
    ∃ output new, renderAll text history = .ok output ∧ Document.ofText output = .ok new ∧
      new.labels = history.map (·.1.version) ++ d.labels ∧
      (∀ newest ∈ (history.map (·.1.version)).head?,
        new.definitions = unreleasedDefinition repository newest ::
          (comparisons repository d.previous (history.map (·.1.version)) ++
            d.definitions.tail)) ∧
      new.preamble = d.preamble ∧ d.releases <:+ new.releases := by
  obtain ⟨wf, rfl⟩ := Document.ofText_eq_ok_iff.1 read
  obtain ⟨new, rendered, isHistory⟩ := exists_isHistoryOf
    (Document.isHistoryOf_nil wf uniform empty) web same
    (fun release member => isLabel_of_isVersion (valid release member)) distinct
    (fun release member => Document.not_mem_labels_of_ofText read (fresh release member))
  refine ⟨new.toText, new, rendered, ?_, isHistory.labels, ?_, isHistory.preamble,
    isHistory.releases⟩
  · exact Document.ofText_eq_ok_iff.2 ⟨isHistory.wellFormed, rfl⟩
  · intro newest head
    obtain ⟨_, definitions⟩ := List.head?_eq_some_iff.1 (isHistory.newest newest head)
    rw [← isHistory.older, definitions, List.tail_cons]

theorem renderAll_chains_two :
    ∃ output new, renderAll (Sample.changelog "\n".toList [])
        [({ version := "3-3".toList, pullRequest := 9, repository := "r".toList }, Date.epoch),
          ({ version := "2-2".toList, pullRequest := 8, repository := "r".toList }, Date.epoch)] =
          .ok output ∧
      Document.ofText output = .ok new ∧
      new.labels = ["3-3".toList, "2-2".toList] ++ releaseLabels "## [1-1]\n".toList ∧
      (∀ newest ∈ ["3-3".toList, "2-2".toList].head?,
        new.definitions = unreleasedDefinition "r".toList newest ::
          (comparisons "r".toList "1-1".toList ["3-3".toList, "2-2".toList] ++
            (linkDefinitions true "[Unreleased]: x".toList).tail)) ∧
      new.preamble = [] ∧ "## [1-1]\n".toList <:+ new.releases := by
  let d := Sample.document "\n".toList []
  have uniform : '\r' ∉ Sample.changelog "\n".toList [] := by decide
  have read : Document.ofText (Sample.changelog "\n".toList []) = .ok d := by decide +kernel
  exact renderAll_chains uniform read (by decide) (by decide) (by decide) (by decide) (by decide)
    (by decide)

end ReleaseLog
