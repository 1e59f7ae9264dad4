import ReleaseLog.Proofs.Document.Edits
import ReleaseLog.Proofs.Document.Outline

/-!
# What else stands on the line of the unreleased heading

The unreleased heading is known by how its line begins, and the body of the section begins right
behind it. So the body consists of the lines below the heading only if nothing else is written on
the line of the heading; what is written there gets into the body, and with a release into the new
section (`Document.ofText_isBare_iff`).
-/

namespace ReleaseLog

variable {body bullet link repository content below suffix : Text}

/-! ## Sizes and first lines of what is put into a body -/

theorem length_appendPullLink (content link repository : Text) :
    (appendPullLink content link repository).length =
      content.length + link.length +
        if lastReference? repository content = none then 2 else 1 := by
  cases found : lastReference? repository content with
  | none =>
      rw [appendPullLink_of_none found, if_pos rfl]
      simp
      omega
  | some cut =>
      rw [appendPullLink_of_some found, if_neg nofun, ← Text.toText_of_findLastLine found,
        Text.LineCut.toText]
      simp
      omega

theorem firstLine_appendPullLink (content link repository : Text) :
    Text.firstLine (appendPullLink content link repository) = Text.firstLine content := by
  cases found : lastReference? repository content with
  | none =>
      have text : content ++ "\n\n".toList ++ link = content ++ '\n' :: '\n' :: link := by simp
      rw [appendPullLink_of_none found, text, Text.firstLine_append_newline]
  | some cut =>
      have whole := Text.LineCut.IsWhole.of_findLastLine found
      have text : cut.before ++ cut.line ++ "\n".toList ++ link ++ cut.after =
          (cut.before ++ cut.line) ++ '\n' :: (link ++ cut.after) := by simp
      rw [appendPullLink_of_some found, text, Text.firstLine_append_newline,
        whole.firstLine_before_append_line, Text.toText_of_findLastLine found]

theorem firstLine_mergeBullet_of_some {cut : Text.LineCut}
    (found : Text.findLine isChangesHeading true body = some cut) :
    Text.firstLine (mergeBullet body bullet) = Text.firstLine body := by
  have nonempty : body ≠ [] := by
    rintro rfl
    cases found
  have whole := Text.LineCut.IsWhole.of_findLine found
  have text : mergeBullet body bullet = (cut.before ++ cut.line) ++
      '\n' :: '\n' :: (bullet ++ '\n' :: Text.trimStart cut.after) := by
    simp [mergeBullet, nonempty, found]
  rw [text, Text.firstLine_append_newline, whole.firstLine_before_append_line,
    Text.toText_of_findLine found]

theorem firstLine_mergeBullet_of_none
    (missing : Text.findLine isChangesHeading true body = none) :
    Text.firstLine (mergeBullet body bullet) = changesHeading := by
  have inline : '\n' ∉ changesHeading := by decide
  by_cases empty : body = []
  · subst empty
    have text : mergeBullet [] bullet = changesHeading ++ '\n' :: '\n' :: bullet := rfl
    rw [text, Text.firstLine_append_newline, Text.firstLine_of_not_mem inline]
  · have text : mergeBullet body bullet =
        changesHeading ++ '\n' :: '\n' :: (bullet ++ '\n' :: '\n' :: body) := by
      simp [mergeBullet, empty, missing]
    rw [text, Text.firstLine_append_newline, Text.firstLine_of_not_mem inline]

/-- Nothing that is written gets lost or is written twice when an entry is put into a body. -/
theorem length_ink_appendPullLink (body bullet link repository : Text) :
    (Text.ink (appendPullLink (mergeBullet body bullet) link repository)).length =
      (Text.ink (newEntry body bullet)).length + (Text.ink body).length +
        (Text.ink link).length := by
  obtain ⟨front, gap, back, merged, dark, linked⟩ :=
    exists_appendPullLink (mergeBullet body bullet) link repository
  have added : (Text.ink (mergeBullet body bullet)).length =
      (Text.ink (newEntry body bullet)).length + (Text.ink body).length := by
    rcases mergeBullet_cases body bullet with
      ⟨above, below, text, entry, put⟩ | ⟨entry, ⟨rfl, put⟩ | put⟩
    · rw [put, entry, text]
      simp
      omega
    · rw [put]
      rfl
    · rw [put]
      simp
  rw [merged] at added
  rw [linked]
  simp only [Text.ink_append, List.length_append, dark, List.length_nil] at added ⊢
  omega

theorem lastReference?_append_newline_eq_none_iff {a b : Text} :
    lastReference? repository (a ++ '\n' :: b) = none ↔
      lastReference? repository a = none ∧ lastReference? repository b = none := by
  rw [lastReference?_append_newline]
  simp [and_comm]

/-! ## A first line more or less -/

namespace Text

/-- A line in front of a text, if something is written on it, keeps the text from being trimmed in
front. -/
theorem trimStart_afterFirstLine_trim (inline : '\n' ∉ suffix) (dark : ¬ IsGap suffix) :
    trimStart (afterFirstLine (trim (suffix ++ '\n' :: below))) = trim below := by
  obtain ⟨gap, _, whole⟩ := exists_append_trimStart suffix
  have short : '\n' ∉ trimStart suffix := by
    intro member
    apply inline
    rw [whole]
    exact List.mem_append_right gap member
  rw [trim, trimStart_append_of_not_isGap dark]
  by_cases empty : IsGap below
  · have newline : IsGap ('\n' :: below) := List.forall_mem_cons.2 ⟨rfl, empty⟩
    have bare : afterFirstLine (trimEnd (trimStart suffix)) = [] := by
      have trimmed : '\n' ∉ trimEnd (trimStart suffix) := fun member =>
        short ((trimEnd_isPrefix _).subset member)
      have cut := afterFirstLine_append trimmed (b := []) rfl
      rwa [List.append_nil] at cut
    rw [trimEnd_append_of_isGap _ newline, bare, trim, trimStart_of_isGap empty]
    rfl
  · have written : ¬ IsGap ('\n' :: below) := fun gap => empty (List.forall_mem_cons.1 gap).2
    have newline : IsGap ['\n'] := by decide
    rw [trimEnd_append_of_not_isGap _ written, ← List.singleton_append,
      trimEnd_append_of_not_isGap _ empty, afterFirstLine_append short rfl,
      trimStart_append_of_isGap newline, trimStart_trimEnd, trim]

end Text

/-- A body that begins with the heading of its changes keeps it, with the bullet below. -/
theorem mergeBullet_of_firstLine (heading : isChangesHeading (Text.firstLine body) = true) :
    mergeBullet body bullet = Text.firstLine body ++ "\n\n".toList ++ bullet ++
      '\n' :: Text.trimStart (Text.afterFirstLine body) := by
  have found : Text.findLine isChangesHeading true body =
      some ⟨[], Text.firstLine body, Text.afterFirstLine body⟩ := by
    have none : ∀ line ∈ Text.endedLines true [], isChangesHeading line = false := nofun
    exact Text.findLine_append rfl none heading
  have nonempty : body ≠ [] := by
    rintro rfl
    cases heading
  simp [mergeBullet, nonempty, found]

/-- Under a heading that was there, one line end less stands between the bullet and the rest. -/
theorem appendPullLink_ne_of_none (missing : Text.findLine isChangesHeading true body = none) :
    appendPullLink (changesHeading ++ "\n\n".toList ++ bullet ++ '\n' :: body) link repository ≠
      appendPullLink (mergeBullet body bullet) link repository := by
  intro same
  have sizes := congrArg List.length same
  rw [length_appendPullLink, length_appendPullLink] at sizes
  have blank : lastReference? repository [] = none := rfl
  by_cases empty : body = []
  · subst empty
    have merged : mergeBullet [] bullet = changesHeading ++ "\n\n".toList ++ bullet := rfl
    simp only [merged, lastReference?_append_newline_eq_none_iff, blank, and_true] at sizes
    simp at sizes
  · have merged : mergeBullet body bullet =
        changesHeading ++ "\n\n".toList ++ bullet ++ '\n' :: ([] ++ '\n' :: body) := by
      simp [mergeBullet, empty, missing]
    simp only [merged, lastReference?_append_newline_eq_none_iff, blank, true_and] at sizes
    simp at sizes

/-- A line on which something is written makes a difference to a body that it stands above, even if
it is a heading of changes, which a release writes where it finds none. -/
theorem isGap_of_appendPullLink_eq (inline : '\n' ∉ suffix)
    (same : appendPullLink (mergeBullet (Text.trim (suffix ++ '\n' :: below)) bullet) link
        repository =
      appendPullLink (mergeBullet (Text.trim below) bullet) link repository) :
    Text.IsGap suffix := by
  by_contra dark
  have written : 0 < (Text.ink suffix).length :=
    List.length_pos_iff.2 fun empty => dark (Text.ink_eq_nil_iff.1 empty)
  have entries : (Text.ink (newEntry (Text.trim (suffix ++ '\n' :: below)) bullet)).length <
      (Text.ink (newEntry (Text.trim below) bullet)).length := by
    have sizes := congrArg (fun text => (Text.ink text).length) same
    simp only [length_ink_appendPullLink, Text.ink_trim, Text.ink_append, Text.ink_newline,
      List.length_append] at sizes
    omega
  -- Only an entry without a heading is shorter, so the body must have brought one of its own.
  cases own : Text.findLine isChangesHeading true (Text.trim (suffix ++ '\n' :: below)) with
  | none =>
      rw [newEntry_of_none own] at entries
      cases other : Text.findLine isChangesHeading true (Text.trim below) with
      | none => simp [newEntry_of_none other] at entries
      | some cut =>
          simp only [newEntry_of_some other, Text.ink_append, List.length_append] at entries
          omega
  | some cut =>
      rw [newEntry_of_some own] at entries
      cases other : Text.findLine isChangesHeading true (Text.trim below) with
      | some cut => simp [newEntry_of_some other] at entries
      | none =>
          have first := congrArg Text.firstLine same
          rw [firstLine_appendPullLink, firstLine_appendPullLink,
            firstLine_mergeBullet_of_some own, firstLine_mergeBullet_of_none other] at first
          have heading : isChangesHeading
              (Text.firstLine (Text.trim (suffix ++ '\n' :: below))) = true := by
            rw [first]
            rfl
          rw [mergeBullet_of_firstLine heading, first,
            Text.trimStart_afterFirstLine_trim inline dark] at same
          exact appendPullLink_ne_of_none other same

/-! ## The heading alone on its line -/

namespace Outline

variable {outline : Outline} {config : Config} {stamp : Text}

/-- What else stands on the line of the unreleased heading. -/
def remark (outline : Outline) : Text := outline.heading.drop unreleasedHeading.length

/-- Nothing else is written on the line of the unreleased heading. -/
def IsBare (outline : Outline) : Prop := Text.IsGap outline.remark

/-- The lines of the changelog, with the unreleased heading alone on its line. -/
def bare (outline : Outline) : Outline := { outline with heading := unreleasedHeading }

theorem body_toDocument (outline : Outline) :
    outline.toDocument.body =
      Text.trim (outline.remark ++ '\n' :: Text.ofEndedLines outline.body) := rfl

theorem toDocument_bare (outline : Outline) :
    outline.bare.toDocument =
      { outline.toDocument with unreleased := '\n' :: Text.ofEndedLines outline.body } := rfl

theorem body_toDocument_eq_iff :
    outline.toDocument.body = Text.trim (Text.ofEndedLines outline.body) ↔ outline.IsBare := by
  rw [body_toDocument]
  constructor
  · intro same
    have written := congrArg Text.ink same
    simp only [Text.ink_trim, Text.ink_append, Text.ink_newline, List.append_left_eq_self]
      at written
    exact Text.ink_eq_nil_iff.1 written
  · intro gap
    rw [Text.trim, Text.trimStart_append_of_isGap gap]
    rfl

/-- What stands on the line of the heading is no part of the release if nothing is written there,
and only then. -/
theorem release_eq_iff (inline : '\n' ∉ outline.remark) :
    outline.toDocument.release config stamp = outline.bare.toDocument.release config stamp ↔
      outline.IsBare := by
  constructor
  · intro same
    have body : outline.toDocument.releasedBody config =
        outline.bare.toDocument.releasedBody config := by
      simpa [Document.release, toDocument_bare, Document.releasedLinks] using same
    exact isGap_of_appendPullLink_eq inline body
  · intro isBare
    have body : outline.toDocument.body = outline.bare.toDocument.body :=
      body_toDocument_eq_iff.2 isBare
    simp only [Document.release, Document.releasedBody, body]
    rfl

section
variable (inline : ∀ row ∈ outline.toLines, '\n' ∉ row)
include inline

theorem not_mem_remark : '\n' ∉ outline.remark := by
  intro member
  exact inline outline.heading (by simp [toLines]) (List.mem_of_mem_drop member)

theorem wellFormed_bare (wf : outline.toDocument.WellFormed) :
    outline.bare.toDocument.WellFormed := by
  have rows : Text.linesFrom false outline.toDocument.unreleased =
      Text.linesFrom false outline.bare.toDocument.unreleased := by
    have front := Text.linesFrom_of_not_mem (not_mem_remark inline)
    show Text.linesFrom false (outline.remark ++ '\n' :: Text.ofEndedLines outline.body) = _
    rw [Text.linesFrom_append_newline, front]
    rfl
  exact {
    wf with
    unreleased_ends := Text.opensLine_ofEndedLines outline.body
    unreleased_lines := by
      intro line member
      rw [Text.endedLines, ← rows] at member
      exact wf.unreleased_lines line member }

end

/-- With the heading alone on its line, the lines still make up a changelog. -/
theorem ofText_bare {rows : List Text} (parts : outline.HasParts) (rows_eq : outline.toLines = rows)
    (inline : ∀ row ∈ rows, '\n' ∉ row) (wf : outline.toDocument.WellFormed) :
    Document.ofText (Text.ofLines outline.bare.toLines) = .ok outline.bare.toDocument := by
  subst rows_eq
  have bareParts : outline.bare.HasParts := ⟨List.prefix_refl _, parts.newest, parts.links⟩
  exact Document.ofText_eq_ok_iff.2
    ⟨wellFormed_bare inline wf, toText_toDocument bareParts⟩

theorem toText_bare_subset (outline : Outline) :
    outline.bare.toDocument.toText ⊆ outline.toDocument.toText := by
  intro c member
  simp only [Document.toText, Document.upper, toDocument_bare, List.mem_append] at member ⊢
  rcases member with (((preamble | heading) | body) | releases) | links
  · exact .inl (.inl (.inl (.inl preamble)))
  · exact .inl (.inl (.inl (.inr heading)))
  · exact .inl (.inl (.inr (List.mem_append_right outline.remark body)))
  · exact .inl (.inr releases)
  · exact .inr links

end Outline

namespace Document

variable {s : Text} {d : Document}

theorem exists_outline_of_ofText (read : ofText s = .ok d) :
    ∃ outline, Outline.ofLines (Text.lines s) = .ok outline ∧ outline.toDocument = d := by
  rw [ofText_eq_ofLines] at read
  cases found : Outline.ofLines (Text.lines s) with
  | error error =>
      rw [found] at read
      cases read
  | ok outline =>
      rw [found] at read
      simp only [Except.bind, Outline.document?] at read
      split at read
      · cases read
      · exact ⟨outline, rfl, Except.ok.inj read⟩

/-- The body of a changelog is what else stands on the line of the unreleased heading and the lines
below it. It is these lines alone, and a release writes what it writes for them alone, exactly if
nothing else is written on that line. -/
theorem ofText_isBare_iff (read : ofText s = .ok d) :
    ∃ outline, Outline.ofLines (Text.lines s) = .ok outline ∧
      d.body = Text.trim (outline.remark ++ '\n' :: Text.ofEndedLines outline.body) ∧
      (d.body = Text.trim (Text.ofEndedLines outline.body) ↔ outline.IsBare) ∧
      ∀ config stamp text, Text.normalizeLineEndings text = s →
        (render config stamp text = render config stamp (Text.ofLines outline.bare.toLines) ↔
          outline.IsBare) := by
  obtain ⟨outline, found, rfl⟩ := exists_outline_of_ofText read
  obtain ⟨rows, parts⟩ := Outline.ofLines_eq_ok found
  obtain ⟨wf, whole⟩ := ofText_eq_ok_iff.1 read
  have inline : ∀ row ∈ Text.lines s, '\n' ∉ row := fun _ => Text.not_mem_of_mem_lines
  have bare := Outline.ofText_bare parts rows inline wf
  have bareText := toText_of_ofText bare
  refine ⟨outline, found, outline.body_toDocument, Outline.body_toDocument_eq_iff, ?_⟩
  rintro config stamp text rfl
  have uniform : '\r' ∉ Text.ofLines outline.bare.toLines := by
    rw [← bareText]
    intro member
    refine Text.not_mem_normalizeLineEndings text ?_
    rw [← whole]
    exact outline.toText_bare_subset member
  rw [← rows] at inline
  have released : outline.toDocument.release config stamp =
      outline.bare.toDocument.release config stamp ↔ outline.IsBare :=
    Outline.release_eq_iff (Outline.not_mem_remark inline)
  rw [render, render, Text.normalizeLineEndings_of_not_mem uniform, read, bare, ← released]
  simp only [Except.map, Except.ok.injEq]

/-- A tab behind the heading changes nothing. -/
theorem ofText_isBare_iff_tab :
    let s := Sample.changelog "\t\n* fix\n".toList []
    let d := Sample.document "\t\n* fix\n".toList []
    ofText s = .ok d ∧
      ∃ outline, Outline.ofLines (Text.lines s) = .ok outline ∧
        d.body = Text.trim (outline.remark ++ '\n' :: Text.ofEndedLines outline.body) ∧
        (d.body = Text.trim (Text.ofEndedLines outline.body) ↔ outline.IsBare) ∧
        ∀ config stamp text, Text.normalizeLineEndings text = s →
          (render config stamp text = render config stamp (Text.ofLines outline.bare.toLines) ↔
            outline.IsBare) := by
  intro s d
  have read : ofText s = .ok d := by decide +kernel
  exact ⟨read, ofText_isBare_iff read⟩

/-- A remark behind the heading becomes a line of the body. -/
theorem not_forall_body_eq_lines :
    ¬ ∀ s d, ofText s = .ok d → ∃ outline, Outline.ofLines (Text.lines s) = .ok outline ∧
      d.body = Text.trim (Text.ofEndedLines outline.body) := by
  intro claim
  let s := Sample.changelog " - pending\n* fix\n".toList []
  let d := Sample.document " - pending\n* fix\n".toList []
  have read : ofText s = .ok d := by decide +kernel
  obtain ⟨outline, found, body⟩ := claim s d read
  have lines : Outline.ofLines (Text.lines s) =
      .ok ⟨[], "## [Unreleased] - pending".toList, ["* fix".toList], ["## [1-1]".toList],
        ["[Unreleased]: x".toList]⟩ := by decide +kernel
  obtain rfl := Except.ok.inj (found.symm.trans lines)
  exact absurd body (by decide)

end Document
end ReleaseLog
