import ReleaseLog.Document.Basic
import ReleaseLog.Proofs.Checks
import ReleaseLog.Proofs.Document.Heading
import ReleaseLog.Proofs.Text.Search

/-!
# Well-formed changelogs

A changelog is well formed if its parts are what they are called: each part ends where a line ends,
no line of a part would have been taken for the beginning of another one, and neither a release nor
the link of the unreleased changes is written twice. Reading succeeds on exactly the texts of
well-formed changelogs and answers with the parts (`ofText_eq_ok_iff`), so a text has one
reading at most.
-/

namespace ReleaseLog

/-! ## Single cuts -/

theorem not_mem_unreleasedHeading : '\n' ∉ unreleasedHeading := by decide

theorem cutLinkTable_eq_ok_iff {s upper links : Text} :
    cutLinkTable s = .ok (upper, links) ↔
      upper ++ links = s ∧ Text.opensLine true upper = true ∧
        (∀ line ∈ Text.endedLines true upper, isUnreleasedLink line = false) ∧
        isUnreleasedLink (Text.firstLine links) = true := by
  constructor
  · intro read
    have text := append_of_cutLinkTable read
    simp only [cutLinkTable] at read
    split at read
    · rename_i cut found
      obtain ⟨rfl, rfl⟩ := Prod.mk.inj (Except.ok.inj read)
      obtain ⟨_, whole, holds, passed⟩ := Text.findLine_eq_some_iff.1 found
      refine ⟨text, whole.opens, passed, ?_⟩
      rw [whole.line]
      exact holds
    · cases read
  · rintro ⟨rfl, opens, passed, holds⟩
    rw [cutLinkTable, Text.findLine_append opens passed holds]
    simp [Text.firstLine_append_afterFirstLine]

theorem cutLinkTable_eq_error_iff {s : Text} {error : ShapeError} :
    cutLinkTable s = .error error ↔
      error = .missingLinkTable ∧ ∀ line ∈ Text.lines s, isUnreleasedLink line = false := by
  rw [← Text.linesFrom_true, ← Text.findLine_eq_none_iff, cutLinkTable]
  cases Text.findLine isUnreleasedLink true s <;> simp [eq_comm]

/-- If a line above a table defines the link of the unreleased changes, the table that is found
begins farther up. -/
theorem afterFirstLine_of_cutLinkTable {a b upper links : Text}
    (opens : Text.opensLine true a = true)
    (above : ∃ line ∈ Text.endedLines true a, isUnreleasedLink line = true)
    (read : cutLinkTable (a ++ b) = .ok (upper, links)) :
    ∃ rest, Text.afterFirstLine links = rest ++ b ∧ Text.opensLine false rest = true := by
  obtain ⟨line, member, link⟩ := above
  rcases Text.opensLine_iff.1 opens with ⟨rfl, _⟩ | ⟨t, rfl⟩
  · cases member
  · rw [Text.endedLines_append_newline] at member
    cases found : Text.findLine isUnreleasedLink true t with
    | none =>
        rw [Text.findLine_eq_none_iff.1 found line member] at link
        cases link
    | some cut =>
        obtain ⟨rfl, whole, holds, passed⟩ := Text.findLine_eq_some_iff.1 found
        have ends : Text.firstLine (cut.after ++ '\n' :: b) = [] := by
          rw [Text.firstLine_append_newline, whole.firstLine_after]
        have line : Text.firstLine (cut.line ++ (cut.after ++ '\n' :: b)) = cut.line := by
          rw [Text.firstLine_append_of_not_mem whole.not_mem_line, ends, List.append_nil]
        have here : cutLinkTable (cut.toText ++ ['\n'] ++ b) =
            .ok (cut.before, cut.line ++ (cut.after ++ '\n' :: b)) := by
          refine cutLinkTable_eq_ok_iff.2 ⟨?_, whole.opens, passed, ?_⟩
          · simp [Text.LineCut.toText]
          · rw [line]
            exact holds
        rw [here] at read
        obtain ⟨rfl, rfl⟩ := Prod.mk.inj (Except.ok.inj read)
        refine ⟨cut.after ++ ['\n'], ?_, ?_⟩
        · rw [Text.afterFirstLine_append whole.not_mem_line ends]
          simp
        · rw [Text.opensLine_append]
          rfl

theorem cutUnreleased_eq_ok_iff {s before below : Text} :
    cutUnreleased s = .ok (before, below) ↔
      before ++ unreleasedHeading ++ below = s ∧ Text.opensLine true before = true ∧
        ∀ line ∈ Text.endedLines true before, isUnreleasedHeading line = false := by
  constructor
  · intro read
    have text := append_of_cutUnreleased read
    simp only [cutUnreleased] at read
    split at read
    · rename_i cut found
      obtain ⟨rfl, rfl⟩ := Prod.mk.inj (Except.ok.inj read)
      obtain ⟨_, whole, _, passed⟩ := Text.findLine_eq_some_iff.1 found
      exact ⟨text, whole.opens, passed⟩
    · cases read
  · rintro ⟨rfl, opens, passed⟩
    have line : Text.firstLine (unreleasedHeading ++ below) =
        unreleasedHeading ++ Text.firstLine below :=
      Text.firstLine_append_of_not_mem not_mem_unreleasedHeading below
    have holds : isUnreleasedHeading (Text.firstLine (unreleasedHeading ++ below)) = true := by
      rw [line]
      exact Text.startsWith_iff.2 (List.prefix_append _ _)
    have rest : Text.firstLine below ++ Text.afterFirstLine (unreleasedHeading ++ below) =
        below := by
      have whole := Text.firstLine_append_afterFirstLine (unreleasedHeading ++ below)
      rw [line, List.append_assoc] at whole
      exact List.append_cancel_left whole
    rw [cutUnreleased, List.append_assoc, Text.findLine_append opens passed holds]
    simp only [line, List.drop_left, rest]

theorem cutUnreleased_eq_error_iff {s : Text} {error : ShapeError} :
    cutUnreleased s = .error error ↔
      error = .missingUnreleasedSection ∧
        ∀ line ∈ Text.lines s, isUnreleasedHeading line = false := by
  rw [← Text.linesFrom_true, ← Text.findLine_eq_none_iff, cutUnreleased]
  cases Text.findLine isUnreleasedHeading true s <;> simp [eq_comm]

theorem cutReleases_eq_ok_iff {atStart : Bool} {s : Text} {sections : Sections} :
    cutReleases atStart s = .ok sections ↔
      sections.unreleased ++ sections.releases = s ∧
        Text.opensLine atStart sections.unreleased = true ∧
        (∀ line ∈ Text.endedLines atStart sections.unreleased, isReleaseHeading line = false) ∧
        releaseLabel? (Text.firstLine sections.releases) = some sections.previous := by
  constructor
  · intro read
    have text := append_of_cutReleases read
    simp only [cutReleases] at read
    split at read
    · rename_i cut found
      obtain rfl := Except.ok.inj read
      obtain ⟨_, whole, holds, passed⟩ := Text.findLine_eq_some_iff.1 found
      obtain ⟨label, named⟩ := Option.isSome_iff_exists.1 holds
      refine ⟨text, whole.opens, passed, ?_⟩
      simp only
      rw [whole.line, named]
      rfl
    · cases read
  · rintro ⟨rfl, opens, passed, named⟩
    have holds : isReleaseHeading (Text.firstLine sections.releases) = true := by
      rw [isReleaseHeading, named]
      rfl
    rw [cutReleases, Text.findLine_append opens passed holds]
    simp [Text.firstLine_append_afterFirstLine, named]

theorem cutReleases_eq_error_iff {atStart : Bool} {s : Text} {error : ShapeError} :
    cutReleases atStart s = .error error ↔
      error = .missingPreviousRelease ∧
        ∀ line ∈ Text.linesFrom atStart s, isReleaseHeading line = false := by
  rw [← Text.findLine_eq_none_iff, cutReleases]
  cases Text.findLine isReleaseHeading atStart s <;> simp [eq_comm]

/-! ## Repeats -/

theorem firstRepeated?_eq_none_iff {seen labels : List Text} :
    firstRepeated? seen labels = none ↔
      labels.Nodup ∧ ∀ label ∈ labels, label ∉ seen := by
  induction labels generalizing seen with
  | nil => simp [firstRepeated?]
  | cons label labels ih =>
      rw [firstRepeated?]
      by_cases repeated : label ∈ seen
      · simp [repeated]
      · rw [if_neg repeated, ih, List.nodup_cons]
        constructor
        · rintro ⟨distinct, fresh⟩
          have once : label ∉ labels := by
            intro member
            exact fresh label member List.mem_cons_self
          refine ⟨⟨once, distinct⟩, ?_⟩
          intro other member
          rcases List.mem_cons.1 member with rfl | later
          · exact repeated
          · exact fun old => fresh other later (List.mem_cons_of_mem label old)
        · rintro ⟨⟨once, distinct⟩, fresh⟩
          refine ⟨distinct, ?_⟩
          intro other member old
          rcases List.mem_cons.1 old with rfl | old
          · exact once member
          · exact fresh other (List.mem_cons_of_mem label member) old

namespace Document

theorem checkRepeats_eq_ok_iff {d checked : Document} :
    d.checkRepeats = .ok checked ↔
      checked = d ∧ d.labels.Nodup ∧ d.unreleasedLinks.length ≤ 1 := by
  simp only [checkRepeats]
  cases repeated : firstRepeated? [] d.labels with
  | some label =>
      have notOnce : ¬ d.labels.Nodup := by
        intro distinct
        have none : firstRepeated? [] d.labels = none :=
          firstRepeated?_eq_none_iff.2 ⟨distinct, by simp⟩
        rw [none] at repeated
        cases repeated
      simp [notOnce]
  | none =>
      have distinct := (firstRepeated?_eq_none_iff.1 repeated).1
      by_cases links : 1 < d.unreleasedLinks.length
      · simp [links]
      · have atMost : d.unreleasedLinks.length ≤ 1 := by omega
        simp [links, distinct, atMost, eq_comm]

/-! ## Whole texts -/

/-- The parts of the changelog are what they are called, and nothing is written twice. -/
structure WellFormed (d : Document) : Prop where
  preamble_ends : Text.opensLine true d.preamble = true
  preamble_lines : ∀ line ∈ Text.endedLines true d.preamble,
    isUnreleasedLink line = false ∧ isUnreleasedHeading line = false
  unreleased_ends : Text.opensLine false d.unreleased = true
  unreleased_lines : ∀ line ∈ Text.endedLines false d.unreleased, isDividing line = false
  releases_end : Text.opensLine true d.releases = true
  releases_lines : ∀ line ∈ Text.endedLines true d.releases,
    isUnreleasedLink line = false ∧ isUnreleasedHeading line = false
  previous : releaseLabel? (Text.firstLine d.releases) = some d.previous
  links : isUnreleasedLink (Text.firstLine d.links) = true
  labels : d.labels.Nodup
  unreleasedLinks : d.unreleasedLinks.length ≤ 1

/-- Reading is made of its cuts. -/
theorem ofText_eq_ok_iff_cuts {s : Text} {d : Document} :
    ofText s = .ok d ↔ ∃ upper below,
      cutLinkTable s = .ok (upper, d.links) ∧ cutUnreleased upper = .ok (d.preamble, below) ∧
        Text.findLine isUnreleasedHeading false below = none ∧
        cutReleases false below = .ok d.toSections ∧ d.checkRepeats = .ok d := by
  simp only [ofText, exceptBind_eq_ok_iff, guard_eq_ok_iff, Prod.exists, Bool.not_eq_true,
    Option.isSome_eq_false_iff, Option.isNone_iff_eq_none]
  constructor
  · rintro ⟨upper, _, table, _, below, heading, once, _, newest, checked⟩
    obtain rfl := (checkRepeats_eq_ok_iff.1 checked).1
    exact ⟨upper, below, table, heading, once, newest, checked⟩
  · rintro ⟨upper, below, table, heading, once, newest, checked⟩
    exact ⟨upper, _, table, _, below, heading, once, _, newest, checked⟩

variable {d : Document}

theorem opensLine_upper (preamble : Text.opensLine true d.preamble = true)
    (unreleased : Text.opensLine false d.unreleased = true) :
    Text.opensLine true d.upper = Text.opensLine true d.releases := by
  have heading : Text.opensLine true unreleasedHeading = false := by decide
  rw [upper, Text.opensLine_append, Text.opensLine_append, Text.opensLine_append, preamble,
    heading, unreleased]

/-- The lines of a changelog above its link table. -/
theorem endedLines_upper (preamble : Text.opensLine true d.preamble = true)
    (unreleased : Text.opensLine false d.unreleased = true)
    (releases : Text.opensLine true d.releases = true) :
    Text.endedLines true d.upper =
      Text.endedLines true d.preamble ++ (unreleasedHeading ++ Text.firstLine d.unreleased) ::
        (Text.endedLines false d.unreleased ++ Text.endedLines true d.releases) := by
  have nonempty := Text.ne_nil_of_opensLine unreleased
  have ends : Text.opensLine false (d.unreleased ++ d.releases) = true := by
    rw [Text.opensLine_append, unreleased, releases]
  rw [upper, List.append_assoc, List.append_assoc, Text.endedLines_append preamble,
    Text.endedLines_append_of_not_mem not_mem_unreleasedHeading ends,
    Text.endedLines_append unreleased, Text.firstLine_append_of_opensLine unreleased nonempty]

theorem linesFrom_below (unreleased : Text.opensLine false d.unreleased = true)
    (releases : Text.opensLine true d.releases = true) :
    Text.linesFrom false (d.unreleased ++ d.releases) =
      Text.endedLines false d.unreleased ++ (Text.endedLines true d.releases ++ [[]]) := by
  have last := Text.linesFrom_of_opensLine releases
  rw [Text.linesFrom_true] at last
  rw [Text.linesFrom_append unreleased, last]

namespace WellFormed

theorem isLabel_previous (wf : d.WellFormed) : IsLabel d.previous :=
  (releaseLabel?_eq_some_iff.1 wf.previous).1

theorem upper_ends (wf : d.WellFormed) : Text.opensLine true d.upper = true := by
  rw [opensLine_upper wf.preamble_ends wf.unreleased_ends]
  exact wf.releases_end

theorem upper_lines (wf : d.WellFormed) :
    ∀ line ∈ Text.endedLines true d.upper, isUnreleasedLink line = false := by
  rw [endedLines_upper wf.preamble_ends wf.unreleased_ends wf.releases_end]
  intro line member
  rcases List.mem_append.1 member with above | member
  · exact (wf.preamble_lines line above).1
  rcases List.mem_cons.1 member with rfl | member
  · rfl
  rcases List.mem_append.1 member with body | below
  · exact (isDividing_eq_false_iff.1 (wf.unreleased_lines line body)).1
  · exact (wf.releases_lines line below).1

theorem below_lines (wf : d.WellFormed) :
    ∀ line ∈ Text.linesFrom false (d.unreleased ++ d.releases),
      isUnreleasedHeading line = false := by
  rw [linesFrom_below wf.unreleased_ends wf.releases_end]
  intro line member
  rcases List.mem_append.1 member with body | member
  · exact (isDividing_eq_false_iff.1 (wf.unreleased_lines line body)).2.1
  rcases List.mem_append.1 member with below | last
  · exact (wf.releases_lines line below).2
  · obtain rfl := List.mem_singleton.1 last
    rfl

end WellFormed

/-- The releases are the ones that are found behind the heading of the unreleased section. -/
theorem cutReleasesBehind_of_ofText {s : Text} (read : ofText s = .ok d) :
    cutReleasesBehind (Text.size (d.preamble ++ unreleasedHeading)) d.upper =
      .ok (d.preamble ++ unreleasedHeading, d.toSections) := by
  obtain ⟨_, below, _, _, _, newest, _⟩ := ofText_eq_ok_iff_cuts.1 read
  obtain rfl := append_of_cutReleases newest
  have inLine : Text.endsLine (d.preamble ++ unreleasedHeading) = false := by
    rw [Text.endsLine, List.getLast?_append]
    rfl
  rw [upper, List.append_assoc (d.preamble ++ unreleasedHeading), cutReleasesBehind_size, inLine,
    newest]
  rfl

/-- Reading finds the parts of a well-formed changelog, and nothing else. -/
theorem ofText_eq_ok_iff {s : Text} : ofText s = .ok d ↔ d.WellFormed ∧ d.toText = s := by
  rw [ofText_eq_ok_iff_cuts]
  simp only [cutLinkTable_eq_ok_iff, cutUnreleased_eq_ok_iff, Text.findLine_eq_none_iff,
    cutReleases_eq_ok_iff, checkRepeats_eq_ok_iff]
  constructor
  · rintro ⟨_, _, ⟨rfl, ends, noLink, link⟩, ⟨rfl, preamble, noHeading⟩, once,
      ⟨rfl, unreleased, noRelease, previous⟩, _, labels, links⟩
    have text : d.preamble ++ unreleasedHeading ++ (d.unreleased ++ d.releases) = d.upper := by
      simp [upper]
    rw [text] at ends noLink ⊢
    have releases : Text.opensLine true d.releases = true := by
      rw [← opensLine_upper preamble unreleased]
      exact ends
    rw [endedLines_upper preamble unreleased releases] at noLink
    rw [linesFrom_below unreleased releases] at once
    refine ⟨?_, rfl⟩
    exact {
      preamble_ends := preamble
      preamble_lines := fun line member => ⟨noLink line (by simp [member]), noHeading line member⟩
      unreleased_ends := unreleased
      unreleased_lines := fun line member => isDividing_eq_false_iff.2
        ⟨noLink line (by simp [member]), once line (by simp [member]), noRelease line member⟩
      releases_end := releases
      releases_lines := fun line member =>
        ⟨noLink line (by simp [member]), once line (by simp [member])⟩
      previous := previous
      links := link
      labels := labels
      unreleasedLinks := links }
  · rintro ⟨wf, rfl⟩
    have text : d.preamble ++ unreleasedHeading ++ (d.unreleased ++ d.releases) = d.upper := by
      simp [upper]
    have noHeading : ∀ line ∈ Text.endedLines true d.preamble,
        isUnreleasedHeading line = false := by
      intro line member
      exact (wf.preamble_lines line member).2
    have noRelease : ∀ line ∈ Text.endedLines false d.unreleased,
        isReleaseHeading line = false := by
      intro line member
      exact (isDividing_eq_false_iff.1 (wf.unreleased_lines line member)).2.2
    exact ⟨d.upper, d.unreleased ++ d.releases, ⟨rfl, wf.upper_ends, wf.upper_lines, wf.links⟩,
      ⟨text, wf.preamble_ends, noHeading⟩, wf.below_lines,
      ⟨rfl, wf.unreleased_ends, noRelease, wf.previous⟩, trivial, wf.labels, wf.unreleasedLinks⟩

end Document
end ReleaseLog
