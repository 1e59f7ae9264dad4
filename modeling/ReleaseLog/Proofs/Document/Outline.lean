import Mathlib.Data.List.Infix
import ReleaseLog.Proofs.Document.WellFormed

/-!
# Changelogs line by line

A changelog can be told from its lines alone. `Outline.ofLines` cuts a row of lines in front of the
lines that divide it and compares the labels of its releases; it knows of no characters beyond the
line that it looks at. Reading a text agrees with it on every text, in what is found and in what is
missing (`Document.ofText_agrees_ofLines`).

Lines do not tell how often a link table defines the link of the unreleased changes, since a label
may run over line ends. That is asked of the table of the outline in the end.
-/

namespace ReleaseLog

/-! ## Rows of lines -/

/-- A row of lines cut around its first line with the property `p`. -/
def cutRows (p : Text → Bool) (rows : List Text) : Option (List Text × Text × List Text) :=
  match rows.dropWhile (!p ·) with
  | [] => none
  | row :: below => some (rows.takeWhile (!p ·), row, below)

section
variable {p : Text → Bool} {rows above below : List Text} {row : Text}

theorem cutRows_eq_none_iff : cutRows p rows = none ↔ ∀ row ∈ rows, p row = false := by
  have all : rows.dropWhile (!p ·) = [] ↔ ∀ row ∈ rows, p row = false := by simp
  rw [← all, cutRows]
  split
  · rename_i none
    simp [none]
  · rename_i rest
    simp [rest]

theorem cutRows_append (passed : ∀ row ∈ above, p row = false) (holds : p row = true) :
    cutRows p (above ++ row :: below) = some (above, row, below) := by
  have passes : ∀ row ∈ above, (!p row) = true := by simpa using passed
  have front : (above ++ row :: below).takeWhile (!p ·) = above := by
    rw [List.takeWhile_append_of_pos passes]
    simp [holds]
  have back : (above ++ row :: below).dropWhile (!p ·) = row :: below := by
    rw [List.dropWhile_append_of_pos passes]
    simp [holds]
  rw [cutRows, front, back]

/-- No line is lost where a row is cut. -/
theorem append_of_cutRows (h : cutRows p rows = some (above, row, below)) :
    rows = above ++ row :: below ∧ p row = true := by
  have whole := List.takeWhile_append_dropWhile (p := (!p ·)) (l := rows)
  have stops := List.head?_dropWhile_not (!p ·) rows
  unfold cutRows at h
  split at h
  · cases h
  · rename_i rest
    cases h
    rw [rest] at whole stops
    exact ⟨whole.symm, by simpa using stops⟩

/-- A row is cut around its first line with the property in one way only. -/
theorem cutRows_unique {other later : List Text} {first : Text}
    (passed : ∀ row ∈ above, p row = false) (holds : p row = true)
    (otherPassed : ∀ row ∈ other, p row = false) (otherHolds : p first = true)
    (same : above ++ row :: below = other ++ first :: later) :
    above = other ∧ row = first ∧ below = later := by
  have cut := @cutRows_append p above below row passed holds
  rw [same, cutRows_append otherPassed otherHolds] at cut
  simpa [eq_comm] using cut

/-- A row is cut around its last line with the property in one way only. -/
theorem cutRows_unique_last {other later : List Text} {last : Text} (holds : p row = true)
    (passed : ∀ row ∈ below, p row = false) (otherHolds : p last = true)
    (otherPassed : ∀ row ∈ later, p row = false)
    (same : above ++ row :: below = other ++ last :: later) :
    above = other ∧ row = last ∧ below = later := by
  have back : below.reverse ++ row :: above.reverse = later.reverse ++ last :: other.reverse := by
    simpa using congrArg List.reverse same
  have passedBack : ∀ row ∈ below.reverse, p row = false := by simpa using passed
  have otherBack : ∀ row ∈ later.reverse, p row = false := by simpa using otherPassed
  obtain ⟨belows, rows, aboves⟩ := cutRows_unique passedBack holds otherBack otherHolds back
  exact ⟨List.reverse_injective aboves, rows, List.reverse_injective belows⟩

end

/-! ## Labels -/

instance (label : Text) : Decidable (IsLabel label) :=
  decidable_of_iff (label ≠ [] ∧ label.all isLabelChar = true)
    ⟨fun h => ⟨h.1, List.all_eq_true.1 h.2⟩, fun h => ⟨h.nonempty, List.all_eq_true.2 h.chars⟩⟩

/-- What stands between the brackets of a line `## [label]`, if it can be a label. -/
def bracketedLabel? (row : Text) : Option Text :=
  (Text.after? "## [".toList row).bind fun rest =>
    if ']' ∈ rest ∧ IsLabel (rest.takeWhile (· != ']')) then some (rest.takeWhile (· != ']'))
    else none

/-- The first of these labels that is one of those in front of it. -/
def firstAgain? (labels : List Text) : Option Text :=
  ((labels.zip labels.inits).find? fun entry => entry.2.contains entry.1).map (·.1)

theorem bracketedLabel?_eq_some_iff {row label : Text} :
    bracketedLabel? row = some label ↔ IsLabel label ∧ releaseHeading label <+: row := by
  simp only [bracketedLabel?, Option.bind_eq_some_iff, Text.after?_eq_some_iff,
    Option.ite_none_right_eq_some, Option.some.injEq]
  constructor
  · rintro ⟨rest, rfl, ⟨closed, isLabel⟩, rfl⟩
    refine ⟨isLabel, ?_⟩
    have whole := List.takeWhile_append_dropWhile (p := (· != ']')) (l := rest)
    have stops := List.head?_dropWhile_not (· != ']') rest
    cases back : rest.dropWhile (· != ']') with
    | nil =>
        have inside := List.dropWhile_eq_nil_iff.1 back ']' closed
        simp at inside
    | cons c after =>
        rw [back] at whole stops
        obtain rfl : c = ']' := by simpa using stops
        refine ⟨after, ?_⟩
        rw [releaseHeading, List.append_assoc, List.append_assoc]
        exact congrArg ("## [".toList ++ ·) whole
  · rintro ⟨isLabel, after, rfl⟩
    have unclosed : ']' ∉ label := by
      intro member
      exact absurd (isLabel.chars _ member) (by decide)
    have front : (label ++ ']' :: after).takeWhile (· != ']') = label := by
      rw [List.takeWhile_append_of_pos (Text.bne_of_not_mem unclosed)]
      simp
    refine ⟨label ++ ']' :: after, by simp [releaseHeading], ⟨by simp, ?_⟩, front⟩
    rw [front]
    exact isLabel

theorem bracketedLabel?_eq : bracketedLabel? = releaseLabel? := by
  funext row
  apply Option.ext
  intro label
  rw [bracketedLabel?_eq_some_iff, releaseLabel?_eq_some_iff]

theorem firstRepeated?_eq_find? (seen labels : List Text) :
    firstRepeated? seen labels = ((labels.zip labels.inits).find? fun entry =>
      entry.1 ∈ seen ∨ entry.1 ∈ entry.2).map (·.1) := by
  induction labels generalizing seen with
  | nil => rfl
  | cons label labels ih =>
      rw [firstRepeated?, List.inits_cons, List.zip_cons_cons]
      by_cases repeated : label ∈ seen
      · rw [if_pos repeated, List.find?_cons_of_pos (by simp [repeated])]
        rfl
      · have same : ∀ entry : Text × List Text,
            (entry.1 ∈ label :: seen ∨ entry.1 ∈ entry.2) ↔
              (entry.1 ∈ seen ∨ entry.1 ∈ label :: entry.2) := by
          intro entry
          simp only [List.mem_cons]
          tauto
        rw [if_neg repeated, ih, List.find?_cons_of_neg (by simp [repeated]), List.zip_map_right,
          List.find?_map, Option.map_map]
        simp only [same]
        rfl

theorem firstAgain?_eq (labels : List Text) : firstAgain? labels = firstRepeated? [] labels := by
  rw [firstRepeated?_eq_find?]
  simp [firstAgain?]

/-! ## Outlines -/

/-- The parts of a changelog, line by line. -/
structure Outline where
  /-- Everything above the unreleased section. -/
  preamble : List Text
  /-- The line with the heading of the unreleased section. -/
  heading : Text
  /-- Everything below that line, up to the next release. -/
  body : List Text
  /-- Everything from the heading of that release on. -/
  releases : List Text
  /-- The link table. -/
  links : List Text
  deriving DecidableEq, Repr

namespace Outline

/-- The labels of all releases, newest first. -/
def labels (outline : Outline) : List Text := outline.releases.filterMap bracketedLabel?

/-- No release is written twice. -/
def checkLabels (outline : Outline) : Except ShapeError Outline :=
  match firstAgain? outline.labels with
  | some label => .error (.repeatedRelease label)
  | none => .ok outline

/-- The lines below the heading of the unreleased section are cut in front of the next release. -/
def ofBelow (links preamble : List Text) (heading : Text) (below : List Text) :
    Except ShapeError Outline :=
  if below.any unreleasedHeading.isPrefixOf then .error .repeatedUnreleasedSection
  else
    match cutRows (fun row => (bracketedLabel? row).isSome) below with
    | none => .error .missingPreviousRelease
    | some (body, newest, older) => checkLabels ⟨preamble, heading, body, newest :: older, links⟩

/-- The lines above the link table are cut around the heading of the unreleased section. -/
def ofUpper (links upper : List Text) : Except ShapeError Outline :=
  match cutRows unreleasedHeading.isPrefixOf upper with
  | none => .error .missingUnreleasedSection
  | some (preamble, heading, below) => ofBelow links preamble heading below

/-- The outline that these lines have: they are cut in front of the link table first. -/
def ofLines (rows : List Text) : Except ShapeError Outline :=
  match cutRows unreleasedLinkMark.isPrefixOf rows with
  | none => .error .missingLinkTable
  | some (upper, link, later) => ofUpper (link :: later) upper

/-- The changelog with this outline. -/
def toDocument (outline : Outline) : Document where
  preamble := Text.ofEndedLines outline.preamble
  unreleased := outline.heading.drop unreleasedHeading.length ++
    '\n' :: Text.ofEndedLines outline.body
  previous := outline.labels.headD []
  releases := Text.ofEndedLines outline.releases
  links := Text.ofLines outline.links

/-- The changelog with this outline, if it defines the link of the unreleased changes once. -/
def document? (outline : Outline) : Except ShapeError Document :=
  if 1 < outline.toDocument.unreleasedLinks.length then .error .repeatedUnreleasedLink
  else .ok outline.toDocument

/-! ## What an outline holds -/

/-- The lines of an outline, from the top. -/
def toLines (outline : Outline) : List Text :=
  outline.preamble ++ outline.heading :: (outline.body ++ outline.releases) ++ outline.links

/-- The outline has the parts that its changelog needs. -/
structure HasParts (outline : Outline) : Prop where
  heading : unreleasedHeading <+: outline.heading
  newest : ∃ label newest older, outline.releases = newest :: older ∧
    bracketedLabel? newest = some label
  links : outline.links ≠ []

variable {outline checked : Outline} {rows links preamble below : List Text} {heading : Text}

theorem checkLabels_eq_ok (h : outline.checkLabels = .ok checked) : checked = outline := by
  unfold checkLabels at h
  split at h
  · cases h
  · exact (Except.ok.inj h).symm

theorem ofBelow_eq_ok (isHeading : unreleasedHeading <+: heading) (nonempty : links ≠ [])
    (read : ofBelow links preamble heading below = .ok outline) :
    outline.toLines = preamble ++ heading :: below ++ links ∧ outline.HasParts := by
  unfold ofBelow at read
  split at read
  · cases read
  · split at read
    · cases read
    · rename_i body newest older cut
      obtain ⟨rfl, isRelease⟩ := append_of_cutRows cut
      obtain ⟨label, named⟩ := Option.isSome_iff_exists.1 isRelease
      obtain rfl := checkLabels_eq_ok read
      exact ⟨rfl, isHeading, ⟨label, newest, older, rfl, named⟩, nonempty⟩

/-- An outline holds all lines that it was read from. -/
theorem ofLines_eq_ok (read : ofLines rows = .ok outline) :
    outline.toLines = rows ∧ outline.HasParts := by
  unfold ofLines at read
  split at read
  · cases read
  · rename_i upper link later table
    obtain ⟨rfl, _⟩ := append_of_cutRows table
    unfold ofUpper at read
    split at read
    · cases read
    · rename_i preamble heading below cut
      obtain ⟨rfl, begins⟩ := append_of_cutRows cut
      exact ofBelow_eq_ok (List.isPrefixOf_iff_prefix.1 begins) (List.cons_ne_nil _ _) read

theorem toText_toDocument (parts : outline.HasParts) :
    outline.toDocument.toText = Text.ofLines outline.toLines := by
  obtain ⟨rest, heading⟩ := parts.heading
  have line : unreleasedHeading ++ outline.heading.drop unreleasedHeading.length =
      outline.heading := by
    rw [← heading, List.drop_left]
  rw [toLines, Text.ofLines_append parts.links, Text.ofEndedLines_append, Text.ofEndedLines_cons,
    Text.ofEndedLines_append, ← line]
  simp [toDocument, Document.toText, Document.upper]

theorem labels_toDocument (inline : ∀ row ∈ outline.toLines, '\n' ∉ row) :
    outline.toDocument.labels = outline.labels := by
  have rows : Text.lines (Text.ofEndedLines outline.releases) = outline.releases ++ [[]] := by
    apply Text.lines_ofEndedLines
    intro row member
    exact inline row (by simp [Outline.toLines, member])
  show releaseLabels (Text.ofEndedLines outline.releases) = _
  rw [releaseLabels, rows, List.filterMap_append, labels, bracketedLabel?_eq]
  exact List.append_nil _

theorem head?_labels (parts : outline.HasParts) :
    outline.labels.head? = some outline.toDocument.previous := by
  obtain ⟨label, newest, older, releases, named⟩ := parts.newest
  rw [toDocument, labels, releases, List.filterMap_cons, named]
  rfl

end Outline

/-! ## The same cuts in a text -/

theorem isUnreleasedLink_eq : isUnreleasedLink = unreleasedLinkMark.isPrefixOf := by
  funext row
  rw [Bool.eq_iff_iff, isUnreleasedLink, Text.startsWith_iff, List.isPrefixOf_iff_prefix]

theorem isUnreleasedHeading_eq : isUnreleasedHeading = unreleasedHeading.isPrefixOf := by
  funext row
  rw [Bool.eq_iff_iff, isUnreleasedHeading, Text.startsWith_iff, List.isPrefixOf_iff_prefix]

theorem isReleaseHeading_eq : isReleaseHeading = fun row => (bracketedLabel? row).isSome := by
  rw [bracketedLabel?_eq]
  rfl

namespace Document

variable {d : Document} {s upper links preamble below : Text} {sections : Sections}

/-- The outline of a changelog. -/
def outline (d : Document) : Outline where
  preamble := Text.endedLines true d.preamble
  heading := unreleasedHeading ++ Text.firstLine d.unreleased
  body := Text.endedLines false d.unreleased
  releases := Text.endedLines true d.releases
  links := Text.lines d.links

/-- The changelog is made of whole lines, and its releases begin with one. -/
structure IsCut (d : Document) : Prop where
  preamble_ends : Text.opensLine true d.preamble = true
  unreleased_ends : Text.opensLine false d.unreleased = true
  releases_end : Text.opensLine true d.releases = true
  previous : releaseLabel? (Text.firstLine d.releases) = some d.previous

namespace IsCut

variable (cut : d.IsCut)
include cut

theorem endedLines_releases :
    Text.endedLines true d.releases =
      Text.firstLine d.releases :: Text.endedLines false d.releases := by
  apply Text.endedLines_eq_cons cut.releases_end
  intro empty
  have named := cut.previous
  rw [empty] at named
  cases named

theorem labels_outline : d.outline.labels = d.labels := by
  have rows := Text.linesFrom_of_opensLine cut.releases_end
  rw [Text.linesFrom_true] at rows
  rw [Outline.labels, labels, releaseLabels, rows, List.filterMap_append, bracketedLabel?_eq]
  exact (List.append_nil _).symm

theorem toDocument_outline : d.outline.toDocument = d := by
  have heading : (unreleasedHeading ++ Text.firstLine d.unreleased).drop
      unreleasedHeading.length = Text.firstLine d.unreleased := List.drop_left
  have previous : d.outline.labels.headD [] = d.previous := by
    rw [Outline.labels, outline, cut.endedLines_releases, List.filterMap_cons, bracketedLabel?_eq,
      cut.previous]
    rfl
  rw [Outline.toDocument, previous]
  simp only [outline, heading, Text.ofEndedLines_endedLines cut.preamble_ends,
    Text.firstLine_append_ofEndedLines cut.unreleased_ends,
    Text.ofEndedLines_endedLines cut.releases_end, Text.ofLines_lines]

/-- Both readers look for repeats in the same way. -/
theorem checkRepeats_eq : d.checkRepeats = d.outline.checkLabels.bind Outline.document? := by
  rw [checkRepeats, Outline.checkLabels, cut.labels_outline, firstAgain?_eq]
  cases firstRepeated? [] d.labels with
  | some label => rfl
  | none =>
      show _ = Outline.document? d.outline
      rw [Outline.document?, cut.toDocument_outline]

end IsCut

theorem ofLines_lines_of_cutLinkTable (table : cutLinkTable s = .ok (upper, links)) :
    Outline.ofLines (Text.lines s) =
      Outline.ofUpper (Text.lines links) (Text.endedLines true upper) := by
  obtain ⟨rfl, ends, noLink, link⟩ := cutLinkTable_eq_ok_iff.1 table
  have rows := Text.linesFrom_append ends links
  rw [Text.linesFrom_true, Text.lines_eq_cons links] at rows
  rw [Outline.ofLines, ← isUnreleasedLink_eq, rows, cutRows_append noLink link,
    Text.lines_eq_cons links]

theorem opensLine_of_cutUnreleased (ends : Text.opensLine true upper = true)
    (heading : cutUnreleased upper = .ok (preamble, below)) :
    Text.opensLine true preamble = true ∧ Text.opensLine false below = true := by
  obtain ⟨rfl, preambleEnds, _⟩ := cutUnreleased_eq_ok_iff.1 heading
  refine ⟨preambleEnds, ?_⟩
  rw [Text.opensLine_append, Text.opensLine_append, preambleEnds] at ends
  exact ends

theorem ofUpper_of_cutUnreleased {rows : List Text} (ends : Text.opensLine true upper = true)
    (heading : cutUnreleased upper = .ok (preamble, below)) :
    Outline.ofUpper rows (Text.endedLines true upper) =
      Outline.ofBelow rows (Text.endedLines true preamble)
        (unreleasedHeading ++ Text.firstLine below) (Text.endedLines false below) := by
  obtain ⟨preambleEnds, belowEnds⟩ := opensLine_of_cutUnreleased ends heading
  obtain ⟨rfl, _, noHeading⟩ := cutUnreleased_eq_ok_iff.1 heading
  have isHeading : isUnreleasedHeading (unreleasedHeading ++ Text.firstLine below) = true :=
    Text.startsWith_iff.2 (List.prefix_append _ _)
  rw [Outline.ofUpper, ← isUnreleasedHeading_eq, List.append_assoc,
    Text.endedLines_append preambleEnds,
    Text.endedLines_append_of_not_mem not_mem_unreleasedHeading belowEnds,
    cutRows_append noHeading isHeading]

section
variable (preambleEnds : Text.opensLine true preamble = true)
  (ends : Text.opensLine false below = true)
include preambleEnds ends

theorem ofBelow_of_cutReleases (newest : cutReleases false below = .ok sections)
    (once : (Text.endedLines false below).any isUnreleasedHeading = false) :
    (Outline.ofBelow (Text.lines links) (Text.endedLines true preamble)
        (unreleasedHeading ++ Text.firstLine below) (Text.endedLines false below)).bind
          Outline.document? = checkRepeats { sections with preamble, links } := by
  obtain ⟨rfl, unreleasedEnds, noRelease, previous⟩ := cutReleases_eq_ok_iff.1 newest
  have releasesEnd : Text.opensLine true sections.releases = true := by
    rw [Text.opensLine_append, unreleasedEnds] at ends
    exact ends
  have cut : IsCut { sections with preamble, links } :=
    ⟨preambleEnds, unreleasedEnds, releasesEnd, previous⟩
  have isRelease : isReleaseHeading (Text.firstLine sections.releases) = true := by
    rw [isReleaseHeading, previous]
    rfl
  have rows : Text.endedLines false (sections.unreleased ++ sections.releases) =
      Text.endedLines false sections.unreleased ++
        Text.firstLine sections.releases :: Text.endedLines false sections.releases := by
    rw [Text.endedLines_append unreleasedEnds]
    exact congrArg (_ ++ ·) cut.endedLines_releases
  rw [cut.checkRepeats_eq, outline, cut.endedLines_releases, Outline.ofBelow,
    ← isUnreleasedHeading_eq, once, ← isReleaseHeading_eq, rows,
    cutRows_append noRelease isRelease,
    Text.firstLine_append_of_opensLine unreleasedEnds (Text.ne_nil_of_opensLine unreleasedEnds)]
  rfl

theorem ofBelow_endedLines :
    (Outline.ofBelow (Text.lines links) (Text.endedLines true preamble)
        (unreleasedHeading ++ Text.firstLine below) (Text.endedLines false below)).bind
          Outline.document? =
      if (Text.findLine isUnreleasedHeading false below).isSome then
        .error .repeatedUnreleasedSection
      else (cutReleases false below).bind fun sections =>
        checkRepeats { sections with preamble, links } := by
  have again := Text.any_endedLines (p := isUnreleasedHeading) rfl ends
  cases second : (Text.findLine isUnreleasedHeading false below).isSome with
  | true =>
      rw [second] at again
      rw [Outline.ofBelow, ← isUnreleasedHeading_eq, again]
      rfl
  | false =>
      rw [second] at again
      cases newest : cutReleases false below with
      | error error =>
          obtain ⟨rfl, none⟩ := cutReleases_eq_error_iff.1 newest
          have noRelease : ∀ row ∈ Text.endedLines false below, isReleaseHeading row = false := by
            intro row member
            exact none row (Text.mem_linesFrom_of_mem_endedLines member)
          rw [Outline.ofBelow, ← isUnreleasedHeading_eq, again, ← isReleaseHeading_eq,
            cutRows_eq_none_iff.2 noRelease]
          rfl
      | ok sections =>
          rw [ofBelow_of_cutReleases preambleEnds ends newest again]
          rfl

end

/-! ## Reading a text and reading its lines -/

theorem ofText_of_cutUnreleased (table : cutLinkTable s = .ok (upper, links))
    (heading : cutUnreleased upper = .ok (preamble, below)) :
    ofText s =
      if (Text.findLine isUnreleasedHeading false below).isSome then
        .error .repeatedUnreleasedSection
      else (cutReleases false below).bind fun sections =>
        checkRepeats { sections with preamble, links } := by
  simp only [ofText, bind, Except.bind, throw, throwThe, MonadExceptOf.throw, table, heading]

theorem ofText_eq_ofLines (s : Text) :
    ofText s = (Outline.ofLines (Text.lines s)).bind Outline.document? := by
  cases table : cutLinkTable s with
  | error error =>
      obtain ⟨rfl, none⟩ := cutLinkTable_eq_error_iff.1 table
      rw [Outline.ofLines, ← isUnreleasedLink_eq, cutRows_eq_none_iff.2 none]
      simp only [ofText, bind, Except.bind, table]
  | ok parts =>
      obtain ⟨upper, links⟩ := parts
      have ends := (cutLinkTable_eq_ok_iff.1 table).2.1
      rw [ofLines_lines_of_cutLinkTable table]
      cases heading : cutUnreleased upper with
      | error error =>
          obtain ⟨rfl, none⟩ := cutUnreleased_eq_error_iff.1 heading
          have noHeading : ∀ row ∈ Text.endedLines true upper, isUnreleasedHeading row = false := by
            intro row member
            exact none row (Text.mem_linesFrom_of_mem_endedLines member)
          rw [Outline.ofUpper, ← isUnreleasedHeading_eq, cutRows_eq_none_iff.2 noHeading]
          simp only [ofText, bind, Except.bind, table, heading]
      | ok parts =>
          obtain ⟨preamble, below⟩ := parts
          obtain ⟨preambleEnds, belowEnds⟩ := opensLine_of_cutUnreleased ends heading
          rw [ofText_of_cutUnreleased table heading, ofUpper_of_cutUnreleased ends heading,
            ofBelow_endedLines preambleEnds belowEnds]

/-- A text is read as its lines are: the same is missing or repeated, and the same parts are found,
which make up the text. Only a link of the unreleased changes that is defined twice is no matter
of lines. -/
theorem ofText_agrees_ofLines (s : Text) :
    match Outline.ofLines (Text.lines s) with
    | .error error => ofText s = .error error
    | .ok outline =>
        let d := outline.toDocument
        s = d.preamble ++ unreleasedHeading ++ d.unreleased ++ d.releases ++ d.links ∧
          d.body = Text.trim d.unreleased ∧ d.labels = outline.labels ∧
            outline.labels.head? = some d.previous ∧
              ofText s = if 1 < d.unreleasedLinks.length then .error .repeatedUnreleasedLink
                else .ok d := by
  have same := ofText_eq_ofLines s
  cases read : Outline.ofLines (Text.lines s) with
  | error error =>
      rw [read] at same
      exact same
  | ok outline =>
      rw [read] at same
      obtain ⟨rows, parts⟩ := Outline.ofLines_eq_ok read
      have inline : ∀ row ∈ outline.toLines, '\n' ∉ row := by
        intro row member
        rw [rows] at member
        exact Text.not_mem_of_mem_lines member
      have text := Outline.toText_toDocument parts
      rw [rows, Text.ofLines_lines] at text
      exact ⟨text.symm, rfl, Outline.labels_toDocument inline, Outline.head?_labels parts, same⟩

end Document
end ReleaseLog
