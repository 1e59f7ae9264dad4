import ReleaseLog.Document.Heading
import ReleaseLog.Document.LinkTable
import ReleaseLog.Text.Utf8

/-!
# Changelogs

A changelog is read once, into the pieces that a release touches: the text above the unreleased
section, the rest of that section, the sections of all releases with the newest one on top, and
the link table. `Document.ofText` cuts a text into these pieces or says what is missing or
written twice; nothing of the text is lost (`toText_of_ofText`).
-/

namespace ReleaseLog

/-- Why a text is no changelog. -/
inductive ShapeError
  | missingLinkTable
  | missingUnreleasedSection
  | missingPreviousRelease
  | repeatedUnreleasedSection
  | repeatedUnreleasedLink
  | repeatedRelease (label : Text)
  deriving DecidableEq, Repr

/-- The wording of the error. -/
def ShapeError.message : ShapeError → Text
  | missingLinkTable => "Could not find the link definitions section in the changelog".toList
  | missingUnreleasedSection => "Could not find [Unreleased] section in the changelog".toList
  | missingPreviousRelease => "Could not find any previous release entries".toList
  | repeatedUnreleasedSection => "Found more than one [Unreleased] section in the changelog".toList
  | repeatedUnreleasedLink =>
      "Found more than one [Unreleased] link definition in the changelog".toList
  | repeatedRelease label =>
      "Release heading [".toList ++ label ++ "] appears more than once in the changelog".toList

/-- A text cut in front of its link table. -/
def cutLinkTable (s : Text) : Except ShapeError (Text × Text) :=
  match Text.findLine isUnreleasedLink true s with
  | some cut => .ok (cut.before, cut.line ++ cut.after)
  | none => .error .missingLinkTable

theorem append_of_cutLinkTable {s upper links : Text} (h : cutLinkTable s = .ok (upper, links)) :
    upper ++ links = s := by
  simp only [cutLinkTable] at h
  split at h
  · rename_i cut found
    obtain ⟨rfl, rfl⟩ := Prod.mk.inj (Except.ok.inj h)
    rw [← Text.toText_of_findLine found]
    simp [Text.LineCut.toText]
  · simp at h

/-- A text cut around the heading of its unreleased section. -/
def cutUnreleased (s : Text) : Except ShapeError (Text × Text) :=
  match Text.findLine isUnreleasedHeading true s with
  | some cut => .ok (cut.before, cut.line.drop unreleasedHeading.length ++ cut.after)
  | none => .error .missingUnreleasedSection

theorem append_of_cutUnreleased {s before below : Text}
    (h : cutUnreleased s = .ok (before, below)) : before ++ unreleasedHeading ++ below = s := by
  simp only [cutUnreleased] at h
  split at h
  · rename_i cut found
    obtain ⟨rfl, rfl⟩ := Prod.mk.inj (Except.ok.inj h)
    obtain ⟨rest, line⟩ := Text.startsWith_iff.1 (Text.line_of_findLine found)
    rw [← Text.toText_of_findLine found]
    simp [Text.LineCut.toText, ← line]
  · simp at h

/-- What lies between the heading of the unreleased section and the link table: the rest of that
section and the sections of all releases. -/
structure Sections where
  /-- Everything from the unreleased heading to the next release heading. -/
  unreleased : Text
  /-- The label of that release. -/
  previous : Text
  /-- Everything from that release heading on. -/
  releases : Text
  deriving DecidableEq, Repr

/-- The entries of the unreleased section. -/
def Sections.body (sections : Sections) : Text := Text.trim sections.unreleased

/-- A text cut in front of its first release heading. -/
def cutReleases (atStart : Bool) (s : Text) : Except ShapeError Sections :=
  match Text.findLine isReleaseHeading atStart s with
  | some cut => .ok ⟨cut.before, (releaseLabel? cut.line).getD [], cut.line ++ cut.after⟩
  | none => .error .missingPreviousRelease

theorem append_of_cutReleases {atStart : Bool} {s : Text} {sections : Sections}
    (h : cutReleases atStart s = .ok sections) :
    sections.unreleased ++ sections.releases = s := by
  simp only [cutReleases] at h
  split at h
  · rename_i cut found
    rw [← Except.ok.inj h, ← Text.toText_of_findLine found]
    simp [Text.LineCut.toText]
  · simp at h

/-- The releases of a text, searched for behind its first `count` bytes, and the text above them.
Whether the search begins at the start of a line is seen from the bytes that it leaves out. -/
def cutReleasesBehind (count : Nat) (s : Text) : Except ShapeError (Text × Sections) :=
  let (above, below) := Text.cutAtSize count s
  (cutReleases (Text.endsLine above) below).map (above, ·)

theorem cutReleasesBehind_size (above below : Text) :
    cutReleasesBehind (Text.size above) (above ++ below) =
      (cutReleases (Text.endsLine above) below).map (above, ·) := by
  rw [cutReleasesBehind, Text.cutAtSize_size]

/-- The first element of a list that stands in it once more, farther to the front. -/
def firstRepeated? (seen : List Text) : List Text → Option Text
  | [] => none
  | label :: labels => if label ∈ seen then some label else firstRepeated? (label :: seen) labels

/-- A changelog. -/
structure Document extends Sections where
  /-- Everything above the unreleased section. -/
  preamble : Text
  /-- The link table. -/
  links : Text
  deriving DecidableEq, Repr

namespace Document

/-- Everything above the link table. -/
def upper (d : Document) : Text :=
  d.preamble ++ unreleasedHeading ++ d.unreleased ++ d.releases

/-- The text of a changelog. -/
def toText (d : Document) : Text := d.upper ++ d.links

/-- The labels of all releases, newest first. -/
def labels (d : Document) : List Text := releaseLabels d.releases

/-- The links of the table, in order. -/
def definitions (d : Document) : List LinkDefinition := linkDefinitions true d.links

/-- The definitions of the link of the unreleased changes. -/
def unreleasedLinks (d : Document) : List LinkDefinition :=
  d.definitions.filter (·.label == unreleasedLabel)

/-- No release and no link of the unreleased changes is written twice. -/
def checkRepeats (d : Document) : Except ShapeError Document :=
  match firstRepeated? [] d.labels with
  | some label => .error (.repeatedRelease label)
  | none => if 1 < d.unreleasedLinks.length then .error .repeatedUnreleasedLink else .ok d

theorem checkRepeats_eq_ok {d checked : Document} (h : d.checkRepeats = .ok checked) :
    checked = d := by
  simp only [checkRepeats] at h
  split at h
  · simp at h
  · split at h
    · simp at h
    · exact (Except.ok.inj h).symm

/-- The changelog with this text. What is missing is reported in the order link table, unreleased
section, release; then come repeated releases and last repeated links. -/
def ofText (s : Text) : Except ShapeError Document := do
  let (upper, links) ← cutLinkTable s
  let (preamble, below) ← cutUnreleased upper
  if (Text.findLine isUnreleasedHeading false below).isSome then
    throw .repeatedUnreleasedSection
  let sections ← cutReleases false below
  checkRepeats { sections with preamble, links }

/-- Nothing of the text is lost. -/
theorem toText_of_ofText {s : Text} {d : Document} (h : ofText s = .ok d) : d.toText = s := by
  simp only [ofText, bind, Except.bind, throw, throwThe, MonadExceptOf.throw] at h
  split at h
  · simp at h
  · rename_i parts tables
    obtain ⟨upper, links⟩ := parts
    simp only at h
    split at h
    · simp at h
    · rename_i parts unreleased
      obtain ⟨preamble, below⟩ := parts
      simp only at h
      split at h
      · simp at h
      · split at h
        · simp at h
        · rename_i sections found
          obtain rfl := checkRepeats_eq_ok h
          rw [← append_of_cutLinkTable tables, ← append_of_cutUnreleased unreleased,
            ← append_of_cutReleases found]
          simp [toText, Document.upper]

end Document
end ReleaseLog
