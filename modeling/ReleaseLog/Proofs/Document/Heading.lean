import ReleaseLog.Document.Heading
import ReleaseLog.Document.LinkTable
import ReleaseLog.Proofs.Text.Occurrence
import ReleaseLog.Version

/-!
# Lines that divide a changelog

Three kinds of lines tell the parts of a changelog apart: the heading of the unreleased section, the
headings of releases and the link of the unreleased changes. Each is told by what the line begins
with, so a longer line divides whenever a shorter one does (`isDividing_of_isPrefix`). Every version
is a label, so the heading of its release is read back as what it is.
-/

namespace ReleaseLog

/-- The line begins the link table, the unreleased section or a release. -/
def isDividing (line : Text) : Bool :=
  isUnreleasedLink line || isUnreleasedHeading line || isReleaseHeading line

/-- The text can be the label of a release. -/
structure IsLabel (label : Text) : Prop where
  nonempty : label ≠ []
  chars : ∀ c ∈ label, isLabelChar c = true

theorem isDividing_eq_false_iff {line : Text} :
    isDividing line = false ↔
      isUnreleasedLink line = false ∧ isUnreleasedHeading line = false ∧
        isReleaseHeading line = false := by
  simp [isDividing, and_assoc]

/-! ## Labels -/

/-- A line is the heading of a release exactly if it begins like one. -/
theorem releaseLabel?_eq_some_iff {line label : Text} :
    releaseLabel? line = some label ↔ IsLabel label ∧ releaseHeading label <+: line := by
  have stop : isLabelChar ']' = false := by decide
  simp only [releaseLabel?]
  constructor
  · intro found
    split at found
    · cases found
    · rename_i rest opened
      split at found
      · rename_i c label after chars closed
        obtain rfl := Option.some.inj found
        refine ⟨⟨List.cons_ne_nil _ _, ?_⟩, after, ?_⟩
        · intro d member
          rw [← chars] at member
          exact List.mem_takeWhile_imp member
        · have whole := List.takeWhile_append_dropWhile (p := isLabelChar) (l := rest)
          rw [chars, closed] at whole
          rw [Text.after?_eq_some_iff.1 opened, ← whole]
          simp [releaseHeading]
      · cases found
  · rintro ⟨isLabel, after, rfl⟩
    have opened : Text.after? "## [".toList (releaseHeading label ++ after) =
        some (label ++ ']' :: after) := by
      rw [Text.after?_eq_some_iff]
      simp [releaseHeading]
    rw [opened]
    have chars : (label ++ ']' :: after).takeWhile isLabelChar = label := by
      rw [List.takeWhile_append_of_pos isLabel.chars, List.takeWhile_cons_of_neg (by simp [stop]),
        List.append_nil]
    have closed : (label ++ ']' :: after).dropWhile isLabelChar = ']' :: after := by
      rw [List.dropWhile_append_of_pos isLabel.chars, List.dropWhile_cons_of_neg (by simp [stop])]
    simp only [chars, closed]
    cases label with
    | nil => exact absurd rfl isLabel.nonempty
    | cons c cs => rfl

theorem isReleaseHeading_iff {line : Text} :
    isReleaseHeading line = true ↔ ∃ label, IsLabel label ∧ releaseHeading label <+: line := by
  rw [isReleaseHeading, Option.isSome_iff_exists]
  exact exists_congr fun label => releaseLabel?_eq_some_iff

/-! ## Longer lines -/

variable {line longer : Text}

theorem isUnreleasedLink_of_isPrefix (begins : line <+: longer) (h : isUnreleasedLink line = true) :
    isUnreleasedLink longer = true :=
  Text.startsWith_iff.2 ((Text.startsWith_iff.1 h).trans begins)

theorem isUnreleasedHeading_of_isPrefix (begins : line <+: longer)
    (h : isUnreleasedHeading line = true) : isUnreleasedHeading longer = true :=
  Text.startsWith_iff.2 ((Text.startsWith_iff.1 h).trans begins)

theorem isReleaseHeading_of_isPrefix (begins : line <+: longer)
    (h : isReleaseHeading line = true) : isReleaseHeading longer = true := by
  obtain ⟨label, isLabel, heading⟩ := isReleaseHeading_iff.1 h
  exact isReleaseHeading_iff.2 ⟨label, isLabel, heading.trans begins⟩

theorem isDividing_of_isPrefix (begins : line <+: longer) (h : isDividing line = true) :
    isDividing longer = true := by
  simp only [isDividing, Bool.or_eq_true] at h ⊢
  rcases h with (link | heading) | release
  · exact .inl (.inl (isUnreleasedLink_of_isPrefix begins link))
  · exact .inl (.inr (isUnreleasedHeading_of_isPrefix begins heading))
  · exact .inr (isReleaseHeading_of_isPrefix begins release)

/-! ## Versions -/

theorem isLabelChar_of_isVersionNumberChar {c : Char} (h : isVersionNumberChar c = true) :
    isLabelChar c = true := by
  simp only [isVersionNumberChar, Bool.or_eq_true] at h
  simp only [isLabelChar, Bool.or_eq_true]
  rcases h with digit | dot
  · exact .inl (.inl (.inl digit))
  · exact .inl (.inl (.inr dot))

theorem isLabelChar_of_isPrereleaseTag {s : Text} (h : isPrereleaseTag s = true) :
    ∀ c ∈ s, isLabelChar c = true := by
  unfold isPrereleaseTag at h
  split at h
  · cases h
  · rename_i c letters number name rest
    intro d member
    rw [← List.takeWhile_append_dropWhile (p := Char.isLower) (l := s), rest] at member
    simp only [isLabelChar, Bool.or_eq_true]
    rcases List.mem_append.1 member with letter | later
    · exact .inr (List.mem_takeWhile_imp letter)
    · rcases List.mem_cons.1 later with rfl | digit
      · exact .inl (.inl (.inr rfl))
      · exact .inl (.inl (.inl ((Text.isDigits_iff.1 h).2 d digit)))
  · cases h

theorem isLabelChar_of_isDependencyVersion {s : Text} (h : isDependencyVersion s = true) :
    ∀ c ∈ s, isLabelChar c = true := by
  unfold isDependencyVersion at h
  have parts := List.takeWhile_append_dropWhile (p := isVersionNumberChar) (l := s)
  have number : ∀ c ∈ s.takeWhile isVersionNumberChar, isLabelChar c = true := by
    intro c member
    exact isLabelChar_of_isVersionNumberChar (List.mem_takeWhile_imp member)
  split at h
  · cases h
  · rename_i rest
    rw [rest, List.append_nil] at parts
    rwa [parts] at number
  · rename_i tag _ rest
    intro c member
    rw [← parts, rest] at member
    rcases List.mem_append.1 member with front | later
    · exact number c front
    · rcases List.mem_cons.1 later with rfl | inTag
      · rfl
      · exact isLabelChar_of_isPrereleaseTag h c inTag
  · cases h

/-- Every version is a label. -/
theorem isLabel_of_isVersion {version : Text} (h : isVersion version = true) :
    IsLabel version := by
  unfold isVersion at h
  have parts := List.takeWhile_append_dropWhile (p := isVersionNumberChar) (l := version)
  split at h
  · cases h
  · rename_i first others dependency number rest
    rw [rest] at parts
    refine ⟨?_, ?_⟩
    · intro empty
      rw [empty] at number
      cases number
    · intro c member
      rw [← parts] at member
      rcases List.mem_append.1 member with front | later
      · exact isLabelChar_of_isVersionNumberChar (List.mem_takeWhile_imp front)
      · rcases List.mem_cons.1 later with rfl | inDependency
        · rfl
        · exact isLabelChar_of_isDependencyVersion h c inDependency
  · cases h

/-! ## Characters of a label -/

theorem not_isWhite_of_isLabelChar {c : Char} (h : isLabelChar c = true) :
    Text.isWhite c = false := by
  have code : c.toNat = 45 ∨ c.toNat = 46 ∨ (48 ≤ c.toNat ∧ c.toNat ≤ 57) ∨
      (97 ≤ c.toNat ∧ c.toNat ≤ 122) := by
    simp only [isLabelChar, Bool.or_eq_true, beq_iff_eq] at h
    rcases h with ((digit | rfl) | rfl) | lower
    · obtain ⟨low, high⟩ := Bool.and_eq_true_iff.1 digit
      exact .inr (.inr (.inl ⟨of_decide_eq_true low, of_decide_eq_true high⟩))
    · exact .inr (.inl rfl)
    · exact .inl rfl
    · obtain ⟨low, high⟩ := Bool.and_eq_true_iff.1 lower
      exact .inr (.inr (.inr ⟨of_decide_eq_true low, of_decide_eq_true high⟩))
  simp only [Text.isWhite, Bool.or_eq_false_iff, Bool.and_eq_false_iff, decide_eq_false_iff_not,
    beq_eq_false_iff_ne]
  omega

theorem IsLabel.isWord {label : Text} (h : IsLabel label) : Text.isWord label := by
  intro c member
  exact not_isWhite_of_isLabelChar (h.chars c member)

/-- The heading of a release keeps to one line. -/
theorem IsLabel.isInline_releaseHeading {label : Text} (h : IsLabel label) :
    Text.isInline (releaseHeading label) := by
  have opening : Text.isInline "## [".toList := by decide
  have closing : Text.isInline "]".toList := by decide
  rw [releaseHeading, Text.isInline_append, Text.isInline_append]
  exact ⟨⟨opening, h.isWord.isInline⟩, closing⟩

theorem releaseHeading_eq (label : Text) :
    releaseHeading label = '#' :: '#' :: ' ' :: '[' :: (label ++ [']']) := rfl

/-- The heading of a release is not that of the unreleased section. -/
theorem IsLabel.not_prefix_unreleasedHeading {label rest : Text} (h : IsLabel label) :
    ¬ releaseHeading label <+: unreleasedHeading ++ rest := by
  obtain ⟨c, cs, rfl⟩ := List.exists_cons_of_ne_nil h.nonempty
  have opening : unreleasedHeading ++ rest =
      '#' :: '#' :: ' ' :: '[' :: 'U' :: ("nreleased]".toList ++ rest) := rfl
  rw [releaseHeading_eq, opening]
  simp only [List.cons_append, List.cons_prefix_cons, true_and]
  rintro ⟨rfl, _⟩
  exact absurd (h.chars 'U' List.mem_cons_self) (by decide)

/-- The heading of a release is no link of the unreleased changes. -/
theorem not_prefix_unreleasedLink {label line : Text} (h : isUnreleasedLink line = true) :
    ¬ releaseHeading label <+: line := by
  obtain ⟨rest, rfl⟩ := Text.startsWith_iff.1 h
  have opening : unreleasedLinkMark ++ rest = '[' :: ("Unreleased]:".toList ++ rest) := rfl
  rw [releaseHeading_eq, opening]
  simp [List.cons_prefix_cons]

/-! ## Releases of a text -/

theorem mem_releaseLabels_iff {label s : Text} :
    label ∈ releaseLabels s ↔
      IsLabel label ∧ Text.leadsLine (releaseHeading label) true s := by
  simp only [releaseLabels, List.mem_filterMap, releaseLabel?_eq_some_iff, Text.leadsLine,
    Text.linesFrom_true]
  constructor
  · rintro ⟨line, member, isLabel, heading⟩
    exact ⟨isLabel, line, member, heading⟩
  · rintro ⟨isLabel, line, member, heading⟩
    exact ⟨line, member, isLabel, heading⟩

theorem mentionsRelease_iff {version s : Text} :
    mentionsRelease version s = true ↔ releaseHeading version <:+: s := Text.occursIn_iff

end ReleaseLog
