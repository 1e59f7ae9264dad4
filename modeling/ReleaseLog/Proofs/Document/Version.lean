import ReleaseLog.Proofs.Document.Release
import ReleaseLog.Proofs.Text.Span

/-!
# Versions between hyphens

A composite version is read from left to right, but it can be told from the parts between its
hyphens as well: there are two or three of them, each of its own kind (`IsVersionParts`). The node's
version is all parts but the first, and the heading of a release gives its version back whole.
-/

namespace ReleaseLog

/-- A plain version number: digits and dots. -/
structure IsVersionNumber (s : Text) : Prop where
  nonempty : s ≠ []
  chars : ∀ c ∈ s, c.isDigit = true ∨ c = '.'

/-- A prerelease tag: small letters, one dot, and digits. -/
structure IsPrereleaseTag (name number : Text) : Prop where
  named : name ≠ []
  letters : ∀ c ∈ name, c.isLower = true
  numbered : number ≠ []
  digits : ∀ c ∈ number, c.isDigit = true

/-- What stands between the hyphens of a composite version. -/
inductive IsVersionParts : List Text → Prop
  | final {own node : Text} (isOwn : IsVersionNumber own) (isNode : IsVersionNumber node) :
      IsVersionParts [own, node]
  | prerelease {own node name number : Text} (isOwn : IsVersionNumber own)
      (isNode : IsVersionNumber node) (isTag : IsPrereleaseTag name number) :
      IsVersionParts [own, node, name ++ '.' :: number]

variable {s number name tag version : Text}

/-! ## The readers -/

theorem IsVersionNumber.isVersionNumberChar (h : IsVersionNumber s) :
    ∀ c ∈ s, isVersionNumberChar c = true := by
  intro c member
  simpa [ReleaseLog.isVersionNumberChar] using h.chars c member

/-- A hyphen ends a version number. -/
theorem IsVersionNumber.span_hyphen (h : IsVersionNumber s) (rest : Text) :
    (s ++ '-' :: rest).takeWhile ReleaseLog.isVersionNumberChar = s ∧
      (s ++ '-' :: rest).dropWhile ReleaseLog.isVersionNumberChar = '-' :: rest := by
  refine Text.span_append h.isVersionNumberChar ?_
  rintro _ ⟨⟩
  rfl

theorem isVersionNumber_of_span {c : Char} {rest : Text}
    (front : s.takeWhile isVersionNumberChar = c :: number)
    (back : s.dropWhile isVersionNumberChar = rest) :
    s = (c :: number) ++ rest ∧ IsVersionNumber (c :: number) := by
  obtain ⟨text, chars, _⟩ := Text.span_eq_iff.1 ⟨front, back⟩
  refine ⟨text, List.cons_ne_nil _ _, fun d member => ?_⟩
  simpa [isVersionNumberChar] using chars d member

theorem isPrereleaseTag_iff :
    isPrereleaseTag tag = true ↔
      ∃ name number, tag = name ++ '.' :: number ∧ IsPrereleaseTag name number := by
  constructor
  · intro valid
    unfold isPrereleaseTag at valid
    split at valid
    · cases valid
    · rename_i c name number front back
      obtain ⟨text, letters, _⟩ := Text.span_eq_iff.1 ⟨front, back⟩
      obtain ⟨numbered, digits⟩ := Text.isDigits_iff.1 valid
      exact ⟨c :: name, number, text, List.cons_ne_nil _ _, letters, numbered, digits⟩
    · cases valid
  · rintro ⟨name, number, rfl, named, letters, numbered, digits⟩
    obtain ⟨c, name, rfl⟩ := List.exists_cons_of_ne_nil named
    have stop : ∀ d ∈ ('.' :: number).head?, d.isLower = false := by
      rintro _ ⟨⟩
      rfl
    obtain ⟨front, back⟩ := Text.span_append letters stop
    simp only [isPrereleaseTag, front, back]
    exact Text.isDigits_iff.2 ⟨numbered, digits⟩

theorem isDependencyVersion_iff :
    isDependencyVersion s = true ↔
      IsVersionNumber s ∨
        ∃ number tag, s = number ++ '-' :: tag ∧ IsVersionNumber number ∧
          isPrereleaseTag tag = true := by
  constructor
  · intro valid
    unfold isDependencyVersion at valid
    split at valid
    · cases valid
    · rename_i front back
      obtain ⟨text, isNumber⟩ := isVersionNumber_of_span front back
      rw [List.append_nil] at text
      exact .inl (text ▸ isNumber)
    · rename_i tag front back
      obtain ⟨text, isNumber⟩ := isVersionNumber_of_span front back
      exact .inr ⟨_, tag, text, isNumber, valid⟩
    · cases valid
  · rintro (isNumber | ⟨number, tag, rfl, isNumber, isTag⟩)
    · obtain ⟨c, number, rfl⟩ := List.exists_cons_of_ne_nil isNumber.nonempty
      have stop : ∀ d ∈ ([] : Text).head?, isVersionNumberChar d = false := by simp
      have span := Text.span_append isNumber.isVersionNumberChar stop
      rw [List.append_nil] at span
      simp only [isDependencyVersion, span]
    · obtain ⟨c, number, rfl⟩ := List.exists_cons_of_ne_nil isNumber.nonempty
      simp only [isDependencyVersion, isNumber.span_hyphen]
      exact isTag

theorem isVersion_iff :
    isVersion version = true ↔
      ∃ own dependency, version = own ++ '-' :: dependency ∧ IsVersionNumber own ∧
        isDependencyVersion dependency = true := by
  constructor
  · intro valid
    unfold isVersion at valid
    split at valid
    · cases valid
    · rename_i dependency front back
      obtain ⟨text, isNumber⟩ := isVersionNumber_of_span front back
      exact ⟨_, dependency, text, isNumber, valid⟩
    · cases valid
  · rintro ⟨own, dependency, rfl, isNumber, isDependency⟩
    obtain ⟨c, own, rfl⟩ := List.exists_cons_of_ne_nil isNumber.nonempty
    simp only [isVersion, isNumber.span_hyphen]
    exact isDependency

/-! ## The parts -/

theorem IsVersionNumber.not_mem (h : IsVersionNumber s) : '-' ∉ s := by
  intro member
  rcases h.chars '-' member with digit | dot
  · cases digit
  · cases dot

theorem IsPrereleaseTag.not_mem (h : IsPrereleaseTag name number) :
    '-' ∉ name ++ '.' :: number := by
  intro member
  rcases List.mem_append.1 member with letter | later
  · exact absurd (h.letters '-' letter) (by decide)
  · rcases List.mem_cons.1 later with dot | digit
    · cases dot
    · exact absurd (h.digits '-' digit) (by decide)

/-- The versions are the texts whose parts are right. -/
theorem isVersionParts_iff :
    IsVersionParts (Text.splitOn '-' version) ↔ isVersion version = true := by
  rw [isVersion_iff]
  constructor
  · intro isParts
    generalize parts : Text.splitOn '-' version = list at isParts
    cases isParts with
    | final isOwn isNode =>
        obtain ⟨dependency, text, _, later⟩ := Text.splitOn_eq_cons_cons_iff.1 parts
        obtain ⟨rfl, _⟩ := Text.splitOn_eq_singleton_iff.1 later
        exact ⟨_, _, text, isOwn, isDependencyVersion_iff.2 (.inl isNode)⟩
    | prerelease isOwn isNode isTag =>
        obtain ⟨dependency, text, _, later⟩ := Text.splitOn_eq_cons_cons_iff.1 parts
        obtain ⟨tag, rfl, _, last⟩ := Text.splitOn_eq_cons_cons_iff.1 later
        obtain ⟨rfl, _⟩ := Text.splitOn_eq_singleton_iff.1 last
        have tagged := isPrereleaseTag_iff.2 ⟨_, _, rfl, isTag⟩
        exact ⟨_, _, text, isOwn, isDependencyVersion_iff.2 (.inr ⟨_, _, rfl, isNode, tagged⟩)⟩
  · rintro ⟨own, dependency, rfl, isOwn, isDependency⟩
    rw [Text.splitOn_append isOwn.not_mem]
    rcases isDependencyVersion_iff.1 isDependency with isNode | ⟨node, tag, rfl, isNode, isTag⟩
    · rw [Text.splitOn_of_not_mem isNode.not_mem]
      exact .final isOwn isNode
    · obtain ⟨name, number, rfl, tagged⟩ := isPrereleaseTag_iff.1 isTag
      rw [Text.splitOn_append isNode.not_mem, Text.splitOn_of_not_mem tagged.not_mem]
      exact .prerelease isOwn isNode tagged

/-! ## The node's version -/

/-- The node's version is what the first hyphen leaves. -/
theorem dependencyVersion_append (h : '-' ∉ s) (dependency : Text) :
    dependencyVersion (s ++ '-' :: dependency) = dependency := by
  have hyphen : ∀ c ∈ ('-' :: dependency).head?, (c != '-') = false := by
    rintro _ ⟨⟩
    rfl
  rw [dependencyVersion, (Text.span_append (Text.bne_of_not_mem h) hyphen).2]

theorem ne_nil_of_isDependencyVersion (h : isDependencyVersion s = true) : s ≠ [] := by
  rintro rfl
  cases h

/-- The first hyphen divides a version into its first part and the node's version, which has all
other parts. -/
theorem exists_dependencyVersion (valid : isVersion version = true) :
    ∃ own parts, Text.splitOn '-' version = own :: parts ∧
      version = own ++ '-' :: dependencyVersion version ∧ dependencyVersion version ≠ [] ∧
        Text.splitOn '-' (dependencyVersion version) = parts := by
  obtain ⟨own, dependency, rfl, isOwn, isDependency⟩ := isVersion_iff.1 valid
  rw [dependencyVersion_append isOwn.not_mem]
  exact ⟨own, _, Text.splitOn_append isOwn.not_mem dependency, rfl,
    ne_nil_of_isDependencyVersion isDependency, rfl⟩

/-! ## Versions -/

/-- The heading of a release stands on a line of its own in the rendered changelog. -/
theorem releasedTitle_mem_lines {config : Config} {stamp content output : Text}
    (valid : isVersion config.version = true) (inline : Text.isInline stamp)
    (rendered : render config stamp content = .ok output) :
    Document.releasedTitle config stamp ∈ Text.lines output := by
  obtain ⟨old, _, rfl⟩ := render_eq_ok_iff.1 rendered
  rw [Document.lines_release, Document.lines_releasedTitle (isLabel_of_isVersion valid) inline]
  simp

/-- A text is a version exactly if its parts between hyphens are those of one. The node's version
is then all of it behind the first hyphen, and the heading of its release, which every rendered
changelog has on a line, is read back as this version and nothing else. -/
theorem isVersion_iff_isVersionParts (version : Text) :
    (isVersion version = true ↔ IsVersionParts (Text.splitOn '-' version)) ∧
    (isVersion version = true →
      (∃ own parts, Text.splitOn '-' version = own :: parts ∧
        version = own ++ '-' :: dependencyVersion version ∧ dependencyVersion version ≠ [] ∧
          Text.splitOn '-' (dependencyVersion version) = parts) ∧
      (∀ stamp, releaseLabel? (releaseHeading version ++ " ".toList ++ stamp) = some version) ∧
      ∀ (config : Config) (date : Date) (content output : Text), config.version = version →
        render config date.stamp content = .ok output →
          releaseHeading version ++ " ".toList ++ date.stamp ∈ Text.lines output) := by
  refine ⟨isVersionParts_iff.symm, fun valid => ⟨exists_dependencyVersion valid, ?_, ?_⟩⟩
  · intro stamp
    refine releaseLabel?_eq_some_iff.2 ⟨isLabel_of_isVersion valid, ?_⟩
    rw [List.append_assoc]
    exact List.prefix_append _ _
  · rintro config date content output rfl rendered
    exact releasedTitle_mem_lines valid date.isWord_stamp.isInline rendered

/-- A prerelease of the node keeps its tag. -/
theorem isVersion_iff_isVersionParts_tagged :
    let version := "1.2-3.4-rc.1".toList
    IsVersionParts ["1.2".toList, "3.4".toList, "rc.1".toList] ∧
      dependencyVersion version = "3.4-rc.1".toList ∧
        releaseLabel? "## [1.2-3.4-rc.1] 2024-02-02".toList = some version := by
  intro version
  have valid : isVersion version = true := by decide
  obtain ⟨parts, law⟩ := isVersion_iff_isVersionParts version
  obtain ⟨⟨own, later, split, text, _⟩, label, _⟩ := law valid
  have pieces : Text.splitOn '-' version = ["1.2".toList, "3.4".toList, "rc.1".toList] := by decide
  rw [pieces] at parts split
  cases split
  have whole : "1.2-".toList ++ "3.4-rc.1".toList = "1.2-".toList ++ dependencyVersion version :=
    text
  exact ⟨parts.1 valid, (List.append_cancel_left whole).symm, label "2024-02-02".toList⟩

end ReleaseLog
