import ReleaseLog.Document.Body
import ReleaseLog.Proofs.Document.Entry
import ReleaseLog.Proofs.Text.Search
import ReleaseLog.Proofs.Text.Span

/-!
# Lines of a body that a release looks for

A release looks for two kinds of lines in the unreleased body: the heading of its changes, and
references to pull requests of the same repository. What such a line looks like is said here
without the readers that find it, and the link of an entry is shown to be such a reference.
-/

namespace ReleaseLog

/-- The line is a heading, of any level, with this title. -/
def IsHeadingOf (title line : Text) : Prop :=
  ∃ level gap blanks, line = level ++ gap ++ title ++ blanks ∧
    level ≠ [] ∧ (∀ c ∈ level, c = '#') ∧ gap ≠ [] ∧ (∀ c ∈ gap, Text.isBlank c = true) ∧
      ∀ c ∈ blanks, Text.isBlank c = true

/-- The line has the form `[#number]: repository/pull/number`, and blanks may follow. -/
def IsReferenceTo (repository line : Text) : Prop :=
  ∃ number pull blanks,
    line = "[#".toList ++ number ++ "]: ".toList ++
        (repository ++ "/pull/".toList ++ pull ++ blanks) ∧
      Text.isDigits number = true ∧ repository ≠ [] ∧ Text.isWord repository ∧
        Text.isDigits pull = true ∧ ∀ c ∈ blanks, Text.isBlank c = true

variable {line repository address s : Text}

/-! ## Headings -/

theorem isChangesHeading_iff :
    isChangesHeading line = true ↔ IsHeadingOf "Changes".toList line := by
  constructor
  · intro heading
    unfold isChangesHeading at heading
    split at heading
    · cases heading
    · rename_i c level marks
      split at heading
      · cases heading
      · rename_i d gap blanks
        split at heading
        · rename_i rest title
          obtain ⟨text, isMark, _⟩ := Text.span_eq_iff.1 ⟨marks, rfl⟩
          obtain ⟨below, isGap, _⟩ := Text.span_eq_iff.1 ⟨blanks, rfl⟩
          refine ⟨c :: level, d :: gap, rest, ?_, by simp, ?_, by simp, isGap, ?_⟩
          · rw [text, below, Text.after?_eq_some_iff.1 title]
            simp
          · intro mark member
            simpa using isMark mark member
          · simpa using heading
        · cases heading
  · rintro ⟨level, gap, blanks, rfl, marked, isMark, gapped, isGap, isBlank⟩
    obtain ⟨c, level, rfl⟩ := List.exists_cons_of_ne_nil marked
    obtain ⟨d, gap, rfl⟩ := List.exists_cons_of_ne_nil gapped
    have endsLevel :
        ∀ e ∈ (d :: gap ++ ("Changes".toList ++ blanks)).head?, (e == '#') = false := by
      rintro _ ⟨⟩
      have blank := isGap d List.mem_cons_self
      rcases (by simpa [Text.isBlank] using blank : d = ' ' ∨ d = '\t') with rfl | rfl <;> rfl
    have endsGap : ∀ e ∈ ("Changes".toList ++ blanks).head?, Text.isBlank e = false := by
      rintro _ ⟨⟩
      rfl
    have isLevel : ∀ e ∈ c :: level, (e == '#') = true := by
      simpa using isMark
    have marks := Text.span_append isLevel endsLevel
    have gaps := Text.span_append isGap endsGap
    have title : Text.after? "Changes".toList ("Changes".toList ++ blanks) = some blanks :=
      Text.after?_eq_some_iff.2 rfl
    simp only [List.append_assoc]
    simp only [isChangesHeading, marks, gaps, title]
    simpa using isBlank

theorem isChangesHeading_eq_false_iff :
    isChangesHeading line = false ↔ ¬ IsHeadingOf "Changes".toList line := by
  rw [← isChangesHeading_iff, Bool.not_eq_true]

instance (line : Text) : Decidable (IsHeadingOf "Changes".toList line) :=
  decidable_of_iff _ isChangesHeading_iff

/-! ## References -/

theorem not_isBlank_of_isWord {c : Char} (word : Text.isWord s) (member : c ∈ s) :
    Text.isBlank c = false := by
  cases blank : Text.isBlank c with
  | false => rfl
  | true =>
      have white := Text.isWhite_of_isBlank blank
      rw [word c member] at white
      cases white

theorem pullRepository?_eq_some_iff :
    pullRepository? address = some repository ↔
      ∃ pull blanks, address = repository ++ "/pull/".toList ++ pull ++ blanks ∧
        repository ≠ [] ∧ Text.isWord repository ∧ Text.isDigits pull = true ∧
          ∀ c ∈ blanks, Text.isBlank c = true := by
  constructor
  · intro found
    unfold pullRepository? at found
    simp only at found
    split at found
    · cases found
    · rename_i c pull digits
      split at found
      · rename_i d rest opened
        split at found
        · rename_i word
          obtain rfl := Option.some.inj found
          have cut := Text.span_eq_iff.1
            ⟨Eq.refl (address.reverse.takeWhile Text.isBlank), rfl⟩
          generalize address.reverse.takeWhile Text.isBlank = blanks at cut
          obtain ⟨back, isBlank, _⟩ := cut
          obtain ⟨number, isDigit, _⟩ := Text.span_eq_iff.1 ⟨digits, rfl⟩
          rw [number, Text.after?_eq_some_iff.1 opened] at back
          refine ⟨(c :: pull).reverse, blanks.reverse, ?_, by simp, ?_, ?_, ?_⟩
          · have pulls : "/pull/".toList = "/llup/".toList.reverse := rfl
            rw [← List.reverse_reverse address, back, pulls]
            simp only [List.reverse_append, List.append_assoc]
          · intro char member
            have all := List.all_eq_true.1 word char (List.mem_reverse.1 member)
            simpa using all
          · refine Text.isDigits_iff.2 ⟨by simp, fun char member => ?_⟩
            exact isDigit char (List.mem_reverse.1 member)
          · intro char member
            exact isBlank char (List.mem_reverse.1 member)
        · cases found
      · cases found
  · rintro ⟨pull, blanks, rfl, nonempty, word, isPull, isBlank⟩
    have pullWord := isWord_of_isDigits isPull
    rw [Text.isDigits_iff] at isPull
    obtain ⟨c, digits, back⟩ := List.exists_cons_of_ne_nil
      (List.reverse_eq_nil_iff.not.2 isPull.1)
    obtain ⟨d, rest, word_back⟩ := List.exists_cons_of_ne_nil
      (List.reverse_eq_nil_iff.not.2 nonempty)
    have isPullChar : ∀ char ∈ c :: digits, char ∈ pull := by
      intro char member
      rw [← back] at member
      exact List.mem_reverse.1 member
    have isDigit : ∀ char ∈ c :: digits, char.isDigit = true := by
      intro char member
      exact isPull.2 char (isPullChar char member)
    have text : (repository ++ "/pull/".toList ++ pull ++ blanks).reverse =
        blanks.reverse ++ (c :: digits ++ ("/llup/".toList ++ d :: rest)) := by
      have pulls : "/pull/".toList.reverse = "/llup/".toList := rfl
      rw [← back, ← word_back, ← pulls]
      simp only [List.reverse_append, List.append_assoc]
    have endsBlanks : ∀ e ∈ (c :: digits ++ ("/llup/".toList ++ d :: rest)).head?,
        Text.isBlank e = false := by
      rintro _ ⟨⟩
      exact not_isBlank_of_isWord pullWord (isPullChar c List.mem_cons_self)
    have endsNumber : ∀ e ∈ ("/llup/".toList ++ d :: rest).head?, e.isDigit = false := by
      rintro _ ⟨⟩
      rfl
    have isBlankBack : ∀ e ∈ blanks.reverse, Text.isBlank e = true := by
      simpa using isBlank
    have spaces := Text.span_append isBlankBack endsBlanks
    have number := Text.span_append isDigit endsNumber
    have opened : Text.after? "/llup/".toList ("/llup/".toList ++ d :: rest) = some (d :: rest) :=
      Text.after?_eq_some_iff.2 rfl
    have dark : (d :: rest).all (!Text.isWhite ·) = true := by
      rw [← word_back]
      simpa [List.all_eq_true, Text.isWord] using word
    simp only [pullRepository?, text, spaces, number, opened, dark, if_true]
    rw [← word_back, List.reverse_reverse]

theorem citedRepository?_eq_some_iff :
    citedRepository? line = some repository ↔ IsReferenceTo repository line := by
  constructor
  · intro found
    unfold citedRepository? at found
    split at found
    · cases found
    · rename_i rest opened
      split at found
      · cases found
      · rename_i c number digits
        split at found
        · rename_i address closed
          obtain ⟨text, isDigit, _⟩ := Text.span_eq_iff.1 ⟨digits, rfl⟩
          obtain ⟨pull, blanks, rfl, nonempty, word, isPull, isBlank⟩ :=
            pullRepository?_eq_some_iff.1 found
          refine ⟨c :: number, pull, blanks, ?_, ?_, nonempty, word, isPull, isBlank⟩
          · rw [Text.after?_eq_some_iff.1 opened, text, Text.after?_eq_some_iff.1 closed]
            simp only [List.append_assoc]
          · exact Text.isDigits_iff.2 ⟨List.cons_ne_nil _ _, isDigit⟩
        · cases found
  · rintro ⟨number, pull, blanks, rfl, isNumber, nonempty, word, isPull, isBlank⟩
    have address := pullRepository?_eq_some_iff.2
      ⟨pull, blanks, rfl, nonempty, word, isPull, isBlank⟩
    rw [Text.isDigits_iff] at isNumber
    obtain ⟨c, digits, rfl⟩ := List.exists_cons_of_ne_nil isNumber.1
    generalize repository ++ "/pull/".toList ++ pull ++ blanks = target at address
    have opened : Text.after? "[#".toList ("[#".toList ++ (c :: digits ++ ("]: ".toList ++ target)))
        = some (c :: digits ++ ("]: ".toList ++ target)) := Text.after?_eq_some_iff.2 rfl
    have endsNumber : ∀ e ∈ ("]: ".toList ++ target).head?, e.isDigit = false := by
      rintro _ ⟨⟩
      rfl
    have numbers := Text.span_append isNumber.2 endsNumber
    have closed : Text.after? "]: ".toList ("]: ".toList ++ target) = some target :=
      Text.after?_eq_some_iff.2 rfl
    simp only [List.append_assoc]
    simp only [citedRepository?, opened, numbers, closed, address]

/-- The link of an entry refers to its repository if that is a word, and only then. -/
theorem isReferenceTo_pullLink_iff {number : Nat} :
    IsReferenceTo repository (pullLink repository number) ↔
      repository ≠ [] ∧ Text.isWord repository := by
  constructor
  · rintro ⟨_, _, _, _, _, nonempty, word, _⟩
    exact ⟨nonempty, word⟩
  · rintro ⟨nonempty, word⟩
    have digits := Text.isDigits_ofNat number
    refine ⟨Text.ofNat number, Text.ofNat number, [], ?_, digits, nonempty, word, digits, by simp⟩
    simp [pullLink, pullCitation]

theorem citedRepository?_bullet {version : Text} {number : Nat} :
    citedRepository? (Entry.compose version number repository).bullet = none := rfl

end ReleaseLog
