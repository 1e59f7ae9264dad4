import ReleaseLog.Date.Stamp
import ReleaseLog.Entry
import ReleaseLog.Proofs.Document.Heading

/-!
# What a release writes

The entry and the date of a release keep to their lines, and neither line of the entry can be taken
for one that divides the changelog.
-/

namespace ReleaseLog

variable {version repository : Text} {number : Nat}

theorem isWord_of_isDigits {s : Text} (h : Text.isDigits s = true) : Text.isWord s := by
  intro c member
  have labelChar : isLabelChar c = true := by
    simp only [isLabelChar, Bool.or_eq_true]
    exact .inl (.inl (.inl ((Text.isDigits_iff.1 h).2 c member)))
  exact not_isWhite_of_isLabelChar labelChar

theorem isWord_ofNat (n : Nat) : Text.isWord (Text.ofNat n) :=
  isWord_of_isDigits (Text.isDigits_ofNat n)

theorem isWord_ofNatPadded (width n : Nat) : Text.isWord (Text.ofNatPadded width n) :=
  isWord_of_isDigits (Text.isDigits_ofNatPadded width n)

theorem dependencyVersion_subset (version : Text) : dependencyVersion version ⊆ version := by
  unfold dependencyVersion
  split
  · rename_i c dependency rest
    have suffix : c :: dependency <:+ version := by
      rw [← rest]
      exact List.dropWhile_suffix _
    intro d member
    exact suffix.subset (List.mem_cons_of_mem c member)
  · exact List.Subset.refl _

theorem Date.isWord_stamp (date : Date) : Text.isWord date.stamp := by
  have sign : ∀ {c : Char} {s : Text}, Text.isWhite c = false → Text.isWord s →
      Text.isWord (c :: s) := by
    intro c s dark word d member
    rcases List.mem_cons.1 member with rfl | later
    · exact dark
    · exact word d later
  have year : Text.isWord (yearText date.year) := by
    unfold yearText
    split
    · exact sign (by decide) (isWord_ofNatPadded _ _)
    · split
      · exact sign (by decide) (isWord_ofNatPadded _ _)
      · exact isWord_ofNatPadded _ _
  rw [stamp, Text.isWord_append, Text.isWord_append]
  exact ⟨⟨year, sign (by decide) (isWord_ofNatPadded _ _)⟩,
    sign (by decide) (isWord_ofNatPadded _ _)⟩

theorem isInline_pullCitation (number : Nat) : Text.isInline (pullCitation number) := by
  have opening : Text.isInline "[#".toList := by decide
  have closing : Text.isInline "]".toList := by decide
  rw [pullCitation, Text.isInline_append, Text.isInline_append]
  exact ⟨⟨opening, (isWord_ofNat number).isInline⟩, closing⟩

namespace Entry

theorem isInline_bullet (h : Text.isInline version) :
    Text.isInline (compose version number repository).bullet := by
  have opening : Text.isInline "* chore: bump nearcore to ".toList := by decide
  have between : Text.isInline " in ".toList := by decide
  have dependency : Text.isInline (dependencyVersion version) := by
    intro c member
    exact h c (dependencyVersion_subset version member)
  have text : (compose version number repository).bullet =
      "* chore: bump nearcore to ".toList ++ dependencyVersion version ++ " in ".toList ++
        pullCitation number := rfl
  rw [text, Text.isInline_append, Text.isInline_append, Text.isInline_append]
  exact ⟨⟨⟨opening, dependency⟩, between⟩, isInline_pullCitation number⟩

theorem isInline_link (h : Text.isInline repository) :
    Text.isInline (compose version number repository).link := by
  have colon : Text.isInline ": ".toList := by decide
  have pull : Text.isInline "/pull/".toList := by decide
  have text : (compose version number repository).link =
      pullCitation number ++ ": ".toList ++ repository ++ "/pull/".toList ++
        Text.ofNat number := rfl
  rw [text, Text.isInline_append, Text.isInline_append, Text.isInline_append,
    Text.isInline_append]
  exact ⟨⟨⟨⟨isInline_pullCitation number, colon⟩, h⟩, pull⟩, (isWord_ofNat number).isInline⟩

theorem isDividing_bullet : isDividing (compose version number repository).bullet = false := rfl

theorem isDividing_link : isDividing (compose version number repository).link = false := rfl

end Entry
end ReleaseLog
