import ReleaseLog.Entry
import ReleaseLog.Proofs.Config.RoundTrip
import ReleaseLog.Proofs.Text.Numeral

/-!
# Numbers of pull requests

The number of a pull request is read from any row of digits, with any number of zeros in front and
with or without one `+` before them. It has to be one of the positive numbers of 64 bits. What the
changelog cites is its numeral: the number as it was given, but for the sign and the zeros.
-/

namespace ReleaseLog

/-- Both lines of the entry cite the number, and the link leads to its pull request. -/
structure Entry.Cites (entry : Entry) (numeral : Text) : Prop where
  bullet : "[#".toList ++ numeral ++ "]".toList <:+ entry.bullet
  link : "[#".toList ++ numeral ++ "]".toList <+: entry.link
  target : "/pull/".toList ++ numeral <:+ entry.link

namespace Config

variable {value : Text} {n : Nat} {error : InputError}

/-- The spellings of a number: a row of digits, behind one `+` or none. -/
inductive IsNumberText : Text → Nat → Prop
  | plain {digits : Text} (isDigits : Text.isDigits digits = true) :
      IsNumberText digits (Text.placeValue digits)
  | signed {digits : Text} (isDigits : Text.isDigits digits = true) :
      IsNumberText ('+' :: digits) (Text.placeValue digits)

/-- A number that a pull request can have: there is no pull request 0, and 64 bits have to do. -/
structure IsPullNumber (value : Text) (n : Nat) : Prop where
  spelled : IsNumberText value n
  positive : 1 ≤ n
  fits : n ≤ 2 ^ 64 - 1

/-- The number that a text spells, built up in 64 bits. -/
def readWord? (value : Text) : Option UInt64 :=
  if Text.isDigits (dropPlus value) then (dropPlus value).foldlM Text.pushDigit? 0 else none

theorem dropPlus_cases (value : Text) :
    ∃ digits, dropPlus value = digits ∧ (value = digits ∨ value = '+' :: digits) := by
  unfold dropPlus
  split
  · exact ⟨_, rfl, .inr rfl⟩
  · exact ⟨_, rfl, .inl rfl⟩

theorem isNumberText_iff :
    IsNumberText value n ↔
      Text.isDigits (dropPlus value) = true ∧ Text.digitsValue (dropPlus value) = n := by
  constructor
  · intro spelled
    cases spelled with
    | plain isDigits =>
        rw [dropPlus_of_isDigits isDigits]
        exact ⟨isDigits, (Text.placeValue_eq_digitsValue _).symm⟩
    | signed isDigits => exact ⟨isDigits, (Text.placeValue_eq_digitsValue _).symm⟩
  · rintro ⟨isDigits, same⟩
    obtain ⟨digits, dropped, text⟩ := dropPlus_cases value
    rw [dropped] at isDigits same
    rw [← same, ← Text.placeValue_eq_digitsValue]
    cases text with
    | inl plain =>
        rw [plain]
        exact .plain isDigits
    | inr signed =>
        rw [signed]
        exact .signed isDigits

theorem readPullRequest_eq_ok_iff_isPullNumber :
    readPullRequest value = .ok n ↔ IsPullNumber value n := by
  rw [readPullRequest_eq_ok_iff, ← and_assoc, ← isNumberText_iff]
  constructor
  · rintro ⟨spelled, positive, fits⟩
    exact ⟨spelled, positive, fits⟩
  · rintro ⟨spelled, positive, fits⟩
    exact ⟨spelled, positive, fits⟩

theorem readPullRequest_eq_error_iff :
    readPullRequest value = .error error ↔
      error = .invalidPullRequest value ∧ ∀ n, readPullRequest value ≠ .ok n := by
  simp only [readPullRequest]
  split
  · simp
  · simp [eq_comm]

/-- Reading in 64 bits fails where the number is too large, and nowhere else. -/
theorem readPullRequest_eq_ok_iff_readWord? :
    readPullRequest value = .ok n ↔
      ∃ word, readWord? value = some word ∧ word ≠ 0 ∧ word.toNat = n := by
  have largest : maxPullRequest = 2 ^ 64 - 1 := rfl
  rw [readPullRequest_eq_ok_iff, largest]
  unfold readWord?
  by_cases isDigits : Text.isDigits (dropPlus value) = true
  · simp only [isDigits, if_true, true_and, Text.foldlM_pushDigit?_eq_some_iff, UInt64.toNat_zero,
      Nat.mul_zero, Nat.zero_add, ne_eq, ← UInt64.toNat_inj]
    constructor
    · rintro ⟨same, positive, fits⟩
      have bound : n < 2 ^ 64 := by omega
      have word := UInt64.toNat_ofNat_of_lt' bound
      exact ⟨_, word.trans same.symm, by omega, word⟩
    · rintro ⟨word, total, positive, same⟩
      have bound := word.toNat_lt
      exact ⟨total.symm.trans same, by omega, by omega⟩
  · simp [isDigits]

/-- What was given ends with the numeral of its number. -/
theorem exists_append_ofNat (h : IsPullNumber value n) :
    ∃ front, value = front ++ Text.ofNat n ∧ front ⊆ "+0".toList := by
  obtain ⟨isDigits, rfl⟩ := isNumberText_iff.1 h.spelled
  obtain ⟨digits, dropped, text⟩ := dropPlus_cases value
  rw [dropped] at isDigits ⊢
  have row := Text.ofNatPadded_digitsValue isDigits rfl
  rw [Text.ofNatPadded] at row
  have zero : ∀ count, List.replicate count '0' ⊆ "+0".toList := by
    intro count c member
    rw [List.eq_of_mem_replicate member]
    decide
  cases text with
  | inl plain => exact ⟨_, plain.trans row.symm, zero _⟩
  | inr signed =>
      have text := signed.trans (congrArg ('+' :: ·) row.symm)
      exact ⟨'+' :: _, text, List.cons_subset.2 ⟨by decide, zero _⟩⟩

theorem cites_compose (version repository : Text) (n : Nat) :
    (Entry.compose version n repository).Cites (Text.ofNat n) where
  bullet := by
    change pullCitation n <:+ "* chore: bump nearcore to ".toList ++ dependencyVersion version ++
      " in ".toList ++ pullCitation n
    exact List.suffix_append _ _
  link := by
    change pullCitation n <+: pullLink repository n
    rw [pullLink, List.append_assoc, List.append_assoc, List.append_assoc]
    exact List.prefix_append _ _
  target := by
    change "/pull/".toList ++ Text.ofNat n <:+ pullLink repository n
    rw [pullLink, List.append_assoc _ "/pull/".toList]
    exact List.suffix_append _ _

/-- A number is read from its spellings and from nothing else, and is the number that the places of
the digits add up to, which is what comes out if it is built up in 64 bits. The entry of a release
cites its numeral, with which the given text ends. -/
theorem readPullRequest_spelling_iff (value : Text) :
    (∀ n, readPullRequest value = .ok n ↔ IsPullNumber value n) ∧
    (∀ error, readPullRequest value = .error error ↔
      error = .invalidPullRequest value ∧ ∀ n, ¬ IsPullNumber value n) ∧
    (∀ n, readPullRequest value = .ok n ↔
      ∃ word, readWord? value = some word ∧ word ≠ 0 ∧ word.toNat = n) ∧
    ∀ n, readPullRequest value = .ok n → ∃ front numeral,
      value = front ++ numeral ∧ front ⊆ "+0".toList ∧ Text.IsNumeral numeral n ∧
        ∀ version repository, (Entry.compose version n repository).Cites numeral := by
  refine ⟨fun n => readPullRequest_eq_ok_iff_isPullNumber, ?_,
    fun n => readPullRequest_eq_ok_iff_readWord?, ?_⟩
  · intro error
    simp only [readPullRequest_eq_error_iff, ne_eq, readPullRequest_eq_ok_iff_isPullNumber]
  · intro n read
    have isNumber := readPullRequest_eq_ok_iff_isPullNumber.1 read
    obtain ⟨front, text, passed⟩ := exists_append_ofNat isNumber
    refine ⟨front, Text.ofNat n, text, passed, Text.isNumeral_ofNat isNumber.positive, ?_⟩
    intro version repository
    exact cites_compose version repository n

/-- The largest number, with a sign and zeros in front. -/
theorem readPullRequest_spelling_iff_largest :
    let value := "+0018446744073709551615".toList
    readPullRequest value = .ok (2 ^ 64 - 1) ∧ IsPullNumber value (2 ^ 64 - 1) ∧
      (∃ word, readWord? value = some word ∧ word ≠ 0 ∧ word.toNat = 2 ^ 64 - 1) ∧
      ∃ front numeral, value = front ++ numeral ∧ front ⊆ "+0".toList ∧
        Text.IsNumeral numeral (2 ^ 64 - 1) ∧
          ∀ version repository, (Entry.compose version (2 ^ 64 - 1) repository).Cites numeral := by
  intro value
  have read : readPullRequest value = .ok (2 ^ 64 - 1) := by decide
  obtain ⟨spelled, _, built, cited⟩ := readPullRequest_spelling_iff value
  exact ⟨read, (spelled _).1 read, (built _).1 read, cited _ read⟩

/-- One more is too large. -/
example : readPullRequest "18446744073709551616".toList =
    .error (.invalidPullRequest "18446744073709551616".toList) := by decide

end Config
end ReleaseLog
