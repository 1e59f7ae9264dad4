import ReleaseLog.Text.Basic

/-!
# Decimal numbers

Numbers are written in decimal without leading zeros and read from any row of decimal digits,
leading zeros included. Reading what was written gives the number back (`digitsValue_ofNat`).
-/

namespace ReleaseLog
namespace Text

/-- The decimal text of a number. -/
def ofNat (n : Nat) : Text := Nat.toDigits 10 n

/-- The text is a row of one or more decimal digits. -/
def isDigits (s : Text) : Bool := !s.isEmpty && s.all Char.isDigit

theorem isDigits_iff {s : Text} : isDigits s = true ↔ s ≠ [] ∧ ∀ c ∈ s, c.isDigit = true := by
  simp [isDigits]

/-- The number that a row of decimal digits stands for. -/
def digitsValue (s : Text) : Nat := Nat.ofDigitChars 10 s 0

@[simp] theorem digitsValue_ofNat (n : Nat) : digitsValue (ofNat n) = n :=
  Nat.ofDigitChars_ten_toDigits

@[simp] theorem isDigits_ofNat (n : Nat) : isDigits (ofNat n) = true := by
  refine isDigits_iff.2 ⟨Nat.toDigits_ne_nil, fun c h => ?_⟩
  exact Nat.isDigit_of_mem_toDigits (by decide) (by decide) h

/-- The decimal text of a number, filled up with zeros in front to at least `width` digits. -/
def ofNatPadded (width n : Nat) : Text :=
  List.replicate (width - (ofNat n).length) '0' ++ ofNat n

@[simp] theorem digitsValue_ofNatPadded (width n : Nat) :
    digitsValue (ofNatPadded width n) = n := by
  simp [ofNatPadded, digitsValue, Nat.ofDigitChars_append, Nat.ofDigitChars_replicate_zero, ofNat,
    Nat.ofDigitChars_ten_toDigits]

@[simp] theorem isDigits_ofNatPadded (width n : Nat) : isDigits (ofNatPadded width n) = true := by
  obtain ⟨nonempty, plain⟩ := isDigits_iff.1 (isDigits_ofNat n)
  refine isDigits_iff.2 ⟨List.append_ne_nil_of_right_ne_nil _ nonempty, fun c h => ?_⟩
  rcases List.mem_append.1 h with zero | digit
  · rw [List.eq_of_mem_replicate zero]; decide
  · exact plain c digit

end Text
end ReleaseLog
