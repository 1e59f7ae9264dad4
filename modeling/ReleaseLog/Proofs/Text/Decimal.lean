import ReleaseLog.Text.Decimal

/-!
# Rows of digits and their numbers

A row of digits of a given length is known from the number that it stands for, so a number that was
read from such a row is written as that row again.
-/

namespace ReleaseLog
namespace Text

variable {digits other : Text} {c : Char} {width : Nat}

/-- The number that a digit stands for. -/
def digitValue (c : Char) : Nat := c.toNat - '0'.toNat

theorem digitValue_lt (h : c.isDigit = true) : digitValue c < 10 := by
  simp only [Char.isDigit, Bool.and_eq_true, decide_eq_true_eq] at h
  have high : c.toNat ≤ 57 := h.2
  have zero : '0'.toNat = 48 := rfl
  unfold digitValue
  omega

theorem eq_of_digitValue_eq {d : Char} (hc : c.isDigit = true) (hd : d.isDigit = true)
    (same : digitValue c = digitValue d) : c = d := by
  simp only [Char.isDigit, Bool.and_eq_true, decide_eq_true_eq] at hc hd
  have lowC : 48 ≤ c.toNat := hc.1
  have lowD : 48 ≤ d.toNat := hd.1
  have zero : '0'.toNat = 48 := rfl
  unfold digitValue at same
  exact Char.toNat_inj.1 (by omega)

theorem digitsValue_cons (c : Char) (digits : Text) :
    digitsValue (c :: digits) = Nat.pow 10 digits.length * digitValue c + digitsValue digits := by
  rw [digitsValue, Nat.ofDigitChars_cons, Nat.ofDigitChars_eq_ofDigitChars_zero]
  simp [digitValue, digitsValue]

theorem digitsValue_lt (h : ∀ c ∈ digits, c.isDigit = true) :
    digitsValue digits < Nat.pow 10 digits.length := by
  induction digits with
  | nil => decide
  | cons c digits ih =>
      obtain ⟨first, later⟩ := List.forall_mem_cons.1 h
      have front := Nat.mul_le_mul_left (Nat.pow 10 digits.length) (digitValue_lt first)
      rw [Nat.mul_succ] at front
      rw [digitsValue_cons]
      exact Nat.lt_of_lt_of_le (Nat.add_lt_add_left (ih later) _) front

/-- Of two rows of one length, the first digits decide before all others. -/
theorem eq_of_digitsValue_eq (h : ∀ c ∈ digits, c.isDigit = true)
    (h' : ∀ c ∈ other, c.isDigit = true) (length : digits.length = other.length)
    (same : digitsValue digits = digitsValue other) : digits = other := by
  induction digits generalizing other with
  | nil => exact (List.length_eq_zero_iff.1 length.symm).symm
  | cons c digits ih =>
      obtain ⟨d, rest, rfl⟩ := List.exists_cons_of_length_eq_add_one length.symm
      obtain ⟨first, later⟩ := List.forall_mem_cons.1 h
      obtain ⟨first', later'⟩ := List.forall_mem_cons.1 h'
      have lengths : digits.length = rest.length := Nat.succ.inj length
      have small := digitsValue_lt later
      have small' := digitsValue_lt later'
      rw [← lengths] at small'
      rw [digitsValue_cons, digitsValue_cons, ← lengths] at same
      have fronts : digitValue c = digitValue d := by
        have positive : 0 < Nat.pow 10 digits.length := Nat.zero_lt_of_lt small
        have quotients := congrArg (· / Nat.pow 10 digits.length) same
        simp only [Nat.mul_add_div positive, Nat.div_eq_of_lt small, Nat.div_eq_of_lt small',
          Nat.add_zero] at quotients
        exact quotients
      rw [fronts] at same
      rw [eq_of_digitValue_eq first first' fronts,
        ih later later' lengths (Nat.add_left_cancel same)]

/-- A small number is filled up to exactly the width. -/
theorem length_ofNatPadded {n : Nat} (wide : 0 < width) (h : n < Nat.pow 10 width) :
    (ofNatPadded width n).length = width := by
  have fits : (ofNat n).length ≤ width := (Nat.length_toDigits_le_iff (by decide) wide).2 h
  simp [ofNatPadded, fits]

/-- A row of digits is what its number is written as, filled up to the length of the row. -/
theorem ofNatPadded_digitsValue (h : isDigits digits = true) (length : digits.length = width) :
    ofNatPadded width (digitsValue digits) = digits := by
  obtain ⟨nonempty, given⟩ := isDigits_iff.1 h
  have written := isDigits_iff.1 (isDigits_ofNatPadded width (digitsValue digits))
  have wide : 0 < width := by
    rw [← length]
    exact List.length_pos_iff.2 nonempty
  have small := digitsValue_lt given
  rw [length] at small
  refine eq_of_digitsValue_eq written.2 given ?_ (digitsValue_ofNatPadded _ _)
  rw [length_ofNatPadded wide small, length]

end Text
end ReleaseLog
