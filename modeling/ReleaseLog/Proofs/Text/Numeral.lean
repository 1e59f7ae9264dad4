import Mathlib.Algebra.BigOperators.Fin
import Mathlib.Tactic.Ring
import ReleaseLog.Proofs.Text.Decimal

/-!
# Numerals

A row of digits stands for the sum of its digits, each of them times the power of ten of its place.
A positive number has a numeral without a zero in front. A number of 64 bits can be built up digit
by digit: no step makes it smaller, so as soon as one step does not fit, the number of the whole row
does not fit either (`foldlM_pushDigit?_eq_some_iff`).
-/

namespace ReleaseLog
namespace Text

variable {digits : Text} {c : Char} {n : Nat}

/-- The number that a row of digits stands for, place by place. -/
def placeValue (digits : Text) : Nat :=
  ∑ i : Fin digits.length, 10 ^ (digits.length - 1 - i) * digitValue digits[i]

theorem placeValue_cons (c : Char) (digits : Text) :
    placeValue (c :: digits) = 10 ^ digits.length * digitValue c + placeValue digits := by
  refine (Fin.sum_univ_succ _).trans (congrArg₂ (· + ·) rfl ?_)
  refine Finset.sum_congr rfl fun i _ => ?_
  have place : (c :: digits).length - 1 - i.succ = digits.length - 1 - i := by
    rw [List.length_cons, Fin.val_succ]
    omega
  rw [place]
  rfl

theorem placeValue_eq_digitsValue (digits : Text) : placeValue digits = digitsValue digits := by
  induction digits with
  | nil => rfl
  | cons c digits ih => rw [placeValue_cons, digitsValue_cons, ih, Nat.pow_eq]

/-! ## Without zeros in front -/

/-- The decimal text of a positive number, with no zero in front. -/
structure IsNumeral (digits : Text) (n : Nat) : Prop where
  isDigits : isDigits digits = true
  value : placeValue digits = n
  first : digits.head? ≠ some '0'

theorem isNumeral_ofNat (positive : 0 < n) : IsNumeral (ofNat n) n where
  isDigits := isDigits_ofNat n
  value := by rw [placeValue_eq_digitsValue, digitsValue_ofNat]
  first := by
    intro zero
    obtain ⟨rest, text⟩ := List.head?_eq_some_iff.1 zero
    have plain := (isDigits_iff.1 (isDigits_ofNat n)).2
    have same := digitsValue_ofNat n
    rw [text] at plain same
    have small : n < 10 ^ rest.length := by
      have bound := digitsValue_lt (List.forall_mem_cons.1 plain).2
      rw [digitsValue_cons] at same
      simpa [← same, digitValue] using bound
    have long : (ofNat n).length = rest.length + 1 := by rw [text, List.length_cons]
    by_cases alone : rest.length = 0
    · rw [alone] at small
      omega
    · have short := (Nat.length_toDigits_le_iff (b := 10) (by decide) (by omega)).2 small
      have : (ofNat n).length ≤ rest.length := short
      omega

/-! ## In 64 bits -/

/-- A number that has to have 64 bits. -/
def fit? (n : Nat) : Option UInt64 := if n < UInt64.size then some (.ofNat n) else none

/-- A number takes up one more digit. Both the product and the sum have to fit. -/
def pushDigit? (word : UInt64) (c : Char) : Option UInt64 :=
  (fit? (10 * word.toNat)).bind fun product => fit? (product.toNat + digitValue c)

variable {word result : UInt64}

theorem fit?_eq_some_iff : fit? n = some result ↔ result.toNat = n := by
  unfold fit?
  by_cases fits : n < UInt64.size
  · rw [if_pos fits, Option.some.injEq, ← UInt64.toNat_inj, UInt64.toNat_ofNat_of_lt' fits, eq_comm]
  · rw [if_neg fits]
    simp only [reduceCtorEq, false_iff]
    intro same
    exact fits (same ▸ result.toNat_lt)

theorem pushDigit?_eq_some_iff :
    pushDigit? word c = some result ↔ result.toNat = 10 * word.toNat + digitValue c := by
  simp only [pushDigit?, Option.bind_eq_some_iff, fit?_eq_some_iff]
  constructor
  · rintro ⟨product, times, plus⟩
    rw [plus, times]
  · intro sum
    have fits : 10 * word.toNat < UInt64.size :=
      Nat.lt_of_le_of_lt (Nat.le.intro sum.symm) result.toNat_lt
    have product := UInt64.toNat_ofNat_of_lt' fits
    exact ⟨_, product, by rw [product, sum]⟩

/-- A row of digits is taken up exactly if the number that comes out has 64 bits. -/
theorem foldlM_pushDigit?_eq_some_iff :
    digits.foldlM pushDigit? word = some result ↔
      result.toNat = 10 ^ digits.length * word.toNat + digitsValue digits := by
  induction digits generalizing word with
  | nil => simp [digitsValue, eq_comm, ← UInt64.toNat_inj]
  | cons c digits ih =>
      have total : 10 ^ (c :: digits).length * word.toNat + digitsValue (c :: digits) =
          10 ^ digits.length * (10 * word.toNat + digitValue c) + digitsValue digits := by
        rw [digitsValue_cons, List.length_cons, Nat.pow_eq]
        ring
      simp only [List.foldlM_cons, Option.bind_eq_bind, Option.bind_eq_some_iff,
        pushDigit?_eq_some_iff, ih, total]
      constructor
      · rintro ⟨next, pushed, later⟩
        rw [later, pushed]
      · intro whole
        -- No step makes a number smaller, so this one fits if all of them together do.
        have positive : 0 < 10 ^ digits.length := Nat.pow_pos (by decide)
        have grows := Nat.le_mul_of_pos_left (10 * word.toNat + digitValue c) positive
        have bound := result.toNat_lt
        have fits : 10 * word.toNat + digitValue c < 2 ^ 64 := by omega
        have next := UInt64.toNat_ofNat_of_lt' fits
        exact ⟨_, next, by rw [whole, next]⟩

end Text
end ReleaseLog
