import ReleaseLog.Proofs.Text.Lines
import ReleaseLog.Proofs.Text.Span

/-!
# Trimmed texts

Trimming takes white space away at either end, and the two ends do not get in each other's way. It
changes the line that a text begins with and may shorten the last one; all other lines stay. So a
property that only looks at how a line begins cannot appear on a later line.
-/

namespace ReleaseLog
namespace Text

variable {a b s : Text} {c : Char}

/-! ## Both ends -/

theorem trimStart_of_isGap (gap : IsGap s) : trimStart s = [] := List.dropWhile_eq_nil_iff.2 gap

theorem trimStart_ne_nil (dark : ¬ IsGap s) : trimStart s ≠ [] := fun empty =>
  dark (List.dropWhile_eq_nil_iff.1 empty)

theorem trimStart_append_of_not_isGap (dark : ¬ IsGap a) (b : Text) :
    trimStart (a ++ b) = trimStart a ++ b := by
  have rest : a.dropWhile isWhite ≠ [] := trimStart_ne_nil dark
  rw [trimStart, List.dropWhile_append]
  simp [trimStart, rest]

theorem trimEnd_append_of_isGap (a : Text) (gap : IsGap b) : trimEnd (a ++ b) = trimEnd a := by
  have back : IsGap b.reverse := fun c member => gap c (List.mem_reverse.1 member)
  rw [trimEnd, List.reverse_append, List.dropWhile_append_of_pos back, trimEnd]

theorem trimEnd_append_of_not_isGap (a : Text) (dark : ¬ IsGap b) :
    trimEnd (a ++ b) = a ++ trimEnd b := by
  have back : b.reverse.dropWhile isWhite ≠ [] := by
    intro empty
    refine dark fun c member => ?_
    exact List.dropWhile_eq_nil_iff.1 empty c (List.mem_reverse.2 member)
  rw [trimEnd, List.reverse_append, List.dropWhile_append]
  simp [trimEnd, back]

theorem trimEnd_of_isGap (gap : IsGap s) : trimEnd s = [] := trimEnd_append_of_isGap [] gap

theorem trimEnd_cons (dark : isWhite c = false) (cs : Text) :
    trimEnd (c :: cs) = c :: trimEnd cs := by
  by_cases gap : IsGap cs
  · rw [trimEnd_of_isGap gap, ← List.singleton_append, trimEnd_append_of_isGap [c] gap]
    simp [trimEnd, dark]
  · exact trimEnd_append_of_not_isGap [c] gap

/-- The order in which the ends are trimmed does not matter. -/
theorem trimStart_trimEnd (s : Text) : trimStart (trimEnd s) = trimEnd (trimStart s) := by
  induction s with
  | nil => rfl
  | cons c cs ih =>
      cases white : isWhite c with
      | false => rw [trimEnd_cons white, trimStart_cons white, trimStart_cons white,
          trimEnd_cons white]
      | true =>
          have first : IsGap [c] := by simpa [IsGap] using white
          rw [← List.singleton_append, trimStart_append_of_isGap first]
          by_cases gap : IsGap cs
          · rw [trimEnd_append_of_isGap [c] gap, trimEnd_of_isGap first, trimStart_of_isGap gap]
            rfl
          · rw [trimEnd_append_of_not_isGap [c] gap, trimStart_append_of_isGap first, ih]

theorem exists_trimEnd_append (s : Text) : ∃ gap, IsGap gap ∧ s = trimEnd s ++ gap := by
  obtain ⟨gap, white, back⟩ := exists_append_trimStart s.reverse
  refine ⟨gap.reverse, fun c member => white c (List.mem_reverse.1 member), ?_⟩
  have whole := congrArg List.reverse back
  rw [List.reverse_reverse, List.reverse_append] at whole
  exact whole

/-- A text is its trimmed form between two gaps. -/
theorem exists_gaps (s : Text) : ∃ front back, s = front ++ trim s ++ back ∧
    IsGap front ∧ IsGap back := by
  obtain ⟨front, white, text⟩ := exists_append_trimStart s
  obtain ⟨back, behind, inner⟩ := exists_trimEnd_append (trimStart s)
  refine ⟨front, back, ?_, white, behind⟩
  rw [List.append_assoc, trim, ← inner, ← text]

/-- A trimmed text ends with something written. -/
theorem isWhite_getLast_trim (s : Text) : ∀ c ∈ (trim s).getLast?, isWhite c = false := by
  intro c member
  have stop := List.head?_dropWhile_not isWhite (trimStart s).reverse
  rw [trim, trimEnd, List.getLast?_reverse] at member
  rw [Option.mem_def.1 member] at stop
  simpa using stop

/-! ## Lines -/

theorem trimStart_suffix (s : Text) : trimStart s <:+ s := List.dropWhile_suffix _

theorem trimEnd_isPrefix (s : Text) : trimEnd s <+: s := by
  have back : s.reverse.dropWhile isWhite <:+ s.reverse := List.dropWhile_suffix _
  rw [← List.reverse_prefix, List.reverse_reverse] at back
  exact back

theorem linesFrom_trimStart_suffix (s : Text) :
    linesFrom false (trimStart s) <:+ linesFrom false s :=
  linesFrom_suffix_of_suffix (trimStart_suffix s)

/-- Each later line of a trimmed text is the beginning of a later line of the text. -/
theorem exists_prefix_of_mem_linesFrom_trim {s line : Text}
    (h : line ∈ linesFrom false (trim s)) : ∃ whole ∈ linesFrom false s, line <+: whole := by
  obtain ⟨rest, whole⟩ := trimEnd_isPrefix (trimStart s)
  obtain ⟨longer, member, begins⟩ := exists_prefix_of_mem_linesFrom h rest
  change longer ∈ linesFrom false (trimEnd (trimStart s) ++ rest) at member
  rw [whole] at member
  exact ⟨longer, (linesFrom_trimStart_suffix s).subset member, begins⟩

end Text
end ReleaseLog
