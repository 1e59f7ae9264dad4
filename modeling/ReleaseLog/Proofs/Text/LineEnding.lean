import ReleaseLog.Proofs.Text.Lines
import ReleaseLog.Text.LineEnding

/-!
# Line endings in one pass

Line endings are made uniform in two passes, and the first one can put a `\r` in front of a `\n` to
which it does not belong. A reader that goes through the text once needs to know no more than
whether the last character was a `\r`: a `\n` behind it then ends the same line. Both give the same
text (`foldl_next`), and what holds of two texts read one after the other is seen from the reader.
-/

namespace ReleaseLog
namespace Text

variable {s rest : Text} {c : Char}

/-- A reader on its way through a text. -/
structure LineEndingScan where
  /-- The characters so far, with one `\n` for each line ending. -/
  written : Text := []
  /-- The line endings so far. -/
  endings : Nat := 0
  /-- The last character was a `\r`. -/
  afterReturn : Bool := false
  deriving DecidableEq

/-- The reader takes one more character. -/
def LineEndingScan.next (scan : LineEndingScan) (c : Char) : LineEndingScan :=
  if c = '\r' then ⟨scan.written ++ ['\n'], scan.endings + 1, true⟩
  else if c = '\n' then
    if scan.afterReturn then { scan with afterReturn := false }
    else ⟨scan.written ++ ['\n'], scan.endings + 1, false⟩
  else ⟨scan.written ++ [c], scan.endings, false⟩

/-- A text read once, from left to right. -/
def scanLineEndings (s : Text) : LineEndingScan := s.foldl LineEndingScan.next {}

/-- What the reader has not passed: a `\n` behind a `\r` has been written with it. -/
def unread (afterReturn : Bool) (s : Text) : Text :=
  if afterReturn = true ∧ s.head? = some '\n' then s.tail else s

theorem unread_false (s : Text) : unread false s = s := by simp [unread]

theorem unread_cons_of_ne (h : c ≠ '\n') (afterReturn : Bool) (s : Text) :
    unread afterReturn (c :: s) = c :: s := by simp [unread, h]

theorem unread_true_newline (s : Text) : unread true ('\n' :: s) = s := rfl

/-! ## The two passes, read from the left -/

theorem normalizeLineEndings_cons (h : c ≠ '\r') (s : Text) :
    normalizeLineEndings (c :: s) = c :: normalizeLineEndings s := by
  have joined : joinPairs (c :: s) = c :: joinPairs s := by
    rw [joinPairs]
    rintro _ rfl
    exact absurd rfl h
  rw [normalizeLineEndings, joined, replaceReturns, List.map_cons, if_neg h]
  rfl

/-- A `\r` ends a line, alone or with the `\n` behind it. -/
theorem normalizeLineEndings_return (s : Text) :
    normalizeLineEndings ('\r' :: s) = '\n' :: normalizeLineEndings (unread true s) := by
  cases s with
  | nil => rfl
  | cons d s =>
      by_cases newline : d = '\n'
      · subst newline
        rfl
      · have joined : joinPairs ('\r' :: d :: s) = '\r' :: joinPairs (d :: s) := by
          rw [joinPairs]
          rintro _ _ ⟨⟩
          exact newline rfl
        rw [unread_cons_of_ne newline, normalizeLineEndings, joined]
        rfl

/-! ## One pass -/

/-- The reader adds the uniform text of what it has not passed, and its line endings. -/
theorem foldl_next (scan : LineEndingScan) (s : Text) :
    (s.foldl LineEndingScan.next scan).written =
        scan.written ++ normalizeLineEndings (unread scan.afterReturn s) ∧
      (s.foldl LineEndingScan.next scan).endings =
        scan.endings + (normalizeLineEndings (unread scan.afterReturn s)).count '\n' := by
  induction s generalizing scan with
  | nil => simp [unread, normalizeLineEndings, joinPairs, replaceReturns]
  | cons c s ih =>
      rw [List.foldl_cons]
      obtain ⟨written, endings⟩ := ih (scan.next c)
      rw [written, endings]
      by_cases ending : c = '\r'
      · subst ending
        rw [unread_cons_of_ne (by decide), normalizeLineEndings_return]
        simp [LineEndingScan.next, Nat.add_assoc, Nat.add_comm 1]
      by_cases newline : c = '\n'
      · subst newline
        cases after : scan.afterReturn with
        | true => simp [LineEndingScan.next, after, unread_true_newline, unread_false]
        | false =>
            rw [unread_false, normalizeLineEndings_cons (by decide)]
            simp [LineEndingScan.next, after, unread_false, Nat.add_assoc, Nat.add_comm 1]
      · rw [unread_cons_of_ne newline, normalizeLineEndings_cons ending]
        simp [LineEndingScan.next, ending, newline, unread_false]

theorem LineEndingScan.afterReturn_next (scan : LineEndingScan) (c : Char) :
    (scan.next c).afterReturn = (c == '\r') := by
  unfold next
  by_cases ending : c = '\r'
  · simp [ending]
  by_cases newline : c = '\n'
  · cases scan.afterReturn <;> simp [newline]
  · simp [ending, newline]

theorem afterReturn_scanLineEndings (s : Text) :
    (scanLineEndings s).afterReturn = (s.getLast? == some '\r') := by
  rcases List.eq_nil_or_concat s with rfl | ⟨before, c, rfl⟩
  · rfl
  · rw [scanLineEndings, List.concat_eq_append, List.foldl_append, List.foldl_cons, List.foldl_nil,
      LineEndingScan.afterReturn_next]
    simp

theorem written_scanLineEndings (s : Text) :
    (scanLineEndings s).written = normalizeLineEndings s := by
  rw [scanLineEndings, (foldl_next {} s).1, unread_false]
  rfl

theorem endings_scanLineEndings (s : Text) :
    (scanLineEndings s).endings = (normalizeLineEndings s).count '\n' := by
  rw [scanLineEndings, (foldl_next {} s).2, unread_false]
  exact Nat.zero_add _

/-! ## Two texts -/

/-- A text behind another one is read from where the reader stands. -/
theorem normalizeLineEndings_append (s rest : Text) :
    normalizeLineEndings (s ++ rest) = normalizeLineEndings s ++
      normalizeLineEndings (unread (s.getLast? == some '\r') rest) := by
  rw [← written_scanLineEndings (s ++ rest), scanLineEndings, List.foldl_append,
    (foldl_next _ rest).1]
  have start : s.foldl LineEndingScan.next {} = scanLineEndings s := rfl
  rw [start, written_scanLineEndings, afterReturn_scanLineEndings]

/-- Two texts can be made uniform apart from each other unless a line ending lies across. -/
theorem normalizeLineEndings_append_iff (s rest : Text) :
    normalizeLineEndings (s ++ rest) = normalizeLineEndings s ++ normalizeLineEndings rest ↔
      ¬ (s.getLast? = some '\r' ∧ rest.head? = some '\n') := by
  rw [normalizeLineEndings_append, List.append_cancel_left_eq]
  by_cases across : s.getLast? = some '\r' ∧ rest.head? = some '\n'
  · obtain ⟨later, rfl⟩ := List.head?_eq_some_iff.1 across.2
    rw [across.1, beq_self_eq_true, unread_true_newline, normalizeLineEndings_cons (by decide)]
    simp [across]
  · have whole : unread (s.getLast? == some '\r') rest = rest := by
      simp [unread, across]
    rw [whole]
    simp [across]

/-- Making line endings uniform in two passes is what a reader does in one: it writes one `\n` for
each line ending and leaves every other character. No `\r` is left, the text has a line more than
the reader met line endings, a second time changes nothing, and two texts can be made uniform apart
from each other exactly if no line ending lies across. -/
theorem normalizeLineEndings_eq_scan (s : Text) :
    normalizeLineEndings s = (scanLineEndings s).written ∧
      '\r' ∉ normalizeLineEndings s ∧
      (lines (normalizeLineEndings s)).length = (scanLineEndings s).endings + 1 ∧
      normalizeLineEndings (normalizeLineEndings s) = normalizeLineEndings s ∧
      ∀ rest, normalizeLineEndings (s ++ rest) =
          normalizeLineEndings s ++ normalizeLineEndings rest ↔
        ¬ (s.getLast? = some '\r' ∧ rest.head? = some '\n') := by
  have uniform := not_mem_normalizeLineEndings s
  refine ⟨(written_scanLineEndings s).symm, uniform, ?_,
    normalizeLineEndings_eq_self_iff.2 (hasUniformLineEndings_iff.2 uniform),
    normalizeLineEndings_append_iff s⟩
  rw [length_lines, endings_scanLineEndings]

/-- The `\n` belongs to the second `\r`, and the first one ends a line of its own. -/
example : scanLineEndings "a\r\r\nb".toList = ⟨"a\n\nb".toList, 2, false⟩ := by decide

end Text
end ReleaseLog
