import ReleaseLog.Text.Basic

/-!
# Rows of characters of one kind

Readers take the longest row of characters of a kind and go on with the rest. A text is cut in this
way exactly where a character of another kind, or none, follows the row. A text that is cut at a
separator gives up one piece after the other in this way.
-/

namespace ReleaseLog
namespace Text

variable {p : Char → Bool} {s row rest : Text} {c : Char}

/-- Where a reader stops that takes characters of one kind. -/
theorem span_eq_iff :
    (s.takeWhile p = row ∧ s.dropWhile p = rest) ↔
      s = row ++ rest ∧ (∀ c ∈ row, p c = true) ∧ ∀ c ∈ rest.head?, p c = false := by
  constructor
  · rintro ⟨rfl, rfl⟩
    refine ⟨List.takeWhile_append_dropWhile.symm, fun c member => ?_, fun c first => ?_⟩
    · exact List.all_eq_true.1 List.all_takeWhile c member
    · have stop := List.head?_dropWhile_not p s
      rw [Option.mem_def.1 first] at stop
      simpa using stop
  · rintro ⟨rfl, inside, stop⟩
    have none : rest.takeWhile p = [] ∧ rest.dropWhile p = rest := by
      cases rest with
      | nil => exact ⟨rfl, rfl⟩
      | cons c cs => simp [stop c rfl]
    rw [List.takeWhile_append_of_pos inside, List.dropWhile_append_of_pos inside, none.1, none.2,
      List.append_nil]
    exact ⟨rfl, rfl⟩

theorem span_append (inside : ∀ c ∈ row, p c = true) (stop : ∀ c ∈ rest.head?, p c = false) :
    (row ++ rest).takeWhile p = row ∧ (row ++ rest).dropWhile p = rest :=
  span_eq_iff.2 ⟨rfl, inside, stop⟩

/-- The text is white space throughout. -/
def IsGap (s : Text) : Prop := ∀ c ∈ s, isWhite c = true

instance (s : Text) : Decidable (IsGap s) := List.decidableBAll (fun c => isWhite c = true) s

theorem trimStart_cons (dark : isWhite c = false) : trimStart (c :: rest) = c :: rest :=
  List.dropWhile_cons_of_neg (by simp [dark])

theorem trimStart_append_of_isGap (gap : IsGap row) (s : Text) :
    trimStart (row ++ s) = trimStart s :=
  List.dropWhile_append_of_pos gap

/-- What trimming takes away in front is a gap. -/
theorem exists_append_trimStart (s : Text) : ∃ gap, IsGap gap ∧ s = gap ++ trimStart s := by
  have cut := span_eq_iff.1 ⟨Eq.refl (s.takeWhile isWhite), rfl⟩
  exact ⟨s.takeWhile isWhite, cut.2.1, cut.1⟩

/-! ## Pieces between separators -/

variable {separator : Char} {piece next : Text} {pieces : List Text}

theorem splitOn_of_not_mem (h : separator ∉ s) : splitOn separator s = [s] := by
  induction s with
  | nil => rfl
  | cons c cs ih =>
      rw [splitOn, if_neg (Ne.symm (List.ne_of_not_mem_cons h)),
        ih (List.not_mem_of_not_mem_cons h)]

/-- A piece ends at the first separator. -/
theorem splitOn_append (h : separator ∉ piece) (rest : Text) :
    splitOn separator (piece ++ separator :: rest) = piece :: splitOn separator rest := by
  induction piece with
  | nil => simp [splitOn]
  | cons c cs ih =>
      rw [List.cons_append, splitOn, if_neg (Ne.symm (List.ne_of_not_mem_cons h)),
        ih (List.not_mem_of_not_mem_cons h)]

/-- A text is cut in one way at its first separator. -/
theorem append_separator_inj {other last : Text} (h : separator ∉ piece)
    (otherWhole : separator ∉ other)
    (same : piece ++ separator :: rest = other ++ separator :: last) :
    piece = other ∧ rest = last := by
  have pieces := congrArg (splitOn separator) same
  rw [splitOn_append h, splitOn_append otherWhole] at pieces
  obtain ⟨rfl, _⟩ := List.cons.inj pieces
  exact ⟨rfl, (List.cons.inj (List.append_cancel_left same)).2⟩

/-- A row of characters that ends at a separator ends there in any longer text. -/
theorem dropWhile_append_separator (stop : p separator = false) (a b : Text) :
    (a ++ separator :: b).dropWhile p = a.dropWhile p ++ separator :: b := by
  rw [List.dropWhile_append, List.dropWhile_cons_of_neg (by simp [stop])]
  split
  · rename_i empty
    rw [List.isEmpty_iff.1 empty]
    rfl
  · rfl

theorem splitOn_eq_singleton_iff :
    splitOn separator s = [piece] ↔ s = piece ∧ separator ∉ piece := by
  constructor
  · intro one
    by_cases member : separator ∈ s
    · obtain ⟨front, rest, rfl, whole⟩ := List.eq_append_cons_of_mem member
      rw [splitOn_append whole] at one
      exact absurd (List.cons.inj one).2 (splitOn_ne_nil separator rest)
    · rw [splitOn_of_not_mem member] at one
      obtain rfl := List.singleton_inj.1 one
      exact ⟨rfl, member⟩
  · rintro ⟨rfl, whole⟩
    exact splitOn_of_not_mem whole

theorem splitOn_eq_cons_cons_iff :
    splitOn separator s = piece :: next :: pieces ↔
      ∃ rest, s = piece ++ separator :: rest ∧ separator ∉ piece ∧
        splitOn separator rest = next :: pieces := by
  constructor
  · intro more
    by_cases member : separator ∈ s
    · obtain ⟨front, rest, rfl, whole⟩ := List.eq_append_cons_of_mem member
      rw [splitOn_append whole] at more
      obtain ⟨rfl, later⟩ := List.cons.inj more
      exact ⟨rest, rfl, whole, later⟩
    · rw [splitOn_of_not_mem member] at more
      cases more
  · rintro ⟨rest, rfl, whole, later⟩
    rw [splitOn_append whole, later]

end Text
end ReleaseLog
