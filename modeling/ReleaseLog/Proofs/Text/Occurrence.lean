import ReleaseLog.Proofs.Text.Lines
import ReleaseLog.Text.LineEnding

/-!
# Where a mark occurs

A mark that holds no line ending occurs in a text exactly when it occurs in one of its lines, and
it does not matter whether the line endings have been made uniform before. A mark at the start of a
line stays at the start of a line.
-/

namespace ReleaseLog
namespace Text

/-- The mark stands at the start of a line that begins in the text. -/
def leadsLine (mark : Text) (atStart : Bool) (s : Text) : Prop :=
  ∃ line ∈ linesFrom atStart s, mark <+: line

/-- The mark holds no character that can end a line. -/
def isInline (mark : Text) : Prop := ∀ c ∈ mark, c ≠ '\r' ∧ c ≠ '\n'

variable {mark s : Text}

instance (mark : Text) : Decidable (isInline mark) :=
  List.decidableBAll (fun c => c ≠ '\r' ∧ c ≠ '\n') mark

@[simp] theorem isInline_append {a b : Text} : isInline (a ++ b) ↔ isInline a ∧ isInline b :=
  List.forall_mem_append

/-- The text holds no white space. -/
def isWord (s : Text) : Prop := ∀ c ∈ s, isWhite c = false

instance (s : Text) : Decidable (isWord s) :=
  List.decidableBAll (fun c => isWhite c = false) s

@[simp] theorem isWord_append {a b : Text} : isWord (a ++ b) ↔ isWord a ∧ isWord b :=
  List.forall_mem_append

theorem isWord.isInline (h : isWord s) : isInline s := by
  intro c member
  have char := h c member
  constructor
  · rintro rfl
    exact absurd char (by decide)
  · rintro rfl
    exact absurd char (by decide)

theorem isInline.not_mem (h : isInline mark) : '\n' ∉ mark := by
  intro member
  exact (h _ member).2 rfl

theorem prefix_firstLine_iff (h : '\n' ∉ mark) : mark <+: firstLine s ↔ mark <+: s := by
  constructor
  · intro begins
    exact begins.trans (firstLine_isPrefix s)
  · rintro ⟨rest, rfl⟩
    rw [firstLine_append_of_not_mem h]
    exact List.prefix_append _ _

theorem leadsLine_cons (h : '\n' ∉ mark) {atStart : Bool} {c : Char} :
    leadsLine mark atStart (c :: s) ↔
      (atStart = true ∧ mark <+: c :: s) ∨ leadsLine mark (c == '\n') s := by
  rw [leadsLine, linesFrom_cons]
  cases atStart with
  | false => simp [leadsLine]
  | true => simp [leadsLine, prefix_firstLine_iff h]

theorem leadsLine_true_of_leadsLine {atStart : Bool} (h : leadsLine mark atStart s) :
    leadsLine mark true s := by
  obtain ⟨line, member, begins⟩ := h
  exact ⟨line, mem_lines_of_mem_linesFrom member, begins⟩

/-! ## Occurrences in lines -/

theorem infix_of_mem_lines {line : Text} (h : line ∈ lines s) : line <:+: s := by
  induction s generalizing line with
  | nil =>
      obtain rfl : line = [] := List.mem_singleton.1 h
      exact List.infix_rfl
  | cons c cs ih =>
      rw [lines_eq_cons, linesFrom_false_cons] at h
      rcases List.mem_cons.1 h with rfl | later
      · exact (firstLine_isPrefix _).isInfix
      · exact (ih (mem_lines_of_mem_linesFrom later)).trans (List.suffix_cons c cs).isInfix

theorem infix_iff_exists_line (h : '\n' ∉ mark) :
    mark <:+: s ↔ ∃ line ∈ lines s, mark <:+: line := by
  constructor
  · intro occurs
    induction s with
    | nil => exact ⟨[], List.mem_singleton.2 rfl, occurs⟩
    | cons c cs ih =>
        rcases List.infix_cons_iff.1 occurs with here | later
        · exact ⟨_, firstLine_mem_lines _, ((prefix_firstLine_iff h).2 here).isInfix⟩
        · obtain ⟨line, member, inside⟩ := ih later
          rw [lines_cons]
          split
          · exact ⟨line, List.mem_cons_of_mem _ member, inside⟩
          · rw [lines_eq_cons] at member ⊢
            rcases List.mem_cons.1 member with rfl | other
            · exact ⟨_, List.mem_cons_self, inside.trans (List.suffix_cons c _).isInfix⟩
            · exact ⟨line, List.mem_cons_of_mem _ other, inside⟩
  · rintro ⟨line, member, inside⟩
    exact inside.trans (infix_of_mem_lines member)

/-! ## Occurrences and line endings -/

/-- How the text that ends its lines with `\n` only is read off from left to right. -/
theorem normalizeLineEndings_cases (s : Text) :
    s = [] ∨ (∃ rest, s = '\r' :: '\n' :: rest ∧
      normalizeLineEndings s = '\n' :: normalizeLineEndings rest) ∨
    ∃ c rest, s = c :: rest ∧
      normalizeLineEndings s = (if c = '\r' then '\n' else c) :: normalizeLineEndings rest := by
  rw [normalizeLineEndings]
  fun_cases joinPairs s with
  | case1 => exact .inl rfl
  | case2 rest => exact .inr (.inl ⟨rest, rfl, rfl⟩)
  | case3 c rest => exact .inr (.inr ⟨c, rest, rfl, rfl⟩)

theorem isInline.tail {c : Char} (h : isInline (c :: mark)) : isInline mark :=
  fun d member => h d (List.mem_cons_of_mem c member)

theorem not_prefix_cons_return (h : isInline mark) (nonempty : mark ≠ []) :
    ¬ mark <+: '\r' :: s := by
  cases mark with
  | nil => exact absurd rfl nonempty
  | cons m ms =>
      intro begins
      exact (h m List.mem_cons_self).1 (List.cons_prefix_cons.1 begins).1

theorem not_prefix_cons_newline (h : isInline mark) (nonempty : mark ≠ []) :
    ¬ mark <+: '\n' :: s := by
  cases mark with
  | nil => exact absurd rfl nonempty
  | cons m ms =>
      intro begins
      exact (h m List.mem_cons_self).2 (List.cons_prefix_cons.1 begins).1

theorem prefix_normalizeLineEndings_iff (h : isInline mark) :
    mark <+: normalizeLineEndings s ↔ mark <+: s := by
  induction mark generalizing s with
  | nil => simp
  | cons m ms ih =>
      have nonempty := List.cons_ne_nil m ms
      rcases normalizeLineEndings_cases s with rfl | ⟨rest, rfl, normal⟩ | ⟨c, rest, rfl, normal⟩
      · rfl
      · rw [normal]
        exact iff_of_false (not_prefix_cons_newline h nonempty) (not_prefix_cons_return h nonempty)
      · rw [normal]
        by_cases ending : c = '\r'
        · subst ending
          exact iff_of_false (not_prefix_cons_newline h nonempty)
            (not_prefix_cons_return h nonempty)
        · rw [if_neg ending, List.cons_prefix_cons, List.cons_prefix_cons, ih h.tail]

theorem infix_normalizeLineEndings_iff (h : isInline mark) (nonempty : mark ≠ []) :
    mark <:+: normalizeLineEndings s ↔ mark <:+: s := by
  generalize size : s.length = n
  induction n using Nat.strongRecOn generalizing s with
  | ind n ih =>
      have front := prefix_normalizeLineEndings_iff (s := s) h
      rcases normalizeLineEndings_cases s with rfl | ⟨rest, rfl, normal⟩ | ⟨c, rest, rfl, normal⟩
      · rfl
      · have shorter : rest.length < n := by
          rw [← size, List.length_cons, List.length_cons]
          omega
        have later := ih rest.length shorter rfl
        rw [normal, List.infix_cons_iff, List.infix_cons_iff, List.infix_cons_iff, later]
        simp only [not_prefix_cons_newline h nonempty, not_prefix_cons_return h nonempty, false_or]
      · have later := ih rest.length (by simp [← size]) rfl
        rw [normal] at front ⊢
        rw [List.infix_cons_iff, List.infix_cons_iff, front, later]

/-- A mark that leads a line leads one after the line endings have been made uniform. -/
theorem leadsLine_normalizeLineEndings (h : isInline mark) {atStart : Bool}
    (leads : leadsLine mark atStart s) : leadsLine mark atStart (normalizeLineEndings s) := by
  generalize size : s.length = n
  induction n using Nat.strongRecOn generalizing s atStart with
  | ind n ih =>
      have front := prefix_normalizeLineEndings_iff (s := s) h
      rcases normalizeLineEndings_cases s with rfl | ⟨rest, rfl, normal⟩ | ⟨c, rest, rfl, normal⟩
      · exact leads
      · have shorter : rest.length < n := by
          rw [← size, List.length_cons, List.length_cons]
          omega
        rw [normal] at front ⊢
        rw [leadsLine_cons h.not_mem] at leads ⊢
        rcases leads with ⟨start, here⟩ | later
        · exact .inl ⟨start, front.2 here⟩
        · rw [leadsLine_cons h.not_mem] at later
          rcases later with ⟨start, _⟩ | later
          · cases start
          · exact .inr (ih rest.length shorter later rfl)
      · rw [normal] at front ⊢
        rw [leadsLine_cons h.not_mem] at leads ⊢
        rcases leads with ⟨start, here⟩ | later
        · exact .inl ⟨start, front.2 here⟩
        · have kept := ih rest.length (by simp [← size]) later rfl
          by_cases ending : c = '\r'
          · rw [if_pos ending]
            exact .inr (leadsLine_true_of_leadsLine kept)
          · rw [if_neg ending]
            exact .inr kept

end Text
end ReleaseLog
