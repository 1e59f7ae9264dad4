import Mathlib.Data.List.TakeWhile
import ReleaseLog.Text.Line

/-!
# A text as a row of lines

Readers go through a text character by character; what they find is told in lines. The lines
that begin in a text are `linesFrom`, and those of them that also end in it are `endedLines`.
Where a text is made of two, its lines are known from theirs as soon as the second one stands at
the start of a line (`linesFrom_append`). A text is what its lines make up (`ofLines_lines`).
-/

namespace ReleaseLog
namespace Text

/-- The lines that begin in a text. Its front begins one only if `atStart` says so. -/
def linesFrom (atStart : Bool) (s : Text) : List Text :=
  if atStart then lines s else (lines s).tail

/-- The lines that begin and end in a text. -/
def endedLines (atStart : Bool) (s : Text) : List Text := (linesFrom atStart s).dropLast

/-- Whatever follows this text stands at the start of a line. -/
def opensLine (atStart : Bool) : Text → Bool
  | [] => atStart
  | c :: cs => opensLine (c == '\n') cs

/-- The text of lines that have an end each. -/
def ofEndedLines (rows : List Text) : Text := rows.flatMap (· ++ ['\n'])

/-- The text of lines with an end between each two. -/
def ofLines (rows : List Text) : Text := List.intercalate ['\n'] rows

/-! ## Single lines -/

theorem lines_cons (c : Char) (s : Text) :
    lines (c :: s) =
      if c = '\n' then [] :: lines s else (c :: (lines s).headD []) :: (lines s).tail := by
  unfold lines
  rw [splitOn]
  split
  · rfl
  · cases pieces : splitOn '\n' s with
    | nil => exact absurd pieces (splitOn_ne_nil _ _)
    | cons piece pieces => rfl

theorem lines_eq_cons (s : Text) : lines s = firstLine s :: linesFrom false s := by
  induction s with
  | nil => rfl
  | cons c cs ih =>
      by_cases newline : c = '\n'
      · subst newline
        rfl
      · have head : firstLine (c :: cs) = c :: firstLine cs := by simp [firstLine, newline]
        rw [head, linesFrom, lines_cons, if_neg newline, ih]
        rfl

@[simp] theorem linesFrom_true (s : Text) : linesFrom true s = lines s := rfl

@[simp] theorem linesFrom_false_nil : linesFrom false [] = [] := rfl

@[simp] theorem endedLines_nil (atStart : Bool) : endedLines atStart [] = [] := by
  cases atStart <;> rfl

theorem mem_linesFrom_of_mem_endedLines {atStart : Bool} {a line : Text}
    (h : line ∈ endedLines atStart a) : line ∈ linesFrom atStart a :=
  List.dropLast_subset _ h

theorem linesFrom_false_cons (c : Char) (s : Text) :
    linesFrom false (c :: s) = linesFrom (c == '\n') s := by
  by_cases newline : c = '\n'
  · subst newline
    rfl
  · have other : (c == '\n') = false := by simpa using newline
    rw [other, linesFrom, linesFrom, lines_cons, if_neg newline]
    rfl

theorem linesFrom_cons (atStart : Bool) (c : Char) (s : Text) :
    linesFrom atStart (c :: s) =
      (if atStart then [firstLine (c :: s)] else []) ++ linesFrom (c == '\n') s := by
  cases atStart with
  | false => exact linesFrom_false_cons c s
  | true => rw [linesFrom_true, lines_eq_cons, linesFrom_false_cons]; rfl

/-- A text has one line more than it has line ends. -/
theorem length_lines (s : Text) : (lines s).length = s.count '\n' + 1 := by
  induction s with
  | nil => rfl
  | cons c cs ih =>
      rw [lines_cons]
      by_cases newline : c = '\n'
      · simp [newline, ih]
      · simp [newline, ih]

theorem mem_lines_of_mem_linesFrom {atStart : Bool} {s line : Text}
    (h : line ∈ linesFrom atStart s) : line ∈ lines s := by
  cases atStart with
  | true => exact h
  | false => exact List.mem_of_mem_tail h

theorem firstLine_mem_lines (s : Text) : firstLine s ∈ lines s := by
  rw [lines_eq_cons]
  exact List.mem_cons_self

theorem not_mem_firstLine (s : Text) : '\n' ∉ firstLine s := by
  intro member
  simpa using List.mem_takeWhile_imp member

theorem not_mem_of_mem_lines {s line : Text} (h : line ∈ lines s) : '\n' ∉ line := by
  induction s generalizing line with
  | nil =>
      obtain rfl : line = [] := List.mem_singleton.1 h
      exact List.not_mem_nil
  | cons c cs ih =>
      rw [lines_eq_cons, linesFrom_false_cons] at h
      rcases List.mem_cons.1 h with rfl | later
      · exact not_mem_firstLine _
      · exact ih (mem_lines_of_mem_linesFrom later)

/-- A search for a character goes through a text that does not hold it. -/
theorem bne_of_not_mem {c : Char} {s : Text} (h : c ∉ s) : ∀ d ∈ s, (d != c) = true := by
  intro d member
  have different : d ≠ c := by
    rintro rfl
    exact h member
  simpa using different

theorem firstLine_of_not_mem {s : Text} (h : '\n' ∉ s) : firstLine s = s :=
  List.takeWhile_eq_self_iff.2 (bne_of_not_mem h)

theorem firstLine_append_of_not_mem {a : Text} (h : '\n' ∉ a) (b : Text) :
    firstLine (a ++ b) = a ++ firstLine b :=
  List.takeWhile_append_of_pos (bne_of_not_mem h)

theorem firstLine_eq_nil_iff {s : Text} : firstLine s = [] ↔ s = [] ∨ ∃ t, s = '\n' :: t := by
  cases s with
  | nil => simp [firstLine]
  | cons c cs => by_cases newline : c = '\n' <;> simp [firstLine, newline]

theorem firstLine_isPrefix (s : Text) : firstLine s <+: s := List.takeWhile_prefix _

theorem firstLine_prefix_append (a b : Text) : firstLine a <+: firstLine (a ++ b) := by
  have longer : firstLine (a ++ b) = firstLine a ++ firstLine (afterFirstLine a ++ b) := by
    rw [← firstLine_append_of_not_mem (not_mem_firstLine a), ← List.append_assoc,
      firstLine_append_afterFirstLine]
  rw [longer]
  exact List.prefix_append _ _

theorem afterFirstLine_append {a b : Text} (inline : '\n' ∉ a) (ends : firstLine b = []) :
    afterFirstLine (a ++ b) = b := by
  have whole := firstLine_append_afterFirstLine (a ++ b)
  rw [firstLine_append_of_not_mem inline, ends, List.append_nil] at whole
  exact List.append_cancel_left whole

theorem beq_newline_eq_false {c : Char} {s : Text} (h : '\n' ∉ c :: s) :
    (c == '\n') = false := by
  have passes := bne_of_not_mem h c List.mem_cons_self
  simpa using passes

theorem linesFrom_of_not_mem {s : Text} (h : '\n' ∉ s) : linesFrom false s = [] := by
  induction s with
  | nil => rfl
  | cons c cs ih =>
      rw [linesFrom_false_cons, beq_newline_eq_false h]
      apply ih
      intro member
      exact h (List.mem_cons_of_mem c member)

theorem lines_of_not_mem {s : Text} (h : '\n' ∉ s) : lines s = [s] := by
  rw [lines_eq_cons, firstLine_of_not_mem h, linesFrom_of_not_mem h]

/-! ## Texts that stand at the start of a line -/

@[simp] theorem opensLine_append (atStart : Bool) (a b : Text) :
    opensLine atStart (a ++ b) = opensLine (opensLine atStart a) b := by
  induction a generalizing atStart with
  | nil => rfl
  | cons c cs ih => exact ih (c == '\n')

/-- What stands in front of a text makes no difference unless the text is empty. -/
theorem opensLine_cons (atStart : Bool) (c : Char) (s : Text) :
    opensLine atStart (c :: s) = endsLine (c :: s) := by
  induction s generalizing atStart c with
  | nil => rfl
  | cons d s ih => exact ih (c == '\n') d

theorem opensLine_iff {atStart : Bool} {s : Text} :
    opensLine atStart s = true ↔ (s = [] ∧ atStart = true) ∨ ∃ t, s = t ++ ['\n'] := by
  cases s with
  | nil => simp [opensLine]
  | cons c cs => simp [opensLine_cons, endsLine_iff]

theorem ne_nil_of_opensLine {a : Text} (h : opensLine false a = true) : a ≠ [] := by
  rintro rfl
  cases h

theorem firstLine_append_newline (a b : Text) : firstLine (a ++ '\n' :: b) = firstLine a := by
  induction a with
  | nil => rfl
  | cons c cs ih =>
      by_cases newline : c = '\n'
      · subst newline
        rfl
      · simpa [firstLine, newline] using ih

theorem linesFrom_append_newline (atStart : Bool) (a b : Text) :
    linesFrom atStart (a ++ '\n' :: b) = linesFrom atStart a ++ lines b := by
  induction a generalizing atStart with
  | nil => cases atStart <;> rfl
  | cons c cs ih =>
      rw [List.cons_append, linesFrom_cons, linesFrom_cons, ih, ← List.cons_append,
        firstLine_append_newline, List.append_assoc]

theorem lines_append_newline (a b : Text) : lines (a ++ '\n' :: b) = lines a ++ lines b :=
  linesFrom_append_newline true a b

@[simp] theorem endedLines_append_newline (atStart : Bool) (a : Text) :
    endedLines atStart (a ++ ['\n']) = linesFrom atStart a := by
  rw [endedLines, linesFrom_append_newline]
  exact List.dropLast_concat

/-- A text whose second part stands at the start of a line has the lines that end in the first
part and all lines of the second. -/
theorem linesFrom_append {atStart : Bool} {a : Text} (h : opensLine atStart a = true)
    (b : Text) : linesFrom atStart (a ++ b) = endedLines atStart a ++ lines b := by
  rcases opensLine_iff.1 h with ⟨rfl, rfl⟩ | ⟨t, rfl⟩
  · rfl
  · rw [endedLines_append_newline, List.append_assoc]
    exact linesFrom_append_newline atStart t b

theorem lines_ne_nil (s : Text) : lines s ≠ [] := splitOn_ne_nil '\n' s

theorem endedLines_append {atStart : Bool} {a : Text} (h : opensLine atStart a = true)
    (b : Text) : endedLines atStart (a ++ b) = endedLines atStart a ++ endedLines true b := by
  rw [endedLines, linesFrom_append h, List.dropLast_append_of_ne_nil (lines_ne_nil b)]
  rfl

/-- The last line of a text that ends its lines is empty. -/
theorem linesFrom_of_opensLine {atStart : Bool} {a : Text} (h : opensLine atStart a = true) :
    linesFrom atStart a = endedLines atStart a ++ [[]] := by
  have whole := linesFrom_append h []
  rw [List.append_nil] at whole
  exact whole

theorem linesFrom_false_append {a : Text} (h : '\n' ∉ a) (b : Text) :
    linesFrom false (a ++ b) = linesFrom false b := by
  induction a with
  | nil => rfl
  | cons c cs ih =>
      rw [List.cons_append, linesFrom_false_cons, beq_newline_eq_false h]
      apply ih
      intro member
      exact h (List.mem_cons_of_mem c member)

theorem linesFrom_afterFirstLine (s : Text) :
    linesFrom false (afterFirstLine s) = linesFrom false s := by
  rw [← linesFrom_false_append (not_mem_firstLine s), firstLine_append_afterFirstLine]

/-- A piece of a line in front of a text belongs to its first line. -/
theorem lines_append_of_not_mem {a : Text} (h : '\n' ∉ a) (b : Text) :
    lines (a ++ b) = (a ++ firstLine b) :: linesFrom false b := by
  rw [lines_eq_cons, firstLine_append_of_not_mem h, linesFrom_false_append h]

theorem endedLines_append_of_not_mem {a b : Text} (h : '\n' ∉ a)
    (ended : opensLine false b = true) :
    endedLines true (a ++ b) = (a ++ firstLine b) :: endedLines false b := by
  have later : linesFrom false b ≠ [] := by
    rw [linesFrom_of_opensLine ended]
    simp
  rw [endedLines, linesFrom_true, lines_append_of_not_mem h, List.dropLast_cons_of_ne_nil later]
  rfl

theorem firstLine_append_of_opensLine {atStart : Bool} {a : Text}
    (h : opensLine atStart a = true) (nonempty : a ≠ []) (b : Text) :
    firstLine (a ++ b) = firstLine a := by
  rcases opensLine_iff.1 h with ⟨empty, _⟩ | ⟨t, rfl⟩
  · exact absurd empty nonempty
  · rw [List.append_assoc]
    exact (firstLine_append_newline t b).trans (firstLine_append_newline t []).symm

theorem endedLines_cons {c : Char} {s : Text} (h : opensLine (c == '\n') s = true)
    (atStart : Bool) :
    endedLines atStart (c :: s) =
      (if atStart then [firstLine (c :: s)] else []) ++ endedLines (c == '\n') s := by
  have later : linesFrom (c == '\n') s ≠ [] := by
    rw [linesFrom_of_opensLine h]
    simp
  rw [endedLines, linesFrom_cons, List.dropLast_append_of_ne_nil later]
  rfl

theorem endedLines_eq_cons {a : Text} (ends : opensLine true a = true) (nonempty : a ≠ []) :
    endedLines true a = firstLine a :: endedLines false a := by
  cases a with
  | nil => exact absurd rfl nonempty
  | cons c cs =>
      rw [endedLines_cons ends, endedLines_cons ends]
      rfl

/-! ## Parts of a text -/

/-- What a text ends with begins no line that the text does not begin. -/
theorem linesFrom_suffix_of_suffix {a b : Text} (h : a <:+ b) :
    linesFrom false a <:+ linesFrom false b := by
  obtain ⟨front, rfl⟩ := h
  induction front with
  | nil => exact List.suffix_rfl
  | cons c cs ih =>
      rw [List.cons_append, linesFrom_false_cons]
      cases c == '\n' with
      | false => exact ih
      | true =>
          rw [linesFrom_true, lines_eq_cons]
          exact ih.trans (List.suffix_cons _ _)

/-- Each line of what a text begins with is the beginning of a line of the text. -/
theorem exists_prefix_of_mem_linesFrom {atStart : Bool} {a line : Text}
    (h : line ∈ linesFrom atStart a) (b : Text) :
    ∃ whole ∈ linesFrom atStart (a ++ b), line <+: whole := by
  induction a generalizing atStart with
  | nil =>
      cases atStart with
      | false => cases h
      | true =>
          obtain rfl : line = [] := List.mem_singleton.1 h
          exact ⟨firstLine b, firstLine_mem_lines b, List.nil_prefix⟩
  | cons c cs ih =>
      rw [linesFrom_cons] at h
      rw [List.cons_append, linesFrom_cons]
      rcases List.mem_append.1 h with here | later
      · cases atStart with
        | false => cases here
        | true =>
            obtain rfl : line = firstLine (c :: cs) := List.mem_singleton.1 here
            exact ⟨_, List.mem_append_left _ List.mem_cons_self,
              firstLine_prefix_append (c :: cs) b⟩
      · obtain ⟨whole, member, begins⟩ := ih later
        exact ⟨whole, List.mem_append_right _ member, begins⟩

/-! ## From lines to texts -/

theorem ofEndedLines_cons (row : Text) (rows : List Text) :
    ofEndedLines (row :: rows) = row ++ '\n' :: ofEndedLines rows := by
  simp [ofEndedLines]

theorem ofEndedLines_lines (s : Text) : ofEndedLines (lines s) = s ++ ['\n'] := by
  induction s with
  | nil => rfl
  | cons c cs ih =>
      rw [lines_eq_cons, ofEndedLines_cons] at ih
      by_cases newline : c = '\n'
      · subst newline
        rw [lines_cons, if_pos rfl, ofEndedLines_cons, lines_eq_cons, ofEndedLines_cons, ih]
        rfl
      · rw [lines_cons, if_neg newline, lines_eq_cons, ofEndedLines_cons]
        exact congrArg (c :: ·) ih

theorem ofLines_append_newline {rows : List Text} (h : rows ≠ []) :
    ofLines rows ++ ['\n'] = ofEndedLines rows := by
  induction rows with
  | nil => exact absurd rfl h
  | cons row rows ih =>
      cases rows with
      | nil => simp [ofLines, ofEndedLines]
      | cons next rows =>
          have later := ih (List.cons_ne_nil next rows)
          rw [ofEndedLines_cons, ← later, ofLines, List.intercalate_cons_cons]
          simp [ofLines]

theorem ofEndedLines_append (above below : List Text) :
    ofEndedLines (above ++ below) = ofEndedLines above ++ ofEndedLines below :=
  List.flatMap_append

/-- A text is what its lines make up. -/
theorem ofLines_lines (s : Text) : ofLines (lines s) = s := by
  have whole := ofLines_append_newline (lines_ne_nil s)
  rw [ofEndedLines_lines] at whole
  exact List.append_cancel_right whole

theorem ofEndedLines_endedLines {a : Text} (h : opensLine true a = true) :
    ofEndedLines (endedLines true a) = a := by
  rcases opensLine_iff.1 h with ⟨rfl, _⟩ | ⟨t, rfl⟩
  · rfl
  · rw [endedLines_append_newline]
    exact ofEndedLines_lines t

/-- A text that begins inside a line and ends one is the rest of that line and the lines after
it. -/
theorem firstLine_append_ofEndedLines {a : Text} (h : opensLine false a = true) :
    firstLine a ++ '\n' :: ofEndedLines (endedLines false a) = a := by
  rcases opensLine_iff.1 h with ⟨_, start⟩ | ⟨t, rfl⟩
  · cases start
  · have whole := ofEndedLines_lines t
    rw [lines_eq_cons, ofEndedLines_cons] at whole
    rw [endedLines_append_newline, firstLine_append_newline]
    exact whole

theorem ofLines_append {below : List Text} (h : below ≠ []) (above : List Text) :
    ofLines (above ++ below) = ofEndedLines above ++ ofLines below := by
  have whole := ofLines_append_newline (List.append_ne_nil_of_right_ne_nil above h)
  rw [ofEndedLines_append, ← ofLines_append_newline h, ← List.append_assoc] at whole
  exact List.append_cancel_right whole

theorem lines_ofEndedLines {rows : List Text} (inline : ∀ row ∈ rows, '\n' ∉ row) :
    lines (ofEndedLines rows) = rows ++ [[]] := by
  induction rows with
  | nil => rfl
  | cons row rows ih =>
      obtain ⟨here, later⟩ := List.forall_mem_cons.1 inline
      rw [ofEndedLines_cons, lines_append_newline, lines_of_not_mem here, ih later]
      rfl

theorem opensLine_ofEndedLines (rows : List Text) : opensLine true (ofEndedLines rows) = true := by
  induction rows with
  | nil => rfl
  | cons row rows ih =>
      rw [ofEndedLines_cons, opensLine_append]
      exact ih

/-- Every text ends with a line that does not end. -/
theorem exists_lastLine (s : Text) :
    ∃ front last, s = front ++ last ∧ opensLine true front = true ∧ '\n' ∉ last := by
  have nonempty := lines_ne_nil s
  have cut := ofLines_append (List.cons_ne_nil ((lines s).getLast nonempty) [])
    (lines s).dropLast
  rw [List.dropLast_concat_getLast, ofLines_lines] at cut
  refine ⟨ofEndedLines (lines s).dropLast, (lines s).getLast nonempty, ?_,
    opensLine_ofEndedLines _, not_mem_of_mem_lines (List.getLast_mem nonempty)⟩
  exact cut.trans (by simp [ofLines])

theorem lastLine_unique {front other last final : Text} (opens : opensLine true front = true)
    (inline : '\n' ∉ last) (otherOpens : opensLine true other = true) (otherInline : '\n' ∉ final)
    (same : front ++ last = other ++ final) : last = final := by
  have lines := linesFrom_append opens last
  rw [same, linesFrom_append otherOpens final, lines_of_not_mem inline,
    lines_of_not_mem otherInline] at lines
  exact (List.append_singleton_inj.1 lines).2.symm

end Text
end ReleaseLog
