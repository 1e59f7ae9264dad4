import ReleaseLog.Proofs.Text.Lines

/-!
# What a search for a line finds

`findLine` cuts a text around the first of its lines that has a property, and finds nothing only
where no line has it. Both searches cut around whole lines, so the lines of a text are those of
the three pieces (`LineCut.IsWhole.linesFrom_toText`).
-/

namespace ReleaseLog
namespace Text

variable {p : Text → Bool} {atStart : Bool} {s : Text} {cut : LineCut}

/-- The piece in the middle of the cut is a whole line of the text. -/
structure LineCut.IsWhole (atStart : Bool) (cut : LineCut) : Prop where
  opens : opensLine atStart cut.before = true
  line : firstLine (cut.line ++ cut.after) = cut.line

namespace LineCut.IsWhole

theorem not_mem_line (h : cut.IsWhole atStart) : '\n' ∉ cut.line := by
  rw [← h.line]
  exact not_mem_firstLine _

theorem firstLine_after (h : cut.IsWhole atStart) : firstLine cut.after = [] := by
  have whole := h.line
  rw [firstLine_append_of_not_mem h.not_mem_line] at whole
  simpa using whole

/-- What stands below the line that was cut out has no part in the first line. -/
theorem firstLine_before_append_line (h : cut.IsWhole atStart) :
    firstLine (cut.before ++ cut.line) = firstLine cut.toText := by
  rw [toText]
  rcases firstLine_eq_nil_iff.1 h.firstLine_after with empty | ⟨rest, text⟩
  · rw [empty, List.append_nil]
  · rw [text, firstLine_append_newline]

theorem cons_iff {c : Char} : (cut.cons c).IsWhole atStart ↔ cut.IsWhole (c == '\n') :=
  ⟨fun h => ⟨h.opens, h.line⟩, fun h => ⟨h.opens, h.line⟩⟩

/-- The lines of a text that has been cut around one of them. -/
theorem linesFrom_toText (h : cut.IsWhole atStart) :
    linesFrom atStart cut.toText =
      endedLines atStart cut.before ++ cut.line :: linesFrom false cut.after := by
  rw [toText, List.append_assoc, linesFrom_append h.opens, lines_eq_cons, h.line,
    linesFrom_false_append h.not_mem_line]

theorem lines_before_append_line (h : cut.IsWhole true) :
    lines (cut.before ++ cut.line) = endedLines true cut.before ++ [cut.line] := by
  have front := linesFrom_append h.opens cut.line
  rw [lines_of_not_mem h.not_mem_line] at front
  exact front

theorem of_cutHere? (h : cutHere? p atStart s = some cut) : cut.IsWhole atStart := by
  obtain ⟨start, _, rfl⟩ := cutHere?_eq_some_iff.1 h
  refine ⟨start, ?_⟩
  simp only
  rw [firstLine_append_afterFirstLine]

theorem of_findLine (h : findLine p atStart s = some cut) : cut.IsWhole atStart := by
  induction s generalizing atStart cut with
  | nil => exact of_cutHere? h
  | cons c cs ih =>
      rcases Option.or_eq_some_iff.1 h with here | ⟨_, later⟩
      · exact of_cutHere? here
      · obtain ⟨inner, found, rfl⟩ := Option.map_eq_some_iff.1 later
        exact cons_iff.2 (ih found)

theorem of_findLastLine (h : findLastLine p atStart s = some cut) : cut.IsWhole atStart := by
  induction s generalizing atStart cut with
  | nil => exact of_cutHere? h
  | cons c cs ih =>
      rcases Option.or_eq_some_iff.1 h with later | ⟨_, here⟩
      · obtain ⟨inner, found, rfl⟩ := Option.map_eq_some_iff.1 later
        exact cons_iff.2 (ih found)
      · exact of_cutHere? here

end LineCut.IsWhole

theorem cutHere?_eq_none_iff :
    cutHere? p atStart s = none ↔ (atStart = true → p (firstLine s) = false) := by
  cases atStart <;> simp [cutHere?]

/-- The lines of a text around the first one with the property. -/
theorem lines_of_findLine (h : findLine p true s = some cut) :
    lines s = endedLines true cut.before ++ cut.line :: linesFrom false cut.after := by
  have whole := (LineCut.IsWhole.of_findLine h).linesFrom_toText
  rw [toText_of_findLine h] at whole
  exact whole

/-- A search finds nothing exactly where no line has the property. -/
theorem findLine_eq_none_iff :
    findLine p atStart s = none ↔ ∀ line ∈ linesFrom atStart s, p line = false := by
  induction s generalizing atStart with
  | nil =>
      rw [findLine, cutHere?_eq_none_iff]
      cases atStart <;> simp [firstLine, lines, splitOn]
  | cons c cs ih =>
      rw [findLine, Option.or_eq_none_iff, Option.map_eq_none_iff, cutHere?_eq_none_iff, ih,
        linesFrom_cons]
      cases atStart <;> simp

/-- A search through whole lines need not look at the empty rest behind them. -/
theorem any_endedLines (blank : p [] = false) (ends : opensLine atStart s = true) :
    (endedLines atStart s).any p = (findLine p atStart s).isSome := by
  rw [Bool.eq_iff_iff, ← not_iff_not, Bool.not_eq_true, Bool.not_eq_true, List.any_eq_false,
    Option.isSome_eq_false_iff, Option.isNone_iff_eq_none, findLine_eq_none_iff,
    linesFrom_of_opensLine ends]
  simp [or_imp, forall_and, blank]

/-- The character in front does not change what stands on the first line of a cut text. -/
theorem firstLine_cons_toText {c : Char} {cut : LineCut} (h : cut.IsWhole (c == '\n')) :
    firstLine (c :: cut.toText) = firstLine (c :: cut.before) := by
  have opens : opensLine true (c :: cut.before) = true := h.opens
  have front := firstLine_append_of_opensLine opens (List.cons_ne_nil _ _) (cut.line ++ cut.after)
  rw [LineCut.toText, List.append_assoc]
  exact front

/-- No line that ends in front of the line that was found has the property. -/
theorem endedLines_of_findLine (h : findLine p atStart s = some cut) :
    ∀ line ∈ endedLines atStart cut.before, p line = false := by
  induction s generalizing atStart cut with
  | nil =>
      obtain ⟨_, _, rfl⟩ := cutHere?_eq_some_iff.1 h
      simp
  | cons c cs ih =>
      rcases Option.or_eq_some_iff.1 h with here | ⟨passed, later⟩
      · obtain ⟨_, _, rfl⟩ := cutHere?_eq_some_iff.1 here
        simp
      · obtain ⟨inner, found, rfl⟩ := Option.map_eq_some_iff.1 later
        have whole := LineCut.IsWhole.of_findLine found
        intro line member
        change line ∈ endedLines atStart (c :: inner.before) at member
        rw [endedLines_cons whole.opens] at member
        rcases List.mem_append.1 member with first | other
        · cases atStart with
          | false => cases first
          | true =>
              obtain rfl : line = firstLine (c :: inner.before) := List.mem_singleton.1 first
              rw [← firstLine_cons_toText whole, toText_of_findLine found]
              exact cutHere?_eq_none_iff.1 passed rfl
        · exact ih found line other

/-- A cut around a whole line with the property, with no such line in front of it, is found. -/
theorem findLine_toText (whole : cut.IsWhole atStart) (holds : p cut.line = true)
    (first : ∀ line ∈ endedLines atStart cut.before, p line = false) :
    findLine p atStart cut.toText = some cut := by
  obtain ⟨before, line, after⟩ := cut
  induction before generalizing atStart with
  | nil =>
      obtain rfl : atStart = true := whole.opens
      have here : cutHere? p true (line ++ after) = some ⟨[], line, after⟩ := by
        have rest : afterFirstLine (line ++ after) = after :=
          afterFirstLine_append whole.not_mem_line whole.firstLine_after
        rw [cutHere?_eq_some_iff, whole.line, rest]
        exact ⟨rfl, holds, rfl⟩
      show findLine p true (line ++ after) = _
      cases text : line ++ after with
      | nil => rwa [text] at here
      | cons c cs =>
          rw [text] at here
          rw [findLine, here]
          rfl
  | cons c before ih =>
      have inner : LineCut.IsWhole (c == '\n') ⟨before, line, after⟩ :=
        LineCut.IsWhole.cons_iff.1 whole
      have passed : cutHere? p atStart (c :: before ++ line ++ after) = none := by
        rw [cutHere?_eq_none_iff]
        intro start
        subst start
        have front := firstLine_cons_toText inner
        change firstLine (c :: before ++ line ++ after) = _ at front
        rw [front]
        refine first _ ?_
        show _ ∈ endedLines true (c :: before)
        rw [endedLines_cons inner.opens]
        exact List.mem_cons_self
      have later := ih inner holds fun other member => first other <| by
        show other ∈ endedLines atStart (c :: before)
        rw [endedLines_cons inner.opens]
        exact List.mem_append_right _ member
      show findLine p atStart (c :: (before ++ line ++ after)) = _
      rw [findLine]
      change cutHere? p atStart (c :: (before ++ line ++ after)) = none at passed
      change findLine p (c == '\n') (before ++ line ++ after) = _ at later
      rw [passed, later]
      rfl

/-- What `findLine` answers, in lines. -/
theorem findLine_eq_some_iff :
    findLine p atStart s = some cut ↔
      cut.toText = s ∧ cut.IsWhole atStart ∧ p cut.line = true ∧
        ∀ line ∈ endedLines atStart cut.before, p line = false := by
  constructor
  · intro found
    exact ⟨toText_of_findLine found, .of_findLine found, line_of_findLine found,
      endedLines_of_findLine found⟩
  · rintro ⟨rfl, whole, holds, first⟩
    exact findLine_toText whole holds first

/-- A text is cut at the start of the first line with the property. -/
theorem findLine_append {a b : Text} (opens : opensLine atStart a = true)
    (passed : ∀ line ∈ endedLines atStart a, p line = false) (holds : p (firstLine b) = true) :
    findLine p atStart (a ++ b) = some ⟨a, firstLine b, afterFirstLine b⟩ := by
  have text : (⟨a, firstLine b, afterFirstLine b⟩ : LineCut).toText = a ++ b := by
    rw [LineCut.toText, List.append_assoc, firstLine_append_afterFirstLine]
  rw [← text]
  refine findLine_toText ⟨opens, ?_⟩ holds passed
  simp only
  rw [firstLine_append_afterFirstLine]

/-! ## The last line -/

theorem findLastLine_eq_none_iff :
    findLastLine p atStart s = none ↔ ∀ line ∈ linesFrom atStart s, p line = false := by
  induction s generalizing atStart with
  | nil =>
      rw [findLastLine, cutHere?_eq_none_iff]
      cases atStart <;> simp [firstLine, lines, splitOn]
  | cons c cs ih =>
      rw [findLastLine, Option.or_eq_none_iff, Option.map_eq_none_iff, cutHere?_eq_none_iff, ih,
        linesFrom_cons]
      cases atStart <;> simp [and_comm]

/-- The lines of a text around the last one with the property. -/
theorem lines_of_findLastLine (h : findLastLine p true s = some cut) :
    lines s = endedLines true cut.before ++ cut.line :: linesFrom false cut.after := by
  have whole := (LineCut.IsWhole.of_findLastLine h).linesFrom_toText
  rw [toText_of_findLastLine h] at whole
  exact whole

/-- No line that begins behind the line that was found last has the property. -/
theorem linesFrom_of_findLastLine (h : findLastLine p atStart s = some cut) :
    ∀ line ∈ linesFrom false cut.after, p line = false := by
  induction s generalizing atStart cut with
  | nil =>
      obtain ⟨_, _, rfl⟩ := cutHere?_eq_some_iff.1 h
      simp [afterFirstLine]
  | cons c cs ih =>
      rcases Option.or_eq_some_iff.1 h with later | ⟨passed, here⟩
      · obtain ⟨inner, found, rfl⟩ := Option.map_eq_some_iff.1 later
        change ∀ line ∈ linesFrom false inner.after, p line = false
        exact ih found
      · obtain ⟨_, _, rfl⟩ := cutHere?_eq_some_iff.1 here
        simp only
        rw [linesFrom_afterFirstLine, linesFrom_false_cons]
        exact findLastLine_eq_none_iff.1 (Option.map_eq_none_iff.1 passed)

/-- The same cut of a text with more text in front. -/
def LineCut.below (above : Text) (cut : LineCut) : LineCut :=
  { cut with before := above ++ cut.before }

/-- The same cut of a text with more text behind. -/
def LineCut.above (below : Text) (cut : LineCut) : LineCut :=
  { cut with after := cut.after ++ below }

theorem afterFirstLine_append_newline (a b : Text) :
    afterFirstLine (a ++ '\n' :: b) = afterFirstLine a ++ '\n' :: b := by
  induction a with
  | nil => rfl
  | cons c cs ih =>
      by_cases newline : c = '\n'
      · subst newline
        rfl
      · simpa [afterFirstLine, newline] using ih

theorem cutHere?_append_newline (a b : Text) :
    cutHere? p atStart (a ++ '\n' :: b) = (cutHere? p atStart a).map (·.above ('\n' :: b)) := by
  unfold cutHere?
  rw [firstLine_append_newline, afterFirstLine_append_newline]
  split <;> rfl

/-- The last line with a property is looked for below a line end, and above it only if there is
none below. -/
theorem findLastLine_append_newline (a b : Text) :
    findLastLine p atStart (a ++ '\n' :: b) =
      ((findLastLine p true b).map (·.below (a ++ ['\n']))).or
        ((findLastLine p atStart a).map (·.above ('\n' :: b))) := by
  induction a generalizing atStart with
  | nil =>
      have here : cutHere? p atStart ('\n' :: b) =
          (cutHere? p atStart []).map (·.above ('\n' :: b)) :=
        cutHere?_append_newline [] b
      show ((findLastLine p true b).map (·.cons '\n')).or (cutHere? p atStart ('\n' :: b)) = _
      rw [here]
      rfl
  | cons c cs ih =>
      have here : cutHere? p atStart (c :: (cs ++ '\n' :: b)) =
          (cutHere? p atStart (c :: cs)).map (·.above ('\n' :: b)) :=
        cutHere?_append_newline (c :: cs) b
      rw [List.cons_append, findLastLine, findLastLine, ih, here, Option.map_or, Option.map_or,
        Option.or_assoc, Option.map_map, Option.map_map, Option.map_map]
      rfl

end Text
end ReleaseLog
