import ReleaseLog.Text.Basic

/-!
# Lines

Only `\n` ends a line. A document is searched line by line: `findLine` and `findLastLine` cut a
text around the first and the last line with a property, and the three pieces always make up the
text that was searched (`toText_of_findLine`, `toText_of_findLastLine`).

A search may begin inside a line. The argument `atStart` says whether the first character that
it sees begins one; where it does not, the rest of that line is passed over.
-/

namespace ReleaseLog
namespace Text

/-- The line that a text begins with, without its end. -/
def firstLine (s : Text) : Text := s.takeWhile (· != '\n')

/-- A text without the line that it begins with. What is left is empty or begins with the line's
end. -/
def afterFirstLine (s : Text) : Text := s.dropWhile (· != '\n')

theorem firstLine_append_afterFirstLine (s : Text) : firstLine s ++ afterFirstLine s = s :=
  List.takeWhile_append_dropWhile

/-- The lines of a text, without their ends: one more than it has `\n`. -/
def lines (s : Text) : List Text := splitOn '\n' s

/-- What follows this text stands at the start of a line. -/
def endsLine (before : Text) : Bool := before.getLast?.all (· == '\n')

theorem endsLine_iff {s : Text} : endsLine s = true ↔ s = [] ∨ ∃ t, s = t ++ ['\n'] := by
  cases last : s.getLast? with
  | none => simp [endsLine, List.getLast?_eq_none_iff.1 last]
  | some c =>
      obtain ⟨t, rfl⟩ := List.getLast?_eq_some_iff.1 last
      simp [endsLine]

/-- A text cut around one of its lines. -/
structure LineCut where
  before : Text
  line : Text
  after : Text
  deriving DecidableEq, Repr

namespace LineCut

/-- The text that was cut. -/
def toText (cut : LineCut) : Text := cut.before ++ cut.line ++ cut.after

/-- The cut of a text with one more character in front. -/
def cons (c : Char) (cut : LineCut) : LineCut := { cut with before := c :: cut.before }

@[simp] theorem toText_cons (c : Char) (cut : LineCut) : (cut.cons c).toText = c :: cut.toText :=
  rfl

end LineCut

/-- A text cut around the line that it begins with, if that line is whole and has the property
`p`. -/
def cutHere? (p : Text → Bool) (atStart : Bool) (s : Text) : Option LineCut :=
  if atStart && p (firstLine s) then some ⟨[], firstLine s, afterFirstLine s⟩ else none

theorem cutHere?_eq_some_iff {p : Text → Bool} {atStart : Bool} {s : Text} {cut : LineCut} :
    cutHere? p atStart s = some cut ↔
      atStart = true ∧ p (firstLine s) = true ∧ cut = ⟨[], firstLine s, afterFirstLine s⟩ := by
  simp only [cutHere?]
  split
  · rename_i holds
    obtain ⟨start, property⟩ := Bool.and_eq_true_iff.1 holds
    simp [start, property, eq_comm]
  · rename_i fails
    simp only [Bool.and_eq_true] at fails
    simp only [reduceCtorEq, false_iff]
    exact fun ⟨start, property, _⟩ => fails ⟨start, property⟩

theorem toText_of_cutHere? {p : Text → Bool} {atStart : Bool} {s : Text} {cut : LineCut}
    (h : cutHere? p atStart s = some cut) : cut.toText = s := by
  obtain ⟨_, _, rfl⟩ := cutHere?_eq_some_iff.1 h
  simp [LineCut.toText, firstLine_append_afterFirstLine]

theorem line_of_cutHere? {p : Text → Bool} {atStart : Bool} {s : Text} {cut : LineCut}
    (h : cutHere? p atStart s = some cut) : p cut.line = true := by
  obtain ⟨_, property, rfl⟩ := cutHere?_eq_some_iff.1 h
  exact property

/-- The text cut around its first line with the property `p`. -/
def findLine (p : Text → Bool) (atStart : Bool) : Text → Option LineCut
  | [] => cutHere? p atStart []
  | c :: cs => (cutHere? p atStart (c :: cs)).or ((findLine p (c == '\n') cs).map (·.cons c))

/-- The text cut around its last line with the property `p`. -/
def findLastLine (p : Text → Bool) (atStart : Bool) : Text → Option LineCut
  | [] => cutHere? p atStart []
  | c :: cs => ((findLastLine p (c == '\n') cs).map (·.cons c)).or (cutHere? p atStart (c :: cs))

theorem toText_of_findLine {p : Text → Bool} {atStart : Bool} {s : Text} {cut : LineCut}
    (h : findLine p atStart s = some cut) : cut.toText = s := by
  induction s generalizing atStart cut with
  | nil => exact toText_of_cutHere? h
  | cons c cs ih =>
      rcases Option.or_eq_some_iff.1 h with here | ⟨_, later⟩
      · exact toText_of_cutHere? here
      · obtain ⟨inner, found, rfl⟩ := Option.map_eq_some_iff.1 later
        rw [LineCut.toText_cons, ih found]

theorem line_of_findLine {p : Text → Bool} {atStart : Bool} {s : Text} {cut : LineCut}
    (h : findLine p atStart s = some cut) : p cut.line = true := by
  induction s generalizing atStart cut with
  | nil => exact line_of_cutHere? h
  | cons c cs ih =>
      rcases Option.or_eq_some_iff.1 h with here | ⟨_, later⟩
      · exact line_of_cutHere? here
      · obtain ⟨inner, found, rfl⟩ := Option.map_eq_some_iff.1 later
        change p inner.line = true
        exact ih found

theorem toText_of_findLastLine {p : Text → Bool} {atStart : Bool} {s : Text} {cut : LineCut}
    (h : findLastLine p atStart s = some cut) : cut.toText = s := by
  induction s generalizing atStart cut with
  | nil => exact toText_of_cutHere? h
  | cons c cs ih =>
      rcases Option.or_eq_some_iff.1 h with later | ⟨_, here⟩
      · obtain ⟨inner, found, rfl⟩ := Option.map_eq_some_iff.1 later
        rw [LineCut.toText_cons, ih found]
      · exact toText_of_cutHere? here

theorem line_of_findLastLine {p : Text → Bool} {atStart : Bool} {s : Text} {cut : LineCut}
    (h : findLastLine p atStart s = some cut) : p cut.line = true := by
  induction s generalizing atStart cut with
  | nil => exact line_of_cutHere? h
  | cons c cs ih =>
      rcases Option.or_eq_some_iff.1 h with later | ⟨_, here⟩
      · obtain ⟨inner, found, rfl⟩ := Option.map_eq_some_iff.1 later
        change p inner.line = true
        exact ih found
      · exact line_of_cutHere? here

end Text
end ReleaseLog
