import ReleaseLog.Config.Basic
import ReleaseLog.Proofs.Date.Stamp
import ReleaseLog.Proofs.Text.Trim

/-!
# What is read as a date

The reader of dates is compared with a grammar that names no reader: the numbers of a date, as they
may be spelled, with a hyphen between them. The format `YYYY-MM-DD` is the part of that grammar in
which no number is short, signed or set off by white space.
-/

namespace ReleaseLog

variable {s rest text month day : Text} {date : Date} {year : Int} {n limit : Nat}

namespace Date

/-! ## Numbers and what follows them -/

theorem takeDigits_fst_append_snd (limit : Nat) (s : Text) :
    (takeDigits limit s).1 ++ (takeDigits limit s).2 = s := by
  fun_induction takeDigits limit s with
  | case1 limit c cs isDigit digits rest taken ih =>
      rw [taken] at ih
      exact congrArg (c :: ·) ih
  | case2 => rfl
  | case3 => rfl

theorem isDigit_of_mem_takeDigits {c : Char} (h : c ∈ (takeDigits limit s).1) :
    c.isDigit = true := by
  fun_induction takeDigits limit s with
  | case1 limit d cs isDigit digits rest taken ih =>
      rw [taken] at ih
      rcases List.mem_cons.1 h with rfl | later
      · exact isDigit
      · exact ih later
  | case2 => cases h
  | case3 => cases h

theorem length_takeDigits_le (limit : Nat) (s : Text) :
    (takeDigits limit s).1.length ≤ limit := by
  fun_induction takeDigits limit s with
  | case1 limit c cs isDigit digits rest taken ih =>
      rw [taken] at ih
      exact Nat.succ_le_succ ih
  | case2 => exact Nat.zero_le _
  | case3 => exact Nat.zero_le _

theorem exists_digits_of_readNumber? (read : readNumber? limit s = some (n, rest)) :
    ∃ digits, s = digits ++ rest ∧ Text.isDigits digits = true ∧ digits.length ≤ limit ∧
      Text.digitsValue digits = n := by
  unfold readNumber? at read
  split at read
  · cases read
  · rename_i digits left nonempty taken
    obtain ⟨rfl, rfl⟩ := Prod.mk.inj (Option.some.inj read)
    have whole := takeDigits_fst_append_snd limit s
    have short := length_takeDigits_le limit s
    have isDigit : ∀ c ∈ (takeDigits limit s).1, c.isDigit = true := fun c member =>
      isDigit_of_mem_takeDigits member
    rw [taken] at whole short isDigit
    refine ⟨digits, whole.symm, ?_, short, rfl⟩
    exact Text.isDigits_iff.2 ⟨nonempty, isDigit⟩

/-! ## A grammar of dates -/

/-- The spellings of a year: four digits at most, or any number of them behind a sign. -/
inductive IsYear : Text → Int → Prop
  | unsigned {gap digits : Text} (white : Text.IsGap gap) (isDigits : Text.isDigits digits = true)
      (short : digits.length ≤ 4) : IsYear (gap ++ digits) (Text.digitsValue digits)
  | positive {gap digits : Text} (white : Text.IsGap gap)
      (isDigits : Text.isDigits digits = true) :
      IsYear (gap ++ '+' :: digits) (Text.digitsValue digits)
  | negative {gap digits : Text} (white : Text.IsGap gap)
      (isDigits : Text.isDigits digits = true) :
      IsYear (gap ++ '-' :: digits) (-(Text.digitsValue digits : Int))

/-- The spellings of a month or a day. -/
inductive IsPart : Text → Nat → Prop
  | number {gap digits : Text} (white : Text.IsGap gap) (isDigits : Text.isDigits digits = true)
      (short : digits.length ≤ 2) : IsPart (gap ++ digits) (Text.digitsValue digits)

/-- The spellings of a date. -/
inductive IsSpelling (date : Date) : Text → Prop
  | parts {year month day : Text} (isYear : IsYear year date.year)
      (isMonth : IsPart month date.month) (isDay : IsPart day date.day) :
      IsSpelling date (year ++ '-' :: (month ++ '-' :: day))

theorem exists_isYear_of_readYear? (read : readYear? s = some (year, rest)) :
    ∃ text, s = text ++ rest ∧ IsYear text year := by
  obtain ⟨gap, white, whole⟩ := Text.exists_append_trimStart s
  unfold readYear? at read
  split at read
  · rename_i later minus
    obtain ⟨⟨n, left⟩, number, same⟩ := Option.map_eq_some_iff.1 read
    obtain ⟨rfl, rfl⟩ := Prod.mk.inj same
    obtain ⟨digits, rfl, isDigits, _, rfl⟩ := exists_digits_of_readNumber? number
    refine ⟨gap ++ '-' :: digits, ?_, .negative white isDigits⟩
    rw [whole, minus, List.append_assoc, List.cons_append]
  · rename_i later plus
    obtain ⟨⟨n, left⟩, number, same⟩ := Option.map_eq_some_iff.1 read
    obtain ⟨rfl, rfl⟩ := Prod.mk.inj same
    obtain ⟨digits, rfl, isDigits, _, rfl⟩ := exists_digits_of_readNumber? number
    refine ⟨gap ++ '+' :: digits, ?_, .positive white isDigits⟩
    rw [whole, plus, List.append_assoc, List.cons_append]
  · obtain ⟨⟨n, left⟩, number, same⟩ := Option.map_eq_some_iff.1 read
    obtain ⟨rfl, rfl⟩ := Prod.mk.inj same
    obtain ⟨digits, text, isDigits, short, rfl⟩ := exists_digits_of_readNumber? number
    refine ⟨gap ++ digits, ?_, .unsigned white isDigits short⟩
    rw [whole, text, List.append_assoc]

theorem readYear?_gap (white : Text.IsGap text) (s : Text) :
    readYear? (text ++ s) = readYear? s := by
  rw [readYear?, readYear?, Text.trimStart_append_of_isGap white]

theorem readYear?_of_isYear (h : IsYear text year) :
    readYear? (text ++ '-' :: rest) = some (year, '-' :: rest) := by
  have stops : ∀ c ∈ ('-' :: rest).head?, c.isDigit = false := by
    rintro _ ⟨⟩
    rfl
  have signed : ∀ {digits : Text}, Text.isDigits digits = true →
      readNumber? (digits ++ '-' :: rest).length (digits ++ '-' :: rest) =
        some (Text.digitsValue digits, '-' :: rest) := by
    intro digits isDigits
    exact readNumber?_append isDigits (.inr ⟨by simp, stops⟩)
  cases h with
  | unsigned white isDigits short =>
      rw [List.append_assoc, readYear?_gap white]
      exact readYear?_append isDigits (.inr ⟨short, stops⟩)
  | positive white isDigits =>
      rw [List.append_assoc, readYear?_gap white, List.cons_append, readYear?,
        Text.trimStart_cons (by decide)]
      simp only [signed isDigits, Option.map_some]
  | negative white isDigits =>
      rw [List.append_assoc, readYear?_gap white, List.cons_append, readYear?,
        Text.trimStart_cons (by decide)]
      simp only [signed isDigits, Option.map_some]

theorem exists_isPart_of_readPart? (read : readPart? s = some (n, rest)) :
    ∃ text, s = '-' :: (text ++ rest) ∧ IsPart text n := by
  unfold readPart? at read
  split at read
  · rename_i later
    obtain ⟨gap, white, whole⟩ := Text.exists_append_trimStart later
    obtain ⟨digits, text, isDigits, short, rfl⟩ := exists_digits_of_readNumber? read
    refine ⟨gap ++ digits, ?_, .number white isDigits short⟩
    rw [List.append_assoc, ← text, ← whole]
  · cases read

theorem readPart?_of_isPart (h : IsPart text n) (stops : ∀ c ∈ rest.head?, c.isDigit = false) :
    readPart? ('-' :: (text ++ rest)) = some (n, rest) := by
  cases h with
  | number white isDigits short =>
      rw [List.append_assoc, readPart?, Text.trimStart_append_of_isGap white,
        Text.trimStart_append_of_isDigits isDigits]
      exact readNumber?_append isDigits (.inr ⟨short, stops⟩)

/-- The reader accepts the spellings of dates, and no other text. -/
theorem ofText?_eq_some_iff : ofText? s = some date ↔ IsSpelling date s := by
  constructor
  · intro read
    simp only [ofText?, Option.bind_eq_bind, Option.bind_eq_some_iff] at read
    obtain ⟨⟨year, _⟩, yearRead, ⟨month, _⟩, monthRead, ⟨day, _⟩, dayRead, made⟩ := read
    obtain ⟨yearText, rfl, isYear⟩ := exists_isYear_of_readYear? yearRead
    obtain ⟨monthText, rfl, isMonth⟩ := exists_isPart_of_readPart? monthRead
    obtain ⟨dayText, rfl, isDay⟩ := exists_isPart_of_readPart? dayRead
    split at made
    · rename_i complete
      obtain rfl := List.isEmpty_iff.1 complete
      unfold ofParts? at made
      split at made
      · obtain rfl := Option.some.inj made
        rw [List.append_nil]
        exact .parts isYear isMonth isDay
      · cases made
    · cases made
  · rintro ⟨isYear, isMonth, isDay⟩
    have hyphen : ∀ {rest : Text}, ∀ c ∈ ('-' :: rest).head?, c.isDigit = false := by
      rintro rest _ ⟨⟩
      rfl
    have last := readPart?_of_isPart isDay fun c (member : c ∈ [].head?) => by cases member
    rw [List.append_nil] at last
    simp [ofText?, readYear?_of_isYear isYear, readPart?_of_isPart isMonth hyphen, last,
      ofParts?_parts]

/-! ## White space around a date -/

/-- There is white space in front of a date, and none behind it. -/
def IsSetOff (s : Text) : Prop :=
  Text.trimEnd s = s ∧ ∃ date, IsSpelling date (Text.trim s)

/-- A gap without white space is empty. -/
theorem eq_nil_of_isGap {gap : Text} (white : Text.IsGap gap) (word : Text.isWord gap) :
    gap = [] := by
  refine List.eq_nil_iff_forall_not_mem.2 fun c member => ?_
  have dark := word c member
  rw [white c member] at dark
  cases dark

theorem trimEnd_of_isWord (word : Text.isWord s) : Text.trimEnd s = s := by
  induction s with
  | nil => rfl
  | cons c cs ih =>
      obtain ⟨dark, later⟩ := List.forall_mem_cons.1 word
      rw [Text.trimEnd_cons dark, ih later]

theorem trimEnd_append_of_isPart (h : IsPart text n) (front : Text) :
    Text.trimEnd (front ++ text) = front ++ text := by
  cases h with
  | @number gap digits _ isDigits _ =>
      have word := isWord_of_isDigits isDigits
      have written : ¬ Text.IsGap digits := by
        intro white
        obtain rfl := eq_nil_of_isGap white word
        cases isDigits
      rw [← List.append_assoc, Text.trimEnd_append_of_not_isGap _ written, trimEnd_of_isWord word]

/-- A date ends with the last digit of its day. -/
theorem trimEnd_of_isSpelling (spelled : IsSpelling date s) : Text.trimEnd s = s := by
  cases spelled with
  | @parts year month day _ _ isDay =>
      have ends := trimEnd_append_of_isPart isDay (year ++ '-' :: (month ++ ['-']))
      simpa using ends

theorem ofText?_trimStart (s : Text) : ofText? (Text.trimStart s) = ofText? s := by
  obtain ⟨gap, white, whole⟩ := Text.exists_append_trimStart s
  have same := readYear?_gap white (Text.trimStart s)
  rw [← whole] at same
  rw [ofText?, ofText?, same]

/-- White space in front of a date is passed over, and only there. -/
theorem exists_isSpelling_iff : (∃ date, IsSpelling date s) ↔ IsSetOff s := by
  have trimmed : Text.trimEnd s = s → Text.trim s = Text.trimStart s := by
    intro ends
    rw [Text.trim, ← Text.trimStart_trimEnd, ends]
  constructor
  · rintro ⟨date, spelled⟩
    have ends := trimEnd_of_isSpelling spelled
    refine ⟨ends, date, ?_⟩
    rwa [trimmed ends, ← ofText?_eq_some_iff, ofText?_trimStart, ofText?_eq_some_iff]
  · rintro ⟨ends, date, spelled⟩
    rw [trimmed ends, ← ofText?_eq_some_iff, ofText?_trimStart, ofText?_eq_some_iff] at spelled
    exact ⟨date, spelled⟩

/-! ## The format -/

/-- A day of the calendar in the format `YYYY-MM-DD`. -/
inductive IsCalendarText : Text → Prop
  | parts {year month day : Text}
      (isYear : Text.isDigits year = true) (yearLength : year.length = 4)
      (isMonth : Text.isDigits month = true) (monthLength : month.length = 2)
      (isDay : Text.isDigits day = true) (dayLength : day.length = 2)
      (inCalendar : IsDay (Text.digitsValue year) (Text.digitsValue month)
        (Text.digitsValue day)) :
      IsCalendarText (year ++ '-' :: (month ++ '-' :: day))

/-- The text has as many characters as the format, begins with a digit and has no white space. -/
def FillsFormat (s : Text) : Prop :=
  s.length = 10 ∧ (∀ c ∈ s.head?, c.isDigit = true) ∧ Text.isWord s

theorem fillsFormat_of_isCalendarText (h : IsCalendarText s) : FillsFormat s := by
  cases h with
  | @parts year month day isYear yearLength isMonth monthLength isDay dayLength inCalendar =>
      refine ⟨by simp [yearLength, monthLength, dayLength], ?_, ?_⟩
      · obtain ⟨c, cs, rfl⟩ := List.exists_cons_of_length_eq_add_one yearLength
        rintro _ ⟨⟩
        exact (Text.isDigits_iff.1 isYear).2 c List.mem_cons_self
      · have hyphen : Text.isWord ['-'] := by decide
        rw [← List.singleton_append, ← List.singleton_append (l := day), Text.isWord_append,
          Text.isWord_append, Text.isWord_append, Text.isWord_append]
        exact ⟨isWord_of_isDigits isYear, hyphen, isWord_of_isDigits isMonth, hyphen,
          isWord_of_isDigits isDay⟩

theorem IsPart.isDigits (h : IsPart text n) (word : Text.isWord text) :
    Text.isDigits text = true ∧ text.length ≤ 2 ∧ Text.digitsValue text = n := by
  cases h with
  | number white isDigits short =>
      obtain rfl := eq_nil_of_isGap white (Text.isWord_append.1 word).1
      exact ⟨isDigits, short, rfl⟩

theorem IsYear.isDigits (h : IsYear text year) (word : Text.isWord text)
    (unsigned : ∀ c ∈ text.head?, c.isDigit = true) :
    Text.isDigits text = true ∧ text.length ≤ 4 ∧ (Text.digitsValue text : Int) = year := by
  cases h with
  | unsigned white isDigits short =>
      obtain rfl := eq_nil_of_isGap white (Text.isWord_append.1 word).1
      exact ⟨isDigits, short, rfl⟩
  | positive white isDigits =>
      obtain rfl := eq_nil_of_isGap white (Text.isWord_append.1 word).1
      exact absurd (unsigned '+' rfl) (by decide)
  | negative white isDigits =>
      obtain rfl := eq_nil_of_isGap white (Text.isWord_append.1 word).1
      exact absurd (unsigned '-' rfl) (by decide)

/-- A spelling with all its ten characters can leave out no digit. -/
theorem isCalendarText_of_fillsFormat (spelled : IsSpelling date s) (fills : FillsFormat s) :
    IsCalendarText s := by
  obtain ⟨full, first, word⟩ := fills
  cases spelled with
  | @parts year month day isYear isMonth isDay =>
      rw [Text.isWord_append] at word
      obtain ⟨yearWord, laterWord⟩ := word
      have later : ∀ {a b : Text}, Text.isWord ('-' :: (a ++ b)) → Text.isWord a ∧ Text.isWord b :=
        fun h => Text.isWord_append.1 fun c member => h c (List.mem_cons_of_mem _ member)
      obtain ⟨monthWord, lastWord⟩ := later laterWord
      have dayWord := (later (a := []) lastWord).2
      have unsigned : ∀ c ∈ year.head?, c.isDigit = true := by
        intro c member
        exact first c (by rw [List.head?_append, Option.mem_def.1 member, Option.some_or]; rfl)
      obtain ⟨yearDigits, yearShort, yearValue⟩ := isYear.isDigits yearWord unsigned
      obtain ⟨monthDigits, monthShort, monthValue⟩ := isMonth.isDigits monthWord
      obtain ⟨dayDigits, dayShort, dayValue⟩ := isDay.isDigits dayWord
      simp only [List.length_append, List.length_cons] at full
      refine .parts yearDigits (by omega) monthDigits (by omega) dayDigits (by omega) ?_
      rw [yearValue, monthValue, dayValue]
      exact date.isDay

/-- A text in the format is read, and the day that it names is stamped as that text. -/
theorem exists_stamp_eq (h : IsCalendarText s) : ∃ date, IsSpelling date s ∧ date.stamp = s := by
  cases h with
  | @parts year month day isYear yearLength isMonth monthLength isDay dayLength inCalendar =>
      refine ⟨⟨_, _, _, inCalendar⟩, ?_, ?_⟩
      · have noGap : Text.IsGap [] := fun _ member => nomatch member
        exact .parts (.unsigned noGap isYear yearLength.le) (.number noGap isMonth monthLength.le)
          (.number noGap isDay dayLength.le)
      · have small : Text.digitsValue year < 10000 := by
          have bound := Text.digitsValue_lt (Text.isDigits_iff.1 isYear).2
          rw [yearLength] at bound
          exact bound
        have written : yearText (Text.digitsValue year) = year := by
          rw [yearText, if_neg (by omega), if_neg (by omega)]
          exact Text.ofNatPadded_digitsValue isYear yearLength
        simp only [stamp, written, Text.ofNatPadded_digitsValue isMonth monthLength,
          Text.ofNatPadded_digitsValue isDay dayLength, List.append_assoc, List.cons_append]

/-- A text is accepted just if it is a day in the format, and is shown then as it was given. -/
def IsReadAsWritten (s : Text) : Prop :=
  ((∃ date, Config.readDate (some s) = .ok (some date)) ↔ IsCalendarText s) ∧
    ∀ date, Config.readDate (some s) = .ok (some date) → date.stamp = s

theorem readDate_eq_ok_iff : Config.readDate (some s) = .ok (some date) ↔ IsSpelling date s := by
  rw [← ofText?_eq_some_iff]
  cases read : ofText? s <;> simp [Config.readDate, read]

theorem readDate_eq_error_iff :
    Config.readDate (some s) = .error (.invalidDate s) ↔ ∀ date, ¬ IsSpelling date s := by
  simp only [← ofText?_eq_some_iff]
  cases read : ofText? s <;> simp [Config.readDate, read]

/-- A date is given by any of its spellings and nothing else is one. Those that are shown as they
were given are the ones that fill the format. -/
theorem readDate_spelling_iff (s : Text) :
    (∀ date, Config.readDate (some s) = .ok (some date) ↔ IsSpelling date s) ∧
      (Config.readDate (some s) = .error (.invalidDate s) ↔ ∀ date, ¬ IsSpelling date s) ∧
      (IsReadAsWritten s ↔ ((∃ date, IsSpelling date s) → FillsFormat s)) := by
  refine ⟨fun date => readDate_eq_ok_iff, readDate_eq_error_iff, ?_⟩
  simp only [IsReadAsWritten, readDate_eq_ok_iff]
  constructor
  · rintro ⟨accepted, _⟩ spelled
    exact fillsFormat_of_isCalendarText (accepted.1 spelled)
  · intro fills
    have inFormat : ∀ date, IsSpelling date s → IsCalendarText s := fun date spelled =>
      isCalendarText_of_fillsFormat spelled (fills ⟨date, spelled⟩)
    refine ⟨⟨fun ⟨date, spelled⟩ => inFormat date spelled, fun calendar => ?_⟩, ?_⟩
    · obtain ⟨date, spelled, _⟩ := exists_stamp_eq calendar
      exact ⟨date, spelled⟩
    · intro date spelled
      obtain ⟨other, otherSpelled, stamped⟩ := exists_stamp_eq (inFormat date spelled)
      -- A text spells one date only, since the reader is a function.
      have same := (ofText?_eq_some_iff.2 spelled).symm.trans (ofText?_eq_some_iff.2 otherSpelled)
      rw [Option.some.inj same, stamped]

/-- A year without a sign may be short, and is filled up in the heading. -/
theorem not_forall_isReadAsWritten : ¬ ∀ s, IsReadAsWritten s := by
  intro claim
  have spelled : Config.readDate (some "24-1-5".toList) =
      .ok (some ⟨24, 1, 5, by decide⟩) := by decide +kernel
  have stamped := (claim "24-1-5".toList).2 _ spelled
  exact absurd stamped (by decide)

end Date
end ReleaseLog
