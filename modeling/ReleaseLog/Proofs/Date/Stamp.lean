import ReleaseLog.Proofs.Document.Entry
import ReleaseLog.Proofs.Text.Decimal
import ReleaseLog.Proofs.Text.Span

/-!
# Stamps are read back

A stamp is cut at its hyphens: the reader takes the digits of a year up to the hyphen behind them,
or four of them, and two digits of a month and of a day. Since a stamp is filled up with zeros to
just these widths, it gives the date back, for every year that a date can have.
-/

namespace ReleaseLog

variable {digits rest : Text} {c : Char} {n limit : Nat}

theorem Text.trimStart_append_of_isDigits (h : isDigits digits = true) :
    trimStart (digits ++ rest) = digits ++ rest := by
  have word := isWord_of_isDigits h
  cases digits with
  | nil => cases h
  | cons c cs => exact trimStart_cons (word c List.mem_cons_self)

namespace Date

/-- A reader of digits takes a row of them, if it may take no more or none follows. -/
theorem takeDigits_append (isDigit : ∀ c ∈ digits, c.isDigit = true)
    (stops : digits.length = limit ∨
      digits.length ≤ limit ∧ ∀ c ∈ rest.head?, c.isDigit = false) :
    takeDigits limit (digits ++ rest) = (digits, rest) := by
  induction digits generalizing limit with
  | nil =>
      cases limit with
      | zero => rfl
      | succ limit =>
          cases rest with
          | nil => rfl
          | cons c cs =>
              rcases stops with full | ⟨_, other⟩
              · cases full
              · simp [takeDigits, other c rfl]
  | cons c cs ih =>
      cases limit with
      | zero => simp at stops
      | succ limit =>
          have first := isDigit c List.mem_cons_self
          have later : takeDigits limit (cs ++ rest) = (cs, rest) := by
            apply ih fun d member => isDigit d (List.mem_cons_of_mem c member)
            simpa using stops
          simp [takeDigits, first, later]

theorem readNumber?_append (isDigits : Text.isDigits digits = true)
    (stops : digits.length = limit ∨
      digits.length ≤ limit ∧ ∀ c ∈ rest.head?, c.isDigit = false) :
    readNumber? limit (digits ++ rest) = some (Text.digitsValue digits, rest) := by
  obtain ⟨nonempty, isDigit⟩ := Text.isDigits_iff.1 isDigits
  obtain ⟨c, cs, rfl⟩ := List.exists_cons_of_ne_nil nonempty
  rw [readNumber?, takeDigits_append isDigit stops]

/-- A month or a day. -/
theorem readPart?_ofNatPadded (small : n < 100) :
    readPart? ('-' :: (Text.ofNatPadded 2 n ++ rest)) = some (n, rest) := by
  have digits := Text.isDigits_ofNatPadded 2 n
  have full : (Text.ofNatPadded 2 n).length = 2 := Text.length_ofNatPadded (by decide) small
  rw [readPart?, Text.trimStart_append_of_isDigits digits,
    readNumber?_append digits (.inl full), Text.digitsValue_ofNatPadded]

/-- A year without a sign is read like any number, of four digits at most. -/
theorem readYear?_append (isDigits : Text.isDigits digits = true)
    (stops : digits.length = 4 ∨ digits.length ≤ 4 ∧ ∀ c ∈ rest.head?, c.isDigit = false) :
    readYear? (digits ++ rest) = some ((Text.digitsValue digits : Int), rest) := by
  have read : readNumber? 4 (digits ++ rest) = some (Text.digitsValue digits, rest) :=
    readNumber?_append isDigits stops
  have unsigned : ∀ {sign : Char} {s : Text}, sign.isDigit = false →
      digits ++ rest ≠ sign :: s := by
    rintro sign s noDigit text
    cases digits with
    | nil => cases isDigits
    | cons c cs =>
        obtain rfl := (List.cons.inj text).1
        simp [Text.isDigits, noDigit] at isDigits
  rw [readYear?, Text.trimStart_append_of_isDigits isDigits]
  split
  · rename_i minus
    exact absurd minus (unsigned (by decide))
  · rename_i plus
    exact absurd plus (unsigned (by decide))
  · rw [read]
    rfl

theorem readYear?_yearText (year : Int) :
    readYear? (yearText year ++ '-' :: rest) = some (year, '-' :: rest) := by
  have digits := Text.isDigits_ofNatPadded 4 year.natAbs
  have stops : ∀ c ∈ ('-' :: rest).head?, c.isDigit = false := by
    rintro _ ⟨⟩
    rfl
  -- Behind a sign all digits belong to the year, and the hyphen ends them.
  have signed : readNumber? (Text.ofNatPadded 4 year.natAbs ++ '-' :: rest).length
      (Text.ofNatPadded 4 year.natAbs ++ '-' :: rest) = some (year.natAbs, '-' :: rest) := by
    rw [readNumber?_append digits (.inr ⟨by simp, stops⟩), Text.digitsValue_ofNatPadded]
  unfold yearText
  split
  · rw [List.cons_append, readYear?, Text.trimStart_cons (by decide)]
    simp only [signed, Option.map_some, Option.some.injEq, Prod.mk.injEq, and_true]
    omega
  · split
    · rw [List.cons_append, readYear?, Text.trimStart_cons (by decide)]
      simp only [signed, Option.map_some, Option.some.injEq, Prod.mk.injEq, and_true]
      omega
    · have small : year.natAbs < 10000 := by omega
      have full : (Text.ofNatPadded 4 year.natAbs).length = 4 :=
        Text.length_ofNatPadded (by decide) small
      rw [readYear?_append digits (.inl full), Text.digitsValue_ofNatPadded]
      simp only [Option.some.injEq, Prod.mk.injEq, and_true]
      omega

theorem stamp_ne_nil (date : Date) : date.stamp ≠ [] := by
  simp [stamp]

/-- Every date is read back from its stamp. -/
theorem ofText?_stamp (date : Date) : ofText? date.stamp = some date := by
  have month : date.month < 100 := by
    have := date.isDay.month_le
    omega
  have day : date.day < 100 := by
    have := date.isDay.day_le
    omega
  have last : readPart? ('-' :: Text.ofNatPadded 2 date.day) = some (date.day, []) := by
    rw [← List.append_nil (Text.ofNatPadded 2 date.day)]
    exact readPart?_ofNatPadded day
  have text : date.stamp = yearText date.year ++ '-' ::
      (Text.ofNatPadded 2 date.month ++ '-' :: Text.ofNatPadded 2 date.day) := by
    simp [stamp]
  rw [ofText?, text, readYear?_yearText]
  simp [readPart?_ofNatPadded month, last, ofParts?_parts]

end Date
end ReleaseLog
