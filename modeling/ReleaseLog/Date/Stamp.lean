import ReleaseLog.Date.Basic
import ReleaseLog.Text.Decimal

/-!
# Dates as text

A date is stamped as `YYYY-MM-DD`. A year beyond 9999 is written with `+`, a negative one with
`-`, each with four digits at least.

The reader is more liberal than the stamp: white space may stand before each of the three
numbers, a year without a sign may have fewer than four digits and one with a sign any number of
them, and month and day may have a single digit. Every stamp is read back as its date.
-/

namespace ReleaseLog
namespace Date

/-- The year of a stamp. -/
def yearText (year : Int) : Text :=
  if year < 0 then '-' :: Text.ofNatPadded 4 year.natAbs
  else if 9999 < year then '+' :: Text.ofNatPadded 4 year.natAbs
  else Text.ofNatPadded 4 year.natAbs

/-- The date as a release heading shows it. -/
def stamp (date : Date) : Text :=
  yearText date.year ++ '-' :: Text.ofNatPadded 2 date.month ++
    '-' :: Text.ofNatPadded 2 date.day

/-- A text cut behind the decimal digits that it begins with, at most `limit` of them. -/
def takeDigits : Nat → Text → Text × Text
  | limit + 1, c :: cs =>
      if c.isDigit then
        let (digits, rest) := takeDigits limit cs
        (c :: digits, rest)
      else ([], c :: cs)
  | _, s => ([], s)

/-- A number of at least one digit and at most `limit`, and what follows it. -/
def readNumber? (limit : Nat) (s : Text) : Option (Nat × Text) :=
  match takeDigits limit s with
  | ([], _) => none
  | (digits, rest) => some (Text.digitsValue digits, rest)

/-- A year and what follows it: four digits at most, or any number of them behind a sign. -/
def readYear? (s : Text) : Option (Int × Text) :=
  match Text.trimStart s with
  | '-' :: s => (readNumber? s.length s).map fun (n, rest) => (-(n : Int), rest)
  | '+' :: s => (readNumber? s.length s).map fun (n, rest) => ((n : Int), rest)
  | s => (readNumber? 4 s).map fun (n, rest) => ((n : Int), rest)

/-- A hyphen and the month or the day behind it, and what follows. -/
def readPart? : Text → Option (Nat × Text)
  | '-' :: s => readNumber? 2 (Text.trimStart s)
  | _ => none

/-- The date that a text gives. -/
def ofText? (s : Text) : Option Date := do
  let (year, s) ← readYear? s
  let (month, s) ← readPart? s
  let (day, s) ← readPart? s
  if s.isEmpty then ofParts? year month day else none

end Date
end ReleaseLog
